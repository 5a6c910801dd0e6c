import IiifImage.Lazy.Invariant

/-!
# Failing calls of the lazy image

A call that throws should leave an image whose header describes its data and that shows
what it showed before.  The data is assigned before its header is known to be readable, so
this depends on the data that the native functions return.
-/

namespace IiifImage

open Java TurboJpeg

namespace TurboJpeg.Natives

variable {δ : Type} (natives : Natives δ)

/-- If the data starts like a JPEG file its header can be read. -/
def Readable (data : δ) : Prop :=
  natives.Marked data → ∃ header, natives.decompressHeader data = .ok header

/-- A notion of what data shows after a transform, according to which the native function
carries the transform out. -/
structure Rendering (ι : Type) where
  render : δ → TJTransform → ι
  render_transform : ∀ data t out, natives.transform data t = .ok out →
    render out {} = render data t

end TurboJpeg.Natives

namespace JpegImage

variable {δ ι : Type} {natives : Natives δ} {image : JpegImage δ}

def setTransformOptions (transformOptions : TJTransform) : Method Throwable (JpegImage δ) Unit :=
  modify fun image => { image with transformOptions := transformOptions }

/-- The calls of all public methods. -/
inductive PublicCall (δ : Type) where
  | setImageData (data : δ)
  | setTransformOptions (transformOptions : TJTransform)
  | process (call : Call)

def PublicCall.method (natives : Natives δ) :
    PublicCall δ → Method Throwable (JpegImage δ) Unit
  | setImageData data => JpegImage.setImageData natives data
  | setTransformOptions transformOptions => JpegImage.setTransformOptions transformOptions
  | process call => call.method natives

/-- The header is that of the data. -/
def Describes (natives : Natives δ) (image : JpegImage δ) : Prop :=
  natives.decompressHeader image.imgData = .ok image.decomp

/-- What the image shows once the pending transform is applied. -/
def shows (rendering : natives.Rendering ι) (image : JpegImage δ) : ι :=
  rendering.render image.imgData image.transformOptions

/-- The header describes the data at the end, and a failure has not changed what the image
shows. -/
def Safe (rendering : natives.Rendering ι) (image : JpegImage δ) :
    EStateM.Result Throwable (JpegImage δ) Unit → Prop
  | .ok _ final => final.Describes natives
  | .error _ final => final.Describes natives ∧ final.shows rendering = image.shows rendering

/-! ## The condition -/

/-- If the native transform is reached, its output can be read. -/
def TransformReadable (natives : Natives δ) (image : JpegImage δ) : Prop :=
  destinationFits image.decomp image.transformOptions →
    ∀ out, natives.transform image.imgData image.transformOptions = .ok out →
      natives.Readable out

/-- The data that `downScale` hands to the scaler. -/
def Flushes (natives : Natives δ) (image : JpegImage δ) (data : δ) : Prop :=
  if image.Pending then
    destinationFits image.decomp image.transformOptions ∧
      natives.transform image.imgData image.transformOptions = .ok data ∧ natives.Marked data
  else data = image.imgData

/-- All data that the call assigns can be read. -/
def Allows (natives : Natives δ) : PublicCall δ → JpegImage δ → Prop
  | .setImageData data, _ => natives.Readable data
  | .process .transform, image => image.TransformReadable natives
  | .process (.downScale width height quality), image =>
      (image.Pending → image.TransformReadable natives) ∧
        ∀ data header, image.Flushes natives data → natives.decompressHeader data = .ok header →
          (1 ≤ (width : ℤ) ∧ width ≤ header.width) ∧ 1 ≤ (height : ℤ) ∧ height ≤ header.height →
          ∀ scaled, natives.downScaleJpegImage data width height quality = .ok scaled →
            natives.Readable scaled
  | _, _ => True

/-! ## One call -/

section Steps

variable {rendering : natives.Rendering ι}

theorem safe_setImageData {data : δ} (describes : image.Describes natives)
    (readable : natives.Readable data) :
    Safe rendering image (EStateM.run (setImageData natives data) image) := by
  have replaced := setImageData_replaced natives image data
  revert replaced
  generalize EStateM.run (setImageData natives data) image = result
  intro replaced
  cases replaced with
  | returned marked parsed => exact parsed
  | unparsed marked thrown =>
      rcases readable marked with ⟨header, parsed⟩
      rw [parsed] at thrown
      cases thrown
  | refused exception unmarked => exact ⟨describes, rfl⟩

theorem safe_transform (describes : image.Describes natives)
    (readable : image.TransformReadable natives) :
    Safe rendering image (EStateM.run (transform natives) image) := by
  by_cases fits : destinationFits image.decomp image.transformOptions
  · have transformed := transform_transformed natives image
    revert transformed
    generalize EStateM.run (transform natives) image = result
    intro transformed
    cases transformed with
    | returned written marked parsed => exact parsed
    | unparsed written marked thrown =>
        rcases readable fits _ written marked with ⟨header, parsed⟩
        rw [parsed] at thrown
        cases thrown
    | refused exception => exact ⟨describes, rfl⟩
  · rcases run_transform_of_not_fits describes fits with ⟨exception, thrown, -⟩
    rw [thrown]
    exact ⟨describes, rfl⟩

/-- A flush that returns has handed the pending transform over to the data. -/
theorem flushes_of_flushed {after : JpegImage δ} (rendering : natives.Rendering ι)
    (describes : image.Describes natives)
    (flushed : EStateM.run (flush natives) image = .ok () after) :
    image.Flushes natives after.imgData ∧ after.shows rendering = image.shows rendering := by
  rw [Flushes]
  split
  next pending =>
    rw [run_flush_of_pending pending] at flushed
    have fits : destinationFits image.decomp image.transformOptions := by
      by_contra misfit
      rcases run_transform_of_not_fits describes misfit with ⟨exception, thrown, -⟩
      rw [flushed] at thrown
      cases thrown
    have transformed := transform_transformed natives image
    rw [flushed] at transformed
    cases transformed with
    | returned written marked parsed =>
        exact ⟨⟨fits, written, marked⟩, rendering.render_transform _ _ _ written⟩
  next idle =>
    rw [run_flush_of_not_pending idle] at flushed
    cases flushed
    exact ⟨rfl, rfl⟩

theorem safe_flush (describes : image.Describes natives)
    (readable : image.Pending → image.TransformReadable natives) :
    Safe rendering image (EStateM.run (flush natives) image) := by
  by_cases pending : image.Pending
  · rw [run_flush_of_pending pending]
    exact safe_transform describes (readable pending)
  · rw [run_flush_of_not_pending pending]
    exact describes

theorem Safe.of_shows {after : JpegImage δ} {result : EStateM.Result Throwable (JpegImage δ) Unit}
    (safe : Safe rendering after result) (same : after.shows rendering = image.shows rendering) :
    Safe rendering image result := by
  cases result with
  | ok value final => exact safe
  | error exception final => exact ⟨safe.1, safe.2.trans same⟩

/-- After the flush only the scaled data can go wrong. -/
theorem safe_downScale {width height quality : IntValue} (describes : image.Describes natives)
    (allows : Allows natives (.process (.downScale width height quality)) image) :
    Safe rendering image (EStateM.run (downScale natives width height quality) image) := by
  have safe : Safe rendering image (EStateM.run (flush natives) image) :=
    safe_flush describes allows.1
  cases ended : EStateM.run (flush natives) image with
  | error exception after =>
      rw [ended] at safe
      rw [run_downScale_of_failed ended]
      exact safe
  | ok value after =>
      rw [ended] at safe
      rcases flushes_of_flushed rendering describes ended with ⟨flushes, same⟩
      by_cases accepts : after.Accepts width height
      · rw [run_downScale_of_accepted ended accepts]
        cases scaler : natives.downScaleJpegImage after.imgData width height quality with
        | error exception => exact ⟨safe, same⟩
        | ok scaled =>
            rw [Method.run_ofExcept_ok_bind]
            have delivers := allows.2 _ _ flushes safe accepts _ scaler
            exact (safe_setImageData safe delivers).of_shows same
      · rcases run_downScale_of_rejected ended accepts quality with ⟨message, rejected⟩
        rw [rejected]
        exact ⟨safe, same⟩

/-- A call that assigns only readable data is safe. -/
theorem safe_call (rendering : natives.Rendering ι) {call : PublicCall δ}
    (describes : image.Describes natives) (allows : Allows natives call image) :
    Safe rendering image (EStateM.run (call.method natives) image) := by
  cases call with
  | setImageData data => exact safe_setImageData describes allows
  | setTransformOptions t => exact describes
  | process call =>
      cases call with
      | rotate angle =>
          change Safe rendering image (EStateM.run (rotate (angle : ℤ)) image)
          rw [rotate]
          split
          · exact ⟨describes, rfl⟩
          split
          · exact describes
          split
          · exact describes
          split
          · exact describes
          · exact describes
      | crop x y width height =>
          change Safe rendering image (EStateM.run (crop (x : ℤ) y width height) image)
          rcases run_crop_cases image x y width height with returned | ⟨message, refused⟩
          · rw [returned]
            exact describes
          · rw [refused]
            exact ⟨describes, rfl⟩
      | downScale width height quality => exact safe_downScale describes allows
      | transform => exact safe_transform describes allows
      | flipHorizontal => exact describes
      | flipVertical => exact describes
      | transpose => exact describes
      | transverse => exact describes
      | toGrayscale => exact describes

/-! ### The condition is the weakest one -/

theorem run_transform_of_written {out : δ} (describes : image.Describes natives)
    (fits : destinationFits image.decomp image.transformOptions)
    (written : natives.transform image.imgData image.transformOptions = .ok out)
    (marked : natives.Marked out) :
    (∃ header, natives.decompressHeader out = .ok header ∧
      EStateM.run (transform natives) image = .ok () ⟨header, {}, out⟩) ∨
    ∃ exception, natives.decompressHeader out = .error exception ∧
      EStateM.run (transform natives) image = .error exception { image with imgData := out } := by
  rw [run_transform_of_fits describes fits, written, Method.run_ofExcept_ok_bind, setImageData,
    marked]
  cases natives.decompressHeader out with
  | ok header => exact .inl ⟨header, rfl, rfl⟩
  | error exception => exact .inr ⟨exception, rfl, rfl⟩

theorem readable_of_safe_transform (describes : image.Describes natives)
    (safe : Safe rendering image (EStateM.run (transform natives) image)) :
    image.TransformReadable natives := by
  intro fits out written marked
  rcases run_transform_of_written describes fits written marked with
    ⟨header, parsed, -⟩ | ⟨exception, unparsed, thrown⟩
  · exact ⟨header, parsed⟩
  · rw [thrown] at safe
    exact ⟨_, safe.1⟩

theorem readable_of_safe_setImageData {before : JpegImage δ} {data : δ}
    (safe : Safe rendering before (EStateM.run (setImageData natives data) image)) :
    natives.Readable data := by
  intro marked
  cases parsed : natives.decompressHeader data with
  | ok header => exact ⟨header, rfl⟩
  | error exception =>
      rw [setImageData, marked, parsed] at safe
      exact ⟨_, parsed.symm.trans safe.1⟩

theorem flushed_of_flushes {data : δ} {header : Header} (describes : image.Describes natives)
    (flushes : image.Flushes natives data) (parsed : natives.decompressHeader data = .ok header) :
    ∃ after, EStateM.run (flush natives) image = .ok () after ∧ after.imgData = data ∧
      after.decomp = header := by
  rw [Flushes] at flushes
  split at flushes
  next pending =>
    rcases flushes with ⟨fits, written, marked⟩
    rw [run_flush_of_pending pending]
    rcases run_transform_of_written describes fits written marked with
      ⟨header', parsed', returned⟩ | ⟨exception, unparsed, -⟩
    · rw [parsed] at parsed'
      cases parsed'
      exact ⟨_, returned, rfl, rfl⟩
    · rw [parsed] at unparsed
      cases unparsed
  next idle =>
    subst flushes
    have same := describes.symm.trans parsed
    cases same
    exact ⟨image, run_flush_of_not_pending idle, rfl, rfl⟩

theorem allows_of_safe_downScale {width height quality : IntValue}
    (describes : image.Describes natives)
    (safe : Safe rendering image
      (EStateM.run (downScale natives width height quality) image)) :
    Allows natives (.process (.downScale width height quality)) image := by
  constructor
  · intro pending fits out written marked
    rcases run_transform_of_written describes fits written marked with
      ⟨header, parsed, -⟩ | ⟨exception, unparsed, thrown⟩
    · exact ⟨header, parsed⟩
    · rw [← run_flush_of_pending pending] at thrown
      rw [run_downScale_of_failed thrown] at safe
      exact ⟨_, safe.1⟩
  · intro data header flushes parsed accepts scaled scaler
    rcases flushed_of_flushes describes flushes parsed with ⟨after, flushed, rfl, rfl⟩
    rw [run_downScale_of_accepted flushed accepts, scaler, Method.run_ofExcept_ok_bind] at safe
    exact readable_of_safe_setImageData safe

/-- On an image whose header is right, a call is safe exactly if the data that it assigns
can be read. -/
theorem safe_call_iff (rendering : natives.Rendering ι) {call : PublicCall δ}
    (describes : image.Describes natives) :
    Safe rendering image (EStateM.run (call.method natives) image) ↔
      Allows natives call image := by
  constructor
  · intro safe
    cases call with
    | setImageData data => exact readable_of_safe_setImageData safe
    | setTransformOptions t => trivial
    | process call =>
        cases call with
        | downScale width height quality => exact allows_of_safe_downScale describes safe
        | transform => exact readable_of_safe_transform describes safe
        | rotate => trivial
        | crop => trivial
        | flipHorizontal => trivial
        | flipVertical => trivial
        | transpose => trivial
        | transverse => trivial
        | toGrayscale => trivial
  · exact safe_call rendering describes

/-- The header describes the data after every such call. -/
theorem describes_call {call : PublicCall δ} (describes : image.Describes natives)
    (allows : Allows natives call image) :
    ((call.method natives).after image).Describes natives := by
  -- any rendering will do here
  have safe := safe_call ⟨fun _ _ => (), fun _ _ _ _ => rfl⟩ describes allows
  rw [Method.after]
  cases ended : EStateM.run (call.method natives) image with
  | ok value final =>
      rw [ended] at safe
      exact safe
  | error exception final =>
      rw [ended] at safe
      exact safe.1

end Steps

/-! ## Any sequence of calls -/

theorem describes_of_create {data : δ} (created : create natives data = .ok image) :
    image.Describes natives :=
  (consistent_of_create created).describes

/-- In a run in which all data that is assigned can be read, the header describes the data
in every state, and the next call leaves such an image, and if it throws what the image
shows, exactly if the data that it assigns can be read. -/
theorem failure_keeps_image {data : δ} (rendering : natives.Rendering ι)
    (created : create natives data = .ok image) {calls : List (PublicCall δ)}
    (allowed : Method.Allowed (PublicCall.method natives) (Allows natives) calls image)
    (call : PublicCall δ) :
    let state := Method.afterAll (PublicCall.method natives) calls image
    state.Describes natives ∧
      (Safe rendering state (EStateM.run (call.method natives) state) ↔
        Allows natives call state) := by
  have describes : (Method.afterAll (PublicCall.method natives) calls image).Describes natives :=
    Method.afterAll_of_allowed (fun _ _ allows describes => describes_call describes allows)
      allowed (describes_of_create created)
  exact ⟨describes, safe_call_iff rendering describes⟩

/-! ## Decoded images -/

section Decoded

variable {α : Type}

/-- The pixels that a transform selects. -/
def pixels (luma : α → α) (jpeg : Jpeg α) (t : TJTransform) : Except Throwable (Raster α) := do
  let selected ← (jpeg.turned t.op.orientation).selectArea t
  let adjusted ← Jpeg.adjustParameters luma selected t
  return adjusted.raster

theorem pixels_uncropped (luma : α → α) (jpeg : Jpeg α) {t : TJTransform}
    (uncropped : t.hasCrop = false) (colored : t.hasGray = false) :
    pixels luma jpeg t = .ok (t.op.orientation • jpeg.raster) := by
  rcases Jpeg.adjustParameters_colored luma (jpeg.turned t.op.orientation) colored with
    ⟨adjusted, unchanged, raster, -⟩
  rw [pixels, Jpeg.selectArea_uncropped uncropped, Method.except_ok_bind, unchanged,
    Method.except_ok_bind, raster]
  rfl

/-- What decoded data shows are its pixels. -/
def rendering (luma : α → α) (scaler : Scaler α) :
    (library luma scaler).Rendering (Except Throwable (Raster α)) where
  render := pixels luma
  render_transform jpeg t out written := by
    have transformed : jpeg.tjTransform luma t = .ok out := written
    cases typed : jpeg.getSubsamp with
    | none =>
        rw [Jpeg.tjTransform, typed] at transformed
        cases transformed
    | some subsamp =>
        rw [Jpeg.tjTransform_eq typed, Method.except_bind_eq_ok] at transformed
        rcases transformed with ⟨selected, area, adjusted⟩
        rw [pixels_uncropped luma out (TJTransform.hasCrop_of_no_options rfl)
          (TJTransform.hasGray_of_no_options rfl), TJOp.orientation_none, one_smul, pixels, area,
          Method.except_ok_bind, adjusted]
        rfl

open JpegTranImage (squareJpeg) in
/-- A crop over the edge is refused on top of a pending rotation, which the image still
shows. -/
theorem failure_keeps_image_square :
    let image := Method.afterAll (PublicCall.method (library id Scaler.nearest))
      [.process (.rotate ⟨90, by decide⟩)] (holding (squareJpeg .samp444) .samp444 {})
    image.Describes (library id Scaler.nearest) ∧
      Safe (rendering id Scaler.nearest) image (EStateM.run (crop 8 8 32 32) image) := by
  have created : create (library id Scaler.nearest) (squareJpeg .samp444) =
      .ok (holding (squareJpeg .samp444) .samp444 {}) := rfl
  have allowed : Method.Allowed (PublicCall.method (library id Scaler.nearest))
      (Allows (library id Scaler.nearest)) [.process (.rotate ⟨90, by decide⟩)]
      (holding (squareJpeg .samp444) .samp444 {}) := ⟨trivial, trivial⟩
  rcases failure_keeps_image (rendering id Scaler.nearest) created allowed
    (.process (.crop ⟨8, by decide⟩ ⟨8, by decide⟩ ⟨32, by decide⟩ ⟨32, by decide⟩)) with
    ⟨describes, safe_iff⟩
  exact ⟨describes, safe_iff.mpr trivial⟩

theorem wideSampled_wide : 0 < 32 := by decide

theorem wideSampled_tall : 0 < 8 := by decide

theorem wideSampled_narrow : 32 ≤ maxDimension := by decide

theorem wideSampled_low : 8 ≤ maxDimension := by decide

/-- A file with 4:1:1 subsampling. -/
def wideSampled : Jpeg (ℕ × ℕ) :=
  Jpeg.labelled 32 8 .samp411 wideSampled_wide wideSampled_tall wideSampled_narrow wideSampled_low

/-- The native side rotates the file, but the result has no subsampling that can be read.
The rotated data stays assigned, with the header of the original and the rotation still
pending. -/
theorem transform_fails_halfway :
    let image := Method.afterAll (PublicCall.method (library id Scaler.nearest))
      [.process (.rotate ⟨90, by decide⟩)] (holding wideSampled .samp411 {})
    create (library id Scaler.nearest) wideSampled = .ok (holding wideSampled .samp411 {}) ∧
    ∃ message final,
      EStateM.run (JpegImage.transform (library id Scaler.nearest)) image =
        .error (.tj message) final ∧
      ¬final.Describes (library id Scaler.nearest) ∧
      final.shows (rendering id Scaler.nearest) ≠ image.shows (rendering id Scaler.nearest) := by
  intro image
  have typed : wideSampled.getSubsamp = some .samp411 := Jpeg.getSubsamp_labelled _ _ _ _ _
  have colored : image.transformOptions.hasGray = false := TJTransform.hasGray_of_no_options rfl
  have uncropped : image.transformOptions.hasCrop = false := TJTransform.hasCrop_of_no_options rfl
  rcases Jpeg.tjTransform_uncropped id typed uncropped colored with
    ⟨out, transformed, raster, subsamp⟩
  have untyped : out.getSubsamp = none := subsamp
  have fits : destinationFits image.decomp image.transformOptions := by decide
  have written : (library id Scaler.nearest).transform image.imgData image.transformOptions =
      .ok out := transformed
  rcases run_setImageData_undetermined id Scaler.nearest image untyped with ⟨message, unread⟩
  refine ⟨create_library typed, message, { image with imgData := out }, ?_, ?_, ?_⟩
  · rw [run_transform_of_fits (decompressHeader_library typed) fits, written,
      Method.run_ofExcept_ok_bind, Method.run_bind_error unread]
  · intro describes
    simp [Describes, library, Jpeg.decompressHeader, untyped] at describes
  · have before : image.shows (rendering id Scaler.nearest) =
        .ok (image.transformOptions.op.orientation • wideSampled.raster) :=
      pixels_uncropped id wideSampled uncropped colored
    have after : shows (rendering id Scaler.nearest) { image with imgData := out } =
        .ok (image.transformOptions.op.orientation • out.raster) :=
      pixels_uncropped id out uncropped colored
    rw [before, after, raster]
    intro same
    have widths := congrArg Raster.width (Except.ok.inj same)
    rw [Raster.width_smul, Raster.height_smul, Raster.width_smul] at widths
    exact absurd widths (by decide)

end Decoded

end JpegImage

end IiifImage
