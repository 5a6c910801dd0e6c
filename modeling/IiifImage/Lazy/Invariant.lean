import IiifImage.Backend.Scaling
import IiifImage.Lazy.Steps
import IiifImage.Regions.Lossless

/-!
# The invariant of the lazy image

`crop` sets an option that the native side reads, while `downScale` looks at the bounds to
find out whether a crop is pending.  The two agree in every reachable state, and the bounds
fit in the image that the header describes.
-/

namespace IiifImage.JpegImage

open Java TurboJpeg

variable {δ : Type} {natives : Natives δ} {image : JpegImage δ}

/-- The representation invariant. -/
structure Consistent (natives : Natives δ) (image : JpegImage δ) : Prop where
  crop_iff : image.transformOptions.hasCrop = true ↔ image.transformOptions.isEmpty = false
  inside : image.transformOptions.isEmpty = false →
    (0 ≤ image.transformOptions.x ∧ 0 ≤ image.transformOptions.y) ∧
      (1 ≤ image.transformOptions.width ∧ 1 ≤ image.transformOptions.height) ∧
      image.transformOptions.x + image.transformOptions.width ≤ image.getWidth ∧
      image.transformOptions.y + image.transformOptions.height ≤ image.getHeight
  describes : natives.decompressHeader image.imgData = .ok image.decomp

/-- Without a pending transform only the header has to be right. -/
theorem consistent_of_idle (idle : image.transformOptions = {})
    (describes : natives.decompressHeader image.imgData = .ok image.decomp) :
    Consistent natives image where
  crop_iff := by
    rw [idle]
    decide
  inside := by
    rw [idle]
    intro nonempty
    cases nonempty
  describes := describes

theorem consistent_of_create {data : δ} (created : create natives data = .ok image) :
    Consistent natives image := by
  rcases made_of_create created with ⟨header, parsed, rfl⟩
  exact consistent_of_idle rfl parsed

/-! ## One call -/

theorem preserves_setOp (op : TJOp) :
    Method.Preserves (Consistent natives) (setOp (δ := δ) op) := by
  intro image consistent
  exact ⟨consistent.crop_iff, consistent.inside, consistent.describes⟩

theorem preserves_toGrayscale : Method.Preserves (Consistent natives) (toGrayscale (δ := δ)) := by
  intro image consistent
  refine ⟨?_, consistent.inside, consistent.describes⟩
  have same : (image.transformOptions.addOption optGray).hasCrop = true ↔
      image.transformOptions.isEmpty = false := by
    rw [TJTransform.hasCrop_addOption_gray]
    exact consistent.crop_iff
  exact same

theorem preserves_rotate (angle : ℤ) :
    Method.Preserves (Consistent natives) (rotate (δ := δ) angle) := by
  rw [rotate]
  exact .ite (.throw _) (.ite (preserves_setOp _) (.ite (preserves_setOp _)
    (.ite (preserves_setOp _) (.pure _))))

/-- A crop that returns has recorded bounds inside the image together with the option. -/
theorem preserves_crop (x y width height : IntValue) :
    Method.Preserves (Consistent natives) (crop (δ := δ) x y width height) := by
  intro image consistent
  rcases run_crop_cases image x y width height with returned | ⟨message, refused⟩
  · rw [Method.after_of_ok returned]
    rcases (run_crop_eq_ok_iff x.2.2 y.2.2).mp returned with ⟨offsets, ⟨wide, tall⟩, ends, -⟩
    have nonempty : (image.cropped x y width height).transformOptions.isEmpty = false := by
      rw [TJTransform.isEmpty, decide_eq_false_iff_not]
      change ¬((width : ℤ) ≤ 0 ∨ (height : ℤ) ≤ 0)
      omega
    exact ⟨iff_of_true (TJTransform.hasCrop_addOption_crop _) nonempty,
      fun _ => ⟨offsets, ⟨wide, tall⟩, ends⟩, consistent.describes⟩
  · rw [Method.after_of_error refused]
    exact consistent

theorem preserves_transform (decodes : natives.Decodes) :
    Method.Preserves (Consistent natives) (transform natives) := by
  intro image consistent
  have transformed := transform_transformed natives image
  rw [Method.after]
  cases ended : EStateM.run (transform natives) image with
  | ok value after =>
      rw [ended] at transformed
      cases transformed with
      | returned written marked parsed => exact consistent_of_idle rfl parsed
  | error exception after =>
      rw [ended] at transformed
      cases transformed with
      | unparsed written marked thrown =>
          rcases (decodes.transform _ _ _ written).2 with ⟨header, parsed⟩
          rw [parsed] at thrown
          cases thrown
      | refused exception => exact consistent

theorem preserves_flush (decodes : natives.Decodes) :
    Method.Preserves (Consistent natives) (flush natives) := by
  intro image consistent
  by_cases pending : image.Pending
  · rw [Method.after, run_flush_of_pending pending]
    exact preserves_transform decodes image consistent
  · rw [Method.after_of_ok (run_flush_of_not_pending pending)]
    exact consistent

/-- A flush that returns leaves nothing to flush. -/
theorem not_pending_of_flushed {after : JpegImage δ}
    (flushed : EStateM.run (flush natives) image = .ok () after) : ¬after.Pending := by
  by_cases pending : image.Pending
  · have transformed := transform_transformed natives image
    rw [run_flush_of_pending pending] at flushed
    rw [flushed] at transformed
    cases transformed
    intro pending'
    rcases pending' with op | nonempty
    · exact op rfl
    · cases nonempty
  · rw [run_flush_of_not_pending pending] at flushed
    cases flushed
    exact pending

/-- Without a pending crop the data can be replaced by an image of other dimensions. -/
theorem consistent_withData {data : δ} {header : Header} (consistent : Consistent natives image)
    (idle : ¬image.Pending) (parsed : natives.decompressHeader data = .ok header) :
    Consistent natives (image.withData data header) where
  crop_iff := consistent.crop_iff
  inside := fun nonempty => absurd (.inr nonempty) idle
  describes := parsed

theorem run_downScale_of_scaled (decodes : natives.Decodes) {after : JpegImage δ}
    {width height quality : ℤ} {scaled : δ}
    (flushed : EStateM.run (flush natives) image = .ok () after)
    (accepts : after.Accepts width height)
    (scaler : natives.downScaleJpegImage after.imgData width height quality = .ok scaled) :
    ∃ header, natives.decompressHeader scaled = .ok header ∧
      EStateM.run (downScale natives width height quality) image =
        .ok () (after.withData scaled header) := by
  rw [run_downScale_of_accepted flushed accepts, scaler, Method.run_ofExcept_ok_bind]
  exact run_setImageData_of_decodable (decodes.downScaleJpegImage _ _ _ _ _ scaler) after

theorem preserves_downScale (decodes : natives.Decodes) (width height quality : ℤ) :
    Method.Preserves (Consistent natives) (downScale natives width height quality) := by
  intro image consistent
  have kept := preserves_flush decodes image consistent
  cases ended : EStateM.run (flush natives) image with
  | error exception after =>
      rw [Method.after_of_error ended] at kept
      rw [Method.after_of_error (run_downScale_of_failed ended width height quality)]
      exact kept
  | ok value after =>
      rw [Method.after_of_ok ended] at kept
      by_cases accepts : after.Accepts width height
      · cases scaler : natives.downScaleJpegImage after.imgData width height quality with
        | error exception =>
            rw [Method.after, run_downScale_of_accepted ended accepts, scaler]
            exact kept
        | ok scaled =>
            rcases run_downScale_of_scaled decodes ended accepts scaler with
              ⟨header, parsed, returned⟩
            rw [Method.after_of_ok returned]
            exact consistent_withData kept (not_pending_of_flushed ended) parsed
      · rcases run_downScale_of_rejected ended accepts quality with ⟨message, rejected⟩
        rw [Method.after_of_error rejected]
        exact kept

theorem preserves_call (decodes : natives.Decodes) (call : Call) :
    Method.Preserves (Consistent natives) (call.method natives) := by
  cases call with
  | rotate angle => exact preserves_rotate angle
  | flipHorizontal => exact preserves_setOp .hflip
  | flipVertical => exact preserves_setOp .vflip
  | transpose => exact preserves_setOp .transpose
  | transverse => exact preserves_setOp .transverse
  | crop x y width height => exact preserves_crop x y width height
  | toGrayscale => exact preserves_toGrayscale
  | downScale width height quality => exact preserves_downScale decodes width height quality
  | transform => exact preserves_transform decodes

/-! ## Any sequence of calls -/

theorem consistent_afterAll {data : δ} (decodes : natives.Decodes)
    (created : create natives data = .ok image) (calls : List Call) :
    Consistent natives (Method.afterAll (Call.method natives) calls image) :=
  Method.afterAll_of_keeps (preserves_call decodes) calls (consistent_of_create created)

/-! ## What downscaling does in a consistent state -/

/-- A geometric operation is pending. -/
def Geometric (image : JpegImage δ) : Prop :=
  image.transformOptions.op ≠ .none ∨ image.transformOptions.hasCrop = true

theorem Consistent.geometric_iff (consistent : Consistent natives image) :
    image.Geometric ↔ image.Pending :=
  or_congr_right consistent.crop_iff

/-- The image before the call is flushed exactly if a geometric operation is pending, and
a target is rejected exactly if it does not fit in the flushed image. -/
structure DownScales (natives : Natives δ) (image : JpegImage δ) (width height quality : ℤ) :
    Prop where
  flush_pending : image.Geometric →
    EStateM.run (flush natives) image = EStateM.run (transform natives) image
  flush_idle : ¬image.Geometric → EStateM.run (flush natives) image = .ok () image
  failed : ∀ exception after, EStateM.run (flush natives) image = .error exception after →
    EStateM.run (downScale natives width height quality) image = .error exception after
  flushed : ∀ after, EStateM.run (flush natives) image = .ok () after →
    ¬after.Geometric ∧ natives.decompressHeader after.imgData = .ok after.decomp ∧
      (image.Geometric →
        natives.transform image.imgData image.transformOptions = .ok after.imgData)
  accepted : ∀ after, EStateM.run (flush natives) image = .ok () after →
    after.Accepts width height →
    EStateM.run (downScale natives width height quality) image = EStateM.run (do
      let scaled ← Method.ofExcept
        (natives.downScaleJpegImage after.imgData width height quality)
      setImageData natives scaled) after
  rejected : ∀ after, EStateM.run (flush natives) image = .ok () after →
    ¬after.Accepts width height → ∃ message,
      EStateM.run (downScale natives width height quality) image =
        .error (.illegalArgument message) after
  /-- If the scaler does not throw that exception itself. -/
  rejects_iff : ∀ after, EStateM.run (flush natives) image = .ok () after →
    (∀ message, natives.downScaleJpegImage after.imgData width height quality ≠
      .error (.illegalArgument message)) →
    ((∃ message final, EStateM.run (downScale natives width height quality) image =
      .error (.illegalArgument message) final) ↔ ¬after.Accepts width height)

theorem Consistent.downScales (consistent : Consistent natives image) (decodes : natives.Decodes)
    (width height quality : ℤ) : DownScales natives image width height quality where
  flush_pending geometric := run_flush_of_pending (consistent.geometric_iff.mp geometric)
  flush_idle idle := run_flush_of_not_pending fun pending =>
    idle (consistent.geometric_iff.mpr pending)
  failed exception after failed := run_downScale_of_failed failed width height quality
  flushed after flushed := by
    have kept := preserves_flush decodes image consistent
    rw [Method.after_of_ok flushed] at kept
    refine ⟨?_, kept.describes, ?_⟩
    · rw [kept.geometric_iff]
      exact not_pending_of_flushed flushed
    · intro geometric
      have transformed := transform_transformed natives image
      rw [← run_flush_of_pending (consistent.geometric_iff.mp geometric), flushed] at transformed
      cases transformed with
      | returned written marked parsed => exact written
  accepted after flushed accepts := run_downScale_of_accepted flushed accepts quality
  rejected after flushed rejects := run_downScale_of_rejected flushed rejects quality
  rejects_iff after flushed others := by
    constructor
    · intro rejected accepts
      rcases rejected with ⟨message, final, rejected⟩
      cases scaler : natives.downScaleJpegImage after.imgData width height quality with
      | error exception =>
          rw [run_downScale_of_accepted flushed accepts, scaler] at rejected
          cases rejected
          exact others message scaler
      | ok scaled =>
          rcases run_downScale_of_scaled decodes flushed accepts scaler with ⟨_, -, returned⟩
          rw [returned] at rejected
          cases rejected
    · intro rejects
      rcases run_downScale_of_rejected flushed rejects quality with ⟨message, rejected⟩
      exact ⟨message, after, rejected⟩

/-- In every state that calls of the public methods reach, whatever they threw, the
invariant holds and downscaling does what it says. -/
theorem lazy_invariant {data : δ} (decodes : natives.Decodes)
    (created : create natives data = .ok image) (calls : List Call)
    (width height quality : IntValue) :
    Consistent natives (Method.afterAll (Call.method natives) calls image) ∧
      DownScales natives (Method.afterAll (Call.method natives) calls image)
        width height quality := by
  have consistent := consistent_afterAll decodes created calls
  exact ⟨consistent, consistent.downScales decodes width height quality⟩

/-! ## A file of 32 by 32 pixels -/

/-- The native functions with a transform that fails on output which cannot be read. -/
def decodingLibrary {α : Type} (luma : α → α) (scaler : Scaler α) : Natives (Jpeg α) :=
  { library luma scaler with
    transform := fun jpeg t => do
      let out ← jpeg.tjTransform luma t
      let _ ← out.decompressHeader
      return out }

theorem decodes_decodingLibrary {α : Type} (luma : α → α) (scaler : Scaler α) :
    (decodingLibrary luma scaler).Decodes where
  transform jpeg t out written := by
    rcases Method.except_bind_eq_ok.mp written with ⟨out, -, read⟩
    rcases Method.except_bind_eq_ok.mp read with ⟨header, parsed, same⟩
    cases same
    exact ⟨rfl, header, parsed⟩
  downScaleJpegImage jpeg width height quality out written := by
    cases written
    have parsed : (library luma scaler).decompressHeader
        (jpeg.downScaleJpegImage scaler width height quality) = .ok _ :=
      decompressHeader_library Jpeg.getSubsamp_downScaleJpegImage
    exact ⟨rfl, _, parsed⟩

open JpegTranImage (squareJpeg) in
/-- A crop and a rotation, one of them refused, and a target for the rest. -/
theorem lazy_invariant_square :
    let image := Method.afterAll (Call.method (decodingLibrary id Scaler.nearest))
      [.crop ⟨8, by decide⟩ ⟨8, by decide⟩ ⟨16, by decide⟩ ⟨24, by decide⟩,
        .rotate ⟨45, by decide⟩, .rotate ⟨90, by decide⟩]
      (holding (squareJpeg .samp444) .samp444 {})
    image.transformOptions = ⟨8, 8, 16, 24, .rot90, optCrop⟩ ∧
      Consistent (decodingLibrary id Scaler.nearest) image ∧
      DownScales (decodingLibrary id Scaler.nearest) image 16 8 75 := by
  have created : create (decodingLibrary id Scaler.nearest) (squareJpeg .samp444) =
      .ok (holding (squareJpeg .samp444) .samp444 {}) := rfl
  exact ⟨rfl, lazy_invariant (decodes_decodingLibrary id Scaler.nearest) created _
    ⟨16, by decide⟩ ⟨8, by decide⟩ ⟨75, by decide⟩⟩

end IiifImage.JpegImage
