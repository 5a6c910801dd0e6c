import IiifImage.Backend.JpegImage
import IiifImage.Java.Calls

/-!
# Steps of the lazy image

What one call of a public method can do to a `JpegImage`, with any native functions.  The
methods that replace the data have three ends: they return, they throw before anything is
assigned, or they throw between the assignment of the data and that of its header.
-/

namespace IiifImage

open Java TurboJpeg

namespace TurboJpeg.Natives

variable {δ : Type} (natives : Natives δ)

/-- `setImageData` assigns the data. -/
def Marked (data : δ) : Prop := natives.startsWithMarker data = .ok true

/-- `setImageData` accepts the data. -/
def Decodable (data : δ) : Prop :=
  natives.Marked data ∧ ∃ header, natives.decompressHeader data = .ok header

/-- The native functions produce JPEG data when they succeed. -/
structure Decodes : Prop where
  transform : ∀ data t out, natives.transform data t = .ok out → natives.Decodable out
  downScaleJpegImage : ∀ data width height quality out,
    natives.downScaleJpegImage data width height quality = .ok out → natives.Decodable out

end TurboJpeg.Natives

namespace JpegImage

variable {δ : Type} {natives : Natives δ} {image : JpegImage δ}

abbrev IntValue := {n : ℤ // minInt ≤ n ∧ n ≤ maxInt}

/-- The calls of the public methods that process the image. -/
inductive Call where
  | rotate (angle : IntValue)
  | flipHorizontal
  | flipVertical
  | transpose
  | transverse
  | crop (x y width height : IntValue)
  | toGrayscale
  | downScale (width height quality : IntValue)
  | transform

def Call.method (natives : Natives δ) : Call → Method Throwable (JpegImage δ) Unit
  | rotate angle => JpegImage.rotate angle
  | flipHorizontal => JpegImage.flipHorizontal
  | flipVertical => JpegImage.flipVertical
  | transpose => JpegImage.transpose
  | transverse => JpegImage.transverse
  | crop x y width height => JpegImage.crop x y width height
  | toGrayscale => JpegImage.toGrayscale
  | downScale width height quality => JpegImage.downScale natives width height quality
  | transform => JpegImage.transform natives

/-! ## Replacing the data -/

/-- The image with other data and the header read from it. -/
def withData (image : JpegImage δ) (data : δ) (header : Header) : JpegImage δ :=
  { image with imgData := data, decomp := header }

/-- The three ends of `setImageData`. -/
inductive Replaced (natives : Natives δ) (image : JpegImage δ) (data : δ) :
    EStateM.Result Throwable (JpegImage δ) Unit → Prop where
  | returned {header : Header} (marked : natives.Marked data)
      (parsed : natives.decompressHeader data = .ok header) :
      Replaced natives image data (.ok () (image.withData data header))
  | unparsed {exception : Throwable} (marked : natives.Marked data)
      (thrown : natives.decompressHeader data = .error exception) :
      Replaced natives image data (.error exception { image with imgData := data })
  | refused (exception : Throwable) (unmarked : ¬natives.Marked data) :
      Replaced natives image data (.error exception image)

theorem setImageData_replaced (natives : Natives δ) (image : JpegImage δ) (data : δ) :
    Replaced natives image data (EStateM.run (setImageData natives data) image) := by
  rw [setImageData]
  cases marker : natives.startsWithMarker data with
  | error exception =>
      apply Replaced.refused
      intro marked
      rw [Natives.Marked, marker] at marked
      cases marked
  | ok isJpeg =>
      cases isJpeg with
      | false =>
          apply Replaced.refused
          intro marked
          rw [Natives.Marked, marker] at marked
          cases marked
      | true =>
          cases header : natives.decompressHeader data with
          | ok decomp => exact .returned marker header
          | error exception => exact .unparsed marker header

theorem run_setImageData_of_decodable {data : δ} (decodable : natives.Decodable data)
    (image : JpegImage δ) :
    ∃ header, natives.decompressHeader data = .ok header ∧
      EStateM.run (setImageData natives data) image = .ok () (image.withData data header) := by
  rcases decodable with ⟨marked, header, parsed⟩
  refine ⟨header, parsed, ?_⟩
  rw [setImageData, marked, parsed]
  rfl

/-- The ends of `transform`: the transformed data is handed to `setImageData`, or nothing
is assigned. -/
theorem run_transform_cases (natives : Natives δ) (image : JpegImage δ) :
    (∃ exception, EStateM.run (transform natives) image = .error exception image) ∨
      ∃ out, natives.transform image.imgData image.transformOptions = .ok out ∧
        EStateM.run (transform natives) image = EStateM.run (do
          setImageData natives out
          modify fun image => { image with transformOptions := {} }) image := by
  simp only [transform, Method.run_get_bind]
  cases natives.decompressHeader image.imgData with
  | error exception => exact .inl ⟨_, rfl⟩
  | ok source =>
      rw [Method.run_ofExcept_ok_bind]
      cases bufSize image.getWidth image.getHeight image.decomp.subsamp with
      | error exception => exact .inl ⟨_, rfl⟩
      | ok destinationSize =>
          rw [Method.run_ofExcept_ok_bind]
          cases allocate destinationSize with
          | error exception => exact .inl ⟨_, rfl⟩
          | ok =>
              rw [Method.run_ofExcept_ok_bind, Natives.transformInto]
              split
              · exact .inl ⟨_, rfl⟩
              · cases natives.transform image.imgData image.transformOptions with
                | error exception => exact .inl ⟨_, rfl⟩
                | ok out => exact .inr ⟨out, rfl, rfl⟩

/-- The three ends of `transform`. -/
inductive Transformed (natives : Natives δ) (image : JpegImage δ) :
    EStateM.Result Throwable (JpegImage δ) Unit → Prop where
  | returned {out : δ} {header : Header}
      (written : natives.transform image.imgData image.transformOptions = .ok out)
      (marked : natives.Marked out) (parsed : natives.decompressHeader out = .ok header) :
      Transformed natives image (.ok () ⟨header, {}, out⟩)
  | unparsed {out : δ} {exception : Throwable}
      (written : natives.transform image.imgData image.transformOptions = .ok out)
      (marked : natives.Marked out)
      (thrown : natives.decompressHeader out = .error exception) :
      Transformed natives image (.error exception { image with imgData := out })
  | refused (exception : Throwable) : Transformed natives image (.error exception image)

theorem transform_transformed (natives : Natives δ) (image : JpegImage δ) :
    Transformed natives image (EStateM.run (transform natives) image) := by
  rcases run_transform_cases natives image with ⟨exception, thrown⟩ | ⟨out, written, run⟩
  · rw [thrown]
    exact .refused exception
  · have replaced := setImageData_replaced natives image out
    rw [run]
    cases ended : EStateM.run (setImageData natives out) image with
    | ok value after =>
        rw [Method.run_bind_ok ended]
        rw [ended] at replaced
        cases replaced with
        | returned marked parsed => exact .returned written marked parsed
    | error exception after =>
        rw [Method.run_bind_error ended]
        rw [ended] at replaced
        cases replaced with
        | unparsed marked thrown => exact .unparsed written marked thrown
        | refused exception unmarked => exact .refused exception

/-! ## Flushing and downscaling -/

/-- The test with which `downScale` decides to apply the pending transform first. -/
def Pending (image : JpegImage δ) : Prop :=
  image.transformOptions.op ≠ .none ∨ image.transformOptions.isEmpty = false

instance (image : JpegImage δ) : Decidable image.Pending :=
  inferInstanceAs (Decidable (_ ∨ _))

theorem run_flush_of_pending (pending : image.Pending) :
    EStateM.run (flush natives) image = EStateM.run (transform natives) image := by
  have transformed := transform_transformed natives image
  have run : EStateM.run (flush natives) image = EStateM.run (do
      transform natives
      modify fun image => { image with transformOptions := {} }) image := by
    rw [flush, Method.run_get_bind]
    exact congrArg (EStateM.run · image) (if_pos pending)
  rw [run]
  cases ended : EStateM.run (transform natives) image with
  | ok value after =>
      rw [Method.run_bind_ok ended]
      rw [ended] at transformed
      cases transformed
      rfl
  | error exception after => rw [Method.run_bind_error ended]

theorem run_flush_of_not_pending (idle : ¬image.Pending) :
    EStateM.run (flush natives) image = .ok () image := by
  rw [flush, Method.run_get_bind]
  exact congrArg (EStateM.run · image) (if_neg idle)

/-- The target that `downScale` accepts. -/
def Accepts (image : JpegImage δ) (width height : ℤ) : Prop :=
  (1 ≤ width ∧ width ≤ image.getWidth) ∧ 1 ≤ height ∧ height ≤ image.getHeight

/-- A flush that throws ends the call. -/
theorem run_downScale_of_failed {exception : Throwable} {after : JpegImage δ}
    (failed : EStateM.run (flush natives) image = .error exception after)
    (width height quality : ℤ) :
    EStateM.run (downScale natives width height quality) image = .error exception after := by
  rw [downScale, Method.run_bind_error failed]

theorem run_downScale_of_accepted {after : JpegImage δ} {width height : ℤ}
    (flushed : EStateM.run (flush natives) image = .ok () after)
    (accepts : after.Accepts width height) (quality : ℤ) :
    EStateM.run (downScale natives width height quality) image = EStateM.run (do
      let scaled ← Method.ofExcept
        (natives.downScaleJpegImage after.imgData width height quality)
      setImageData natives scaled) after := by
  unfold Accepts at accepts
  rw [downScale, Method.run_bind_ok flushed, Method.run_get_bind, if_neg (by omega),
    if_neg (by omega)]

theorem run_downScale_of_rejected {after : JpegImage δ} {width height : ℤ}
    (flushed : EStateM.run (flush natives) image = .ok () after)
    (rejects : ¬after.Accepts width height) (quality : ℤ) :
    ∃ message, EStateM.run (downScale natives width height quality) image =
      .error (.illegalArgument message) after := by
  rw [downScale, Method.run_bind_ok flushed, Method.run_get_bind]
  split
  · exact ⟨_, rfl⟩
  split
  · exact ⟨_, rfl⟩
  · unfold Accepts at rejects
    omega

end JpegImage

end IiifImage
