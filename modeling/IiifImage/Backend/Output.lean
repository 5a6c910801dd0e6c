import IiifImage.Backend.JpegImage

/-!
# Outputs that fill their buffers

The destination buffer of a transform has the length that `tjBufSize` gives for the output
image, and all markers of the source go into it too.  When there is room for the output the
library behaves as if the lengths did not matter.  Otherwise the transform fails after it has
accepted its bounds.
-/

namespace IiifImage

open Java TurboJpeg

namespace TurboJpeg.Jpeg

variable {α : Type} {luma : α → α} {jpeg out : Jpeg α} {t : TJTransform} {written : ℕ}

/-- An output of the transform does not fill its destination buffer. -/
def HasRoom (luma : α → α) (written : ℕ) (jpeg : Jpeg α) (t : TJTransform) : Prop :=
  ∀ out, jpeg.tjTransform luma t = .ok out →
    (written : ℤ) < jpeg.dstSize t out.raster.width out.raster.height

theorem hasRoom_iff (transformed : jpeg.tjTransform luma t = .ok out) :
    HasRoom luma written jpeg t ↔
      (written : ℤ) < jpeg.dstSize t out.raster.width out.raster.height := by
  simp only [HasRoom, transformed, Except.ok.injEq, forall_eq']

theorem tjTransformWriting_of_hasRoom (room : HasRoom luma written jpeg t) :
    tjTransformWriting luma written jpeg t = jpeg.tjTransform luma t := by
  rw [tjTransformWriting]
  cases transformed : jpeg.tjTransform luma t with
  | error exception => rfl
  | ok out =>
      rw [Method.except_ok_bind, if_pos ((hasRoom_iff transformed).mp room)]
      rfl

/-- An output that fills its buffer is reported as a `TJException`. -/
theorem tjTransformWriting_of_not_hasRoom (filled : ¬HasRoom luma written jpeg t) :
    ∃ message, tjTransformWriting luma written jpeg t = .error (.tj message) := by
  rw [tjTransformWriting]
  cases transformed : jpeg.tjTransform luma t with
  | error exception =>
      exact absurd (fun out returned => by rw [transformed] at returned; cases returned) filled
  | ok out =>
      rw [hasRoom_iff transformed] at filled
      rw [Method.except_ok_bind, if_neg filled]
      exact ⟨_, rfl⟩

/-- A transform of bounds has the buffer of the bounds, and any other that of the source. -/
theorem dstSize_eq {subsamp : Subsamp} (typed : jpeg.getSubsamp = some subsamp)
    (t : TJTransform) (outputWidth outputHeight : ℕ) :
    jpeg.dstSize t outputWidth outputHeight =
      unsignedLong (if t.hasCrop then tjBufSize outputWidth outputHeight subsamp
        else tjBufSize jpeg.raster.width jpeg.raster.height subsamp) := by
  rw [dstSize, typed]

end TurboJpeg.Jpeg

namespace JpegImage

variable {δ α : Type}

/-- The method `transform` calls the native one for the pending transform of its data only. -/
theorem run_transform_congr {natives : Natives δ} {image : JpegImage δ}
    {other : δ → TJTransform → Except Throwable δ}
    (same : other image.imgData image.transformOptions =
      natives.transform image.imgData image.transformOptions) :
    EStateM.run (transform { natives with transform := other }) image =
      EStateM.run (transform natives) image := by
  have into : ∀ source size,
      Natives.transformInto { natives with transform := other } source image.imgData size
          image.transformOptions =
        natives.transformInto source image.imgData size image.transformOptions := by
    intro source size
    rw [Natives.transformInto, Natives.transformInto, ← same]
  rw [transform, transform, Method.run_get_bind, Method.run_get_bind]
  simp only [into]
  rfl

section Decoded

variable {luma : α → α} {scaler : Scaler α} {written : Jpeg α → TJTransform → ℕ}
variable {jpeg : Jpeg α} {subsamp : Subsamp} {t : TJTransform}

theorem run_transform_of_hasRoom (scaler : Scaler α)
    (room : Jpeg.HasRoom luma (written jpeg t) jpeg t) :
    EStateM.run (transform (libraryWriting luma scaler written)) (holding jpeg subsamp t) =
      EStateM.run (transform (library luma scaler)) (holding jpeg subsamp t) :=
  run_transform_congr (Jpeg.tjTransformWriting_of_hasRoom room)

/-- A full buffer is a `TJException`, if the buffer is accepted at all. -/
theorem run_transform_of_not_hasRoom (scaler : Scaler α) (typed : jpeg.getSubsamp = some subsamp)
    (fits : destinationFits (jpeg.header subsamp) t)
    (filled : ¬Jpeg.HasRoom luma (written jpeg t) jpeg t) :
    ∃ message, EStateM.run (transform (libraryWriting luma scaler written))
      (holding jpeg subsamp t) = .error (.tj message) (holding jpeg subsamp t) := by
  rcases Jpeg.tjTransformWriting_of_not_hasRoom filled with ⟨message, refused⟩
  have called : (libraryWriting luma scaler written).transform (holding jpeg subsamp t).imgData
      (holding jpeg subsamp t).transformOptions = .error (.tj message) := refused
  have describes : (libraryWriting luma scaler written).decompressHeader
      (holding jpeg subsamp t).imgData = .ok (holding jpeg subsamp t).decomp :=
    describes_holding luma scaler typed t
  rw [run_transform_of_fits describes fits, called]
  exact ⟨message, rfl⟩

end Decoded

end JpegImage

end IiifImage
