import IiifImage.Backend.CropOrder

/-!
# Scaling on the lossless backend

`downScale` first carries out what is pending and then replaces the bytes by those of a
smaller image.  An image that has been scaled has no pending transform.
-/

namespace IiifImage

open Java TurboJpeg

/-! ## Scaled files -/

namespace TurboJpeg.Jpeg

variable {α : Type} {jpeg : Jpeg α} {scaler : Scaler α} {width height quality : ℤ}

/-- The subsampling that Epeg writes. -/
def scaledSubsamp (colorspace : Colorspace) (quality : ℤ) : Subsamp :=
  match epegColorspace colorspace with
  | .gray => .gray
  | .ycbcr => if quality < 90 then .samp420 else .samp444
  | _ => .samp444

theorem getSubsamp_downScaleJpegImage :
    (jpeg.downScaleJpegImage scaler width height quality).getSubsamp =
      some (scaledSubsamp jpeg.colorspace quality) := by
  by_cases coarse : quality < 90 <;> cases space : jpeg.colorspace <;>
    simp [getSubsamp, downScaleJpegImage, scaledSubsamp, space, epegColorspace, coarse,
      Subsamp.mcuWidth, Subsamp.mcuHeight]

/-- A size that is not larger than the image is the size of the scaled image. -/
theorem size_downScaleJpegImage (scaler : Scaler α) (quality : ℤ)
    (wide : 1 ≤ width ∧ width ≤ jpeg.raster.width)
    (tall : 1 ≤ height ∧ height ≤ jpeg.raster.height) :
    ((jpeg.downScaleJpegImage scaler width height quality).raster.width : ℤ) = width ∧
      ((jpeg.downScaleJpegImage scaler width height quality).raster.height : ℤ) = height := by
  have columns := scaler.width_downScale jpeg.raster jpeg.width_pos jpeg.height_pos
    (epegSize width jpeg.raster.width) (epegSize height jpeg.raster.height)
  have rows := scaler.height_downScale jpeg.raster jpeg.width_pos jpeg.height_pos
    (epegSize width jpeg.raster.width) (epegSize height jpeg.raster.height)
  have exact : ∀ {requested : ℤ} {size : ℕ}, 1 ≤ requested → requested ≤ size →
      (epegSize requested size : ℤ) = requested := by
    intro requested size positive small
    rw [epegSize, if_neg (by omega), if_neg (by omega)]
    omega
  constructor
  · exact (congrArg Nat.cast columns).trans (exact wide.1 wide.2)
  · exact (congrArg Nat.cast rows).trans (exact tall.1 tall.2)

end TurboJpeg.Jpeg

/-! ## The method -/

namespace JpegImage

variable {α : Type} {luma : α → α} {scaler : Scaler α} {jpeg : Jpeg α} {subsamp : Subsamp}
variable {t : TJTransform} {width height quality : ℤ} {after : JpegImage (Jpeg α)}

/-- Nothing is carried out before scaling if nothing is pending. -/
theorem run_flush_idle :
    EStateM.run (flush (library luma scaler)) (holding jpeg subsamp {}) =
      .ok () (holding jpeg subsamp {}) := rfl

/-- Whatever is carried out before scaling leaves an image with nothing pending. -/
theorem run_flush_eq_ok (typed : jpeg.getSubsamp = some subsamp)
    (pendingBounds : t = {} ∨ t.isEmpty = false)
    (returned : EStateM.run (flush (library luma scaler)) (holding jpeg subsamp t) =
      .ok () after) :
    ∃ out outSubsamp, out.getSubsamp = some outSubsamp ∧ after = holding out outSubsamp {} := by
  rcases pendingBounds with rfl | bounded
  · rw [run_flush_idle] at returned
    cases returned
    exact ⟨jpeg, subsamp, typed, rfl⟩
  · have wanted : (holding jpeg subsamp t).transformOptions.op ≠ .none ∨
        (holding jpeg subsamp t).transformOptions.isEmpty = false := .inr bounded
    rw [flush, Method.run_get_bind, if_pos wanted] at returned
    rcases Method.run_bind_eq_ok.mp returned with ⟨_, mid, transformed, cleared⟩
    obtain ⟨_, out, outSubsamp, _, outTyped, rfl⟩ :=
      (run_transform_eq_ok_iff typed).mp transformed
    cases cleared
    exact ⟨out, outSubsamp, outTyped, rfl⟩

/-- The part of `downScale` after the pending transform has been carried out. -/
theorem run_downScale_of_flush
    (flushed : EStateM.run (flush (library luma scaler)) (holding jpeg subsamp t) =
      .ok () after) :
    EStateM.run (downScale (library luma scaler) width height quality)
        (holding jpeg subsamp t) =
      if width > after.getWidth ∨ height > after.getHeight then
        .error (.illegalArgument (some ("Target dimensions must be smaller than original " ++
          "dimensions, were " ++ toString after.getWidth ++ "x" ++ toString after.getHeight
          ++ " vs " ++ toString width ++ "x" ++ toString height ++ "."))) after
      else if width ≤ 0 ∨ height ≤ 0 then
        .error (.illegalArgument (some "Width and height must be greater than 0")) after
      else
        EStateM.run (setImageData (library luma scaler)
          (after.imgData.downScaleJpegImage scaler width height quality)) after := by
  rw [downScale, Method.run_bind_ok flushed, Method.run_get_bind]
  split
  · rfl
  split
  · rfl
  · rfl

/-- A size that is not larger than the image is scaled to. -/
theorem run_downScale_ok (wide : 1 ≤ width ∧ width ≤ jpeg.raster.width)
    (tall : 1 ≤ height ∧ height ≤ jpeg.raster.height) :
    EStateM.run (downScale (library luma scaler) width height quality)
        (holding jpeg subsamp {}) =
      .ok () (holding (jpeg.downScaleJpegImage scaler width height quality)
        (Jpeg.scaledSubsamp jpeg.colorspace quality) {}) := by
  rw [run_downScale_of_flush run_flush_idle, getWidth_holding, getHeight_holding,
    if_neg (by omega), if_neg (by omega)]
  exact run_setImageData Jpeg.getSubsamp_downScaleJpegImage

/-- A larger size is refused. -/
theorem run_downScale_refused
    (larger : (jpeg.raster.width : ℤ) < width ∨ (jpeg.raster.height : ℤ) < height) :
    ∃ message, EStateM.run (downScale (library luma scaler) width height quality)
        (holding jpeg subsamp {}) =
      .error (.illegalArgument message) (holding jpeg subsamp {}) := by
  rw [run_downScale_of_flush run_flush_idle, getWidth_holding, getHeight_holding,
    if_pos (by omega)]
  exact ⟨_, rfl⟩

/-- Whatever `downScale` leaves has the requested size and nothing pending. -/
theorem run_downScale_eq_ok (typed : jpeg.getSubsamp = some subsamp)
    (pendingBounds : t = {} ∨ t.isEmpty = false)
    (returned : EStateM.run (downScale (library luma scaler) width height quality)
      (holding jpeg subsamp t) = .ok () after) :
    ∃ scaled scaledSubsamp, scaled.getSubsamp = some scaledSubsamp ∧
      after = holding scaled scaledSubsamp {} ∧
      (scaled.raster.width : ℤ) = width ∧ (scaled.raster.height : ℤ) = height := by
  have flushes := returned
  rw [downScale, Method.run_bind_eq_ok] at flushes
  rcases flushes with ⟨_, mid, flushed, _⟩
  rcases run_flush_eq_ok typed pendingBounds flushed with ⟨out, outSubsamp, outTyped, rfl⟩
  rw [run_downScale_of_flush flushed, getWidth_holding, getHeight_holding] at returned
  split at returned
  · cases returned
  split at returned
  · cases returned
  next fits positive =>
    rw [run_setImageData Jpeg.getSubsamp_downScaleJpegImage] at returned
    cases returned
    have wide : 1 ≤ width ∧ width ≤ out.raster.width := by omega
    have tall : 1 ≤ height ∧ height ≤ out.raster.height := by omega
    exact ⟨_, _, Jpeg.getSubsamp_downScaleJpegImage, rfl,
      Jpeg.size_downScaleJpegImage scaler quality wide tall⟩

end JpegImage

end IiifImage
