import IiifImage.Crops.ImageIo
import IiifImage.Crops.Lossless

/-!
# Crops on both backends

The lossless backend checks the sign of the offsets and dimensions, the ImageIO backend
leaves that to `getSubimage`, and clamps by a sum where the other one clamps by a
difference.  They crop alike where the sum does not overflow and the signs are right.
-/

namespace IiifImage

open Java TurboJpeg

namespace JAIImage

/-- The clamp does not see an end that is out of the range of `int`. -/
theorem clampExtent_of_overflow {size offset extent : ℤ} (nonneg : 0 ≤ offset)
    (small : offset ≤ maxInt) (extentLe : extent ≤ maxInt) (sizePos : 0 ≤ size)
    (overflow : maxInt < offset + extent) : clampExtent size offset extent = extent := by
  unfold maxInt at *
  rw [clampExtent, if_neg]
  rw [wrap]
  omega

end JAIImage

/-! ## The comparison -/

section Comparison

variable {δ α : Type} {natives : Natives δ} {data : δ} {fp : Rounding}
variable {region : RegionParameters} {self : JAIImage α} {source : BufferedImage α}
variable {lossless : JpegTranImage δ}

/-- Both backends reject the region as invalid, or both select one non-empty rectangle
inside the image. -/
def CropsAlike (fp : Rounding) (region : RegionParameters) (self : JAIImage α)
    (source : BufferedImage α) (lossless : JpegTranImage δ) : Prop :=
  (∃ message message' final final',
    EStateM.run (JAIImage.crop fp region) self = .error (.invalidParameters message) final ∧
    EStateM.run (JpegTranImage.crop fp region) lossless =
      .error (.invalidParameters message') final') ∨
  ∃ rect : Rect, (0 < rect.width ∧ 0 < rect.height) ∧
    rect.Inside source.raster.width source.raster.height ∧
    (∃ part, EStateM.run (JAIImage.crop fp region) self =
        .ok ⟨⟩ { self with image := some part } ∧
      part.raster = source.raster.crop rect) ∧
    EStateM.run (JpegTranImage.crop fp region) lossless =
      .ok ⟨⟩ { lossless with jpegImage :=
        { lossless.jpegImage with transformOptions := JpegImage.pending rect .none } }

/-- A region that is rejected on the ImageIO backend starts outside the image. -/
theorem JAIImage.outside_of_rejected {message : Option String} {final : JAIImage α}
    (present : self.image = some source) (absolute : region.absolute = true)
    (rejected : EStateM.run (JAIImage.crop fp region) self =
      .error (.invalidParameters message) final) :
    region.StartsOutside source.raster.width source.raster.height := by
  by_contra starts
  by_cases fits : region.TargetFits source.raster.width source.raster.height
  · rcases run_crop_of_targetFits fp present absolute starts fits with ⟨part, returned, -⟩
    rw [returned] at rejected
    cases rejected
  · rw [run_crop_of_target_misses fp present absolute starts fits] at rejected
    cases rejected

/-- A region that selects a pixel is cropped on the ImageIO backend only if its end is in the
range of `int`. -/
theorem JAIImage.ends_of_returned {final : JAIImage α} (present : self.image = some source)
    (absolute : region.absolute = true)
    (selects : region.Selects source.raster.width source.raster.height)
    (widthLe : (source.raster.width : ℤ) ≤ maxDimension)
    (heightLe : (source.raster.height : ℤ) ≤ maxDimension)
    (returned : EStateM.run (JAIImage.crop fp region) self = .ok ⟨⟩ final) :
    region.horizontalOffset.ceilToInt + region.width.ceilToInt ≤ maxInt ∧
      region.verticalOffset.ceilToInt + region.height.ceilToInt ≤ maxInt := by
  rcases selects with ⟨⟨left, leftLt⟩, ⟨top, topLt⟩, wide, tall⟩
  have fits := (run_crop_eq_ok present absolute returned).1.2
  have large : (maxDimension : ℤ) + maxDimension < maxInt := by decide
  simp only [RegionParameters.TargetFits, RegionParameters.clamped, Prod.mk.injEq] at fits
  constructor
  · -- an extent that is not clamped is larger than the image
    by_contra exceeds
    rw [clampExtent_of_overflow left (by omega) region.width.ceilToInt_range.2 (by omega)
      (by omega)] at fits
    omega
  · by_contra exceeds
    rw [clampExtent_of_overflow top (by omega) region.height.ceilToInt_range.2 (by omega)
      (by omega)] at fits
    omega

/-- On a region that selects a pixel and whose end is in the range of `int` both backends
select its part inside the image. -/
theorem cropsAlike_of_selects (present : self.image = some source)
    (created : JpegTranImage.create natives data = .ok lossless)
    (sameWidth : lossless.width = source.raster.width)
    (sameHeight : lossless.height = source.raster.height)
    (absolute : region.absolute = true)
    (selects : region.Selects source.raster.width source.raster.height)
    (right : region.horizontalOffset.ceilToInt + region.width.ceilToInt ≤ maxInt)
    (bottom : region.verticalOffset.ceilToInt + region.height.ceilToInt ≤ maxInt) :
    CropsAlike fp region self source lossless := by
  have cached := JpegTranImage.cached_of_create created
  rcases JpegTranImage.cached_range cached with ⟨⟨-, widthLe⟩, -, heightLe⟩
  have columns := le_maxInt_of_le_maxDimension widthLe
  have rows := le_maxInt_of_le_maxDimension heightLe
  rw [sameWidth] at columns
  rw [sameHeight] at rows
  rcases selects.exists_rect absolute fp with ⟨rect, bounds, ⟨startsLeft, startsTop⟩, wide, tall⟩
  rcases RegionParameters.ceilToInt_of_bounds absolute bounds with
    ⟨⟨sameX, sameY⟩, sameWide, sameTall⟩
  rw [sameX, sameWide] at right
  rw [sameY, sameTall] at bottom
  have recorded := JpegTranImage.run_crop_of_selects fp cached absolute
    (by rw [sameWidth, sameHeight]; exact selects)
  obtain ⟨inside, partWide, partTall⟩ := Rect.clip_inside startsLeft startsTop wide tall
  obtain ⟨part, returned, raster⟩ := JAIImage.run_crop_inside present bounds startsLeft
    startsTop wide tall right bottom columns rows
  refine .inr ⟨_, ⟨partWide, partTall⟩, inside,
    ⟨part, returned, raster.trans (Raster.crop_clip _ _).symm⟩, recorded.trans ?_⟩
  rw [JpegTranImage.cropped_eq_pending (JpegTranImage.idle_of_create created) absolute sameWidth
    sameHeight bounds startsLeft startsTop]

/-- The backends crop alike exactly on the regions that start outside the image, and on
those that select a pixel and whose end is in the range of `int`. -/
theorem crops_alike_iff (fp : Rounding) (present : self.image = some source)
    (created : JpegTranImage.create natives data = .ok lossless)
    (sameWidth : lossless.width = source.raster.width)
    (sameHeight : lossless.height = source.raster.height)
    (absolute : region.absolute = true) :
    CropsAlike fp region self source lossless ↔
      (region.horizontalOffset.ceilToInt ≥ source.raster.width ∨
        region.verticalOffset.ceilToInt ≥ source.raster.height) ∨
      (region.Selects source.raster.width source.raster.height ∧
        region.horizontalOffset.ceilToInt + region.width.ceilToInt ≤ maxInt ∧
        region.verticalOffset.ceilToInt + region.height.ceilToInt ≤ maxInt) := by
  have cached := JpegTranImage.cached_of_create created
  constructor
  · intro alike
    rcases alike with ⟨_, _, _, _, rejected, -⟩ | ⟨rect, -, -, ⟨part, returned, -⟩, recorded⟩
    · exact .inl (JAIImage.outside_of_rejected present absolute rejected)
    · have selects : region.Selects source.raster.width source.raster.height := by
        rw [← sameWidth, ← sameHeight]
        by_contra misses
        rcases JpegTranImage.run_crop_of_not_selects fp cached absolute misses with
          ⟨_, refused⟩
        rw [refused] at recorded
        cases recorded
      rcases JpegTranImage.cached_range cached with ⟨⟨-, widthLe⟩, -, heightLe⟩
      exact .inr ⟨selects, JAIImage.ends_of_returned present absolute selects
        (sameWidth ▸ widthLe) (sameHeight ▸ heightLe) returned⟩
  · intro accepted
    rcases accepted with outside | ⟨selects, right, bottom⟩
    · rcases JAIImage.run_crop_of_startsOutside fp present absolute outside with ⟨_, rejected⟩
      have misses : ¬region.Selects lossless.width lossless.height := by
        intro selects
        have left := selects.left.2
        have top := selects.top.2
        omega
      rcases JpegTranImage.run_crop_of_not_selects fp cached absolute misses with
        ⟨_, refused⟩
      exact .inl ⟨_, _, _, _, rejected, refused⟩
    · exact cropsAlike_of_selects present created sameWidth sameHeight absolute selects right
        bottom

end Comparison

/-! ## An image of 32 by 32 pixels -/

section Square

open JpegTranImage (ofJpeg squareJpeg create_squareJpeg)

/-- The image as the ImageIO backend decodes it. -/
def squareImage : JAIImage (ℕ × ℕ) where
  image := some (BufferedImage.labelled 32 32 (Nat.succ_pos 31) (Nat.succ_pos 31))
  formatString := ['J', 'P', 'E', 'G']

/-- Both backends clip a region over the right edge to the 8 columns inside the image. -/
theorem crops_alike_overEdge :
    CropsAlike .exact (.ofInts .exact 24 0 100 32) squareImage
      (BufferedImage.labelled 32 32 (Nat.succ_pos 31) (Nat.succ_pos 31))
      (ofJpeg (squareJpeg .samp444) .samp444 {}) :=
  (crops_alike_iff .exact rfl (create_squareJpeg .samp444) rfl rfl rfl).mpr
    (.inr ⟨⟨by decide, by decide, by decide, by decide⟩, by decide, by decide⟩)

/-- The region `-8,0,32,32` starts left of the image.  The ImageIO backend finds that the
target has the dimensions of the image and keeps all of it; the other one rejects the
region. -/
theorem crop_keeps_leftOfImage :
    EStateM.run (JAIImage.crop .exact (.ofInts .exact (-8) 0 32 32)) squareImage =
        .ok ⟨⟩ squareImage ∧
      (∃ message, EStateM.run (JpegTranImage.crop .exact (.ofInts .exact (-8) 0 32 32))
        (ofJpeg (squareJpeg .samp444) .samp444 {}) =
          .error (.invalidParameters message) (ofJpeg (squareJpeg .samp444) .samp444 {})) ∧
      ¬CropsAlike .exact (.ofInts .exact (-8) 0 32 32) squareImage
        (BufferedImage.labelled 32 32 (Nat.succ_pos 31) (Nat.succ_pos 31))
        (ofJpeg (squareJpeg .samp444) .samp444 {}) := by
  have kept : EStateM.run (JAIImage.crop .exact (.ofInts .exact (-8) 0 32 32)) squareImage =
      .ok ⟨⟩ squareImage := rfl
  have misses : ¬(RegionParameters.ofInts .exact (-8) 0 32 32).Selects 32 32 := by decide
  rcases JpegTranImage.run_crop_of_not_selects .exact
    (JpegTranImage.cached_of_create (create_squareJpeg .samp444)) rfl misses with
    ⟨message, refused⟩
  refine ⟨kept, ⟨message, refused⟩, ?_⟩
  intro alike
  rcases alike with ⟨_, _, _, _, rejected, -⟩ | ⟨_, -, -, -, recorded⟩
  · rw [kept] at rejected
    cases rejected
  · rw [refused] at recorded
    cases recorded

end Square

end IiifImage
