import IiifImage.Backend.JAIImage

/-!
# Crops on the ImageIO backend

`crop` compares the rounded offsets with the dimensions of the image and clamps the
extents.  Signs and empty extents are left to `getSubimage`, which is not called when the
target has the dimensions of the image.
-/

namespace IiifImage

open Java

namespace RegionParameters

/-- The rounded offsets are outside the image, to the right or below. -/
def StartsOutside (width height : ℤ) (region : RegionParameters) : Prop :=
  region.horizontalOffset.ceilToInt ≥ width ∨ region.verticalOffset.ceilToInt ≥ height

/-- The dimensions that an absolute region is clamped to. -/
def clamped (width height : ℤ) (region : RegionParameters) : ℤ × ℤ :=
  (JAIImage.clampExtent width region.horizontalOffset.ceilToInt region.width.ceilToInt,
    JAIImage.clampExtent height region.verticalOffset.ceilToInt region.height.ceilToInt)

/-- The clamped rectangle has the dimensions of the image, or is inside it and not empty. -/
def TargetFits (width height : ℤ) (region : RegionParameters) : Prop :=
  region.clamped width height = (width, height) ∨
    (0 ≤ region.horizontalOffset.ceilToInt ∧ 0 ≤ region.verticalOffset.ceilToInt) ∧
      (1 ≤ (region.clamped width height).1 ∧ 1 ≤ (region.clamped width height).2) ∧
      region.horizontalOffset.ceilToInt + (region.clamped width height).1 ≤ width ∧
      region.verticalOffset.ceilToInt + (region.clamped width height).2 ≤ height

end RegionParameters

namespace JAIImage

variable {α : Type} {fp : Rounding} {region : RegionParameters} {self : JAIImage α}
variable {image : BufferedImage α}

/-- A region that starts outside the image is rejected as invalid. -/
theorem run_crop_of_startsOutside (fp : Rounding) (present : self.image = some image)
    (absolute : region.absolute = true)
    (outside : region.StartsOutside image.raster.width image.raster.height) :
    ∃ message, EStateM.run (crop fp region) self =
      .error (.invalidParameters message) self := by
  rw [RegionParameters.StartsOutside] at outside
  rw [crop, run_buffered_bind present, RegionParameters.bounds_of_absolute absolute]
  dsimp only
  rw [if_pos outside]
  exact ⟨_, rfl⟩

/-- A region that starts inside the image is replaced by its clamped target. -/
theorem run_crop_of_starts (fp : Rounding) (present : self.image = some image)
    (absolute : region.absolute = true)
    (starts : ¬region.StartsOutside image.raster.width image.raster.height) :
    EStateM.run (crop fp region) self =
      EStateM.run (cropTarget image region.horizontalOffset.ceilToInt
        region.verticalOffset.ceilToInt (region.clamped image.raster.width image.raster.height).1
        (region.clamped image.raster.width image.raster.height).2) self := by
  rw [RegionParameters.StartsOutside] at starts
  rw [crop, run_buffered_bind present, RegionParameters.bounds_of_absolute absolute]
  dsimp only
  rw [if_neg starts]
  rfl

/-- The end of `crop` leaves an image of the target's dimensions and of the same type. -/
theorem run_crop_of_targetFits (fp : Rounding) (present : self.image = some image)
    (absolute : region.absolute = true)
    (starts : ¬region.StartsOutside image.raster.width image.raster.height)
    (fits : region.TargetFits image.raster.width image.raster.height) :
    ∃ part, EStateM.run (crop fp region) self = .ok ⟨⟩ { self with image := some part } ∧
      ((part.raster.width : ℤ), (part.raster.height : ℤ)) =
        region.clamped image.raster.width image.raster.height ∧
      part.type = image.type := by
  rw [run_crop_of_starts fp present absolute starts, cropTarget]
  split
  next differs =>
    have inside := fits.resolve_left (fun same => by rw [same] at differs; simp at differs)
    rcases inside with ⟨⟨left, top⟩, ⟨wide, tall⟩, right, bottom⟩
    rcases BufferedImage.getSubimage_of_inside left top wide tall right bottom with
      ⟨part, selected, raster, type⟩
    rw [selected]
    refine ⟨part, rfl, Prod.ext ?_ ?_, type⟩
    · rw [raster, Raster.width_crop]
      dsimp only
      omega
    · rw [raster, Raster.height_crop]
      dsimp only
      omega
  next same =>
    refine ⟨image, ?_, ?_, rfl⟩
    · rw [← present]
      rfl
    · simp only [not_or, not_not] at same
      exact (Prod.ext same.2 same.1).symm

/-- A target that is neither the whole image nor inside it is refused by `getSubimage`. -/
theorem run_crop_of_target_misses (fp : Rounding) (present : self.image = some image)
    (absolute : region.absolute = true)
    (starts : ¬region.StartsOutside image.raster.width image.raster.height)
    (misses : ¬region.TargetFits image.raster.width image.raster.height) :
    EStateM.run (crop fp region) self = .error (.rasterFormat none) self := by
  rcases not_or.mp misses with ⟨differs, misses⟩
  have changed : (region.clamped image.raster.width image.raster.height).2 ≠ image.raster.height ∨
      (region.clamped image.raster.width image.raster.height).1 ≠ image.raster.width := by
    by_contra same
    simp only [not_or, not_not] at same
    exact differs (Prod.ext same.2 same.1)
  rw [run_crop_of_starts fp present absolute starts, cropTarget, if_pos changed,
    BufferedImage.getSubimage_of_misses misses]
  rfl

/-- A crop that returns has found a target that fits, and leaves an image of its
dimensions. -/
theorem run_crop_eq_ok {final : JAIImage α} (present : self.image = some image)
    (absolute : region.absolute = true)
    (ran : EStateM.run (crop fp region) self = .ok ⟨⟩ final) :
    (¬region.StartsOutside image.raster.width image.raster.height ∧
        region.TargetFits image.raster.width image.raster.height) ∧
      ∃ part, final = { self with image := some part } ∧
        ((part.raster.width : ℤ), (part.raster.height : ℤ)) =
          region.clamped image.raster.width image.raster.height := by
  have starts : ¬region.StartsOutside image.raster.width image.raster.height := by
    intro outside
    rcases run_crop_of_startsOutside fp present absolute outside with ⟨message, rejected⟩
    rw [ran] at rejected
    cases rejected
  have fits : region.TargetFits image.raster.width image.raster.height := by
    by_contra misses
    have refused := run_crop_of_target_misses fp present absolute starts misses
    rw [ran] at refused
    cases refused
  rcases run_crop_of_targetFits fp present absolute starts fits with ⟨part, returned, size, -⟩
  rw [ran] at returned
  cases returned
  exact ⟨⟨starts, fits⟩, part, rfl, size⟩

end JAIImage

end IiifImage
