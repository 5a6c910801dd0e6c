import IiifImage.Crops.Relative.TwoWays

/-!
# Relative regions on the ImageIO backend

An exact region that ends in the range of `int` is cut out, clipped to the image.  Where the sum
of offset and extent wraps, the image is not clipped.
-/

namespace IiifImage

open Java TurboJpeg

open Coordinates (Starts Proper)

namespace JAIImage

variable {α : Type} {self : JAIImage α} {source : BufferedImage α}
variable {width height : ℕ} {x y w h : ℚ}

theorem run_crop_congr {region region' : RegionParameters} (present : self.image = some source)
    (same : region.bounds .exact source.raster.width source.raster.height =
      region'.bounds .exact source.raster.width source.raster.height) :
    EStateM.run (crop .exact region) self = EStateM.run (crop .exact region') self := by
  rw [crop, crop, run_buffered_bind present, run_buffered_bind present, same]

/-- A region starts inside, is not empty, and its end is in the range of `int`. -/
structure Ends (width height : ℕ) (x y w h : ℚ) : Prop extends Starts width height x y w h where
  right : ⌈x⌉ + saturate ⌈w⌉ ≤ maxInt
  bottom : ⌈y⌉ + saturate ⌈h⌉ ≤ maxInt

/-- A region starts outside. -/
def Outside (width height : ℕ) (x y _w _h : ℚ) : Prop :=
  (width : ℤ) ≤ ⌈x⌉ ∨ (height : ℤ) ≤ ⌈y⌉

theorem startsOutside_ofRats_iff (columns : (width : ℤ) ≤ maxInt) (rows : (height : ℤ) ≤ maxInt)
    (wide : 0 < width) (tall : 0 < height) :
    (RegionParameters.ofRats x y w h).StartsOutside width height ↔
      Outside width height x y w h := by
  simp only [RegionParameters.StartsOutside, RegionParameters.ofRats, JFloat.ceilToInt_fin,
    ge_iff_le, ← not_lt, Coordinates.saturate_lt_iff columns wide,
    Coordinates.saturate_lt_iff rows tall, Outside]

/-- An empty extent is not clamped. -/
theorem clampExtent_zero {size offset : ℤ} (nonneg : 0 ≤ offset) (inside : offset < size)
    (small : size ≤ maxInt) : clampExtent size offset 0 = 0 := by
  rw [clampExtent, add_zero, wrap_of_range (minInt_le_of_nonneg nonneg) (inside.le.trans small),
    if_neg inside.not_gt]

/-- The end of an extent that is clamped to a part inside is in the range of `int`. -/
theorem ends_of_clamped {size offset extent part : ℤ} (nonneg : 0 ≤ offset)
    (inside : offset < size) (small : size ≤ maxInt) (extentNonneg : 0 ≤ extent)
    (extentLe : extent ≤ maxInt) (clamped : clampExtent size offset extent = part)
    (positive : 0 < part) (room : offset + part ≤ size) :
    offset + extent ≤ maxInt ∧ 0 < extent := by
  have ends : offset + extent ≤ maxInt := by
    by_contra overflow
    rw [clampExtent_of_overflow nonneg (inside.le.trans small) extentLe (by omega)
      (not_le.mp overflow)] at clamped
    omega
  refine ⟨ends, extentNonneg.lt_of_ne ?_⟩
  rintro rfl
  rw [clampExtent_zero nonneg inside small] at clamped
  omega

/-- What an image shows after a crop has the clamped dimensions. -/
theorem clamped_of_shown {region : RegionParameters} {final : JAIImage α} {rect : Rect}
    (present : self.image = some source) (absolute : region.absolute = true)
    (ran : EStateM.run (crop .exact region) self = .ok ⟨⟩ final)
    (shown : ShowsPart source final rect)
    (inside : rect.Inside source.raster.width source.raster.height) :
    region.clamped source.raster.width source.raster.height =
      ((rect.width : ℤ), (rect.height : ℤ)) := by
  rcases run_crop_eq_ok present absolute ran with ⟨-, part, rfl, size⟩
  have raster : part.raster = source.raster.crop rect := Option.some.inj shown
  rw [← size, raster, Raster.width_crop_of_inside inside, Raster.height_crop_of_inside inside]

/-- A crop returns with a target that is not empty. -/
theorem clamped_pos_of_returned {region : RegionParameters} {final : JAIImage α}
    (present : self.image = some source) (absolute : region.absolute = true)
    (ran : EStateM.run (crop .exact region) self = .ok ⟨⟩ final) :
    1 ≤ (region.clamped source.raster.width source.raster.height).1 ∧
      1 ≤ (region.clamped source.raster.width source.raster.height).2 := by
  have wide := source.width_pos
  have tall := source.height_pos
  rcases (run_crop_eq_ok present absolute ran).1.2 with same | fits
  · rw [same]
    dsimp only
    omega
  · exact fits.2.1

section Allocated

variable {final : JAIImage α}

/-- The offsets of a crop that returns are inside the image. -/
theorem starts_of_returned (present : self.image = some source) (allocated : source.Allocated)
    (ran : EStateM.run (crop .exact (.ofRats x y w h)) self = .ok ⟨⟩ final) :
    ⌈x⌉ < (source.raster.width : ℤ) ∧ ⌈y⌉ < (source.raster.height : ℤ) := by
  have starts := (run_crop_eq_ok present rfl ran).1.1
  rw [startsOutside_ofRats_iff allocated.columns.le allocated.rows.le source.width_pos
    source.height_pos, Outside, not_or, not_le, not_le] at starts
  exact starts

theorem rejects_iff_outside (present : self.image = some source)
    (allocated : source.Allocated) :
    Rejects (crop .exact (.ofRats x y w h)) self ↔
      Outside source.raster.width source.raster.height x y w h := by
  rw [← startsOutside_ofRats_iff allocated.columns.le allocated.rows.le source.width_pos
    source.height_pos]
  constructor
  · rintro ⟨message, final, rejected⟩
    exact outside_of_rejected present rfl rejected
  · intro outside
    rcases run_crop_of_startsOutside .exact present rfl outside with ⟨message, rejected⟩
    exact ⟨message, self, rejected⟩

/-- A region whose end is in the range of `int` is selected. -/
theorem run_crop_of_ends (present : self.image = some source) (allocated : source.Allocated)
    (coordinates : Coordinates x y w h)
    (ends : Ends source.raster.width source.raster.height x y w h) :
    ∃ final, EStateM.run (crop .exact (.ofRats x y w h)) self = .ok ⟨⟩ final ∧
      ShowsPart source final
        ((Fits.rounded x y w h).clip source.raster.width source.raster.height) := by
  have columns := allocated.columns.le
  have rows := allocated.rows.le
  rcases coordinates.saturated_inside ends.toStarts with ⟨⟨left, top⟩, wide, tall⟩
  have leftInt := Fits.toNat_ceil coordinates.left
  have topInt := Fits.toNat_ceil coordinates.top
  have wideInt := Coordinates.saturate_nonneg (Int.ceil_nonneg coordinates.wide)
  have tallInt := Coordinates.saturate_nonneg (Int.ceil_nonneg coordinates.tall)
  have right := ends.right
  have bottom := ends.bottom
  obtain ⟨part, returned, raster⟩ := run_crop_inside present
    (coordinates.bounds_of_starts ends.toStarts columns rows .exact _ _) left top wide tall
    (by unfold Coordinates.saturated; dsimp only; omega)
    (by unfold Coordinates.saturated; dsimp only; omega) columns rows
  refine ⟨_, returned, ?_⟩
  rw [ShowsPart, ← Coordinates.clip_saturated columns rows coordinates, Raster.crop_clip,
    ← raster]
  rfl

/-- The offsets inside the image are not clamped to the range of `int`. -/
theorem saturate_offset {size : ℕ} {offset : ℚ} (nonneg : 0 ≤ offset)
    (inside : ⌈offset⌉ < (size : ℤ)) (small : (size : ℤ) ≤ maxInt) :
    saturate ⌈offset⌉ = ⌈offset⌉ :=
  saturate_of_range (minInt_le_of_nonneg (Int.ceil_nonneg nonneg)) (inside.le.trans small)

/-- A crop that shows a rectangle at or behind the region's offsets has not overflowed. -/
theorem ends_of_shown {rect : Rect} (present : self.image = some source)
    (allocated : source.Allocated) (coordinates : Coordinates x y w h)
    (ran : EStateM.run (crop .exact (.ofRats x y w h)) self = .ok ⟨⟩ final)
    (shown : ShowsPart source final rect)
    (proper : Proper source.raster.width source.raster.height rect) (atLeft : ⌈x⌉ ≤ rect.x)
    (atTop : ⌈y⌉ ≤ rect.y) : Ends source.raster.width source.raster.height x y w h := by
  have columns := allocated.columns.le
  have rows := allocated.rows.le
  rcases proper with ⟨⟨wide, tall⟩, inside⟩
  rcases starts_of_returned present allocated ran with ⟨left, top⟩
  have clamped := clamped_of_shown present rfl ran shown inside
  simp only [RegionParameters.clamped, RegionParameters.ofRats, JFloat.ceilToInt_fin,
    saturate_offset coordinates.left left columns, saturate_offset coordinates.top top rows,
    Prod.mk.injEq] at clamped
  rcases inside with ⟨right, bottom⟩
  obtain ⟨ends, widePos⟩ := ends_of_clamped (Int.ceil_nonneg coordinates.left) left columns
    (Coordinates.saturate_nonneg (Int.ceil_nonneg coordinates.wide)) (saturate_le_maxInt _)
    clamped.1 (by omega) (by omega)
  obtain ⟨endsBelow, tallPos⟩ := ends_of_clamped (Int.ceil_nonneg coordinates.top) top rows
    (Coordinates.saturate_nonneg (Int.ceil_nonneg coordinates.tall)) (saturate_le_maxInt _)
    clamped.2 (by omega) (by omega)
  exact ⟨⟨left, top, Coordinates.one_le_saturate_iff.mp widePos,
    Coordinates.one_le_saturate_iff.mp tallPos⟩, ends, endsBelow⟩

/-- An extent that is not empty after the clamp was not empty before. -/
theorem extent_pos_of_clamped {size : ℕ} {offset extent : ℚ} (nonneg : 0 ≤ offset)
    (inside : ⌈offset⌉ < (size : ℤ)) (small : (size : ℤ) ≤ maxInt) (extentNonneg : 0 ≤ extent)
    (clamped : 1 ≤ clampExtent size (saturate ⌈offset⌉) (saturate ⌈extent⌉)) : 0 < extent := by
  refine extentNonneg.lt_of_ne ?_
  rintro rfl
  rw [Int.ceil_zero, saturate_zero, saturate_offset nonneg inside small,
    clampExtent_zero (Int.ceil_nonneg nonneg) inside small] at clamped
  omega

/-- A region clamped by `makeAbsolute` ends in the range of `int`. -/
theorem ends_clamped (coordinates : Coordinates x y w h) (starts : Starts width height x y w h)
    (columns : (width : ℤ) < maxInt) (rows : (height : ℤ) < maxInt) :
    Ends width height x y (min w (width - x)) (min h (height - y)) := by
  have ends : ∀ {size : ℕ} {offset extent : ℚ}, 0 ≤ offset → (size : ℤ) < maxInt →
      0 < min extent (size - offset) →
      ⌈offset⌉ + saturate ⌈min extent (size - offset)⌉ ≤ maxInt := by
    intro size offset extent nonneg small positive
    have sum := Fits.ceil_add_ceil_le (min_le_right extent (size - offset))
    have offsetNonneg := Int.ceil_nonneg nonneg
    rw [saturate_of_range (minInt_le_of_nonneg (Int.ceil_nonneg positive.le)) (by omega)]
    omega
  exact ⟨starts.clamped, ends coordinates.left columns starts.clamped.wide,
    ends coordinates.top rows starts.clamped.tall⟩

end Allocated

theorem cropsExact (present : self.image = some source) (allocated : source.Allocated) :
    CropsExact (crop .exact) self (ShowsPart source) source.raster.width source.raster.height
      (Ends source.raster.width source.raster.height)
      (Outside source.raster.width source.raster.height) where
  sameBounds := run_crop_congr present
  rejects_iff _ := rejects_iff_outside present allocated
  starts ends := ends.toStarts
  selects := run_crop_of_ends present allocated
  accepts := ends_of_shown present allocated
  starts_clamped := by
    intro x y w h final coordinates ran
    rcases starts_of_returned present allocated ran with ⟨left, top⟩
    rcases clamped_pos_of_returned present rfl ran with ⟨wide, tall⟩
    apply Starts.of_clamped
    exact ⟨left, top,
      extent_pos_of_clamped coordinates.left left allocated.columns.le coordinates.wide wide,
      extent_pos_of_clamped coordinates.top top allocated.rows.le coordinates.tall tall⟩
  accepts_clamped coordinates starts :=
    ends_clamped coordinates starts allocated.columns allocated.rows
  refuses_clamped coordinates _ _ outside :=
    outside.imp (fun left => left.trans (ceil_hundredth_le coordinates.left))
      (fun top => top.trans (ceil_hundredth_le coordinates.top))

/-- On an image without two equal pixels the rectangle can be seen. -/
theorem rect_eq_of_showsPart (injective : source.raster.Injective) {final : JAIImage α}
    {rect rect' : Rect} (proper : Proper source.raster.width source.raster.height rect)
    (proper' : Proper source.raster.width source.raster.height rect')
    (shown : ShowsPart source final rect) (shown' : ShowsPart source final rect') :
    rect = rect' :=
  injective.rect_eq proper.2 proper'.2 proper.1.1 proper.1.2
    (Option.some.inj (shown.symm.trans shown'))

end JAIImage

end IiifImage
