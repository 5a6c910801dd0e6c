import IiifImage.Regions.Relative

/-!
# Coordinates and their hundredth parts

The numbers of a relative region are multiplied with a dimension and divided by a hundred, once
by the parser and once more by `crop`.  On an axis the hundredth parts of an offset and an extent
select other pixels, as a rule.
-/

namespace IiifImage

open Java TurboJpeg

/-! ## One axis -/

section Axis

variable {size : ℕ} {offset extent : ℚ}

/-- On an axis of the given size an exact offset and extent select the same pixels as their
hundredth parts do. -/
def HundredthsSelectAlike (size : ℕ) (offset extent : ℚ) : Prop :=
  (offset ≤ 1 ∧ ⌈offset⌉ < (size : ℤ)) ∧
    (extent ≤ 1 ∨ 100 * ((size : ℚ) - ⌈offset⌉ - 1) < extent)

theorem ceil_hundredth_le (nonneg : 0 ≤ offset) : ⌈offset / 100⌉ ≤ ⌈offset⌉ :=
  Int.ceil_mono (div_le_self nonneg (by norm_num))

/-- The hundredth part is rounded to the same number only up to one. -/
theorem ceil_hundredth_eq_iff (nonneg : 0 ≤ offset) :
    ⌈offset / 100⌉ = ⌈offset⌉ ↔ offset ≤ 1 := by
  constructor
  · intro same
    by_contra large
    rw [not_le] at large
    have below := Int.ceil_lt_add_one (offset / 100)
    have above := Int.le_ceil offset
    rw [same] at below
    have two : (2 : ℚ) ≤ ⌈offset⌉ := by
      have one_lt : (1 : ℤ) < ⌈offset⌉ := Int.lt_ceil.mpr (by exact_mod_cast large)
      exact_mod_cast one_lt
    linarith
  · intro small
    rcases nonneg.eq_or_lt with rfl | positive
    · rw [zero_div]
    · have one : ∀ {q : ℚ}, 0 < q → q ≤ 1 → ⌈q⌉ = 1 := by
        intro q qPos qLe
        rw [Int.ceil_eq_iff]
        push_cast
        constructor <;> linarith
      rw [one positive small, one (by positivity) (by linarith)]

/-- The clamp of `makeAbsolute` does not change what the clamp of `crop` leaves. -/
theorem min_ceil_clamped (size : ℕ) (offset extent : ℚ) :
    min ⌈min extent (size - offset)⌉ (size - ⌈offset⌉) = min ⌈extent⌉ (size - ⌈offset⌉) := by
  have room : (size : ℤ) - ⌈offset⌉ ≤ ⌈(size : ℚ) - offset⌉ := by
    have sum := Int.ceil_add_le offset ((size : ℚ) - offset)
    rw [add_sub_cancel, Int.ceil_natCast] at sum
    omega
  have split : ⌈min extent (size - offset)⌉ = min ⌈extent⌉ ⌈(size : ℚ) - offset⌉ :=
    Int.ceil_mono.map_min
  rw [split, min_assoc, min_eq_right room]

theorem min_ceil_hundredth_iff {room : ℤ} (nonneg : 0 ≤ extent) :
    min ⌈extent / 100⌉ room = min ⌈extent⌉ room ↔
      extent ≤ 1 ∨ 100 * ((room : ℚ) - 1) < extent := by
  have le := ceil_hundredth_le nonneg
  have fills : 100 * ((room : ℚ) - 1) < extent ↔ room ≤ ⌈extent / 100⌉ := by
    rw [← Int.sub_one_lt_iff, Int.lt_ceil, lt_div_iff₀ (by norm_num)]
    push_cast
    rw [mul_comm]
  rw [fills, ← ceil_hundredth_eq_iff nonneg]
  omega

/-- The pixels that are selected on one axis. -/
def axisPixels (size : ℕ) (offset extent : ℚ) : ℤ × ℤ :=
  (⌈offset⌉, min ⌈extent⌉ (size - ⌈offset⌉))

/-- A direct crop and one after `makeAbsolute` select the same pixels of an axis. -/
theorem hundredthsSelectAlike_iff (offsetNonneg : 0 ≤ offset) (extentNonneg : 0 ≤ extent) :
    ⌈offset⌉ < (size : ℤ) ∧ axisPixels size (offset / 100) (extent / 100) =
        axisPixels size offset (min extent (size - offset)) ↔
      HundredthsSelectAlike size offset extent := by
  rw [axisPixels, axisPixels, Prod.mk.injEq, ceil_hundredth_eq_iff offsetNonneg,
    min_ceil_clamped, HundredthsSelectAlike]
  constructor
  · rintro ⟨inside, small, extents⟩
    rw [(ceil_hundredth_eq_iff offsetNonneg).mpr small, min_ceil_hundredth_iff extentNonneg]
      at extents
    push_cast at extents
    exact ⟨⟨small, inside⟩, extents⟩
  · rintro ⟨⟨small, inside⟩, extents⟩
    refine ⟨inside, small, ?_⟩
    rw [(ceil_hundredth_eq_iff offsetNonneg).mpr small, min_ceil_hundredth_iff extentNonneg]
    push_cast
    exact extents

end Axis

/-! ## Exact regions -/

/-- Coordinates of a region, as they result from non-negative numbers. -/
structure Coordinates (x y w h : ℚ) : Prop where
  left : 0 ≤ x
  top : 0 ≤ y
  wide : 0 ≤ w
  tall : 0 ≤ h

namespace Coordinates

open Fits (rounded toNat_ceil)

variable {x y w h x' y' w' h' : ℚ} {width height : ℕ}

/-- The rectangle of an exact region with its extents as `int` values. -/
def saturated (x y w h : ℚ) : Rect :=
  ⟨⌈x⌉.toNat, ⌈y⌉.toNat, (saturate ⌈w⌉).toNat, (saturate ⌈h⌉).toNat⟩

theorem saturate_nonneg {n : ℤ} (nonneg : 0 ≤ n) : 0 ≤ saturate n := by
  unfold saturate minInt maxInt
  omega

theorem bounds_eq (coordinates : Coordinates x y w h) (left : ⌈x⌉ ≤ maxInt)
    (top : ⌈y⌉ ≤ maxInt) (fp : Rounding) (imageWidth imageHeight : ℤ) :
    (RegionParameters.ofRats x y w h).bounds fp imageWidth imageHeight =
      (↑(saturated x y w h).x, ↑(saturated x y w h).y, ↑(saturated x y w h).width,
        ↑(saturated x y w h).height) := by
  have wide := saturate_nonneg (Int.ceil_nonneg coordinates.wide)
  have tall := saturate_nonneg (Int.ceil_nonneg coordinates.tall)
  simp only [RegionParameters.bounds, RegionParameters.ofRats, if_true, JFloat.ceilToInt_fin,
    saturated, toNat_ceil coordinates.left, toNat_ceil coordinates.top,
    Int.toNat_of_nonneg wide, Int.toNat_of_nonneg tall]
  rw [saturate_of_range (minInt_le_of_nonneg (Int.ceil_nonneg coordinates.left)) left,
    saturate_of_range (minInt_le_of_nonneg (Int.ceil_nonneg coordinates.top)) top]

/-- The clamp of `int` values is not seen inside an image. -/
theorem clip_saturated (columns : (width : ℤ) ≤ maxInt) (rows : (height : ℤ) ≤ maxInt)
    (coordinates : Coordinates x y w h) :
    (saturated x y w h).clip width height = (rounded x y w h).clip width height := by
  have wide := Int.ceil_nonneg coordinates.wide
  have tall := Int.ceil_nonneg coordinates.tall
  simp only [Rect.clip, saturated, rounded, Rect.mk.injEq, true_and]
  unfold saturate minInt
  unfold maxInt at *
  omega

/-- One axis of a clipped rectangle. -/
theorem axis_eq_iff {size : ℕ} {offset extent offset' extent' : ℚ}
    (offsetNonneg : 0 ≤ offset) (extentNonneg : 0 ≤ extent) (offsetNonneg' : 0 ≤ offset')
    (extentNonneg' : 0 ≤ extent') (starts : ⌈offset⌉ < (size : ℤ)) :
    (⌈offset⌉.toNat = ⌈offset'⌉.toNat ∧
        min ⌈extent⌉.toNat (size - ⌈offset⌉.toNat) =
          min ⌈extent'⌉.toNat (size - ⌈offset'⌉.toNat)) ↔
      axisPixels size offset extent = axisPixels size offset' extent' := by
  have sameOffset : ⌈offset⌉.toNat = ⌈offset'⌉.toNat ↔ ⌈offset⌉ = ⌈offset'⌉ := by
    rw [← Nat.cast_inj (R := ℤ), toNat_ceil offsetNonneg, toNat_ceil offsetNonneg']
  have clamped : ∀ {extent : ℚ}, 0 ≤ extent →
      ((min ⌈extent⌉.toNat (size - ⌈offset⌉.toNat) : ℕ) : ℤ) =
        min ⌈extent⌉ (size - ⌈offset⌉) := by
    intro extent nonneg
    have offsetInt := toNat_ceil offsetNonneg
    have extentInt := toNat_ceil nonneg
    omega
  rw [axisPixels, axisPixels, Prod.mk.injEq, sameOffset]
  refine and_congr_right fun same => ?_
  rw [← same, ← clamped extentNonneg, ← clamped extentNonneg', Nat.cast_inj]

/-- Two exact regions select the same rectangle if they select the same pixels of both
axes. -/
theorem clip_eq_iff (coordinates : Coordinates x y w h)
    (coordinates' : Coordinates x' y' w' h')
    (starts : ⌈x⌉ < (width : ℤ) ∧ ⌈y⌉ < (height : ℤ)) :
    (rounded x y w h).clip width height = (rounded x' y' w' h').clip width height ↔
      axisPixels width x w = axisPixels width x' w' ∧
        axisPixels height y h = axisPixels height y' h' := by
  rw [← axis_eq_iff coordinates.left coordinates.wide coordinates'.left coordinates'.wide
      starts.1,
    ← axis_eq_iff coordinates.top coordinates.tall coordinates'.top coordinates'.tall starts.2]
  simp only [Rect.clip, rounded, Rect.mk.injEq]
  tauto

end Coordinates

/-! ## Regions that start in an image -/

namespace Coordinates

open Fits (rounded toNat_ceil)

variable {x y w h : ℚ} {width height : ℕ}

theorem hundredth (coordinates : Coordinates x y w h) :
    Coordinates (x / 100) (y / 100) (w / 100) (h / 100) where
  left := div_nonneg coordinates.left (by norm_num)
  top := div_nonneg coordinates.top (by norm_num)
  wide := div_nonneg coordinates.wide (by norm_num)
  tall := div_nonneg coordinates.tall (by norm_num)

/-- The clamp of `makeAbsolute` leaves non-negative extents, if the offsets are inside. -/
theorem clamped (coordinates : Coordinates x y w h) (left : x ≤ width) (top : y ≤ height) :
    Coordinates x y (min w (width - x)) (min h (height - y)) where
  left := coordinates.left
  top := coordinates.top
  wide := le_min coordinates.wide (sub_nonneg.mpr left)
  tall := le_min coordinates.tall (sub_nonneg.mpr top)

/-- A region starts in an image of the given dimensions and is not empty. -/
structure Starts (width height : ℕ) (x y w h : ℚ) : Prop where
  left : ⌈x⌉ < (width : ℤ)
  top : ⌈y⌉ < (height : ℤ)
  wide : 0 < w
  tall : 0 < h

theorem Starts.offsets (starts : Starts width height x y w h) : x < width ∧ y < height :=
  ⟨(Int.le_ceil x).trans_lt (by exact_mod_cast starts.left),
    (Int.le_ceil y).trans_lt (by exact_mod_cast starts.top)⟩

theorem Starts.clamped (starts : Starts width height x y w h) :
    Starts width height x y (min w (width - x)) (min h (height - y)) where
  left := starts.left
  top := starts.top
  wide := lt_min starts.wide (sub_pos.mpr starts.offsets.1)
  tall := lt_min starts.tall (sub_pos.mpr starts.offsets.2)

theorem Starts.of_clamped
    (starts : Starts width height x y (min w (width - x)) (min h (height - y))) :
    Starts width height x y w h where
  left := starts.left
  top := starts.top
  wide := starts.wide.trans_le (min_le_left _ _)
  tall := starts.tall.trans_le (min_le_left _ _)

/-- A rectangle inside an image of the given dimensions with a pixel. -/
def Proper (width height : ℕ) (rect : Rect) : Prop :=
  (0 < rect.width ∧ 0 < rect.height) ∧ rect.Inside width height

/-- The hundredth parts start inside as well. -/
theorem Starts.hundredth (starts : Starts width height x y w h)
    (coordinates : Coordinates x y w h) :
    Starts width height (x / 100) (y / 100) (w / 100) (h / 100) where
  left := (ceil_hundredth_le coordinates.left).trans_lt starts.left
  top := (ceil_hundredth_le coordinates.top).trans_lt starts.top
  wide := div_pos starts.wide (by norm_num)
  tall := div_pos starts.tall (by norm_num)

/-- The rectangles of the two ways are the same if both axes agree. -/
theorem clip_eq_iff_agrees (coordinates : Coordinates x y w h)
    (starts : Starts width height x y w h) :
    (rounded (x / 100) (y / 100) (w / 100) (h / 100)).clip width height =
        (rounded x y (min w (width - x)) (min h (height - y))).clip width height ↔
      HundredthsSelectAlike width x w ∧ HundredthsSelectAlike height y h := by
  have inside := starts.offsets
  have hundredth := starts.hundredth coordinates
  rw [clip_eq_iff coordinates.hundredth (coordinates.clamped inside.1.le inside.2.le)
      ⟨hundredth.left, hundredth.top⟩,
    ← hundredthsSelectAlike_iff coordinates.left coordinates.wide,
    ← hundredthsSelectAlike_iff coordinates.top coordinates.tall, and_iff_right starts.left,
    and_iff_right starts.top]

theorem proper_clip (coordinates : Coordinates x y w h) (starts : Starts width height x y w h) :
    Proper width height ((rounded x y w h).clip width height) := by
  have left := toNat_ceil coordinates.left
  have top := toNat_ceil coordinates.top
  have wide := toNat_ceil coordinates.wide
  have tall := toNat_ceil coordinates.tall
  have widePos := Int.ceil_pos.mpr starts.wide
  have tallPos := Int.ceil_pos.mpr starts.tall
  have leftLt := starts.left
  have topLt := starts.top
  have inImage : ((rounded x y w h).x < width ∧ (rounded x y w h).y < height) ∧
      0 < (rounded x y w h).width ∧ 0 < (rounded x y w h).height := by
    unfold rounded
    dsimp only
    omega
  obtain ⟨inside, partWide, partTall⟩ :=
    Rect.clip_inside inImage.1.1 inImage.1.2 inImage.2.1 inImage.2.2
  exact ⟨⟨partWide, partTall⟩, inside⟩

/-! ## Extents that are clamped to the range of `int` -/

theorem saturate_lt_iff {offset : ℚ} {size : ℕ} (small : (size : ℤ) ≤ maxInt)
    (sizePos : 0 < size) : saturate ⌈offset⌉ < (size : ℤ) ↔ ⌈offset⌉ < (size : ℤ) := by
  have low : minInt < (size : ℤ) := by
    unfold minInt
    omega
  rw [← not_le, ← not_le, le_saturate_iff low small]

theorem one_le_saturate_iff {extent : ℚ} : 1 ≤ saturate ⌈extent⌉ ↔ 0 < extent := by
  rw [le_saturate_iff (by decide) (by decide), Int.one_le_ceil_iff]

/-- A non-negative region that selects a pixel is one that starts inside. -/
theorem selects_iff (coordinates : Coordinates x y w h) (columns : (width : ℤ) ≤ maxInt)
    (rows : (height : ℤ) ≤ maxInt) (wide : 0 < width) (tall : 0 < height) :
    (RegionParameters.ofRats x y w h).Selects width height ↔ Starts width height x y w h := by
  have left := saturate_nonneg (Int.ceil_nonneg coordinates.left)
  have top := saturate_nonneg (Int.ceil_nonneg coordinates.top)
  rw [RegionParameters.selects_iff]
  simp only [RegionParameters.ofRats, JFloat.ceilToInt_fin, left, top, true_and,
    saturate_lt_iff columns wide, saturate_lt_iff rows tall, one_le_saturate_iff]
  exact ⟨fun selects => ⟨selects.1, selects.2.1, selects.2.2.1, selects.2.2.2⟩,
    fun starts => ⟨starts.left, starts.top, starts.wide, starts.tall⟩⟩

/-- The bounds of a region that starts inside are those of its rectangle. -/
theorem bounds_of_starts (coordinates : Coordinates x y w h)
    (starts : Starts width height x y w h) (columns : (width : ℤ) ≤ maxInt)
    (rows : (height : ℤ) ≤ maxInt) (fp : Rounding) (imageWidth imageHeight : ℤ) :
    (RegionParameters.ofRats x y w h).bounds fp imageWidth imageHeight =
      (↑(saturated x y w h).x, ↑(saturated x y w h).y, ↑(saturated x y w h).width,
        ↑(saturated x y w h).height) :=
  coordinates.bounds_eq (starts.left.le.trans columns) (starts.top.le.trans rows) fp imageWidth
    imageHeight

theorem saturated_inside (coordinates : Coordinates x y w h)
    (starts : Starts width height x y w h) :
    ((saturated x y w h).x < width ∧ (saturated x y w h).y < height) ∧
      0 < (saturated x y w h).width ∧ 0 < (saturated x y w h).height := by
  have left := starts.left
  have top := starts.top
  have leftNonneg := Int.ceil_nonneg coordinates.left
  have topNonneg := Int.ceil_nonneg coordinates.top
  have wide := one_le_saturate_iff.mpr starts.wide
  have tall := one_le_saturate_iff.mpr starts.tall
  unfold saturated
  dsimp only
  omega

end Coordinates

end IiifImage
