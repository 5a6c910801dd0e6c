import IiifImage.Java.Method
import IiifImage.Java.Number
import IiifImage.Model.Throwable
import IiifImage.Raster.Basic

/-!
# Region and rotation parameters

`makeAbsolute` rewrites its object in place, so it is a method.  It assigns all
four fields before it looks at the offsets.
-/

namespace IiifImage

open Java

/-- The numbers of the rectangle are floats. -/
structure Rect.Representable (rect : Rect) : Prop where
  x : rect.x ≤ 16777216
  y : rect.y ≤ 16777216
  width : rect.width ≤ 16777216
  height : rect.height ≤ 16777216

structure RegionParameters where
  absolute : Bool
  horizontalOffset : JFloat
  verticalOffset : JFloat
  width : JFloat
  height : JFloat
  deriving DecidableEq, Repr

namespace RegionParameters

/-- The absolute region with integral offsets and dimensions. -/
def ofInts (fp : Rounding) (x y width height : ℤ) : RegionParameters where
  absolute := true
  horizontalOffset := fp.ofInt x
  verticalOffset := fp.ofInt y
  width := fp.ofInt width
  height := fp.ofInt height

/-- The absolute region with finite offsets and dimensions. -/
def ofRats (x y width height : ℚ) : RegionParameters where
  absolute := true
  horizontalOffset := .fin x
  verticalOffset := .fin y
  width := .fin width
  height := .fin height

/-- The absolute region of a rectangle of pixels. -/
def ofRect (fp : Rounding) (rect : Rect) : RegionParameters :=
  ofInts fp rect.x rect.y rect.width rect.height

/-- The four products of `makeAbsolute`. -/
def scaledTo (fp : Rounding) (imageWidth imageHeight : ℤ)
    (region : RegionParameters) : RegionParameters :=
  { region with
    horizontalOffset := fp.mul region.horizontalOffset (fp.ofInt imageWidth)
    verticalOffset := fp.mul region.verticalOffset (fp.ofInt imageHeight)
    width := fp.mul region.width (fp.ofInt imageWidth)
    height := fp.mul region.height (fp.ofInt imageHeight) }

/-- The two clamps of `makeAbsolute`. -/
def clampedTo (fp : Rounding) (imageWidth imageHeight : ℤ)
    (region : RegionParameters) : RegionParameters :=
  let roomRight := fp.sub (fp.ofInt imageWidth) region.horizontalOffset
  let roomBelow := fp.sub (fp.ofInt imageHeight) region.verticalOffset
  { region with
    width := if region.width.gt roomRight then roomRight else region.width
    height := if region.height.gt roomBelow then roomBelow else region.height }

def makeAbsolute (fp : Rounding) (imageWidth imageHeight : ℤ) :
    Method Throwable RegionParameters Unit := do
  modify (scaledTo fp imageWidth imageHeight)
  modify (clampedTo fp imageWidth imageHeight)
  let region ← get
  if region.horizontalOffset.gt (fp.ofInt imageWidth)
      || region.verticalOffset.gt (fp.ofInt imageHeight) then
    throw (.invalidParameters
      (some "Either vertical or horizontal offset are outside of the image."))
  modify fun region => { region with absolute := true }

/-- `Math.ceil(size * fraction / 100)`. -/
def percentOf (fp : Rounding) (size : ℤ) (fraction : JFloat) : ℤ :=
  (fp.div (fp.mul (fp.ofInt size) fraction) (fp.ofInt 100)).ceilToInt

/-- The offsets and dimensions that the `crop` methods of both backends start with, for
an image of given dimensions. -/
def bounds (fp : Rounding) (region : RegionParameters) (width height : ℤ) :
    ℤ × ℤ × ℤ × ℤ :=
  if region.absolute then
    (region.horizontalOffset.ceilToInt, region.verticalOffset.ceilToInt,
      region.width.ceilToInt, region.height.ceilToInt)
  else
    (percentOf fp width region.horizontalOffset, percentOf fp height region.verticalOffset,
      percentOf fp width region.width, percentOf fp height region.height)

theorem bounds_of_absolute {region : RegionParameters} (absolute : region.absolute = true)
    (fp : Rounding) (width height : ℤ) :
    region.bounds fp width height =
      (region.horizontalOffset.ceilToInt, region.verticalOffset.ceilToInt,
        region.width.ceilToInt, region.height.ceilToInt) :=
  if_pos absolute

/-- The rounded coordinates of an absolute region are its bounds. -/
theorem ceilToInt_of_bounds {fp : Rounding} {region : RegionParameters} {rect : Rect}
    {width height : ℤ} (absolute : region.absolute = true)
    (bounds : region.bounds fp width height =
      (↑rect.x, ↑rect.y, ↑rect.width, ↑rect.height)) :
    (region.horizontalOffset.ceilToInt = rect.x ∧ region.verticalOffset.ceilToInt = rect.y) ∧
      region.width.ceilToInt = rect.width ∧ region.height.ceilToInt = rect.height := by
  rw [bounds_of_absolute absolute] at bounds
  simp only [Prod.mk.injEq] at bounds
  exact ⟨⟨bounds.1, bounds.2.1⟩, bounds.2.2.1, bounds.2.2.2⟩

/-- The bounds of an integral region are its own integers. -/
theorem bounds_ofInts (fp : Rounding) {x y width height : ℤ} (imageWidth imageHeight : ℤ)
    (left : |x| ≤ 16777216) (top : |y| ≤ 16777216) (wide : |width| ≤ 16777216)
    (tall : |height| ≤ 16777216) :
    (ofInts fp x y width height).bounds fp imageWidth imageHeight =
      (x, y, width, height) := by
  simp only [bounds, ofInts, if_true, fp.ceilToInt_ofInt left, fp.ceilToInt_ofInt top,
    fp.ceilToInt_ofInt wide, fp.ceilToInt_ofInt tall]

theorem bounds_ofRect (fp : Rounding) {rect : Rect} (representable : rect.Representable)
    (imageWidth imageHeight : ℤ) :
    (ofRect fp rect).bounds fp imageWidth imageHeight =
      (↑rect.x, ↑rect.y, ↑rect.width, ↑rect.height) := by
  have cast : ∀ {n : ℕ}, n ≤ 16777216 → |(n : ℤ)| ≤ 16777216 := by
    intro n small
    rw [Nat.abs_cast]
    exact_mod_cast small
  exact bounds_ofInts fp imageWidth imageHeight (cast representable.x) (cast representable.y)
    (cast representable.width) (cast representable.height)

/-- The bounds of a region of natural numbers whose offsets are in the range of `int`. -/
theorem bounds_ofRats (fp : Rounding) (rect : Rect) (left : (rect.x : ℤ) ≤ maxInt)
    (top : (rect.y : ℤ) ≤ maxInt) (imageWidth imageHeight : ℤ) :
    (ofRats rect.x rect.y rect.width rect.height).bounds fp imageWidth imageHeight =
      (↑rect.x, ↑rect.y, saturate rect.width, saturate rect.height) := by
  simp only [bounds, ofRats, if_true, JFloat.ceilToInt_fin, Int.ceil_natCast]
  rw [saturate_of_range (minInt_le_of_nonneg (Int.natCast_nonneg _)) left,
    saturate_of_range (minInt_le_of_nonneg (Int.natCast_nonneg _)) top]

/-! ## Regions that select a pixel -/

/-- Rounded up, the region starts at a pixel of an image of the given dimensions and is
not empty. -/
structure Selects (region : RegionParameters) (width height : ℤ) : Prop where
  left : 0 ≤ region.horizontalOffset.ceilToInt ∧ region.horizontalOffset.ceilToInt < width
  top : 0 ≤ region.verticalOffset.ceilToInt ∧ region.verticalOffset.ceilToInt < height
  wide : 1 ≤ region.width.ceilToInt
  tall : 1 ≤ region.height.ceilToInt

theorem selects_iff {region : RegionParameters} {width height : ℤ} :
    region.Selects width height ↔
      (0 ≤ region.horizontalOffset.ceilToInt ∧ region.horizontalOffset.ceilToInt < width) ∧
        (0 ≤ region.verticalOffset.ceilToInt ∧ region.verticalOffset.ceilToInt < height) ∧
        1 ≤ region.width.ceilToInt ∧ 1 ≤ region.height.ceilToInt :=
  ⟨fun selects => ⟨selects.left, selects.top, selects.wide, selects.tall⟩,
    fun bounds => ⟨bounds.1, bounds.2.1, bounds.2.2.1, bounds.2.2.2⟩⟩

instance (region : RegionParameters) (width height : ℤ) :
    Decidable (region.Selects width height) :=
  decidable_of_iff _ selects_iff.symm

/-- The bounds of an absolute region that selects a pixel are those of a rectangle that
starts inside the image. -/
theorem Selects.exists_rect {region : RegionParameters} {width height : ℕ}
    (selects : region.Selects width height) (absolute : region.absolute = true)
    (fp : Rounding) :
    ∃ rect : Rect, region.bounds fp width height =
        (↑rect.x, ↑rect.y, ↑rect.width, ↑rect.height) ∧
      (rect.x < width ∧ rect.y < height) ∧ 0 < rect.width ∧ 0 < rect.height := by
  rcases selects with ⟨⟨left, leftLt⟩, ⟨top, topLt⟩, wide, tall⟩
  rcases Int.eq_ofNat_of_zero_le left with ⟨x, sameX⟩
  rcases Int.eq_ofNat_of_zero_le top with ⟨y, sameY⟩
  rcases Int.eq_ofNat_of_zero_le (by omega : 0 ≤ region.width.ceilToInt) with ⟨w, sameWidth⟩
  rcases Int.eq_ofNat_of_zero_le (by omega : 0 ≤ region.height.ceilToInt) with ⟨h, sameHeight⟩
  refine ⟨⟨x, y, w, h⟩, ?_, ?_, ?_⟩
  · rw [bounds_of_absolute absolute, sameX, sameY, sameWidth, sameHeight]
  · dsimp only
    omega
  · dsimp only
    omega

end RegionParameters

structure RotationParameters where
  degrees : ℤ
  mirrorHorizontally : Bool
  deriving DecidableEq, Repr

end IiifImage
