import Mathlib.Data.Nat.Notation
import Mathlib.Tactic.SplitIfs

/-!
# Rasters and rectangles

A raster is a rectangular array of pixels.  Its pixel function is defined on all
coordinates and is `none` exactly outside the rectangle, so that two rasters are
equal when they have the same dimensions and the same pixels.
-/

namespace IiifImage

/-- A rectangular array of pixels, column first. -/
@[ext] structure Raster (α : Type) where
  width : ℕ
  height : ℕ
  pixel : ℕ → ℕ → Option α
  pixel_isSome : ∀ i j, (pixel i j).isSome = true ↔ i < width ∧ j < height

@[ext] structure Rect where
  x : ℕ
  y : ℕ
  width : ℕ
  height : ℕ
  deriving DecidableEq, Repr

/-- The rectangle lies inside an image of the given dimensions. -/
def Rect.Inside (rect : Rect) (width height : ℕ) : Prop :=
  rect.x + rect.width ≤ width ∧ rect.y + rect.height ≤ height

instance (rect : Rect) (width height : ℕ) : Decidable (rect.Inside width height) :=
  inferInstanceAs (Decidable (_ ∧ _))

/-- The part of a rectangle that lies inside an image of the given dimensions. -/
def Rect.clip (rect : Rect) (width height : ℕ) : Rect :=
  ⟨rect.x, rect.y, min rect.width (width - rect.x), min rect.height (height - rect.y)⟩

/-- A rectangle that starts inside an image has a part inside it. -/
theorem Rect.clip_inside {rect : Rect} {width height : ℕ} (left : rect.x < width)
    (top : rect.y < height) (wide : 0 < rect.width) (tall : 0 < rect.height) :
    (rect.clip width height).Inside width height ∧ 0 < (rect.clip width height).width ∧
      0 < (rect.clip width height).height := by
  unfold Rect.Inside Rect.clip
  dsimp only
  omega

theorem Rect.clip_of_inside {rect : Rect} {width height : ℕ}
    (inside : rect.Inside width height) : rect.clip width height = rect := by
  rcases inside with ⟨columns, rows⟩
  rw [Rect.clip, Nat.min_eq_left (by omega), Nat.min_eq_left (by omega)]

namespace Raster

variable {α β : Type}

theorem pixel_eq_none {image : Raster α} {i j : ℕ}
    (outside : ¬(i < image.width ∧ j < image.height)) : image.pixel i j = none := by
  rw [← Option.not_isSome_iff_eq_none, image.pixel_isSome]
  exact outside

/-- The raster of given dimensions with a pixel for every coordinate pair. -/
def ofFn (width height : ℕ) (color : ℕ → ℕ → α) : Raster α where
  width := width
  height := height
  pixel i j := if i < width ∧ j < height then some (color i j) else none
  pixel_isSome i j := by split_ifs with inside <;> simp [inside]

/-- The raster in which every pixel shows its own coordinates. -/
def labelled (width height : ℕ) : Raster (ℕ × ℕ) := ofFn width height Prod.mk

def map (color : α → β) (image : Raster α) : Raster β where
  width := image.width
  height := image.height
  pixel i j := (image.pixel i j).map color
  pixel_isSome i j := by rw [Option.isSome_map, image.pixel_isSome]

@[simp] theorem width_map (color : α → β) (image : Raster α) :
    (image.map color).width = image.width := rfl

@[simp] theorem height_map (color : α → β) (image : Raster α) :
    (image.map color).height = image.height := rfl

/-- The part of a rectangle that lies inside the image. -/
def crop (image : Raster α) (rect : Rect) : Raster α where
  width := min rect.width (image.width - rect.x)
  height := min rect.height (image.height - rect.y)
  pixel i j :=
    if i < rect.width ∧ j < rect.height then image.pixel (rect.x + i) (rect.y + j)
    else none
  pixel_isSome i j := by
    split_ifs with inside
    · rw [image.pixel_isSome]
      omega
    · simp only [Option.isSome_none, Bool.false_eq_true, false_iff]
      omega

@[simp] theorem width_crop (image : Raster α) (rect : Rect) :
    (image.crop rect).width = min rect.width (image.width - rect.x) := rfl

@[simp] theorem height_crop (image : Raster α) (rect : Rect) :
    (image.crop rect).height = min rect.height (image.height - rect.y) := rfl

theorem width_crop_of_inside {image : Raster α} {rect : Rect}
    (inside : rect.Inside image.width image.height) :
    (image.crop rect).width = rect.width := by
  have bound := inside.1
  rw [width_crop]
  omega

theorem height_crop_of_inside {image : Raster α} {rect : Rect}
    (inside : rect.Inside image.width image.height) :
    (image.crop rect).height = rect.height := by
  have bound := inside.2
  rw [height_crop]
  omega

theorem pixel_crop {image : Raster α} (rect : Rect) {i j : ℕ}
    (column : i < rect.width) (row : j < rect.height) :
    (image.crop rect).pixel i j = image.pixel (rect.x + i) (rect.y + j) :=
  if_pos ⟨column, row⟩

/-- Clipping a rectangle to the image before cropping changes nothing. -/
theorem crop_clip (image : Raster α) (rect : Rect) :
    image.crop (rect.clip image.width image.height) = image.crop rect := by
  ext1
  · simp [Rect.clip]
  · simp [Rect.clip]
  · funext i j
    dsimp only [crop, Rect.clip]
    split_ifs with clipped inside inside
    · rfl
    · omega
    · exact (pixel_eq_none (by omega)).symm
    · rfl

/-- A rectangle that starts at the origin and covers the image selects all of
it. -/
theorem crop_eq_self {image : Raster α} {rect : Rect} (left : rect.x = 0)
    (top : rect.y = 0) (wide : image.width ≤ rect.width)
    (tall : image.height ≤ rect.height) : image.crop rect = image := by
  ext1
  · rw [width_crop]
    omega
  · rw [height_crop]
    omega
  · funext i j
    simp only [crop, left, top, Nat.zero_add]
    split_ifs with inside
    · rfl
    · exact (pixel_eq_none (by omega)).symm

/-- No other rectangle selects all of an image that has pixels. -/
theorem crop_eq_self_iff {image : Raster α} {rect : Rect} (widePos : 0 < image.width)
    (tallPos : 0 < image.height) :
    image.crop rect = image ↔ (rect.x = 0 ∧ rect.y = 0) ∧
      image.width ≤ rect.width ∧ image.height ≤ rect.height := by
  constructor
  · intro whole
    have sameWidth := congrArg Raster.width whole
    have sameHeight := congrArg Raster.height whole
    rw [width_crop] at sameWidth
    rw [height_crop] at sameHeight
    omega
  · intro covers
    exact crop_eq_self covers.1.1 covers.1.2 covers.2.1 covers.2.2

/-- Nearest-neighbour resampling of a non-empty raster. -/
def resample (image : Raster α) (width height : ℕ) (wide : 0 < image.width)
    (tall : 0 < image.height) : Raster α where
  width := width
  height := height
  pixel i j :=
    if i < width ∧ j < height then
      image.pixel (i * image.width / width) (j * image.height / height)
    else none
  pixel_isSome i j := by
    split_ifs with inside
    · rcases inside with ⟨column, row⟩
      rw [image.pixel_isSome]
      refine ⟨fun _ => ⟨column, row⟩, fun _ => ⟨?_, ?_⟩⟩
      · exact Nat.div_lt_of_lt_mul (Nat.mul_lt_mul_of_pos_right column wide)
      · exact Nat.div_lt_of_lt_mul (Nat.mul_lt_mul_of_pos_right row tall)
    · simpa using inside

/-! ## Rasters whose pixels identify their position -/

/-- No two positions of the raster show the same pixel. -/
def Injective (image : Raster α) : Prop :=
  ∀ i j i' j', i < image.width → j < image.height →
    image.pixel i j = image.pixel i' j' → i = i' ∧ j = j'

theorem labelled_injective (width height : ℕ) : (labelled width height).Injective := by
  intro i j i' j' column row same
  have inside : i < width ∧ j < height := ⟨column, row⟩
  simp only [labelled, ofFn, inside, and_self, if_true] at same
  split_ifs at same with inside'
  simpa using same

/-- On such a raster two non-empty rectangles select the same sub-image only if
they are the same rectangle. -/
theorem Injective.rect_eq {image : Raster α} (injective : image.Injective)
    {left right : Rect} (leftInside : left.Inside image.width image.height)
    (rightInside : right.Inside image.width image.height)
    (wide : 0 < left.width) (tall : 0 < left.height)
    (same : image.crop left = image.crop right) : left = right := by
  have widths := congrArg Raster.width same
  have heights := congrArg Raster.height same
  rw [width_crop_of_inside leftInside, width_crop_of_inside rightInside] at widths
  rw [height_crop_of_inside leftInside, height_crop_of_inside rightInside] at heights
  have corners : image.pixel left.x left.y = image.pixel right.x right.y := by
    have corner := congrArg (fun part => part.pixel 0 0) same
    rw [pixel_crop left wide tall, pixel_crop right (widths ▸ wide) (heights ▸ tall)] at corner
    exact corner
  have leftX := leftInside.1
  have leftY := leftInside.2
  rcases injective _ _ _ _ (by omega) (by omega) corners with ⟨sameX, sameY⟩
  exact Rect.ext sameX sameY widths heights

end Raster

/-! ## Scaling -/

/-- A choice of samples for an image of other dimensions. -/
structure Scaler (α : Type) where
  downScale : (image : Raster α) → 0 < image.width → 0 < image.height → ℕ → ℕ → Raster α
  width_downScale : ∀ image wide tall width height,
    (downScale image wide tall width height).width = width
  height_downScale : ∀ image wide tall width height,
    (downScale image wide tall width height).height = height

namespace Scaler

variable {α : Type}

def nearest : Scaler α where
  downScale image wide tall width height := image.resample width height wide tall
  width_downScale _ _ _ _ _ := rfl
  height_downScale _ _ _ _ _ := rfl

end Scaler

end IiifImage
