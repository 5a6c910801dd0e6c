import Mathlib.Algebra.Group.Action.Defs
import Mathlib.Data.Fintype.Prod
import IiifImage.Raster.Basic

/-!
# Orientations of a raster

The eight symmetries of a rectangle act on rasters and, within an image of given
dimensions, on rectangles.  Cropping commutes with the action
(`Raster.crop_orient`), which reduces every statement about the order of cropping
and reorienting to a statement about rectangles.

An orientation is a transposition of the axes, or none, followed by a reversal of
each axis, or none.
-/

namespace IiifImage

/-- A symmetry of a rectangle: transpose first, then reverse the columns
(`flipX`) and the rows (`flipY`) of the result. -/
@[ext] structure Orientation where
  transpose : Bool
  flipX : Bool
  flipY : Bool
  deriving DecidableEq, Repr

namespace Orientation

/-- Composition, the right factor acting first.  The right factor's reversals
change axes when they are carried past a transposition. -/
def comp (outer inner : Orientation) : Orientation where
  transpose := xor outer.transpose inner.transpose
  flipX := xor outer.flipX (if outer.transpose then inner.flipY else inner.flipX)
  flipY := xor outer.flipY (if outer.transpose then inner.flipX else inner.flipY)

def opposite (orientation : Orientation) : Orientation where
  transpose := orientation.transpose
  flipX := if orientation.transpose then orientation.flipY else orientation.flipX
  flipY := if orientation.transpose then orientation.flipX else orientation.flipY

instance : Group Orientation where
  mul := comp
  one := ⟨false, false, false⟩
  inv := opposite
  mul_assoc := by
    rintro ⟨_ | _, _, _⟩ ⟨_ | _, _, _⟩ ⟨_, _, _⟩ <;>
      simp [HMul.hMul, Mul.mul, comp]
  one_mul := by
    rintro ⟨_, _, _⟩
    simp [HMul.hMul, OfNat.ofNat, One.one, comp]
  mul_one := by
    rintro ⟨_ | _, _, _⟩ <;> simp [HMul.hMul, OfNat.ofNat, One.one, comp]
  inv_mul_cancel := by
    rintro ⟨_ | _, _, _⟩ <;>
      simp [HMul.hMul, Mul.mul, OfNat.ofNat, One.one, comp, opposite]

@[simp] theorem transpose_one : (1 : Orientation).transpose = false := rfl
@[simp] theorem flipX_one : (1 : Orientation).flipX = false := rfl
@[simp] theorem flipY_one : (1 : Orientation).flipY = false := rfl

/-- A quarter turn clockwise. -/
def quarterTurn : Orientation := ⟨true, true, false⟩

def mirrorColumns : Orientation := ⟨false, true, false⟩

def mirrorRows : Orientation := ⟨false, false, true⟩

/-- The reflection in the main diagonal. -/
def mainDiagonal : Orientation := ⟨true, false, false⟩

/-- The reflection in the other diagonal. -/
def otherDiagonal : Orientation := ⟨true, true, true⟩

end Orientation

/-! ## Reversing and exchanging axes -/

/-- The position of an index on an axis of a given size, reversed or not. -/
def reversed (flip : Bool) (size i : ℕ) : ℕ := if flip then size - 1 - i else i

@[simp] theorem reversed_false (size i : ℕ) : reversed false size i = i := rfl

theorem reversed_lt {flip : Bool} {size i : ℕ} (inside : i < size) :
    reversed flip size i < size := by
  rw [reversed]
  split_ifs <;> omega

theorem reversed_reversed {outer inner : Bool} {size i : ℕ} (inside : i < size) :
    reversed inner size (reversed outer size i) = reversed (xor outer inner) size i := by
  cases outer <;> cases inner <;> simp [reversed]
  omega

namespace Raster

variable {α : Type}

/-- Reverse the columns and the rows on demand. -/
def flip (flipX flipY : Bool) (image : Raster α) : Raster α where
  width := image.width
  height := image.height
  pixel i j :=
    if i < image.width ∧ j < image.height then
      image.pixel (reversed flipX image.width i) (reversed flipY image.height j)
    else none
  pixel_isSome i j := by
    split_ifs with inside
    · rw [image.pixel_isSome]
      exact ⟨fun _ => inside, fun _ => ⟨reversed_lt inside.1, reversed_lt inside.2⟩⟩
    · simpa using inside

/-- Exchange the axes on demand. -/
def swap : Bool → Raster α → Raster α
  | false, image => image
  | true, image =>
    { width := image.height
      height := image.width
      pixel := fun i j => image.pixel j i
      pixel_isSome := fun i j => by rw [image.pixel_isSome, and_comm] }

@[simp] theorem width_flip (flipX flipY : Bool) (image : Raster α) :
    (flip flipX flipY image).width = image.width := rfl

@[simp] theorem height_flip (flipX flipY : Bool) (image : Raster α) :
    (flip flipX flipY image).height = image.height := rfl

theorem pixel_flip (image : Raster α) {flipX flipY : Bool} {i j : ℕ}
    (column : i < image.width) (row : j < image.height) :
    (flip flipX flipY image).pixel i j =
      image.pixel (reversed flipX image.width i) (reversed flipY image.height j) :=
  if_pos ⟨column, row⟩

theorem flip_flip (outerX outerY innerX innerY : Bool) (image : Raster α) :
    flip outerX outerY (flip innerX innerY image) =
      flip (xor outerX innerX) (xor outerY innerY) image := by
  ext1
  · rfl
  · rfl
  · funext i j
    by_cases inside : i < image.width ∧ j < image.height
    · rcases inside with ⟨column, row⟩
      rw [pixel_flip (flip innerX innerY image) column row, width_flip,
        height_flip, pixel_flip image (reversed_lt column) (reversed_lt row),
        pixel_flip image column row, reversed_reversed column, reversed_reversed row]
    · simp only [flip, inside, if_false]

@[simp] theorem flip_false_false (image : Raster α) : flip false false image = image := by
  ext1
  · rfl
  · rfl
  · funext i j
    simp only [flip, reversed_false]
    split_ifs with inside
    · rfl
    · exact (pixel_eq_none inside).symm

theorem swap_swap (outer inner : Bool) (image : Raster α) :
    swap outer (swap inner image) = swap (xor outer inner) image := by
  cases outer <;> cases inner <;> rfl

theorem swap_flip (exchange flipX flipY : Bool) (image : Raster α) :
    swap exchange (flip flipX flipY image) =
      flip (if exchange then flipY else flipX) (if exchange then flipX else flipY)
        (swap exchange image) := by
  cases exchange with
  | false => rfl
  | true =>
      ext1
      · rfl
      · rfl
      · funext i j
        simp only [swap, flip, if_true]
        split_ifs <;> first | rfl | omega

instance : MulAction Orientation (Raster α) where
  smul orientation image :=
    flip orientation.flipX orientation.flipY (swap orientation.transpose image)
  one_smul image := flip_false_false image
  mul_smul outer inner image := by
    change flip (outer * inner).flipX (outer * inner).flipY
        (swap (outer * inner).transpose image) =
      flip outer.flipX outer.flipY (swap outer.transpose
        (flip inner.flipX inner.flipY (swap inner.transpose image)))
    rw [swap_flip, swap_swap, flip_flip]
    rfl

theorem smul_def (orientation : Orientation) (image : Raster α) :
    orientation • image =
      flip orientation.flipX orientation.flipY (swap orientation.transpose image) := rfl

@[simp] theorem width_smul (orientation : Orientation) (image : Raster α) :
    (orientation • image).width =
      if orientation.transpose then image.height else image.width := by
  rw [smul_def]
  cases orientation.transpose <;> rfl

@[simp] theorem height_smul (orientation : Orientation) (image : Raster α) :
    (orientation • image).height =
      if orientation.transpose then image.width else image.height := by
  rw [smul_def]
  cases orientation.transpose <;> rfl

end Raster

/-! ## Cropping and reorienting -/

namespace Rect

/-- The rectangle that holds the same pixels after reversing axes. -/
def flip (flipX flipY : Bool) (width height : ℕ) (rect : Rect) : Rect where
  x := if flipX then width - rect.x - rect.width else rect.x
  y := if flipY then height - rect.y - rect.height else rect.y
  width := rect.width
  height := rect.height

/-- The rectangle that holds the same pixels after exchanging axes. -/
def swap : Bool → Rect → Rect
  | false, rect => rect
  | true, rect => ⟨rect.y, rect.x, rect.height, rect.width⟩

/-- The place of a rectangle of a `width` by `height` image in the reoriented
image. -/
def orient (orientation : Orientation) (width height : ℕ) (rect : Rect) : Rect :=
  flip orientation.flipX orientation.flipY
    (if orientation.transpose then height else width)
    (if orientation.transpose then width else height)
    (swap orientation.transpose rect)

theorem Inside.flip {rect : Rect} {width height : ℕ} (inside : rect.Inside width height)
    (flipX flipY : Bool) : (rect.flip flipX flipY width height).Inside width height := by
  rcases inside with ⟨columns, rows⟩
  constructor <;> simp only [Rect.flip] <;> split_ifs <;> omega

theorem Inside.swap {rect : Rect} {width height : ℕ} (inside : rect.Inside width height)
    (exchange : Bool) :
    (rect.swap exchange).Inside (if exchange then height else width)
      (if exchange then width else height) := by
  cases exchange with
  | false => exact inside
  | true => exact ⟨inside.2, inside.1⟩

theorem Inside.orient {rect : Rect} {width height : ℕ} (inside : rect.Inside width height)
    (orientation : Orientation) :
    (rect.orient orientation width height).Inside
      (if orientation.transpose then height else width)
      (if orientation.transpose then width else height) :=
  (inside.swap orientation.transpose).flip orientation.flipX orientation.flipY

end Rect

namespace Raster

variable {α : Type}

theorem crop_flip (flipX flipY : Bool) (image : Raster α) {rect : Rect}
    (inside : rect.Inside image.width image.height) :
    (flip flipX flipY image).crop (rect.flip flipX flipY image.width image.height) =
      flip flipX flipY (image.crop rect) := by
  have turned : (rect.flip flipX flipY image.width image.height).Inside
      (flip flipX flipY image).width (flip flipX flipY image).height :=
    inside.flip flipX flipY
  have sameWidth := width_crop_of_inside inside
  have sameHeight := height_crop_of_inside inside
  rcases inside with ⟨columns, rows⟩
  ext1
  · rw [width_crop_of_inside turned, width_flip, sameWidth]
    rfl
  · rw [height_crop_of_inside turned, height_flip, sameHeight]
    rfl
  · funext i j
    by_cases within : i < rect.width ∧ j < rect.height
    · rcases within with ⟨column, row⟩
      rw [pixel_crop (rect.flip flipX flipY image.width image.height) column row,
        pixel_flip (image.crop rect) (sameWidth.symm ▸ column) (sameHeight.symm ▸ row),
        sameWidth, sameHeight, pixel_crop rect (reversed_lt column) (reversed_lt row)]
      have columnInside := turned.1
      have rowInside := turned.2
      simp only [Rect.flip, width_flip, height_flip] at columnInside rowInside ⊢
      rw [pixel_flip image (by omega) (by omega)]
      congr 1
      · cases flipX <;> simp only [reversed, if_true, if_false, Bool.false_eq_true]
        omega
      · cases flipY <;> simp only [reversed, if_true, if_false, Bool.false_eq_true]
        omega
    · rw [pixel_eq_none, pixel_eq_none]
      · rw [width_flip, height_flip, sameWidth, sameHeight]
        exact within
      · rw [width_crop_of_inside turned, height_crop_of_inside turned]
        exact within

theorem crop_swap (exchange : Bool) (image : Raster α) (rect : Rect) :
    (swap exchange image).crop (rect.swap exchange) = swap exchange (image.crop rect) := by
  cases exchange with
  | false => rfl
  | true =>
      ext1
      · rfl
      · rfl
      · funext i j
        exact if_congr and_comm rfl rfl

/-- Cropping a reoriented image to the reoriented rectangle is reorienting the
cropped image. -/
theorem crop_orient (orientation : Orientation) {image : Raster α} {rect : Rect}
    (inside : rect.Inside image.width image.height) :
    (orientation • image).crop (rect.orient orientation image.width image.height) =
      orientation • image.crop rect := by
  have swapped := inside.swap orientation.transpose
  rw [smul_def, smul_def, ← crop_swap]
  cases transposed : orientation.transpose with
  | false =>
      rw [transposed] at swapped
      simp only [Rect.orient, transposed, if_false, Bool.false_eq_true] at swapped ⊢
      exact crop_flip _ _ image swapped
  | true =>
      rw [transposed] at swapped
      simp only [Rect.orient, transposed, if_true] at swapped ⊢
      exact crop_flip _ _ (swap true image) swapped

theorem Injective.flip {image : Raster α} (injective : image.Injective)
    (flipX flipY : Bool) : (flip flipX flipY image).Injective := by
  intro i j i' j' column row same
  have inside : i < image.width ∧ j < image.height := ⟨column, row⟩
  simp only [Raster.flip, inside, and_self, if_true] at same
  by_cases inside' : i' < image.width ∧ j' < image.height
  · simp only [inside', and_self, if_true] at same
    obtain ⟨sameColumn, sameRow⟩ :=
      injective _ _ _ _ (reversed_lt column) (reversed_lt row) same
    unfold reversed at sameColumn sameRow
    constructor
    · split_ifs at sameColumn <;> omega
    · split_ifs at sameRow <;> omega
  · have shown : (image.pixel (reversed flipX image.width i)
        (reversed flipY image.height j)).isSome = true :=
      (image.pixel_isSome _ _).mpr ⟨reversed_lt inside.1, reversed_lt inside.2⟩
    rw [same, if_neg inside'] at shown
    simp at shown

theorem Injective.swap {image : Raster α} (injective : image.Injective)
    (exchange : Bool) : (swap exchange image).Injective := by
  cases exchange with
  | false => exact injective
  | true =>
      intro i j i' j' column row same
      exact (injective j i j' i' row column same).symm

theorem Injective.smul {image : Raster α} (injective : image.Injective)
    (orientation : Orientation) : (orientation • image).Injective :=
  (injective.swap orientation.transpose).flip orientation.flipX orientation.flipY

end Raster

end IiifImage
