import IiifImage.Arrays.Mirror
import IiifImage.Raster.Orientation

/-!
# Turning whole units

A lossless transform mirrors only the units that are whole and keeps the pixels of the
partial units at the right and lower edges in place.  The image is the mirrored one when
there are no partial units on the mirrored axes, and on an image whose pixels identify
their position only then.
-/

namespace IiifImage.Raster

open Arrays

variable {α β : Type}

/-- Mirror the first columns and the first rows. -/
def mirrorFirst (columns rows : ℕ) (image : Raster α) : Raster α where
  width := image.width
  height := image.height
  pixel i j :=
    if i < image.width ∧ j < image.height then
      image.pixel (mirror (min columns image.width) i) (mirror (min rows image.height) j)
    else none
  pixel_isSome i j := by
    split_ifs with inside
    · rw [image.pixel_isSome, mirror_lt (Nat.min_le_right _ _), mirror_lt (Nat.min_le_right _ _)]
    · simpa using inside

/-- The pixels in whole units of an axis that is mirrored. -/
def wholeUnits (flip : Bool) (size unit : ℕ) : ℕ := if flip then size / unit * unit else 0

theorem wholeUnits_le (flip : Bool) (size unit : ℕ) : wholeUnits flip size unit ≤ size := by
  rw [wholeUnits]
  split_ifs
  exacts [Nat.div_mul_le_self size unit, Nat.zero_le size]

/-- The image that is turned with its whole units, which are measured after the
turn. -/
def turnWhole (orientation : Orientation) (unitWidth unitHeight : ℕ) (image : Raster α) :
    Raster α :=
  let swapped := swap orientation.transpose image
  mirrorFirst (wholeUnits orientation.flipX swapped.width unitWidth)
    (wholeUnits orientation.flipY swapped.height unitHeight) swapped

section Whole

variable (orientation : Orientation) (unitWidth unitHeight : ℕ) (image : Raster α)

@[simp] theorem width_turnWhole : (turnWhole orientation unitWidth unitHeight image).width =
    if orientation.transpose then image.height else image.width := by
  rw [turnWhole]
  cases orientation.transpose <;> rfl

@[simp] theorem height_turnWhole : (turnWhole orientation unitWidth unitHeight image).height =
    if orientation.transpose then image.width else image.height := by
  rw [turnWhole]
  cases orientation.transpose <;> rfl

theorem pixel_turnWhole {i j : ℕ} (column : i < (swap orientation.transpose image).width)
    (row : j < (swap orientation.transpose image).height) :
    (turnWhole orientation unitWidth unitHeight image).pixel i j =
      (swap orientation.transpose image).pixel
        (mirror (wholeUnits orientation.flipX (swap orientation.transpose image).width unitWidth) i)
        (mirror (wholeUnits orientation.flipY (swap orientation.transpose image).height
          unitHeight) j) := by
  have inside : i < (swap orientation.transpose image).width ∧
      j < (swap orientation.transpose image).height := ⟨column, row⟩
  rw [turnWhole, mirrorFirst]
  dsimp only
  rw [if_pos inside, Nat.min_eq_left (wholeUnits_le _ _ _), Nat.min_eq_left (wholeUnits_le _ _ _)]

variable {unitWidth unitHeight}

/-- An axis that is mirrored has no partial unit, or only one pixel. -/
def MirrorsAll (flip : Bool) (size unit : ℕ) : Prop :=
  flip = true → unit ∣ size ∨ size = 1

theorem mirror_wholeUnits {flip : Bool} {size unit i : ℕ} (inside : i < size)
    (all : MirrorsAll flip size unit) :
    mirror (wholeUnits flip size unit) i = reversed flip size i := by
  cases flip with
  | false => rfl
  | true =>
      rcases all rfl with whole | one
      · rw [wholeUnits, if_pos rfl, Nat.div_mul_cancel whole]
        exact mirror_of_lt inside
      · subst one
        obtain rfl : i = 0 := by omega
        have origin := (mirror_lt (wholeUnits_le true 1 unit)).mpr inside
        rw [reversed, if_pos rfl]
        omega

theorem wholeUnits_lt {flip : Bool} {size unit : ℕ} (flipped : flip = true)
    (partially : ¬unit ∣ size) : wholeUnits flip size unit < size := by
  rw [wholeUnits, if_pos flipped]
  refine lt_of_le_of_ne (Nat.div_mul_le_self size unit) ?_
  intro whole
  exact partially (Dvd.intro_left _ whole)

/-- The last position of an axis with a partial unit is not mirrored. -/
theorem mirrorsAll_of_last {flip : Bool} {size unit : ℕ} (positive : 0 < size)
    (same : mirror (wholeUnits flip size unit) (size - 1) = reversed flip size (size - 1)) :
    MirrorsAll flip size unit := by
  intro flipped
  by_cases whole : unit ∣ size
  · exact .inl whole
  · right
    have short := wholeUnits_lt flipped whole
    rw [mirror_of_le (by omega), reversed, if_pos flipped] at same
    omega

theorem width_swap (exchange : Bool) (image : Raster α) :
    (swap exchange image).width = if exchange then image.height else image.width := by
  cases exchange <;> rfl

theorem height_swap (exchange : Bool) (image : Raster α) :
    (swap exchange image).height = if exchange then image.width else image.height := by
  cases exchange <;> rfl

/-- Without partial units the whole image is turned. -/
theorem turnWhole_eq_smul
    (columns : MirrorsAll orientation.flipX
      (if orientation.transpose then image.height else image.width) unitWidth)
    (rows : MirrorsAll orientation.flipY
      (if orientation.transpose then image.width else image.height) unitHeight) :
    turnWhole orientation unitWidth unitHeight image = orientation • image := by
  rw [← width_swap] at columns
  rw [← height_swap] at rows
  rw [smul_def]
  ext1
  · rfl
  · rfl
  · funext i j
    by_cases inside : i < (swap orientation.transpose image).width ∧
        j < (swap orientation.transpose image).height
    · rw [pixel_turnWhole _ _ _ _ inside.1 inside.2, pixel_flip _ inside.1 inside.2,
        mirror_wholeUnits inside.1 columns, mirror_wholeUnits inside.2 rows]
    · rw [pixel_eq_none (by exact inside), pixel_eq_none (by exact inside)]

/-- An image whose pixels identify their position is turned as a whole only without
partial units, or along an axis of one pixel. -/
theorem turnWhole_eq_smul_iff {image : Raster α} (injective : image.Injective)
    (widePos : 0 < image.width) (tallPos : 0 < image.height) :
    turnWhole orientation unitWidth unitHeight image = orientation • image ↔
      MirrorsAll orientation.flipX
          (if orientation.transpose then image.height else image.width) unitWidth ∧
        MirrorsAll orientation.flipY
          (if orientation.transpose then image.width else image.height) unitHeight := by
  constructor
  · intro whole
    have wide : 0 < (swap orientation.transpose image).width := by
      rw [width_swap]
      split_ifs
      exacts [tallPos, widePos]
    have tall : 0 < (swap orientation.transpose image).height := by
      rw [height_swap]
      split_ifs
      exacts [widePos, tallPos]
    have corner := congrArg (fun turned => turned.pixel
      ((swap orientation.transpose image).width - 1)
      ((swap orientation.transpose image).height - 1)) whole
    simp only [smul_def] at corner
    rw [pixel_turnWhole _ _ _ _ (by omega) (by omega), pixel_flip _ (by omega) (by omega)]
      at corner
    rcases injective.swap orientation.transpose _ _ _ _
      ((mirror_lt (wholeUnits_le _ _ _)).mpr (by omega))
      ((mirror_lt (wholeUnits_le _ _ _)).mpr (by omega)) corner with ⟨sameColumn, sameRow⟩
    rw [← width_swap, ← height_swap]
    exact ⟨mirrorsAll_of_last wide sameColumn, mirrorsAll_of_last tall sameRow⟩
  · rintro ⟨columns, rows⟩
    exact turnWhole_eq_smul orientation image columns rows

end Whole

end IiifImage.Raster
