import IiifImage.Arrays.Rounding
import IiifImage.Raster.Basic

/-!
# Tiles

A picture is cut into squares of one side, from its upper left corner on.  Those at its right
and lower edges are cut off.  Every pixel is in one tile, and is found there again.
-/

namespace IiifImage

open Arrays

/-- The pixels on one axis of the tile with an index. -/
def tileExtent (size side index : ℕ) : ℕ := min side (size - index * side)

/-- The tile in a column and a row of the grid. -/
def Rect.tile (width height side column row : ℕ) : Rect where
  x := column * side
  y := row * side
  width := tileExtent width side column
  height := tileExtent height side row

section Axis

variable {size side index p : ℕ}

/-- The number of tiles on an axis is its size divided by the side, rounded up. -/
theorem tileExtent_pos (positive : 0 < side) (listed : index < jdivRoundUp size side) :
    0 < tileExtent size side index := by
  rw [lt_jdivRoundUp_iff positive] at listed
  rw [tileExtent]
  omega

/-- A tile ends in the picture. -/
theorem add_tileExtent_le (positive : 0 < side) (listed : index < jdivRoundUp size side) :
    index * side + tileExtent size side index ≤ size := by
  rw [lt_jdivRoundUp_iff positive] at listed
  rw [tileExtent]
  omega

/-- A pixel is in the tile that its quotient by the side names. -/
theorem div_lt_tiles (positive : 0 < side) (inside : p < size) :
    p / side < jdivRoundUp size side := by
  rw [lt_jdivRoundUp_iff positive]
  exact (Nat.div_mul_le_self p side).trans_lt inside

theorem mod_lt_tileExtent (positive : 0 < side) (inside : p < size) :
    p % side < tileExtent size side (p / side) := by
  have remainder := Nat.mod_lt p positive
  have divided := Nat.div_add_mod' p side
  rw [tileExtent]
  omega

end Axis

section Grid

variable {width height side column row : ℕ}

/-- The grid of tiles of a picture. -/
def InGrid (width height side column row : ℕ) : Prop :=
  column < jdivRoundUp width side ∧ row < jdivRoundUp height side

theorem InGrid.inside (positive : 0 < side) (listed : InGrid width height side column row) :
    (Rect.tile width height side column row).Inside width height :=
  ⟨add_tileExtent_le positive listed.1, add_tileExtent_le positive listed.2⟩

theorem InGrid.wide (positive : 0 < side) (listed : InGrid width height side column row) :
    0 < (Rect.tile width height side column row).width := tileExtent_pos positive listed.1

theorem InGrid.tall (positive : 0 < side) (listed : InGrid width height side column row) :
    0 < (Rect.tile width height side column row).height := tileExtent_pos positive listed.2

end Grid

namespace Raster

variable {α : Type}

def mosaic (side : ℕ) (tile : ℕ → ℕ → Option (Raster α)) (i j : ℕ) : Option α :=
  (tile (i / side) (j / side)).bind fun part => part.pixel (i % side) (j % side)

/-- The tiles of a picture, put side by side, show the picture. -/
theorem mosaic_of_crops {image : Raster α} {side : ℕ} {tile : ℕ → ℕ → Option (Raster α)}
    (positive : 0 < side)
    (cut : ∀ column row, InGrid image.width image.height side column row →
      tile column row = some (image.crop (.tile image.width image.height side column row)))
    {i j : ℕ} (left : i < image.width) (top : j < image.height) :
    mosaic side tile i j = image.pixel i j := by
  rw [mosaic, cut _ _ ⟨div_lt_tiles positive left, div_lt_tiles positive top⟩,
    Option.bind_some, pixel_crop _ (mod_lt_tileExtent positive left)
      (mod_lt_tileExtent positive top), Rect.tile, Nat.div_add_mod', Nat.div_add_mod']

end Raster

end IiifImage
