import Mathlib.Data.List.Range
import Mathlib.Tactic.Ring
import IiifImage.Arrays.Rounding

/-!
# The size that Epeg decodes to

Epeg lets libjpeg decode to the smallest of eight sizes that it takes to be large enough,
and reduces the decoded image to the requested size itself.
-/

namespace IiifImage.Epeg

open Arrays

def decodeScale (inWidth inHeight outWidth outHeight : ℕ) : ℕ :=
  let scalew := inWidth / outWidth
  let scaleh := inHeight / outHeight
  let scale := if scaleh < scalew then scaleh else scalew
  if scale > 8 then 8
  else if scale < 1 then 1
  else scale

/-- `_min_DCT_scaled_size`, as `jpeg_core_output_dimensions` chooses it. -/
def minDCTScaledSize (scaleNum scaleDenom : ℕ) : ℕ :=
  ((List.range' 1 15).find? fun size => scaleNum * 8 ≤ scaleDenom * size).getD 16

/-- `output_width` or `output_height` of `jpeg_core_output_dimensions`. -/
def outputDimension (size dctSize : ℕ) : ℕ := jdivRoundUp (size * dctSize) 8

section Bounds

variable {inWidth inHeight outWidth outHeight denom : ℕ}

theorem decodeScale_bounds (inWidth inHeight outWidth outHeight : ℕ) :
    1 ≤ decodeScale inWidth inHeight outWidth outHeight ∧
      decodeScale inWidth inHeight outWidth outHeight ≤ 8 := by
  dsimp only [decodeScale]
  split_ifs <;> omega

/-- The scale reduces neither dimension below the requested size. -/
theorem decodeScale_mul_le (wide : outWidth ≤ inWidth) (tall : outHeight ≤ inHeight) :
    decodeScale inWidth inHeight outWidth outHeight * outWidth ≤ inWidth ∧
      decodeScale inWidth inHeight outWidth outHeight * outHeight ≤ inHeight := by
  have least : decodeScale inWidth inHeight outWidth outHeight ≤ 1 ∨
      decodeScale inWidth inHeight outWidth outHeight ≤ inWidth / outWidth ∧
        decodeScale inWidth inHeight outWidth outHeight ≤ inHeight / outHeight := by
    dsimp only [decodeScale]
    split_ifs <;> omega
  rcases least with one | ⟨columns, rows⟩
  · constructor
    · exact (Nat.mul_le_mul_right outWidth one).trans (by omega)
    · exact (Nat.mul_le_mul_right outHeight one).trans (by omega)
  · exact ⟨(Nat.mul_le_mul_right outWidth columns).trans (Nat.div_mul_le_self _ _),
      (Nat.mul_le_mul_right outHeight rows).trans (Nat.div_mul_le_self _ _)⟩

/-- For the scales of Epeg the size of a block is an eighth of the scale, rounded up. -/
theorem minDCTScaledSize_one (atLeast : 1 ≤ denom) (atMost : denom ≤ 8) :
    8 ≤ denom * minDCTScaledSize 1 denom ∧ 1 ≤ minDCTScaledSize 1 denom ∧
      minDCTScaledSize 1 denom ≤ 8 := by
  have all : ∀ denom < 9, 1 ≤ denom → 8 ≤ denom * minDCTScaledSize 1 denom ∧
      1 ≤ minDCTScaledSize 1 denom ∧ minDCTScaledSize 1 denom ≤ 8 := by decide
  exact all denom (Nat.lt_succ_of_le atMost) atLeast

theorem minDCTScaledSize_unscaled : minDCTScaledSize 1 1 = 8 := by decide

theorem outputDimension_unscaled (size : ℕ) : outputDimension size 8 = size := by
  rw [outputDimension, jdivRoundUp]
  omega

/-- A reduced dimension lies between the requested one and the full one. -/
theorem outputDimension_bounds {size requested dctSize : ℕ} (reduces : denom * requested ≤ size)
    (enough : 8 ≤ denom * dctSize) (atMost : dctSize ≤ 8) :
    requested ≤ outputDimension size dctSize ∧ outputDimension size dctSize ≤ size := by
  constructor
  · have covered := le_jdivRoundUp_mul (a := size * dctSize) (show 0 < 8 by decide)
    have scaled : requested * 8 ≤ size * dctSize := by
      calc
        requested * 8 ≤ requested * (denom * dctSize) := Nat.mul_le_mul_left requested enough
        _ = denom * requested * dctSize := by ring
        _ ≤ size * dctSize := Nat.mul_le_mul_right dctSize reduces
    exact Nat.le_of_mul_le_mul_right (scaled.trans covered) (show 0 < 8 by decide)
  · rw [outputDimension, jdivRoundUp_le_iff (show 0 < 8 by decide)]
    exact Nat.mul_le_mul_left size atMost

end Bounds

end IiifImage.Epeg
