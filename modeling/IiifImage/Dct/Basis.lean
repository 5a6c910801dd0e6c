import Mathlib.Analysis.SpecialFunctions.Trigonometric.Basic
import Mathlib.Data.Matrix.Mul

/-!
# Cosine transforms and mirror images

A separable transform rebuilds a block of samples from a block of coefficients.  When
the basis functions are even and odd in turn, mirroring the samples changes the signs
of the odd coefficients, and transposing the samples transposes the coefficients.
-/

namespace IiifImage.Dct

open scoped Matrix

/-- Basis functions on `n` samples, by frequency and sample, that are even and odd in
turn. -/
structure Basis (n : ℕ) (K : Type) [CommRing K] where
  value : Matrix (Fin n) (Fin n) K
  value_rev : ∀ frequency sample,
    value frequency sample.rev = (-1) ^ (frequency : ℕ) * value frequency sample

/-- Change the signs of the odd columns and of the odd rows on demand. -/
def signed {n : ℕ} {K : Type} [CommRing K] (columns rows : Bool)
    (coefficients : Matrix (Fin n) (Fin n) K) : Matrix (Fin n) (Fin n) K :=
  fun row column =>
    (if rows then (-1) ^ (row : ℕ) else 1) * coefficients row column *
      (if columns then (-1) ^ (column : ℕ) else 1)

/-- The position of a sample in a block that is mirrored or not. -/
def mirrored {n : ℕ} (flip : Bool) (sample : Fin n) : Fin n :=
  if flip then sample.rev else sample

namespace Basis

variable {n : ℕ} {K : Type} [CommRing K] (basis : Basis n K)

def samples (coefficients : Matrix (Fin n) (Fin n) K) : Matrix (Fin n) (Fin n) K :=
  basis.valueᵀ * coefficients * basis.value

theorem samples_apply (coefficients : Matrix (Fin n) (Fin n) K) (row column : Fin n) :
    basis.samples coefficients row column =
      ∑ u, (∑ v, basis.value v row * coefficients v u) * basis.value u column := by
  simp only [samples, Matrix.mul_apply, Matrix.transpose_apply]

theorem value_mirrored (flip : Bool) (frequency sample : Fin n) :
    basis.value frequency (mirrored flip sample) =
      (if flip then (-1) ^ (frequency : ℕ) else 1) * basis.value frequency sample := by
  cases flip with
  | false => simp [mirrored]
  | true => simp [mirrored, basis.value_rev]

/-- Sign changes of the coefficients mirror the samples. -/
theorem samples_signed (columns rows : Bool) (coefficients : Matrix (Fin n) (Fin n) K)
    (row column : Fin n) :
    basis.samples (signed columns rows coefficients) row column =
      basis.samples coefficients (mirrored rows row) (mirrored columns column) := by
  rw [samples_apply, samples_apply]
  apply Finset.sum_congr rfl
  intro u _
  rw [value_mirrored, Finset.sum_mul, Finset.sum_mul]
  apply Finset.sum_congr rfl
  intro v _
  rw [value_mirrored, signed]
  ring

/-- Transposing the coefficients transposes the samples. -/
theorem samples_transpose (coefficients : Matrix (Fin n) (Fin n) K) :
    basis.samples coefficientsᵀ = (basis.samples coefficients)ᵀ := by
  rw [samples, samples, Matrix.transpose_mul, Matrix.transpose_mul, Matrix.transpose_transpose,
    Matrix.mul_assoc]

end Basis

/-! ## Two bases -/

/-- Constant and linear functions in turn. -/
def linear (n : ℕ) : Basis n ℤ where
  value frequency sample :=
    if (frequency : ℕ) % 2 = 0 then 1 else (n : ℤ) - 1 - 2 * (sample : ℕ)
  value_rev frequency sample := by
    have place : ((sample.rev : ℕ) : ℤ) = n - (sample + 1) := by
      rw [Fin.val_rev]
      omega
    rw [neg_one_pow_eq_pow_mod_two]
    rcases Nat.mod_two_eq_zero_or_one frequency with even | odd
    · simp [even]
    · simp only [odd, place]
      norm_num
      ring

/-- The functions of the discrete cosine transform, with a weight for each
frequency. -/
noncomputable def cosine (n : ℕ) (weight : Fin n → ℝ) : Basis n ℝ where
  value frequency sample :=
    weight frequency * Real.cos (frequency * Real.pi * (2 * sample + 1 : ℕ) / (2 * n : ℕ))
  value_rev frequency sample := by
    have positive : ((2 * n : ℕ) : ℝ) ≠ 0 := by
      exact_mod_cast (Nat.mul_pos Nat.two_pos sample.pos).ne'
    have place : ((2 * (sample.rev : ℕ) + 1 : ℕ) : ℝ) =
        (2 * n : ℕ) - (2 * (sample : ℕ) + 1 : ℕ) := by
      rw [← Nat.cast_sub (by omega), Fin.val_rev]
      congr 1
      omega
    have angle : frequency * Real.pi * (2 * (sample.rev : ℕ) + 1 : ℕ) / (2 * n : ℕ) =
        frequency * Real.pi - frequency * Real.pi * (2 * (sample : ℕ) + 1 : ℕ) / (2 * n : ℕ) := by
      rw [place]
      field_simp
    rw [angle, Real.cos_nat_mul_pi_sub]
    ring

end IiifImage.Dct
