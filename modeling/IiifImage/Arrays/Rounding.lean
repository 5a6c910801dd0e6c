import Mathlib.Algebra.Order.Group.Nat
import Mathlib.Order.Lattice
import Mathlib.Tactic.Linarith

/-!
# Counting units

The number of units that cover a length, by a division that rounds up.
-/

namespace IiifImage.Arrays

def jdivRoundUp (a b : ℕ) : ℕ := (a + b - 1) / b

section Rounding

variable {a b c n : ℕ}

theorem jdivRoundUp_le_iff (positive : 0 < b) : jdivRoundUp a b ≤ n ↔ a ≤ n * b := by
  rw [jdivRoundUp, ← Nat.lt_succ_iff, Nat.div_lt_iff_lt_mul positive, Nat.succ_mul]
  omega

theorem le_jdivRoundUp_mul (positive : 0 < b) : a ≤ jdivRoundUp a b * b :=
  (jdivRoundUp_le_iff positive).mp le_rfl

theorem lt_jdivRoundUp_iff (positive : 0 < b) : n < jdivRoundUp a b ↔ n * b < a := by
  rw [← Nat.not_le, jdivRoundUp_le_iff positive, Nat.not_le]

theorem jdivRoundUp_pos (positive : 0 < b) (nonempty : 0 < a) : 0 < jdivRoundUp a b := by
  rw [lt_jdivRoundUp_iff positive]
  omega

/-- Whole units are counted without rounding. -/
theorem div_le_jdivRoundUp (positive : 0 < b) : a / b ≤ jdivRoundUp a b :=
  Nat.div_le_div_right (by omega)

/-- Rounding up in two steps is rounding up once. -/
theorem jdivRoundUp_mul (positive : 0 < b) (positive' : 0 < c) :
    jdivRoundUp (jdivRoundUp a b) c = jdivRoundUp a (b * c) := by
  apply eq_of_forall_ge_iff
  intro n
  rw [jdivRoundUp_le_iff positive', jdivRoundUp_le_iff positive,
    jdivRoundUp_le_iff (Nat.mul_pos positive positive'), Nat.mul_assoc, Nat.mul_comm c b]

/-- A common factor cancels. -/
theorem jdivRoundUp_mul_mul_right (positive : 0 < b) (positive' : 0 < c) :
    jdivRoundUp (a * c) (b * c) = jdivRoundUp a b := by
  apply eq_of_forall_ge_iff
  intro n
  rw [jdivRoundUp_le_iff (Nat.mul_pos positive positive'), jdivRoundUp_le_iff positive,
    ← Nat.mul_assoc, Nat.mul_le_mul_right_iff positive']

/-- The group of a unit is counted if the unit is. -/
theorem div_lt_jdivRoundUp (positive : 0 < b)
    (counted : n < jdivRoundUp (a * c) b) : n / c < jdivRoundUp a b := by
  rw [lt_jdivRoundUp_iff positive] at counted ⊢
  apply Nat.lt_of_mul_lt_mul_right (a := c)
  calc
    n / c * b * c = n / c * c * b := by rw [Nat.mul_assoc, Nat.mul_comm b c, ← Nat.mul_assoc]
    _ ≤ n * b := Nat.mul_le_mul_right b (Nat.div_mul_le_self n c)
    _ < a * c := counted

/-- Groups of whole units are counted without rounding. -/
theorem div_mul_le_jdivRoundUp (positive : 0 < b) : a / b * c ≤ jdivRoundUp (a * c) b := by
  apply Nat.le_of_mul_le_mul_right _ positive
  calc
    a / b * c * b = a / b * b * c := by rw [Nat.mul_assoc, Nat.mul_comm c b, ← Nat.mul_assoc]
    _ ≤ a * c := Nat.mul_le_mul_right c (Nat.div_mul_le_self a b)
    _ ≤ jdivRoundUp (a * c) b * b := le_jdivRoundUp_mul positive

/-- Whole units before a part are counted apart from it. -/
theorem add_jdivRoundUp_le {offset total : ℕ} (positive : 0 < b)
    (inside : offset * b + a ≤ total) : offset + jdivRoundUp a b ≤ jdivRoundUp total b := by
  have all := le_jdivRoundUp_mul positive (a := total)
  have before : offset ≤ jdivRoundUp total b :=
    Nat.le_of_mul_le_mul_right (by omega) positive
  have rest : jdivRoundUp a b ≤ jdivRoundUp total b - offset := by
    rw [jdivRoundUp_le_iff positive, Nat.sub_mul]
    omega
  omega

end Rounding

end IiifImage.Arrays
