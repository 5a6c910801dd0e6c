import Mathlib.Data.Nat.Notation
import Mathlib.Tactic.SplitIfs
import Mathlib.Algebra.Order.Group.Nat

/-!
# Mirroring a prefix

A routine that cannot mirror what sticks out over the last whole unit mirrors the
positions before it and leaves the others in place.  Positions are grouped into runs
of equal length, and mirroring whole runs mirrors the runs and the positions in them.
-/

namespace IiifImage.Arrays

/-- Mirror the first `count` positions and leave the others in place. -/
def mirror (count i : ℕ) : ℕ := if i < count then count - 1 - i else i

variable {count size run i : ℕ}

theorem mirror_of_lt (inside : i < count) : mirror count i = count - 1 - i :=
  if_pos inside

theorem mirror_of_le (outside : count ≤ i) : mirror count i = i :=
  if_neg (Nat.not_lt.mpr outside)

@[simp] theorem mirror_zero (i : ℕ) : mirror 0 i = i := rfl

/-- Mirrored positions stay among the mirrored ones. -/
theorem mirror_lt_iff : mirror count i < count ↔ i < count := by
  unfold mirror
  split_ifs <;> omega

theorem mirror_mirror (count i : ℕ) : mirror count (mirror count i) = i := by
  unfold mirror
  split_ifs <;> omega

/-- An array that holds all mirrored positions holds the mirror of each of its
positions. -/
theorem mirror_lt (whole : count ≤ size) : mirror count i < size ↔ i < size := by
  unfold mirror
  split_ifs <;> omega

/-! ## Runs -/

theorem sub_div_run (inside : i < count * run) :
    (count * run - 1 - i) / run = count - 1 - i / run := by
  rw [Nat.sub_sub, Nat.add_comm 1 i, Nat.mul_comm count run,
    Nat.mul_sub_div i run count (by rwa [Nat.mul_comm run count])]
  omega

theorem sub_mod_run (positive : 0 < run) (inside : i < count * run) :
    (count * run - 1 - i) % run = run - 1 - i % run := by
  have quotient : i / run < count := Nat.div_lt_of_lt_mul (by rwa [Nat.mul_comm])
  have small : i % run < run := Nat.mod_lt i positive
  have parts : run * (i / run) + i % run = i := Nat.div_add_mod i run
  have rest : count * run = run * (count - 1 - i / run) + run + run * (i / run) := by
    rw [← Nat.mul_succ, ← Nat.mul_add, Nat.mul_comm count run]
    congr 1
    omega
  have split : count * run - 1 - i = run - 1 - i % run + run * (count - 1 - i / run) := by
    omega
  rw [split, Nat.add_mul_mod_self_left, Nat.mod_eq_of_lt (by omega)]

theorem lt_mul_iff_div_lt (positive : 0 < run) : i < count * run ↔ i / run < count :=
  (Nat.div_lt_iff_lt_mul positive).symm

/-- Mirroring whole runs mirrors the number of the run. -/
theorem mirror_div (positive : 0 < run) :
    mirror (count * run) i / run = mirror count (i / run) := by
  by_cases inside : i < count * run
  · rw [mirror_of_lt inside, sub_div_run inside,
      mirror_of_lt ((lt_mul_iff_div_lt positive).mp inside)]
  · have outside : count ≤ i / run := by
      rw [← Nat.not_lt, ← lt_mul_iff_div_lt positive]
      exact inside
    rw [mirror_of_le (Nat.not_lt.mp inside), mirror_of_le outside]

/-- Mirroring whole runs reverses each of the mirrored runs. -/
theorem mirror_mod (positive : 0 < run) :
    mirror (count * run) i % run =
      if i / run < count then run - 1 - i % run else i % run := by
  by_cases inside : i < count * run
  · rw [if_pos ((lt_mul_iff_div_lt positive).mp inside), mirror_of_lt inside,
      sub_mod_run positive inside]
  · rw [if_neg (by rwa [← lt_mul_iff_div_lt positive]), mirror_of_le (Nat.not_lt.mp inside)]

end IiifImage.Arrays
