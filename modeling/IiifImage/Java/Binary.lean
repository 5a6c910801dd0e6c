import IiifImage.Java.Number
import Mathlib.Algebra.Order.Floor.Ring
import Mathlib.Data.Int.Log
import Mathlib.Tactic.Ring

/-!
# Binary rounding

Rounding to the nearest number with a significand of a given length, ties to even, first where
the exponent is not limited and then where it has a least value.  What is left of a number after
it is rounded is decided by the midpoints between its neighbours, so comparisons with a rounded
number need not round.
-/

namespace IiifImage.Java

namespace Binary

variable {K : Type*} [Field K] [LinearOrder K] [IsStrictOrderedRing K] [FloorRing K]

/-! ## Rounding to an integer -/

section ToInteger

variable {x y : K} {n : ℤ}

/-- The fractional part of a number is cut off when it is rounded. -/
def RoundsDown (x : K) : Prop := Int.fract x < 1 / 2 ∨ Int.fract x = 1 / 2 ∧ Even ⌊x⌋

instance (x : K) : Decidable (RoundsDown x) := inferInstanceAs (Decidable (_ ∨ _))

/-- The nearest integer, and the even one of two. -/
def roundEven (x : K) : ℤ := if RoundsDown x then ⌊x⌋ else ⌊x⌋ + 1

/-- A number is beyond the midpoint after an integer, or on it and the integer is odd. -/
def Beyond (x : K) (n : ℤ) : Prop := (n : K) + 1 / 2 < x ∨ x = n + 1 / 2 ∧ Odd n

instance (x : K) (n : ℤ) : Decidable (Beyond x n) := inferInstanceAs (Decidable (_ ∨ _))

theorem lt_roundEven_iff : n < roundEven x ↔ Beyond x n := by
  have parts := Int.floor_add_fract x
  have fractNonneg := Int.fract_nonneg x
  have fractLt := Int.fract_lt_one x
  rw [roundEven, Beyond]
  rcases lt_trichotomy n ⌊x⌋ with below | rfl | above
  · -- the midpoint is below the floor
    have step : (n : K) + 1 ≤ ⌊x⌋ := by exact_mod_cast below
    refine iff_of_true ?_ (.inl (by linarith))
    split <;> omega
  · rw [← Int.not_even_iff_odd]
    split
    next down =>
      refine iff_of_false (lt_irrefl _) ?_
      rintro (larger | ⟨same, odd⟩)
      · rcases down with smaller | ⟨half, -⟩ <;> linarith
      · rcases down with smaller | ⟨-, even⟩
        · linarith
        · exact odd even
    next up =>
      refine iff_of_true (Int.lt_add_one_iff.mpr le_rfl) ?_
      rw [RoundsDown, not_or, not_lt] at up
      rcases up with ⟨atLeast, notEven⟩
      rcases atLeast.eq_or_lt with half | larger
      · exact .inr ⟨by linarith, fun even => notEven ⟨half.symm, even⟩⟩
      · exact .inl (by linarith)
  · have step : (⌊x⌋ : K) + 1 ≤ n := by exact_mod_cast above
    refine iff_of_false (by split <;> omega) ?_
    rintro (larger | ⟨same, -⟩) <;> linarith

theorem roundEven_le_iff : roundEven x ≤ n ↔ ¬Beyond x n := by
  rw [← not_lt, lt_roundEven_iff]

omit [IsStrictOrderedRing K] [FloorRing K] in
theorem Beyond.mono (beyond : Beyond x n) (le : x ≤ y) : Beyond y n := by
  rcases beyond with larger | ⟨rfl, odd⟩
  · exact .inl (larger.trans_le le)
  · rcases le.eq_or_lt with same | less
    · exact .inr ⟨same.symm, odd⟩
    · exact .inl less

theorem roundEven_le_roundEven (le : x ≤ y) : roundEven x ≤ roundEven y := by
  rw [roundEven_le_iff]
  intro beyond
  exact lt_irrefl _ (lt_roundEven_iff.mpr (beyond.mono le))

theorem abs_roundEven_sub_le (x : K) : |roundEven x - x| ≤ 1 / 2 := by
  have reached : Beyond x (roundEven x - 1) := lt_roundEven_iff.mp (sub_one_lt _)
  have notPassed : ¬Beyond x (roundEven x) := roundEven_le_iff.mp le_rfl
  rw [Beyond] at reached
  push_cast at reached
  rw [abs_le]
  constructor
  · have atMost := not_lt.mp (not_or.mp notPassed).1
    linarith
  · rcases reached with larger | ⟨same, -⟩ <;> linarith

@[simp] theorem roundEven_intCast (n : ℤ) : roundEven (n : K) = n := by
  have down : RoundsDown (n : K) := .inl (by rw [Int.fract_intCast]; norm_num)
  rw [roundEven, if_pos down, Int.floor_intCast]

theorem le_roundEven_of_le (le : (n : K) ≤ x) : n ≤ roundEven x := by
  rw [← roundEven_intCast (K := K) n]
  exact roundEven_le_roundEven le

theorem roundEven_le_of_le (le : x ≤ n) : roundEven x ≤ n := by
  rw [← roundEven_intCast (K := K) n]
  exact roundEven_le_roundEven le

/-- The midpoint before an integer is the one after its predecessor. -/
theorem beyond_neg_iff : Beyond (-x) n ↔ ¬Beyond x (-n - 1) := by
  have parity : Odd (-n - 1) ↔ ¬Odd n := by
    rw [Int.odd_iff, Int.odd_iff]
    omega
  rw [Beyond, Beyond, parity]
  push_cast
  constructor
  · rintro (less | ⟨same, odd⟩) (greater | ⟨same', notOdd⟩)
    · linarith
    · linarith
    · linarith
    · exact notOdd odd
  · intro misses
    rcases not_or.mp misses with ⟨atMost, notOn⟩
    rcases (not_lt.mp atMost).eq_or_lt with same | less
    · exact .inr ⟨by linarith, not_not.mp fun notOdd => notOn ⟨same, notOdd⟩⟩
    · exact .inl (by linarith)

theorem roundEven_neg (x : K) : roundEven (-x) = -roundEven x := by
  refine eq_of_forall_lt_iff fun n => ?_
  rw [lt_roundEven_iff, beyond_neg_iff, ← roundEven_le_iff]
  omega

end ToInteger

/-! ## Rounding to a significand -/

section ToSignificand

variable (bits : ℕ) {x y : K}

/-- The distance of adjacent numbers with `bits` binary digits after the first, near a
number. -/
def ulp (x : K) : K := 2 ^ (Int.log 2 |x| - bits)

/-- The nearest number with `bits` binary digits after the first, ties to even. -/
def nearest (x : K) : K := roundEven (x / ulp bits x) * ulp bits x

/-- The greatest number with `bits` digits after the first that is not above a number, in
units. -/
def below (x : K) : ℤ := ⌊x / ulp bits x⌋

/-- The middle between that number and the next one. -/
def middle (x : K) : K := (below bits x + 1 / 2) * ulp bits x

theorem ulp_pos (x : K) : 0 < ulp bits x := zpow_pos two_pos _

/-- A rounded number is compared by a midpoint. -/
theorem nearest_le_iff {bound : K} :
    nearest bits x ≤ bound ↔ ¬Beyond (x / ulp bits x) ⌊bound / ulp bits x⌋ := by
  rw [nearest, ← le_div_iff₀ (ulp_pos bits x), ← Int.le_floor, roundEven_le_iff]

theorem nearest_of_multiple {m : ℤ} (multiple : x = m * ulp bits x) : nearest bits x = x := by
  have quotient : x / ulp bits x = m := by
    nth_rewrite 1 [multiple]
    exact mul_div_cancel_right₀ _ (ulp_pos bits x).ne'
  rw [nearest, quotient, roundEven_intCast, ← multiple]

omit [IsStrictOrderedRing K] in
theorem ulp_neg (x : K) : ulp bits (-x) = ulp bits x := by
  rw [ulp, ulp, abs_neg]

theorem nearest_neg (x : K) : nearest bits (-x) = -nearest bits x := by
  rw [nearest, nearest, ulp_neg, neg_div, roundEven_neg, Int.cast_neg, neg_mul]

@[simp] theorem nearest_zero : nearest bits (0 : K) = 0 := by
  apply nearest_of_multiple (m := 0)
  simp

/-- The first digit of a positive number has the value of so many units in the last place. -/
theorem zpow_log_eq (positive : 0 < x) :
    (2 : K) ^ Int.log 2 x = ((2 ^ bits : ℤ) : K) * ulp bits x := by
  rw [ulp, abs_of_pos positive, zpow_sub₀ two_ne_zero]
  push_cast
  rw [zpow_natCast, mul_div_cancel₀]
  positivity

/-- Twice the first digit of a positive number, in units. -/
theorem zpow_log_add_one_eq (positive : 0 < x) :
    (2 : K) ^ (Int.log 2 x + 1) = ((2 ^ (bits + 1) : ℤ) : K) * ulp bits x := by
  rw [zpow_add_one₀ two_ne_zero, zpow_log_eq bits positive]
  push_cast
  ring

/-- A positive number has at least as many units as the least significand. -/
theorem significand_mul_ulp_le (positive : 0 < x) : ((2 ^ bits : ℤ) : K) * ulp bits x ≤ x := by
  rw [← zpow_log_eq bits positive]
  exact_mod_cast Int.zpow_log_le_self one_lt_two positive

theorem lt_significand_mul_ulp (positive : 0 < x) :
    x < ((2 ^ (bits + 1) : ℤ) : K) * ulp bits x := by
  rw [← zpow_log_add_one_eq bits positive]
  exact_mod_cast Int.lt_zpow_succ_log_self one_lt_two x

/-- Rounding changes a number by at most half a unit, which is this part of the number. -/
theorem abs_nearest_sub_le (positive : 0 < x) : |nearest bits x - x| ≤ x / 2 ^ (bits + 1) := by
  have unitPos := ulp_pos bits x
  have low := significand_mul_ulp_le bits positive
  push_cast at low
  have scaled : nearest bits x - x =
      (roundEven (x / ulp bits x) - x / ulp bits x) * ulp bits x := by
    rw [nearest, sub_mul, div_mul_cancel₀ _ unitPos.ne']
  rw [scaled, abs_mul, abs_of_pos unitPos, le_div_iff₀ (by positivity), pow_succ]
  calc |roundEven (x / ulp bits x) - x / ulp bits x| * ulp bits x * (2 ^ bits * 2)
      ≤ 1 / 2 * ulp bits x * (2 ^ bits * 2) := by
        gcongr
        exact abs_roundEven_sub_le _
    _ = 2 ^ bits * ulp bits x := by ring
    _ ≤ x := low

/-- Rounding does not lower the exponent. -/
theorem zpow_log_le_nearest (positive : 0 < x) : (2 : K) ^ Int.log 2 x ≤ nearest bits x := by
  have low := significand_mul_ulp_le bits positive
  rw [← le_div_iff₀ (ulp_pos bits x)] at low
  rw [zpow_log_eq bits positive, nearest]
  exact mul_le_mul_of_nonneg_right (by exact_mod_cast le_roundEven_of_le low)
    (ulp_pos bits x).le

/-- Rounding raises the exponent at most by one. -/
theorem nearest_le_zpow_log (positive : 0 < x) :
    nearest bits x ≤ (2 : K) ^ (Int.log 2 x + 1) := by
  have high := lt_significand_mul_ulp bits positive
  rw [← div_lt_iff₀ (ulp_pos bits x)] at high
  rw [zpow_log_add_one_eq bits positive, nearest]
  exact mul_le_mul_of_nonneg_right (by exact_mod_cast roundEven_le_of_le high.le)
    (ulp_pos bits x).le

theorem nearest_pos (positive : 0 < x) : 0 < nearest bits x :=
  (zpow_pos two_pos _).trans_le (zpow_log_le_nearest bits positive)

theorem nearest_le_nearest_of_pos (positive : 0 < x) (le : x ≤ y) :
    nearest bits x ≤ nearest bits y := by
  have positive' := positive.trans_le le
  rcases (Int.log_mono_right (b := 2) positive le).eq_or_lt with same | less
  · have sameUlp : ulp bits x = ulp bits y := by
      rw [ulp, ulp, abs_of_pos positive, abs_of_pos positive', same]
    rw [nearest, nearest, sameUlp]
    have quotient := div_le_div_of_nonneg_right le (ulp_pos bits y).le
    exact mul_le_mul_of_nonneg_right (by exact_mod_cast roundEven_le_roundEven quotient)
      (ulp_pos bits y).le
  · calc nearest bits x ≤ (2 : K) ^ (Int.log 2 x + 1) := nearest_le_zpow_log bits positive
      _ ≤ (2 : K) ^ Int.log 2 y := zpow_le_zpow_right₀ one_le_two less
      _ ≤ nearest bits y := zpow_log_le_nearest bits positive'

theorem monotone_nearest : Monotone (nearest bits : K → K) := by
  have nonneg : ∀ {x : K}, 0 ≤ x → 0 ≤ nearest bits x := by
    intro x atLeast
    rcases atLeast.eq_or_lt with rfl | positive
    · rw [nearest_zero]
    · exact (nearest_pos bits positive).le
  intro x y le
  rcases lt_or_ge 0 x with positive | nonpos
  · exact nearest_le_nearest_of_pos bits positive le
  have nonpos' := nonneg (neg_nonneg.mpr nonpos)
  rw [nearest_neg, neg_nonneg] at nonpos'
  rcases le_or_gt 0 y with atLeast | negative
  · exact nonpos'.trans (nonneg atLeast)
  · -- both are negative
    have mirrored := nearest_le_nearest_of_pos bits (neg_pos.mpr negative) (neg_le_neg le)
    rw [nearest_neg, nearest_neg] at mirrored
    exact neg_le_neg_iff.mp mirrored

theorem nearest_two_zpow (e : ℤ) : nearest bits ((2 : K) ^ e) = 2 ^ e := by
  have log : Int.log 2 ((2 : K) ^ e) = e := by
    exact_mod_cast Int.log_zpow (R := K) one_lt_two e
  apply nearest_of_multiple bits (m := 2 ^ bits)
  rw [← zpow_log_eq bits (zpow_pos two_pos e), log]

/-- Integers that have no more digits than the significand are not rounded. -/
theorem nearest_of_short {n : ℤ} (positive : 0 < n) (short : n < 2 ^ (bits + 1)) :
    nearest bits (n : K) = n := by
  have castPos : (0 : K) < n := by exact_mod_cast positive
  have log : Int.log 2 (n : K) ≤ bits := by
    have less : (n : K) < ((2 : ℕ) : K) ^ ((bits + 1 : ℕ) : ℤ) := by
      rw [zpow_natCast]
      exact_mod_cast short
    rw [Int.lt_zpow_iff_log_lt one_lt_two castPos] at less
    push_cast at less
    omega
  rcases Int.eq_ofNat_of_zero_le (sub_nonneg.mpr log) with ⟨places, same⟩
  apply nearest_of_multiple bits (m := n * 2 ^ places)
  rw [ulp, abs_of_pos castPos, ← neg_sub, same, zpow_neg, zpow_natCast]
  push_cast
  rw [mul_assoc, mul_inv_cancel₀ (by positivity), mul_one]

/-- Nor is the first one that has more digits, and the same holds of their negatives. -/
theorem nearest_intCast {n : ℤ} (small : |n| ≤ 2 ^ (bits + 1)) :
    nearest bits (n : K) = n := by
  have fixed : ∀ {n : ℤ}, 0 < n → n ≤ 2 ^ (bits + 1) → nearest bits (n : K) = n := by
    intro n positive atMost
    rcases atMost.eq_or_lt with rfl | short
    · have power := nearest_two_zpow (K := K) bits ((bits + 1 : ℕ) : ℤ)
      rw [zpow_natCast] at power
      push_cast
      exact power
    · exact nearest_of_short bits positive short
  rcases abs_le.mp small with ⟨low, high⟩
  rcases lt_trichotomy n 0 with negative | rfl | positive
  · have mirrored := fixed (neg_pos.mpr negative) (by omega)
    rw [Int.cast_neg, nearest_neg] at mirrored
    exact neg_inj.mp mirrored
  · rw [Int.cast_zero, nearest_zero]
  · exact fixed positive high

/-! ## Subnormal numbers -/

/-- The nearest number with `bits` binary digits after the first, where numbers below
`2 ^ first` are multiples of the same unit. -/
def nearestFrom (first : ℤ) (x : K) : K :=
  if |x| < 2 ^ first then roundEven (x / 2 ^ (first - bits)) * 2 ^ (first - bits)
  else nearest bits x

omit [IsStrictOrderedRing K] in
theorem nearestFrom_of_le {first : ℤ} (normal : 2 ^ first ≤ |x|) :
    nearestFrom bits first x = nearest bits x :=
  if_neg (not_lt.mpr normal)

/-- A number that is not above the first normal one is not rounded beyond it. -/
theorem nearestFrom_le {first : ℤ} (le : x ≤ 2 ^ first) : nearestFrom bits first x ≤ 2 ^ first := by
  have unitPos : (0 : K) < 2 ^ (first - bits) := zpow_pos two_pos _
  rw [nearestFrom]
  split
  next small =>
    have units : (2 : K) ^ first = ((2 ^ bits : ℤ) : K) * 2 ^ (first - bits) := by
      rw [zpow_sub₀ two_ne_zero, zpow_natCast]
      push_cast
      rw [mul_div_cancel₀]
      positivity
    have quotient : x / 2 ^ (first - bits) ≤ ((2 ^ bits : ℤ) : K) := by
      rw [div_le_iff₀ unitPos, ← units]
      exact le
    rw [units]
    exact mul_le_mul_of_nonneg_right (by exact_mod_cast roundEven_le_of_le quotient) unitPos.le
  next =>
    exact (monotone_nearest bits le).trans_eq (nearest_two_zpow bits first)

theorem nearestFrom_neg (first : ℤ) (x : K) :
    nearestFrom bits first (-x) = -nearestFrom bits first x := by
  rw [nearestFrom, nearestFrom, abs_neg]
  split
  · rw [neg_div, roundEven_neg, Int.cast_neg, neg_mul]
  · exact nearest_neg bits x

/-- The results for normal numbers are not below those for smaller ones. -/
theorem nearestFrom_le_of_normal {first : ℤ} (small : |x| < 2 ^ first) (normal : 2 ^ first ≤ y) :
    nearestFrom bits first x ≤ nearestFrom bits first y := by
  rw [nearestFrom_of_le bits (normal.trans (le_abs_self y))]
  calc nearestFrom bits first x ≤ 2 ^ first := nearestFrom_le bits (abs_lt.mp small).2.le
    _ = nearest bits (2 ^ first) := (nearest_two_zpow bits first).symm
    _ ≤ nearest bits y := monotone_nearest bits normal

theorem monotone_nearestFrom (first : ℤ) : Monotone (nearestFrom bits first : K → K) := by
  intro x y le
  by_cases smallX : |x| < 2 ^ first <;> by_cases smallY : |y| < 2 ^ first
  · have unitPos : (0 : K) < 2 ^ (first - bits) := zpow_pos two_pos _
    rw [nearestFrom, nearestFrom, if_pos smallX, if_pos smallY]
    have quotient := div_le_div_of_nonneg_right le unitPos.le
    exact mul_le_mul_of_nonneg_right (by exact_mod_cast roundEven_le_roundEven quotient)
      unitPos.le
  · rcases le_abs'.mp (not_lt.mp smallY) with low | high
    · exact absurd (abs_lt.mp smallX).1 (not_lt.mpr (le.trans low))
    · exact nearestFrom_le_of_normal bits smallX high
  · rcases le_abs'.mp (not_lt.mp smallX) with low | high
    · have mirrored := nearestFrom_le_of_normal bits (by rwa [abs_neg]) (le_neg.mpr low)
      rw [nearestFrom_neg, nearestFrom_neg] at mirrored
      exact neg_le_neg_iff.mp mirrored
    · exact absurd (abs_lt.mp smallY).2 (not_lt.mpr (high.trans le))
  · rw [nearestFrom_of_le bits (not_lt.mp smallX), nearestFrom_of_le bits (not_lt.mp smallY)]
    exact monotone_nearest bits le

/-- Integers are normal numbers or zero. -/
theorem nearestFrom_intCast {first : ℤ} (fraction : first ≤ 0) {n : ℤ}
    (small : |n| ≤ 2 ^ (bits + 1)) : nearestFrom bits first (n : K) = n := by
  rcases eq_or_ne n 0 with rfl | nonzero
  · rw [nearestFrom, Int.cast_zero, abs_zero, if_pos (zpow_pos two_pos first), zero_div]
    have zero : roundEven (0 : K) = 0 := by exact_mod_cast roundEven_intCast (K := K) 0
    rw [zero, Int.cast_zero, zero_mul]
  · rw [nearestFrom_of_le, nearest_intCast bits small]
    calc (2 : K) ^ first ≤ 1 := zpow_le_one_of_nonpos₀ one_le_two fraction
      _ ≤ |(n : K)| := by exact_mod_cast Int.one_le_abs nonzero

end ToSignificand

end Binary

namespace Rounding

/-- Rounding to 24 binary digits, with any exponent. -/
def single : Rounding where
  round := Binary.nearest 23
  overflows _ := false
  monotone := Binary.monotone_nearest 23
  round_intCast _ small := Binary.nearest_intCast 23 small

@[simp] theorem single_round (q : ℚ) : single.round q = Binary.nearest 23 q := rfl

/-- The rounding of Java's `float`, with exponents from -126 to 127. -/
def binary32 : Rounding where
  round := Binary.nearestFrom 23 (-126)
  overflows q := decide (2 ^ 128 ≤ |Binary.nearest 23 q|)
  monotone := Binary.monotone_nearestFrom 23 (-126)
  round_intCast _ small := Binary.nearestFrom_intCast 23 (by decide) small

end Rounding

end IiifImage.Java
