import IiifImage.Java.Binary
import Mathlib.Data.Nat.Log
import Mathlib.RingTheory.Coprime.Lemmas

/-!
# Rounded quotients and products

A quotient of integers that are shorter than the significand is never halfway between two
numbers.  What rounding adds to it is therefore a remainder of integers.  Whether a rounded
number is above another number is decided by the middle between the neighbours of the latter.
-/

namespace IiifImage.Java

namespace Binary

variable {K : Type*} [Field K] [LinearOrder K] [IsStrictOrderedRing K] [FloorRing K]

/-! ## Neighbours -/

section Neighbours

variable {x c : K} {n : ℤ}

theorem roundEven_eq_of_near (near : |x - n| < 1 / 2) : roundEven x = n := by
  rcases abs_lt.mp near with ⟨low, high⟩
  apply le_antisymm
  · rw [roundEven_le_iff]
    rintro (larger | ⟨same, -⟩) <;> linarith
  · rw [← Int.sub_one_lt_iff, lt_roundEven_iff]
    left
    push_cast
    linarith

variable (bits : ℕ)

theorem below_bounds (positive : 0 < c) :
    2 ^ bits ≤ below bits c ∧ below bits c < 2 ^ (bits + 1) := by
  constructor
  · rw [below, Int.le_floor, le_div_iff₀ (ulp_pos bits c)]
    exact significand_mul_ulp_le bits positive
  · rw [below, Int.floor_lt, div_lt_iff₀ (ulp_pos bits c)]
    exact lt_significand_mul_ulp bits positive

theorem below_mul_ulp_le (c : K) : below bits c * ulp bits c ≤ c := by
  rw [← le_div_iff₀ (ulp_pos bits c)]
  exact Int.floor_le _

theorem lt_below_add_one (c : K) : c < (below bits c + 1) * ulp bits c := by
  rw [← div_lt_iff₀ (ulp_pos bits c)]
  exact Int.lt_floor_add_one _

theorem log_eq_of_bounds {e : ℤ} (low : (2 : K) ^ e ≤ x)
    (high : x < (2 : K) ^ (e + 1)) : Int.log 2 x = e := by
  have positive : 0 < x := (zpow_pos two_pos e).trans_le low
  apply le_antisymm
  · rw [← Int.lt_add_one_iff, ← Int.lt_zpow_iff_log_lt one_lt_two positive]
    exact_mod_cast high
  · rw [← Int.zpow_le_iff_le_log one_lt_two positive]
    exact_mod_cast low

/-- Numbers with as many units as another one has have the same unit. -/
theorem ulp_eq_of_units (positive : 0 < c) (low : ((2 ^ bits : ℤ) : K) * ulp bits c ≤ x)
    (high : x < ((2 ^ (bits + 1) : ℤ) : K) * ulp bits c) : ulp bits x = ulp bits c := by
  rw [← zpow_log_eq bits positive] at low
  rw [← zpow_log_add_one_eq bits positive] at high
  have positive' : 0 < x := (zpow_pos two_pos _).trans_le low
  rw [ulp, ulp, abs_of_pos positive, abs_of_pos positive', log_eq_of_bounds low high]

/-- Multiples of the unit in the range of the significand are not rounded. -/
theorem nearest_mul_ulp (positive : 0 < c) {m : ℤ} (low : 2 ^ bits ≤ m)
    (high : m ≤ 2 ^ (bits + 1)) : nearest bits (m * ulp bits c) = m * ulp bits c := by
  have unitPos := ulp_pos bits c
  rcases high.eq_or_lt with rfl | less
  · rw [← zpow_log_add_one_eq bits positive, nearest_two_zpow]
  · have least : ((2 ^ bits : ℤ) : K) * ulp bits c ≤ m * ulp bits c :=
      mul_le_mul_of_nonneg_right (by exact_mod_cast low) unitPos.le
    have most : (m : K) * ulp bits c < ((2 ^ (bits + 1) : ℤ) : K) * ulp bits c :=
      mul_lt_mul_of_pos_right (by exact_mod_cast less) unitPos
    apply nearest_of_multiple bits (m := m)
    rw [ulp_eq_of_units bits positive least most]

/-- A rounded number is above another one exactly when it was beyond the middle after that. -/
theorem lt_nearest_iff (positive : 0 < c) :
    c < nearest bits x ↔ middle bits c < x ∨ x = middle bits c ∧ Odd (below bits c) := by
  have unitPos := ulp_pos bits c
  have lower := below_mul_ulp_le bits c
  have upper := lt_below_add_one bits c
  rcases below_bounds bits positive with ⟨low, high⟩
  have next : nearest bits ((below bits c + 1 : ℤ) * ulp bits c : K) =
      (below bits c + 1 : ℤ) * ulp bits c := nearest_mul_ulp bits positive (by omega) (by omega)
  push_cast at next
  rw [middle]
  rcases le_or_gt x (below bits c * ulp bits c) with atMost | above
  · -- rounding does not pass the neighbour below
    have rounded := monotone_nearest bits atMost
    rw [nearest_mul_ulp bits positive low high.le] at rounded
    refine iff_of_false (not_lt.mpr (rounded.trans lower)) ?_
    rintro (larger | ⟨same, -⟩) <;> nlinarith
  rcases lt_or_ge x ((below bits c + 1) * ulp bits c) with less | atLeast
  · -- between the neighbours the unit is that of the other number
    have least : ((2 ^ bits : ℤ) : K) * ulp bits c ≤ below bits c * ulp bits c :=
      mul_le_mul_of_nonneg_right (by exact_mod_cast low) unitPos.le
    have most : (below bits c + 1 : K) * ulp bits c ≤ ((2 ^ (bits + 1) : ℤ) : K) * ulp bits c :=
      mul_le_mul_of_nonneg_right (by exact_mod_cast high) unitPos.le
    have unit := ulp_eq_of_units bits positive (least.trans above.le) (less.trans_le most)
    rw [← not_le, nearest_le_iff, not_not, unit, ← below, Beyond, lt_div_iff₀ unitPos,
      div_eq_iff unitPos.ne']
  · -- nor does it fall below the neighbour above
    have rounded := monotone_nearest bits atLeast
    rw [next] at rounded
    refine iff_of_true (upper.trans_le rounded) (.inl ?_)
    nlinarith

end Neighbours

/-! ## Quotients -/

section Quotients

variable (bits a b : ℕ)

/-- The binary places that a quotient of integers has when it is rounded. -/
def places : ℕ := Nat.clog 2 ((2 ^ bits * b + a - 1) / a)

/-- What the dividend, shifted by these places, lacks of the nearest multiple of the divisor. -/
def rest : ℤ := -Int.bmod (a * 2 ^ places bits a b) b

variable {a b}

theorem le_shifted (positive : 0 < a) : 2 ^ bits * b ≤ a * 2 ^ places bits a b := by
  have covered := Nat.le_pow_clog one_lt_two ((2 ^ bits * b + a - 1) / a)
  rw [← places, Nat.div_le_iff_le_mul_add_pred positive] at covered
  omega

theorem shifted_lt (positive : 0 < a) (positive' : 0 < b) (short : a < 2 ^ (bits + 1)) :
    a * 2 ^ places bits a b < 2 ^ (bits + 1) * b := by
  rcases Nat.eq_zero_or_pos (places bits a b) with none | some
  · rw [none, pow_zero, mul_one]
    exact short.trans_le (Nat.le_mul_of_pos_right _ positive')
  · have fewer : 2 ^ (places bits a b - 1) < (2 ^ bits * b + a - 1) / a := by
      by_contra enough
      have most := Nat.clog_le_of_le_pow (b := 2) (not_lt.mp enough)
      rw [← places] at most
      omega
    rw [Nat.lt_iff_add_one_le, Nat.le_div_iff_mul_le positive, add_mul, one_mul] at fewer
    have half : 2 ^ (places bits a b - 1) * a < 2 ^ bits * b := by omega
    calc a * 2 ^ places bits a b = 2 * (2 ^ (places bits a b - 1) * a) := by
          rw [← Nat.sub_add_cancel some, pow_succ, Nat.add_sub_cancel]
          ring
      _ < 2 * (2 ^ bits * b) := by omega
      _ = 2 ^ (bits + 1) * b := by ring

/-- With the rest the shifted dividend is a multiple of the divisor. -/
theorem dvd_add_rest (a b : ℕ) : (b : ℤ) ∣ a * 2 ^ places bits a b + rest bits a b := by
  rw [rest, ← sub_eq_add_neg]
  exact Int.dvd_self_sub_bmod

/-- A quotient of integers that are shorter than the significand is not in the middle between
two numbers. -/
theorem two_mul_rest_ne (positive : 0 < a) (positive' : 0 < b) (short : a < 2 ^ bits) :
    2 * |rest bits a b| ≠ b := by
  intro half
  have large : (2 : ℤ) ^ bits * b ≤ a * 2 ^ places bits a b := by
    exact_mod_cast le_shifted bits positive
  rcases dvd_add_rest bits a b with ⟨n, multiple⟩
  -- shifted once more, the dividend is an odd multiple of the divisor
  have odd : ∃ m : ℤ, b * (2 * m + 1) = a * 2 ^ (places bits a b + 1) := by
    rw [pow_succ]
    rcases abs_cases (rest bits a b) with ⟨same, -⟩ | ⟨same, -⟩
    · exact ⟨n - 1, by linarith⟩
    · exact ⟨n, by linarith⟩
  rcases odd with ⟨m, shifted⟩
  have bPos : (0 : ℤ) < b := by exact_mod_cast positive'
  have factorLarge : (2 : ℤ) ^ (bits + 1) ≤ 2 * m + 1 := by
    have scaled : (b : ℤ) * 2 ^ (bits + 1) ≤ b * (2 * m + 1) := by
      rw [shifted, pow_succ, pow_succ]
      linarith
    exact le_of_mul_le_mul_left scaled bPos
  -- the odd factor divides the dividend, which is shorter
  have coprime : IsCoprime (2 * m + 1) ((2 : ℤ) ^ (places bits a b + 1)) :=
    IsCoprime.pow_right ⟨1, -m, by ring⟩
  have divides : (2 * m + 1) ∣ (a : ℤ) :=
    coprime.dvd_of_dvd_mul_right ⟨b, by rw [← shifted, mul_comm]⟩
  have atMost := Int.le_of_dvd (by exact_mod_cast positive) divides
  have shortCast : (a : ℤ) < 2 ^ bits := by exact_mod_cast short
  have powerPos : (0 : ℤ) < 2 ^ bits := by positivity
  rw [pow_succ] at factorLarge
  omega

/-- The nearest multiple is nearer than half the divisor. -/
theorem two_mul_abs_rest_lt (positive : 0 < a) (positive' : 0 < b) (short : a < 2 ^ bits) :
    2 * |rest bits a b| < b := by
  refine lt_of_le_of_ne ?_ (two_mul_rest_ne bits positive positive' short)
  have low := Int.le_bmod (x := a * 2 ^ places bits a b) positive'
  have high := Int.bmod_lt (x := a * 2 ^ places bits a b) positive'
  rw [rest, abs_neg]
  rcases abs_cases (Int.bmod (a * 2 ^ places bits a b) b) with ⟨same, -⟩ | ⟨same, -⟩ <;> omega

theorem ulp_div (positive : 0 < a) (positive' : 0 < b) (short : a < 2 ^ (bits + 1)) :
    ulp bits ((a : K) / b) = (2 ^ places bits a b)⁻¹ := by
  have bPos : (0 : K) < b := by exact_mod_cast positive'
  have quotientPos : (0 : K) < a / b := div_pos (by exact_mod_cast positive) bPos
  have log : Int.log 2 ((a : K) / b) = bits - places bits a b := by
    apply log_eq_of_bounds
    · rw [le_div_iff₀ bPos, zpow_sub₀ two_ne_zero, div_mul_eq_mul_div,
        div_le_iff₀ (zpow_pos two_pos _)]
      exact_mod_cast le_shifted bits positive
    · rw [div_lt_iff₀ bPos, sub_add_eq_add_sub, zpow_sub₀ two_ne_zero, div_mul_eq_mul_div,
        lt_div_iff₀ (zpow_pos two_pos _)]
      exact_mod_cast shifted_lt bits positive positive' short
  rw [ulp, abs_of_pos quotientPos, log, sub_sub_cancel_left, zpow_neg, zpow_natCast]

/-- The rounded quotient, with the shifted dividend made divisible. -/
theorem nearest_div (positive : 0 < a) (positive' : 0 < b) (short : a < 2 ^ bits) :
    nearest bits ((a : K) / b) =
      (a * 2 ^ places bits a b + rest bits a b) / (b * 2 ^ places bits a b) := by
  have bPos : (0 : K) < b := by exact_mod_cast positive'
  have unit : ulp bits ((a : K) / b) = (2 ^ places bits a b)⁻¹ :=
    ulp_div bits positive positive' (short.trans (Nat.pow_lt_pow_succ one_lt_two))
  rcases dvd_add_rest bits a b with ⟨n, multiple⟩
  have multipleCast : (a : K) * 2 ^ places bits a b + rest bits a b = b * n := by
    exact_mod_cast multiple
  have near : |(a : K) / b / (2 ^ places bits a b)⁻¹ - n| < 1 / 2 := by
    have difference : (a : K) / b / (2 ^ places bits a b)⁻¹ - n = -(rest bits a b : K) / b := by
      rw [div_inv_eq_mul, eq_div_iff bPos.ne', sub_mul, div_mul_eq_mul_div,
        div_mul_cancel₀ _ bPos.ne']
      linarith
    have shortCast : 2 * |(rest bits a b : K)| < b := by
      exact_mod_cast two_mul_abs_rest_lt bits positive positive' short
    rw [difference, abs_div, abs_neg, abs_of_pos bPos, div_lt_iff₀ bPos]
    linarith
  rw [nearest, unit, roundEven_eq_of_near near, multipleCast,
    mul_div_mul_left _ _ bPos.ne', div_eq_mul_inv]

end Quotients

/-! ## Products with a rounded quotient -/

section Products

variable (bits a b S : ℕ)

/-- The exact product of a quotient and a number, rounded up. -/
def count : ℕ := (a * S + b - 1) / b

/-- The product of the rounded quotient is rounded beyond a number: the rest of the quotient
times the factor passes what the exact product lacks of the middle after that number. -/
def Passes (c : ℕ) : Prop :=
  let lack : ℚ := (middle bits (c : ℚ) * b - a * S) * 2 ^ places bits a b
  lack < rest bits a b * S ∨ lack = rest bits a b * S ∧ Odd (below bits (c : ℚ))

instance (c : ℕ) : Decidable (Passes bits a b S c) := inferInstanceAs (Decidable (_ ∨ _))

/-- The exact product lacks enough of the count, and exceeds the number before it by enough,
for the greatest errors of two roundings. -/
def HasMargin : Prop :=
  count a b S ≤ 2 ^ (bits + 1) ∧
  a * S ≤ 2 ^ (bits + 1) * (count a b S * b - a * S) ∧
  a * S ≤ 2 ^ bits * (a * S + b - count a b S * b)

instance : Decidable (HasMargin bits a b S) := inferInstanceAs (Decidable (_ ∧ _))

/-- The product of the rounded quotient passes the number before the exact count, but not the
count itself. -/
def KeepsCount : Prop :=
  (1 < count a b S → Passes bits a b S (count a b S - 1)) ∧ ¬Passes bits a b S (count a b S)

instance : Decidable (KeepsCount bits a b S) := inferInstanceAs (Decidable (_ ∧ _))

variable {bits a b S}

theorem le_count_mul (positive : 0 < b) : a * S ≤ count a b S * b := by
  have divided := Nat.div_add_mod (a * S + b - 1) b
  have remainder := Nat.mod_lt (a * S + b - 1) positive
  rw [← count, mul_comm] at divided
  omega

theorem count_mul_lt (positive : 0 < b) : count a b S * b < a * S + b := by
  have atMost := Nat.div_mul_le_self (a * S + b - 1) b
  rw [← count] at atMost
  omega

theorem ceil_eq_count (positive : 0 < b) : ⌈(a : ℚ) / b * S⌉ = count a b S := by
  have bPos : (0 : ℚ) < b := by exact_mod_cast positive
  have least : (a : ℚ) * S ≤ count a b S * b := by exact_mod_cast le_count_mul positive
  have most : (count a b S : ℚ) * b < a * S + b := by exact_mod_cast count_mul_lt positive
  rw [Int.ceil_eq_iff, div_mul_eq_mul_div, Int.cast_natCast]
  constructor
  · rw [lt_div_iff₀ bPos]
    linarith
  · rw [div_le_iff₀ bPos]
    exact least

/-- The comparison of the twice rounded product with a number is one of integers and the
middle after that number. -/
theorem lt_nearest_product_iff (aPos : 0 < a) (bPos : 0 < b) (short : a < 2 ^ bits) {c : ℕ}
    (positive : 0 < c) :
    (c : ℚ) < nearest bits (nearest bits ((a : ℚ) / b) * S) ↔ Passes bits a b S c := by
  have scalePos : (0 : ℚ) < b * 2 ^ places bits a b := by positivity
  rw [lt_nearest_iff bits (by exact_mod_cast positive), nearest_div bits aPos bPos short, Passes,
    div_mul_eq_mul_div, lt_div_iff₀ scalePos, div_eq_iff scalePos.ne']
  refine or_congr ?_ (and_congr_left' ?_)
  · constructor <;> intro less <;> linarith
  · constructor <;> intro equal <;> linarith

theorem ceil_nearest_product_iff (aPos : 0 < a) (bPos : 0 < b) (short : a < 2 ^ bits)
    (positive : 0 < S) :
    ⌈nearest bits (nearest bits ((a : ℚ) / b) * S)⌉ = ⌈(a : ℚ) / b * S⌉ ↔
      KeepsCount bits a b S := by
  have quotientPos : (0 : ℚ) < a / b := by positivity
  have factorPos : (0 : ℚ) < S := by exact_mod_cast positive
  have countPos : 0 < count a b S := by
    have ceilPos := Int.ceil_pos.mpr (mul_pos quotientPos factorPos)
    rw [ceil_eq_count bPos] at ceilPos
    exact_mod_cast ceilPos
  have notPassed : nearest bits (nearest bits ((a : ℚ) / b) * S) ≤ count a b S ↔
      ¬Passes bits a b S (count a b S) := by
    rw [← not_lt, lt_nearest_product_iff aPos bPos short countPos]
  rw [ceil_eq_count bPos, Int.ceil_eq_iff, Int.cast_natCast, notPassed, KeepsCount]
  refine and_congr_left' ?_
  rcases Nat.lt_or_ge 1 (count a b S) with several | one
  · rw [← lt_nearest_product_iff aPos bPos short (by omega), Nat.cast_sub several.le, Nat.cast_one]
    exact ⟨fun passes _ => passes, fun passes => passes several⟩
  · have single : count a b S = 1 := by omega
    have productPos := nearest_pos bits (mul_pos (nearest_pos bits quotientPos) factorPos)
    refine iff_of_true ?_ fun several => absurd several (by omega)
    rw [single, Nat.cast_one, sub_self]
    exact productPos

theorem HasMargin.bounds (bPos : 0 < b) (margin : HasMargin bits a b S) :
    (a : ℚ) / b * S / 2 ^ (bits + 1) ≤ count a b S - a / b * S ∧
      (a : ℚ) / b * S / 2 ^ bits ≤ a / b * S - (count a b S - 1) := by
  rcases margin with ⟨-, enough, enough'⟩
  zify [le_count_mul (a := a) (S := S) bPos] at enough
  zify [(count_mul_lt (a := a) (S := S) bPos).le] at enough'
  have bCast : (0 : ℚ) < b := by exact_mod_cast bPos
  have product : (a : ℚ) / b * S * b = a * S := by
    rw [mul_right_comm, div_mul_cancel₀ _ bCast.ne']
  constructor
  · rw [div_le_iff₀ (by positivity)]
    refine le_of_mul_le_mul_right ?_ bCast
    calc (a : ℚ) / b * S * b ≤ 2 ^ (bits + 1) * (count a b S * b - a / b * S * b) := by
          rw [product]
          exact_mod_cast enough
      _ = (count a b S - a / b * S) * 2 ^ (bits + 1) * b := by ring
  · rw [div_le_iff₀ (by positivity)]
    refine le_of_mul_le_mul_right ?_ bCast
    calc (a : ℚ) / b * S * b ≤ 2 ^ bits * (a / b * S * b + b - count a b S * b) := by
          rw [product]
          exact_mod_cast enough'
      _ = (a / b * S - (count a b S - 1)) * 2 ^ bits * b := by ring

/-- Two roundings lower a positive product by less than this part of it. -/
theorem lt_nearest_product (bits : ℕ) {q s : ℚ} (positive : 0 < q) (positive' : 0 < s) :
    q * s - q * s / 2 ^ bits < nearest bits (nearest bits q * s) := by
  have exactPos := mul_pos positive positive'
  have productPos := mul_pos (nearest_pos bits positive) positive'
  have first := (abs_le.mp (abs_nearest_sub_le bits positive)).1
  have second := (abs_le.mp (abs_nearest_sub_le bits productPos)).1
  set u : ℚ := 1 / 2 ^ (bits + 1) with uDef
  rw [← mul_one_div, ← uDef] at first second
  have uPos : 0 < u := by positivity
  have uLt : u < 1 := by
    rw [uDef, div_lt_one (by positivity)]
    exact one_lt_pow₀ one_lt_two (by omega)
  have twice : q * s / 2 ^ bits = 2 * (q * s * u) := by
    rw [uDef, pow_succ]
    field_simp
  calc q * s - q * s / 2 ^ bits < q * s * (1 - u) * (1 - u) := by
        rw [twice]
        nlinarith [mul_pos exactPos (mul_pos uPos uPos)]
    _ = q * (1 - u) * s * (1 - u) := by ring
    _ ≤ nearest bits q * s * (1 - u) := by
        have lower : q * (1 - u) ≤ nearest bits q := by linarith
        have remaining : 0 ≤ 1 - u := by linarith
        gcongr
    _ ≤ nearest bits (nearest bits q * s) := by linarith

/-- A margin for the errors of the quotient and of the product is enough. -/
theorem keepsCount_of_hasMargin (aPos : 0 < a) (bPos : 0 < b) (short : a < 2 ^ bits)
    (positive : 0 < S) (margin : HasMargin bits a b S) : KeepsCount bits a b S := by
  have factorPos : (0 : ℚ) < S := by exact_mod_cast positive
  have quotientPos : (0 : ℚ) < a / b := by positivity
  rcases margin.bounds bPos with ⟨upper, lower⟩
  rw [← ceil_nearest_product_iff aPos bPos short positive, ceil_eq_count bPos, Int.ceil_eq_iff,
    Int.cast_natCast]
  constructor
  · have error := lt_nearest_product bits quotientPos factorPos
    linarith
  · have error := (abs_le.mp (abs_nearest_sub_le bits quotientPos)).2
    have product : nearest bits ((a : ℚ) / b) * S ≤ count a b S := by
      have scaled := mul_le_mul_of_nonneg_right error factorPos.le
      rw [sub_mul, div_mul_eq_mul_div _ (2 ^ (bits + 1))] at scaled
      linarith
    have representable : nearest bits (count a b S : ℚ) = count a b S := by
      have atMost : |(count a b S : ℤ)| ≤ 2 ^ (bits + 1) := by
        rw [Nat.abs_cast]
        exact_mod_cast margin.1
      exact_mod_cast nearest_intCast (K := ℚ) bits atMost
    rw [← representable]
    exact monotone_nearest bits product

end Products

end Binary

end IiifImage.Java
