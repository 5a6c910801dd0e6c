import Mathlib.Data.Rat.Floor
import Mathlib.Tactic.Linarith
import Mathlib.Tactic.Positivity
import Mathlib.Tactic.FieldSimp

/-!
# Java primitive numbers

`int` values are integers; the places where 32-bit overflow can be observed use
`wrap`, and the narrowing casts use `saturate`.  `float` values are rationals
together with the infinities and `NaN`.  Every `float` operation is computed
exactly and then rounded, and the rounding is a parameter: `Rounding.exact` reads
the program in exact rational arithmetic.  A rounding may turn small results into
zero and large ones into infinities, as the machine's does; results that need more
are about an `UnlimitedRounding`, whose exponents have no bounds.

The two zeros are identified.  A divisor that is a zero of either sign is read as
the positive zero, which is the only zero an `int` converts to.
-/

namespace IiifImage.Java

/-! ## The type `int` -/

/-- `Integer.MIN_VALUE`. -/
def minInt : ℤ := -2147483648

/-- `Integer.MAX_VALUE`. -/
def maxInt : ℤ := 2147483647

/-- Two's complement reduction of an exact result to 32 bits. -/
def wrap (n : ℤ) : ℤ := (n + 2147483648) % 4294967296 - 2147483648

/-- The narrowing cast of an integral floating-point value to `int`. -/
def saturate (n : ℤ) : ℤ := max minInt (min maxInt n)

theorem wrap_of_range {n : ℤ} (low : minInt ≤ n) (high : n ≤ maxInt) :
    wrap n = n := by
  rw [minInt] at low
  rw [maxInt] at high
  rw [wrap]
  omega

theorem minInt_le_of_nonneg {n : ℤ} (nonneg : 0 ≤ n) : minInt ≤ n := by
  rw [minInt]
  omega

/-- Differences of non-negative values do not overflow. -/
theorem wrap_sub_of_nonneg {m n : ℤ} (left : 0 ≤ m) (leftHigh : m ≤ maxInt) (right : 0 ≤ n)
    (rightHigh : n ≤ maxInt) : wrap (m - n) = m - n := by
  apply wrap_of_range
  · rw [minInt]
    rw [maxInt] at rightHigh
    omega
  · omega

theorem saturate_of_range {n : ℤ} (low : minInt ≤ n) (high : n ≤ maxInt) :
    saturate n = n := by
  rw [saturate, min_eq_right high, max_eq_right low]

theorem saturate_le_maxInt (n : ℤ) : saturate n ≤ maxInt := by
  unfold saturate minInt maxInt
  omega

theorem minInt_le_saturate (n : ℤ) : minInt ≤ saturate n := by
  unfold saturate minInt maxInt
  omega

theorem saturate_natCast (n : ℕ) : saturate n = min maxInt n := by
  apply max_eq_right
  apply le_min
  · decide
  · exact minInt_le_of_nonneg (Int.natCast_nonneg n)

@[simp] theorem saturate_zero : saturate 0 = 0 := rfl

/-- A bound that is itself an `int` above the least one is respected by the cast. -/
theorem le_saturate_iff {bound n : ℤ} (low : minInt < bound) (high : bound ≤ maxInt) :
    bound ≤ saturate n ↔ bound ≤ n := by
  rw [saturate]
  rw [minInt] at low ⊢
  rw [maxInt] at high ⊢
  omega

/-! ## The type `float` -/

/-- A `float` value: `NaN`, an infinity of either sign, or a finite value. -/
inductive JFloat where
  | nan
  | inf (negative : Bool)
  | fin (value : ℚ)
  deriving DecidableEq, Repr

/-- A rounding of exact results to floats.  Results that overflow become infinities.
Integers up to `2 ^ 24` are floats already. -/
structure Rounding where
  round : ℚ → ℚ
  overflows : ℚ → Bool
  monotone : Monotone round
  round_intCast : ∀ n : ℤ, |n| ≤ 16777216 → round n = n

/-- A rounding whose exponents have no bounds: a positive result does not round to zero,
and none overflows. -/
structure UnlimitedRounding extends Rounding where
  round_pos : ∀ q : ℚ, 0 < q → 0 < round q
  unlimited : ∀ q : ℚ, overflows q = false

namespace Rounding

/-- Exact rational arithmetic. -/
def exact : Rounding where
  round := id
  overflows _ := false
  monotone := monotone_id
  round_intCast _ _ := rfl

@[simp] theorem exact_round (q : ℚ) : exact.round q = q := rfl

variable (fp : Rounding)

/-- The float that an exact result becomes. -/
def result (q : ℚ) : JFloat :=
  if fp.overflows q then .inf (decide (q < 0)) else .fin (fp.round q)

@[simp] theorem exact_result (q : ℚ) : exact.result q = .fin q := rfl

theorem result_of_unlimited {fp : Rounding} (unlimited : ∀ q, fp.overflows q = false) (q : ℚ) :
    fp.result q = .fin (fp.round q) := by
  rw [result, unlimited]
  rfl

/-- The widening conversion of an `int`, which does not overflow. -/
def ofInt (n : ℤ) : JFloat := .fin (fp.round n)

theorem ofInt_of_small {n : ℤ} (small : |n| ≤ 16777216) : fp.ofInt n = .fin n := by
  rw [ofInt, fp.round_intCast n small]

@[simp] theorem exact_ofInt (n : ℤ) : exact.ofInt n = .fin n := rfl

/-- Java's `a * b`. -/
def mul : JFloat → JFloat → JFloat
  | .nan, _ => .nan
  | _, .nan => .nan
  | .fin a, .fin b => fp.result (a * b)
  | .inf s, .inf t => .inf (s != t)
  | .inf s, .fin b => if b = 0 then .nan else .inf (s != decide (b < 0))
  | .fin a, .inf t => if a = 0 then .nan else .inf (t != decide (a < 0))

/-- Java's `a / b`. -/
def div : JFloat → JFloat → JFloat
  | .nan, _ => .nan
  | _, .nan => .nan
  | .fin a, .fin b =>
      if b = 0 then
        if a = 0 then .nan else .inf (decide (a < 0))
      else fp.result (a / b)
  | .inf _, .inf _ => .nan
  | .inf s, .fin b => .inf (s != decide (b < 0))
  | .fin _, .inf _ => .fin 0

/-- Java's `a - b`. -/
def sub : JFloat → JFloat → JFloat
  | .nan, _ => .nan
  | _, .nan => .nan
  | .fin a, .fin b => fp.result (a - b)
  | .inf s, .inf t => if s = t then .nan else .inf s
  | .inf s, .fin _ => .inf s
  | .fin _, .inf t => .inf (!t)

@[simp] theorem mul_fin (a b : ℚ) : fp.mul (.fin a) (.fin b) = fp.result (a * b) := rfl

@[simp] theorem sub_fin (a b : ℚ) : fp.sub (.fin a) (.fin b) = fp.result (a - b) := rfl

theorem div_fin (a : ℚ) {b : ℚ} (nonzero : b ≠ 0) :
    fp.div (.fin a) (.fin b) = fp.result (a / b) := by
  simp [div, nonzero]

end Rounding

namespace UnlimitedRounding

/-- Exact rational arithmetic. -/
def exact : UnlimitedRounding where
  toRounding := .exact
  round_pos _ positive := positive
  unlimited _ := rfl

instance : Coe UnlimitedRounding Rounding := ⟨toRounding⟩

variable (fp : UnlimitedRounding)

theorem result_eq (q : ℚ) : fp.toRounding.result q = .fin (fp.round q) :=
  Rounding.result_of_unlimited fp.unlimited q

end UnlimitedRounding

/-- The integral part of a rational, towards zero. -/
def truncate (q : ℚ) : ℤ := if 0 ≤ q then ⌊q⌋ else ⌈q⌉

@[simp] theorem truncate_intCast (n : ℤ) : truncate (n : ℚ) = n := by
  simp [truncate]

theorem truncate_of_nonneg {q : ℚ} (nonneg : 0 ≤ q) : truncate q = ⌊q⌋ := by
  simp [truncate, nonneg]

namespace JFloat

/-- Java's `a < b`. -/
def lt : JFloat → JFloat → Bool
  | .nan, _ => false
  | _, .nan => false
  | .inf s, .inf t => s && !t
  | .inf s, .fin _ => s
  | .fin _, .inf t => !t
  | .fin a, .fin b => decide (a < b)

/-- Java's `a > b`. -/
def gt (a b : JFloat) : Bool := b.lt a

/-- Java's `a == b`. -/
def eq : JFloat → JFloat → Bool
  | .nan, _ => false
  | _, .nan => false
  | a, b => decide (a = b)

/-- Java's `a != b`. -/
def ne (a b : JFloat) : Bool := !a.eq b

/-- Java's `a % b`; the remainder is exact. -/
def rem : JFloat → JFloat → JFloat
  | .nan, _ => .nan
  | _, .nan => .nan
  | .inf _, _ => .nan
  | .fin a, .inf _ => .fin a
  | .fin a, .fin b => if b = 0 then .nan else .fin (a - b * truncate (a / b))

/-- `Math.min` on floats. -/
def min : JFloat → JFloat → JFloat
  | .nan, _ => .nan
  | _, .nan => .nan
  | a, b => if a.lt b then a else b

/-- The cast `(int) x`. -/
def toInt : JFloat → ℤ
  | .nan => 0
  | .inf true => minInt
  | .inf false => maxInt
  | .fin q => saturate (truncate q)

/-- The cast `(int) Math.ceil(x)`. -/
def ceilToInt : JFloat → ℤ
  | .nan => 0
  | .inf true => minInt
  | .inf false => maxInt
  | .fin q => saturate ⌈q⌉

@[simp] theorem lt_fin (a b : ℚ) : lt (.fin a) (.fin b) = decide (a < b) := rfl

@[simp] theorem gt_fin (a b : ℚ) : gt (.fin a) (.fin b) = decide (b < a) := rfl

@[simp] theorem eq_fin (a b : ℚ) : eq (.fin a) (.fin b) = decide (a = b) := by
  simp [eq]

@[simp] theorem ne_fin (a b : ℚ) : ne (.fin a) (.fin b) = decide (a ≠ b) := by
  simp [ne]

@[simp] theorem toInt_fin (q : ℚ) : toInt (.fin q) = saturate (truncate q) := rfl

@[simp] theorem ceilToInt_fin (q : ℚ) : ceilToInt (.fin q) = saturate ⌈q⌉ := rfl

theorem min_fin (a b : ℚ) : JFloat.min (.fin a) (.fin b) = .fin (Min.min a b) := by
  simp only [JFloat.min, lt_fin, decide_eq_true_eq]
  split
  next less => rw [min_eq_left less.le]
  next notLess => rw [min_eq_right (not_lt.mp notLess)]

/-- The cast produces an `int`. -/
theorem toInt_range (x : JFloat) : minInt ≤ x.toInt ∧ x.toInt ≤ maxInt := by
  cases x with
  | nan => decide
  | inf negative => cases negative <;> decide
  | fin q => exact ⟨minInt_le_saturate _, saturate_le_maxInt _⟩

theorem ceilToInt_range (x : JFloat) : minInt ≤ x.ceilToInt ∧ x.ceilToInt ≤ maxInt := by
  cases x with
  | nan => decide
  | inf negative => cases negative <;> decide
  | fin q => exact ⟨minInt_le_saturate _, saturate_le_maxInt _⟩

/-- Truncating does not round up. -/
theorem toInt_le_ceilToInt (x : JFloat) : x.toInt ≤ x.ceilToInt := by
  cases x with
  | nan => decide
  | inf negative => cases negative <;> decide
  | fin q =>
      have below : truncate q ≤ ⌈q⌉ := by
        rw [truncate]
        split
        · exact Int.floor_le_ceil q
        · exact le_rfl
      simp only [toInt, ceilToInt, saturate]
      omega

/-- Floats that Java finds equal are equal. -/
theorem eq_of_eq {x y : JFloat} (equal : x.eq y = true) : x = y := by
  cases x <;> cases y <;> simp_all [eq]

/-- The cast and the ceiling leave an integral `int` value alone. -/
theorem toInt_intCast {n : ℤ} (low : minInt ≤ n) (high : n ≤ maxInt) :
    toInt (.fin n) = n := by
  rw [toInt_fin, truncate_intCast, saturate_of_range low high]

theorem ceilToInt_intCast {n : ℤ} (low : minInt ≤ n) (high : n ≤ maxInt) :
    ceilToInt (.fin n) = n := by
  rw [ceilToInt_fin, Int.ceil_intCast, saturate_of_range low high]

theorem toInt_natCast {n : ℕ} (high : (n : ℤ) ≤ maxInt) : toInt (.fin n) = n :=
  toInt_intCast (minInt_le_of_nonneg (Int.natCast_nonneg n)) high

theorem ceilToInt_natCast {n : ℕ} (high : (n : ℤ) ≤ maxInt) : ceilToInt (.fin n) = n :=
  ceilToInt_intCast (minInt_le_of_nonneg (Int.natCast_nonneg n)) high

/-- A float is a multiple of a positive integer exactly when Java's remainder is
zero. -/
theorem rem_eq_zero_iff (q : ℚ) (modulus : ℤ) (positive : 0 < modulus) :
    (rem (.fin q) (.fin modulus)).eq (.fin 0) = true ↔
      ∃ k : ℤ, q = modulus * k := by
  have nonzero : (modulus : ℚ) ≠ 0 := by exact_mod_cast positive.ne'
  simp only [rem, nonzero, if_false, eq_fin, decide_eq_true_eq]
  constructor
  · intro remainder
    exact ⟨truncate (q / modulus), by linarith⟩
  · intro multiple
    rcases multiple with ⟨k, rfl⟩
    rw [mul_div_cancel_left₀ _ nonzero, truncate_intCast, sub_self]

/-- A finite float that is not negative. -/
def Nonneg (x : JFloat) : Prop := ∃ q : ℚ, 0 ≤ q ∧ x = .fin q

def Positive (x : JFloat) : Prop := ∃ q : ℚ, 0 < q ∧ x = .fin q

/-- The ceiling of a positive float is at least one, saturated or not. -/
theorem Positive.one_le_ceilToInt {x : JFloat} (positive : x.Positive) :
    1 ≤ x.ceilToInt := by
  rcases positive with ⟨q, qPos, rfl⟩
  rw [ceilToInt_fin, le_saturate_iff (by decide) (by decide)]
  exact Int.one_le_ceil_iff.mpr qPos

theorem Positive.min {x y : JFloat} (left : x.Positive) (right : y.Positive) :
    (x.min y).Positive := by
  rcases left with ⟨a, aPos, rfl⟩
  rcases right with ⟨b, bPos, rfl⟩
  simp only [JFloat.min, lt_fin, decide_eq_true_eq]
  split
  · exact ⟨a, aPos, rfl⟩
  · exact ⟨b, bPos, rfl⟩

end JFloat

namespace UnlimitedRounding

variable (fp : UnlimitedRounding)

theorem ofInt_positive {n : ℤ} (positive : 1 ≤ n) : (fp.toRounding.ofInt n).Positive :=
  ⟨fp.round n, fp.round_pos n (by exact_mod_cast positive), rfl⟩

theorem mul_positive {x y : JFloat} (left : x.Positive) (right : y.Positive) :
    (fp.toRounding.mul x y).Positive := by
  rcases left with ⟨a, aPos, rfl⟩
  rcases right with ⟨b, bPos, rfl⟩
  exact ⟨_, fp.round_pos _ (mul_pos aPos bPos), fp.result_eq _⟩

theorem div_positive {x y : JFloat} (left : x.Positive) (right : y.Positive) :
    (fp.toRounding.div x y).Positive := by
  rcases left with ⟨a, aPos, rfl⟩
  rcases right with ⟨b, bPos, rfl⟩
  refine ⟨_, fp.round_pos _ (div_pos aPos bPos), ?_⟩
  rw [fp.toRounding.div_fin a bPos.ne', fp.result_eq]

end UnlimitedRounding

namespace Rounding

variable (fp : Rounding)

/-- Converting a positive `int` to `float` and back leaves it positive. -/
theorem one_le_toInt_ofInt {n : ℤ} (positive : 1 ≤ n) :
    1 ≤ (fp.ofInt n).toInt := by
  have rounded : (1 : ℚ) ≤ fp.round n := by
    have lower := fp.monotone (show ((1 : ℤ) : ℚ) ≤ (n : ℚ) by exact_mod_cast positive)
    rw [fp.round_intCast 1 (by decide)] at lower
    exact_mod_cast lower
  rw [Rounding.ofInt, JFloat.toInt_fin, le_saturate_iff (by decide) (by decide),
    truncate_of_nonneg (by linarith)]
  exact Int.le_floor.mpr (by exact_mod_cast rounded)

/-- Small integers are compared as integers. -/
theorem ofInt_ne_ofInt {m n : ℤ} (left : |m| ≤ 16777216) (right : |n| ≤ 16777216) :
    (fp.ofInt m).ne (fp.ofInt n) = decide (m ≠ n) := by
  rw [ofInt_of_small fp left, ofInt_of_small fp right, JFloat.ne_fin]
  exact decide_eq_decide.mpr (not_congr Int.cast_inj)

theorem ceilToInt_ofInt {n : ℤ} (small : |n| ≤ 16777216) : (fp.ofInt n).ceilToInt = n := by
  rw [ofInt_of_small fp small]
  rcases abs_le.mp small with ⟨low, high⟩
  exact JFloat.ceilToInt_intCast (by unfold minInt; omega) (by unfold maxInt; omega)

end Rounding

end IiifImage.Java
