import IiifImage.Java.Numeral

/-!
# Decimal numbers

The digits of a natural number are read back by `Integer.parseInt` and `Float.parseFloat`.
-/

namespace IiifImage.Java.Text

/-- The decimal digits of a natural number, without leading zeros. -/
def decimal (n : ℕ) : JString := Nat.toDigits 10 n

variable {n : ℕ} {c : Char}

theorem decimal_ne_nil (n : ℕ) : decimal n ≠ [] := Nat.toDigits_ne_nil

theorem isDigit_of_mem_decimal (member : c ∈ decimal n) : c.isDigit = true :=
  Nat.isDigit_of_mem_toDigits (by decide) (by decide) member

theorem toNat_of_isDigit (isDigit : c.isDigit = true) : 48 ≤ c.toNat ∧ c.toNat ≤ 57 := by
  simpa [Char.isDigit, UInt32.le_iff_toNat_le] using isDigit

theorem asciiDigit_of_isDigit (isDigit : c.isDigit = true) :
    asciiDigit 10 c = some (c.toNat - 48) := by
  have range := toNat_of_isDigit isDigit
  have between : '0' ≤ c ∧ c ≤ '9' := by
    simpa [Char.le_def, UInt32.le_iff_toNat_le] using range
  simp only [asciiDigit, if_pos between]
  rw [if_pos (by omega)]

theorem digit_of_isDigit (isDigit : c.isDigit = true) : digit c = some (c.toNat - 48) := by
  have range := toNat_of_isDigit isDigit
  rw [digit, digitZeros, List.find?_cons_of_pos (by simpa using ⟨range.1, by omega⟩)]
  rfl

/-- The value of digits is computed from their codes. -/
theorem foldl_digits {text : JString} (allDigits : ∀ c ∈ text, c.isDigit = true)
    {value : Char → ℕ} (known : ∀ c, c.isDigit = true → value c = c.toNat - 48) (start : ℕ) :
    text.foldl (fun read c => 10 * read + value c) start = Nat.ofDigitChars 10 text start := by
  induction text generalizing start with
  | nil => rfl
  | cons c text ih =>
      rw [List.foldl_cons, Nat.ofDigitChars_cons, known c (allDigits c List.mem_cons_self)]
      exact ih (fun c later => allDigits c (List.mem_cons_of_mem _ later)) _

theorem digitsValue_decimal (n : ℕ) : digitsValue 10 (decimal n) = n := by
  rw [digitsValue, foldl_digits (fun c => isDigit_of_mem_decimal) (fun c isDigit => by
    rw [asciiDigit_of_isDigit isDigit, Option.getD_some]), decimal,
    Nat.ofDigitChars_toDigits (by decide) (by decide)]

theorem mapM_digit {text : JString} (allDigits : ∀ c ∈ text, c.isDigit = true) :
    text.mapM digit = some (text.map fun c => c.toNat - 48) := by
  induction text with
  | nil => rfl
  | cons c text ih =>
      rw [List.mapM_cons, digit_of_isDigit (allDigits c List.mem_cons_self),
        ih fun c later => allDigits c (List.mem_cons_of_mem _ later)]
      rfl

theorem digits_decimal (n : ℕ) : digits (decimal n) = some n := by
  have valued : digits (decimal n) = ((decimal n).mapM digit).map fun values =>
      values.foldl (fun value next => 10 * value + next) 0 := by
    cases shape : decimal n with
    | nil => exact absurd shape (decimal_ne_nil n)
    | cons first rest => rfl
  rw [valued, mapM_digit fun c => isDigit_of_mem_decimal, Option.map_some, List.foldl_map,
    foldl_digits (fun c => isDigit_of_mem_decimal) (fun c _ => rfl), decimal,
    Nat.ofDigitChars_toDigits (by decide) (by decide)]

/-- None of the characters that the parsers look for is among the digits. -/
theorem not_mem_decimal (n : ℕ) {other : Char} (notDigit : other.isDigit = false) :
    other ∉ decimal n := by
  intro member
  rw [isDigit_of_mem_decimal member] at notDigit
  cases notDigit

/-- `Integer.parseInt` reads a number that is an `int`. -/
theorem parseInt_decimal (small : (n : ℤ) ≤ maxInt) : parseInt (decimal n) = some (n : ℤ) := by
  have range : minInt ≤ (n : ℤ) ∧ (n : ℤ) ≤ maxInt :=
    ⟨minInt_le_of_nonneg (Int.natCast_nonneg n), small⟩
  have read : ((digits (decimal n)).bind fun value => inIntRange value) = some (n : ℤ) := by
    rw [digits_decimal, Option.bind_some, inIntRange, if_pos range]
  unfold parseInt
  split
  next text shape =>
    exact absurd (shape ▸ List.mem_cons_self : '-' ∈ decimal n) (not_mem_decimal n (by decide))
  next text shape =>
    exact absurd (shape ▸ List.mem_cons_self : '+' ∈ decimal n) (not_mem_decimal n (by decide))
  next => exact read

/-- The decimal digits of an integer, after a minus sign if it is negative. -/
def signedDecimal : ℤ → JString
  | .ofNat n => decimal n
  | .negSucc n => '-' :: decimal (n + 1)

theorem parseInt_signedDecimal {value : ℤ} (low : minInt ≤ value) (high : value ≤ maxInt) :
    parseInt (signedDecimal value) = some value := by
  cases value with
  | ofNat n => exact parseInt_decimal high
  | negSucc n =>
      have negated : -((n + 1 : ℕ) : ℤ) = Int.negSucc n := rfl
      rw [signedDecimal, parseInt, digits_decimal, Option.bind_some, negated, inIntRange,
        if_pos ⟨low, high⟩]

section Readers

theorem leadingDigits_decimal (n : ℕ) : leadingDigits 10 (decimal n) = decimal n := by
  rw [leadingDigits, List.takeWhile_eq_self_iff]
  intro c member
  rw [asciiDigit_of_isDigit (isDigit_of_mem_decimal member), Option.isSome_some]

theorem afterDigits_decimal (n : ℕ) : afterDigits 10 (decimal n) = [] := by
  rw [afterDigits, List.dropWhile_eq_nil_iff]
  intro c member
  rw [asciiDigit_of_isDigit (isDigit_of_mem_decimal member), Option.isSome_some]

theorem readDecimal_decimal (n : ℕ) : readDecimal (decimal n) = some (n : ℚ) := by
  have significand : readSignificand 10 (decimal n) = some ((n : ℚ), []) := by
    rw [readSignificand, leadingDigits_decimal, afterDigits_decimal]
    simp [readFraction, decimal_ne_nil, digitsValue_decimal]
  rw [readDecimal, significand]
  simp [readDecimalExponent, isTypeSuffix]

theorem readUnsigned_decimal (n : ℕ) : readUnsigned (decimal n) = some (n : ℚ) := by
  unfold readUnsigned
  split
  next rest shape =>
    exact absurd (shape ▸ List.mem_cons_of_mem _ List.mem_cons_self : 'x' ∈ decimal n)
      (not_mem_decimal n (by decide))
  next rest shape =>
    exact absurd (shape ▸ List.mem_cons_of_mem _ List.mem_cons_self : 'X' ∈ decimal n)
      (not_mem_decimal n (by decide))
  next => exact readDecimal_decimal n

theorem trim_decimal (n : ℕ) : trim (decimal n) = decimal n := by
  have kept : ∀ c ∈ decimal n, ¬isTrimmed c = true := by
    intro c member
    have range := toNat_of_isDigit (isDigit_of_mem_decimal member)
    simp only [isTrimmed, decide_eq_true_eq]
    omega
  have front : (decimal n).dropWhile isTrimmed = decimal n :=
    List.dropWhile_eq_self_iff.mpr fun _ => kept _ (List.getElem_mem _)
  rw [trim, front]
  exact List.rdropWhile_eq_self_iff.mpr fun nonempty => kept _ (List.getLast_mem nonempty)

theorem readSign_decimal (n : ℕ) : readSign (decimal n) = (false, decimal n) := by
  unfold readSign
  split
  next rest shape =>
    exact absurd (shape ▸ List.mem_cons_self : '-' ∈ decimal n) (not_mem_decimal n (by decide))
  next rest shape =>
    exact absurd (shape ▸ List.mem_cons_self : '+' ∈ decimal n) (not_mem_decimal n (by decide))
  next => rfl

/-- `Float.parseFloat` reads the number. -/
theorem parseFloat_decimal (toFloat : ℚ → JFloat) (n : ℕ) :
    parseFloat toFloat (decimal n) = some (toFloat n) := by
  have notNaN : decimal n ≠ ['N', 'a', 'N'] := by
    intro same
    exact not_mem_decimal n (by decide) (same ▸ List.mem_cons_self : 'N' ∈ decimal n)
  have notInfinity : decimal n ≠ ['I', 'n', 'f', 'i', 'n', 'i', 't', 'y'] := by
    intro same
    exact not_mem_decimal n (by decide) (same ▸ List.mem_cons_self : 'I' ∈ decimal n)
  rw [parseFloat, trim_decimal, readSign_decimal]
  dsimp only
  rw [if_neg notNaN, if_neg notInfinity, readUnsigned_decimal]
  rfl

end Readers

end IiifImage.Java.Text
