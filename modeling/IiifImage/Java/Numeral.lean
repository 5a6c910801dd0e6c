import IiifImage.Java.Text

/-!
# Floating-point numerals

`Float.parseFloat` reads a numeral from left to right.  Each reader here returns what it
has read together with the rest of the text.  The value of a numeral is exact, and its
conversion to the nearest `float` is a parameter.
-/

namespace IiifImage.Java.Text

/-! ## Readers -/

/-- The value of an ASCII digit in a base of at most sixteen. -/
def asciiDigit (base : ℕ) (c : Char) : Option ℕ :=
  let value :=
    if '0' ≤ c ∧ c ≤ '9' then c.toNat - 48
    else if 'a' ≤ c ∧ c ≤ 'f' then c.toNat - 87
    else if 'A' ≤ c ∧ c ≤ 'F' then c.toNat - 55
    else base
  if value < base then some value else none

def leadingDigits (base : ℕ) (text : JString) : JString :=
  text.takeWhile fun c => (asciiDigit base c).isSome

/-- The text after the digits that it starts with. -/
def afterDigits (base : ℕ) (text : JString) : JString :=
  text.dropWhile fun c => (asciiDigit base c).isSome

def digitsValue (base : ℕ) (digits : JString) : ℕ :=
  digits.foldl (fun value c => base * value + (asciiDigit base c).getD 0) 0

/-- An optional sign, and whether it is a minus. -/
def readSign : JString → Bool × JString
  | '-' :: rest => (true, rest)
  | '+' :: rest => (false, rest)
  | text => (false, text)

/-- The digits after the decimal point, if there is one. -/
def readFraction (base : ℕ) : JString → JString × JString
  | '.' :: rest => (leadingDigits base rest, afterDigits base rest)
  | text => ([], text)

/-- Digits with an optional point before, between or after them. -/
def readSignificand (base : ℕ) (text : JString) : Option (ℚ × JString) :=
  let whole := leadingDigits base text
  let (fraction, rest) := readFraction base (afterDigits base text)
  if whole = [] ∧ fraction = [] then none
  else some ((digitsValue base (whole ++ fraction) : ℚ) / base ^ fraction.length, rest)

/-- An optionally signed sequence of decimal digits. -/
def readExponent (text : JString) : Option (ℤ × JString) :=
  let (negative, rest) := readSign text
  let digits := leadingDigits 10 rest
  if digits = [] then none
  else
    let value : ℤ := digitsValue 10 digits
    some (if negative then -value else value, afterDigits 10 rest)

/-- The exponent of a decimal numeral, which may be missing. -/
def readDecimalExponent : JString → Option (ℤ × JString)
  | 'e' :: rest => readExponent rest
  | 'E' :: rest => readExponent rest
  | text => some (0, text)

def readBinaryExponent : JString → Option (ℤ × JString)
  | 'p' :: rest => readExponent rest
  | 'P' :: rest => readExponent rest
  | _ => none

/-- Nothing, or one of the suffixes that name a floating-point type. -/
def isTypeSuffix (text : JString) : Bool :=
  text = [] ∨ text = ['f'] ∨ text = ['F'] ∨ text = ['d'] ∨ text = ['D']

def readDecimal (text : JString) : Option ℚ := do
  let (significand, rest) ← readSignificand 10 text
  let (exponent, rest) ← readDecimalExponent rest
  if isTypeSuffix rest then some (significand * 10 ^ exponent) else none

def readHexadecimal (text : JString) : Option ℚ := do
  let (significand, rest) ← readSignificand 16 text
  let (exponent, rest) ← readBinaryExponent rest
  if isTypeSuffix rest then some (significand * 2 ^ exponent) else none

def readUnsigned : JString → Option ℚ
  | '0' :: 'x' :: rest => readHexadecimal rest
  | '0' :: 'X' :: rest => readHexadecimal rest
  | text => readDecimal text

/-- The characters that `trim` removes. -/
def isTrimmed (c : Char) : Bool := c.toNat ≤ 32

def trim (text : JString) : JString := (text.dropWhile isTrimmed).rdropWhile isTrimmed

/-- `Float.parseFloat`, with `none` for its `NumberFormatException`. -/
def parseFloat (toFloat : ℚ → JFloat) (text : JString) : Option JFloat :=
  let (negative, rest) := readSign (trim text)
  if rest = ['N', 'a', 'N'] then some .nan
  else if rest = ['I', 'n', 'f', 'i', 'n', 'i', 't', 'y'] then some (.inf negative)
  else (readUnsigned rest).map fun value => toFloat (if negative then -value else value)

example : parseFloat .fin [' ', '-', '1', '2', '.', '5', 'e', '1', 'f'] =
    some (.fin (-125)) := by decide +kernel

/-! ## No numeral contains a comma -/

/-- What is read before the rest contains no comma. -/
def CommaKept (text rest : JString) : Prop := ',' ∈ text → ',' ∈ rest

theorem CommaKept.refl (text : JString) : CommaKept text text := id

theorem CommaKept.trans {text middle rest : JString} (first : CommaKept text middle)
    (second : CommaKept middle rest) : CommaKept text rest :=
  second ∘ first

theorem CommaKept.cons {text rest : JString} {c : Char} (other : ',' ≠ c)
    (kept : CommaKept text rest) : CommaKept (c :: text) rest := by
  intro member
  exact kept ((List.mem_cons.mp member).resolve_left other)

theorem commaKept_afterDigits {base : ℕ} (text : JString)
    (notDigit : asciiDigit base ',' = none) : CommaKept text (afterDigits base text) := by
  intro member
  rw [← List.takeWhile_append_dropWhile (p := fun c => (asciiDigit base c).isSome)
    (l := text)] at member
  rcases List.mem_append.mp member with digit | rest
  · have isDigit := List.mem_takeWhile_imp digit
    simp [notDigit] at isDigit
  · exact rest

theorem commaKept_readSign (text : JString) : CommaKept text (readSign text).2 := by
  unfold readSign
  split
  · exact .cons (by decide) (.refl _)
  · exact .cons (by decide) (.refl _)
  · exact .refl _

theorem commaKept_readSignificand {base : ℕ} (notDigit : asciiDigit base ',' = none)
    {text rest : JString} {value : ℚ} (read : readSignificand base text = some (value, rest)) :
    CommaKept text rest := by
  have fraction : ∀ middle, CommaKept middle (readFraction base middle).2 := by
    intro middle
    unfold readFraction
    split
    · exact .cons (by decide) (commaKept_afterDigits _ notDigit)
    · exact .refl _
  have kept := (commaKept_afterDigits text notDigit).trans (fraction _)
  simp only [readSignificand] at read
  split at read
  · cases read
  · cases read
    exact kept

theorem commaKept_readExponent {text rest : JString} {value : ℤ}
    (read : readExponent text = some (value, rest)) : CommaKept text rest := by
  rw [readExponent] at read
  dsimp only at read
  split at read
  · cases read
  · cases read
    exact (commaKept_readSign text).trans (commaKept_afterDigits _ (by decide))

theorem commaKept_readDecimalExponent {text rest : JString} {value : ℤ}
    (read : readDecimalExponent text = some (value, rest)) : CommaKept text rest := by
  unfold readDecimalExponent at read
  split at read
  · exact .cons (by decide) (commaKept_readExponent read)
  · exact .cons (by decide) (commaKept_readExponent read)
  · cases read
    exact .refl _

theorem commaKept_readBinaryExponent {text rest : JString} {value : ℤ}
    (read : readBinaryExponent text = some (value, rest)) : CommaKept text rest := by
  unfold readBinaryExponent at read
  split at read
  · exact .cons (by decide) (commaKept_readExponent read)
  · exact .cons (by decide) (commaKept_readExponent read)
  · cases read

theorem comma_not_mem_suffix {text : JString} (suffix : isTypeSuffix text = true) :
    ',' ∉ text := by
  simp only [isTypeSuffix, decide_eq_true_eq] at suffix
  rcases suffix with rfl | rfl | rfl | rfl | rfl <;> decide

theorem comma_not_mem_of_readDecimal {text : JString} {value : ℚ}
    (read : readDecimal text = some value) : ',' ∉ text := by
  rcases Option.bind_eq_some_iff.mp read with ⟨⟨_, middle⟩, significand, read⟩
  rcases Option.bind_eq_some_iff.mp read with ⟨⟨_, rest⟩, exponent, read⟩
  intro member
  have left := (commaKept_readSignificand (by decide) significand).trans
    (commaKept_readDecimalExponent exponent) member
  dsimp only at read
  split at read
  next suffix => exact comma_not_mem_suffix suffix left
  next => cases read

theorem comma_not_mem_of_readHexadecimal {text : JString} {value : ℚ}
    (read : readHexadecimal text = some value) : ',' ∉ text := by
  rcases Option.bind_eq_some_iff.mp read with ⟨⟨_, middle⟩, significand, read⟩
  rcases Option.bind_eq_some_iff.mp read with ⟨⟨_, rest⟩, exponent, read⟩
  intro member
  have left := (commaKept_readSignificand (by decide) significand).trans
    (commaKept_readBinaryExponent exponent) member
  dsimp only at read
  split at read
  next suffix => exact comma_not_mem_suffix suffix left
  next => cases read

theorem comma_not_mem_of_readUnsigned {text : JString} {value : ℚ}
    (read : readUnsigned text = some value) : ',' ∉ text := by
  unfold readUnsigned at read
  split at read
  · simp [comma_not_mem_of_readHexadecimal read]
  · simp [comma_not_mem_of_readHexadecimal read]
  · exact comma_not_mem_of_readDecimal read

theorem commaKept_trim (text : JString) : CommaKept text (trim text) := by
  have front : CommaKept text (text.dropWhile isTrimmed) := by
    intro member
    rw [← List.takeWhile_append_dropWhile (p := isTrimmed) (l := text)] at member
    rcases List.mem_append.mp member with removed | kept
    · exact absurd (List.mem_takeWhile_imp removed) (by decide)
    · exact kept
  refine front.trans ?_
  intro member
  rw [← List.rdropWhile_append_rtakeWhile (p := isTrimmed)
    (l := text.dropWhile isTrimmed)] at member
  rcases List.mem_append.mp member with kept | removed
  · exact kept
  · exact absurd (List.mem_rtakeWhile_imp removed) (by decide)

/-- What `parseFloat` accepts contains no comma. -/
theorem comma_not_mem_of_parseFloat {toFloat : ℚ → JFloat} {text : JString} {value : JFloat}
    (accepted : parseFloat toFloat text = some value) : ',' ∉ text := by
  intro member
  have left := (commaKept_trim text).trans (commaKept_readSign _) member
  rw [parseFloat] at accepted
  dsimp only at accepted
  split at accepted
  next isNaN =>
    rw [isNaN] at left
    exact absurd left (by decide)
  split at accepted
  next isInfinity =>
    rw [isInfinity] at left
    exact absurd left (by decide)
  · rcases Option.map_eq_some_iff.mp accepted with ⟨value, read, -⟩
    exact comma_not_mem_of_readUnsigned read left

theorem ne_nil_of_parseFloat {toFloat : ℚ → JFloat} {text : JString} {value : JFloat}
    (accepted : parseFloat toFloat text = some value) : text ≠ [] := by
  rintro rfl
  cases accepted

/-- A numeral may contain the letter `p`, but does not start with it. -/
theorem parseFloat_of_percent (toFloat : ℚ → JFloat) (text : JString) :
    parseFloat toFloat ('p' :: text) = none := by
  have front : ('p' :: text).dropWhile isTrimmed = 'p' :: text :=
    List.dropWhile_cons_of_neg (by decide)
  have unread : ∀ rest, readDecimal ('p' :: rest) = none := by
    intro rest
    have digits : leadingDigits 10 ('p' :: rest) = [] :=
      List.takeWhile_cons_of_neg (by decide)
    have after : afterDigits 10 ('p' :: rest) = 'p' :: rest :=
      List.dropWhile_cons_of_neg (by decide)
    have significand : readSignificand 10 ('p' :: rest) = none := by
      rw [readSignificand, digits, after]
      exact if_pos ⟨rfl, rfl⟩
    rw [readDecimal, significand]
    rfl
  have kept : trim ('p' :: text) <+: 'p' :: text := by
    rw [trim, front]
    exact List.rdropWhile_prefix _ _
  rw [parseFloat]
  rcases List.prefix_cons_iff.mp kept with nothing | ⟨rest, same, -⟩
  · rw [nothing]
    rfl
  · rw [same]
    simp [readSign, readUnsigned, unread]

theorem startsWith_percent_of_parseFloat {toFloat : ℚ → JFloat} {text : JString}
    {value : JFloat} (accepted : parseFloat toFloat text = some value) (rest : JString) :
    startsWith (text ++ rest) ['p', 'c', 't', ':'] = false := by
  cases text with
  | nil => exact absurd rfl (ne_nil_of_parseFloat accepted)
  | cons first others =>
      have differs : 'p' ≠ first := by
        rintro rfl
        rw [parseFloat_of_percent] at accepted
        cases accepted
      rw [startsWith, List.cons_append, List.isPrefixOf_cons_cons,
        beq_eq_false_iff_ne.mpr differs, Bool.false_and]

end IiifImage.Java.Text
