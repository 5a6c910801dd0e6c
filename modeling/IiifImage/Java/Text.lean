import Mathlib.Data.List.DropRight
import IiifImage.Java.Number

/-!
# Java strings

A string is the list of its characters.  The functions here are the parts of
`String`, `Character` and `Integer` that read request parameters and format
names, with their documented behaviour on all inputs.
-/

namespace IiifImage.Java

/-- A Java string. -/
abbrev JString := List Char

namespace Text

/-- `s.startsWith(prefix)`. -/
def startsWith (text start : JString) : Bool := start.isPrefixOf text

/-- `s.endsWith(suffix)`. -/
def endsWith (text ending : JString) : Bool := ending.isSuffixOf text

/-- `s.substring(begin)`. -/
def substringFrom (text : JString) (start : ℕ) : JString := text.drop start

/-- `s.substring(0, end)`. -/
def substringTo (text : JString) (stop : ℕ) : JString := text.take stop

/-- `s.lastIndexOf(c)` for a character that occurs in the string. -/
def lastIndexOf (text : JString) (c : Char) : ℕ :=
  text.length - 1 - text.reverse.idxOf c

/-- `s.split(separator)` for a one-character separator.  A string without the
separator is its own only part; otherwise trailing empty parts are dropped. -/
def split (text : JString) (separator : Char) : List JString :=
  let parts := text.splitOn separator
  if parts.length = 1 then parts else parts.rdropWhile List.isEmpty

theorem intercalate_concat_nil {parts : List JString} (separator : Char)
    (nonempty : parts ≠ []) :
    [separator].intercalate (parts ++ [[]]) = [separator].intercalate parts ++ [separator] := by
  induction parts with
  | nil => exact absurd rfl nonempty
  | cons first rest ih =>
      cases rest with
      | nil => simp
      | cons second rest =>
          have tail := ih (List.cons_ne_nil second rest)
          simp only [List.cons_append, List.intercalate_cons_cons, List.append_assoc] at tail ⊢
          rw [tail]

/-- A string starts with a character of its first part, unless that is empty. -/
theorem startsWith_append {text : JString} {first : Char} (nonempty : text ≠ [])
    (absent : first ∉ text) (rest more : JString) :
    startsWith (text ++ rest) (first :: more) = false := by
  cases text with
  | nil => exact absurd rfl nonempty
  | cons head tail =>
      have differs : first ≠ head := by
        rintro rfl
        exact absent List.mem_cons_self
      rw [startsWith, List.cons_append, List.isPrefixOf_cons_cons,
        beq_eq_false_iff_ne.mpr differs, Bool.false_and]

/-- A string ends with a character of its last part, unless that is empty. -/
theorem endsWith_append {text : JString} {last : Char} (nonempty : text ≠ [])
    (absent : last ∉ text) (rest : JString) : endsWith (rest ++ text) [last] = false := by
  rw [endsWith, Bool.eq_false_iff]
  intro ends
  rcases List.isSuffixOf_iff_suffix.mp ends with ⟨front, whole⟩
  have lastSame := congrArg List.getLast? whole
  rw [List.getLast?_concat, List.getLast?_append_of_ne_nil _ nonempty] at lastSame
  exact absent (List.mem_of_getLast? lastSame.symm)

/-- A string that does not end with the separator loses no part. -/
theorem split_of_not_endsWith {text : JString} {separator : Char}
    (ends : endsWith text [separator] = false) :
    split text separator = text.splitOn separator := by
  rw [split]
  split
  · rfl
  next several =>
    rw [List.rdropWhile_eq_self_iff]
    intro nonempty lastEmpty
    have last := List.dropLast_append_getLast nonempty
    rw [List.isEmpty_iff.mp lastEmpty] at last
    have others : (text.splitOn separator).dropLast ≠ [] := by
      intro none
      rw [none] at last
      rw [← last] at several
      exact several rfl
    have whole : [separator].intercalate (text.splitOn separator) = text :=
      List.intercalate_splitOn separator
    rw [← last, intercalate_concat_nil separator others] at whole
    have endsWithIt : [separator] <:+ text := ⟨_, whole⟩
    rw [endsWith, List.isSuffixOf_iff_suffix.mpr endsWithIt] at ends
    cases ends

/-- Empty parts at the end write separators. -/
theorem intercalate_append_replicate {parts : List JString} (separator : Char)
    (nonempty : parts ≠ []) (n : ℕ) :
    [separator].intercalate (parts ++ List.replicate n []) =
      [separator].intercalate parts ++ List.replicate n separator := by
  induction n with
  | zero => simp
  | succ n ih =>
      have front : parts ++ List.replicate n [] ≠ [] := by simp [nonempty]
      rw [List.replicate_succ', ← List.append_assoc, intercalate_concat_nil separator front, ih,
        List.append_assoc, ← List.replicate_succ']

/-- Separators behind the last part are forgotten. -/
theorem split_intercalate_append {parts : List JString} {separator : Char}
    (absent : ∀ part ∈ parts, separator ∉ part) (nonempty : parts ≠ [])
    (last : parts.getLast nonempty ≠ []) (n : ℕ) :
    split ([separator].intercalate parts ++ List.replicate n separator) separator = parts := by
  have written : ([separator].intercalate parts ++ List.replicate n separator).splitOn
      separator = parts ++ List.replicate n [] := by
    rw [← intercalate_append_replicate separator nonempty]
    apply List.splitOn_intercalate
    · intro part member
      rcases List.mem_append.mp member with member | member
      · exact absent part member
      · rw [List.eq_of_mem_replicate member]
        exact List.not_mem_nil
    · simp [nonempty]
  rw [split, written]
  split
  next single =>
    rw [List.length_append, List.length_replicate] at single
    have positive := List.length_pos_of_ne_nil nonempty
    have none : n = 0 := by omega
    rw [none, List.replicate_zero, List.append_nil]
  next several =>
    clear written several
    induction n with
    | zero =>
        rw [List.replicate_zero, List.append_nil, List.rdropWhile_eq_self_iff]
        intro nonempty lastEmpty
        exact last (List.isEmpty_iff.mp lastEmpty)
    | succ n ih =>
        rw [List.replicate_succ', ← List.append_assoc, List.rdropWhile_concat_pos _ _ _ rfl, ih]

/-- Several parts are what a string without some separators at its end is composed of. -/
theorem eq_of_split {text : JString} {separator : Char} {parts : List JString}
    (several : 1 < parts.length) (groups : split text separator = parts) :
    ∃ n, text = [separator].intercalate parts ++ List.replicate n separator := by
  have whole : [separator].intercalate (text.splitOn separator) = text :=
    List.intercalate_splitOn separator
  rw [split] at groups
  split at groups
  next single =>
    rw [groups] at single
    omega
  next =>
    have removed : ((text.splitOn separator).rtakeWhile List.isEmpty) = List.replicate
        ((text.splitOn separator).rtakeWhile List.isEmpty).length [] := by
      rw [List.eq_replicate_iff]
      exact ⟨rfl, fun part member => List.isEmpty_iff.mp (List.mem_rtakeWhile_imp member)⟩
    have nonempty : parts ≠ [] := List.ne_nil_of_length_pos (by omega)
    refine ⟨((text.splitOn separator).rtakeWhile List.isEmpty).length, ?_⟩
    rw [← intercalate_append_replicate separator nonempty, ← removed, ← groups,
      List.rdropWhile_append_rtakeWhile, whole]

/-- `s.substring(0, s.lastIndexOf(c))` on a string that ends with `c`. -/
theorem substringTo_lastIndexOf (text : JString) (c : Char) :
    substringTo (text ++ [c]) (lastIndexOf (text ++ [c]) c) = text := by
  simp [substringTo, lastIndexOf]

/-! ## Integers -/

/-- The zeros of the decimal digit ranges in the Basic Multilingual Plane. -/
def digitZeros : List ℕ :=
  [0x0030, 0x0660, 0x06F0, 0x07C0, 0x0966, 0x09E6, 0x0A66, 0x0AE6, 0x0B66, 0x0BE6,
   0x0C66, 0x0CE6, 0x0D66, 0x0E50, 0x0ED0, 0x0F20, 0x1040, 0x1090, 0x17E0, 0x1810,
   0x1946, 0x19D0, 0x1A80, 0x1A90, 0x1B50, 0x1BB0, 0x1C40, 0x1C50, 0xA620, 0xA8D0,
   0xA900, 0xA9D0, 0xAA50, 0xABF0, 0xFF10]

/-- `Character.digit(c, 10)`. -/
def digit (c : Char) : Option ℕ :=
  (digitZeros.find? fun first => first ≤ c.toNat ∧ c.toNat < first + 10).map
    fun first => c.toNat - first

/-- The value of a non-empty string of decimal digits. -/
def digits : JString → Option ℕ
  | [] => none
  | text => (text.mapM digit).map fun values =>
      values.foldl (fun value next => 10 * value + next) 0

/-- A value that an `int` can hold. -/
def inIntRange (value : ℤ) : Option ℤ :=
  if minInt ≤ value ∧ value ≤ maxInt then some value else none

/-- `Integer.parseInt`, with `none` for its `NumberFormatException`. -/
def parseInt : JString → Option ℤ
  | '-' :: text => (digits text).bind fun value => inIntRange (-(value : ℤ))
  | '+' :: text => (digits text).bind fun value => inIntRange value
  | text => (digits text).bind fun value => inIntRange value

theorem mapM_digit_isSome {text : JString} {values : List ℕ}
    (parsed : text.mapM digit = some values) : ∀ c ∈ text, (digit c).isSome = true := by
  induction text generalizing values with
  | nil => intro c member; cases member
  | cons first rest ih =>
      rw [List.mapM_cons] at parsed
      rcases Option.bind_eq_some_iff.mp parsed with ⟨value, firstDigit, others⟩
      rcases Option.bind_eq_some_iff.mp others with ⟨values', restDigits, -⟩
      intro c member
      rcases List.mem_cons.mp member with rfl | member
      · rw [firstDigit]; rfl
      · exact ih restDigits c member

theorem digits_isSome {text : JString} {value : ℕ} (parsed : digits text = some value) :
    ∀ c ∈ text, (digit c).isSome = true := by
  unfold digits at parsed
  split at parsed
  · cases parsed
  · rcases Option.map_eq_some_iff.mp parsed with ⟨values, digits, -⟩
    exact mapM_digit_isSome digits

/-- What `parseInt` accepts consists of digits and a sign. -/
theorem parseInt_chars {text : JString} {parsed : ℤ} (accepted : parseInt text = some parsed) :
    ∀ c ∈ text, c = '-' ∨ c = '+' ∨ (digit c).isSome = true := by
  unfold parseInt at accepted
  split at accepted
  all_goals
    rcases Option.bind_eq_some_iff.mp accepted with ⟨value, digits, -⟩
    intro c member
  · rcases List.mem_cons.mp member with same | member
    · exact .inl same
    · exact .inr (.inr (digits_isSome digits c member))
  · rcases List.mem_cons.mp member with same | member
    · exact .inr (.inl same)
    · exact .inr (.inr (digits_isSome digits c member))
  · exact .inr (.inr (digits_isSome digits c member))

theorem parseInt_ne_nil {text : JString} {parsed : ℤ} (accepted : parseInt text = some parsed) :
    text ≠ [] := by
  rintro rfl
  cases accepted

/-- A character that is neither a digit nor a sign does not occur in an integer. -/
theorem not_mem_of_parseInt {text : JString} {parsed : ℤ} {c : Char}
    (accepted : parseInt text = some parsed) (notMinus : c ≠ '-') (notPlus : c ≠ '+')
    (notDigit : digit c = none) : c ∉ text := by
  intro member
  rcases parseInt_chars accepted c member with same | same | isDigit
  · exact notMinus same
  · exact notPlus same
  · rw [notDigit] at isDigit
    cases isDigit

theorem comma_not_mem {text : JString} {parsed : ℤ} (accepted : parseInt text = some parsed) :
    ',' ∉ text :=
  not_mem_of_parseInt accepted (by decide) (by decide) (by decide)

/-! ## Letter case -/

/-- `c` in lower case, for the letters whose lower-case form can be an ASCII
letter. -/
def lowerChar (c : Char) : Char :=
  if 'A' ≤ c ∧ c ≤ 'Z' then Char.ofNat (c.toNat + 32)
  else if c.toNat = 0x212A then 'k'
  else c

/-- `s.toLowerCase()`.  The dotted capital I becomes a letter and a combining
dot. -/
def toLowerCase (text : JString) : JString :=
  text.flatMap fun c =>
    if c.toNat = 0x0130 then ['i', Char.ofNat 0x0307] else [lowerChar c]

/-- The ASCII letter that `equalsIgnoreCase` identifies a character with, if any:
besides the two cases of the letter these are the dotted and dotless I, the long
s and the Kelvin sign. -/
def foldChar (c : Char) : Char :=
  if c.toNat = 0x0130 ∨ c.toNat = 0x0131 then 'i'
  else if c.toNat = 0x017F then 's'
  else lowerChar c

/-- `s.equalsIgnoreCase(t)` where one of the strings is ASCII. -/
def equalsIgnoreCase (left right : JString) : Bool :=
  left.map foldChar == right.map foldChar

end Text

end IiifImage.Java
