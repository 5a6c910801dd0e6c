import IiifImage.Java.Method
import IiifImage.Java.Text
import IiifImage.Model.Throwable

/-!
# Decoding percent escapes

`URLDecoder.decode` for UTF-8.  It replaces every `+` by a space and every run of escapes
by the text that its bytes encode, so it leaves a string as it is only if there is neither
in it.
-/

namespace IiifImage.Java

/-! ## UTF-8 -/

namespace Utf8

/-- The character that stands for malformed input. -/
def replacement : Char := Char.ofNat 0xFFFD

/-- The character of a code point, where surrogates are malformed. -/
def scalar (code : ℕ) : Char :=
  if 0xD800 ≤ code ∧ code ≤ 0xDFFF then replacement else Char.ofNat code

/-- An unfinished sequence: the number of its bytes still to come, the bits read so far,
and the range of its next byte. -/
structure Pending where
  missing : ℕ
  code : ℕ
  low : ℕ
  high : ℕ

/-- The characters and the unfinished sequence after the first byte of a sequence. -/
def begins (byte : ℕ) : JString × Option Pending :=
  if byte < 0x80 then ([Char.ofNat byte], none)
  else if 0xC2 ≤ byte ∧ byte ≤ 0xDF then ([], some ⟨1, byte - 0xC0, 0x80, 0xBF⟩)
  else if byte = 0xE0 then ([], some ⟨2, 0, 0xA0, 0xBF⟩)
  else if 0xE1 ≤ byte ∧ byte ≤ 0xEF then ([], some ⟨2, byte - 0xE0, 0x80, 0xBF⟩)
  else if byte = 0xF0 then ([], some ⟨3, 0, 0x90, 0xBF⟩)
  else if 0xF1 ≤ byte ∧ byte ≤ 0xF3 then ([], some ⟨3, byte - 0xF0, 0x80, 0xBF⟩)
  else if byte = 0xF4 then ([], some ⟨3, 4, 0x80, 0x8F⟩)
  else ([replacement], none)

/-- The characters and the unfinished sequence after the next byte. -/
def receive : Option Pending → ℕ → JString × Option Pending
  | none, byte => begins byte
  | some pending, byte =>
      if pending.low ≤ byte ∧ byte ≤ pending.high then
        let code := 64 * pending.code + byte % 64
        if pending.missing = 1 then ([scalar code], none)
        else ([], some ⟨pending.missing - 1, code, 0x80, 0xBF⟩)
      else (replacement :: (begins byte).1, (begins byte).2)

/-- The characters that the rest of the bytes give. -/
def decodeAfter (pending : Option Pending) : List ℕ → JString
  | [] => if pending.isSome then [replacement] else []
  | byte :: rest =>
      (receive pending byte).1 ++ decodeAfter (receive pending byte).2 rest

/-- `new String(bytes, "UTF-8")`. -/
def decode (bytes : List ℕ) : JString := decodeAfter none bytes

example : decode [0xC3, 0xA4, 0xE2, 0x82, 0x41] = [Char.ofNat 0xE4, replacement, 'A'] := by
  decide

/-- What an unfinished sequence can still contribute. -/
def due (pending : Option Pending) : ℕ := if pending.isSome then 1 else 0

theorem length_begins (byte : ℕ) : (begins byte).1.length + due (begins byte).2 = 1 := by
  unfold begins
  split_ifs <;> rfl

/-- A byte contributes at most one character. -/
theorem length_receive (pending : Option Pending) (byte : ℕ) :
    (receive pending byte).1.length + due (receive pending byte).2 ≤ 1 + due pending := by
  cases pending with
  | none => exact (length_begins byte).le
  | some pending =>
      have begun := length_begins byte
      simp only [receive]
      split_ifs
      · simp [due]
      · simp [due]
      · simp only [List.length_cons, due, Option.isSome_some, if_true] at begun ⊢
        omega

theorem length_decodeAfter (pending : Option Pending) (bytes : List ℕ) :
    (decodeAfter pending bytes).length ≤ bytes.length + due pending := by
  induction bytes generalizing pending with
  | nil => cases pending <;> simp [decodeAfter, due]
  | cons byte rest ih =>
      have received := length_receive pending byte
      have others := ih (receive pending byte).2
      simp only [decodeAfter, List.length_append, List.length_cons]
      omega

/-- Bytes encode at most as many characters. -/
theorem length_decode (bytes : List ℕ) : (decode bytes).length ≤ bytes.length :=
  length_decodeAfter none bytes

end Utf8

/-! ## Escapes -/

namespace UrlDecoder

/-- `Character.digit(c, 16)`. -/
def hexDigit (c : Char) : Option ℕ :=
  let code := c.toNat
  match Text.digit c with
  | some value => some value
  | none =>
      if 0x61 ≤ code ∧ code ≤ 0x66 then some (code - 0x57)
      else if 0x41 ≤ code ∧ code ≤ 0x46 then some (code - 0x37)
      else if 0xFF41 ≤ code ∧ code ≤ 0xFF46 then some (code - 0xFF37)
      else if 0xFF21 ≤ code ∧ code ≤ 0xFF26 then some (code - 0xFF17)
      else none

/-- `Integer.parseInt` in base sixteen on two characters, of which the first may be a
sign. -/
def parseHex (first second : Char) : Option ℤ := do
  if first = '-' then
    let value ← hexDigit second
    return -value
  else if first = '+' then
    let value ← hexDigit second
    return value
  else
    let high ← hexDigit first
    let low ← hexDigit second
    return 16 * high + low

/-- The byte of an escape. -/
def readEscape (first second : Char) : Except Throwable ℕ :=
  match parseHex first second with
  | none => .error (.illegalArgument (some
      ("URLDecoder: Illegal hex characters in escape (%) pattern - For input string: \"" ++
        String.ofList [first, second] ++ "\"")))
  | some value =>
      if value < 0 then
        .error (.illegalArgument (some
          "URLDecoder: Illegal hex characters in escape (%) pattern - negative value"))
      else .ok value.toNat

/-- The rest of a text after a run of escapes with the given bytes. -/
def decodeAfter (bytes : List ℕ) : JString → Except Throwable JString
  | [] => .ok (Utf8.decode bytes)
  | '%' :: first :: second :: rest => do
      let byte ← readEscape first second
      decodeAfter (bytes ++ [byte]) rest
  | '%' :: _ => .error (.illegalArgument
      (some "URLDecoder: Incomplete trailing escape (%) pattern"))
  | c :: rest => do
      let decoded ← decodeAfter [] rest
      return Utf8.decode bytes ++ (if c = '+' then ' ' else c) :: decoded

/-- `URLDecoder.decode(text, "UTF-8")`. -/
def decode (text : JString) : Except Throwable JString := decodeAfter [] text

/-- Without escapes only the plus signs are replaced. -/
theorem decodeAfter_of_no_escape {bytes : List ℕ} {text : JString} (plain : '%' ∉ text) :
    decodeAfter bytes text =
      .ok (Utf8.decode bytes ++ text.map fun c => if c = '+' then ' ' else c) := by
  induction text generalizing bytes with
  | nil => simp [decodeAfter]
  | cons c rest ih =>
      have notPercent : c ≠ '%' := by
        rintro rfl
        exact plain List.mem_cons_self
      have restPlain : '%' ∉ rest := fun member => plain (List.mem_cons_of_mem c member)
      rw [decodeAfter, ih restPlain, Method.except_ok_bind]
      · rfl
      all_goals simp [notPercent]

/-- Decoding does not lengthen a text, and an escape makes it shorter. -/
theorem length_decodeAfter {bytes : List ℕ} {text decoded : JString}
    (returned : decodeAfter bytes text = .ok decoded) :
    decoded.length ≤ bytes.length + text.length ∧
      ('%' ∈ text → decoded.length < bytes.length + text.length) := by
  induction bytes, text using decodeAfter.induct generalizing decoded with
  | case1 bytes =>
      cases returned
      simpa using Utf8.length_decode bytes
  | case2 bytes first second rest ih =>
      rw [decodeAfter, Method.except_bind_eq_ok] at returned
      rcases returned with ⟨byte, -, others⟩
      have shorter := (ih byte others).1
      simp only [List.length_append, List.length_cons, List.length_nil] at shorter ⊢
      omega
  | case3 bytes rest incomplete =>
      rw [decodeAfter] at returned
      · cases returned
      · exact incomplete
  | case4 bytes c rest notEscape notPercent ih =>
      rw [decodeAfter, Method.except_bind_eq_ok] at returned
      · rcases returned with ⟨others, restDecoded, made⟩
        cases made
        rcases ih restDecoded with ⟨short, shorter⟩
        have flushed := Utf8.length_decode bytes
        simp only [List.length_append, List.length_cons, List.length_nil, Nat.zero_add]
          at short shorter ⊢
        refine ⟨by omega, ?_⟩
        intro member
        rcases List.mem_cons.mp member with rfl | member
        · exact absurd rfl notPercent
        · have := shorter member
          omega
      · exact notEscape
      · exact notPercent

theorem readEscape_error {first second : Char} {exception : Throwable}
    (thrown : readEscape first second = .error exception) :
    ∃ message, exception = .illegalArgument message := by
  rw [readEscape] at thrown
  split at thrown
  · cases thrown
    exact ⟨_, rfl⟩
  split at thrown
  · cases thrown
    exact ⟨_, rfl⟩
  · cases thrown

/-- A malformed or incomplete escape is an illegal argument. -/
theorem decodeAfter_error {bytes : List ℕ} {text : JString} {exception : Throwable}
    (thrown : decodeAfter bytes text = .error exception) :
    ∃ message, exception = .illegalArgument message := by
  induction bytes, text using decodeAfter.induct with
  | case1 bytes => cases thrown
  | case2 bytes first second rest ih =>
      rw [decodeAfter] at thrown
      cases escape : readEscape first second with
      | ok byte =>
          rw [escape, Method.except_ok_bind] at thrown
          exact ih byte thrown
      | error refused =>
          rw [escape] at thrown
          cases thrown
          exact readEscape_error escape
  | case3 bytes rest incomplete =>
      rw [decodeAfter] at thrown
      · cases thrown
        exact ⟨_, rfl⟩
      · exact incomplete
  | case4 bytes c rest notEscape notPercent ih =>
      rw [decodeAfter] at thrown
      · cases others : decodeAfter [] rest with
        | ok decoded =>
            rw [others] at thrown
            cases thrown
        | error refused =>
            rw [others] at thrown
            cases thrown
            exact ih others
      · exact notEscape
      · exact notPercent

/-- Exactly the texts without plus signs and percent signs are their own decoding. -/
theorem decode_eq_self_iff {text : JString} :
    decode text = .ok text ↔ '+' ∉ text ∧ '%' ∉ text := by
  constructor
  · intro same
    have noPercent : '%' ∉ text := by
      intro member
      have shorter := (length_decodeAfter same).2 member
      simp at shorter
    refine ⟨?_, noPercent⟩
    intro plus
    rw [decode, decodeAfter_of_no_escape noPercent] at same
    have spaces : (text.map fun c => if c = '+' then ' ' else c) = text :=
      Except.ok.inj same
    rw [← spaces] at plus
    rcases List.mem_map.mp plus with ⟨c, -, isPlus⟩
    split at isPlus
    · cases isPlus
    next other => exact other isPlus
  · intro plain
    rcases plain with ⟨noPlus, noPercent⟩
    have unchanged : (text.map fun c => if c = '+' then ' ' else c) = text := by
      refine (List.map_congr_left ?_).trans (List.map_id text)
      intro c member
      have notPlus : c ≠ '+' := by
        rintro rfl
        exact noPlus member
      exact if_neg notPlus
    rw [decode, decodeAfter_of_no_escape noPercent, unchanged]
    rfl

end UrlDecoder

end IiifImage.Java
