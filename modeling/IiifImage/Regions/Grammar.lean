import IiifImage.Business.ParameterParser

/-!
# Region requests

The parser counts the fields of a region after a split that forgets empty ones at the end,
and takes every number that `parseFloat` reads.  What it accepts is compared here with the
strings that write down a region.
-/

namespace IiifImage

open Java

namespace ParameterParser

variable {fp : Rounding} {toFloat : ℚ → JFloat} {text : JString}

/-- The text consists of numerals with the given values and of commas between them. -/
def Writes (toFloat : ℚ → JFloat) (text : JString) (values : List JFloat) : Prop :=
  ∃ fields, text = [','].intercalate fields ∧
    List.Forall₂ (fun field value => Text.parseFloat toFloat field = some value) fields values

/-- Four numerals, with commas between them. -/
theorem writes_iff {x y width height : JFloat} :
    Writes toFloat text [x, y, width, height] ↔
      ∃ first second third fourth, text = [','].intercalate [first, second, third, fourth] ∧
        Text.parseFloat toFloat first = some x ∧ Text.parseFloat toFloat second = some y ∧
        Text.parseFloat toFloat third = some width ∧
        Text.parseFloat toFloat fourth = some height := by
  constructor
  · intro written
    rcases written with ⟨fields, same, read⟩
    cases read with
    | @cons first _ _ _ readX read =>
    cases read with
    | @cons second _ _ _ readY read =>
    cases read with
    | @cons third _ _ _ readWidth read =>
    cases read with
    | @cons fourth _ _ _ readHeight read =>
    cases read
    exact ⟨first, second, third, fourth, same, readX, readY, readWidth, readHeight⟩
  · intro fields
    rcases fields with ⟨first, second, third, fourth, same, readX, readY, readWidth, readHeight⟩
    exact ⟨_, same, .cons readX (.cons readY (.cons readWidth (.cons readHeight .nil)))⟩

section Written

variable {x y width height : JFloat}

theorem Writes.comma_mem (written : Writes toFloat text [x, y, width, height]) :
    ',' ∈ text := by
  rcases writes_iff.mp written with ⟨first, second, third, fourth, rfl, -⟩
  simp

theorem Writes.not_endsWith (written : Writes toFloat text [x, y, width, height]) :
    Text.endsWith text [','] = false := by
  rcases writes_iff.mp written with ⟨first, second, third, fourth, rfl, -, -, -, readHeight⟩
  have last := Text.endsWith_append (Text.ne_nil_of_parseFloat readHeight)
    (Text.comma_not_mem_of_parseFloat readHeight)
    (first ++ [','] ++ (second ++ [','] ++ (third ++ [','])))
  simpa using last

theorem Writes.not_startsWith (written : Writes toFloat text [x, y, width, height]) :
    Text.startsWith text ['p', 'c', 't', ':'] = false := by
  rcases writes_iff.mp written with ⟨first, second, third, fourth, rfl, readX, -⟩
  have head := Text.startsWith_percent_of_parseFloat readX
    ([','] ++ [','].intercalate [second, third, fourth])
  simpa using head

/-- The loop accepts four numerals, and does not see commas behind them. -/
theorem parseFloatValues_eq_ok_iff :
    parseFloatValues toFloat text = .ok (x, y, width, height) ↔
      ∃ body n, text = body ++ List.replicate n ',' ∧
        Writes toFloat body [x, y, width, height] := by
  constructor
  · intro accepted
    rw [parseFloatValues] at accepted
    split at accepted
    next first second third fourth groups =>
      rcases Method.except_bind_eq_ok.mp accepted with ⟨_, readX, accepted⟩
      rcases Method.except_bind_eq_ok.mp accepted with ⟨_, readY, accepted⟩
      rcases Method.except_bind_eq_ok.mp accepted with ⟨_, readWidth, accepted⟩
      rcases Method.except_bind_eq_ok.mp accepted with ⟨_, readHeight, accepted⟩
      cases accepted
      rcases Text.eq_of_split (by simp) groups with ⟨n, rfl⟩
      refine ⟨_, n, rfl, writes_iff.mpr ⟨first, second, third, fourth, rfl, ?_⟩⟩
      exact ⟨parseFloatGroup_eq_ok.mp readX, parseFloatGroup_eq_ok.mp readY,
        parseFloatGroup_eq_ok.mp readWidth, parseFloatGroup_eq_ok.mp readHeight⟩
    next => cases accepted
  · intro composed
    rcases composed with ⟨body, n, rfl, written⟩
    rcases writes_iff.mp written with
      ⟨first, second, third, fourth, rfl, readX, readY, readWidth, readHeight⟩
    exact parseFloatValues_of_fields readX readY readWidth readHeight n

theorem Writes.parsed (written : Writes toFloat text [x, y, width, height]) :
    parseFloatValues toFloat text = .ok (x, y, width, height) :=
  parseFloatValues_eq_ok_iff.mpr ⟨text, 0, by simp, written⟩

end Written

end ParameterParser

/-! ## The strings that write down a region -/

namespace RegionRequest

open ParameterParser

variable {fp : Rounding} {toFloat : ℚ → JFloat} {text : JString}

/-- The strings that write down a region, with what the parser is to make of them. -/
inductive Spells (fp : Rounding) (toFloat : ℚ → JFloat) :
    JString → Option RegionParameters → Prop where
  | full : Spells fp toFloat ['f', 'u', 'l', 'l'] none
  | relative {text : JString} {x y width height : JFloat}
      (written : Writes toFloat text [x, y, width, height])
      (nonneg : ∀ value ∈ [x, y, width, height], value.Nonneg) :
      Spells fp toFloat (['p', 'c', 't', ':'] ++ text) (some {
        absolute := false
        horizontalOffset := fp.div x (fp.ofInt 100)
        verticalOffset := fp.div y (fp.ofInt 100)
        width := fp.div width (fp.ofInt 100)
        height := fp.div height (fp.ofInt 100) })
  | absolute {text : JString} {x y width height : JFloat}
      (written : Writes toFloat text [x, y, width, height])
      (nonneg : ∀ value ∈ [x, y, width, height], value.Nonneg) :
      Spells fp toFloat text (some {
        absolute := true
        horizontalOffset := x
        verticalOffset := y
        width := width
        height := height })

/-- The text without an optional `pct:` at its start. -/
def numbers (text : JString) : JString :=
  if Text.startsWith text ['p', 'c', 't', ':'] then Text.substringFrom text 4 else text

/-- The parser returns what the text writes down, and refuses it where it writes down
nothing. -/
def AcceptsGrammar (fp : Rounding) (toFloat : ℚ → JFloat) (text : JString) : Prop :=
  (∀ region, Spells fp toFloat text region → parseIiifRegion fp toFloat text = .ok region) ∧
    ((∀ region, ¬Spells fp toFloat text region) →
      ∃ message, parseIiifRegion fp toFloat text = .error (.invalidParameters message))

/-- Four accepted fields, with commas behind the last one or with a field that is not a
finite non-negative number. -/
def Slips (toFloat : ℚ → JFloat) (text : JString) : Prop :=
  ∃ body n x y width height, numbers text = body ++ List.replicate n ',' ∧
    Writes toFloat body [x, y, width, height] ∧
    (0 < n ∨ ∃ value ∈ [x, y, width, height], ¬value.Nonneg)

/-- Every region that is written down is accepted. -/
theorem parseIiifRegion_of_spells {region : Option RegionParameters}
    (spells : Spells fp toFloat text region) :
    parseIiifRegion fp toFloat text = .ok region := by
  cases spells with
  | full => rfl
  | relative written => exact parseIiifRegion_percent fp written.parsed
  | absolute written =>
      exact parseIiifRegion_absolute fp (ne_full_of_comma written.comma_mem)
        written.not_startsWith written.parsed

/-- The numbers of a region that is written down are finite and not negative. -/
theorem written_of_spells {region : RegionParameters}
    (spells : Spells fp toFloat text (some region)) :
    ∃ x y width height, Writes toFloat (numbers text) [x, y, width, height] ∧
      ∀ value ∈ [x, y, width, height], value.Nonneg := by
  cases spells with
  | relative written nonneg =>
      refine ⟨_, _, _, _, ?_, nonneg⟩
      rw [numbers, if_pos (by simp [Text.startsWith])]
      exact written
  | absolute written nonneg =>
      refine ⟨_, _, _, _, ?_, nonneg⟩
      rw [numbers, if_neg (Bool.not_eq_true _ ▸ written.not_startsWith)]
      exact written

/-- Four accepted numbers are finite, not negative and the whole text, unless the parser
slips. -/
theorem written_or_slips {x y width height : JFloat}
    (read : parseFloatValues toFloat (numbers text) = .ok (x, y, width, height)) :
    (Writes toFloat (numbers text) [x, y, width, height] ∧
      ∀ value ∈ [x, y, width, height], value.Nonneg) ∨ Slips toFloat text := by
  rcases parseFloatValues_eq_ok_iff.mp read with ⟨body, n, composed, written⟩
  by_cases slip : 0 < n ∨ ∃ value ∈ [x, y, width, height], ¬value.Nonneg
  · exact .inr ⟨body, n, x, y, width, height, composed, written, slip⟩
  · left
    push Not at slip
    rcases slip with ⟨none, nonneg⟩
    rw [Nat.le_zero.mp none, List.replicate_zero, List.append_nil] at composed
    exact ⟨composed ▸ written, nonneg⟩

/-- What the parser accepts is written down, unless it slips. -/
theorem spells_of_parseIiifRegion {region : Option RegionParameters}
    (accepted : parseIiifRegion fp toFloat text = .ok region) :
    Spells fp toFloat text region ∨ Slips toFloat text := by
  rw [parseIiifRegion] at accepted
  split at accepted
  next isFull =>
    cases accepted
    exact .inl (isFull ▸ .full)
  split at accepted
  next percent =>
    rcases Method.except_bind_eq_ok.mp accepted with ⟨⟨x, y, width, height⟩, read, rest⟩
    cases rest
    have same : numbers text = Text.substringFrom text 4 := if_pos percent
    rcases written_or_slips (same.symm ▸ read) with ⟨written, nonneg⟩ | slips
    · rw [same] at written
      rcases List.isPrefixOf_iff_prefix.mp percent with ⟨value, rfl⟩
      exact .inl (.relative written nonneg)
    · exact .inr slips
  next percent =>
    rcases Method.except_bind_eq_ok.mp accepted with ⟨⟨x, y, width, height⟩, read, rest⟩
    cases rest
    have same : numbers text = text := if_neg percent
    rcases written_or_slips (same.symm ▸ read) with ⟨written, nonneg⟩ | slips
    · exact .inl (.absolute (same ▸ written) nonneg)
    · exact .inr slips

/-- A slip is an accepted text. -/
theorem parseIiifRegion_of_slips (fp : Rounding) (slips : Slips toFloat text) :
    ∃ region, parseIiifRegion fp toFloat text = .ok (some region) := by
  rcases slips with ⟨body, n, x, y, width, height, composed, written, -⟩
  have read : parseFloatValues toFloat (numbers text) = .ok (x, y, width, height) :=
    parseFloatValues_eq_ok_iff.mpr ⟨body, n, composed, written⟩
  by_cases percent : Text.startsWith text ['p', 'c', 't', ':'] = true
  · rw [numbers, if_pos percent] at read
    rcases List.isPrefixOf_iff_prefix.mp percent with ⟨value, rfl⟩
    exact ⟨_, parseIiifRegion_percent fp read⟩
  · rw [numbers, if_neg percent] at composed read
    have comma : ',' ∈ text := by
      rw [composed]
      exact List.mem_append_left _ written.comma_mem
    rw [Bool.not_eq_true] at percent
    exact ⟨_, parseIiifRegion_absolute fp (ne_full_of_comma comma) percent read⟩

/-- A slip is not a region that is written down. -/
theorem not_spells_of_slips (slips : Slips toFloat text) (region : Option RegionParameters) :
    ¬Spells fp toFloat text region := by
  intro spells
  rcases parseIiifRegion_of_slips fp slips with ⟨parsed, accepted⟩
  have same := parseIiifRegion_of_spells spells
  rw [accepted] at same
  cases same
  rcases slips with ⟨body, n, x, y, width, height, composed, written, slip⟩
  rcases written_of_spells spells with ⟨x', y', width', height', whole, nonneg⟩
  have read : parseFloatValues toFloat (numbers text) = .ok (x, y, width, height) :=
    parseFloatValues_eq_ok_iff.mpr ⟨body, n, composed, written⟩
  rw [whole.parsed] at read
  cases read
  rcases slip with behind | ⟨value, member, outside⟩
  · -- the last field of a text without a slip is not empty
    rcases Nat.exists_eq_succ_of_ne_zero behind.ne' with ⟨k, rfl⟩
    have ends : Text.endsWith (numbers text) [','] = true := by
      rw [composed, List.replicate_succ', ← List.append_assoc]
      exact List.isSuffixOf_iff_suffix.mpr ⟨_, rfl⟩
    rw [whole.not_endsWith] at ends
    cases ends
  · exact outside (nonneg value member)

theorem not_acceptsGrammar_of_slips (fp : Rounding) (slips : Slips toFloat text) :
    ¬AcceptsGrammar fp toFloat text := by
  intro accepts
  rcases accepts.2 (not_spells_of_slips slips) with ⟨message, refused⟩
  rcases parseIiifRegion_of_slips fp slips with ⟨region, accepted⟩
  rw [accepted] at refused
  cases refused

/-- The parser accepts exactly the grammar on the texts on which it does not slip. -/
theorem acceptsGrammar_iff_not_slips (fp : Rounding) (toFloat : ℚ → JFloat)
    (text : JString) : AcceptsGrammar fp toFloat text ↔ ¬Slips toFloat text := by
  constructor
  · intro accepts slips
    exact not_acceptsGrammar_of_slips fp slips accepts
  · intro regular
    constructor
    · intro region spells
      exact parseIiifRegion_of_spells spells
    · intro unspelled
      cases result : parseIiifRegion fp toFloat text with
      | error exception =>
          have invalid := onlyInvalid_parseIiifRegion fp toFloat text exception result
          rcases Throwable.isInvalidParameters_iff.mp invalid with ⟨message, rfl⟩
          exact ⟨message, rfl⟩
      | ok region =>
          rcases spells_of_parseIiifRegion result with spells | slips
          · exact absurd spells (unspelled region)
          · exact absurd slips regular

/-- Three texts outside the grammar that are accepted: with a fifth, empty field, with a
negative offset, and with an offset that is no number. -/
theorem acceptsGrammar_fails :
    ¬AcceptsGrammar .exact .fin ['0', ',', '0', ',', '1', ',', '1', ','] ∧
      ¬AcceptsGrammar .exact .fin ['-', '1', ',', '0', ',', '1', ',', '1'] ∧
      ¬AcceptsGrammar .exact .fin ['N', 'a', 'N', ',', '0', ',', '1', ',', '1'] := by
  have zero : Text.parseFloat .fin ['0'] = some (.fin 0) := by decide +kernel
  have one : Text.parseFloat .fin ['1'] = some (.fin 1) := by decide +kernel
  have minus : Text.parseFloat .fin ['-', '1'] = some (.fin (-1)) := by decide +kernel
  have noNumber : Text.parseFloat .fin ['N', 'a', 'N'] = some .nan := by decide +kernel
  have negative : ¬(JFloat.fin (-1)).Nonneg := by
    rintro ⟨q, qNonneg, same⟩
    cases same
    norm_num at qNonneg
  have nan : ¬JFloat.nan.Nonneg := by
    rintro ⟨q, -, same⟩
    cases same
  refine ⟨not_acceptsGrammar_of_slips .exact ?_, not_acceptsGrammar_of_slips .exact ?_,
    not_acceptsGrammar_of_slips .exact ?_⟩
  · exact ⟨_, 1, _, _, _, _, rfl, ⟨[['0'], ['0'], ['1'], ['1']], rfl,
      .cons zero (.cons zero (.cons one (.cons one .nil)))⟩, .inl Nat.one_pos⟩
  · exact ⟨_, 0, _, _, _, _, rfl, ⟨[['-', '1'], ['0'], ['1'], ['1']], rfl,
      .cons minus (.cons zero (.cons one (.cons one .nil)))⟩,
      .inr ⟨_, List.mem_cons_self, negative⟩⟩
  · exact ⟨_, 0, _, _, _, _, rfl, ⟨[['N', 'a', 'N'], ['0'], ['1'], ['1']], rfl,
      .cons noNumber (.cons zero (.cons one (.cons one .nil)))⟩,
      .inr ⟨_, List.mem_cons_self, nan⟩⟩

end RegionRequest

end IiifImage
