import IiifImage.Business.ParameterParser

/-!
# Size requests

The parser keeps a size request in five fields of which an absent one is zero, so that
the form of the request has to be guessed from the fields that are not.  Here the forms
are the constructors of a type, and the parser accepts exactly the strings that spell one.
-/

namespace IiifImage

open Java

/-- The forms of a size request, with the integers written in it. -/
inductive SizeRequest where
  | percent (scale : ℤ)
  | width (width : ℤ)
  | height (height : ℤ)
  | bestFit (width height : ℤ)
  | exact (width height : ℤ)
  deriving DecidableEq, Repr

namespace SizeRequest

def integers : SizeRequest → List ℤ
  | percent n => [n]
  | width w => [w]
  | height h => [h]
  | bestFit w h => [w, h]
  | exact w h => [w, h]

/-- The fields that the parser sets. -/
def parameters : SizeRequest → ResizeParameters
  | percent n => { scaleFactor := n }
  | width w => { width := w }
  | height h => { height := h }
  | bestFit w h => { maxWidth := w, maxHeight := h }
  | exact w h => { width := w, height := h }

/-- The strings that write a request down. -/
inductive Spells : JString → SizeRequest → Prop where
  | percent {text : JString} {scale : ℤ} (written : Text.parseInt text = some scale) :
      Spells (['p', 'c', 't', ':'] ++ text) (.percent scale)
  | width {text : JString} {width : ℤ} (written : Text.parseInt text = some width) :
      Spells (text ++ [',']) (.width width)
  | height {text : JString} {height : ℤ} (written : Text.parseInt text = some height) :
      Spells (',' :: text) (.height height)
  | bestFit {left right : JString} {width height : ℤ}
      (leftWritten : Text.parseInt left = some width)
      (rightWritten : Text.parseInt right = some height) :
      Spells ('!' :: (left ++ ',' :: right)) (.bestFit width height)
  | exact {left right : JString} {width height : ℤ}
      (leftWritten : Text.parseInt left = some width)
      (rightWritten : Text.parseInt right = some height) :
      Spells (left ++ ',' :: right) (.exact width height)

end SizeRequest

/-! ## The parser -/

namespace ParameterParser

open SizeRequest

variable {text : JString} {request : SizeRequest} {parameters : ResizeParameters}

theorem parseIntegerValue_eq_ok {value : JString} {n : ℤ} :
    parseIntegerValue value = .ok n ↔ Text.parseInt value = some n := by
  rw [parseIntegerValue]
  cases Text.parseInt value with
  | none => simp
  | some parsed => simp

theorem parseGroup_eq_ok {value : JString} {n : ℤ} :
    parseGroup value = .ok n ↔ Text.parseInt value = some n := by
  rw [parseGroup]
  cases Text.parseInt value with
  | none => simp
  | some parsed => simp

/-- Two integers with a comma between them. -/
theorem parseIntegerPair_of_written {left right : JString} {m n : ℤ}
    (leftWritten : Text.parseInt left = some m) (rightWritten : Text.parseInt right = some n) :
    parseIntegerPair (left ++ ',' :: right) = .ok (m, n) := by
  have whole : left ++ ',' :: right = (left ++ [',']) ++ right := by
    rw [List.append_assoc, List.singleton_append]
  have ends : Text.endsWith (left ++ ',' :: right) [','] = false := by
    rw [whole]
    exact Text.endsWith_append (Text.parseInt_ne_nil rightWritten)
      (Text.comma_not_mem rightWritten) _
  have groups : Text.split (left ++ ',' :: right) ',' = [left, right] := by
    rw [Text.split_of_not_endsWith ends,
      List.splitOn_append_cons_self_of_not_mem (Text.comma_not_mem leftWritten),
      List.splitOn_eq_singleton (Text.comma_not_mem rightWritten)]
  rw [parseIntegerPair, groups]
  dsimp only
  rw [parseGroup_eq_ok.mpr leftWritten, parseGroup_eq_ok.mpr rightWritten]
  rfl

/-- Without a comma at its end, only such a string is a pair of integers. -/
theorem written_of_parseIntegerPair {m n : ℤ} (ends : Text.endsWith text [','] = false)
    (accepted : parseIntegerPair text = .ok (m, n)) :
    ∃ left right, text = left ++ ',' :: right ∧ Text.parseInt left = some m ∧
      Text.parseInt right = some n := by
  rw [parseIntegerPair, Text.split_of_not_endsWith ends] at accepted
  split at accepted
  next left right groups =>
    rcases Method.except_bind_eq_ok.mp accepted with ⟨first, leftWritten, rest⟩
    rcases Method.except_bind_eq_ok.mp rest with ⟨second, rightWritten, pair⟩
    cases pair
    have whole : [','].intercalate (text.splitOn ',') = text := List.intercalate_splitOn ','
    rw [groups] at whole
    refine ⟨left, right, ?_, parseGroup_eq_ok.mp leftWritten, parseGroup_eq_ok.mp rightWritten⟩
    rw [← whole]
    simp
  next => cases accepted

/-- An integer in front does not look like the start of a percentage. -/
theorem not_percent_of_written {n : ℤ} (written : Text.parseInt text = some n)
    (rest : JString) : Text.startsWith (text ++ rest) ['p', 'c', 't', ':'] = false :=
  Text.startsWith_append (Text.parseInt_ne_nil written)
    (Text.not_mem_of_parseInt written (by decide) (by decide) (by decide)) rest _

/-- An integer at the end is not a comma. -/
theorem not_comma_of_written {n : ℤ} (written : Text.parseInt text = some n)
    (rest : JString) : Text.endsWith (rest ++ text) [','] = false :=
  Text.endsWith_append (Text.parseInt_ne_nil written) (Text.comma_not_mem written) rest

/-- Every spelling of a size request is accepted. -/
theorem parseIiifSize_of_spells (spells : Spells text request) :
    parseIiifSize text = .ok (some request.parameters) := by
  cases spells with
  | @percent value n written =>
      have parsed : parseIntegerValue
          (Text.substringFrom (['p', 'c', 't', ':'] ++ value) 4) = .ok n :=
        parseIntegerValue_eq_ok.mpr written
      rw [parseIiifSize, if_neg (by simp), if_pos (by simp [Text.startsWith]), parsed]
      rfl
  | @width value w written =>
      have notPercent := not_percent_of_written written [',']
      have ends : Text.endsWith (value ++ [',']) [','] = true :=
        List.isSuffixOf_iff_suffix.mpr ⟨value, rfl⟩
      rw [parseIiifSize, if_neg (ne_full_of_comma (by simp)),
        if_neg (Bool.not_eq_true _ ▸ notPercent), if_pos ends, Text.substringTo_lastIndexOf,
        parseIntegerValue_eq_ok.mpr written]
      rfl
  | @height value h written =>
      have ends := not_comma_of_written written [',']
      have parsed : parseIntegerValue (Text.substringFrom (',' :: value) 1) = .ok h :=
        parseIntegerValue_eq_ok.mpr written
      rw [List.singleton_append] at ends
      rw [parseIiifSize, if_neg (ne_full_of_comma (by simp)), if_neg (by simp [Text.startsWith]),
        if_neg (Bool.not_eq_true _ ▸ ends), if_pos (by simp [Text.startsWith]), parsed]
      rfl
  | @bestFit left right w h leftWritten rightWritten =>
      have ends := not_comma_of_written rightWritten ('!' :: (left ++ [',']))
      have parsed : parseIntegerPair (Text.substringFrom ('!' :: (left ++ ',' :: right)) 1) =
          .ok (w, h) := parseIntegerPair_of_written leftWritten rightWritten
      rw [List.cons_append, List.append_assoc, List.singleton_append] at ends
      rw [parseIiifSize, if_neg (ne_full_of_comma (by simp)), if_neg (by simp [Text.startsWith]),
        if_neg (Bool.not_eq_true _ ▸ ends), if_neg (by simp [Text.startsWith]),
        if_pos (by simp [Text.startsWith]), parsed]
      rfl
  | @exact left right w h leftWritten rightWritten =>
      have notPercent := not_percent_of_written leftWritten (',' :: right)
      have ends := not_comma_of_written rightWritten (left ++ [','])
      have notHeight := Text.startsWith_append (Text.parseInt_ne_nil leftWritten)
        (Text.comma_not_mem leftWritten) (',' :: right) []
      have notBestFit : Text.startsWith (left ++ ',' :: right) ['!'] = false :=
        Text.startsWith_append (Text.parseInt_ne_nil leftWritten)
          (Text.not_mem_of_parseInt leftWritten (by decide) (by decide) (by decide)) _ _
      rw [List.append_assoc, List.singleton_append] at ends
      rw [parseIiifSize, if_neg (ne_full_of_comma (by simp)),
        if_neg (Bool.not_eq_true _ ▸ notPercent), if_neg (Bool.not_eq_true _ ▸ ends),
        if_neg (Bool.not_eq_true _ ▸ notHeight), if_neg (Bool.not_eq_true _ ▸ notBestFit),
        parseIntegerPair_of_written leftWritten rightWritten]
      rfl

/-- An accepted string other than `full` spells a size request. -/
theorem spells_of_parseIiifSize (accepted : parseIiifSize text = .ok (some parameters)) :
    ∃ request, Spells text request ∧ parameters = request.parameters := by
  rw [parseIiifSize] at accepted
  split at accepted
  · cases accepted
  split at accepted
  next starts =>
    rcases Method.except_bind_eq_ok.mp accepted with ⟨scale, written, rest⟩
    cases rest
    rcases List.isPrefixOf_iff_prefix.mp starts with ⟨value, rfl⟩
    exact ⟨_, .percent (parseIntegerValue_eq_ok.mp written), rfl⟩
  split at accepted
  next ends =>
    rcases Method.except_bind_eq_ok.mp accepted with ⟨width, written, rest⟩
    cases rest
    rcases List.isSuffixOf_iff_suffix.mp ends with ⟨value, rfl⟩
    rw [Text.substringTo_lastIndexOf] at written
    exact ⟨_, .width (parseIntegerValue_eq_ok.mp written), rfl⟩
  next notEnds =>
    rw [Bool.not_eq_true] at notEnds
    split at accepted
    next starts =>
      rcases Method.except_bind_eq_ok.mp accepted with ⟨height, written, rest⟩
      cases rest
      rcases List.isPrefixOf_iff_prefix.mp starts with ⟨value, rfl⟩
      exact ⟨_, .height (parseIntegerValue_eq_ok.mp written), rfl⟩
    split at accepted
    next starts =>
      rcases Method.except_bind_eq_ok.mp accepted with ⟨⟨width, height⟩, written, rest⟩
      cases rest
      rcases List.isPrefixOf_iff_prefix.mp starts with ⟨value, rfl⟩
      have valueEnds : Text.endsWith value [','] = false := by
        rw [Text.endsWith, Bool.eq_false_iff] at notEnds ⊢
        intro ends
        rcases List.isSuffixOf_iff_suffix.mp ends with ⟨front, rfl⟩
        exact notEnds (List.isSuffixOf_iff_suffix.mpr ⟨'!' :: front, rfl⟩)
      rcases written_of_parseIntegerPair valueEnds written with
        ⟨left, right, rfl, leftWritten, rightWritten⟩
      exact ⟨_, .bestFit leftWritten rightWritten, rfl⟩
    next =>
      rcases Method.except_bind_eq_ok.mp accepted with ⟨⟨width, height⟩, written, rest⟩
      cases rest
      rcases written_of_parseIntegerPair notEnds written with
        ⟨left, right, rfl, leftWritten, rightWritten⟩
      exact ⟨_, .exact leftWritten rightWritten, rfl⟩

theorem parseIiifSize_eq_some_iff :
    parseIiifSize text = .ok (some parameters) ↔
      ∃ request, Spells text request ∧ parameters = request.parameters := by
  constructor
  · exact spells_of_parseIiifSize
  · intro spelled
    rcases spelled with ⟨request, spells, rfl⟩
    exact parseIiifSize_of_spells spells

/-- Only `full` asks for no resizing. -/
theorem parseIiifSize_eq_none_iff :
    parseIiifSize text = .ok none ↔ text = ['f', 'u', 'l', 'l'] := by
  constructor
  · intro accepted
    rw [parseIiifSize] at accepted
    split at accepted
    next full => exact full
    -- every other branch returns the parameters that it has set
    all_goals
      repeat' split at accepted
      all_goals
        rcases Method.except_bind_eq_ok.mp accepted with ⟨_, _, rest⟩
        cases rest
  · rintro rfl
    rfl

/-- The strings outside the grammar are refused as invalid parameters. -/
theorem parseIiifSize_refuses_iff :
    (∃ message, parseIiifSize text = .error (.invalidParameters message)) ↔
      text ≠ ['f', 'u', 'l', 'l'] ∧ ∀ request, ¬Spells text request := by
  constructor
  · intro refused
    rcases refused with ⟨message, refused⟩
    constructor
    · intro full
      rw [parseIiifSize_eq_none_iff.mpr full] at refused
      cases refused
    · intro request spells
      rw [parseIiifSize_of_spells spells] at refused
      cases refused
  · intro outside
    cases result : parseIiifSize text with
    | error exception =>
        have invalid := onlyInvalid_parseIiifSize text exception result
        rcases Throwable.isInvalidParameters_iff.mp invalid with ⟨message, rfl⟩
        exact ⟨message, rfl⟩
    | ok accepted =>
        cases accepted with
        | none => exact absurd (parseIiifSize_eq_none_iff.mp result) outside.1
        | some parameters =>
            rcases spells_of_parseIiifSize result with ⟨request, spells, -⟩
            exact absurd spells (outside.2 request)

/-- The parser returns `null` for `full`, sets the fields of the shape that a string has, and
throws nothing but an `InvalidParametersException`, which it does for all other strings. -/
theorem parseIiifSize_accepts_grammar (text : JString) :
    (parseIiifSize text = .ok none ↔ text = ['f', 'u', 'l', 'l']) ∧
      (∀ parameters, parseIiifSize text = .ok (some parameters) ↔
        ∃ request, Spells text request ∧ parameters = request.parameters) ∧
      ((∃ message, parseIiifSize text = .error (.invalidParameters message)) ↔
        text ≠ ['f', 'u', 'l', 'l'] ∧ ∀ request, ¬Spells text request) ∧
      ∀ exception, parseIiifSize text = .error exception →
        ∃ message, exception = .invalidParameters message := by
  refine ⟨parseIiifSize_eq_none_iff, fun parameters => parseIiifSize_eq_some_iff,
    parseIiifSize_refuses_iff, ?_⟩
  intro exception thrown
  exact Throwable.isInvalidParameters_iff.mp (onlyInvalid_parseIiifSize text exception thrown)

end ParameterParser

/-! ## Sizes that are refused -/

namespace ResizeParameters

variable {fp : Rounding} {sizeParameters : ResizeParameters}
variable {currentWidth currentHeight : JFloat}

/-- One of the guards of the constructor holds. -/
def Resolvable (sizeParameters : ResizeParameters) : Prop :=
  ((0 < sizeParameters.width ∨ 0 < sizeParameters.height) ∧ 0 ≤ sizeParameters.width ∧
      0 ≤ sizeParameters.height ∧ sizeParameters.maxHeight = 0 ∧ sizeParameters.maxWidth = 0) ∨
    (sizeParameters.width = 0 ∧ sizeParameters.height = 0 ∧ sizeParameters.maxHeight = 0 ∧
      sizeParameters.maxWidth = 0 ∧ 0 < sizeParameters.scaleFactor) ∨
    (0 < sizeParameters.maxHeight ∧ 0 < sizeParameters.maxWidth)

theorem calculated_of_resolvable (resolvable : sizeParameters.Resolvable) :
    ∃ targets, calculated fp sizeParameters currentWidth currentHeight = .ok targets := by
  rw [calculated]
  dsimp only
  split
  · exact ⟨_, rfl⟩
  split
  · exact ⟨_, rfl⟩
  split
  · exact ⟨_, rfl⟩
  split
  · exact ⟨_, rfl⟩
  split
  · split
    · exact ⟨_, rfl⟩
    split
    · exact ⟨_, rfl⟩
    split
    · exact ⟨_, rfl⟩
    · exact ⟨_, rfl⟩
  next width height both percent box =>
    rcases resolvable with ⟨given, widthNonneg, heightNonneg, noBox⟩ | percentGiven | boxGiven
    · simp only [noBox, and_true] at width height both
      omega
    · exact absurd percentGiven percent
    · exact absurd boxGiven box

theorem calculated_of_not_resolvable (refused : ¬sizeParameters.Resolvable) :
    calculated fp sizeParameters currentWidth currentHeight =
      .error (.invalidParameters (some "Parameter set is invalid.")) := by
  unfold Resolvable at refused
  rw [calculated]
  dsimp only
  rw [if_neg (by omega), if_neg (by omega), if_neg (by omega), if_neg (by omega),
    if_neg (by omega)]

/-- The constructor refuses exactly the parameters that pass none of its guards, whatever
the dimensions are. -/
theorem resolve_refuses_iff :
    (∃ message, resolve fp sizeParameters currentWidth currentHeight =
      .error (.invalidParameters message)) ↔ ¬sizeParameters.Resolvable := by
  rw [resolve]
  constructor
  · intro refused resolvable
    rcases refused with ⟨message, refused⟩
    rcases calculated_of_resolvable resolvable with ⟨targets, computed⟩
    rw [computed] at refused
    cases refused
  · intro refused
    rw [calculated_of_not_resolvable refused]
    exact ⟨_, rfl⟩

end ResizeParameters

namespace SizeRequest

/-- The request has the form `w,h` with one zero, which the parser stores in the same
fields as a request for the other dimension alone. -/
def HalfZero : SizeRequest → Prop
  | exact w h => (w = 0 ∧ 0 < h) ∨ (0 < w ∧ h = 0)
  | _ => False

/-- The parameters of a request pass a guard if its integers are positive or it only looks
like one with a single integer. -/
theorem resolvable_parameters_iff (request : SizeRequest) :
    request.parameters.Resolvable ↔ (∀ n ∈ request.integers, 0 < n) ∨ request.HalfZero := by
  cases request with
  | percent n => simp [ResizeParameters.Resolvable, parameters, integers, HalfZero]
  | width w =>
      simp [ResizeParameters.Resolvable, parameters, integers, HalfZero]
      omega
  | height h =>
      simp [ResizeParameters.Resolvable, parameters, integers, HalfZero]
      omega
  | bestFit w h =>
      simp [ResizeParameters.Resolvable, parameters, integers, HalfZero]
      omega
  | exact w h =>
      simp [ResizeParameters.Resolvable, parameters, integers, HalfZero]
      omega

/-- A written zero or negative integer is what makes the constructor refuse an accepted
size, unless the size has the form `w,h` with one zero. -/
theorem nonpositive_refused_iff {text : JString} {request : SizeRequest}
    {sizeParameters : ResizeParameters} (fp : Rounding)
    (accepted : ParameterParser.parseIiifSize text = .ok (some sizeParameters))
    (spells : Spells text request) (currentWidth currentHeight : JFloat) :
    ((∃ message, ResizeParameters.resolve fp sizeParameters currentWidth currentHeight =
        .error (.invalidParameters message)) ↔ ∃ n ∈ request.integers, n ≤ 0) ↔
      ¬request.HalfZero := by
  have parsed := ParameterParser.parseIiifSize_of_spells spells
  rw [accepted] at parsed
  cases parsed
  rw [ResizeParameters.resolve_refuses_iff, resolvable_parameters_iff]
  have positive_iff : (∀ n ∈ request.integers, 0 < n) ↔ ¬∃ n ∈ request.integers, n ≤ 0 := by
    simp only [not_exists, not_and, not_le]
  have nonpositive : request.HalfZero → ∃ n ∈ request.integers, n ≤ 0 := by
    intro half
    cases request with
    | exact w h =>
        rcases half with ⟨zero, -⟩ | ⟨-, zero⟩
        · exact ⟨w, List.mem_cons_self, zero.le⟩
        · exact ⟨h, List.mem_cons_of_mem _ List.mem_cons_self, zero.le⟩
    | percent => cases half
    | width => cases half
    | height => cases half
    | bestFit => cases half
  rw [positive_iff]
  by_cases half : request.HalfZero
  · have written := nonpositive half
    simp only [half, written, or_true, not_true, iff_true]
  · simp only [half, or_false, not_not, not_false_iff]

/-- The size `pct:0` has no such form, and is refused. -/
theorem nonpositive_refused_percent :
    ((∃ message, ResizeParameters.resolve .exact { scaleFactor := 0 } (.fin 10) (.fin 20) =
        .error (.invalidParameters message)) ↔ ∃ n ∈ (percent 0).integers, n ≤ 0) ↔
      ¬(percent 0).HalfZero := by
  have written : Text.parseInt ['0'] = some 0 := by decide
  exact nonpositive_refused_iff .exact
    (ParameterParser.parseIiifSize_of_spells (.percent written)) (.percent written) _ _

/-- The size `5,0` is accepted as if it were `5,`. -/
theorem halfZero_accepted :
    ParameterParser.parseIiifSize ['5', ',', '0'] = .ok (some { width := 5, height := 0 }) ∧
      Spells ['5', ',', '0'] (exact 5 0) ∧
      ResizeParameters.resolve .exact { width := 5, height := 0 } (.fin 10) (.fin 20) =
        .ok { width := 5, height := 10 } ∧
      ¬((∃ message, ResizeParameters.resolve .exact { width := 5, height := 0 } (.fin 10)
        (.fin 20) = .error (.invalidParameters message)) ↔
          ∃ n ∈ (exact 5 0).integers, n ≤ 0) := by
  have five : Text.parseInt ['5'] = some 5 := by decide
  have zero : Text.parseInt ['0'] = some 0 := by decide
  have spells : Spells ['5', ',', '0'] (exact 5 0) := .exact five zero
  have accepted : ResizeParameters.resolve .exact { width := 5, height := 0 } (.fin 10)
      (.fin 20) = .ok { width := 5, height := 10 } := by
    rw [ResizeParameters.resolve_eq_ok_iff]
    refine ⟨.fin 5, .fin 10, ?_, rfl⟩
    norm_num [ResizeParameters.calculated, Rounding.div_fin]
  refine ⟨ParameterParser.parseIiifSize_of_spells spells, spells, accepted, ?_⟩
  intro refusesZero
  rcases refusesZero.mpr ⟨0, by decide, le_rfl⟩ with ⟨_, refused⟩
  rw [accepted] at refused
  cases refused

end SizeRequest

end IiifImage
