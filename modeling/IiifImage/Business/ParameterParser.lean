import IiifImage.Java.Numeral
import IiifImage.Model.Enums
import IiifImage.Model.Region
import IiifImage.Model.Resize

/-!
# Parsing request parameters

The segments of a request path.  A result of `none` is the source's `null`: no
cropping, no resizing, or the bit depth of the image.
-/

namespace IiifImage

open Java

namespace ParameterParser

def parseIntegerValue (value : JString) : Except Throwable ℤ :=
  match Text.parseInt value with
  | some parsed => .ok parsed
  | none => .error (.invalidParameters (some "Invalid format. Must be an integer!"))

/-- One iteration of the loop of `parseIntegerValues`. -/
def parseGroup (group : JString) : Except Throwable ℤ :=
  match Text.parseInt group with
  | some parsed => .ok parsed
  | none =>
      .error (.invalidParameters (some "Invalid value number. Must be an integer."))

/-- `parseIntegerValues` with `expectedSize` two, its only use. -/
def parseIntegerPair (values : JString) : Except Throwable (ℤ × ℤ) :=
  match Text.split values ',' with
  | [first, second] => do
      let first ← parseGroup first
      let second ← parseGroup second
      return (first, second)
  | _ => .error (.invalidParameters
      (some "Invalid values definition. 2 integer numbers needed!"))

/-- One iteration of the loop of `parseFloatValues`. -/
def parseFloatGroup (toFloat : ℚ → JFloat) (group : JString) : Except Throwable JFloat :=
  match Text.parseFloat toFloat group with
  | some parsed => .ok parsed
  | none =>
      .error (.invalidParameters (some "Invalid value number. Must be integer or float"))

/-- `parseFloatValues` with `expectedSize` four, its only use. -/
def parseFloatValues (toFloat : ℚ → JFloat) (values : JString) :
    Except Throwable (JFloat × JFloat × JFloat × JFloat) :=
  match Text.split values ',' with
  | [first, second, third, fourth] => do
      let first ← parseFloatGroup toFloat first
      let second ← parseFloatGroup toFloat second
      let third ← parseFloatGroup toFloat third
      let fourth ← parseFloatGroup toFloat fourth
      return (first, second, third, fourth)
  | _ => .error (.invalidParameters
      (some "Invalid values definition. 4 float numbers needed!"))

def parseIiifRegion (fp : Rounding) (toFloat : ℚ → JFloat) (region : JString) :
    Except Throwable (Option RegionParameters) :=
  if region = ['f', 'u', 'l', 'l'] then
    .ok none
  else if Text.startsWith region ['p', 'c', 't', ':'] then do
    let (x, y, width, height) ← parseFloatValues toFloat (Text.substringFrom region 4)
    return some {
      absolute := false
      horizontalOffset := fp.div x (fp.ofInt 100)
      verticalOffset := fp.div y (fp.ofInt 100)
      width := fp.div width (fp.ofInt 100)
      height := fp.div height (fp.ofInt 100) }
  else do
    let (x, y, width, height) ← parseFloatValues toFloat region
    return some {
      absolute := true
      horizontalOffset := x
      verticalOffset := y
      width := width
      height := height }

def parseIiifFormat (targetFormat : JString) : Except Throwable ImageFormat :=
  match ImageFormat.getByExtension targetFormat with
  | some format => .ok format
  | none => .error (.unsupportedFormat none)

def parseIiifQuality (targetQuality : JString) :
    Except Throwable (Option ImageBitDepth) :=
  if targetQuality = ['b', 'i', 't', 'o', 'n', 'a', 'l'] then .ok (some .bitonal)
  else if targetQuality = ['c', 'o', 'l', 'o', 'r'] then .ok (some .color)
  else if targetQuality = ['d', 'e', 'f', 'a', 'u', 'l', 't'] then .ok none
  else if targetQuality = ['g', 'r', 'a', 'y'] then .ok (some .grayscale)
  else if targetQuality = ['n', 'a', 't', 'i', 'v', 'e'] then .ok none
  else .error (.invalidParameters none)

def parseIiifRotation (rotation : JString) : Except Throwable RotationParameters := do
  let mirrorHorizontally := Text.startsWith rotation ['!']
  let rotation := if mirrorHorizontally then Text.substringFrom rotation 1 else rotation
  let degrees ← parseIntegerValue rotation
  if degrees < 0 ∨ degrees > 360 then
    throw (.invalidParameters
      (some "The degrees of clockwise rotation must be between 0 and 360!"))
  return { degrees, mirrorHorizontally }

def parseIiifSize (size : JString) : Except Throwable (Option ResizeParameters) :=
  if size = ['f', 'u', 'l', 'l'] then
    .ok none
  else if Text.startsWith size ['p', 'c', 't', ':'] then do
    let scaleFactor ← parseIntegerValue (Text.substringFrom size 4)
    return some { scaleFactor := scaleFactor }
  else if Text.endsWith size [','] then do
    let targetWidth ←
      parseIntegerValue (Text.substringTo size (Text.lastIndexOf size ','))
    return some { width := targetWidth }
  else if Text.startsWith size [','] then do
    let targetHeight ← parseIntegerValue (Text.substringFrom size 1)
    return some { height := targetHeight }
  else if Text.startsWith size ['!'] then do
    let (maxWidth, maxHeight) ← parseIntegerPair (Text.substringFrom size 1)
    return some { maxWidth := maxWidth, maxHeight := maxHeight }
  else do
    let (width, height) ← parseIntegerPair size
    return some { width := width, height := height }

/-! ## Refusals -/

/-- Nothing but an `InvalidParametersException` is thrown. -/
abbrev OnlyInvalid {α : Type} (result : Except Throwable α) : Prop :=
  Method.ThrowsOnly (fun exception => exception.isInvalidParameters = true) result

theorem onlyInvalid_parseIntegerValue (value : JString) :
    OnlyInvalid (parseIntegerValue value) := by
  rw [parseIntegerValue]
  split
  · exact .ok _
  · exact .error rfl

theorem onlyInvalid_parseIntegerPair (values : JString) :
    OnlyInvalid (parseIntegerPair values) := by
  have group : ∀ group, OnlyInvalid (parseGroup group) := by
    intro group
    rw [parseGroup]
    split
    · exact .ok _
    · exact .error rfl
  rw [parseIntegerPair]
  split
  · exact .bind (group _) fun _ => .bind (group _) fun _ => .ok _
  · exact .error rfl

theorem onlyInvalid_parseFloatValues (toFloat : ℚ → JFloat) (values : JString) :
    OnlyInvalid (parseFloatValues toFloat values) := by
  have group : ∀ group, OnlyInvalid (parseFloatGroup toFloat group) := by
    intro group
    rw [parseFloatGroup]
    split
    · exact .ok _
    · exact .error rfl
  rw [parseFloatValues]
  split
  · exact .bind (group _) fun _ => .bind (group _) fun _ => .bind (group _) fun _ =>
      .bind (group _) fun _ => .ok _
  · exact .error rfl

theorem onlyInvalid_parseIiifRegion (fp : Rounding) (toFloat : ℚ → JFloat)
    (region : JString) : OnlyInvalid (parseIiifRegion fp toFloat region) := by
  rw [parseIiifRegion]
  split
  · exact .ok _
  split
  · exact .bind (onlyInvalid_parseFloatValues toFloat _) fun _ => .ok _
  · exact .bind (onlyInvalid_parseFloatValues toFloat _) fun _ => .ok _

theorem onlyInvalid_parseIiifSize (size : JString) : OnlyInvalid (parseIiifSize size) := by
  rw [parseIiifSize]
  split
  · exact .ok _
  split
  · exact .bind (onlyInvalid_parseIntegerValue _) fun _ => .ok _
  split
  · exact .bind (onlyInvalid_parseIntegerValue _) fun _ => .ok _
  split
  · exact .bind (onlyInvalid_parseIntegerValue _) fun _ => .ok _
  split
  · exact .bind (onlyInvalid_parseIntegerPair _) fun _ => .ok _
  · exact .bind (onlyInvalid_parseIntegerPair _) fun _ => .ok _

theorem onlyInvalid_parseIiifRotation (rotation : JString) :
    OnlyInvalid (parseIiifRotation rotation) := by
  rw [parseIiifRotation]
  refine .bind (onlyInvalid_parseIntegerValue _) fun degrees => ?_
  split
  · exact .error rfl
  · exact .ok _

theorem onlyInvalid_parseIiifQuality (quality : JString) :
    OnlyInvalid (parseIiifQuality quality) := by
  unfold parseIiifQuality
  split_ifs
  case neg => exact .error rfl
  all_goals exact .ok _

/-! ## What is accepted -/

theorem parseFloatGroup_eq_ok {toFloat : ℚ → JFloat} {group : JString} {value : JFloat} :
    parseFloatGroup toFloat group = .ok value ↔ Text.parseFloat toFloat group = some value := by
  rw [parseFloatGroup]
  cases Text.parseFloat toFloat group with
  | none => simp
  | some parsed => simp

/-- Four numerals with commas between them are read in order, whether or not more commas
follow. -/
theorem parseFloatValues_of_fields {toFloat : ℚ → JFloat} {first second third fourth : JString}
    {x y width height : JFloat} (readX : Text.parseFloat toFloat first = some x)
    (readY : Text.parseFloat toFloat second = some y)
    (readWidth : Text.parseFloat toFloat third = some width)
    (readHeight : Text.parseFloat toFloat fourth = some height) (n : ℕ) :
    parseFloatValues toFloat
        ([','].intercalate [first, second, third, fourth] ++ List.replicate n ',') =
      .ok (x, y, width, height) := by
  have absent : ∀ part ∈ [first, second, third, fourth], ',' ∉ part := by
    intro part member
    simp only [List.mem_cons, List.not_mem_nil, or_false] at member
    rcases member with rfl | rfl | rfl | rfl
    · exact Text.comma_not_mem_of_parseFloat readX
    · exact Text.comma_not_mem_of_parseFloat readY
    · exact Text.comma_not_mem_of_parseFloat readWidth
    · exact Text.comma_not_mem_of_parseFloat readHeight
  have groups := Text.split_intercalate_append absent (List.cons_ne_nil _ _)
    (Text.ne_nil_of_parseFloat readHeight) n
  rw [parseFloatValues, groups]
  simp only [parseFloatGroup, readX, readY, readWidth, readHeight, Method.except_ok_bind]
  rfl

theorem parseFloatValues_of_read {toFloat : ℚ → JFloat} {first second third fourth : JString}
    {x y width height : JFloat} (readX : Text.parseFloat toFloat first = some x)
    (readY : Text.parseFloat toFloat second = some y)
    (readWidth : Text.parseFloat toFloat third = some width)
    (readHeight : Text.parseFloat toFloat fourth = some height) :
    parseFloatValues toFloat ([','].intercalate [first, second, third, fourth]) =
      .ok (x, y, width, height) := by
  have fields := parseFloatValues_of_fields readX readY readWidth readHeight 0
  rwa [List.replicate_zero, List.append_nil] at fields

theorem ne_full_of_comma {text : JString} (comma : ',' ∈ text) :
    text ≠ ['f', 'u', 'l', 'l'] := by
  rintro rfl
  exact absurd comma (by decide)

/-- A region of four percentages is relative. -/
theorem parseIiifRegion_percent (fp : Rounding) {toFloat : ℚ → JFloat} {values : JString}
    {x y width height : JFloat}
    (read : parseFloatValues toFloat values = .ok (x, y, width, height)) :
    parseIiifRegion fp toFloat (['p', 'c', 't', ':'] ++ values) = .ok (some {
      absolute := false
      horizontalOffset := fp.div x (fp.ofInt 100)
      verticalOffset := fp.div y (fp.ofInt 100)
      width := fp.div width (fp.ofInt 100)
      height := fp.div height (fp.ofInt 100) }) := by
  have rest : parseFloatValues toFloat (Text.substringFrom (['p', 'c', 't', ':'] ++ values) 4) =
      .ok (x, y, width, height) := read
  rw [parseIiifRegion, if_neg (by simp), if_pos (by simp [Text.startsWith]), rest]
  rfl

/-- A region of four numbers without the prefix is absolute. -/
theorem parseIiifRegion_absolute (fp : Rounding) {toFloat : ℚ → JFloat} {text : JString}
    {x y width height : JFloat} (notFull : text ≠ ['f', 'u', 'l', 'l'])
    (notPercent : Text.startsWith text ['p', 'c', 't', ':'] = false)
    (read : parseFloatValues toFloat text = .ok (x, y, width, height)) :
    parseIiifRegion fp toFloat text = .ok (some {
      absolute := true
      horizontalOffset := x
      verticalOffset := y
      width := width
      height := height }) := by
  rw [parseIiifRegion, if_neg notFull, if_neg (Bool.not_eq_true _ ▸ notPercent), read]
  rfl

/-- An accepted rotation turns by at most a full circle. -/
theorem parseIiifRotation_range {text : JString} {rotation : RotationParameters}
    (accepted : parseIiifRotation text = .ok rotation) :
    0 ≤ rotation.degrees ∧ rotation.degrees ≤ 360 := by
  rw [parseIiifRotation] at accepted
  rcases Method.except_bind_eq_ok.mp accepted with ⟨degrees, _, rest⟩
  split at rest
  · cases rest
  next range =>
    cases rest
    constructor <;> dsimp only <;> omega

end ParameterParser

end IiifImage
