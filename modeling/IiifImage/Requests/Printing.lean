import IiifImage.Frontend.Controller
import IiifImage.Java.Decimal
import IiifImage.Regions.Grammar
import IiifImage.Sizes.Grammar

/-!
# Requests in their written form

A client writes a request as the segments of a path: a region in integers, a size, a rotation,
a quality and a format.  The parser reads what the client meant.
-/

namespace IiifImage

open Java

/-- The regions that integers name. -/
inductive RegionName where
  | full
  | pixels (rect : Rect)
  | percent (rect : Rect)

/-- A request that a client can write. -/
structure ImageRequest where
  region : RegionName
  size : Option SizeRequest
  rotation : RotationParameters
  quality : Option ImageBitDepth
  format : ImageFormat

namespace RegionName

/-- Four numbers with commas between them. -/
def printRect (rect : Rect) : JString :=
  [','].intercalate [Text.decimal rect.x, Text.decimal rect.y, Text.decimal rect.width,
    Text.decimal rect.height]

def print : RegionName → JString
  | full => ['f', 'u', 'l', 'l']
  | pixels rect => printRect rect
  | percent rect => ['p', 'c', 't', ':'] ++ printRect rect

/-- What a region means. -/
def parameters (fp : Rounding) (toFloat : ℚ → JFloat) : RegionName → Option RegionParameters
  | full => none
  | pixels rect => some {
      absolute := true
      horizontalOffset := toFloat rect.x
      verticalOffset := toFloat rect.y
      width := toFloat rect.width
      height := toFloat rect.height }
  | percent rect => some {
      absolute := false
      horizontalOffset := fp.div (toFloat rect.x) (fp.ofInt 100)
      verticalOffset := fp.div (toFloat rect.y) (fp.ofInt 100)
      width := fp.div (toFloat rect.width) (fp.ofInt 100)
      height := fp.div (toFloat rect.height) (fp.ofInt 100) }

theorem writes_printRect (toFloat : ℚ → JFloat) (rect : Rect) :
    ParameterParser.Writes toFloat (printRect rect)
      [toFloat rect.x, toFloat rect.y, toFloat rect.width, toFloat rect.height] :=
  ParameterParser.writes_iff.mpr ⟨_, _, _, _, rfl, Text.parseFloat_decimal toFloat _,
    Text.parseFloat_decimal toFloat _, Text.parseFloat_decimal toFloat _,
    Text.parseFloat_decimal toFloat _⟩

theorem parse_print (fp : Rounding) (toFloat : ℚ → JFloat) (region : RegionName) :
    ParameterParser.parseIiifRegion fp toFloat region.print =
      .ok (region.parameters fp toFloat) := by
  cases region with
  | full => rfl
  | pixels rect =>
      have written := writes_printRect toFloat rect
      exact ParameterParser.parseIiifRegion_absolute fp
        (ParameterParser.ne_full_of_comma written.comma_mem) written.not_startsWith
        written.parsed
  | percent rect =>
      exact ParameterParser.parseIiifRegion_percent fp (writes_printRect toFloat rect).parsed

end RegionName

namespace SizeRequest

def print : SizeRequest → JString
  | percent scaleFactor => ['p', 'c', 't', ':'] ++ Text.signedDecimal scaleFactor
  | width w => Text.signedDecimal w ++ [',']
  | height h => ',' :: Text.signedDecimal h
  | bestFit w h => '!' :: (Text.signedDecimal w ++ ',' :: Text.signedDecimal h)
  | exact w h => Text.signedDecimal w ++ ',' :: Text.signedDecimal h

/-- The integers of the size are values of `int`. -/
def InRange (size : SizeRequest) : Prop :=
  ∀ value ∈ size.integers, minInt ≤ value ∧ value ≤ maxInt

theorem spells_print {size : SizeRequest} (inRange : size.InRange) : Spells size.print size := by
  have read : ∀ value ∈ size.integers, Text.parseInt (Text.signedDecimal value) = some value :=
    fun value member =>
      Text.parseInt_signedDecimal (inRange value member).1 (inRange value member).2
  cases size with
  | percent scale => exact .percent (read scale List.mem_cons_self)
  | width width => exact .width (read width List.mem_cons_self)
  | height height => exact .height (read height List.mem_cons_self)
  | bestFit width height =>
      exact .bestFit (read width List.mem_cons_self)
        (read height (List.mem_cons_of_mem _ List.mem_cons_self))
  | exact width height =>
      exact .exact (read width List.mem_cons_self)
        (read height (List.mem_cons_of_mem _ List.mem_cons_self))

end SizeRequest

namespace ImageRequest

/-- The segment of a size, which can be `full`. -/
def printSize : Option SizeRequest → JString
  | none => ['f', 'u', 'l', 'l']
  | some size => size.print

def printRotation (rotation : RotationParameters) : JString :=
  (if rotation.mirrorHorizontally then ['!'] else []) ++ Text.signedDecimal rotation.degrees

def printQuality : Option ImageBitDepth → JString
  | none => ['d', 'e', 'f', 'a', 'u', 'l', 't']
  | some .color => ['c', 'o', 'l', 'o', 'r']
  | some .grayscale => ['g', 'r', 'a', 'y']
  | some .bitonal => ['b', 'i', 't', 'o', 'n', 'a', 'l']

def printFormat (format : ImageFormat) : JString := format.getExtensions.headD []

def print (request : ImageRequest) : ImageSegments where
  region := request.region.print
  size := printSize request.size
  rotation := printRotation request.rotation
  quality := printQuality request.quality
  format := printFormat request.format

/-- What a request means. -/
def parameters (fp : Rounding) (toFloat : ℚ → JFloat) (request : ImageRequest) :
    ImageParameters where
  region := request.region.parameters fp toFloat
  size := request.size.map SizeRequest.parameters
  rotation := request.rotation
  quality := request.quality
  format := request.format

/-- The numbers of a request are in their ranges. -/
structure Valid (request : ImageRequest) : Prop where
  size : ∀ size ∈ request.size, size.InRange
  degrees : 0 ≤ request.rotation.degrees ∧ request.rotation.degrees ≤ 360

theorem parse_printSize {size : Option SizeRequest} (inRange : ∀ s ∈ size, s.InRange) :
    ParameterParser.parseIiifSize (printSize size) = .ok (size.map SizeRequest.parameters) := by
  cases size with
  | none => rfl
  | some size =>
      exact ParameterParser.parseIiifSize_of_spells (SizeRequest.spells_print (inRange size rfl))

theorem parse_printRotation {rotation : RotationParameters} (nonneg : 0 ≤ rotation.degrees)
    (atMost : rotation.degrees ≤ 360) :
    ParameterParser.parseIiifRotation (printRotation rotation) = .ok rotation := by
  have inRange : ¬(rotation.degrees < 0 ∨ rotation.degrees > 360) := by omega
  have written := Text.parseInt_signedDecimal (minInt_le_of_nonneg nonneg)
    (atMost.trans (by decide))
  rcases rotation with ⟨degrees, mirrorHorizontally⟩
  dsimp only at written inRange
  have read := ParameterParser.parseIntegerValue_eq_ok.mpr written
  cases mirrorHorizontally with
  | true =>
      have marked : Text.startsWith ('!' :: Text.signedDecimal degrees) ['!'] = true := by
        simp [Text.startsWith]
      rw [printRotation, if_pos rfl, List.singleton_append, ParameterParser.parseIiifRotation,
        marked, if_pos rfl, Text.substringFrom, List.drop_one, List.tail_cons, read,
        Method.except_ok_bind, if_neg inRange]
      rfl
  | false =>
      have unmarked : Text.startsWith (Text.signedDecimal degrees) ['!'] = false := by
        have absent : '!' ∉ Text.signedDecimal degrees :=
          Text.not_mem_of_parseInt written (by decide) (by decide) (by decide)
        have first := Text.startsWith_append (Text.parseInt_ne_nil written) absent [] []
        rwa [List.append_nil] at first
      rw [printRotation, if_neg Bool.false_ne_true, List.nil_append,
        ParameterParser.parseIiifRotation, unmarked, if_neg Bool.false_ne_true, read,
        Method.except_ok_bind, if_neg inRange]
      rfl

theorem parse_printQuality (quality : Option ImageBitDepth) :
    ParameterParser.parseIiifQuality (printQuality quality) = .ok quality := by
  rcases quality with _ | quality
  · rfl
  · cases quality <;> rfl

theorem parse_printFormat (format : ImageFormat) :
    ParameterParser.parseIiifFormat (printFormat format) = .ok format := by
  cases format <;> decide

/-- The parser reads what the client meant. -/
theorem parse_print (fp : Rounding) (toFloat : ℚ → JFloat) {request : ImageRequest}
    (valid : request.Valid) :
    request.print.parse fp toFloat = .ok (request.parameters fp toFloat) := by
  rw [ImageSegments.parse, print]
  simp only [RegionName.parse_print, parse_printSize valid.size,
    parse_printRotation valid.degrees.1 valid.degrees.2, parse_printQuality, parse_printFormat,
    Method.except_ok_bind]
  rfl

end ImageRequest

namespace Controller

variable {σ ι : Type}

/-- What `getImageRepresentation` returns or throws, with the identifiers passed so far. -/
def ended {α : Type} (passed : List JString) :
    Except Throwable α → EStateM.Result Throwable (List JString) α
  | .ok answer => .ok answer passed
  | .error exception => .error exception passed

/-- A request in its written form reaches the image service with exactly the parameters that the
client meant by it. -/
theorem run_getImageRepresentation_print (fp : Rounding) (toFloat : ℚ → JFloat)
    (imageService : ImageServiceMethods σ ι) (identifier : JString) (passed : List JString)
    {request : ImageRequest} (valid : request.Valid) :
    EStateM.run (getImageRepresentation fp toFloat imageService identifier request.print) passed =
      ended (passed ++ [identifier]) (imageService.processImage identifier
        (request.region.parameters fp toFloat) (request.size.map SizeRequest.parameters)
        (some request.rotation) request.quality request.format) := by
  rw [getImageRepresentation, ImageRequest.parse_print fp toFloat valid,
    Method.run_ofExcept_ok_bind]
  cases answered : imageService.processImage identifier (request.region.parameters fp toFloat)
    (request.size.map SizeRequest.parameters) (some request.rotation) request.quality
    request.format with
  | ok image =>
      rw [ImageRequest.parameters, answered]
      rfl
  | error exception =>
      rw [ImageRequest.parameters, answered]
      rfl

/-- An image service that returns what it is called with. -/
def echoService : ImageServiceMethods (JString × ImageParameters) Unit where
  getImageInfo _ := .ok ()
  processImage identifier region size rotation quality format :=
    match rotation with
    | some rotation => .ok (identifier, { region, size, rotation, quality, format })
    | none => .error .resourceNotFound

/-- The right half of an image of 200 by 100 pixels, mirrored and turned. -/
def mirroredHalf : ImageRequest where
  region := .pixels ⟨100, 0, 100, 100⟩
  size := some (.bestFit 64 48)
  rotation := ⟨90, true⟩
  quality := some .grayscale
  format := .png

theorem run_getImageRepresentation_print_half :
    EStateM.run (getImageRepresentation .exact .fin echoService ['f'] mirroredHalf.print) [] =
      .ok (['f'], {
        region := some ⟨true, .fin 100, .fin 0, .fin 100, .fin 100⟩
        size := some { maxWidth := 64, maxHeight := 48 }
        rotation := ⟨90, true⟩
        quality := some .grayscale
        format := .png }) [['f']] := by
  have valid : mirroredHalf.Valid := by
    refine ⟨?_, by decide, by decide⟩
    intro size chosen
    cases chosen
    show ∀ value ∈ [(64 : ℤ), 48], minInt ≤ value ∧ value ≤ maxInt
    decide
  exact run_getImageRepresentation_print .exact .fin echoService ['f'] [] valid

end Controller

end IiifImage
