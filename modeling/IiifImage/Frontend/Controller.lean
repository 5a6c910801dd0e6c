import IiifImage.Business.ParameterParser
import IiifImage.Java.Calls
import IiifImage.Java.UrlDecoder

/-!
# The controller

The two endpoints for an image, up to their call of the image service.  Their state is
the list of the identifiers that the service has been called with.  The controller
replaces the exceptions of the service by its own ones of the same names, which are not
told apart here.
-/

namespace IiifImage

open Java

/-- `ImageService`, as the controller calls it. -/
structure ImageServiceMethods (σ ι : Type) where
  getImageInfo : JString → Except Throwable ι
  processImage : JString → Option RegionParameters → Option ResizeParameters →
    Option RotationParameters → Option ImageBitDepth → ImageFormat → Except Throwable σ

/-- The path variables of an image request after the identifier. -/
structure ImageSegments where
  region : JString
  size : JString
  rotation : JString
  quality : JString
  format : JString

/-- What the parser makes of the path variables. -/
structure ImageParameters where
  region : Option RegionParameters
  size : Option ResizeParameters
  rotation : RotationParameters
  quality : Option ImageBitDepth
  format : ImageFormat

/-- The calls of the parser, in their order. -/
def ImageSegments.parse (fp : Rounding) (toFloat : ℚ → JFloat) (segments : ImageSegments) :
    Except Throwable ImageParameters := do
  let region ← ParameterParser.parseIiifRegion fp toFloat segments.region
  let size ← ParameterParser.parseIiifSize segments.size
  let rotation ← ParameterParser.parseIiifRotation segments.rotation
  let quality ← ParameterParser.parseIiifQuality segments.quality
  let format ← ParameterParser.parseIiifFormat segments.format
  return { region, size, rotation, quality, format }

namespace Controller

variable {σ ι α : Type}

def callService (identifier : JString) (answer : Except Throwable α) :
    Method Throwable (List JString) α := do
  modify fun passed => passed ++ [identifier]
  Method.ofExcept answer

def getInfo (imageService : ImageServiceMethods σ ι) (identifier : JString) :
    Method Throwable (List JString) ι := do
  let identifier ← Method.ofExcept (UrlDecoder.decode identifier)
  callService identifier (imageService.getImageInfo identifier)

/-- `getImageRepresentation` up to the call of `processImage`. -/
def getImageRepresentation (fp : Rounding) (toFloat : ℚ → JFloat)
    (imageService : ImageServiceMethods σ ι) (identifier : JString)
    (segments : ImageSegments) : Method Throwable (List JString) σ := do
  let parameters ← Method.ofExcept (segments.parse fp toFloat)
  callService identifier (imageService.processImage identifier parameters.region
    parameters.size (some parameters.rotation) parameters.quality parameters.format)

/-- The exceptions that `getInfo` declares and that can occur. -/
def declaredByInfo : Throwable → Bool
  | .resolving _ => true
  | .unsupportedFormat _ => true
  | .unsupportedOperation _ => true
  | _ => false

/-- The exceptions that `getImageRepresentation` declares and that can occur. -/
def declaredByImage : Throwable → Bool
  | .resolving _ => true
  | .unsupportedFormat _ => true
  | .unsupportedOperation _ => true
  | .invalidParameters _ => true
  | .transformation _ => true
  | exception => exception.isIOException

/-- The two requests call the image service with one identifier, or both are rejected with
a declared exception before they call it. -/
def NameSameImage (fp : Rounding) (toFloat : ℚ → JFloat)
    (imageService : ImageServiceMethods σ ι) (identifier : JString)
    (segments : ImageSegments) : Prop :=
  (∃ name, (getInfo imageService identifier).after [] = [name] ∧
    (getImageRepresentation fp toFloat imageService identifier segments).after [] = [name]) ∨
  ∃ exception exception',
    EStateM.run (getInfo imageService identifier) [] = .error exception [] ∧
    declaredByInfo exception = true ∧
    EStateM.run (getImageRepresentation fp toFloat imageService identifier segments) [] =
      .error exception' [] ∧
    declaredByImage exception' = true

/-! ## The identifiers that are passed on -/

theorem after_callService (identifier : JString) (answer : Except Throwable α)
    (passed : List JString) :
    (callService identifier answer).after passed = passed ++ [identifier] := by
  cases answer <;> rfl

theorem after_getInfo_of_decoded (imageService : ImageServiceMethods σ ι)
    {identifier decoded : JString} (returned : UrlDecoder.decode identifier = .ok decoded) :
    (getInfo imageService identifier).after [] = [decoded] := by
  rw [Method.after, getInfo, returned, Method.run_ofExcept_ok_bind]
  exact after_callService decoded _ []

/-- A malformed escape is reported by an exception that is not declared. -/
theorem run_getInfo_of_malformed (imageService : ImageServiceMethods σ ι)
    {identifier : JString} {exception : Throwable}
    (thrown : UrlDecoder.decode identifier = .error exception) :
    EStateM.run (getInfo imageService identifier) [] = .error exception [] := by
  rw [getInfo, thrown, Method.run_ofExcept_error_bind]

section Law

variable {fp : Rounding} {toFloat : ℚ → JFloat} {identifier : JString}
variable {segments : ImageSegments}

theorem after_getImageRepresentation_of_parsed (imageService : ImageServiceMethods σ ι)
    {parameters : ImageParameters} (parsed : segments.parse fp toFloat = .ok parameters) :
    (getImageRepresentation fp toFloat imageService identifier segments).after [] =
      [identifier] := by
  rw [Method.after, getImageRepresentation, parsed, Method.run_ofExcept_ok_bind]
  exact after_callService identifier _ []

theorem after_getImageRepresentation_of_rejected (imageService : ImageServiceMethods σ ι)
    {exception : Throwable} (rejected : segments.parse fp toFloat = .error exception) :
    (getImageRepresentation fp toFloat imageService identifier segments).after [] = [] := by
  rw [Method.after, getImageRepresentation, rejected, Method.run_ofExcept_error_bind]
  rfl

/-- `getInfo` does not reject an identifier with an exception that it declares. -/
theorem not_declared_of_getInfo {imageService : ImageServiceMethods σ ι}
    {exception : Throwable}
    (thrown : EStateM.run (getInfo imageService identifier) [] = .error exception []) :
    declaredByInfo exception = false := by
  cases decoding : UrlDecoder.decode identifier with
  | ok decoded =>
      have passed := after_getInfo_of_decoded imageService decoding
      rw [Method.after_of_error thrown] at passed
      cases passed
  | error refused =>
      rw [run_getInfo_of_malformed imageService decoding] at thrown
      cases thrown
      rcases UrlDecoder.decodeAfter_error decoding with ⟨message, rfl⟩
      rfl

/-- The two requests name the same image exactly when the parser accepts the image request
and there is nothing to decode in the identifier. -/
theorem name_same_image_iff (fp : Rounding) (toFloat : ℚ → JFloat)
    (imageService : ImageServiceMethods σ ι) (identifier : JString)
    (segments : ImageSegments) :
    NameSameImage fp toFloat imageService identifier segments ↔
      (∃ parameters, segments.parse fp toFloat = .ok parameters) ∧
        '+' ∉ identifier ∧ '%' ∉ identifier := by
  rw [← UrlDecoder.decode_eq_self_iff]
  constructor
  · intro same
    rcases same with ⟨name, infoPassed, imagePassed⟩ | ⟨_, _, thrown, declared, -⟩
    · cases parsed : segments.parse fp toFloat with
      | error exception =>
          rw [after_getImageRepresentation_of_rejected imageService parsed] at imagePassed
          cases imagePassed
      | ok parameters =>
          rw [after_getImageRepresentation_of_parsed imageService parsed] at imagePassed
          cases imagePassed
          refine ⟨⟨parameters, rfl⟩, ?_⟩
          cases decoding : UrlDecoder.decode identifier with
          | ok decoded =>
              rw [after_getInfo_of_decoded imageService decoding] at infoPassed
              cases infoPassed
              rfl
          | error exception =>
              have thrown := run_getInfo_of_malformed imageService decoding
              rw [Method.after_of_error thrown] at infoPassed
              cases infoPassed
    · rw [not_declared_of_getInfo thrown] at declared
      cases declared
  · intro plain
    rcases plain with ⟨⟨parameters, parsed⟩, unchanged⟩
    exact .inl ⟨identifier, after_getInfo_of_decoded imageService unchanged,
      after_getImageRepresentation_of_parsed imageService parsed⟩

end Law

/-! ## An identifier with a plus sign -/

/-- A request for the whole image. -/
def fullRequest : ImageSegments where
  region := ['f', 'u', 'l', 'l']
  size := ['f', 'u', 'l', 'l']
  rotation := ['0']
  quality := ['d', 'e', 'f', 'a', 'u', 'l', 't']
  format := ['j', 'p', 'g']

def emptyService : ImageServiceMethods Unit Unit where
  getImageInfo _ := .error .resourceNotFound
  processImage _ _ _ _ _ _ := .error .resourceNotFound

/-- The identifier `a+b` becomes `a b` in the information request only. -/
theorem plus_names_other_image :
    (getInfo emptyService ['a', '+', 'b']).after [] = [['a', ' ', 'b']] ∧
    (getImageRepresentation .exact .fin emptyService ['a', '+', 'b'] fullRequest).after [] =
      [['a', '+', 'b']] ∧
    ¬NameSameImage .exact .fin emptyService ['a', '+', 'b'] fullRequest := by
  have info : (getInfo emptyService ['a', '+', 'b']).after [] = [['a', ' ', 'b']] :=
    after_getInfo_of_decoded emptyService (by rfl)
  have parsed : fullRequest.parse .exact .fin =
      .ok ⟨none, none, ⟨0, false⟩, none, .jpeg⟩ := rfl
  have image : (getImageRepresentation .exact .fin emptyService ['a', '+', 'b']
      fullRequest).after [] = [['a', '+', 'b']] :=
    after_getImageRepresentation_of_parsed emptyService parsed
  refine ⟨info, image, ?_⟩
  intro same
  rcases same with ⟨name, infoPassed, imagePassed⟩ | ⟨_, _, thrown, -⟩
  · rw [info] at infoPassed
    rw [image] at imagePassed
    rw [← infoPassed] at imagePassed
    revert imagePassed
    decide
  · rw [Method.after_of_error thrown] at info
    cases info

end Controller

end IiifImage
