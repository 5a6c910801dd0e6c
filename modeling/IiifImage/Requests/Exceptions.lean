import IiifImage.Frontend.Controller
import IiifImage.Java.Binary
import IiifImage.Requests.Outcomes

/-!
# Exceptions of image requests

The five path variables go through the parser, the repository and the transformation.  The
parser and the reader refuse what they check with exceptions that are reported to the
client.  What they do not check reaches the operations of the image, whose libraries refuse
it with unchecked exceptions.
-/

namespace IiifImage

open Java ImageService

/-! ## The parser -/

/-- Whatever is thrown is a client error. -/
def Checked {α : Type} (result : Except Throwable α) : Prop :=
  ∀ exception, result = .error exception → exception.isClientError = true

namespace Checked

variable {α : Type}

theorem ok (value : α) : Checked (.ok value) :=
  Method.ThrowsOnly.ok value

theorem error {exception : Throwable} (client : exception.isClientError = true) :
    Checked (.error exception : Except Throwable α) :=
  Method.ThrowsOnly.error client

end Checked

namespace ParameterParser

theorem OnlyInvalid.checked {α : Type} {result : Except Throwable α}
    (invalid : OnlyInvalid result) : Checked result :=
  Method.ThrowsOnly.mono invalid fun _ => Throwable.isClientError_of_isInvalidParameters

theorem checked_parseIiifFormat (format : JString) : Checked (parseIiifFormat format) := by
  rw [parseIiifFormat]
  split
  · exact .ok _
  · exact .error rfl

end ParameterParser

section Segments

variable {fp : Rounding} {toFloat : ℚ → JFloat} {segments : ImageSegments}
variable {parameters : ImageParameters}

/-- What the parser refuses is reported to the client. -/
theorem ImageSegments.checked_parse (fp : Rounding) (toFloat : ℚ → JFloat)
    (segments : ImageSegments) : Checked (segments.parse fp toFloat) := by
  open ParameterParser in
  exact Method.ThrowsOnly.bind (onlyInvalid_parseIiifRegion fp toFloat _).checked fun _ =>
    .bind (onlyInvalid_parseIiifSize _).checked fun _ =>
      .bind (onlyInvalid_parseIiifRotation _).checked fun _ =>
        .bind (onlyInvalid_parseIiifQuality _).checked fun _ =>
          .bind (checked_parseIiifFormat _) fun _ => .ok _

/-- The parts of accepted segments that the request relies on. -/
theorem ImageSegments.of_parsed (parsed : segments.parse fp toFloat = .ok parameters) :
    0 ≤ parameters.rotation.degrees ∧
      ParameterParser.parseIiifFormat segments.format = .ok parameters.format := by
  rcases Method.except_bind_eq_ok.mp parsed with ⟨_, -, parsed⟩
  rcases Method.except_bind_eq_ok.mp parsed with ⟨_, -, parsed⟩
  rcases Method.except_bind_eq_ok.mp parsed with ⟨_, rotation, parsed⟩
  rcases Method.except_bind_eq_ok.mp parsed with ⟨_, -, parsed⟩
  rcases Method.except_bind_eq_ok.mp parsed with ⟨_, format, made⟩
  cases made
  exact ⟨(ParameterParser.parseIiifRotation_range rotation).1, format⟩

end Segments

/-! ## The request -/

/-- The accepted parameters of a request can be carried out on a source, or something that
is checked refuses them. -/
def ImageParameters.CanServe (fp : Rounding) (type : ImageType) (width height : ℤ)
    (parameters : ImageParameters) : Prop :=
  match parameters.region.filter RegionParameters.absolute with
  | none =>
      IiifImage.CanServe fp parameters.size parameters.rotation parameters.quality type width
        height parameters.region
  | some region =>
      region.Selects width height →
        IiifImage.CanServe fp parameters.size parameters.rotation parameters.quality type
          (min region.width.ceilToInt (width - region.horizontalOffset.ceilToInt))
          (min region.height.ceilToInt (height - region.verticalOffset.ceilToInt))
          parameters.region

namespace Controller

variable {δ α ι : Type}

/-- The image service with the ImageIO repository, as the controller calls it. -/
def imageIoService (fp : Rounding) (io : ImageIo δ α)
    (getImageData : JString → Except Throwable δ) (isAccessAllowed : Option (JString → Bool))
    (getImageInfo : JString → Except Throwable ι) : ImageServiceMethods (JAIImage α) ι where
  getImageInfo := getImageInfo
  processImage identifier region size rotation bitDepth format :=
    let service : ImageService (JAIImage α) := {
      imageRepositories :=
        [(ImageRepositoryImageIoImpl.repository io getImageData).toImageRepository]
      imageSecurityService := isAccessAllowed }
    match EStateM.run (processImage fp (JAIImage.methods io fp) service identifier size rotation
        bitDepth format) region with
    | .ok image _ => .ok image
    | .error exception _ => .error exception

section Law

variable {fp : Rounding} {toFloat : ℚ → JFloat} {io : ImageIo δ α}
variable {getImageData : JString → Except Throwable δ} {identifier : JString}
variable {isAccessAllowed : Option (JString → Bool)}
variable {getImageInfo : JString → Except Throwable ι} {segments : ImageSegments}
variable {parameters : ImageParameters} {data : δ} {reader : ImageReader α}
variable {source : BufferedImage α}

/-- The security service, if there is one, allows the access. -/
def Allows (isAccessAllowed : Option (JString → Bool)) (identifier : JString) : Prop :=
  ∀ allowed ∈ isAccessAllowed, allowed identifier = true

/-- A request ends well if the parser refuses it, or else the service checks it. -/
theorem endsWell_getImageRepresentation_iff (fp : Rounding) (toFloat : ℚ → JFloat)
    {σ : Type} (imageService : ImageServiceMethods σ ι) (identifier : JString)
    (segments : ImageSegments) :
    EndsWell (EStateM.run (getImageRepresentation fp toFloat imageService identifier segments)
        []) ↔
      ∀ parameters, segments.parse fp toFloat = .ok parameters →
        Checked (imageService.processImage identifier parameters.region parameters.size
          (some parameters.rotation) parameters.quality parameters.format) := by
  rw [getImageRepresentation]
  cases parsed : segments.parse fp toFloat with
  | error exception =>
      rw [Method.run_ofExcept_error_bind]
      exact iff_of_true (ImageSegments.checked_parse fp toFloat segments exception parsed)
        fun parameters accepted => by cases accepted
  | ok parameters =>
      rw [Method.run_ofExcept_ok_bind]
      simp only [Except.ok.injEq, forall_eq']
      rw [callService, Method.run_modify_bind]
      cases imageService.processImage identifier parameters.region parameters.size
          (some parameters.rotation) parameters.quality parameters.format with
      | ok image => exact iff_of_true trivial (.ok image)
      | error exception =>
          exact ⟨fun client => .error client, fun checked => checked exception rfl⟩

/-- An image that the only repository creates is the one that is transformed. -/
theorem getImage_of_created {created : JAIImage α} {region : Option RegionParameters}
    {format : ImageFormat} (bitDepth : Option ImageBitDepth)
    (supports : ImageRepositoryImageIoImpl.supportsOutputFormat io format = true)
    (made : ImageRepositoryImageIoImpl.createImage io getImageData identifier region =
      .ok created) :
    getImage identifier region format bitDepth
      [(ImageRepositoryImageIoImpl.repository io getImageData).toImageRepository] =
        .ok (some created) := by
  simp only [getImage, AbstractImageRepository.toImageRepository,
    ImageRepositoryImageIoImpl.repository, ImageRepository.abstractGetImage, supports, made]
  rfl

/-- An illegal argument that the reader throws is an invalid parameter. -/
theorem getImage_of_illegal {message : Option String} {region : Option RegionParameters}
    {format : ImageFormat} (bitDepth : Option ImageBitDepth)
    (supports : ImageRepositoryImageIoImpl.supportsOutputFormat io format = true)
    (refused : ImageRepositoryImageIoImpl.createImage io getImageData identifier region =
      .error (.illegalArgument message)) :
    getImage identifier region format bitDepth
      [(ImageRepositoryImageIoImpl.repository io getImageData).toImageRepository] =
        .error (.invalidParameters (some "Illegal offsets.")) := by
  simp only [getImage, AbstractImageRepository.toImageRepository,
    ImageRepositoryImageIoImpl.repository, ImageRepository.abstractGetImage, supports, refused]
  rfl

theorem accessAllowed_iff {σ : Type} (repositories : List (ImageRepository σ)) :
    (ImageService.mk repositories isAccessAllowed).accessAllowed identifier = true ↔
      Allows isAccessAllowed identifier := by
  cases isAccessAllowed with
  | none => simp [accessAllowed, Allows]
  | some allowed => simp [accessAllowed, Allows]

theorem checked_processImage_of_denied (denied : ¬Allows isAccessAllowed identifier) :
    Checked ((imageIoService fp io getImageData isAccessAllowed getImageInfo).processImage
      identifier parameters.region parameters.size (some parameters.rotation)
      parameters.quality parameters.format) := by
  rw [← accessAllowed_iff
    [(ImageRepositoryImageIoImpl.repository io getImageData).toImageRepository],
    Bool.not_eq_true] at denied
  simp only [imageIoService, processImage, EStateM.run, denied, Bool.not_false, if_true]
  exact .error rfl

theorem checked_processImage_of_created (fp : Rounding)
    (getImageInfo : JString → Except Throwable ι) {created : JAIImage α}
    (allows : Allows isAccessAllowed identifier)
    (supports : ImageRepositoryImageIoImpl.supportsOutputFormat io parameters.format = true)
    (made : ImageRepositoryImageIoImpl.createImage io getImageData identifier
      parameters.region = .ok created) :
    Checked ((imageIoService fp io getImageData isAccessAllowed getImageInfo).processImage
        identifier parameters.region parameters.size (some parameters.rotation)
        parameters.quality parameters.format) ↔
      EndsWell (EStateM.run (transformImage fp (JAIImage.methods io fp) parameters.size
        (some parameters.rotation) parameters.quality parameters.format)
        ⟨created, parameters.region⟩) := by
  rw [← accessAllowed_iff
    [(ImageRepositoryImageIoImpl.repository io getImageData).toImageRepository]] at allows
  have found := getImage_of_created parameters.quality supports made
  simp only [imageIoService, processImage, EStateM.run, allows, found, Bool.not_true]
  cases transformImage fp (JAIImage.methods io fp) parameters.size (some parameters.rotation)
      parameters.quality parameters.format ⟨created, parameters.region⟩ with
  | ok value objects => exact iff_of_true (.ok _) trivial
  | error exception objects =>
      exact ⟨fun checked => checked exception rfl, fun client => .error client⟩

theorem checked_processImage_of_illegal (fp : Rounding)
    (getImageInfo : JString → Except Throwable ι) {message : Option String}
    (allows : Allows isAccessAllowed identifier)
    (supports : ImageRepositoryImageIoImpl.supportsOutputFormat io parameters.format = true)
    (refused : ImageRepositoryImageIoImpl.createImage io getImageData identifier
      parameters.region = .error (.illegalArgument message)) :
    Checked ((imageIoService fp io getImageData isAccessAllowed getImageInfo).processImage
      identifier parameters.region parameters.size (some parameters.rotation)
      parameters.quality parameters.format) := by
  rw [← accessAllowed_iff
    [(ImageRepositoryImageIoImpl.repository io getImageData).toImageRepository]] at allows
  have rejected := getImage_of_illegal parameters.quality supports refused
  simp only [imageIoService, processImage, EStateM.run, allows, rejected, Bool.not_true]
  exact .error rfl

/-- An allowed request ends well exactly when its parameters can be served. -/
theorem checked_processImage_iff (fp : Rounding)
    (getImageInfo : JString → Except Throwable ι)
    (stored : getImageData identifier = .ok data) (readable : io.readerFor data = some reader)
    (decodes : reader.image = .ok source) (allows : Allows isAccessAllowed identifier)
    (supports : ImageRepositoryImageIoImpl.supportsOutputFormat io parameters.format = true)
    (converts : Converts io parameters.format) (nonneg : 0 ≤ parameters.rotation.degrees) :
    Checked ((imageIoService fp io getImageData isAccessAllowed getImageInfo).processImage
        identifier parameters.region parameters.size (some parameters.rotation)
        parameters.quality parameters.format) ↔
      parameters.CanServe fp source.type source.raster.width source.raster.height := by
  have createImage_eq : ImageRepositoryImageIoImpl.createImage io getImageData identifier
      parameters.region = JAIImage.create io data parameters.region := by
    rw [ImageRepositoryImageIoImpl.createImage, stored, Method.except_ok_bind]
  rw [ImageParameters.CanServe]
  cases requested : parameters.region.filter RegionParameters.absolute with
  | none =>
      have made := createImage_eq.trans (JAIImage.create_of_whole readable decodes requested)
      rw [checked_processImage_of_created fp getImageInfo allows supports made]
      exact JAIImage.endsWell_transformImage_iff fp rfl nonneg converts parameters.region
        parameters.size parameters.quality
  | some region =>
      obtain ⟨same, absolute⟩ := Option.filter_eq_some_iff.mp requested
      dsimp only
      by_cases selects : region.Selects source.raster.width source.raster.height
      · rcases JAIImage.create_of_selects readable decodes absolute selects with
          ⟨part, created, columns, rows, type⟩
        rw [← same] at created
        rw [checked_processImage_of_created fp getImageInfo allows supports
          (createImage_eq.trans created), forall_prop_of_true selects, ← columns, ← rows, ← type]
        exact JAIImage.endsWell_transformImage_iff fp rfl nonneg converts parameters.region
          parameters.size parameters.quality
      · rcases JAIImage.create_of_not_selects readable decodes absolute selects with
          ⟨message, refused⟩
        rw [← same] at refused
        exact iff_of_true (checked_processImage_of_illegal fp getImageInfo allows supports
          (createImage_eq.trans refused)) fun selected => absurd selected selects

end Law

/-! ## An image of ten by ten pixels -/

/-- An installation of ImageIO that stores images as they are. -/
def storingIo : ImageIo (Option (BufferedImage (ℕ × ℕ))) (ℕ × ℕ) where
  readerFor data := data.map fun image =>
    { formatName := ['J', 'P', 'E', 'G'], image := .ok image }
  writerFormatNames := [['j', 'p', 'g'], ['j', 'p', 'e', 'g']]
  encode image _ := .ok (some image)
  noData := none
  recolor _ := id
  scaler := Scaler.nearest

def oneImage (_ : JString) : Except Throwable (Option (BufferedImage (ℕ × ℕ))) :=
  .ok (some JAIImage.smallSource)

def storingService : ImageServiceMethods (JAIImage (ℕ × ℕ)) Unit :=
  imageIoService .exact storingIo oneImage none fun _ => .ok ()

theorem writer_storingIo (format : ImageFormat)
    (parsed : ParameterParser.parseIiifFormat fullRequest.format = .ok format) :
    ImageRepositoryImageIoImpl.supportsOutputFormat storingIo format = true ∧
      Converts storingIo format := by
  have jpeg : ParameterParser.parseIiifFormat fullRequest.format = .ok .jpeg := rfl
  rw [jpeg] at parsed
  cases parsed
  exact ⟨by decide, fun image => ⟨some image, some image, rfl, rfl⟩⟩

/-- The width of `pct:0,0,1e-44,50` underflows when the machine divides it by a hundred. -/
example : ParameterParser.parseIiifRegion .binary32 Rounding.binary32.result
    ['p', 'c', 't', ':', '0', ',', '0', ',', '1', 'e', '-', '4', '4', ',', '5', '0'] =
      .ok (some ⟨false, .fin 0, .fin 0, .fin 0, .fin (1 / 2)⟩) := by decide +kernel

end Controller

end IiifImage
