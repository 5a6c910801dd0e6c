import IiifImage.Backend.JpegImage
import IiifImage.Backend.Repository

/-!
# The lossless backend

`JpegTranImage` implements the image interface on a `JpegImage`.  It caches the
dimensions of the file when it is created and never updates them.
-/

namespace IiifImage

open Java TurboJpeg

structure JpegTranImage (δ : Type) where
  jpegImage : JpegImage δ
  height : ℤ
  width : ℤ

namespace JpegTranImage

variable {δ : Type}

def onJpeg {α : Type} (method : Method Throwable (JpegImage δ) α) :
    Method Throwable (JpegTranImage δ) α :=
  method.on JpegTranImage.jpegImage
    (fun jpegImage image => { image with jpegImage := jpegImage })

/-- The `catch` clause of `crop` and `rotate`. -/
def illegalToInvalid : Throwable → Throwable
  | .illegalArgument message => .invalidParameters message
  | exception => exception

def scaleFailure : Throwable → Throwable
  | .illegalArgument _ => .transformation (some "Downscaling failed")
  | .tj _ => .transformation (some "Downscaling failed")
  | exception => exception

def describe : Option String → String
  | none => "org.libjpegturbo.turbojpeg.TJException"
  | some message => "org.libjpegturbo.turbojpeg.TJException: " ++ message

def transformFailure : Throwable → Throwable
  | .tj message => .transformation (some (describe message))
  | exception => exception

def crop (fp : Rounding) (region : RegionParameters) :
    Method Throwable (JpegTranImage δ) Unit := do
  let image ← get
  let (x, y, width, height) := region.bounds fp image.width image.height
  if x ≥ image.width ∨ y ≥ image.height then
    throw (.invalidParameters (some ("x and/or y out of bounds (image size is " ++
      toString image.width ++ "x" ++ toString image.height ++ ")")))
  else
    let width := if width > wrap (image.width - x) then wrap (image.width - x) else width
    let height := if height > wrap (image.height - y) then wrap (image.height - y) else height
    (onJpeg (JpegImage.crop x y width height)).rethrow illegalToInvalid

variable (natives : Natives δ)

def scale (target : ResizeParameters) : Method Throwable (JpegTranImage δ) Unit := do
  let image ← get
  if image.width = target.width ∧ image.height = target.height then
    pure ()
  else
    (onJpeg (JpegImage.downScale natives target.width target.height 85)).rethrow scaleFailure

def toDepth (depth : ImageBitDepth) : Method Throwable (JpegTranImage δ) Unit :=
  if depth = .grayscale then onJpeg JpegImage.toGrayscale
  else throw (.unsupportedOperation
    (some "Bit depth transformations other than grayscale are not supported."))

def performTransformation : Method Throwable (JpegTranImage δ) Unit :=
  (onJpeg (JpegImage.transform natives)).rethrow transformFailure

def methods (fp : Rounding) : ImageMethods (JpegTranImage δ) where
  getFormat := Method.reads fun _ => some .jpeg
  getHeight := Method.reads JpegTranImage.height
  getWidth := Method.reads JpegTranImage.width
  crop := crop fp
  scale := scale natives
  rotate degrees := (onJpeg (JpegImage.rotate degrees)).rethrow illegalToInvalid
  flipHorizontally := onJpeg JpegImage.flipHorizontal
  toDepth := toDepth
  convert _ := throw (.unsupportedOperation (some "Format conversions are not supported"))
  performTransformation := performTransformation natives

/-- The constructor `JpegTranImage(imgData)`. -/
def create (imgData : δ) : Except Throwable (JpegTranImage δ) := do
  let image ← JpegImage.create natives imgData
  return { jpegImage := image, height := image.getHeight, width := image.getWidth }

end JpegTranImage

/-! ## The repository -/

structure Dimension where
  width : ℤ
  height : ℤ
  deriving DecidableEq, Repr

namespace ImageRepositoryJpegTranImpl

def supportsOutputFormat (outFormat : ImageFormat) : Bool := outFormat = .jpeg

def supportsCropOperation (fp : Rounding) : Option RegionParameters → Bool
  | none => true
  | some region =>
      (region.width.rem (fp.ofInt 8)).eq (fp.ofInt 0)
        && (region.height.rem (fp.ofInt 8)).eq (fp.ofInt 0)
        && (region.horizontalOffset.rem (fp.ofInt 8)).eq (fp.ofInt 0)
        && (region.verticalOffset.rem (fp.ofInt 8)).eq (fp.ofInt 0)

def supportsScaleOperation (imageDims : Dimension) : Option ResizeParameters → Bool
  | none => true
  | some scaleParams =>
      scaleParams.width < imageDims.height ∧ scaleParams.height < imageDims.width

def supportsBitDepth (bitDepth : Option ImageBitDepth) : Bool :=
  bitDepth = none ∨ bitDepth = some .grayscale ∨ bitDepth = some .color

/-- `createImage`, for the data that an identifier resolves to. -/
def createImage {δ : Type} (natives : Natives δ)
    (getImageData : JString → Except Throwable δ) (identifier : JString) :
    Except Throwable (JpegTranImage δ) := do
  let imageData ← getImageData identifier
  let isJpeg ← natives.startsWithMarker imageData
  if isJpeg then JpegTranImage.create natives imageData
  else throw (.unsupportedFormat (some "Not a JPEG file"))

/-- `ImageRepositoryJpegTranImpl`. -/
def repository {δ : Type} (fp : Rounding) (natives : Natives δ)
    (getImageData : JString → Except Throwable δ) :
    AbstractImageRepository (JpegTranImage δ) where
  supportsCropOperation := supportsCropOperation fp
  supportsOutputFormat := supportsOutputFormat
  supportsBitDepth := supportsBitDepth
  createImage identifier _ := createImage natives getImageData identifier

end ImageRepositoryJpegTranImpl

end IiifImage
