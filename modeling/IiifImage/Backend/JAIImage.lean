import IiifImage.Backend.Repository
import IiifImage.Raster.Orientation

/-!
# The ImageIO backend

`JAIImage` implements the image interface on a `BufferedImage` that every operation
replaces.  ImageIO, Java2D and Scalr are parameters (`ImageIo`) where their result
depends on formats and colours, and are written out where it depends on geometry.
-/

namespace IiifImage

open Java

/-- The `BufferedImage.TYPE_*` constants that the backend distinguishes. -/
inductive ImageType where
  | custom
  | intRgb
  | intArgb
  | threeByteBgr
  | byteGray
  | byteBinary
  | other (code : ℕ)
  deriving DecidableEq, Repr

/-- A `BufferedImage`, which always has a pixel. -/
structure BufferedImage (α : Type) where
  raster : Raster α
  type : ImageType
  translucent : Bool
  width_pos : 0 < raster.width
  height_pos : 0 < raster.height

/-- An `ImageReader` with data to read. -/
structure ImageReader (α : Type) where
  formatName : JString
  image : Except Throwable (BufferedImage α)

/-- What ImageIO, Java2D and Scalr do with formats, colours and samples. -/
structure ImageIo (δ α : Type) where
  readerFor : δ → Option (ImageReader α)
  writerFormatNames : List JString
  encode : BufferedImage α → JString → Except Throwable δ
  noData : δ
  recolor : ImageType → α → α
  scaler : Scaler α

namespace BufferedImage

variable {α : Type}

/-- The image of given dimensions in which every pixel shows its own coordinates. -/
def labelled (width height : ℕ) (wide : 0 < width) (tall : 0 < height) :
    BufferedImage (ℕ × ℕ) where
  raster := Raster.labelled width height
  type := .threeByteBgr
  translucent := false
  width_pos := wide
  height_pos := tall

/-- The part of the image in a rectangle, if it has a pixel. -/
def cropTo (image : BufferedImage α) (rect : Rect) : Option (BufferedImage α) :=
  if nonempty : 0 < (image.raster.crop rect).width ∧ 0 < (image.raster.crop rect).height then
    some { image with
      raster := image.raster.crop rect
      width_pos := nonempty.1
      height_pos := nonempty.2 }
  else none

def getSubimage (image : BufferedImage α) (x y width height : ℤ) :
    Except Throwable (BufferedImage α) :=
  if x < 0 ∨ y < 0 ∨ x + width > image.raster.width ∨ y + height > image.raster.height then
    .error (.rasterFormat none)
  else
    match image.cropTo ⟨x.toNat, y.toNat, width.toNat, height.toNat⟩ with
    | some part => .ok part
    | none => .error (.rasterFormat none)

/-- The length of the data array of an image, before it is computed in `int`. -/
def dataLength (type : ImageType) (width height : ℤ) : ℤ :=
  match type with
  | .threeByteBgr => 3 * (width * height)
  | .byteBinary => (width + 7) / 8 * height
  | .other code => if code = 6 ∨ code = 7 then 4 * (width * height) else width * height
  | _ => width * height

/-- `new BufferedImage`.  The length of the data array can overflow before the dimensions
are checked. -/
def allocate (type : ImageType) (width height : ℤ) : Except Throwable Unit :=
  if type = .custom then .error (.illegalArgument (some "Unknown image type 0"))
  else if wrap (dataLength type width height) < 0 then .error (.negativeArraySize none)
  else if width * height ≥ maxInt then .error (.illegalArgument none)
  else if dataLength type width height > maxInt then .error (.rasterFormat none)
  else .ok ()

/-- A new image of a type with the pixels of another one drawn into it. -/
def drawn (recolor : ImageType → α → α) (type : ImageType) (image : BufferedImage α) :
    Except Throwable (BufferedImage α) := do
  allocate type image.raster.width image.raster.height
  return { image with
    raster := image.raster.map (recolor type)
    type := type
    translucent := image.translucent && type = image.type }

/-- `Scalr.createOptimalImage`. -/
def optimalType (image : BufferedImage α) : ImageType :=
  if image.translucent then .intArgb else .intRgb

/-- The image in another orientation. -/
def reorient (orientation : Orientation) (image : BufferedImage α) : BufferedImage α :=
  { image with
    raster := orientation • image.raster
    width_pos := by
      rw [Raster.width_smul]
      split_ifs
      exacts [image.height_pos, image.width_pos]
    height_pos := by
      rw [Raster.height_smul]
      split_ifs
      exacts [image.width_pos, image.height_pos] }

/-- `Scalr.rotate`.  The new image has as many pixels as the old one. -/
def scalrRotate (orientation : Orientation) (image : BufferedImage α) : BufferedImage α :=
  { image.reorient orientation with type := image.optimalType }

/-- `Scalr.resize` in the mode `FIT_EXACT`. -/
def scalrResize (scaler : Scaler α) (image : BufferedImage α) (width height : ℤ) :
    Except Throwable (BufferedImage α) :=
  if positive : 0 < width ∧ 0 < height then do
    allocate image.optimalType width height
    return {
      raster := scaler.downScale image.raster image.width_pos image.height_pos width.toNat
        height.toNat
      type := image.optimalType
      translucent := image.translucent
      width_pos := by
        rw [scaler.width_downScale]
        omega
      height_pos := by
        rw [scaler.height_downScale]
        omega }
  else .error (.illegalArgument none)

end BufferedImage

namespace ImageReader

variable {α : Type}

def setSourceRegion (x y width height : ℤ) : Except Throwable Unit :=
  if x < 0 then .error (.illegalArgument (some "sourceRegion.x < 0!"))
  else if y < 0 then .error (.illegalArgument (some "sourceRegion.y < 0!"))
  else if width ≤ 0 then .error (.illegalArgument (some "sourceRegion.width <= 0!"))
  else if height ≤ 0 then .error (.illegalArgument (some "sourceRegion.height <= 0!"))
  else .ok ()

/-- `read` with a source region: the region is clipped to the image. -/
def readRegion (reader : ImageReader α) (x y width height : ℤ) :
    Except Throwable (BufferedImage α) := do
  let image ← reader.image
  match image.cropTo ⟨x.toNat, y.toNat, width.toNat, height.toNat⟩ with
  | some part => return part
  | none => throw (.illegalArgument (some "Empty region!"))

end ImageReader

/-- `JAIImage`.  The image is `none` where the field is `null`. -/
structure JAIImage (α : Type) where
  image : Option (BufferedImage α)
  formatString : JString

namespace JAIImage

variable {δ α : Type}

/-- `getFormatFromString`, with `none` for its exception. -/
def getFormatFromString (formatName : JString) : Option ImageFormat :=
  ImageFormat.getByExtension (Text.toLowerCase formatName)

/-- The buffered image, on which the caller calls a method. -/
def buffered : Method Throwable (JAIImage α) (BufferedImage α) := do
  match (← get).image with
  | some image => return image
  | none => throw .nullPointer

/-- The buffered image as the argument of `ImageIO.write`, which checks it. -/
def writeArgument : Method Throwable (JAIImage α) (BufferedImage α) := do
  match (← get).image with
  | some image => return image
  | none => throw (.illegalArgument (some "im == null!"))

def assign (image : BufferedImage α) : Method Throwable (JAIImage α) Unit :=
  modify fun self => { self with image := some image }

def flipHorizontally (io : ImageIo δ α) : Method Throwable (JAIImage α) Unit := do
  let image ← buffered
  let flipped ← Method.ofExcept
    ((image.reorient .mirrorColumns).drawn io.recolor image.type)
  assign flipped

/-- The extent of a crop on one axis, reduced to what the image has from the offset
on. -/
def clampExtent (size offset extent : ℤ) : ℤ :=
  if wrap (offset + extent) > size then wrap (size - offset) else extent

/-- The end of `crop`, where the buffered image is replaced unless the target has its
dimensions. -/
def cropTarget (image : BufferedImage α) (x y targetWidth targetHeight : ℤ) :
    Method Throwable (JAIImage α) Unit :=
  if targetHeight ≠ image.raster.height ∨ targetWidth ≠ image.raster.width then do
    let dest ← Method.ofExcept (image.getSubimage x y targetWidth targetHeight)
    assign dest
  else pure ()

def crop (fp : Rounding) (region : RegionParameters) :
    Method Throwable (JAIImage α) Unit := do
  let image ← buffered
  let (x, y, targetWidth, targetHeight) :=
    region.bounds fp image.raster.width image.raster.height
  if x ≥ image.raster.width ∨ y ≥ image.raster.height then
    throw (.invalidParameters (some "x and/or y are out of bounds."))
  else
    cropTarget image x y (clampExtent image.raster.width x targetWidth)
      (clampExtent image.raster.height y targetHeight)

def scale (io : ImageIo δ α) (target : ResizeParameters) :
    Method Throwable (JAIImage α) Unit := do
  let image ← buffered
  if (image.raster.width : ℤ) = target.width ∧ (image.raster.height : ℤ) = target.height then
    pure ()
  else do
    let resized ← Method.ofExcept (image.scalrResize io.scaler target.width target.height)
    assign resized

def rotate (arcDegree : ℤ) : Method Throwable (JAIImage α) Unit := do
  if arcDegree.tmod 90 > 0 then
    throw (.unsupportedOperation (some "Can only rotate by multiples of 90 degrees."))
  else if arcDegree = -90 ∨ arcDegree = 270 then do
    let image ← buffered
    assign (image.scalrRotate (Orientation.quarterTurn ^ 3))
  else if arcDegree = 90 then do
    let image ← buffered
    assign (image.scalrRotate Orientation.quarterTurn)
  else if arcDegree = 180 then do
    let image ← buffered
    assign (image.scalrRotate (Orientation.quarterTurn ^ 2))
  else pure ()

/-- The type that `toDepth` draws into. -/
def depthType : ImageBitDepth → ImageType
  | .grayscale => .byteGray
  | .bitonal => .byteBinary
  | .color => .threeByteBgr

def toDepth (io : ImageIo δ α) (depth : ImageBitDepth) :
    Method Throwable (JAIImage α) Unit := do
  let image ← buffered
  let newImage ← Method.ofExcept (image.drawn io.recolor (depthType depth))
  assign newImage

def getFormat : Method Throwable (JAIImage α) (Option ImageFormat) :=
  Method.reads fun self => getFormatFromString self.formatString

/-- `ImageIO.write` finds a writer for the name. -/
def findsWriter (io : ImageIo δ α) (formatName : JString) : Bool :=
  io.writerFormatNames.any (Text.equalsIgnoreCase formatName)

/-- `ImageIO.write` to a byte array, which stays empty if there is no writer. -/
def write (io : ImageIo δ α) (image : BufferedImage α) (formatName : JString) :
    Except Throwable δ :=
  if findsWriter io formatName then io.encode image formatName else .ok io.noData

/-- `ImageIO.read`, which returns `null` if there is no reader. -/
def read (io : ImageIo δ α) (data : δ) : Except Throwable (Option (BufferedImage α)) :=
  match io.readerFor data with
  | none => .ok none
  | some reader => do
      let image ← reader.image
      return some image

def convertFailure (exception : Throwable) : Throwable :=
  if exception.isIOException then .transformation (some "Could not convert image")
  else exception

def convert (io : ImageIo δ α) (targetFormat : ImageFormat) :
    Method Throwable (JAIImage α) Unit := do
  let sourceFormat ← getFormat
  if sourceFormat ≠ some targetFormat then
    Method.rethrow convertFailure do
      let image ← writeArgument
      let data ← Method.ofExcept (write io image (Text.toLowerCase targetFormat.name))
      let converted ← Method.ofExcept (read io data)
      modify fun self =>
        { self with image := converted, formatString := targetFormat.name }
  else pure ()

def toByteArray (io : ImageIo δ α) : Method Throwable (JAIImage α) δ := do
  let image ← writeArgument
  Method.ofExcept (write io image (← get).formatString)

def methods (io : ImageIo δ α) (fp : Rounding) : ImageMethods (JAIImage α) where
  getFormat := getFormat
  getHeight := do return (← buffered).raster.height
  getWidth := do return (← buffered).raster.width
  crop := crop fp
  scale := scale io
  rotate := rotate
  flipHorizontally := flipHorizontally io
  toDepth := toDepth io
  convert := convert io
  performTransformation := pure ()

theorem run_getWidth {io : ImageIo δ α} {fp : Rounding} {self : JAIImage α}
    {image : BufferedImage α} (present : self.image = some image) :
    EStateM.run (methods io fp).getWidth self = .ok (image.raster.width : ℤ) self := by
  simp only [methods, buffered, present, bind_assoc, Method.run_get_bind, pure_bind]
  rfl

theorem run_getHeight {io : ImageIo δ α} {fp : Rounding} {self : JAIImage α}
    {image : BufferedImage α} (present : self.image = some image) :
    EStateM.run (methods io fp).getHeight self = .ok (image.raster.height : ℤ) self := by
  simp only [methods, buffered, present, bind_assoc, Method.run_get_bind, pure_bind]
  rfl

/-- The constructor `JAIImage(inData, region)`. -/
def create (io : ImageIo δ α) (inData : δ) (region : Option RegionParameters) :
    Except Throwable (JAIImage α) :=
  match io.readerFor inData with
  | none => .error (.unsupportedFormat (some "Could not read image, unsupported format?"))
  | some reader =>
      match region.filter RegionParameters.absolute with
      | none => do
          let image ← reader.image
          return { image := some image, formatString := reader.formatName }
      | some region => do
          let x := region.horizontalOffset.ceilToInt
          let y := region.verticalOffset.ceilToInt
          let width := region.width.ceilToInt
          let height := region.height.ceilToInt
          ImageReader.setSourceRegion x y width height
          let image ← reader.readRegion x y width height
          return { image := some image, formatString := reader.formatName }

end JAIImage

/-! ## Cropping -/

namespace BufferedImage

variable {α : Type} {image : BufferedImage α} {x y width height : ℤ}

theorem cropTo_of_nonempty {rect : Rect} (nonempty : 0 < (image.raster.crop rect).width ∧
    0 < (image.raster.crop rect).height) :
    ∃ part, image.cropTo rect = some part ∧ part.raster = image.raster.crop rect ∧
      part.type = image.type :=
  ⟨_, dif_pos nonempty, rfl, rfl⟩

/-- A rectangle inside the image that is not empty is taken out of it. -/
theorem getSubimage_of_inside (left : 0 ≤ x) (top : 0 ≤ y) (wide : 1 ≤ width)
    (tall : 1 ≤ height) (right : x + width ≤ image.raster.width)
    (bottom : y + height ≤ image.raster.height) :
    ∃ part, image.getSubimage x y width height = .ok part ∧
      part.raster = image.raster.crop ⟨x.toNat, y.toNat, width.toNat, height.toNat⟩ ∧
      part.type = image.type := by
  have nonempty : 0 < (image.raster.crop ⟨x.toNat, y.toNat, width.toNat, height.toNat⟩).width ∧
      0 < (image.raster.crop ⟨x.toNat, y.toNat, width.toNat, height.toNat⟩).height := by
    rw [Raster.width_crop, Raster.height_crop]
    dsimp only
    omega
  rcases cropTo_of_nonempty nonempty with ⟨part, selected, kept⟩
  rw [getSubimage, if_neg (by omega), selected]
  exact ⟨part, rfl, kept⟩

/-- Any other rectangle is refused. -/
theorem getSubimage_of_misses
    (misses : ¬((0 ≤ x ∧ 0 ≤ y) ∧ (1 ≤ width ∧ 1 ≤ height) ∧
      x + width ≤ image.raster.width ∧ y + height ≤ image.raster.height)) :
    image.getSubimage x y width height = .error (.rasterFormat none) := by
  rw [getSubimage]
  split
  · rfl
  next inside =>
    have empty : ¬(0 < (image.raster.crop ⟨x.toNat, y.toNat, width.toNat, height.toNat⟩).width ∧
        0 < (image.raster.crop ⟨x.toNat, y.toNat, width.toNat, height.toNat⟩).height) := by
      rw [Raster.width_crop, Raster.height_crop]
      dsimp only
      omega
    rw [cropTo, dif_neg empty]

end BufferedImage

namespace JAIImage

section Cropping

variable {α : Type} {fp : Rounding} {region : RegionParameters} {self : JAIImage α}
variable {image : BufferedImage α} {rect : Rect}

theorem run_buffered_bind {β : Type} (present : self.image = some image)
    (next : BufferedImage α → Method Throwable (JAIImage α) β) :
    EStateM.run (buffered >>= next) self = EStateM.run (next image) self := by
  simp only [buffered, present, bind_assoc, Method.run_get_bind, pure_bind]

theorem run_writeArgument_bind {β : Type} (present : self.image = some image)
    (next : BufferedImage α → Method Throwable (JAIImage α) β) :
    EStateM.run (writeArgument >>= next) self = EStateM.run (next image) self := by
  simp only [writeArgument, present, bind_assoc, Method.run_get_bind, pure_bind]

theorem clampExtent_of_inside {size offset extent : ℕ} (inside : offset < size)
    (small : (size : ℤ) ≤ maxInt) (sum : (offset + extent : ℤ) ≤ maxInt) :
    clampExtent size offset extent = (min extent (size - offset) : ℕ) := by
  have sumWraps : wrap (offset + extent : ℤ) = offset + extent :=
    wrap_of_range (minInt_le_of_nonneg (by omega)) sum
  have roomWraps : wrap (size - offset : ℤ) = size - offset := by
    apply wrap_sub_of_nonneg <;> omega
  rw [clampExtent, sumWraps, roomWraps]
  split <;> omega

/-- The end of `crop` on a target inside the image. -/
theorem run_cropTarget (present : self.image = some image) (wide : 0 < rect.width)
    (tall : 0 < rect.height) (inside : rect.Inside image.raster.width image.raster.height) :
    ∃ part, EStateM.run (cropTarget image rect.x rect.y rect.width rect.height) self =
        .ok ⟨⟩ { self with image := some part } ∧
      part.raster = image.raster.crop rect := by
  have columns : (rect.x + rect.width : ℤ) ≤ image.raster.width := by exact_mod_cast inside.1
  have rows : (rect.y + rect.height : ℤ) ≤ image.raster.height := by exact_mod_cast inside.2
  rw [cropTarget]
  split
  next differs =>
    rcases BufferedImage.getSubimage_of_inside (by omega) (by omega) (by omega) (by omega)
      columns rows with ⟨part, selected, raster, -⟩
    rw [selected]
    exact ⟨part, rfl, raster⟩
  next same =>
    have whole : image.raster.crop rect = image.raster :=
      Raster.crop_eq_self (by omega) (by omega) (by omega) (by omega)
    refine ⟨image, ?_, whole.symm⟩
    rw [← present]
    rfl

/-- A region that starts outside the image is rejected. -/
theorem run_crop_outside (present : self.image = some image)
    (bounds : region.bounds fp image.raster.width image.raster.height =
      (↑rect.x, ↑rect.y, ↑rect.width, ↑rect.height))
    (outside : image.raster.width ≤ rect.x ∨ image.raster.height ≤ rect.y) :
    ∃ message, EStateM.run (crop fp region) self =
      .error (.invalidParameters message) self := by
  rw [crop, run_buffered_bind present, bounds]
  dsimp only
  rw [if_pos (by omega)]
  exact ⟨_, rfl⟩

/-- A region that starts inside the image selects its part inside the image. -/
theorem run_crop_inside (present : self.image = some image)
    (bounds : region.bounds fp image.raster.width image.raster.height =
      (↑rect.x, ↑rect.y, ↑rect.width, ↑rect.height))
    (left : rect.x < image.raster.width) (top : rect.y < image.raster.height)
    (wide : 0 < rect.width) (tall : 0 < rect.height)
    (right : (rect.x + rect.width : ℤ) ≤ maxInt)
    (bottom : (rect.y + rect.height : ℤ) ≤ maxInt)
    (columns : (image.raster.width : ℤ) ≤ maxInt)
    (rows : (image.raster.height : ℤ) ≤ maxInt) :
    ∃ part, EStateM.run (crop fp region) self =
        .ok ⟨⟩ { self with image := some part } ∧
      part.raster = image.raster.crop rect := by
  rcases Rect.clip_inside left top wide tall with ⟨inside, widthPos, heightPos⟩
  rcases run_cropTarget present widthPos heightPos inside with ⟨part, returned, raster⟩
  refine ⟨part, ?_, raster.trans (Raster.crop_clip image.raster rect)⟩
  rw [crop, run_buffered_bind present, bounds]
  dsimp only
  rw [if_neg (by omega), clampExtent_of_inside left columns right,
    clampExtent_of_inside top rows bottom]
  exact returned

end Cropping

end JAIImage

/-! ## The repository -/

namespace ImageRepositoryImageIoImpl

variable {δ α : Type}

def supportsOutputFormat (io : ImageIo δ α) (outFormat : ImageFormat) : Bool :=
  io.writerFormatNames.any fun name => JAIImage.getFormatFromString name = some outFormat

/-- `createImage`, for the data that an identifier resolves to. -/
def createImage (io : ImageIo δ α) (getImageData : JString → Except Throwable δ)
    (identifier : JString) (region : Option RegionParameters) :
    Except Throwable (JAIImage α) := do
  let imageData ← getImageData identifier
  JAIImage.create io imageData region

/-- `ImageRepositoryImageIoImpl`. -/
def repository (io : ImageIo δ α) (getImageData : JString → Except Throwable δ) :
    AbstractImageRepository (JAIImage α) where
  supportsCropOperation _ := true
  supportsOutputFormat := supportsOutputFormat io
  supportsBitDepth _ := true
  createImage := createImage io getImageData

end ImageRepositoryImageIoImpl

end IiifImage
