import IiifImage.Java.Method
import IiifImage.TurboJpeg.Lossless

/-!
# The lazy JPEG image

A `JpegImage` holds the bytes of a file, the header read from them and one pending
transform.  Reorienting, cropping and `toGrayscale` only write to the pending
transform; `transform` and `downScale` replace the bytes.
-/

namespace IiifImage

open Java TurboJpeg

namespace TurboJpeg.Natives

variable {δ : Type} (natives : Natives δ)

/-- `data[index] & 0xFF`. -/
def byte (data : δ) (index : ℕ) : Except Throwable (BitVec 8) :=
  match natives.byteAt data index with
  | some value => .ok value
  | none => .error (.arrayIndexOutOfBounds none)

/-- The data starts with the marker of a JPEG file. -/
def startsWithMarker (data : δ) : Except Throwable Bool := do
  let first ← natives.byte data 0
  if first ≠ 0xFF then
    return false
  let second ← natives.byte data 1
  return second = 0xD8

/-- The native method `transform` of a transformer for `data` with the header
`source`, for one destination buffer. -/
def transformInto (source : Header) (data : δ) (destinationSize : ℤ) (t : TJTransform) :
    Except Throwable δ :=
  if destinationSize < demandedSize source t then
    .error (.illegalArgument (some "Destination buffer is not large enough"))
  else natives.transform data t

end TurboJpeg.Natives

/-- `JpegImage`.  Of its decompressor only the header is used. -/
structure JpegImage (δ : Type) where
  decomp : Header
  transformOptions : TJTransform
  imgData : δ

namespace JpegImage

variable {δ : Type}

def getWidth (image : JpegImage δ) : ℤ := image.decomp.width

def getHeight (image : JpegImage δ) : ℤ := image.decomp.height

section Operations

variable (natives : Natives δ)

/-- `setImageData`.  The data stays assigned when its header cannot be parsed. -/
def setImageData (data : δ) : Method Throwable (JpegImage δ) Unit := do
  let isJpeg ← Method.ofExcept (natives.startsWithMarker data)
  if !isJpeg then
    throw (.illegalArgument (some "Not a JPEG file"))
  modify fun image => { image with imgData := data }
  let decomp ← Method.ofExcept (natives.decompressHeader data)
  modify fun image => { image with decomp := decomp }

/-- The constructor `JpegImage(data)`. -/
def create (data : δ) : Except Throwable (JpegImage δ) := do
  let isJpeg ← natives.startsWithMarker data
  if !isJpeg then
    throw (.illegalArgument (some "Not a JPEG file"))
  let decomp ← natives.decompressHeader data
  return { decomp, transformOptions := {}, imgData := data }

def setOp (op : TJOp) : Method Throwable (JpegImage δ) Unit :=
  modify fun image =>
    { image with transformOptions := { image.transformOptions with op := op } }

/-- `rotate`.  No branch of its `switch` is for the angle zero. -/
def rotate (angle : ℤ) : Method Throwable (JpegImage δ) Unit :=
  if angle.tmod 90 ≠ 0 ∨ angle < 0 ∨ angle > 270 then
    throw (.illegalArgument (some "Degree must be 90, 180 or 270"))
  else if angle = 90 then setOp .rot90
  else if angle = 180 then setOp .rot180
  else if angle = 270 then setOp .rot270
  else pure ()

def flipHorizontal : Method Throwable (JpegImage δ) Unit := setOp .hflip

def flipVertical : Method Throwable (JpegImage δ) Unit := setOp .vflip

def transpose : Method Throwable (JpegImage δ) Unit := setOp .transpose

def transverse : Method Throwable (JpegImage δ) Unit := setOp .transverse

def crop (x y width height : ℤ) : Method Throwable (JpegImage δ) Unit := do
  let image ← get
  if width > wrap (image.getWidth - x) ∨ height > wrap (image.getHeight - y) then
    throw (.illegalArgument (some ("Width or height exceed the boundaries of the cropped " ++
      "image, check the vertical/horizontal offset!")))
  else if x < 0 ∨ y < 0 then
    throw (.illegalArgument (some "Vertical and horizontal offsets cannot be negative."))
  else if width ≤ 0 ∨ height ≤ 0 then
    throw (.illegalArgument (some "Width and height must be greater than 0"))
  else
    modify fun image => { image with transformOptions :=
      (image.transformOptions.setBounds x y width height).addOption optCrop }

def toGrayscale : Method Throwable (JpegImage δ) Unit :=
  modify fun image =>
    { image with transformOptions := image.transformOptions.addOption optGray }

/-- `new byte[1][length]`. -/
def allocate (length : ℤ) : Except Throwable Unit :=
  if length < 0 then .error (.negativeArraySize none) else .ok ()

/-- `transform`.  The constructor of the transformer reads the header again. -/
def transform : Method Throwable (JpegImage δ) Unit := do
  let image ← get
  let source ← Method.ofExcept (natives.decompressHeader image.imgData)
  let destinationSize ← Method.ofExcept
    (bufSize image.getWidth image.getHeight image.decomp.subsamp)
  Method.ofExcept (allocate destinationSize)
  let transformed ← Method.ofExcept (natives.transformInto source image.imgData
    destinationSize image.transformOptions)
  setImageData natives transformed
  modify fun image => { image with transformOptions := {} }

/-- Apply the pending operation and crop, but not a pending conversion to grayscale
alone. -/
def flush : Method Throwable (JpegImage δ) Unit := do
  let image ← get
  if image.transformOptions.op ≠ .none ∨ image.transformOptions.isEmpty = false then
    transform natives
    modify fun image => { image with transformOptions := {} }

def downScale (width height quality : ℤ) : Method Throwable (JpegImage δ) Unit := do
  flush natives
  let image ← get
  if width > image.getWidth ∨ height > image.getHeight then
    throw (.illegalArgument (some ("Target dimensions must be smaller than original " ++
      "dimensions, were " ++ toString image.getWidth ++ "x" ++ toString image.getHeight
      ++ " vs " ++ toString width ++ "x" ++ toString height ++ ".")))
  else if width ≤ 0 ∨ height ≤ 0 then
    throw (.illegalArgument (some "Width and height must be greater than 0"))
  else do
    let scaled ← Method.ofExcept
      (natives.downScaleJpegImage image.imgData width height quality)
    setImageData natives scaled

end Operations

/-- The constructor keeps the data and reads its header. -/
theorem made_of_create {natives : Natives δ} {data : δ} {image : JpegImage δ}
    (created : create natives data = .ok image) :
    ∃ header, natives.decompressHeader data = .ok header ∧ image = ⟨header, {}, data⟩ := by
  rw [create] at created
  rcases Method.except_bind_eq_ok.mp created with ⟨isJpeg, -, checked⟩
  split at checked
  · cases checked
  · rcases Method.except_bind_eq_ok.mp checked with ⟨header, parsed, built⟩
    cases built
    exact ⟨header, parsed, rfl⟩

/-! ## Cropping -/

section Cropping

variable {δ : Type} {image : JpegImage δ}

/-- The pending transform after a crop. -/
def cropped (image : JpegImage δ) (x y width height : ℤ) : JpegImage δ :=
  { image with transformOptions :=
      (image.transformOptions.setBounds x y width height).addOption optCrop }

/-- A crop that is not recorded is refused with the same exception for all reasons. -/
theorem run_crop_cases (image : JpegImage δ) (x y width height : ℤ) :
    EStateM.run (crop x y width height) image = .ok () (image.cropped x y width height) ∨
      ∃ message, EStateM.run (crop x y width height) image =
        .error (.illegalArgument message) image := by
  rw [crop]
  simp only [Method.run_get_bind]
  split
  · exact .inr ⟨_, rfl⟩
  split
  · exact .inr ⟨_, rfl⟩
  split
  · exact .inr ⟨_, rfl⟩
  · exact .inl rfl

theorem run_crop_eq_ok_iff {x y width height : ℤ} (xRange : x ≤ maxInt) (yRange : y ≤ maxInt)
    {final : JpegImage δ} :
    EStateM.run (crop x y width height) image = .ok () final ↔
      (0 ≤ x ∧ 0 ≤ y) ∧ (1 ≤ width ∧ 1 ≤ height) ∧
        (x + width ≤ image.getWidth ∧ y + height ≤ image.getHeight) ∧
        final = image.cropped x y width height := by
  have widthLe : image.getWidth ≤ maxInt := le_maxInt_of_le_maxDimension image.decomp.width_le
  have heightLe : image.getHeight ≤ maxInt :=
    le_maxInt_of_le_maxDimension image.decomp.height_le
  have widthPos : 1 ≤ image.getWidth := image.decomp.width_pos
  have heightPos : 1 ≤ image.getHeight := image.decomp.height_pos
  have columns : 0 ≤ x → wrap (image.getWidth - x) = image.getWidth - x := by
    intro nonneg
    apply wrap_sub_of_nonneg <;> omega
  have rows : 0 ≤ y → wrap (image.getHeight - y) = image.getHeight - y := by
    intro nonneg
    apply wrap_sub_of_nonneg <;> omega
  rw [crop]
  simp only [Method.run_get_bind]
  split
  next exceeds =>
    simp only [Method.run_throw, reduceCtorEq, false_iff]
    intro accepted
    rcases accepted with ⟨⟨left, top⟩, -, ⟨right, bottom⟩, -⟩
    simp only [columns left, rows top] at exceeds
    omega
  split
  next negative =>
    simp only [Method.run_throw, reduceCtorEq, false_iff]
    omega
  split
  next empty =>
    simp only [Method.run_throw, reduceCtorEq, false_iff]
    omega
  next exceeds negative empty =>
    have left : 0 ≤ x := by omega
    have top : 0 ≤ y := by omega
    simp only [columns left, rows top] at exceeds
    constructor
    · intro returned
      cases returned
      exact ⟨by omega, by omega, by omega, rfl⟩
    · intro accepted
      rcases accepted with ⟨-, -, -, rfl⟩
      rfl

end Cropping

/-! ## Transforming -/

section Transforming

variable {δ : Type} {natives : Natives δ} {image : JpegImage δ}

/-- A buffer that fits is allocated, and the native transform decides. -/
theorem run_transform_of_fits
    (describes : natives.decompressHeader image.imgData = .ok image.decomp)
    (fits : destinationFits image.decomp image.transformOptions) :
    EStateM.run (transform natives) image =
      EStateM.run (do
        let transformed ← Method.ofExcept
          (natives.transform image.imgData image.transformOptions)
        setImageData natives transformed
        modify fun image => { image with transformOptions := {} }) image := by
  rcases fits with ⟨nonneg, enough⟩
  have sized : bufSize image.getWidth image.getHeight image.decomp.subsamp =
      .ok (tjBufSize image.decomp.width image.decomp.height image.decomp.subsamp) := by
    rw [bufSize]
    exact if_neg (by unfold getWidth getHeight; omega)
  have allocated : allocate
      (tjBufSize image.decomp.width image.decomp.height image.decomp.subsamp) = .ok () :=
    if_neg (by omega)
  have into : natives.transformInto image.decomp image.imgData
      (tjBufSize image.decomp.width image.decomp.height image.decomp.subsamp)
      image.transformOptions = natives.transform image.imgData image.transformOptions :=
    if_neg (by omega)
  simp only [transform, Method.run_get_bind, describes, sized, Method.run_ofExcept_ok_bind]
  rw [allocated, Method.run_ofExcept_ok_bind, into]

/-- A buffer that does not fit is refused before the native transform is called, with
an exception that no caller expects. -/
theorem run_transform_of_not_fits
    (describes : natives.decompressHeader image.imgData = .ok image.decomp)
    (misfit : ¬destinationFits image.decomp image.transformOptions) :
    ∃ exception, EStateM.run (transform natives) image = .error exception image ∧
      exception.isIOException = false ∧ exception.isTransformation = false := by
  simp only [transform, Method.run_get_bind, describes, Method.run_ofExcept_ok_bind]
  by_cases invalid : tjBufSize image.decomp.width image.decomp.height image.decomp.subsamp = -1
  · have sized : ∃ message, bufSize image.getWidth image.getHeight image.decomp.subsamp =
        .error (.illegalArgument message) := ⟨_, if_pos invalid⟩
    rcases sized with ⟨message, sized⟩
    rw [sized]
    exact ⟨_, rfl, rfl, rfl⟩
  have sized : bufSize image.getWidth image.getHeight image.decomp.subsamp =
      .ok (tjBufSize image.decomp.width image.decomp.height image.decomp.subsamp) :=
    if_neg invalid
  rw [sized, Method.run_ofExcept_ok_bind]
  by_cases negative :
      tjBufSize image.decomp.width image.decomp.height image.decomp.subsamp < 0
  · rw [allocate, if_pos negative]
    exact ⟨_, rfl, rfl, rfl⟩
  rw [allocate, if_neg negative, Method.run_ofExcept_ok_bind]
  have small : tjBufSize image.decomp.width image.decomp.height image.decomp.subsamp <
      demandedSize image.decomp image.transformOptions := by
    by_contra enough
    exact misfit ⟨by omega, by omega⟩
  rw [Natives.transformInto, if_pos small]
  exact ⟨_, rfl, rfl, rfl⟩

end Transforming

/-! ## Runs on decoded images -/

section Decoded

variable {α : Type} {luma : α → α} {scaler : Scaler α}
variable {jpeg : Jpeg α} {subsamp : Subsamp} {image : JpegImage (Jpeg α)} {t : TJTransform}

/-- The image that holds decoded data with the header read from it. -/
def holding (jpeg : Jpeg α) (subsamp : Subsamp) (t : TJTransform) : JpegImage (Jpeg α) where
  decomp := jpeg.header subsamp
  transformOptions := t
  imgData := jpeg

@[simp] theorem getWidth_holding : (holding jpeg subsamp t).getWidth = jpeg.raster.width := rfl

@[simp] theorem getHeight_holding :
    (holding jpeg subsamp t).getHeight = jpeg.raster.height := rfl

theorem startsWithMarker_library :
    (library luma scaler).startsWithMarker jpeg = .ok true := rfl

theorem decompressHeader_library (typed : jpeg.getSubsamp = some subsamp) :
    (library luma scaler).decompressHeader jpeg = .ok (jpeg.header subsamp) := by
  simp only [library, Jpeg.decompressHeader, typed]

/-- The header of a decoded image describes its data. -/
theorem describes_holding (luma : α → α) (scaler : Scaler α)
    (typed : jpeg.getSubsamp = some subsamp) (t : TJTransform) :
    (library luma scaler).decompressHeader (holding jpeg subsamp t).imgData =
      .ok (holding jpeg subsamp t).decomp :=
  decompressHeader_library typed

theorem create_library (typed : jpeg.getSubsamp = some subsamp) :
    create (library luma scaler) jpeg = .ok (holding jpeg subsamp {}) := by
  rw [create, startsWithMarker_library, decompressHeader_library typed]
  rfl

/-- The constructor succeeds on the images whose subsampling can be determined. -/
theorem create_library_iff :
    create (library luma scaler) jpeg = .ok image ↔
      ∃ subsamp, jpeg.getSubsamp = some subsamp ∧ image = holding jpeg subsamp {} := by
  constructor
  · intro created
    cases found : jpeg.getSubsamp with
    | some subsamp =>
        rw [create_library found] at created
        cases created
        exact ⟨subsamp, rfl, rfl⟩
    | none =>
        rw [create, startsWithMarker_library] at created
        simp [library, Jpeg.decompressHeader, found, bind, Except.bind] at created
  · intro found
    rcases found with ⟨subsamp, typed, rfl⟩
    exact create_library typed

theorem run_setImageData (typed : jpeg.getSubsamp = some subsamp) :
    EStateM.run (setImageData (library luma scaler) jpeg) image =
      .ok () (holding jpeg subsamp image.transformOptions) := by
  rw [setImageData, startsWithMarker_library, decompressHeader_library typed]
  rfl

theorem run_setImageData_undetermined (luma : α → α) (scaler : Scaler α)
    (image : JpegImage (Jpeg α)) (untyped : jpeg.getSubsamp = none) :
    ∃ message, EStateM.run (setImageData (library luma scaler) jpeg) image =
      .error (.tj message) { image with imgData := jpeg } := by
  have header : ∃ message,
      (library luma scaler).decompressHeader jpeg = .error (.tj message) := by
    simp only [library, Jpeg.decompressHeader, untyped]
    exact ⟨_, rfl⟩
  rcases header with ⟨message, header⟩
  refine ⟨message, ?_⟩
  rw [setImageData, startsWithMarker_library, header]
  rfl

/-- A successful transform replaces the data and the header and clears the pending
transform. -/
theorem run_transform_ok {out : Jpeg α} {outSubsamp : Subsamp}
    (typed : jpeg.getSubsamp = some subsamp)
    (fits : destinationFits (jpeg.header subsamp) t)
    (transformed : jpeg.tjTransform luma t = .ok out)
    (outTyped : out.getSubsamp = some outSubsamp) :
    EStateM.run (transform (library luma scaler)) (holding jpeg subsamp t) =
      .ok () (holding out outSubsamp {}) := by
  have called : (library luma scaler).transform (holding jpeg subsamp t).imgData
      (holding jpeg subsamp t).transformOptions = .ok out := transformed
  rw [run_transform_of_fits (describes_holding luma scaler typed t) fits, called,
    Method.run_ofExcept_ok_bind, Method.run_bind_ok (run_setImageData outTyped)]
  rfl

/-- The native transform fails, or its result cannot be read: both are reported as
a `TJException`. -/
theorem run_transform_tj (scaler : Scaler α) (typed : jpeg.getSubsamp = some subsamp)
    (fits : destinationFits (jpeg.header subsamp) t)
    (fails : ∀ out, jpeg.tjTransform luma t = .ok out → out.getSubsamp = none) :
    ∃ message final, EStateM.run (transform (library luma scaler)) (holding jpeg subsamp t) =
      .error (.tj message) final := by
  rw [run_transform_of_fits (describes_holding luma scaler typed t) fits]
  cases transformed : jpeg.tjTransform luma t with
  | error exception =>
      rcases Jpeg.tjTransform_error transformed with ⟨message, rfl⟩
      have called : (library luma scaler).transform (holding jpeg subsamp t).imgData
        (holding jpeg subsamp t).transformOptions = .error (.tj message) := transformed
      rw [called]
      exact ⟨message, _, rfl⟩
  | ok out =>
      have called : (library luma scaler).transform (holding jpeg subsamp t).imgData
        (holding jpeg subsamp t).transformOptions = .ok out := transformed
      obtain ⟨message, unread⟩ := run_setImageData_undetermined luma scaler
        (holding jpeg subsamp t) (fails out transformed)
      rw [called, Method.run_ofExcept_ok_bind, Method.run_bind_error unread]
      exact ⟨message, _, rfl⟩

theorem run_transform_misfit (luma : α → α) (scaler : Scaler α)
    (typed : jpeg.getSubsamp = some subsamp)
    (misfit : ¬destinationFits (jpeg.header subsamp) t) :
    ∃ exception, EStateM.run (transform (library luma scaler)) (holding jpeg subsamp t) =
      .error exception (holding jpeg subsamp t) ∧ exception.isIOException = false ∧
        exception.isTransformation = false :=
  run_transform_of_not_fits (describes_holding luma scaler typed t) misfit

/-- What the transform throws is a `TJException` exactly when the buffer fits, and never
a `TransformationException`. -/
theorem run_transform_throws (typed : jpeg.getSubsamp = some subsamp) {exception : Throwable}
    {final : JpegImage (Jpeg α)}
    (thrown : EStateM.run (transform (library luma scaler)) (holding jpeg subsamp t) =
      .error exception final) :
    ((∃ message, exception = .tj message) ↔ destinationFits (jpeg.header subsamp) t) ∧
      exception.isTransformation = false := by
  by_cases fits : destinationFits (jpeg.header subsamp) t
  · have fails : ∀ out, jpeg.tjTransform luma t = .ok out → out.getSubsamp = none := by
      intro out transformed
      by_contra known
      rcases Option.ne_none_iff_exists'.mp known with ⟨outSubsamp, outTyped⟩
      rw [run_transform_ok typed fits transformed outTyped] at thrown
      cases thrown
    rcases run_transform_tj scaler typed fits fails with ⟨message, after, thrownTj⟩
    rw [thrownTj] at thrown
    cases thrown
    exact ⟨iff_of_true ⟨message, rfl⟩ fits, rfl⟩
  · obtain ⟨_, thrownOther, notIO, notTransformation⟩ :=
      run_transform_misfit luma scaler typed fits
    rw [thrownOther] at thrown
    cases thrown
    refine ⟨iff_of_false ?_ fits, notTransformation⟩
    intro reported
    rcases reported with ⟨message, rfl⟩
    cases notIO

/-- The runs of a transform that return. -/
theorem run_transform_eq_ok_iff (typed : jpeg.getSubsamp = some subsamp)
    {final : JpegImage (Jpeg α)} :
    EStateM.run (transform (library luma scaler)) (holding jpeg subsamp t) = .ok () final ↔
      destinationFits (jpeg.header subsamp) t ∧ ∃ out outSubsamp,
        jpeg.tjTransform luma t = .ok out ∧ out.getSubsamp = some outSubsamp ∧
          final = holding out outSubsamp {} := by
  constructor
  · intro returned
    by_cases fits : destinationFits (jpeg.header subsamp) t
    · by_cases read : ∃ out, jpeg.tjTransform luma t = .ok out ∧ out.getSubsamp ≠ none
      · rcases read with ⟨out, transformed, known⟩
        rcases Option.ne_none_iff_exists'.mp known with ⟨outSubsamp, outTyped⟩
        rw [run_transform_ok typed fits transformed outTyped] at returned
        cases returned
        exact ⟨fits, out, outSubsamp, transformed, outTyped, rfl⟩
      · have fails : ∀ out, jpeg.tjTransform luma t = .ok out → out.getSubsamp = none := by
          intro out transformed
          by_contra known
          exact read ⟨out, transformed, known⟩
        obtain ⟨message, after, thrown⟩ :=
          run_transform_tj scaler typed fits fails
        rw [thrown] at returned
        cases returned
    · obtain ⟨exception, thrown, _⟩ :=
        run_transform_misfit luma scaler typed fits
      rw [thrown] at returned
      cases returned
  · intro written
    rcases written with ⟨fits, out, outSubsamp, transformed, outTyped, rfl⟩
    exact run_transform_ok typed fits transformed outTyped

/-- The method returns and leaves the given pixels in the data. -/
def Yields (method : Method Throwable (JpegImage (Jpeg α)) Unit)
    (image : JpegImage (Jpeg α)) (raster : Raster α) : Prop :=
  ∃ final, EStateM.run method image = .ok () final ∧ final.imgData.raster = raster

theorem yields_transform_iff (typed : jpeg.getSubsamp = some subsamp) {raster : Raster α} :
    Yields (transform (library luma scaler)) (holding jpeg subsamp t) raster ↔
      destinationFits (jpeg.header subsamp) t ∧ ∃ out,
        jpeg.tjTransform luma t = .ok out ∧ out.getSubsamp.isSome = true ∧
          out.raster = raster := by
  simp only [Yields, run_transform_eq_ok_iff typed]
  constructor
  · intro yielded
    rcases yielded with ⟨final, ⟨fits, out, outSubsamp, transformed, outTyped, rfl⟩, pixels⟩
    exact ⟨fits, out, transformed, outTyped ▸ rfl, pixels⟩
  · intro written
    rcases written with ⟨fits, out, transformed, known, pixels⟩
    rcases Option.isSome_iff_exists.mp known with ⟨outSubsamp, outTyped⟩
    exact ⟨_, ⟨fits, out, outSubsamp, transformed, outTyped, rfl⟩, pixels⟩

end Decoded

end JpegImage

end IiifImage
