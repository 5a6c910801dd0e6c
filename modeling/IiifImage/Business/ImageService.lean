import IiifImage.Backend.Repository

/-!
# The image service

`getImage` chooses a repository, `transformImage` runs the requested operations on
its image, and `processImage` is the whole request.  `transformImage` reassigns its
local image and rewrites the caller's region object; these two are its state.
-/

namespace IiifImage

open Java

/-- The objects that `transformImage` changes. -/
structure Objects (σ : Type) where
  image : σ
  region : Option RegionParameters

namespace ImageService

variable {σ : Type}

def onImage {α : Type} (method : Method Throwable σ α) : Method Throwable (Objects σ) α :=
  method.on Objects.image (fun image objects => { objects with image := image })

def onRegion (region : RegionParameters) (method : Method Throwable RegionParameters Unit) :
    Method Throwable (Objects σ) Unit :=
  method.on (fun _ => region) (fun region objects => { objects with region := some region })

/-- Convert relative to absolute region parameters. -/
def absoluteStep (fp : Rounding) (image : ImageMethods σ) :
    Method Throwable (Objects σ) Unit := do
  match ← Method.reads Objects.region with
  | none => pure ()
  | some region =>
      if region.absolute then
        pure ()
      else
        let width ← onImage image.getWidth
        let height ← onImage image.getHeight
        onRegion region (RegionParameters.makeAbsolute fp width height)

/-- Crop unless the image has the dimensions of the region. -/
def cropStep (fp : Rounding) (image : ImageMethods σ) :
    Method Throwable (Objects σ) Unit := do
  match ← Method.reads Objects.region with
  | none => pure ()
  | some region =>
      let width ← onImage image.getWidth
      let height ← onImage image.getHeight
      if (fp.ofInt width).ne region.width || (fp.ofInt height).ne region.height then
        onImage (image.crop region)

/-- The region handling of `transformImage`. -/
def regionStep (fp : Rounding) (image : ImageMethods σ) :
    Method Throwable (Objects σ) Unit := do
  absoluteStep fp image
  cropStep fp image

/-- The dimensions that a size request is resolved against. -/
def sourceDimensions (image : ImageMethods σ) : Method Throwable (Objects σ) (ℤ × ℤ) := do
  match ← Method.reads Objects.region with
  | some region => return (region.width.toInt, region.height.toInt)
  | none =>
      let width ← onImage image.getWidth
      let height ← onImage image.getHeight
      return (width, height)

/-- The reassignment of `sizeParameters`. -/
def resolveSize (fp : Rounding) (image : ImageMethods σ) :
    Option ResizeParameters → Method Throwable (Objects σ) (Option ResizeParameters)
  | none => pure none
  | some sizeParameters => do
      let (sourceWidth, sourceHeight) ← sourceDimensions image
      let resolved ← Method.ofExcept
        (sizeParameters.resolve fp (fp.ofInt sourceWidth) (fp.ofInt sourceHeight))
      return some resolved

/-- The test before the call of `scale`. -/
def wantsScaling (sizeParameters : ResizeParameters) : Bool :=
  sizeParameters.maxHeight ≠ -1 ∧ sizeParameters.maxWidth ≠ -1

def scaleStep (image : ImageMethods σ) :
    Option ResizeParameters → Method Throwable (Objects σ) Unit
  | none => pure ()
  | some sizeParameters =>
      if wantsScaling sizeParameters then onImage (image.scale sizeParameters)
      else pure ()

def mirrorStep (image : ImageMethods σ) (rotation : RotationParameters) :
    Method Throwable (Objects σ) Unit :=
  if rotation.mirrorHorizontally then onImage image.flipHorizontally else pure ()

/-- Rotate by a positive angle. -/
def turnStep (image : ImageMethods σ) (rotation : RotationParameters) :
    Method Throwable (Objects σ) Unit :=
  if rotation.degrees > 0 then onImage (image.rotate rotation.degrees) else pure ()

/-- Mirror, then rotate. -/
def rotateStep (image : ImageMethods σ) :
    Option RotationParameters → Method Throwable (Objects σ) Unit
  | none => pure ()
  | some rotation => do
      mirrorStep image rotation
      turnStep image rotation

def depthStep (image : ImageMethods σ) :
    Option ImageBitDepth → Method Throwable (Objects σ) Unit
  | none => pure ()
  | some bitDepth => onImage (image.toDepth bitDepth)

def formatStep (image : ImageMethods σ) (format : ImageFormat) :
    Method Throwable (Objects σ) Unit := do
  let current ← onImage image.getFormat
  if some format ≠ current then
    onImage (image.convert format)

def transformImage (fp : Rounding) (image : ImageMethods σ)
    (sizeParameters : Option ResizeParameters)
    (rotationParameters : Option RotationParameters)
    (bitDepthParameter : Option ImageBitDepth) (formatParameter : ImageFormat) :
    Method Throwable (Objects σ) Unit := do
  regionStep fp image
  let resolved ← resolveSize fp image sizeParameters
  scaleStep image resolved
  rotateStep image rotationParameters
  depthStep image bitDepthParameter
  formatStep image formatParameter
  onImage image.performTransformation

/-! ## Steps that have nothing to do -/

section Idle

variable {fp : Rounding} {image : ImageMethods σ} {created : σ} {width height : ℤ}

/-- The image reports its dimensions and is not changed by that. -/
structure Reports (image : ImageMethods σ) (created : σ) (width height : ℤ) : Prop where
  getWidth : EStateM.run image.getWidth created = .ok width created
  getHeight : EStateM.run image.getHeight created = .ok height created

theorem Reports.onImage_getWidth (reports : Reports image created width height)
    (region : Option RegionParameters) :
    EStateM.run (onImage image.getWidth) ⟨created, region⟩ =
      .ok width (⟨created, region⟩ : Objects σ) :=
  Method.run_on_ok reports.getWidth

theorem Reports.onImage_getHeight (reports : Reports image created width height)
    (region : Option RegionParameters) :
    EStateM.run (onImage image.getHeight) ⟨created, region⟩ =
      .ok height (⟨created, region⟩ : Objects σ) :=
  Method.run_on_ok reports.getHeight

/-- An absolute region goes to the crop step as it is. -/
theorem run_regionStep_absolute {region : RegionParameters}
    (absolute : region.absolute = true) :
    EStateM.run (regionStep fp image) ⟨created, some region⟩ =
      EStateM.run (cropStep fp image) ⟨created, some region⟩ := by
  have unchanged : EStateM.run (absoluteStep fp image) ⟨created, some region⟩ =
      .ok ⟨⟩ ⟨created, some region⟩ := by
    simp only [absoluteStep, Method.run_reads_bind, absolute, if_true]
    rfl
  rw [regionStep, Method.run_bind_ok unchanged]

/-- The crop step compares dimensions only. -/
theorem run_cropStep (reports : Reports image created width height)
    (region : RegionParameters) :
    EStateM.run (cropStep fp image) ⟨created, some region⟩ =
      if (fp.ofInt width).ne region.width || (fp.ofInt height).ne region.height then
        EStateM.run (onImage (image.crop region)) ⟨created, some region⟩
      else .ok ⟨⟩ ⟨created, some region⟩ := by
  rw [cropStep, Method.run_reads_bind]
  simp only [Method.run_bind_ok (reports.onImage_getWidth _),
    Method.run_bind_ok (reports.onImage_getHeight _)]
  split <;> rfl

/-- Cropping to a rectangle of pixels is left out exactly when the image has its
dimensions. -/
theorem run_regionStep_ofRect {width height : ℕ} (reports : Reports image created width height)
    {rect : Rect} (representable : rect.Representable) (wide : width ≤ 16777216)
    (tall : height ≤ 16777216) :
    EStateM.run (regionStep fp image) ⟨created, some (.ofRect fp rect)⟩ =
      if width ≠ rect.width ∨ height ≠ rect.height then
        EStateM.run (onImage (image.crop (.ofRect fp rect))) ⟨created, some (.ofRect fp rect)⟩
      else .ok ⟨⟩ ⟨created, some (.ofRect fp rect)⟩ := by
  have differs : ∀ {m n : ℕ}, m ≤ 16777216 → n ≤ 16777216 →
      (fp.ofInt m).ne (fp.ofInt n) = decide (m ≠ n) := by
    intro m n left right
    rw [fp.ofInt_ne_ofInt (by rw [Nat.abs_cast]; exact_mod_cast left)
      (by rw [Nat.abs_cast]; exact_mod_cast right)]
    exact decide_eq_decide.mpr (not_congr Nat.cast_inj)
  rw [run_regionStep_absolute rfl, run_cropStep reports]
  simp only [RegionParameters.ofRect, RegionParameters.ofInts,
    differs wide representable.width, differs tall representable.height, Bool.or_eq_true,
    decide_eq_true_eq]

/-- A request for the full size, without rotation and in the image's own quality, is
its region step, the conversion to the format and the final transformation. -/
theorem transformImage_plain (fp : Rounding) (image : ImageMethods σ) (format : ImageFormat) :
    transformImage fp image none (some ⟨0, false⟩) none format = (do
      regionStep fp image
      formatStep image format
      onImage image.performTransformation) := rfl

/-- An image of the requested format is not converted. -/
theorem run_formatStep {format : ImageFormat} {region : Option RegionParameters}
    (current : EStateM.run image.getFormat created = .ok (some format) created) :
    EStateM.run (formatStep image format) ⟨created, region⟩ = .ok ⟨⟩ ⟨created, region⟩ := by
  have formatRead : EStateM.run (onImage image.getFormat) ⟨created, region⟩ =
      .ok (some format) (⟨created, region⟩ : Objects σ) := Method.run_on_ok current
  rw [formatStep, Method.run_bind_ok formatRead]
  simp only [ne_eq, not_true, if_false]
  rfl

end Idle

end ImageService

/-- `ImageServiceImpl` with its wired components. -/
structure ImageService (σ : Type) where
  imageRepositories : List (ImageRepository σ)
  imageSecurityService : Option (JString → Bool)

namespace ImageService

variable {σ : Type}

/-- The loop of `getImage` over the repositories. -/
def getImage (identifier : JString) (regionParameters : Option RegionParameters)
    (outputFormat : ImageFormat) (bitDepthParameter : Option ImageBitDepth) :
    List (ImageRepository σ) → Except Throwable (Option σ)
  | [] => .error (.unsupportedFormat none)
  | repo :: repositories =>
      if !repo.supportsCropOperation regionParameters
          || !repo.supportsOutputFormat outputFormat
          || !repo.supportsBitDepth bitDepthParameter then
        getImage identifier regionParameters outputFormat bitDepthParameter repositories
      else
        match repo.getImage identifier regionParameters with
        | .ok image => .ok image
        | .error exception =>
            if exception.isInvalidParameters then .error exception
            else getImage identifier regionParameters outputFormat bitDepthParameter
              repositories

def accessAllowed (service : ImageService σ) (identifier : JString) : Bool :=
  match service.imageSecurityService with
  | none => true
  | some isAccessAllowed => isAccessAllowed identifier

/-- `processImage`.  Its state is the caller's region object. -/
def processImage (fp : Rounding) (image : ImageMethods σ) (service : ImageService σ)
    (identifier : JString) (sizeParameters : Option ResizeParameters)
    (rotationParameters : Option RotationParameters)
    (bitDepthParameter : Option ImageBitDepth) (formatParameter : ImageFormat) :
    Method Throwable (Option RegionParameters) σ := fun region =>
  if !service.accessAllowed identifier then
    .error .resourceNotFound region
  else
    match getImage identifier region formatParameter bitDepthParameter
        service.imageRepositories with
    | .error exception => .error exception region
    | .ok none => .error .resourceNotFound region
    | .ok (some created) =>
        match EStateM.run (transformImage fp image sizeParameters rotationParameters
            bitDepthParameter formatParameter) ⟨created, region⟩ with
        | .ok _ objects => .ok objects.image objects.region
        | .error exception objects => .error exception objects.region

end ImageService

end IiifImage
