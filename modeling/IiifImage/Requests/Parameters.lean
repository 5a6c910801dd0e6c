import IiifImage.Java.Calls
import IiifImage.Regions.Relative
import IiifImage.Requests.FastPath

/-!
# Parameter objects of several requests

A caller may use the objects of one request for the next one.  The size and the rotation are
only read.  The region object is converted in place by `makeAbsolute`, which assigns its fields
before it decides to throw.
-/

namespace IiifImage

open Java TurboJpeg

/-! ## The region object -/

namespace RegionParameters

variable {fp : Rounding} {width height : ℤ} {region : RegionParameters}

/-- On one axis the product of the offset with the size is the offset itself, and the extent
is its own product with the size, or the room beside the offset that this product is clamped
to. -/
def AxisFixed (fp : Rounding) (size : ℤ) (offset extent : JFloat) : Prop :=
  fp.mul offset (fp.ofInt size) = offset ∧
    if (fp.mul extent (fp.ofInt size)).gt (fp.sub (fp.ofInt size) offset) then
      fp.sub (fp.ofInt size) offset = extent
    else fp.mul extent (fp.ofInt size) = extent

/-- The conversion for an image of the given dimensions is left out, or it is refused and both
axes are fixed by it. -/
def Untouched (fp : Rounding) (width height : ℤ) (region : RegionParameters) : Prop :=
  region.absolute = true ∨ region.Outlies fp width height ∧
    AxisFixed fp width region.horizontalOffset region.width ∧
    AxisFixed fp height region.verticalOffset region.height

/-- The clamp of `makeAbsolute` is made at the product of the offset. -/
theorem axisFixed_iff {size : ℤ} {offset extent : JFloat} :
    fp.mul offset (fp.ofInt size) = offset ∧
        (if (fp.mul extent (fp.ofInt size)).gt
            (fp.sub (fp.ofInt size) (fp.mul offset (fp.ofInt size))) then
          fp.sub (fp.ofInt size) (fp.mul offset (fp.ofInt size))
        else fp.mul extent (fp.ofInt size)) = extent ↔
      AxisFixed fp size offset extent := by
  rw [AxisFixed]
  refine and_congr_right fun same => ?_
  rw [same]
  split <;> rfl

/-- The products and clamps of `makeAbsolute` work on each axis alone. -/
theorem clampedTo_scaledTo_eq_iff :
    clampedTo fp width height (scaledTo fp width height region) = region ↔
      AxisFixed fp width region.horizontalOffset region.width ∧
        AxisFixed fp height region.verticalOffset region.height := by
  rw [← axisFixed_iff, ← axisFixed_iff]
  constructor
  · intro same
    exact ⟨⟨congrArg horizontalOffset same, congrArg RegionParameters.width same⟩,
      congrArg verticalOffset same, congrArg RegionParameters.height same⟩
  · rintro ⟨⟨sameX, sameWidth⟩, sameY, sameHeight⟩
    exact (mk.injEq ..).mpr ⟨rfl, sameX, sameY, sameWidth, sameHeight⟩

/-- A relative region is the same after `makeAbsolute` only if it is refused. -/
theorem after_makeAbsolute_eq_iff (relative : region.absolute = false) :
    (makeAbsolute fp width height).after region = region ↔ region.Untouched fp width height := by
  rw [Untouched, relative]
  by_cases outlies : region.Outlies fp width height
  · rcases run_makeAbsolute_of_outlies outlies with ⟨message, refused⟩
    rw [Method.after_of_error refused, clampedTo_scaledTo_eq_iff]
    simp [outlies]
  · rw [Method.after_of_ok (run_makeAbsolute_of_not_outlies relative outlies)]
    refine iff_of_false ?_ (by simp [outlies])
    intro same
    have absolute := congrArg RegionParameters.absolute same
    rw [absolute_absoluteOf, relative] at absolute
    cases absolute

end RegionParameters

/-! ## The steps of a request -/

namespace ImageService

variable {σ : Type} {fp : Rounding} {image : ImageMethods σ} {created : σ}

/-- The steps after the conversion do not reach the region object. -/
theorem keeps_afterRegion (fp : Rounding) (image : ImageMethods σ)
    (size : Option ResizeParameters) (rotation : Option RotationParameters)
    (bitDepth : Option ImageBitDepth) (format : ImageFormat) :
    Method.Keeps Objects.region (afterRegion fp image size rotation bitDepth format) := by
  have dimensions : Method.Keeps Objects.region (sourceDimensions image) := by
    apply Method.Keeps.bind (.reads _)
    intro region
    cases region with
    | none => exact .bind (keeps_onImage _) fun _ => .bind (keeps_onImage _) fun _ => .pure _
    | some region => exact .pure _
  have resolves : Method.Keeps Objects.region (resolveSize fp image size) := by
    cases size with
    | none => exact .pure _
    | some parameters =>
        exact .bind dimensions fun _ => .bind (.ofExcept _) fun _ => .pure _
  have scales : ∀ resolved, Method.Keeps Objects.region (scaleStep image resolved) := by
    intro resolved
    cases resolved with
    | none => exact .pure _
    | some parameters => exact .ite (keeps_onImage _) (.pure _)
  have turns : Method.Keeps Objects.region (rotateStep image rotation) := by
    cases rotation with
    | none => exact .pure _
    | some rotation =>
        exact .bind (.ite (keeps_onImage _) (.pure _)) fun _ => .ite (keeps_onImage _) (.pure _)
  have deepens : Method.Keeps Objects.region (depthStep image bitDepth) := by
    cases bitDepth with
    | none => exact .pure _
    | some depth => exact keeps_onImage _
  have converts : Method.Keeps Objects.region (formatStep image format) :=
    .bind (keeps_onImage _) fun _ => .ite (keeps_onImage _) (.pure _)
  exact .bind resolves fun resolved => .bind (scales resolved) fun _ =>
    .bind turns fun _ => .bind deepens fun _ => .bind converts fun _ => keeps_onImage _

/-- The region object after `transformImage` is that after its first step. -/
theorem region_after_transformImage (size : Option ResizeParameters)
    (rotation : Option RotationParameters) (bitDepth : Option ImageBitDepth)
    (format : ImageFormat) (objects : Objects σ) :
    ((transformImage fp image size rotation bitDepth format).after objects).region =
      ((absoluteStep fp image).after objects).region := by
  rw [transformImage_eq, regionStep, bind_assoc]
  exact Method.after_bind_of_keeps fun _ => .bind (keeps_cropStep fp image) fun _ =>
    keeps_afterRegion fp image size rotation bitDepth format

/-- The first step changes the region object unless `makeAbsolute` leaves it untouched. -/
theorem region_after_absoluteStep_iff {width height : ℤ}
    (reports : Reports image created width height) (region : Option RegionParameters) :
    ((absoluteStep fp image).after ⟨created, region⟩).region = region ↔
      ∀ r ∈ region, r.Untouched fp width height := by
  cases region with
  | none => exact iff_of_true rfl fun r absent => by cases absent
  | some region =>
      simp only [Option.mem_some_iff, forall_eq']
      cases relative : region.absolute with
      | true =>
          refine iff_of_true ?_ (.inl relative)
          rw [Method.after, absoluteStep, Method.run_reads_bind]
          simp only [relative, if_true]
          rfl
      | false =>
          rw [← RegionParameters.after_makeAbsolute_eq_iff relative, Method.after,
            run_absoluteStep_relative reports relative, onRegion, Method.run_on, Method.after]
          cases EStateM.run (RegionParameters.makeAbsolute fp width height) region with
          | ok value converted => simp
          | error exception converted => simp

/-- An image that does not know its width throws before the region object is reached. -/
theorem region_after_absoluteStep_of_throws {exception : Throwable} {final : σ}
    (thrown : EStateM.run image.getWidth created = .error exception final)
    (region : Option RegionParameters) :
    ((absoluteStep fp image).after ⟨created, region⟩).region = region := by
  have read : EStateM.run (onImage image.getWidth) ⟨created, region⟩ =
      .error exception (⟨final, region⟩ : Objects σ) := Method.run_on_error thrown
  cases region with
  | none => rfl
  | some region =>
      rw [Method.after, absoluteStep, Method.run_reads_bind]
      cases relative : region.absolute with
      | true =>
          simp only [relative, if_true]
          rfl
      | false =>
          simp only [relative, Bool.false_eq_true, if_false, Method.run_bind_error read]
          rfl

end ImageService

/-! ## Requests with the same objects -/

/-- What can differ between requests with the same region, size and rotation objects. -/
structure Request (σ : Type) where
  service : ImageService σ
  identifier : JString
  bitDepth : Option ImageBitDepth
  format : ImageFormat

namespace Request

variable {σ : Type}

/-- The call of `processImage`. -/
def process (fp : Rounding) (image : ImageMethods σ) (size : Option ResizeParameters)
    (rotation : Option RotationParameters) (request : Request σ) :
    Method Throwable (Option RegionParameters) σ :=
  ImageService.processImage fp image request.service request.identifier size rotation
    request.bitDepth request.format

/-- The image that the request transforms, if it gets one. -/
def created (request : Request σ) (region : Option RegionParameters) : Option σ :=
  if request.service.accessAllowed request.identifier then
    match ImageService.getImage request.identifier region request.format request.bitDepth
        request.service.imageRepositories with
    | .ok image => image
    | .error _ => none
  else none

/-- The request leaves the region object as it was, so that every later request with the same
objects does what it does with new ones. -/
structure Isolated (fp : Rounding) (image : ImageMethods σ) (size : Option ResizeParameters)
    (rotation : Option RotationParameters) (request : Request σ)
    (region : Option RegionParameters) : Prop where
  unchanged : (request.process fp image size rotation).after region = region
  later : ∀ next : Request σ,
    EStateM.run (next.process fp image size rotation)
        ((request.process fp image size rotation).after region) =
      EStateM.run (next.process fp image size rotation) region

variable {fp : Rounding} {image : ImageMethods σ} {size : Option ResizeParameters}
variable {rotation : Option RotationParameters} {request : Request σ}
variable {region : Option RegionParameters}

theorem isolated_iff_unchanged : Isolated fp image size rotation request region ↔
    (request.process fp image size rotation).after region = region := by
  refine ⟨Isolated.unchanged, fun unchanged => ⟨unchanged, fun next => ?_⟩⟩
  rw [unchanged]

theorem after_process_of_not_created (absent : request.created region = none) :
    (request.process fp image size rotation).after region = region := by
  rw [created] at absent
  unfold Method.after process ImageService.processImage EStateM.run
  split at absent
  next allowed =>
    simp only [allowed, Bool.not_true, Bool.false_eq_true, if_false]
    split at absent
    next found none =>
      subst absent
      rw [none]
      rfl
    next exception failed =>
      rw [failed]
      rfl
  next denied =>
    simp only [denied, Bool.not_false, if_true]
    rfl

theorem after_process_of_created {made : σ} (present : request.created region = some made) :
    (request.process fp image size rotation).after region =
      ((ImageService.transformImage fp image size rotation request.bitDepth
        request.format).after ⟨made, region⟩).region := by
  rw [created] at present
  split at present
  next allowed =>
    split at present
    next found returned =>
      subst present
      unfold Method.after process ImageService.processImage EStateM.run
      simp only [allowed, Bool.not_true, Bool.false_eq_true, if_false, returned]
      cases ImageService.transformImage fp image size rotation request.bitDepth request.format
        ⟨made, region⟩ with
      | ok value objects => rfl
      | error exception objects => rfl
    next exception failed => cases present
  next denied => cases present

end Request

/-! ## The law -/

namespace BackendImage

variable {δ α : Type} {natives : Natives δ} {io : ImageIo δ α} {fp : Rounding}
variable {image : BackendImage δ α}

/-- The dimensions that an image reports.  An `Image` without a `BufferedImage` has none. -/
def dimensions : BackendImage δ α → Option (ℤ × ℤ)
  | jpegTran image => some (image.width, image.height)
  | imageIo self => self.image.map fun image => (↑image.raster.width, ↑image.raster.height)

theorem reports_of_dimensions (natives : Natives δ) (io : ImageIo δ α) (fp : Rounding)
    {width height : ℤ} (known : image.dimensions = some (width, height)) :
    ImageService.Reports (methods natives io fp) image width height := by
  cases image with
  | jpegTran image =>
      cases known
      exact ⟨rfl, rfl⟩
  | imageIo self =>
      rcases Option.map_eq_some_iff.mp known with ⟨source, present, same⟩
      cases same
      have reports : ImageService.Reports (JAIImage.methods io fp) self source.raster.width
          source.raster.height := JAIImage.reports_of_present present
      constructor
      · exact congrArg (Method.mapState imageIo) reports.getWidth
      · exact congrArg (Method.mapState imageIo) reports.getHeight

theorem run_getWidth_of_no_dimensions (natives : Natives δ) (io : ImageIo δ α) (fp : Rounding)
    (absent : image.dimensions = none) :
    EStateM.run (methods natives io fp).getWidth image = .error .nullPointer image := by
  cases image with
  | jpegTran image => cases absent
  | imageIo self =>
      have null : self.image = none := Option.map_eq_none_iff.mp absent
      rcases self with ⟨_, formatString⟩
      cases null
      rfl

end BackendImage

/-- A request on either backend leaves its parameter objects as they were exactly when it
gets no image, its region is absolute or `null`, or `makeAbsolute` refuses the region and has
not changed it. -/
theorem isolated_iff {δ α : Type} (natives : Natives δ) (io : ImageIo δ α) (fp : Rounding)
    (size : Option ResizeParameters) (rotation : Option RotationParameters)
    (request : Request (BackendImage δ α)) (region : Option RegionParameters) :
    Request.Isolated fp (BackendImage.methods natives io fp) size rotation request region ↔
      ∀ image width height, request.created region = some image →
        image.dimensions = some (width, height) → ∀ r ∈ region, r.Untouched fp width height := by
  rw [Request.isolated_iff_unchanged]
  cases made : request.created region with
  | none =>
      rw [Request.after_process_of_not_created made]
      exact iff_of_true rfl fun image width height present => by cases present
  | some image =>
      rw [Request.after_process_of_created made, ImageService.region_after_transformImage]
      cases known : image.dimensions with
      | none =>
          rw [ImageService.region_after_absoluteStep_of_throws
            (BackendImage.run_getWidth_of_no_dimensions natives io fp known)]
          refine iff_of_true rfl ?_
          intro image' width height same known'
          cases same
          rw [known] at known'
          cases known'
      | some dimensions =>
          rcases dimensions with ⟨width, height⟩
          rw [ImageService.region_after_absoluteStep_iff
            (BackendImage.reports_of_dimensions natives io fp known)]
          constructor
          · intro untouched image' width' height' same known'
            cases same
            rw [known] at known'
            cases known'
            exact untouched
          · intro untouched
            exact untouched image width height rfl known

/-! ## Two files -/

section Files

open ImageService (losslessIo plainRepository withRepositories)
open JpegTranImage (squareJpeg)

/-- A file of 64 by 64 pixels. -/
def largeJpeg : Jpeg (ℕ × ℕ) :=
  Jpeg.labelled 64 64 .samp444 (by decide) (by decide) (by decide) (by decide)

/-- A service with the ImageIO repository, in which `s` is the file of 32 by 32 pixels. -/
def twoFiles : ImageService (BackendImage (Jpeg (ℕ × ℕ)) (ℕ × ℕ)) :=
  withRepositories [plainRepository losslessIo fun identifier =>
    if identifier = ['s'] then .ok (squareJpeg .samp444) else .ok largeJpeg] none

/-- The request for one of the files in its own format. -/
def fileRequest (identifier : JString) : Request (BackendImage (Jpeg (ℕ × ℕ)) (ℕ × ℕ)) where
  service := twoFiles
  identifier := identifier
  bitDepth := none
  format := .jpeg

/-- The call of the request in exact arithmetic, for the full size and without rotation. -/
def call (identifier : JString) : Method Throwable (Option RegionParameters)
    (BackendImage (Jpeg (ℕ × ℕ)) (ℕ × ℕ)) :=
  (fileRequest identifier).process .exact
    (BackendImage.methods (library id Scaler.nearest) losslessIo .exact) none none

/-- The dimensions of the image that a call returns. -/
def returnedDimensions :
    EStateM.Result Throwable (Option RegionParameters) (BackendImage (Jpeg (ℕ × ℕ)) (ℕ × ℕ)) →
      Option (ℤ × ℤ)
  | .ok image _ => image.dimensions
  | .error _ _ => none

/-- The region `pct:0,0,50,50` of the larger file has 32 by 32 pixels, and only 16 by 16 after
a request for the smaller file with the same object.  The region `pct:200,0,50,50` is refused
and changed all the same. -/
theorem parameters_contaminated :
    let quarter := RegionParameters.ofFractions 0 0 (1 / 2) (1 / 2)
    let outside := RegionParameters.ofFractions 2 0 (1 / 2) (1 / 2)
    (ParameterParser.parseIiifRegion .exact .fin
        ['p', 'c', 't', ':', '0', ',', '0', ',', '5', '0', ',', '5', '0'] = .ok (some quarter) ∧
      ParameterParser.parseIiifRegion .exact .fin
        ['p', 'c', 't', ':', '2', '0', '0', ',', '0', ',', '5', '0', ',', '5', '0'] =
          .ok (some outside)) ∧
    returnedDimensions (EStateM.run (call ['l']) (some quarter)) = some (32, 32) ∧
    returnedDimensions (EStateM.run (call ['l']) ((call ['s']).after (some quarter))) =
      some (16, 16) ∧
    returnedDimensions (EStateM.run (call ['s']) (some outside)) = none ∧
    (call ['s']).after (some outside) ≠ some outside ∧
    ¬Request.Isolated .exact (BackendImage.methods (library id Scaler.nearest) losslessIo .exact)
      none none (fileRequest ['s']) (some quarter) ∧
    ¬Request.Isolated .exact (BackendImage.methods (library id Scaler.nearest) losslessIo .exact)
      none none (fileRequest ['s']) (some outside) := by
  have alone : returnedDimensions (EStateM.run (call ['l'])
      (some (.ofFractions 0 0 (1 / 2) (1 / 2)))) = some (32, 32) := by decide +kernel
  have afterwards : returnedDimensions (EStateM.run (call ['l'])
      ((call ['s']).after (some (.ofFractions 0 0 (1 / 2) (1 / 2))))) = some (16, 16) := by
    decide +kernel
  have changed : (call ['s']).after (some (.ofFractions 2 0 (1 / 2) (1 / 2))) ≠
      some (.ofFractions 2 0 (1 / 2) (1 / 2)) := by decide +kernel
  refine ⟨⟨by decide +kernel, by decide +kernel⟩, alone, afterwards, by decide +kernel, changed,
    ?_, fun isolated => changed isolated.unchanged⟩
  intro isolated
  have same := congrArg returnedDimensions (isolated.later (fileRequest ['l']))
  have different := afterwards.symm.trans (same.trans alone)
  exact absurd different (by decide)

end Files

end IiifImage
