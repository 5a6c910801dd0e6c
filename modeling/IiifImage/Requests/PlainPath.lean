import IiifImage.Backend.Operations
import IiifImage.Business.ParameterParser
import IiifImage.Business.Sizing
import IiifImage.Requests.Backends

/-!
# Requests for whole JPEG files on the ImageIO backend

A request for the region `full` resolves its size against the dimensions of the file.
What the ImageIO backend returns has the resolved size, with its sides exchanged by an
odd number of quarter turns.
-/

namespace IiifImage

open Java

/-! ## Sizes of whole images -/

namespace ImageService

variable {σ : Type} {fp : Rounding} {image : ImageMethods σ} {created : σ}
variable {width height : ℤ} {size : Option ResizeParameters}
variable {rotation : Option RotationParameters} {bitDepth : Option ImageBitDepth}
variable {format : ImageFormat}

/-- The dimensions that a size requests of an image. -/
def requestedSize (fp : Rounding) (size : Option ResizeParameters) (width height : ℤ) :
    Except Throwable (ℤ × ℤ) :=
  match size with
  | none => .ok (width, height)
  | some parameters => do
      let resolved ← parameters.resolve fp (fp.ofInt width) (fp.ofInt height)
      return (resolved.width, resolved.height)

/-- The operations after the sizing step. -/
def afterSizing (image : ImageMethods σ) (rotation : Option RotationParameters)
    (bitDepth : Option ImageBitDepth) (format : ImageFormat) :
    Method Throwable (Objects σ) Unit := do
  rotateStep image rotation
  depthStep image bitDepth
  formatStep image format
  onImage image.performTransformation

theorem run_transformImage_unsized :
    EStateM.run (transformImage fp image none rotation bitDepth format) ⟨created, none⟩ =
      EStateM.run (afterSizing image rotation bitDepth format) ⟨created, none⟩ := rfl

/-- The steps after the region step. -/
def afterRegion (fp : Rounding) (image : ImageMethods σ)
    (size : Option ResizeParameters) (rotation : Option RotationParameters)
    (bitDepth : Option ImageBitDepth) (format : ImageFormat) :
    Method Throwable (Objects σ) Unit := do
  let resolved ← resolveSize fp image size
  scaleStep image resolved
  afterSizing image rotation bitDepth format

theorem transformImage_eq (fp : Rounding) (image : ImageMethods σ)
    (size : Option ResizeParameters) (rotation : Option RotationParameters)
    (bitDepth : Option ImageBitDepth) (format : ImageFormat) :
    transformImage fp image size rotation bitDepth format = (do
      regionStep fp image
      afterRegion fp image size rotation bitDepth format) := rfl

/-- A size is resolved against the dimensions of the region, if there is one. -/
theorem run_afterRegion_sized (reports : Reports image created width height)
    (parameters : ResizeParameters) (region : Option RegionParameters) :
    EStateM.run (afterRegion fp image (some parameters) rotation bitDepth format)
        ⟨created, region⟩ =
      match parameters.resolve fp (fp.ofInt (sizingDimensions region width height).1)
          (fp.ofInt (sizingDimensions region width height).2) with
      | .error exception => .error exception ⟨created, region⟩
      | .ok resolved => EStateM.run (do
          onImage (image.scale resolved)
          afterSizing image rotation bitDepth format) ⟨created, region⟩ := by
  have dimensions : EStateM.run (sourceDimensions image) ⟨created, region⟩ =
      .ok (sizingDimensions region width height) ⟨created, region⟩ := by
    rw [sourceDimensions, Method.run_reads_bind]
    cases region with
    | some region => rfl
    | none =>
        simp only [Method.run_bind_ok (reports.onImage_getWidth _),
          Method.run_bind_ok (reports.onImage_getHeight _)]
        rfl
  cases resolution : parameters.resolve fp (fp.ofInt (sizingDimensions region width height).1)
      (fp.ofInt (sizingDimensions region width height).2) with
  | error exception =>
      have refused : EStateM.run (resolveSize fp image (some parameters)) ⟨created, region⟩ =
          .error exception ⟨created, region⟩ := by
        rw [resolveSize, Method.run_bind_ok dimensions]
        simp only [resolution, Method.run_ofExcept_error_bind]
      rw [afterRegion, Method.run_bind_error refused]
  | ok resolved =>
      have returned : EStateM.run (resolveSize fp image (some parameters)) ⟨created, region⟩ =
          .ok (some resolved) ⟨created, region⟩ := by
        rw [resolveSize, Method.run_bind_ok dimensions]
        simp only [resolution, Method.run_ofExcept_ok_bind]
        rfl
      have wants : wantsScaling resolved = true := by
        simp [wantsScaling, ResizeParameters.resolve_maxSizes resolution]
      rw [afterRegion, Method.run_bind_ok returned, scaleStep, if_pos wants]

/-- A size of the whole image is resolved against the dimensions of the image. -/
theorem run_transformImage_sized (reports : Reports image created width height)
    (parameters : ResizeParameters) :
    EStateM.run (transformImage fp image (some parameters) rotation bitDepth format)
        ⟨created, none⟩ =
      match parameters.resolve fp (fp.ofInt width) (fp.ofInt height) with
      | .error exception => .error exception ⟨created, none⟩
      | .ok resolved => EStateM.run (do
          onImage (image.scale resolved)
          afterSizing image rotation bitDepth format) ⟨created, none⟩ := by
  rw [transformImage_eq, Method.run_bind_ok regionStep_none]
  exact run_afterRegion_sized reports parameters none

end ImageService

/-! ## The methods of the backend -/

namespace JAIImage

open ImageService

variable {δ α : Type} {io : ImageIo δ α} {fp : Rounding} {self after : JAIImage α}
variable {dimensions : ℤ × ℤ}

/-- The image has the given dimensions and the format of a JPEG file. -/
structure Shows (shown : JAIImage α) (dimensions : ℤ × ℤ) : Prop where
  decoded : ∃ image, shown.image = some image ∧
    ((image.raster.width : ℤ), (image.raster.height : ℤ)) = dimensions
  format : getFormatFromString shown.formatString = some .jpeg

theorem Shows.reports (shows : Shows self dimensions) :
    Reports (methods io fp) self dimensions.1 dimensions.2 := by
  rcases shows with ⟨⟨image, present, rfl⟩, -⟩
  exact ⟨run_getWidth present, run_getHeight present⟩

/-- Scaling that returns leaves the dimensions of the target, which are positive. -/
theorem Shows.run_scale (shows : Shows self dimensions) {target : ResizeParameters}
    (ran : EStateM.run (scale io target) self = .ok ⟨⟩ after) :
    Shows after (target.width, target.height) ∧ 1 ≤ target.width ∧ 1 ≤ target.height := by
  rcases shows with ⟨⟨image, present, rfl⟩, format⟩
  have widthPos := image.width_pos
  have heightPos := image.height_pos
  by_cases same : ((image.raster.width : ℤ), (image.raster.height : ℤ)) =
      (target.width, target.height)
  · rw [run_scale_of_same io present same] at ran
    cases ran
    rcases Prod.mk.inj same with ⟨sameWidth, sameHeight⟩
    exact ⟨⟨⟨image, present, same⟩, format⟩, by omega, by omega⟩
  by_cases accepted : (1 ≤ target.width ∧ 1 ≤ target.height) ∧
      target.width * target.height < maxInt
  · rcases run_scale_of_differs io present same accepted.1.1 accepted.1.2 accepted.2 with
      ⟨resized, returned, size, -⟩
    rw [ran] at returned
    cases returned
    exact ⟨⟨⟨resized, rfl, size⟩, format⟩, accepted.1⟩
  · rcases run_scale_of_refused io present same accepted with ⟨exception, thrown, -⟩
    rw [ran] at thrown
    cases thrown

theorem Shows.run_flipHorizontally (shows : Shows self dimensions)
    (ran : EStateM.run (flipHorizontally io) self = .ok ⟨⟩ after) :
    Shows after dimensions := by
  rcases shows with ⟨⟨image, present, rfl⟩, format⟩
  by_cases creatable : BufferedImage.Creatable image.type image.raster.width image.raster.height
  · rcases run_flipHorizontally_of_creatable io present creatable with ⟨flipped, returned, size⟩
    rw [ran] at returned
    cases returned
    exact ⟨⟨flipped, rfl, size⟩, format⟩
  · rcases run_flipHorizontally_of_not_creatable io present creatable with
      ⟨exception, thrown, -⟩
    rw [ran] at thrown
    cases thrown

theorem Shows.run_toDepth (shows : Shows self dimensions) {depth : ImageBitDepth}
    (ran : EStateM.run (toDepth io depth) self = .ok ⟨⟩ after) :
    Shows after dimensions := by
  rcases shows with ⟨⟨image, present, rfl⟩, format⟩
  by_cases creatable : BufferedImage.Creatable (depthType depth) image.raster.width
      image.raster.height
  · rcases run_toDepth_of_creatable io present creatable with ⟨drawn, returned, size⟩
    rw [ran] at returned
    cases returned
    exact ⟨⟨drawn, rfl, size⟩, format⟩
  · rcases run_toDepth_of_not_creatable io present creatable with ⟨exception, thrown, -⟩
    rw [ran] at thrown
    cases thrown

/-- A rotation that returns is one by right angles. -/
theorem Shows.run_rotate (shows : Shows self dimensions) {degrees : ℤ} (nonneg : 0 ≤ degrees)
    (ran : EStateM.run (rotate degrees) self = .ok ⟨⟩ after) :
    degrees % 90 = 0 ∧ Shows after (turnedSize degrees dimensions) := by
  rcases shows with ⟨⟨image, present, rfl⟩, format⟩
  by_cases rightAngle : degrees % 90 = 0
  · rcases run_rotate_of_rightAngle present nonneg rightAngle with ⟨turned, returned, size⟩
    rw [ran] at returned
    cases returned
    exact ⟨rightAngle, ⟨turned, rfl, size⟩, format⟩
  · rcases run_rotate_of_oblique self nonneg rightAngle with ⟨message, refused⟩
    rw [ran] at refused
    cases refused

/-! ## The whole request -/

variable {size : Option ResizeParameters} {rotation : RotationParameters}
variable {bitDepth : Option ImageBitDepth} {region : Option RegionParameters}
variable {final : Objects (JAIImage α)}

/-- The operations after the sizing step keep the dimensions, up to an exchange of the
sides, and do not write another file. -/
theorem Shows.run_afterSizing (shows : Shows self dimensions) (nonneg : 0 ≤ rotation.degrees)
    (ran : EStateM.run (afterSizing (methods io fp) (some rotation) bitDepth .jpeg)
      ⟨self, region⟩ = .ok ⟨⟩ final) :
    rotation.degrees % 90 = 0 ∧
      Shows final.image (turnedSize rotation.degrees dimensions) := by
  rcases Method.run_bind_eq_ok.mp ran with ⟨_, turned, rotateRan, rest⟩
  rcases Method.run_bind_eq_ok.mp rest with ⟨_, deep, depthRan, rest⟩
  rcases Method.run_bind_eq_ok.mp rotateRan with ⟨_, mirrored, mirrorRan, turnRan⟩
  have mirroredShows : Shows mirrored.image dimensions := by
    rw [mirrorStep] at mirrorRan
    split at mirrorRan
    · rcases run_onImage_eq_ok.mp mirrorRan with ⟨image, flipped, rfl⟩
      exact shows.run_flipHorizontally flipped
    · cases mirrorRan
      exact shows
  have turnedShows : rotation.degrees % 90 = 0 ∧
      Shows turned.image (turnedSize rotation.degrees dimensions) := by
    rw [turnStep] at turnRan
    split at turnRan
    · rcases run_onImage_eq_ok.mp turnRan with ⟨image, rotated, rfl⟩
      exact mirroredShows.run_rotate nonneg rotated
    next upright =>
      cases turnRan
      rw [turnedSize, if_neg (by omega)]
      exact ⟨by omega, mirroredShows⟩
  have deepShows : Shows deep.image (turnedSize rotation.degrees dimensions) := by
    cases bitDepth with
    | none =>
        cases depthRan
        exact turnedShows.2
    | some depth =>
        rcases run_onImage_eq_ok.mp depthRan with ⟨image, drawn, rfl⟩
        exact turnedShows.2.run_toDepth drawn
  have formatRead : EStateM.run (methods io fp).getFormat deep.image =
      .ok (some .jpeg) deep.image := congrArg (EStateM.Result.ok · deep.image) deepShows.format
  have kept : EStateM.run (formatStep (methods io fp) .jpeg) deep = .ok ⟨⟩ deep :=
    run_formatStep formatRead
  rw [Method.run_bind_ok kept] at rest
  rcases run_onImage_eq_ok.mp rest with ⟨image, performed, rfl⟩
  cases performed
  exact ⟨turnedShows.1, deepShows⟩

/-- A request for a whole JPEG file that returns has resolved its size to positive
dimensions, rotates by right angles and returns these dimensions rotated. -/
theorem Shows.run_transformImage (shows : Shows self dimensions)
    (nonneg : 0 ≤ rotation.degrees)
    (ran : EStateM.run (transformImage fp (methods io fp) size (some rotation) bitDepth .jpeg)
      ⟨self, none⟩ = .ok ⟨⟩ final) :
    ∃ target, requestedSize fp size dimensions.1 dimensions.2 = .ok target ∧
      (1 ≤ target.1 ∧ 1 ≤ target.2) ∧ rotation.degrees % 90 = 0 ∧
      Shows final.image (turnedSize rotation.degrees target) := by
  cases size with
  | none =>
      rcases shows.decoded with ⟨image, present, same⟩
      have widthPos := image.width_pos
      have heightPos := image.height_pos
      refine ⟨dimensions, rfl, ?_, shows.run_afterSizing nonneg ran⟩
      rw [← same]
      dsimp only
      omega
  | some parameters =>
      rw [run_transformImage_sized shows.reports] at ran
      cases resolution : parameters.resolve fp (fp.ofInt dimensions.1)
          (fp.ofInt dimensions.2) with
      | error exception =>
          rw [resolution] at ran
          cases ran
      | ok resolved =>
          rw [resolution] at ran
          rcases Method.run_bind_eq_ok.mp ran with ⟨_, mid, scaledRan, rest⟩
          rcases run_onImage_eq_ok.mp scaledRan with ⟨image, scaled, rfl⟩
          rcases shows.run_scale scaled with ⟨scaledShows, positive⟩
          refine ⟨(resolved.width, resolved.height), ?_, positive,
            scaledShows.run_afterSizing nonneg rest⟩
          rw [requestedSize, resolution]
          rfl

/-! A size alone is carried out if it is positive and not too large. -/

theorem Shows.scale_returns (shows : Shows self dimensions) (io : ImageIo δ α)
    {target : ResizeParameters} (wide : 1 ≤ target.width) (tall : 1 ≤ target.height)
    (small : target.width * target.height < maxInt) :
    ∃ after, EStateM.run (scale io target) self = .ok ⟨⟩ after := by
  rcases shows with ⟨⟨image, present, -⟩, -⟩
  by_cases same : ((image.raster.width : ℤ), (image.raster.height : ℤ)) =
      (target.width, target.height)
  · exact ⟨_, run_scale_of_same io present same⟩
  · rcases run_scale_of_differs io present same wide tall small with ⟨resized, returned, -⟩
    exact ⟨_, returned⟩

theorem Shows.afterSizing_upright (shows : Shows self dimensions) (io : ImageIo δ α)
    (fp : Rounding) :
    EStateM.run (afterSizing (methods io fp) (some ⟨0, false⟩) none .jpeg) ⟨self, region⟩ =
      .ok ⟨⟩ ⟨self, region⟩ := by
  have formatRead : EStateM.run (methods io fp).getFormat self = .ok (some .jpeg) self :=
    congrArg (EStateM.Result.ok · self) shows.format
  have kept : EStateM.run (formatStep (methods io fp) .jpeg) ⟨self, region⟩ =
      .ok ⟨⟩ ⟨self, region⟩ := run_formatStep formatRead
  exact Method.run_bind_ok kept

theorem Shows.transformImage_upright (shows : Shows self dimensions) (io : ImageIo δ α)
    (fp : Rounding) {target : ℤ × ℤ}
    (requests : requestedSize fp size dimensions.1 dimensions.2 = .ok target)
    (positive : 1 ≤ target.1 ∧ 1 ≤ target.2) (small : target.1 * target.2 < maxInt) :
    ∃ final, EStateM.run (transformImage fp (methods io fp) size (some ⟨0, false⟩) none .jpeg)
      ⟨self, none⟩ = .ok ⟨⟩ final := by
  cases size with
  | none => exact ⟨_, shows.afterSizing_upright io fp⟩
  | some parameters =>
      rcases Method.except_bind_eq_ok.mp requests with ⟨resolved, resolves, sized⟩
      cases sized
      rcases shows.scale_returns io positive.1 positive.2 small with ⟨after, scaled⟩
      have scaleCalled : EStateM.run (onImage ((methods io fp).scale resolved)) ⟨self, none⟩ =
          .ok ⟨⟩ ⟨after, none⟩ := Method.run_on_ok scaled
      rw [run_transformImage_sized shows.reports, resolves]
      dsimp only
      rw [Method.run_bind_ok scaleCalled]
      exact ⟨_, (shows.run_scale scaled).1.afterSizing_upright io fp⟩

end JAIImage

end IiifImage
