import IiifImage.Crops.ImageIo
import IiifImage.Requests.PlainPath
import IiifImage.Sizes.Grammar
import IiifImage.Sizes.Resolution

/-!
# Outcomes on the ImageIO backend

What each step of a request does with an image: it returns, it throws one of the checked
exceptions that report a mistake of the client, or another exception escapes.  Libraries
check their arguments with unchecked exceptions, and the steps pass most of their arguments
on without looking at them.
-/

namespace IiifImage

open Java ImageService BufferedImage

/-- The call returns or throws a client error. -/
def EndsWell {σ α : Type} : EStateM.Result Throwable σ α → Prop
  | .ok _ _ => True
  | .error exception _ => exception.isClientError = true

theorem not_endsWell {σ α : Type} {exception : Throwable} {state : σ}
    (unchecked : exception.isClientError = false) :
    ¬EndsWell (.error exception state : EStateM.Result Throwable σ α) := by
  simp [EndsWell, unchecked]

/-! ## Rotation, bit depth and format -/

/-- The angle is a multiple of a right angle, and the images that mirroring and the change
of the bit depth draw into can be created. -/
def CanDraw (rotation : RotationParameters) (bitDepth : Option ImageBitDepth)
    (type : ImageType) (size : ℤ × ℤ) : Prop :=
  rotation.degrees % 90 = 0 ∧
    (rotation.mirrorHorizontally = true → BufferedImage.Creatable type size.1 size.2) ∧
    ∀ depth ∈ bitDepth, BufferedImage.Creatable (JAIImage.depthType depth) size.1 size.2

/-- A writer for the format and the readers handle every image without an exception. -/
def Converts {δ α : Type} (io : ImageIo δ α) (format : ImageFormat) : Prop :=
  ∀ image : BufferedImage α, ∃ data converted,
    JAIImage.write io image (Text.toLowerCase format.name) = .ok data ∧
      JAIImage.read io data = .ok converted

namespace JAIImage

section Orientation

variable {δ α : Type} {io : ImageIo δ α} {fp : Rounding} {self : JAIImage α}
variable {image : BufferedImage α} {region : Option RegionParameters}
variable {rotation : RotationParameters} {format : ImageFormat}

theorem run_mirrorStep (io : ImageIo δ α) (fp : Rounding)
    (region : Option RegionParameters) (present : self.image = some image)
    (creatable : rotation.mirrorHorizontally = true →
      Creatable image.type image.raster.width image.raster.height) :
    ∃ flipped, EStateM.run (mirrorStep (methods io fp) rotation) ⟨self, region⟩ =
        .ok ⟨⟩ ⟨{ self with image := some flipped }, region⟩ ∧
      ((flipped.raster.width : ℤ), (flipped.raster.height : ℤ)) =
        (↑image.raster.width, ↑image.raster.height) := by
  rw [mirrorStep]
  split
  next mirrored =>
    rcases run_flipHorizontally_of_creatable io present (creatable mirrored) with
      ⟨flipped, returned, size⟩
    exact ⟨flipped, Method.run_on_ok returned, size⟩
  next =>
    refine ⟨image, ?_, rfl⟩
    rw [← present]
    rfl

theorem run_mirrorStep_of_not_creatable (io : ImageIo δ α) (fp : Rounding)
    (region : Option RegionParameters) (present : self.image = some image)
    (mirrored : rotation.mirrorHorizontally = true)
    (oversized : ¬Creatable image.type image.raster.width image.raster.height) :
    ∃ exception, EStateM.run (mirrorStep (methods io fp) rotation) ⟨self, region⟩ =
        .error exception ⟨self, region⟩ ∧ exception.isClientError = false := by
  rcases run_flipHorizontally_of_not_creatable io present oversized with
    ⟨exception, refused, unchecked⟩
  rw [mirrorStep, if_pos mirrored]
  exact ⟨exception, Method.run_on_error refused, unchecked⟩

theorem run_turnStep (io : ImageIo δ α) (fp : Rounding)
    (region : Option RegionParameters) (present : self.image = some image)
    (nonneg : 0 ≤ rotation.degrees) (rightAngle : rotation.degrees % 90 = 0) :
    ∃ turned, EStateM.run (turnStep (methods io fp) rotation) ⟨self, region⟩ =
        .ok ⟨⟩ ⟨{ self with image := some turned }, region⟩ ∧
      ((turned.raster.width : ℤ), (turned.raster.height : ℤ)) =
        turnedSize rotation.degrees (↑image.raster.width, ↑image.raster.height) := by
  rw [turnStep]
  split
  · rcases run_rotate_of_rightAngle present nonneg rightAngle with ⟨turned, returned, size⟩
    exact ⟨turned, Method.run_on_ok returned, size⟩
  next upright =>
    refine ⟨image, ?_, ?_⟩
    · rw [← present]
      rfl
    · rw [turnedSize, if_neg (by omega)]

theorem run_turnStep_of_oblique (io : ImageIo δ α) (fp : Rounding) (self : JAIImage α)
    (region : Option RegionParameters) (nonneg : 0 ≤ rotation.degrees)
    (oblique : rotation.degrees % 90 ≠ 0) :
    ∃ message, EStateM.run (turnStep (methods io fp) rotation) ⟨self, region⟩ =
      .error (.unsupportedOperation message) ⟨self, region⟩ := by
  rcases run_rotate_of_oblique self nonneg oblique with ⟨message, refused⟩
  rw [turnStep, if_pos (by omega)]
  exact ⟨message, Method.run_on_error refused⟩

theorem creatable_turnedSize_iff (depth : ImageBitDepth) (degrees : ℤ)
    (image : BufferedImage α) :
    Creatable (depthType depth)
        (turnedSize degrees (↑image.raster.width, ↑image.raster.height)).1
        (turnedSize degrees (↑image.raster.width, ↑image.raster.height)).2 ↔
      Creatable (depthType depth) image.raster.width image.raster.height := by
  rw [turnedSize]
  split
  · exact creatable_depthType_comm depth (Int.natCast_pos.mpr image.width_pos)
      (Int.natCast_pos.mpr image.height_pos)
  · rfl

theorem run_depthStep (io : ImageIo δ α) (fp : Rounding)
    (region : Option RegionParameters) (present : self.image = some image)
    {bitDepth : Option ImageBitDepth}
    (creatable : ∀ depth ∈ bitDepth,
      Creatable (depthType depth) image.raster.width image.raster.height) :
    ∃ drawn, EStateM.run (depthStep (methods io fp) bitDepth) ⟨self, region⟩ =
      .ok ⟨⟩ ⟨{ self with image := some drawn }, region⟩ := by
  cases bitDepth with
  | none =>
      refine ⟨image, ?_⟩
      rw [← present]
      rfl
  | some depth =>
      rcases run_toDepth_of_creatable io present (creatable depth rfl) with
        ⟨drawn, returned, -⟩
      exact ⟨drawn, Method.run_on_ok returned⟩

theorem run_depthStep_of_not_creatable (io : ImageIo δ α) (fp : Rounding)
    (region : Option RegionParameters) (present : self.image = some image)
    {bitDepth : Option ImageBitDepth}
    (oversized : ¬∀ depth ∈ bitDepth,
      Creatable (depthType depth) image.raster.width image.raster.height) :
    ∃ exception, EStateM.run (depthStep (methods io fp) bitDepth) ⟨self, region⟩ =
        .error exception ⟨self, region⟩ ∧ exception.isClientError = false := by
  cases bitDepth with
  | none => exact absurd (fun depth absent => by cases absent) oversized
  | some depth =>
      have tooLarge : ¬Creatable (depthType depth) image.raster.width image.raster.height := by
        intro creatable
        apply oversized
        intro other same
        cases same
        exact creatable
      rcases run_toDepth_of_not_creatable io present tooLarge with
        ⟨exception, refused, unchecked⟩
      exact ⟨exception, Method.run_on_error refused, unchecked⟩

theorem run_formatStep_of_converts (fp : Rounding) (region : Option RegionParameters)
    (present : self.image = some image) (converts : Converts io format) :
    ∃ final, EStateM.run (formatStep (methods io fp) format) ⟨self, region⟩ =
      .ok ⟨⟩ final := by
  by_cases same : getFormatFromString self.formatString = some format
  · refine ⟨_, run_formatStep ?_⟩
    rw [← same]
    rfl
  · rcases converts image with ⟨data, converted, written, readBack⟩
    exact ⟨_, run_formatStep_of_written fp region present same written readBack⟩

/-- After the sizing step the request ends well exactly when the rotation and the change of
the bit depth can be carried out. -/
theorem endsWell_afterSizing_iff (region : Option RegionParameters)
    (present : self.image = some image) (nonneg : 0 ≤ rotation.degrees)
    (converts : Converts io format) (bitDepth : Option ImageBitDepth) :
    EndsWell (EStateM.run (afterSizing (methods io fp) (some rotation) bitDepth format)
        ⟨self, region⟩) ↔
      CanDraw rotation bitDepth image.type (image.raster.width, image.raster.height) := by
  rw [afterSizing, rotateStep, bind_assoc]
  by_cases mirrors : rotation.mirrorHorizontally = true →
      Creatable image.type image.raster.width image.raster.height
  case neg =>
    rcases Classical.not_imp.mp mirrors with ⟨mirrored, oversized⟩
    rcases run_mirrorStep_of_not_creatable io fp region present mirrored oversized with
      ⟨exception, thrown, unchecked⟩
    rw [Method.run_bind_error thrown]
    exact iff_of_false (not_endsWell unchecked) fun can => mirrors can.2.1
  rcases run_mirrorStep io fp region present mirrors with ⟨flipped, mirrored, flippedSize⟩
  rw [Method.run_bind_ok mirrored]
  have holds : ∀ other, ({ self with image := some other } : JAIImage α).image =
      some other := fun _ => rfl
  by_cases rightAngle : rotation.degrees % 90 = 0
  case neg =>
    rcases run_turnStep_of_oblique io fp { self with image := some flipped } region nonneg
      rightAngle with ⟨message, thrown⟩
    rw [Method.run_bind_error thrown]
    exact iff_of_false (not_endsWell rfl) fun can => rightAngle can.1
  obtain ⟨turned, returned, turnedDimensions⟩ :=
    run_turnStep io fp region (holds flipped) nonneg rightAngle
  rw [Method.run_bind_ok returned]
  -- turning does not change whether an image of a depth can be created
  rcases Prod.mk.inj turnedDimensions with ⟨turnedWidth, turnedHeight⟩
  have turnedCreatable : ∀ depth, Creatable (depthType depth) turned.raster.width
      turned.raster.height ↔
        Creatable (depthType depth) image.raster.width image.raster.height := by
    intro depth
    rw [turnedWidth, turnedHeight, flippedSize]
    exact creatable_turnedSize_iff depth rotation.degrees image
  by_cases deepens : ∀ depth ∈ bitDepth,
      Creatable (depthType depth) image.raster.width image.raster.height
  case neg =>
    simp only [← turnedCreatable] at deepens
    rcases run_depthStep_of_not_creatable io fp region (holds turned) deepens with
      ⟨exception, thrown, unchecked⟩
    rw [Method.run_bind_error thrown]
    exact iff_of_false (not_endsWell unchecked) fun can => deepens fun depth given =>
      (turnedCreatable depth).mpr (can.2.2 depth given)
  obtain ⟨drawn, deep⟩ := run_depthStep io fp region (holds turned) fun depth given =>
    (turnedCreatable depth).mpr (deepens depth given)
  obtain ⟨final, converted⟩ := run_formatStep_of_converts fp region (holds drawn) converts
  rw [Method.run_bind_ok deep, Method.run_bind_ok converted]
  exact iff_of_true trivial ⟨rightAngle, mirrors, deepens⟩

end Orientation

end JAIImage

/-! ## Sizing -/

/-- A size that is resolved against given dimensions, a rotation and a bit depth can be
carried out on an image of a given type and given dimensions, or the size is refused. -/
def CanFinish (fp : Rounding) (size : Option ResizeParameters) (rotation : RotationParameters)
    (bitDepth : Option ImageBitDepth) (type : ImageType) (source dimensions : ℤ × ℤ) : Prop :=
  match size with
  | none => CanDraw rotation bitDepth type dimensions
  | some parameters => ∀ resolved,
      parameters.resolve fp (fp.ofInt source.1) (fp.ofInt source.2) = .ok resolved →
        if dimensions = (resolved.width, resolved.height) then
          CanDraw rotation bitDepth type dimensions
        else
          ((1 ≤ resolved.width ∧ 1 ≤ resolved.height) ∧
              resolved.width * resolved.height < maxInt) ∧
            CanDraw rotation bitDepth .intRgb (resolved.width, resolved.height)

/-- A size is refused as an invalid parameter. -/
theorem ResizeParameters.resolve_error {fp : Rounding} {parameters : ResizeParameters}
    {currentWidth currentHeight : JFloat} {exception : Throwable}
    (refused : parameters.resolve fp currentWidth currentHeight = .error exception) :
    exception.isClientError = true := by
  rw [resolve] at refused
  by_cases resolvable : parameters.Resolvable
  · rcases calculated_of_resolvable resolvable with ⟨targets, computed⟩
    rw [computed] at refused
    cases refused
  · rw [calculated_of_not_resolvable resolvable] at refused
    cases refused
    rfl

namespace JAIImage

section Finishing

variable {δ α : Type} {io : ImageIo δ α} {fp : Rounding} {self : JAIImage α}
variable {image : BufferedImage α} {rotation : RotationParameters} {format : ImageFormat}

/-- The type of a scaled image has one element of the data array for each pixel. -/
theorem canDraw_optimalType_iff {bitDepth : Option ImageBitDepth} {size : ℤ × ℤ} :
    CanDraw rotation bitDepth image.optimalType size ↔ CanDraw rotation bitDepth .intRgb size := by
  have creatable : Creatable .intRgb size.1 size.2 ↔ size.1 * size.2 < maxInt :=
    ⟨fun creatable => creatable.2.1, fun small => ⟨by decide, small, small.le⟩⟩
  rw [CanDraw, CanDraw, creatable_optimalType_iff, creatable]

/-- After the region step the request ends well exactly when its size, its rotation and its
bit depth can be carried out. -/
theorem endsWell_afterRegion_iff (region : Option RegionParameters)
    (present : self.image = some image) (nonneg : 0 ≤ rotation.degrees)
    (converts : Converts io format) (size : Option ResizeParameters)
    (bitDepth : Option ImageBitDepth) :
    EndsWell (EStateM.run (afterRegion fp (methods io fp) size (some rotation) bitDepth format)
        ⟨self, region⟩) ↔
      CanFinish fp size rotation bitDepth image.type
        (sizingDimensions region image.raster.width image.raster.height)
        (image.raster.width, image.raster.height) := by
  cases size with
  | none => exact endsWell_afterSizing_iff region present nonneg converts bitDepth
  | some parameters =>
      rw [run_afterRegion_sized (reports_of_present present), CanFinish]
      cases resolution : parameters.resolve fp
          (fp.ofInt (sizingDimensions region image.raster.width image.raster.height).1)
          (fp.ofInt (sizingDimensions region image.raster.width image.raster.height).2) with
      | error exception =>
          exact iff_of_true (ResizeParameters.resolve_error resolution) fun resolved returned => by
            cases returned
      | ok resolved =>
          dsimp only
          simp only [Except.ok.injEq, forall_eq']
          split
          next same =>
            have unchanged : EStateM.run (onImage ((methods io fp).scale resolved))
                ⟨self, region⟩ = .ok ⟨⟩ ⟨self, region⟩ :=
              Method.run_on_ok (run_scale_of_same io present same)
            rw [Method.run_bind_ok unchanged]
            exact endsWell_afterSizing_iff region present nonneg converts bitDepth
          next differs =>
            by_cases accepted : (1 ≤ resolved.width ∧ 1 ≤ resolved.height) ∧
                resolved.width * resolved.height < maxInt
            · obtain ⟨resized, scaled, size', type⟩ := run_scale_of_differs io present differs
                accepted.1.1 accepted.1.2 accepted.2
              have called : EStateM.run (onImage ((methods io fp).scale resolved))
                  ⟨self, region⟩ = .ok ⟨⟩ ⟨{ self with image := some resized }, region⟩ :=
                Method.run_on_ok scaled
              have holds : ({ self with image := some resized } : JAIImage α).image =
                some resized := rfl
              rw [Method.run_bind_ok called,
                endsWell_afterSizing_iff region holds nonneg converts bitDepth, size', type,
                canDraw_optimalType_iff, and_iff_right accepted]
            · rcases run_scale_of_refused io present differs accepted with
                ⟨exception, refused, unchecked⟩
              have thrown : EStateM.run (onImage ((methods io fp).scale resolved))
                  ⟨self, region⟩ = .error exception ⟨self, region⟩ :=
                Method.run_on_error refused
              rw [Method.run_bind_error thrown]
              exact iff_of_false (not_endsWell unchecked) fun can => accepted can.1

end Finishing

end JAIImage

/-! ## The region step -/

/-- The crop step is carried out. -/
def RegionParameters.Differs (fp : Rounding) (width height : ℤ) (region : RegionParameters) :
    Prop :=
  ((fp.ofInt width).ne region.width || (fp.ofInt height).ne region.height) = true

instance (fp : Rounding) (width height : ℤ) (region : RegionParameters) :
    Decidable (region.Differs fp width height) := inferInstanceAs (Decidable (_ = _))

/-- A region that is absolute for an image of given dimensions is rejected or can be cut
out, and the rest of the request can be carried out on what is left. -/
def CanCrop (fp : Rounding) (size : Option ResizeParameters) (rotation : RotationParameters)
    (bitDepth : Option ImageBitDepth) (type : ImageType) (width height : ℤ)
    (region : RegionParameters) : Prop :=
  if region.Differs fp width height then
    region.StartsOutside width height ∨
      region.TargetFits width height ∧
        CanFinish fp size rotation bitDepth type (region.width.toInt, region.height.toInt)
          (region.clamped width height)
  else
    CanFinish fp size rotation bitDepth type (region.width.toInt, region.height.toInt)
      (width, height)

namespace JAIImage

section Region

variable {δ α : Type} {io : ImageIo δ α} {fp : Rounding} {self : JAIImage α}
variable {image : BufferedImage α} {rotation : RotationParameters} {format : ImageFormat}
variable {region : RegionParameters}

/-- From the crop step on the request ends well exactly when the region can be cut out and
the rest can be carried out. -/
theorem endsWell_cropStep_iff (present : self.image = some image)
    (absolute : region.absolute = true) (nonneg : 0 ≤ rotation.degrees)
    (converts : Converts io format) (size : Option ResizeParameters)
    (bitDepth : Option ImageBitDepth) :
    EndsWell (EStateM.run (do
        cropStep fp (methods io fp)
        afterRegion fp (methods io fp) size (some rotation) bitDepth format)
        ⟨self, some region⟩) ↔
      CanCrop fp size rotation bitDepth image.type image.raster.width image.raster.height
        region := by
  have step : EStateM.run (cropStep fp (methods io fp)) ⟨self, some region⟩ =
      if region.Differs fp image.raster.width image.raster.height then
        EStateM.run (onImage ((methods io fp).crop region)) ⟨self, some region⟩
      else .ok ⟨⟩ ⟨self, some region⟩ :=
    run_cropStep (reports_of_present present) region
  rw [CanCrop]
  split
  next differs =>
    rw [if_pos differs] at step
    by_cases starts : region.StartsOutside image.raster.width image.raster.height
    · rcases run_crop_of_startsOutside fp present absolute starts with ⟨message, thrown⟩
      have refused : EStateM.run (onImage ((methods io fp).crop region)) ⟨self, some region⟩ =
          .error (.invalidParameters message) ⟨self, some region⟩ := Method.run_on_error thrown
      rw [Method.run_bind_error (step.trans refused)]
      exact iff_of_true rfl (.inl starts)
    rw [or_iff_right starts]
    by_cases fits : region.TargetFits image.raster.width image.raster.height
    · obtain ⟨part, returned, size', type⟩ :=
        run_crop_of_targetFits fp present absolute starts fits
      have cropped : EStateM.run (onImage ((methods io fp).crop region)) ⟨self, some region⟩ =
          .ok ⟨⟩ ⟨{ self with image := some part }, some region⟩ := Method.run_on_ok returned
      have holds : ({ self with image := some part } : JAIImage α).image = some part := rfl
      rw [Method.run_bind_ok (step.trans cropped),
        endsWell_afterRegion_iff (some region) holds nonneg converts size bitDepth, type, size',
        and_iff_right fits]
      rfl
    · have thrown := run_crop_of_target_misses fp present absolute starts fits
      have escaped : EStateM.run (onImage ((methods io fp).crop region)) ⟨self, some region⟩ =
          .error (.rasterFormat none) ⟨self, some region⟩ := Method.run_on_error thrown
      rw [Method.run_bind_error (step.trans escaped)]
      exact iff_of_false (not_endsWell rfl) fun can => fits can.1
  next same =>
    rw [if_neg same] at step
    rw [Method.run_bind_ok step,
      endsWell_afterRegion_iff (some region) present nonneg converts size bitDepth]
    rfl

end Region

end JAIImage

/-- The request for a region ends well on an image of given dimensions that the reader has
returned. -/
def CanServe (fp : Rounding) (size : Option ResizeParameters) (rotation : RotationParameters)
    (bitDepth : Option ImageBitDepth) (type : ImageType) (width height : ℤ) :
    Option RegionParameters → Prop
  | none => CanFinish fp size rotation bitDepth type (width, height) (width, height)
  | some region =>
      (region.absolute = false ∧ region.Outlies fp width height) ∨
        CanCrop fp size rotation bitDepth type width height
          (region.absoluteOf fp width height)

namespace JAIImage

variable {δ α : Type} {io : ImageIo δ α} {fp : Rounding} {self : JAIImage α}
variable {image : BufferedImage α} {rotation : RotationParameters} {format : ImageFormat}

/-- The transformation of an image ends well exactly when the region, the size, the rotation
and the bit depth can be carried out. -/
theorem endsWell_transformImage_iff (fp : Rounding) (present : self.image = some image)
    (nonneg : 0 ≤ rotation.degrees) (converts : Converts io format)
    (region : Option RegionParameters) (size : Option ResizeParameters)
    (bitDepth : Option ImageBitDepth) :
    EndsWell (EStateM.run (transformImage fp (methods io fp) size (some rotation) bitDepth
        format) ⟨self, region⟩) ↔
      CanServe fp size rotation bitDepth image.type image.raster.width image.raster.height
        region := by
  rw [transformImage_eq]
  cases region with
  | none =>
      rw [Method.run_bind_ok regionStep_none]
      exact endsWell_afterRegion_iff none present nonneg converts size bitDepth
  | some region =>
      have reports : Reports (methods io fp) self image.raster.width image.raster.height :=
        reports_of_present present
      rw [CanServe, regionStep, bind_assoc]
      by_cases refused : region.absolute = false ∧
          region.Outlies fp image.raster.width image.raster.height
      · obtain ⟨message, final, thrown⟩ :=
          run_absoluteStep_of_outlies reports refused.1 refused.2
        rw [Method.run_bind_error thrown]
        exact iff_of_true rfl (.inl refused)
      · rw [Method.run_bind_ok (run_absoluteStep_of_accepted reports refused),
          or_iff_right refused]
        exact endsWell_cropStep_iff present RegionParameters.absolute_absoluteOf nonneg converts
          size bitDepth

end JAIImage

end IiifImage
