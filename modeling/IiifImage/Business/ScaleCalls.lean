import IiifImage.Business.Simulation

/-!
# The scale calls of a request

`transformImage` runs on any implementation of the image interface.  Running it on
the recording version of an image shows which sizes it asks the image for: none if an
earlier step throws, and otherwise the one that the size request resolves to.
-/

namespace IiifImage.ImageService

open Java

variable {σ : Type}

def logged (objects : Objects (σ × List ResizeParameters)) : List ResizeParameters :=
  objects.image.2

/-- The objects with an empty log. -/
def recording (objects : Objects σ) : Objects (σ × List ResizeParameters) :=
  ⟨(objects.image, []), objects.region⟩

/-- The sizes that `transformImage` passes to `scale`, one for each call. -/
def scaleCalls (fp : Rounding) (image : ImageMethods σ)
    (sizeParameters : Option ResizeParameters)
    (rotationParameters : Option RotationParameters)
    (bitDepthParameter : Option ImageBitDepth) (formatParameter : ImageFormat)
    (objects : Objects σ) : List ResizeParameters :=
  logged (Method.finalState (EStateM.run (transformImage fp image.recordScale sizeParameters
    rotationParameters bitDepthParameter formatParameter) (recording objects)))

/-! ## Steps that do not scale -/

section Steps

variable {α : Type} (fp : Rounding) (image : ImageMethods σ)

theorem onImage_keeps (method : Method Throwable σ α) :
    Method.Keeps logged (onImage (ImageMethods.beside method)) := by
  intro objects
  rw [onImage, Method.run_on, ImageMethods.beside, Method.run_on]
  cases EStateM.run method objects.image.1 <;> rfl

theorem regionStep_keeps : Method.Keeps logged (regionStep fp image.recordScale) := by
  refine .bind (.bind (.reads _) fun region => ?_) fun _ => .bind (.reads _) fun region => ?_
  · cases region with
    | none => exact .pure _
    | some region =>
        refine .ite (.pure _) (.bind (onImage_keeps _) fun width =>
          .bind (onImage_keeps _) fun height => ?_)
        exact .on _ fun _ _ => rfl
  · cases region with
    | none => exact .pure _
    | some region =>
        exact .bind (onImage_keeps _) fun width => .bind (onImage_keeps _) fun height =>
          .ite (onImage_keeps _) (.pure _)

theorem resolveSize_keeps (size : Option ResizeParameters) :
    Method.Keeps logged (resolveSize fp image.recordScale size) := by
  cases size with
  | none => exact .pure _
  | some size =>
      refine .bind (.bind (.reads _) fun region => ?_) fun dimensions =>
        .bind (.ofExcept _) fun _ => .pure _
      cases region with
      | none => exact .bind (onImage_keeps _) fun _ => .bind (onImage_keeps _) fun _ => .pure _
      | some region => exact .pure _

/-- What follows the scaling step scales no more. -/
theorem afterScaling_keeps (rotation : Option RotationParameters)
    (bitDepth : Option ImageBitDepth) (format : ImageFormat) :
    Method.Keeps logged (do
      rotateStep image.recordScale rotation
      depthStep image.recordScale bitDepth
      formatStep image.recordScale format
      onImage image.recordScale.performTransformation) := by
  refine .bind ?_ fun _ => .bind ?_ fun _ => .bind ?_ fun _ => onImage_keeps _
  · cases rotation with
    | none => exact .pure _
    | some rotation =>
        exact .bind (.ite (onImage_keeps _) (.pure _)) fun _ =>
          .ite (onImage_keeps _) (.pure _)
  · cases bitDepth with
    | none => exact .pure _
    | some bitDepth => exact onImage_keeps _
  · exact .bind (onImage_keeps _) fun _ => .ite (onImage_keeps _) (.pure _)

/-- The scaling step writes what it is given to the log, whether it returns or
throws. -/
theorem logged_scaleStep (resolved : ResizeParameters) (wants : wantsScaling resolved = true)
    (objects : Objects (σ × List ResizeParameters)) :
    logged (Method.finalState (EStateM.run (scaleStep image.recordScale (some resolved))
      objects)) = logged objects ++ [resolved] := by
  have recorded : logged (Method.finalState (EStateM.run
      (onImage (image.recordScale.scale resolved)) objects)) = logged objects ++ [resolved] := by
    rw [onImage, Method.run_on, ImageMethods.recordScale, Method.run_modify_bind,
      ImageMethods.beside, Method.run_on]
    cases EStateM.run (image.scale resolved) objects.image.1 <;> rfl
  rw [scaleStep, if_pos wants]
  exact recorded

end Steps

/-! ## The calls of a run -/

section Calls

variable {fp : Rounding} {image : ImageMethods σ} {size : Option ResizeParameters}
variable {rotation : Option RotationParameters} {bitDepth : Option ImageBitDepth}
variable {format : ImageFormat} {objects mid after : Objects σ}

/-- A request whose region is refused does not scale. -/
theorem scaleCalls_of_region_error {exception : Throwable}
    (refused : EStateM.run (regionStep fp image) objects = .error exception mid) :
    scaleCalls fp image size rotation bitDepth format objects = [] := by
  obtain ⟨full, ran, _⟩ := (regionStep_simulates image.recordScale_simulates fp).of_error
    (recording objects) refused
  rw [scaleCalls, transformImage, Method.run_bind_error ran]
  exact (regionStep_keeps fp image).of_error ran

/-- A request whose size cannot be resolved does not scale. -/
theorem scaleCalls_of_resolve_error {exception : Throwable}
    (region : EStateM.run (regionStep fp image) objects = .ok ⟨⟩ mid)
    (refused : EStateM.run (resolveSize fp image size) mid = .error exception after) :
    scaleCalls fp image size rotation bitDepth format objects = [] := by
  obtain ⟨full, ranRegion, rfl⟩ := (regionStep_simulates image.recordScale_simulates fp).of_ok
    (recording objects) region
  obtain ⟨full', ranSize, _⟩ :=
    (resolveSize_simulates image.recordScale_simulates fp size).of_error full refused
  rw [scaleCalls, transformImage, Method.run_bind_ok ranRegion,
    Method.run_bind_error ranSize]
  exact ((resolveSize_keeps fp image size).of_error ranSize).trans
    ((regionStep_keeps fp image).of_ok ranRegion)

/-- A request without a size does not scale. -/
theorem scaleCalls_of_full
    (region : EStateM.run (regionStep fp image) objects = .ok ⟨⟩ mid) :
    scaleCalls fp image none rotation bitDepth format objects = [] := by
  obtain ⟨full, ranRegion, rfl⟩ := (regionStep_simulates image.recordScale_simulates fp).of_ok
    (recording objects) region
  rw [scaleCalls, transformImage, Method.run_bind_ok ranRegion]
  exact (afterScaling_keeps image rotation bitDepth format full).trans
    ((regionStep_keeps fp image).of_ok ranRegion)

/-- A request whose size is resolved scales once, to the resolved size. -/
theorem scaleCalls_of_resolved {resolved : ResizeParameters}
    (region : EStateM.run (regionStep fp image) objects = .ok ⟨⟩ mid)
    (ran : EStateM.run (resolveSize fp image size) mid = .ok (some resolved) after)
    (wants : wantsScaling resolved = true) :
    scaleCalls fp image size rotation bitDepth format objects = [resolved] := by
  obtain ⟨full, ranRegion, rfl⟩ := (regionStep_simulates image.recordScale_simulates fp).of_ok
    (recording objects) region
  obtain ⟨full', ranSize, _⟩ :=
    (resolveSize_simulates image.recordScale_simulates fp size).of_ok full ran
  have empty : logged full' = [] :=
    ((resolveSize_keeps fp image size).of_ok ranSize).trans
      ((regionStep_keeps fp image).of_ok ranRegion)
  have written := logged_scaleStep image resolved wants full'
  rw [empty, List.nil_append] at written
  rw [scaleCalls, transformImage, Method.run_bind_ok ranRegion, Method.run_bind_ok ranSize]
  cases scaled : EStateM.run (scaleStep image.recordScale (some resolved)) full' with
  | error exception final =>
      rw [scaled] at written
      rw [Method.run_bind_error scaled]
      exact written
  | ok value final =>
      rw [scaled] at written
      rw [Method.run_bind_ok scaled]
      exact (afterScaling_keeps image rotation bitDepth format final).trans written

end Calls

end IiifImage.ImageService
