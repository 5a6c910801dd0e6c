import IiifImage.Business.ImageService

/-!
# Implementations that simulate each other

`transformImage` depends on an image only through the image interface.  When every
method of one implementation does to a projection of its object what the method of
another implementation does, the two runs of `transformImage` correspond.
-/

namespace IiifImage

open Java

variable {σ ρ : Type} {forget : σ → ρ}

/-- Every method of the left implementation does to the projected object what the
method of the right one does. -/
structure ImageMethods.Simulates (forget : σ → ρ) (left : ImageMethods σ)
    (right : ImageMethods ρ) : Prop where
  getFormat : Method.Simulates forget left.getFormat right.getFormat
  getHeight : Method.Simulates forget left.getHeight right.getHeight
  getWidth : Method.Simulates forget left.getWidth right.getWidth
  crop : ∀ region, Method.Simulates forget (left.crop region) (right.crop region)
  scale : ∀ target, Method.Simulates forget (left.scale target) (right.scale target)
  rotate : ∀ degrees, Method.Simulates forget (left.rotate degrees) (right.rotate degrees)
  flipHorizontally : Method.Simulates forget left.flipHorizontally right.flipHorizontally
  toDepth : ∀ depth, Method.Simulates forget (left.toDepth depth) (right.toDepth depth)
  convert : ∀ format, Method.Simulates forget (left.convert format) (right.convert format)
  performTransformation :
    Method.Simulates forget left.performTransformation right.performTransformation

/-- The recording version of an image differs from it in its log only. -/
theorem ImageMethods.recordScale_simulates (image : ImageMethods σ) :
    ImageMethods.Simulates Prod.fst image.recordScale image where
  getFormat := beside_simulates _
  getHeight := beside_simulates _
  getWidth := beside_simulates _
  crop _ := beside_simulates _
  scale target := by
    intro logged
    exact beside_simulates (image.scale target) (logged.1, logged.2 ++ [target])
  rotate _ := beside_simulates _
  flipHorizontally := beside_simulates _
  toDepth _ := beside_simulates _
  convert _ := beside_simulates _
  performTransformation := beside_simulates _

namespace Objects

/-- The objects with a projected image. -/
def map (forget : σ → ρ) (objects : Objects σ) : Objects ρ :=
  ⟨forget objects.image, objects.region⟩

end Objects

namespace ImageService

variable {left : ImageMethods σ} {right : ImageMethods ρ}

theorem onImage_simulates {α : Type} {method : Method Throwable σ α}
    {method' : Method Throwable ρ α} (simulates : Method.Simulates forget method method') :
    Method.Simulates (Objects.map forget) (onImage method) (onImage method') :=
  .on simulates (fun _ => rfl) (fun _ _ => rfl)

section Steps

variable (simulates : ImageMethods.Simulates forget left right)
include simulates

theorem regionStep_simulates (fp : Rounding) :
    Method.Simulates (Objects.map forget) (regionStep fp left) (regionStep fp right) := by
  refine .bind (.bind (.reads fun _ => rfl) fun region => ?_) fun _ =>
    .bind (.reads fun _ => rfl) fun region => ?_
  · cases region with
    | none => exact .pure _
    | some region =>
        refine .ite (.pure _) (.bind (onImage_simulates simulates.getWidth) fun width =>
          .bind (onImage_simulates simulates.getHeight) fun height => ?_)
        exact .on (.refl _) (fun _ => rfl) (fun _ _ => rfl)
  · cases region with
    | none => exact .pure _
    | some region =>
        exact .bind (onImage_simulates simulates.getWidth) fun width =>
          .bind (onImage_simulates simulates.getHeight) fun height =>
            .ite (onImage_simulates (simulates.crop region)) (.pure _)

theorem resolveSize_simulates (fp : Rounding) (size : Option ResizeParameters) :
    Method.Simulates (Objects.map forget) (resolveSize fp left size)
      (resolveSize fp right size) := by
  cases size with
  | none => exact .pure _
  | some size =>
      refine .bind (.bind (.reads fun _ => rfl) fun region => ?_) fun dimensions =>
        .bind (.ofExcept _) fun _ => .pure _
      cases region with
      | none =>
          exact .bind (onImage_simulates simulates.getWidth) fun _ =>
            .bind (onImage_simulates simulates.getHeight) fun _ => .pure _
      | some region => exact .pure _

theorem scaleStep_simulates (size : Option ResizeParameters) :
    Method.Simulates (Objects.map forget) (scaleStep left size) (scaleStep right size) := by
  cases size with
  | none => exact .pure _
  | some size => exact .ite (onImage_simulates (simulates.scale size)) (.pure _)

theorem rotateStep_simulates (rotation : Option RotationParameters) :
    Method.Simulates (Objects.map forget) (rotateStep left rotation)
      (rotateStep right rotation) := by
  cases rotation with
  | none => exact .pure _
  | some rotation =>
      exact .bind (.ite (onImage_simulates simulates.flipHorizontally) (.pure _)) fun _ =>
        .ite (onImage_simulates (simulates.rotate _)) (.pure _)

theorem depthStep_simulates (bitDepth : Option ImageBitDepth) :
    Method.Simulates (Objects.map forget) (depthStep left bitDepth)
      (depthStep right bitDepth) := by
  cases bitDepth with
  | none => exact .pure _
  | some bitDepth => exact onImage_simulates (simulates.toDepth bitDepth)

theorem formatStep_simulates (format : ImageFormat) :
    Method.Simulates (Objects.map forget) (formatStep left format)
      (formatStep right format) :=
  .bind (onImage_simulates simulates.getFormat) fun _ =>
    .ite (onImage_simulates (simulates.convert format)) (.pure _)

theorem transformImage_simulates (fp : Rounding) (size : Option ResizeParameters)
    (rotation : Option RotationParameters) (bitDepth : Option ImageBitDepth)
    (format : ImageFormat) :
    Method.Simulates (Objects.map forget)
      (transformImage fp left size rotation bitDepth format)
      (transformImage fp right size rotation bitDepth format) :=
  .bind (regionStep_simulates simulates fp) fun _ =>
    .bind (resolveSize_simulates simulates fp size) fun resolved =>
      .bind (scaleStep_simulates simulates resolved) fun _ =>
        .bind (rotateStep_simulates simulates rotation) fun _ =>
          .bind (depthStep_simulates simulates bitDepth) fun _ =>
            .bind (formatStep_simulates simulates format) fun _ =>
              onImage_simulates simulates.performTransformation

/-- What holds of the image that the right implementation returns holds of the projected
image that the left one returns. -/
theorem transformImage_returns_iff {fp : Rounding} {size : Option ResizeParameters}
    {rotation : Option RotationParameters} {bitDepth : Option ImageBitDepth}
    {format : ImageFormat} {image : σ} {region : Option RegionParameters}
    (holds : ρ → Prop) :
    (∃ final, EStateM.run (transformImage fp right size rotation bitDepth format)
        ⟨forget image, region⟩ = .ok ⟨⟩ final ∧ holds final.image) ↔
      ∃ final, EStateM.run (transformImage fp left size rotation bitDepth format)
        ⟨image, region⟩ = .ok ⟨⟩ final ∧ holds (forget final.image) := by
  have runs := transformImage_simulates simulates fp size rotation bitDepth format
  constructor
  · intro returned
    rcases returned with ⟨final, ran, held⟩
    rcases (runs.run_eq_ok_iff ⟨image, region⟩).mp ran with ⟨full, fullRan, rfl⟩
    exact ⟨full, fullRan, held⟩
  · intro returned
    rcases returned with ⟨full, fullRan, held⟩
    exact ⟨_, (runs.run_eq_ok_iff ⟨image, region⟩).mpr ⟨full, fullRan, rfl⟩, held⟩

end Steps

end ImageService

end IiifImage
