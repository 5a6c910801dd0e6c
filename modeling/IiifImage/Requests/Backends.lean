import IiifImage.Backend.JAIImage
import IiifImage.Backend.JpegTranImage
import IiifImage.Business.Simulation

/-!
# Services with both backends

The repositories of a service return images of either class.  A call goes to the method
of the image's own class, so a request runs on an image as it does on images of that
class alone.
-/

namespace IiifImage

open Java TurboJpeg

inductive BackendImage (δ α : Type) where
  | jpegTran (image : JpegTranImage δ)
  | imageIo (image : JAIImage α)

namespace BackendImage

variable {δ α : Type}

/-- Call the method of the image's class. -/
def dispatch {β : Type} (onJpegTran : Method Throwable (JpegTranImage δ) β)
    (onImageIo : Method Throwable (JAIImage α) β) : Method Throwable (BackendImage δ α) β
  | jpegTran image => Method.mapState jpegTran (EStateM.run onJpegTran image)
  | imageIo image => Method.mapState imageIo (EStateM.run onImageIo image)

def dispatched (lossless : ImageMethods (JpegTranImage δ))
    (plain : ImageMethods (JAIImage α)) : ImageMethods (BackendImage δ α) where
  getFormat := dispatch lossless.getFormat plain.getFormat
  getHeight := dispatch lossless.getHeight plain.getHeight
  getWidth := dispatch lossless.getWidth plain.getWidth
  crop region := dispatch (lossless.crop region) (plain.crop region)
  scale target := dispatch (lossless.scale target) (plain.scale target)
  rotate degrees := dispatch (lossless.rotate degrees) (plain.rotate degrees)
  flipHorizontally := dispatch lossless.flipHorizontally plain.flipHorizontally
  toDepth depth := dispatch (lossless.toDepth depth) (plain.toDepth depth)
  convert format := dispatch (lossless.convert format) (plain.convert format)
  performTransformation :=
    dispatch lossless.performTransformation plain.performTransformation

def methods (natives : Natives δ) (io : ImageIo δ α) (fp : Rounding) :
    ImageMethods (BackendImage δ α) :=
  dispatched (JpegTranImage.methods natives fp) (JAIImage.methods io fp)

section Classes

variable (natives : Natives δ) (io : ImageIo δ α) (fp : Rounding)

theorem jpegTran_simulates :
    ImageMethods.Simulates jpegTran (JpegTranImage.methods natives fp)
      (methods natives io fp) where
  getFormat _ := rfl
  getHeight _ := rfl
  getWidth _ := rfl
  crop _ _ := rfl
  scale _ _ := rfl
  rotate _ _ := rfl
  flipHorizontally _ := rfl
  toDepth _ _ := rfl
  convert _ _ := rfl
  performTransformation _ := rfl

theorem imageIo_simulates :
    ImageMethods.Simulates imageIo (JAIImage.methods io fp) (methods natives io fp) where
  getFormat _ := rfl
  getHeight _ := rfl
  getWidth _ := rfl
  crop _ _ := rfl
  scale _ _ := rfl
  rotate _ _ := rfl
  flipHorizontally _ := rfl
  toDepth _ _ := rfl
  convert _ _ := rfl
  performTransformation _ := rfl

end Classes

end BackendImage

/-! ## Whole requests -/

namespace ImageService

variable {σ : Type}

theorem run_onImage_eq_ok {α : Type} {method : Method Throwable σ α}
    {objects final : Objects σ} {value : α} :
    EStateM.run (onImage method) objects = .ok value final ↔
      ∃ image, EStateM.run method objects.image = .ok value image ∧
        final = ⟨image, objects.region⟩ := by
  rw [onImage, Method.run_on]
  cases EStateM.run method objects.image with
  | ok value' image =>
      simp only [EStateM.Result.ok.injEq]
      constructor
      · intro same
        rcases same with ⟨rfl, rfl⟩
        exact ⟨image, ⟨rfl, rfl⟩, rfl⟩
      · intro called
        rcases called with ⟨_, ⟨rfl, rfl⟩, rfl⟩
        exact ⟨rfl, rfl⟩
  | error exception image => simp

/-- A request returns an image exactly when access is allowed, a repository has an image
and the operations on it return. -/
theorem run_processImage_eq_ok {fp : Rounding} {image : ImageMethods σ}
    {service : ImageService σ} {identifier : JString} {size : Option ResizeParameters}
    {rotation : Option RotationParameters} {bitDepth : Option ImageBitDepth}
    {format : ImageFormat} {region after : Option RegionParameters} {result : σ} :
    EStateM.run (processImage fp image service identifier size rotation bitDepth format)
        region = .ok result after ↔
      service.accessAllowed identifier = true ∧ ∃ created,
        getImage identifier region format bitDepth service.imageRepositories =
          .ok (some created) ∧
        EStateM.run (transformImage fp image size rotation bitDepth format)
          ⟨created, region⟩ = .ok ⟨⟩ ⟨result, after⟩ := by
  unfold EStateM.run processImage
  cases service.accessAllowed identifier with
  | false => simp
  | true =>
      simp only [Bool.not_true, Bool.false_eq_true, if_false, true_and]
      split
      next exception failed => simp [failed]
      next failed => simp [failed]
      next created found =>
        simp only [found, Except.ok.injEq, Option.some.injEq, exists_eq_left']
        rw [EStateM.run]
        split
        next value objects returned =>
          cases objects
          simp [returned]
        next exception objects thrown => simp [thrown]

end ImageService

/-! ## Repositories -/

namespace AbstractImageRepository

variable {σ ρ : Type}

/-- The repository with its images in a larger class. -/
def map (embed : σ → ρ) (repo : AbstractImageRepository σ) : AbstractImageRepository ρ where
  supportsCropOperation := repo.supportsCropOperation
  supportsOutputFormat := repo.supportsOutputFormat
  supportsBitDepth := repo.supportsBitDepth
  createImage identifier region := (repo.createImage identifier region).map embed

end AbstractImageRepository

end IiifImage
