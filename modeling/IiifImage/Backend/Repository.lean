import IiifImage.Model.Image

/-!
# Image repositories

What the image service sees of a repository, and the part of it that every
repository inherits from `AbstractImageRepositoryImpl`.
-/

namespace IiifImage

open Java

/-- `ImageRepository`, for images of type `σ`. -/
structure ImageRepository (σ : Type) where
  supportsCropOperation : Option RegionParameters → Bool
  supportsOutputFormat : ImageFormat → Bool
  supportsBitDepth : Option ImageBitDepth → Bool
  getImage : JString → Option RegionParameters → Except Throwable (Option σ)

namespace ImageRepository

variable {σ : Type}

/-- The repository supports the request's region, format and bit depth. -/
def supports (repo : ImageRepository σ) (region : Option RegionParameters)
    (outputFormat : ImageFormat) (bitDepth : Option ImageBitDepth) : Bool :=
  repo.supportsCropOperation region && repo.supportsOutputFormat outputFormat
    && repo.supportsBitDepth bitDepth

/-- `AbstractImageRepositoryImpl.getImage`, for the `createImage` of a concrete
repository. -/
def abstractGetImage
    (createImage : JString → Option RegionParameters → Except Throwable σ)
    (identifier : JString) (regionParameters : Option RegionParameters) :
    Except Throwable (Option σ) :=
  match createImage identifier regionParameters with
  | .ok image => .ok (some image)
  | .error exception =>
      if exception.isResolving then .ok none
      else if exception.isIOException then .ok none
      else if exception.isIllegalArgument then
        .error (.invalidParameters (some "Illegal offsets."))
      else .error exception

end ImageRepository

/-- A repository derived from `AbstractImageRepositoryImpl`. -/
structure AbstractImageRepository (σ : Type) where
  supportsCropOperation : Option RegionParameters → Bool
  supportsOutputFormat : ImageFormat → Bool
  supportsBitDepth : Option ImageBitDepth → Bool
  createImage : JString → Option RegionParameters → Except Throwable σ

namespace AbstractImageRepository

variable {σ : Type}

/-- The derived repository as the image service sees it. -/
def toImageRepository (repo : AbstractImageRepository σ) : ImageRepository σ where
  supportsCropOperation := repo.supportsCropOperation
  supportsOutputFormat := repo.supportsOutputFormat
  supportsBitDepth := repo.supportsBitDepth
  getImage := ImageRepository.abstractGetImage repo.createImage

end AbstractImageRepository

end IiifImage
