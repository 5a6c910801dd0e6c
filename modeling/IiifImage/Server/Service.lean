import IiifImage.Requests.FastPath
import IiifImage.Server.ImageData

/-!
# The image service on cached data

`ImageServiceImpl` as it runs beside other requests: its repositories read the data of an
image through the caches.  On a resource service that does not change and without the caches
it is the service of `ImageService`.
-/

namespace IiifImage

open Java TurboJpeg Caching

/-- A repository derived from `AbstractImageRepositoryImpl`, with the part of `createImage`
that follows the call of `getImageData`. -/
structure DataRepository (δ σ : Type) where
  supportsCropOperation : Option RegionParameters → Bool
  supportsOutputFormat : ImageFormat → Bool
  supportsBitDepth : Option ImageBitDepth → Bool
  imageOf : δ → Option RegionParameters → Except Throwable σ

namespace DataRepository

variable {δ α σ : Type}

/-- The repository on data that are read without a cache. -/
def reading (repo : DataRepository δ σ) (getImageData : JString → Except Throwable δ) :
    AbstractImageRepository σ where
  supportsCropOperation := repo.supportsCropOperation
  supportsOutputFormat := repo.supportsOutputFormat
  supportsBitDepth := repo.supportsBitDepth
  createImage identifier region :=
    getImageData identifier >>= fun imageData => repo.imageOf imageData region

/-- The repository supports the request's region, format and bit depth. -/
def supports (repo : DataRepository δ σ) (region : Option RegionParameters)
    (outputFormat : ImageFormat) (bitDepth : Option ImageBitDepth) : Bool :=
  repo.supportsCropOperation region && repo.supportsOutputFormat outputFormat
    && repo.supportsBitDepth bitDepth

/-- `ImageRepositoryJpegTranImpl`. -/
def jpegTran (fp : Rounding) (natives : Natives δ) : DataRepository δ (BackendImage δ α) where
  supportsCropOperation := ImageRepositoryJpegTranImpl.supportsCropOperation fp
  supportsOutputFormat := ImageRepositoryJpegTranImpl.supportsOutputFormat
  supportsBitDepth := ImageRepositoryJpegTranImpl.supportsBitDepth
  imageOf imageData _ := do
    let isJpeg ← natives.startsWithMarker imageData
    if isJpeg then
      let image ← JpegTranImage.create natives imageData
      return .jpegTran image
    else throw (.unsupportedFormat (some "Not a JPEG file"))

/-- `ImageRepositoryImageIoImpl`. -/
def imageIo (io : ImageIo δ α) : DataRepository δ (BackendImage δ α) where
  supportsCropOperation _ := true
  supportsOutputFormat := ImageRepositoryImageIoImpl.supportsOutputFormat io
  supportsBitDepth _ := true
  imageOf imageData region := do
    let image ← JAIImage.create io imageData region
    return .imageIo image

theorem reading_jpegTran (fp : Rounding) (natives : Natives δ)
    (getImageData : JString → Except Throwable δ) :
    (jpegTran (α := α) fp natives).reading getImageData =
      ImageService.losslessRepository fp natives getImageData := by
  refine congrArg (AbstractImageRepository.mk _ _ _) (funext fun identifier => ?_)
  funext region
  simp only [jpegTran, ImageRepositoryJpegTranImpl.repository,
    ImageRepositoryJpegTranImpl.createImage]
  cases getImageData identifier with
  | error exception => rfl
  | ok imageData =>
      simp only [Method.except_ok_bind]
      cases natives.startsWithMarker imageData with
      | error exception => rfl
      | ok isJpeg =>
          simp only [Method.except_ok_bind]
          cases isJpeg with
          | false => rfl
          | true => cases JpegTranImage.create natives imageData <;> rfl

theorem reading_imageIo (io : ImageIo δ α) (getImageData : JString → Except Throwable δ) :
    (imageIo io).reading getImageData = ImageService.plainRepository io getImageData := by
  refine congrArg (AbstractImageRepository.mk _ _ _) (funext fun identifier => ?_)
  funext region
  simp only [imageIo, ImageRepositoryImageIoImpl.repository,
    ImageRepositoryImageIoImpl.createImage]
  cases getImageData identifier with
  | error exception => rfl
  | ok imageData =>
      simp only [Method.except_ok_bind]
      cases JAIImage.create io imageData region <;> rfl

end DataRepository

/-! ## The service -/

/-- The wired components of the server. -/
structure ImageServer (δ α σ : Type) where
  fp : Rounding
  image : ImageMethods σ
  imageDataRepository : ImageDataRepository δ α
  imageRepositories : List (DataRepository δ σ)
  imageSecurityService : Option (JString → Bool)

/-- The calls of the service by the controller. -/
inductive ServiceCall where
  | getImageInfo (identifier : JString)
  | processImage (identifier : JString) (region : Option RegionParameters)
      (size : Option ResizeParameters) (rotation : Option RotationParameters)
      (bitDepth : Option ImageBitDepth) (format : ImageFormat)

/-- What a call returns or throws. -/
def ServiceCall.Outcome (σ : Type) : ServiceCall → Type
  | getImageInfo _ => Except Throwable ImageInfo
  | processImage _ _ _ _ _ _ => Except Throwable σ

namespace ImageServer

variable {δ α σ : Type} (server : ImageServer δ α σ)

/-- The server with both backends, the lossless one first. -/
def withBackends (fp : Rounding) (imageDataRepository : ImageDataRepository δ α)
    (security : Option (JString → Bool)) : ImageServer δ α (BackendImage δ α) where
  fp := fp
  image := BackendImage.methods imageDataRepository.natives imageDataRepository.io fp
  imageDataRepository := imageDataRepository
  imageRepositories := [.jpegTran fp imageDataRepository.natives, .imageIo imageDataRepository.io]
  imageSecurityService := security

/-- `isAccessAllowed`, if there is a security service. -/
def accessAllowed (identifier : JString) : Bool :=
  match server.imageSecurityService with
  | none => true
  | some isAccessAllowed => isAccessAllowed identifier

def createImage (repo : DataRepository δ σ) (identifier : JString)
    (region : Option RegionParameters) : ServerMethod δ σ := do
  let imageData ← server.imageDataRepository.getImageData identifier
  Attempt.given (repo.imageOf imageData region)

def getImageOf (repo : DataRepository δ σ) (identifier : JString)
    (region : Option RegionParameters) : ServerMethod δ (Option σ) :=
  Attempt.mapOutcome
    (fun created => ImageRepository.abstractGetImage (fun _ _ => created) identifier region)
    (server.createImage repo identifier region)

/-- The loop of `getImage` over the repositories. -/
def getImage (identifier : JString) (regionParameters : Option RegionParameters)
    (outputFormat : ImageFormat) (bitDepthParameter : Option ImageBitDepth) :
    List (DataRepository δ σ) → ServerMethod δ (Option σ)
  | [] => throw (.unsupportedFormat none)
  | repo :: repositories =>
      if !repo.supports regionParameters outputFormat bitDepthParameter then
        getImage identifier regionParameters outputFormat bitDepthParameter repositories
      else
        (server.getImageOf repo identifier regionParameters).continueWith fun
          | .ok image => pure image
          | .error exception =>
              if exception.isInvalidParameters then throw exception
              else getImage identifier regionParameters outputFormat bitDepthParameter
                repositories

/-- `transformImage` on an image and a region object of its own. -/
def transformed (sizeParameters : Option ResizeParameters)
    (rotationParameters : Option RotationParameters)
    (bitDepthParameter : Option ImageBitDepth) (formatParameter : ImageFormat)
    (region : Option RegionParameters) (created : σ) : Except Throwable σ :=
  match EStateM.run (ImageService.transformImage server.fp server.image sizeParameters
      rotationParameters bitDepthParameter formatParameter) ⟨created, region⟩ with
  | .ok _ objects => .ok objects.image
  | .error exception _ => .error exception

def processImage (identifier : JString) (regionParameters : Option RegionParameters)
    (sizeParameters : Option ResizeParameters)
    (rotationParameters : Option RotationParameters)
    (bitDepthParameter : Option ImageBitDepth) (formatParameter : ImageFormat) :
    ServerMethod δ σ :=
  if !server.accessAllowed identifier then throw .resourceNotFound
  else do
    match ← server.getImage identifier regionParameters formatParameter bitDepthParameter
        server.imageRepositories with
    | none => throw .resourceNotFound
    | some created =>
        Attempt.given (server.transformed sizeParameters rotationParameters bitDepthParameter
          formatParameter regionParameters created)

/-- The loop of `getImageInfo` over the repositories, which share one implementation. -/
def getImageInfoOf (identifier : JString) : List (DataRepository δ σ) → ServerMethod δ ImageInfo
  | [] => throw (.unsupportedFormat none)
  | _ :: repositories =>
      (server.imageDataRepository.getImageInfo identifier).continueWith fun
        | .ok info => pure info
        | .error _ => getImageInfoOf identifier repositories

def getImageInfo (identifier : JString) : ServerMethod δ ImageInfo :=
  if !server.accessAllowed identifier then throw .resourceNotFound
  else server.getImageInfoOf identifier server.imageRepositories

def perform : (call : ServiceCall) → Program (resourceSignature δ) (call.Outcome σ)
  | .getImageInfo identifier => (server.getImageInfo identifier).run
  | .processImage identifier region size rotation bitDepth format =>
      (server.processImage identifier region size rotation bitDepth format).run

/-! ## Without the caches -/

/-- The service with repositories that read the resources at every call. -/
def uncached (resources : Resources δ) : ImageService σ :=
  ImageService.withRepositories
    (server.imageRepositories.map fun repo =>
      repo.reading (server.imageDataRepository.dataFrom resources))
    server.imageSecurityService

/-- `getImageInfo` of the service, read off the resources. -/
def infoFrom (resources : Resources δ) (identifier : JString) : Except Throwable ImageInfo :=
  if !server.accessAllowed identifier then .error .resourceNotFound
  else if server.imageRepositories = [] then .error (.unsupportedFormat none)
  else
    match server.imageDataRepository.infoFrom resources identifier with
    | .ok info => .ok info
    | .error _ => .error (.unsupportedFormat none)

/-- What a call returns or throws, without the caches. -/
def answer (resources : Resources δ) : (call : ServiceCall) → call.Outcome σ
  | .getImageInfo identifier => server.infoFrom resources identifier
  | .processImage identifier region size rotation bitDepth format =>
      match EStateM.run (ImageService.processImage server.fp server.image
          (server.uncached resources) identifier size rotation bitDepth format) region with
      | .ok image _ => .ok image
      | .error exception _ => .error exception

/-- Without caches the server with both backends is the service with both repositories. -/
theorem uncached_withBackends (fp : Rounding) (imageDataRepository : ImageDataRepository δ α)
    (security : Option (JString → Bool)) (resources : Resources δ) :
    (withBackends fp imageDataRepository security).uncached resources =
      ImageService.withRepositories
        [ImageService.losslessRepository fp imageDataRepository.natives
            (imageDataRepository.dataFrom resources),
          ImageService.plainRepository imageDataRepository.io
            (imageDataRepository.dataFrom resources)] security := by
  rw [uncached, withBackends, List.map_cons, List.map_cons, List.map_nil,
    DataRepository.reading_jpegTran, DataRepository.reading_imageIo]

section Evaluation

variable {server} {resources : Resources δ} {identifier : JString}
variable {region : Option RegionParameters} {size : Option ResizeParameters}
variable {rotation : Option RotationParameters} {bitDepth : Option ImageBitDepth}
variable {format : ImageFormat}

theorem answer_processImage_of_ok {result : σ} {after : Option RegionParameters}
    (ran : EStateM.run (ImageService.processImage server.fp server.image
      (server.uncached resources) identifier size rotation bitDepth format) region =
        .ok result after) :
    server.answer resources (.processImage identifier region size rotation bitDepth format) =
      (.ok result : Except Throwable σ) := by
  rw [answer, ran]

theorem accessAllowed_uncached :
    (server.uncached resources).accessAllowed identifier = server.accessAllowed identifier :=
  rfl

theorem eval_getImageOf (repo : DataRepository δ σ) :
    (server.getImageOf repo identifier region).run.eval resources =
      (repo.reading (server.imageDataRepository.dataFrom resources)).toImageRepository.getImage
        identifier region := by
  rw [getImageOf, Attempt.eval_mapOutcome, createImage, Attempt.eval_bind,
    ImageDataRepository.eval_getImageData]
  rfl

theorem eval_getImage (repositories : List (DataRepository δ σ)) :
    (server.getImage identifier region format bitDepth repositories).run.eval resources =
      ImageService.getImage identifier region format bitDepth
        (repositories.map fun repo => (repo.reading
          (server.imageDataRepository.dataFrom resources)).toImageRepository) := by
  induction repositories with
  | nil => rfl
  | cons repo repositories ih =>
      have same : (!repo.supports region format bitDepth) =
          (!repo.supportsCropOperation region || !repo.supportsOutputFormat format ||
            !repo.supportsBitDepth bitDepth) := by
        simp [DataRepository.supports]
      rw [getImage, List.map_cons, ImageService.getImage, same]
      by_cases skipped : (!repo.supportsCropOperation region ||
          !repo.supportsOutputFormat format || !repo.supportsBitDepth bitDepth) = true
      · rw [if_pos skipped]
        exact ih.trans (if_pos skipped).symm
      · rw [if_neg skipped, Attempt.eval_continueWith, eval_getImageOf]
        refine Eq.trans ?_ (if_neg skipped).symm
        cases (repo.reading
            (server.imageDataRepository.dataFrom resources)).toImageRepository.getImage
            identifier region with
        | ok image => rfl
        | error exception =>
            dsimp only
            split
            · rfl
            · exact ih

theorem eval_processImage :
    (server.processImage identifier region size rotation bitDepth format).run.eval resources =
      server.answer resources (.processImage identifier region size rotation bitDepth format) := by
  rw [processImage, answer, EStateM.run, ImageService.processImage, accessAllowed_uncached]
  cases server.accessAllowed identifier with
  | false => rfl
  | true =>
      simp only [Bool.not_true, Bool.false_eq_true, if_false, Attempt.eval_bind]
      rw [eval_getImage, uncached, ImageService.withRepositories, List.map_map]
      dsimp only [Function.comp_def]
      cases ImageService.getImage identifier region format bitDepth
          (server.imageRepositories.map fun repo => (repo.reading
            (server.imageDataRepository.dataFrom resources)).toImageRepository) with
      | error exception => rfl
      | ok found =>
          cases found with
          | none => rfl
          | some created =>
              simp only [Method.except_ok_bind, Attempt.eval_given, transformed]
              cases EStateM.run (ImageService.transformImage server.fp server.image size rotation
                bitDepth format) ⟨created, region⟩ <;> rfl

theorem eval_getImageInfoOf (repositories : List (DataRepository δ σ)) :
    (server.getImageInfoOf identifier repositories).run.eval resources =
      if repositories = [] then .error (.unsupportedFormat none)
      else
        match server.imageDataRepository.infoFrom resources identifier with
        | .ok info => .ok info
        | .error _ => .error (.unsupportedFormat none) := by
  induction repositories with
  | nil => rfl
  | cons repo repositories ih =>
      rw [getImageInfoOf, Attempt.eval_continueWith, ImageDataRepository.eval_getImageInfo,
        if_neg (List.cons_ne_nil _ _)]
      cases known : server.imageDataRepository.infoFrom resources identifier with
      | ok info => rfl
      | error exception =>
          refine ih.trans ?_
          rw [known]
          exact ite_id _

theorem eval_getImageInfo :
    (server.getImageInfo identifier).run.eval resources =
      server.answer resources (.getImageInfo identifier) := by
  rw [getImageInfo, answer, infoFrom]
  cases server.accessAllowed identifier with
  | false => rfl
  | true => exact eval_getImageInfoOf server.imageRepositories

/-- On resources that do not change and without the caches, a call is answered by the
service without caches. -/
theorem eval_perform (call : ServiceCall) :
    (server.perform call).eval resources = server.answer resources call := by
  cases call with
  | getImageInfo identifier => exact eval_getImageInfo
  | processImage identifier region size rotation bitDepth format => exact eval_processImage

end Evaluation

/-! ## Among other requests -/

section Sharing

variable {server} {offers : Offers δ} {identifier : JString}
variable {region : Option RegionParameters} {bitDepth : Option ImageBitDepth}
variable {format : ImageFormat}

theorem transparent_getImageOf (repo : DataRepository δ σ) :
    (server.getImageOf repo identifier region).run.Transparent offers
      (server.imageDataRepository.Valid offers) :=
  Attempt.transparent_mapOutcome
    (Attempt.transparent_bind ImageDataRepository.transparent_getImageData fun _ =>
      Attempt.transparent_given _)

theorem transparent_getImage (repositories : List (DataRepository δ σ)) :
    (server.getImage identifier region format bitDepth repositories).run.Transparent offers
      (server.imageDataRepository.Valid offers) := by
  induction repositories with
  | nil => exact Attempt.transparent_given _
  | cons repo repositories ih =>
      rw [getImage]
      split
      · exact ih
      · refine Attempt.transparent_continueWith (transparent_getImageOf repo) fun outcome => ?_
        cases outcome with
        | ok image => exact Attempt.transparent_given _
        | error exception =>
            dsimp only
            split
            · exact Attempt.transparent_given _
            · exact ih

theorem transparent_getImageInfoOf (repositories : List (DataRepository δ σ)) :
    (server.getImageInfoOf identifier repositories).run.Transparent offers
      (server.imageDataRepository.Valid offers) := by
  induction repositories with
  | nil => exact Attempt.transparent_given _
  | cons repo repositories ih =>
      refine Attempt.transparent_continueWith ImageDataRepository.transparent_getImageInfo
        fun outcome => ?_
      cases outcome with
      | ok info => exact Attempt.transparent_given _
      | error exception => exact ih

/-- What others have put into the caches does not lead a call to another outcome. -/
theorem transparent_perform (server : ImageServer δ α σ) (offers : Offers δ)
    (call : ServiceCall) :
    (server.perform call).Transparent offers (server.imageDataRepository.Valid offers) := by
  cases call with
  | getImageInfo identifier =>
      rw [perform, getImageInfo]
      split
      · exact Attempt.transparent_given _
      · exact transparent_getImageInfoOf _
  | processImage identifier region size rotation bitDepth format =>
      rw [perform, processImage]
      split
      · exact Attempt.transparent_given _
      · refine Attempt.transparent_bind (transparent_getImage _) fun found => ?_
        cases found with
        | none => exact Attempt.transparent_given _
        | some created => exact Attempt.transparent_given _

theorem endsWithin_getImage (repositories : List (DataRepository δ σ)) :
    (server.getImage identifier region format bitDepth repositories).run.EndsWithin
      (4 * repositories.length) := by
  induction repositories with
  | nil => exact Attempt.endsWithin_given _ _
  | cons repo repositories ih =>
      rw [getImage, List.length_cons, Nat.mul_succ, Nat.add_comm]
      split
      · exact ih.le (Nat.le_add_left _ _)
      · refine Attempt.endsWithin_continueWith
          (Attempt.endsWithin_mapOutcome (Attempt.endsWithin_bind (n := 0)
            ImageDataRepository.endsWithin_getImageData fun _ => Attempt.endsWithin_given 0 _))
          fun outcome => ?_
        cases outcome with
        | ok image => exact Attempt.endsWithin_given _ _
        | error exception =>
            dsimp only
            split
            · exact Attempt.endsWithin_given _ _
            · exact ih

theorem endsWithin_getImageInfoOf (repositories : List (DataRepository δ σ)) :
    (server.getImageInfoOf identifier repositories).run.EndsWithin
      (6 * repositories.length) := by
  induction repositories with
  | nil => exact Attempt.endsWithin_given _ _
  | cons repo repositories ih =>
      rw [getImageInfoOf, List.length_cons, Nat.mul_succ, Nat.add_comm]
      refine Attempt.endsWithin_continueWith ImageDataRepository.endsWithin_getImageInfo
        fun outcome => ?_
      cases outcome with
      | ok info => exact Attempt.endsWithin_given _ _
      | error exception => exact ih

/-- A call takes at most six operations for each repository. -/
theorem endsWithin_perform (server : ImageServer δ α σ) (call : ServiceCall) :
    (server.perform call).EndsWithin (6 * server.imageRepositories.length) := by
  cases call with
  | getImageInfo identifier =>
      rw [perform, getImageInfo]
      split
      · exact Attempt.endsWithin_given _ _
      · exact endsWithin_getImageInfoOf _
  | processImage identifier region size rotation bitDepth format =>
      rw [perform, processImage]
      split
      · exact Attempt.endsWithin_given _ _
      · refine Program.EndsWithin.le (Attempt.endsWithin_bind (n := 0) (endsWithin_getImage _)
          fun found => ?_) (Nat.add_le_add_right (Nat.mul_le_mul_right _ (by decide)) 0)
        cases found with
        | none => exact Attempt.endsWithin_given _ _
        | some created => exact Attempt.endsWithin_given _ _

end Sharing

end ImageServer

end IiifImage
