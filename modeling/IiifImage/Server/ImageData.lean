import IiifImage.Backend.JAIImage
import IiifImage.Backend.JpegImage
import IiifImage.Caching.Program

/-!
# The data of images

`ImageDataRepositoryImpl` asks the resource service for the data of an identifier and keeps it
in one cache.  `AbstractImageRepositoryImpl` reads dimensions off the data and keeps them in
another one.  A URI is given by its text.
-/

namespace IiifImage

open Java TurboJpeg Caching

structure ImageInfo where
  height : ℤ
  width : ℤ
  deriving DecidableEq, Repr

/-- The calls of `ResourceService`: the URI of the resource of an identifier, and the data at
a URI. -/
inductive ResourceCall where
  | get (identifier : JString)
  | getInputStream (uri : String)

/-- The keys of the caches `sourceImages` and `imageInfos`. -/
inductive CacheKey where
  | sourceImages (identifier : JString)
  | imageInfos (identifier : JString)
  deriving DecidableEq

/-- What the answers of the resource service and the cached values are, for data of
type `δ`. -/
def resourceSignature (δ : Type) : Signature where
  Question := ResourceCall
  Answer
    | .get _ => Except Throwable String
    | .getInputStream _ => Except Throwable δ
  Key := CacheKey
  Entry
    | .sourceImages _ => δ
    | .imageInfos _ => ImageInfo

instance (δ : Type) : DecidableEq (resourceSignature δ).Key :=
  inferInstanceAs (DecidableEq CacheKey)

/-- A method of the server, which uses the resource service and the caches. -/
abbrev ServerMethod (δ ρ : Type) := Attempt (resourceSignature δ) Throwable ρ

abbrev Resources (δ : Type) :=
  (call : (resourceSignature δ).Question) → (resourceSignature δ).Answer call

/-- What answers the calls of the resource service can have. -/
abbrev Offers (δ : Type) :=
  (call : (resourceSignature δ).Question) → (resourceSignature δ).Answer call → Prop

/-- An `ImageReader` that has been given the data. -/
structure HeaderReader where
  formatName : Except Throwable JString
  height : Except Throwable ℤ
  width : Except Throwable ℤ

/-- `ImageDataRepositoryImpl`, with the libraries that it and `AbstractImageRepositoryImpl`
call. -/
structure ImageDataRepository (δ α : Type) where
  forceJpeg : Bool
  natives : Natives δ
  io : ImageIo δ α
  imageReaders : δ → Option HeaderReader

namespace ImageDataRepository

variable {δ α : Type} (repository : ImageDataRepository δ α)

/-- The `catch` clause for an `IOException` that throws another exception. -/
def rethrowIOException {ρ : Type} (replacement : Throwable) :
    Except Throwable ρ → Except Throwable ρ
  | .ok value => .ok value
  | .error exception =>
      if exception.isIOException then .error replacement else .error exception

def convertToJpeg (data : δ) : Except Throwable δ := do
  let isJpeg ← repository.natives.startsWithMarker data
  if isJpeg then
    return data
  else
    match ← JAIImage.read repository.io data with
    | none => throw (.illegalArgument (some "im == null!"))
    | some img => JAIImage.write repository.io img ['J', 'P', 'E', 'G']

/-- The body of `getImageData(URI)` after the bytes have been read. -/
def prepare (location : String) (imageData : δ) : Except Throwable δ :=
  if repository.natives.byteAt imageData 0 = none then
    .error (.resolving (some ("No image data at location " ++ location)))
  else if repository.forceJpeg then
    rethrowIOException (.resolving (some ("Error converting image from location " ++ location ++
      "to JPEG."))) (repository.convertToJpeg imageData)
  else .ok imageData

/-- `getImageResource`, which returns the URI of the resource. -/
def getImageResource (identifier : JString) : ServerMethod δ String :=
  Attempt.mapOutcome
    (rethrowIOException
      (.resolving (some ("No image for identifier " ++ String.ofList identifier))))
    (ExceptT.mk (.ask (.get identifier) .done))

def getImageDataAt (imageUri : String) : ServerMethod δ δ :=
  Attempt.mapOutcome
    (fun imageData =>
      rethrowIOException (.resolving (some ("No image data for location " ++ imageUri)))
        (imageData >>= repository.prepare imageUri))
    (ExceptT.mk (.ask (.getInputStream imageUri) .done))

/-- The body of `getImageData(String)`, without its cache. -/
def readImageData (identifier : JString) : ServerMethod δ δ := do
  let imageUri ← getImageResource identifier
  repository.getImageDataAt imageUri

def getImageData (identifier : JString) : ServerMethod δ δ :=
  ExceptT.mk (@Program.cached (resourceSignature δ) Throwable (.sourceImages identifier)
    (repository.readImageData identifier).run)

/-- `getImageInfo` of `AbstractImageRepositoryImpl` on the data of the image, in its
`try`. -/
def infoOf (identifier : JString) (data : δ) : Except Throwable ImageInfo :=
  match repository.imageReaders data with
  | some reader => do
      let _ ← reader.formatName
      let height ← reader.height
      let width ← reader.width
      return { height, width }
  | none => throw (.unsupportedFormat
      (some ("Could not find a reader for " ++ String.ofList identifier)))

/-- The `catch` clause of `getImageInfo` for every exception. -/
def infoFailure {ρ : Type} (identifier : JString) : Except Throwable ρ → Except Throwable ρ
  | .ok value => .ok value
  | .error _ => .error (.other "RuntimeException"
      (some ("Could not get image info for image with identifier " ++ String.ofList identifier)))

/-- The body of `getImageInfo` of `AbstractImageRepositoryImpl`, without its cache. -/
def readImageInfo (identifier : JString) : ServerMethod δ ImageInfo :=
  Attempt.mapOutcome (infoFailure identifier) do
    let data ← repository.getImageData identifier
    Attempt.given (repository.infoOf identifier data)

def getImageInfo (identifier : JString) : ServerMethod δ ImageInfo :=
  ExceptT.mk (@Program.cached (resourceSignature δ) Throwable (.imageInfos identifier)
    (repository.readImageInfo identifier).run)

/-! ## Without the caches -/

/-- The data of an identifier, as the resource service has it. -/
def dataFrom (resources : Resources δ) (identifier : JString) : Except Throwable δ := do
  let imageUri ← rethrowIOException
    (.resolving (some ("No image for identifier " ++ String.ofList identifier)))
    (resources (.get identifier) : Except Throwable String)
  rethrowIOException (.resolving (some ("No image data for location " ++ imageUri)))
    ((resources (.getInputStream imageUri) : Except Throwable δ) >>= repository.prepare imageUri)

/-- The dimensions of an image, as the resource service has its data. -/
def infoFrom (resources : Resources δ) (identifier : JString) : Except Throwable ImageInfo :=
  infoFailure identifier
    (repository.dataFrom resources identifier >>= repository.infoOf identifier)

/-- The data is made of bytes that are offered for a URI that is offered for the identifier.
When the resources change, the two offers may be from different times. -/
def Reads (offers : Offers δ) (identifier : JString) (data : δ) : Prop :=
  ∃ imageUri, offers (.get identifier) (.ok imageUri : Except Throwable String) ∧
    ∃ bytes, offers (.getInputStream imageUri) (.ok bytes : Except Throwable δ) ∧
      repository.prepare imageUri bytes = .ok data

section Outcomes

variable {repository} {resources : Resources δ} {offers : Offers δ} {identifier : JString}

theorem rethrowIO_eq_ok {ρ : Type} {replacement : Throwable} {outcome : Except Throwable ρ}
    {value : ρ} : rethrowIOException replacement outcome = .ok value ↔ outcome = .ok value := by
  cases outcome with
  | ok result => exact Iff.rfl
  | error exception =>
      rw [rethrowIOException]
      split <;> simp

@[simp] theorem eval_readImageData :
    (repository.readImageData identifier).run.eval resources =
      repository.dataFrom resources identifier := by
  rw [readImageData, Attempt.eval_bind, getImageResource, Attempt.eval_mapOutcome]
  simp only [getImageDataAt, Attempt.eval_mapOutcome]
  rfl

@[simp] theorem eval_getImageData :
    (repository.getImageData identifier).run.eval resources =
      repository.dataFrom resources identifier :=
  (Program.eval_cached _ _).trans eval_readImageData

@[simp] theorem eval_readImageInfo :
    (repository.readImageInfo identifier).run.eval resources =
      repository.infoFrom resources identifier := by
  rw [readImageInfo, Attempt.eval_mapOutcome, Attempt.eval_bind, eval_getImageData]
  rfl

@[simp] theorem eval_getImageInfo :
    (repository.getImageInfo identifier).run.eval resources =
      repository.infoFrom resources identifier :=
  (Program.eval_cached _ _).trans eval_readImageInfo

theorem yields_readImageData_ok {data : δ} :
    (repository.readImageData identifier).run.Yields offers (.ok data) ↔
      repository.Reads offers identifier data := by
  rw [readImageData, Attempt.yields_bind_ok]
  refine exists_congr fun imageUri => and_congr ?_ ?_
  · rw [getImageResource, Attempt.yields_mapOutcome]
    constructor
    · intro reached
      rcases reached with ⟨_, ⟨answer, offered, rfl⟩, mapped⟩
      rw [rethrowIO_eq_ok.mp mapped.symm] at offered
      exact offered
    · intro offered
      exact ⟨.ok imageUri, ⟨_, offered, rfl⟩, rfl⟩
  · rw [getImageDataAt, Attempt.yields_mapOutcome]
    constructor
    · intro reached
      rcases reached with ⟨_, ⟨answer, offered, rfl⟩, mapped⟩
      rcases Method.except_bind_eq_ok.mp (rethrowIO_eq_ok.mp mapped.symm) with
        ⟨bytes, same, prepared⟩
      rw [same] at offered
      exact ⟨bytes, offered, prepared⟩
    · intro reached
      rcases reached with ⟨bytes, offered, prepared⟩
      refine ⟨.ok bytes, ⟨_, offered, rfl⟩, (rethrowIO_eq_ok.mpr ?_).symm⟩
      exact prepared

theorem yields_getImageData_ok {data : δ} :
    (repository.getImageData identifier).run.Yields offers (.ok data) ↔
      repository.Reads offers identifier data :=
  Program.yields_cached.trans yields_readImageData_ok

theorem yields_readImageInfo_ok {info : ImageInfo} :
    (repository.readImageInfo identifier).run.Yields offers (.ok info) ↔
      ∃ data, repository.Reads offers identifier data ∧
        repository.infoOf identifier data = .ok info := by
  rw [readImageInfo, Attempt.yields_mapOutcome]
  constructor
  · intro reached
    rcases reached with ⟨outcome, reached, mapped⟩
    cases outcome with
    | error exception => cases mapped
    | ok value =>
        cases mapped
        rcases Attempt.yields_bind_ok.mp reached with ⟨data, read, ends⟩
        exact ⟨data, yields_getImageData_ok.mp read, ends.symm⟩
  · intro reached
    rcases reached with ⟨data, read, ends⟩
    exact ⟨.ok info, Attempt.yields_bind_ok.mpr
      ⟨data, yields_getImageData_ok.mpr read, ends.symm⟩, rfl⟩

theorem yields_getImageInfo_ok {info : ImageInfo} :
    (repository.getImageInfo identifier).run.Yields offers (.ok info) ↔
      ∃ data, repository.Reads offers identifier data ∧
        repository.infoOf identifier data = .ok info :=
  Program.yields_cached.trans yields_readImageInfo_ok

end Outcomes

/-! ## Among other requests -/

/-- The cached values that the answers of the resource service lead to. -/
def Valid (offers : Offers δ) :
    (key : (resourceSignature δ).Key) → (resourceSignature δ).Entry key → Prop
  | .sourceImages identifier, data =>
      (repository.readImageData identifier).run.Yields offers (.ok data)
  | .imageInfos identifier, info =>
      (repository.readImageInfo identifier).run.Yields offers (.ok info)

section Sharing

variable {repository} {offers : Offers δ} {identifier : JString}

theorem transparent_getImageData :
    (repository.getImageData identifier).run.Transparent offers (repository.Valid offers) :=
  Program.Transparent.cached (fun _ => Iff.rfl)
    (Attempt.transparent_bind
      (Attempt.transparent_mapOutcome (.ask fun _ => .done _))
      fun _ => Attempt.transparent_mapOutcome (.ask fun _ => .done _))

theorem transparent_getImageInfo :
    (repository.getImageInfo identifier).run.Transparent offers (repository.Valid offers) :=
  Program.Transparent.cached (fun _ => Iff.rfl)
    (Attempt.transparent_mapOutcome
      (Attempt.transparent_bind transparent_getImageData fun _ => Attempt.transparent_given _))

/-- A look into the cache, two calls of the resource service and an entry. -/
theorem endsWithin_getImageData :
    (repository.getImageData identifier).run.EndsWithin 4 :=
  Program.EndsWithin.cached
    (Attempt.endsWithin_bind (m := 1) (n := 1)
      (Attempt.endsWithin_mapOutcome fun _ => Program.endsWithin_done 0 _)
      fun _ => Attempt.endsWithin_mapOutcome fun _ => Program.endsWithin_done 0 _)

theorem endsWithin_getImageInfo :
    (repository.getImageInfo identifier).run.EndsWithin 6 :=
  Program.EndsWithin.cached
    (Attempt.endsWithin_mapOutcome
      (Attempt.endsWithin_bind (n := 0) endsWithin_getImageData
        fun _ => Attempt.endsWithin_given 0 _))

end Sharing

end ImageDataRepository

end IiifImage
