import IiifImage.Caching.Interleaving
import IiifImage.Requests.Parameters
import IiifImage.Server.Service

/-!
# Calls beside each other

The calls of the service run on threads of their own and share the two caches.  Their
operations on the caches and on the resource service happen in any order.  In between,
entries are evicted and resources change.
-/

namespace IiifImage.ImageServer

open Java TurboJpeg Caching

variable {δ α σ τ : Type} (server : ImageServer δ α σ)

/-- The server with empty caches, and with calls that have not begun. -/
def start (calls : τ → ServiceCall) (resources : Resources δ) :
    System (resourceSignature δ) τ fun thread => (calls thread).Outcome σ where
  source := resources
  cache _ := none
  program thread := server.perform (calls thread)

/-- What the cached value of a key is made of: bytes for a URI for the identifier. -/
def Kept (offers : Offers δ) :
    (key : (resourceSignature δ).Key) → (resourceSignature δ).Entry key → Prop
  | .sourceImages identifier, data => server.imageDataRepository.Reads offers identifier data
  | .imageInfos identifier, info =>
      ∃ data, server.imageDataRepository.Reads offers identifier data ∧
        server.imageDataRepository.infoOf identifier data = .ok info

/-- An image is made of data that were read for the identifier, by one of the repositories
that support the request. -/
def MadeOfRead (offers : Offers δ) (identifier : JString) (region : Option RegionParameters)
    (format : ImageFormat) (bitDepth : Option ImageBitDepth)
    (repositories : List (DataRepository δ σ)) (created : σ) : Prop :=
  ∃ data, server.imageDataRepository.Reads offers identifier data ∧
    ∃ repo ∈ repositories, repo.supports region format bitDepth = true ∧
      repo.imageOf data region = .ok created

/-- A call that returns has read data for its identifier once and returns what this data gives:
the dimensions, or the transformed image of a repository that supports the request. -/
def OfOneRead (offers : Offers δ) : (call : ServiceCall) → call.Outcome σ → Prop
  | .getImageInfo identifier, outcome =>
      ∀ info, outcome = .ok info → server.accessAllowed identifier = true ∧
        ∃ data, server.imageDataRepository.Reads offers identifier data ∧
          server.imageDataRepository.infoOf identifier data = .ok info
  | .processImage identifier region size rotation bitDepth format, outcome =>
      ∀ image, outcome = .ok image → server.accessAllowed identifier = true ∧
        ∃ created, server.MadeOfRead offers identifier region format bitDepth
            server.imageRepositories created ∧
          server.transformed size rotation bitDepth format region created = .ok image

section Outcomes

variable {server} {offers : Offers δ} {identifier : JString}
variable {region : Option RegionParameters} {size : Option ResizeParameters}
variable {rotation : Option RotationParameters} {bitDepth : Option ImageBitDepth}
variable {format : ImageFormat}

/-- An image of a repository is made of data that were read. -/
theorem of_yields_getImageOf {repo : DataRepository δ σ} {found : Option σ}
    (reached : (server.getImageOf repo identifier region).run.Yields offers (.ok found)) :
    ∀ created, found = some created →
      ∃ data, server.imageDataRepository.Reads offers identifier data ∧
        repo.imageOf data region = .ok created := by
  intro created same
  subst same
  rcases Attempt.yields_mapOutcome.mp reached with ⟨outcome, made, mapped⟩
  rw [ImageRepository.abstractGetImage] at mapped
  cases outcome with
  | ok image =>
      cases mapped
      rcases Attempt.yields_bind_ok.mp made with ⟨data, read, ends⟩
      exact ⟨data, ImageDataRepository.yields_getImageData_ok.mp read, ends.symm⟩
  | error exception =>
      dsimp only at mapped
      split_ifs at mapped <;> cases mapped

theorem MadeOfRead.cons (repo : DataRepository δ σ) {repositories : List (DataRepository δ σ)}
    {created : σ} (made : server.MadeOfRead offers identifier region format bitDepth
      repositories created) :
    server.MadeOfRead offers identifier region format bitDepth (repo :: repositories) created := by
  rcases made with ⟨data, read, other, listed, supported, made⟩
  exact ⟨data, read, other, List.mem_cons_of_mem repo listed, supported, made⟩

/-- An image of the loop is made of data that were read by one of its repositories. -/
theorem of_yields_getImage {repositories : List (DataRepository δ σ)} {created : σ}
    (reached : (server.getImage identifier region format bitDepth repositories).run.Yields
      offers (.ok (some created))) :
    server.MadeOfRead offers identifier region format bitDepth repositories created := by
  induction repositories with
  | nil => cases (reached : Except.ok (some created) = .error _)
  | cons repo repositories ih =>
      rw [getImage] at reached
      split at reached
      next skipped => exact (ih reached).cons repo
      next supported =>
        rw [Bool.not_eq_true', Bool.not_eq_false] at supported
        rcases Attempt.yields_continueWith.mp reached with ⟨outcome, first, ends⟩
        cases outcome with
        | ok found =>
            cases (ends : Except.ok (some created) = .ok found)
            rcases of_yields_getImageOf first created rfl with ⟨data, read, made⟩
            exact ⟨data, read, repo, List.mem_cons_self, supported, made⟩
        | error exception =>
            dsimp only at ends
            split at ends
            · cases (ends : Except.ok (some created) = .error exception)
            · exact (ih ends).cons repo

theorem of_yields_getImageInfoOf {repositories : List (DataRepository δ σ)} {info : ImageInfo}
    (reached : (server.getImageInfoOf identifier repositories).run.Yields offers (.ok info)) :
    ∃ data, server.imageDataRepository.Reads offers identifier data ∧
      server.imageDataRepository.infoOf identifier data = .ok info := by
  induction repositories with
  | nil => cases (reached : Except.ok info = .error _)
  | cons repo repositories ih =>
      rcases Attempt.yields_continueWith.mp reached with ⟨outcome, first, ends⟩
      cases outcome with
      | ok found =>
          cases (ends : Except.ok info = .ok found)
          exact ImageDataRepository.yields_getImageInfo_ok.mp first
      | error exception => exact ih ends

/-- What a call can return without the caches is made of one read. -/
theorem ofOneRead_of_yields {call : ServiceCall} {outcome : call.Outcome σ}
    (reached : (server.perform call).Yields offers outcome) :
    server.OfOneRead offers call outcome := by
  cases call with
  | getImageInfo identifier =>
      intro info same
      subst same
      rw [perform, getImageInfo] at reached
      split at reached
      · cases (reached : Except.ok info = .error _)
      next allowed =>
        exact ⟨by simpa using allowed, of_yields_getImageInfoOf reached⟩
  | processImage identifier region size rotation bitDepth format =>
      intro image same
      subst same
      rw [perform, processImage] at reached
      split at reached
      · cases (reached : Except.ok image = .error _)
      next allowed =>
        rcases Attempt.yields_bind_ok.mp reached with ⟨found, loop, ends⟩
        cases found with
        | none => cases (ends : Except.ok image = .error _)
        | some created =>
            exact ⟨by simpa using allowed, created, of_yields_getImage loop, ends.symm⟩

theorem kept_of_valid {key : (resourceSignature δ).Key} {value : (resourceSignature δ).Entry key}
    (valid : server.imageDataRepository.Valid offers key value) :
    server.Kept offers key value := by
  cases key with
  | sourceImages identifier => exact ImageDataRepository.yields_readImageData_ok.mp valid
  | imageInfos identifier => exact ImageDataRepository.yields_readImageInfo_ok.mp valid

end Outcomes

/-! ## Runs -/

section Files

open ImageService (losslessIo)

/-- Files of which ImageIO reads the dimensions. -/
def fileData : ImageDataRepository (Jpeg (ℕ × ℕ)) (ℕ × ℕ) where
  forceJpeg := false
  natives := library id Scaler.nearest
  io := losslessIo
  imageReaders jpeg := some {
    formatName := .ok ['J', 'P', 'E', 'G']
    height := .ok jpeg.raster.height
    width := .ok jpeg.raster.width }

def fileServer : ImageServer (Jpeg (ℕ × ℕ)) (ℕ × ℕ) (BackendImage (Jpeg (ℕ × ℕ)) (ℕ × ℕ)) :=
  withBackends .exact fileData none

def oneFile (jpeg : Jpeg (ℕ × ℕ)) : Resources (Jpeg (ℕ × ℕ))
  | .get _ => .ok "file:f"
  | .getInputStream _ => .ok jpeg

/-- A call for the information about the file beside a call for the file. -/
def bothCalls : Bool → ServiceCall
  | false => .getImageInfo ['f']
  | true => .processImage ['f'] none none (some ⟨0, false⟩) none .jpeg

/-- The file changes after the one call has read it and before the other one does. -/
def changingEvents : List (Event (resourceSignature (Jpeg (ℕ × ℕ))) Bool) :=
  [.turn false, .turn true, .turn false, .turn true, .turn false, .turn false,
    .change (oneFile largeJpeg), .turn true, .turn true, .turn false, .turn false]

end Files

open JpegTranImage (squareJpeg)

section Runs

variable [DecidableEq τ] (calls : τ → ServiceCall) (resources : Resources δ)
variable {events : List (Event (resourceSignature δ) τ)} {thread : τ}

/-- After any run, the caches and the calls are as the versions of the resources allow. -/
theorem sound_start (events : List (Event (resourceSignature δ) τ)) :
    ((server.start calls resources).run events).Sound
      ((server.start calls resources).Versions events)
      (server.imageDataRepository.Valid ((server.start calls resources).Versions events))
      fun thread => (server.perform (calls thread)).Yields
        ((server.start calls resources).Versions events) :=
  System.sound_of_transparent events (fun key value absurd => by cases absurd)
    fun thread => transparent_perform server _ (calls thread)

/-- At any time of any run, the caches hold what comes of bytes that the resource service had
at some time for a URI that it had at some time for the identifier of the key. -/
theorem cached_of_versions {key : (resourceSignature δ).Key}
    {value : (resourceSignature δ).Entry key}
    (entered : ((server.start calls resources).run events).cache key = some value) :
    server.Kept ((server.start calls resources).Versions events) key value :=
  kept_of_valid ((sound_start server calls resources events).entries key value entered)

/-- The call that has read the file before the change puts it into the cache last. -/
theorem cached_of_versions_stale :
    fileServer.Kept ((fileServer.start bothCalls (oneFile (squareJpeg .samp444))).Versions
      changingEvents) (.sourceImages ['f']) (squareJpeg .samp444) :=
  cached_of_versions fileServer bothCalls (oneFile (squareJpeg .samp444)) (by rfl)

/-- Whatever changes while a call runs, it returns what bytes give that the resource service
had at some time for a URI that it had at some time for the identifier. -/
theorem finished_of_one_read {outcome : (calls thread).Outcome σ}
    (finished : ((server.start calls resources).run events).program thread = .done outcome) :
    server.OfOneRead ((server.start calls resources).Versions events) (calls thread) outcome :=
  ofOneRead_of_yields ((sound_start server calls resources events).of_finished finished)

/-- The call that reads the file after the change returns the larger one. -/
theorem finished_of_one_read_larger :
    ∃ image : BackendImage (Jpeg (ℕ × ℕ)) (ℕ × ℕ),
      fileServer.OfOneRead ((fileServer.start bothCalls (oneFile (squareJpeg .samp444))).Versions
        changingEvents) (bothCalls true) (.ok image : Except Throwable _) ∧
      image.size = some (64, 64) := by
  have finished : ∃ image, ((fileServer.start bothCalls (oneFile (squareJpeg .samp444))).run
      changingEvents).program true = .done (.ok image : Except Throwable _) ∧
        image.size = some (64, 64) := ⟨_, rfl, rfl⟩
  rcases finished with ⟨image, finished, size⟩
  exact ⟨image, finished_of_one_read fileServer bothCalls (oneFile (squareJpeg .samp444))
    finished, size⟩

/-- While the resources do not change, a call that has had six turns for each repository has
ended as its program does without the caches. -/
theorem run_start (keeps : ∀ event ∈ events, event.keepsSource = true)
    (turns : 6 * server.imageRepositories.length ≤ events.countP (Event.isTurnOf thread)) :
    ((server.start calls resources).run events).program thread =
      .done ((server.perform (calls thread)).eval resources) := by
  have ends : ((server.start calls resources).program thread).EndsWithin
      (6 * server.imageRepositories.length) := endsWithin_perform server (calls thread)
  exact System.finished_eq_eval (fun key value absurd => by cases absurd)
    (fun thread => transparent_perform server _ (calls thread)) keeps ends turns

/-- The call has then ended as the service without caches answers it. -/
theorem finished_as_uncached (keeps : ∀ event ∈ events, event.keepsSource = true)
    (turns : 6 * server.imageRepositories.length ≤ events.countP (Event.isTurnOf thread)) :
    ((server.start calls resources).run events).program thread =
      .done (server.answer resources (calls thread)) := by
  rw [run_start server calls resources keeps turns, eval_perform]

/-- Turns of both calls, with the file evicted after each. -/
def evictingEvents : List (Event (resourceSignature (Jpeg (ℕ × ℕ))) Bool) :=
  (List.replicate 12 [.turn false, .turn true, .evict (.sourceImages ['f'])]).flatten

theorem finished_as_uncached_evicting :
    ((fileServer.start bothCalls (oneFile (squareJpeg .samp444))).run evictingEvents).program
        false = .done (.ok ⟨32, 32⟩ : Except Throwable ImageInfo) :=
  finished_as_uncached fileServer bothCalls (oneFile (squareJpeg .samp444)) (by decide)
    (by decide)

end Runs

end IiifImage.ImageServer
