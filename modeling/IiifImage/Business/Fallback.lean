import IiifImage.Business.ImageService

/-!
# Falling back to the next repository

`getImage` passes over a repository that throws and returns whatever the first one
that does not throw returns.  A derived repository reports some failures by returning
`null`, and these end the search.
-/

namespace IiifImage.ImageService

open Java

variable {σ : Type}

section Search

variable (identifier : JString) (region : Option RegionParameters)
variable (outputFormat : ImageFormat) (bitDepth : Option ImageBitDepth)

/-- The outcome of `createImage` for a repository that supports the request. -/
def attempt (repo : AbstractImageRepository σ) : Option (Except Throwable σ) :=
  if repo.toImageRepository.supports region outputFormat bitDepth then
    some (repo.createImage identifier region)
  else none

/-- The image that a repository has for the request. -/
def offer (repo : AbstractImageRepository σ) : Option σ :=
  match attempt identifier region outputFormat bitDepth repo with
  | some (.ok image) => some image
  | _ => none

/-- The repository supports the request and fails in a way that it reports with
`null`. -/
def returnsNull (repo : AbstractImageRepository σ) : Bool :=
  match attempt identifier region outputFormat bitDepth repo with
  | some (.error exception) => exception.isResolving || exception.isIOException
  | _ => false

/-- `createImage` does not throw the two exceptions that `getImage` passes on. -/
def Survivable (repo : AbstractImageRepository σ) : Prop :=
  ∀ exception, attempt identifier region outputFormat bitDepth repo =
      some (.error exception) →
    exception.isIllegalArgument = false ∧ exception.isInvalidParameters = false

variable {identifier region outputFormat bitDepth}
variable {repo : AbstractImageRepository σ} {repos : List (AbstractImageRepository σ)}

/-- The search over derived repositories. -/
abbrev search (identifier : JString) (region : Option RegionParameters)
    (outputFormat : ImageFormat) (bitDepth : Option ImageBitDepth)
    (repos : List (AbstractImageRepository σ)) : Except Throwable (Option σ) :=
  getImage identifier region outputFormat bitDepth
    (repos.map AbstractImageRepository.toImageRepository)

/-- What the loop does with one repository. -/
theorem search_cons :
    search identifier region outputFormat bitDepth (repo :: repos) =
      match attempt identifier region outputFormat bitDepth repo with
      | none => search identifier region outputFormat bitDepth repos
      | some (.ok image) => .ok (some image)
      | some (.error exception) =>
          if exception.isResolving || exception.isIOException then .ok none
          else if exception.isIllegalArgument then
            .error (.invalidParameters (some "Illegal offsets."))
          else if exception.isInvalidParameters then .error exception
          else search identifier region outputFormat bitDepth repos := by
  have declines : (!repo.toImageRepository.supportsCropOperation region
      || !repo.toImageRepository.supportsOutputFormat outputFormat
      || !repo.toImageRepository.supportsBitDepth bitDepth) =
      !repo.toImageRepository.supports region outputFormat bitDepth := by
    simp only [ImageRepository.supports, Bool.not_and]
  rw [search, List.map_cons, getImage, attempt, declines]
  cases repo.toImageRepository.supports region outputFormat bitDepth with
  | false => rfl
  | true =>
      simp only [AbstractImageRepository.toImageRepository, ImageRepository.abstractGetImage]
      cases repo.createImage identifier region with
      | ok image => rfl
      | error exception => cases exception <;> rfl

/-- The repositories before the first one that has an image. -/
def passedOver (identifier : JString) (region : Option RegionParameters)
    (outputFormat : ImageFormat) (bitDepth : Option ImageBitDepth)
    (repos : List (AbstractImageRepository σ)) : List (AbstractImageRepository σ) :=
  repos.takeWhile fun repo => (offer identifier region outputFormat bitDepth repo).isNone

/-- The image of the first repository that has one. -/
def firstOffer (identifier : JString) (region : Option RegionParameters)
    (outputFormat : ImageFormat) (bitDepth : Option ImageBitDepth)
    (repos : List (AbstractImageRepository σ)) : Option σ :=
  repos.findSome? (offer identifier region outputFormat bitDepth)

/-- When some repository has an image, the search returns the first one exactly when no
repository before it returns `null`. -/
theorem search_eq_firstOffer_iff {image : σ}
    (survivable : ∀ repo ∈ repos, Survivable identifier region outputFormat bitDepth repo)
    (available : firstOffer identifier region outputFormat bitDepth repos = some image) :
    search identifier region outputFormat bitDepth repos = .ok (some image) ↔
      ∀ repo ∈ passedOver identifier region outputFormat bitDepth repos,
        returnsNull identifier region outputFormat bitDepth repo = false := by
  induction repos with
  | nil => cases available
  | cons repo repos ih =>
      rcases List.forall_mem_cons.mp survivable with ⟨survives, restSurvive⟩
      have ih := ih restSurvive
      rw [search_cons]
      cases attempted : attempt identifier region outputFormat bitDepth repo with
      | none =>
          have declined : offer identifier region outputFormat bitDepth repo = none := by
            rw [offer, attempted]
          rw [firstOffer, List.findSome?_cons, declined] at available
          simp only [ih available, passedOver, List.takeWhile_cons, declined, returnsNull,
            attempted, Option.isNone_none, if_true, List.forall_mem_cons, true_and]
      | some outcome =>
          cases outcome with
          | ok created =>
              have offered : offer identifier region outputFormat bitDepth repo =
                  some created := by
                rw [offer, attempted]
              rw [firstOffer, List.findSome?_cons, offered] at available
              simp only [passedOver, List.takeWhile_cons, offered, Option.isNone_some,
                Bool.false_eq_true, if_false, List.not_mem_nil, false_imp_iff, implies_true,
                iff_true]
              exact congrArg Except.ok available
          | error exception =>
              have declined : offer identifier region outputFormat bitDepth repo = none := by
                rw [offer, attempted]
              rcases survives exception attempted with ⟨legal, valid⟩
              rw [firstOffer, List.findSome?_cons, declined] at available
              simp only [passedOver, List.takeWhile_cons, declined, returnsNull, attempted,
                Option.isNone_none, if_true, List.forall_mem_cons, legal, valid,
                Bool.false_eq_true, if_false]
              cases reported : exception.isResolving || exception.isIOException with
              | true => simp
              | false =>
                  simp only [Bool.false_eq_true, if_false, true_and]
                  exact ih available

/-- An image that the search returns is the first one there is. -/
theorem firstOffer_of_search_eq {image : σ}
    (found : search identifier region outputFormat bitDepth repos = .ok (some image)) :
    firstOffer identifier region outputFormat bitDepth repos = some image := by
  induction repos with
  | nil => cases found
  | cons repo repos ih =>
      rw [search_cons] at found
      rw [firstOffer, List.findSome?_cons, offer]
      cases attempted : attempt identifier region outputFormat bitDepth repo with
      | none =>
          rw [attempted] at found
          exact ih found
      | some outcome =>
          rw [attempted] at found
          cases outcome with
          | ok created => exact congrArg some (Option.some.inj (Except.ok.inj found))
          | error exception =>
              dsimp only at found ⊢
              split at found
              · cases found
              split at found
              · cases found
              split at found
              · cases found
              · exact ih found

/-- `getImage` returns the image of the first supporting repository that has one, and
no image otherwise. -/
def FallsBack (identifier : JString) (region : Option RegionParameters)
    (outputFormat : ImageFormat) (bitDepth : Option ImageBitDepth)
    (repos : List (AbstractImageRepository σ)) : Prop :=
  ∀ image, getImage identifier region outputFormat bitDepth
      (repos.map AbstractImageRepository.toImageRepository) = .ok (some image) ↔
    firstOffer identifier region outputFormat bitDepth repos = some image

/-- `getImage` returns the image of the first supporting repository that has one, for
every list of derived repositories, exactly when no supporting repository before that
one reports its failure with `null`. -/
theorem getImage_falls_back_iff (identifier : JString) (region : Option RegionParameters)
    (outputFormat : ImageFormat) (bitDepth : Option ImageBitDepth)
    (repos : List (AbstractImageRepository σ))
    (survivable : ∀ repo ∈ repos, Survivable identifier region outputFormat bitDepth repo) :
    FallsBack identifier region outputFormat bitDepth repos ↔
      firstOffer identifier region outputFormat bitDepth repos = none ∨
        ∀ repo ∈ passedOver identifier region outputFormat bitDepth repos,
          returnsNull identifier region outputFormat bitDepth repo = false := by
  constructor
  · intro fallsBack
    cases available : firstOffer identifier region outputFormat bitDepth repos with
    | none => exact .inl rfl
    | some image =>
        have found := (fallsBack image).mpr available
        exact .inr ((search_eq_firstOffer_iff survivable available).mp found)
  · intro unobstructed image
    refine ⟨firstOffer_of_search_eq, fun available => ?_⟩
    apply (search_eq_firstOffer_iff survivable available).mpr
    apply unobstructed.resolve_left
    rw [available]
    exact Option.some_ne_none image

/-- Two repositories for every request, of which only the second can read the data. -/
def readerFails (exception : Throwable) : List (AbstractImageRepository Unit) :=
  [⟨fun _ => true, fun _ => true, fun _ => true, fun _ _ => .error exception⟩,
    ⟨fun _ => true, fun _ => true, fun _ => true, fun _ _ => .ok ()⟩]

/-- A repository that does not know the format is passed over. -/
theorem getImage_falls_back_unsupported :
    FallsBack [] none .jpeg none (readerFails (.unsupportedFormat none)) :=
  (getImage_falls_back_iff [] none .jpeg none (readerFails (.unsupportedFormat none))
    (by
      intro repo listed exception fails
      simp only [readerFails, List.mem_cons, List.not_mem_nil, or_false] at listed
      rcases listed with rfl | rfl
      · cases fails
        exact ⟨rfl, rfl⟩
      · cases fails)).mpr (.inr (by
      intro repo listed
      have member := (List.takeWhile_sublist _).subset listed
      simp only [readerFails, List.mem_cons, List.not_mem_nil, or_false] at member
      rcases member with rfl | rfl <;> rfl))

/-- A repository whose decoder throws a `TJException` ends the search. -/
theorem getImage_stops_at_null :
    firstOffer [] none .jpeg none (readerFails (.tj none)) = some () ∧
      getImage [] none .jpeg none
        ((readerFails (.tj none)).map AbstractImageRepository.toImageRepository) =
          .ok none :=
  ⟨rfl, rfl⟩

end Search

end IiifImage.ImageService
