import IiifImage.Caching.Program

/-!
# Programs with one cache, in any order

Many programs run side by side.  One of them carries out its next operation at a time, in
any order.  Between two operations any entry can be evicted, and the source can change.
-/

namespace IiifImage.Caching

variable {sig : Signature} {τ : Type} {ρ : τ → Type}

/-- The source, the cache and what is left of each program. -/
structure System (sig : Signature) (τ : Type) (ρ : τ → Type) where
  source : (question : sig.Question) → sig.Answer question
  cache : (key : sig.Key) → Option (sig.Entry key)
  program : (thread : τ) → Program sig (ρ thread)

inductive Event (sig : Signature) (τ : Type) where
  | turn (thread : τ)
  | evict (key : sig.Key)
  | change (source : (question : sig.Question) → sig.Answer question)

namespace Event

def isTurnOf [DecidableEq τ] (thread : τ) : Event sig τ → Bool
  | turn other => other = thread
  | _ => false

def keepsSource : Event sig τ → Bool
  | change _ => false
  | _ => true

end Event

namespace System

section Steps

variable [DecidableEq τ] [DecidableEq sig.Key]

/-- The system with another program for one thread. -/
def resume (system : System sig τ ρ) (thread : τ) (program : Program sig (ρ thread)) :
    System sig τ ρ :=
  { system with program := Function.update system.program thread program }

/-- A thread carries out its next operation. -/
def advance (system : System sig τ ρ) (thread : τ) : System sig τ ρ :=
  match system.program thread with
  | .done _ => system
  | .ask question next => system.resume thread (next (system.source question))
  | .lookup key next => system.resume thread (next (system.cache key))
  | .store key value next =>
      { system.resume thread next with cache := Function.update system.cache key (some value) }

def step (system : System sig τ ρ) : Event sig τ → System sig τ ρ
  | .turn thread => system.advance thread
  | .evict key => { system with cache := Function.update system.cache key none }
  | .change source => { system with source := source }

def run (system : System sig τ ρ) (events : List (Event sig τ)) : System sig τ ρ :=
  events.foldl step system

@[simp] theorem run_nil (system : System sig τ ρ) : system.run [] = system := rfl

@[simp] theorem run_cons (system : System sig τ ρ) (event : Event sig τ)
    (events : List (Event sig τ)) :
    system.run (event :: events) = (system.step event).run events := rfl

end Steps

/-- The answers that the source gives at some time of a run. -/
def Versions (system : System sig τ ρ) (events : List (Event sig τ))
    (question : sig.Question) (answer : sig.Answer question) : Prop :=
  answer = system.source question ∨
    ∃ source, Event.change source ∈ events ∧ answer = source question

/-- A source that no event changes has one version. -/
theorem versions_of_keepsSource {system : System sig τ ρ} {events : List (Event sig τ)}
    (keeps : ∀ event ∈ events, event.keepsSource = true) :
    system.Versions events = fun question answer => answer = system.source question := by
  funext question answer
  refine propext ⟨fun version => ?_, .inl⟩
  rcases version with current | ⟨source, changes, -⟩
  · exact current
  · exact absurd (keeps _ changes) (by simp [Event.keepsSource])

/-! ## What all programs rely on -/

section Rules

variable {offers : (question : sig.Question) → sig.Answer question → Prop}
variable {valid : (key : sig.Key) → sig.Entry key → Prop}
variable {post : (thread : τ) → ρ thread → Prop}

/-- The source answers as offered, every entry is valid, and every program ensures its
postcondition. -/
structure Sound (offers : (question : sig.Question) → sig.Answer question → Prop)
    (valid : (key : sig.Key) → sig.Entry key → Prop)
    (post : (thread : τ) → ρ thread → Prop) (system : System sig τ ρ) : Prop where
  offered : ∀ question, offers question (system.source question)
  entries : ∀ key value, system.cache key = some value → valid key value
  ensured : ∀ thread, (system.program thread).Ensures offers valid (post thread)

/-- A finished program has a result with the property that it ensures. -/
theorem Sound.of_finished {system : System sig τ ρ} (sound : system.Sound offers valid post)
    {thread : τ} {result : ρ thread} (finished : system.program thread = .done result) :
    post thread result := by
  have ensured := sound.ensured thread
  rw [finished] at ensured
  exact ensured

theorem Sound.resume [DecidableEq τ] {system : System sig τ ρ}
    (sound : system.Sound offers valid post)
    {thread : τ} {program : Program sig (ρ thread)}
    (ensures : program.Ensures offers valid (post thread)) :
    (system.resume thread program).Sound offers valid post where
  offered := sound.offered
  entries := sound.entries
  ensured other := by
    rw [System.resume]
    by_cases same : other = thread
    · subst same
      simpa using ensures
    · simpa [same] using sound.ensured other

theorem Sound.update [DecidableEq sig.Key] {system : System sig τ ρ}
    (sound : system.Sound offers valid post)
    {key : sig.Key} {found : Option (sig.Entry key)}
    (entered : ∀ value, found = some value → valid key value) :
    { system with cache := Function.update system.cache key found : System sig τ ρ }.Sound
      offers valid post where
  offered := sound.offered
  entries other value := by
    by_cases same : other = key
    · subst same
      simpa using entered value
    · simpa [same] using sound.entries other value
  ensured := sound.ensured

variable [DecidableEq τ] [DecidableEq sig.Key]

/-- An operation of one program keeps what all rely on. -/
theorem Sound.advance {system : System sig τ ρ} (sound : system.Sound offers valid post)
    (thread : τ) : (system.advance thread).Sound offers valid post := by
  have ensures := sound.ensured thread
  rw [System.advance]
  cases current : system.program thread with
  | done result => exact sound
  | ask question next =>
      rw [current] at ensures
      exact sound.resume (ensures _ (sound.offered question))
  | lookup key next =>
      rw [current] at ensures
      refine sound.resume ?_
      cases found : system.cache key with
      | none => exact ensures.1
      | some value => exact ensures.2 value (sound.entries key value found)
  | store key value next =>
      rw [current] at ensures
      exact (sound.resume ensures.2).update fun entered same => by
        cases same
        exact ensures.1

theorem Sound.step {system : System sig τ ρ} (sound : system.Sound offers valid post)
    {event : Event sig τ}
    (changes : ∀ source, event = .change source → ∀ question, offers question (source question)) :
    (system.step event).Sound offers valid post := by
  cases event with
  | turn thread => exact sound.advance thread
  | evict key => exact sound.update fun value absurd => by cases absurd
  | change source => exact ⟨changes source rfl, sound.entries, sound.ensured⟩

/-- What all programs rely on holds after any run. -/
theorem Sound.run {system : System sig τ ρ} (sound : system.Sound offers valid post)
    {events : List (Event sig τ)}
    (changes : ∀ source, Event.change source ∈ events → ∀ question,
      offers question (source question)) :
    (system.run events).Sound offers valid post := by
  induction events generalizing system with
  | nil => exact sound
  | cons event events ih =>
      rw [run_cons]
      exact ih (sound.step fun source same => changes source (same ▸ List.mem_cons_self))
        fun source later => changes source (List.mem_cons_of_mem event later)

/-- Transparent programs that start with valid entries rely on the versions of the source. -/
theorem sound_of_transparent {system : System sig τ ρ} (events : List (Event sig τ))
    (entries : ∀ key value, system.cache key = some value → valid key value)
    (transparent : ∀ thread,
      (system.program thread).Transparent (system.Versions events) valid) :
    (system.run events).Sound (system.Versions events) valid
      fun thread => (system.program thread).Yields (system.Versions events) := by
  have sound : system.Sound (system.Versions events) valid
      fun thread => (system.program thread).Yields (system.Versions events) :=
    ⟨fun question => .inl rfl, entries, transparent⟩
  exact sound.run fun source changes question => .inr ⟨source, changes, rfl⟩

end Rules

/-! ## Progress -/

section Progress

theorem program_resume_self [DecidableEq τ] (system : System sig τ ρ) (thread : τ)
    (program : Program sig (ρ thread)) :
    (system.resume thread program).program thread = program := by
  simp [resume]

theorem program_resume_of_ne [DecidableEq τ] (system : System sig τ ρ) {thread other : τ}
    (differs : other ≠ thread) (program : Program sig (ρ thread)) :
    (system.resume thread program).program other = system.program other := by
  simp [resume, differs]

variable [DecidableEq τ] [DecidableEq sig.Key]

/-- A turn takes one operation off the program that has it. -/
theorem endsWithin_advance {system : System sig τ ρ} {thread : τ} {n : ℕ}
    (ends : (system.program thread).EndsWithin (n + 1)) :
    ((system.advance thread).program thread).EndsWithin n := by
  rw [advance]
  cases current : system.program thread with
  | done result =>
      dsimp only
      rw [current]
      exact Program.endsWithin_done n result
  | ask question next =>
      rw [current] at ends
      dsimp only
      rw [program_resume_self]
      exact ends _
  | lookup key next =>
      rw [current] at ends
      dsimp only
      rw [program_resume_self]
      exact ends _
  | store key value next =>
      rw [current] at ends
      dsimp only
      rw [program_resume_self]
      exact ends

/-- A turn of another thread leaves a program as it is. -/
theorem program_advance_of_ne (system : System sig τ ρ) {thread other : τ}
    (differs : other ≠ thread) :
    (system.advance thread).program other = system.program other := by
  rw [advance]
  cases system.program thread with
  | done result => rfl
  | ask question next => exact program_resume_of_ne system differs _
  | lookup key next => exact program_resume_of_ne system differs _
  | store key value next => exact program_resume_of_ne system differs _

theorem program_step_of_not_turn (system : System sig τ ρ) {thread : τ}
    {event : Event sig τ} (idle : event.isTurnOf thread = false) :
    (system.step event).program thread = system.program thread := by
  cases event with
  | turn other =>
      refine program_advance_of_ne system fun same => ?_
      simp [Event.isTurnOf, same] at idle
  | evict key => rfl
  | change source => rfl

/-- A program has ended when it has had as many turns as it has operations, whatever the
others do. -/
theorem finished_of_turns {system : System sig τ ρ} {events : List (Event sig τ)} {thread : τ}
    {n : ℕ} (ends : (system.program thread).EndsWithin n)
    (turns : n ≤ events.countP (Event.isTurnOf thread)) :
    ∃ result, (system.run events).program thread = .done result := by
  induction events generalizing system n with
  | nil =>
      rw [List.countP_nil, Nat.le_zero] at turns
      subst turns
      rw [run_nil]
      cases current : system.program thread with
      | done result => exact ⟨result, rfl⟩
      | ask question next => exact (current ▸ ends : (Program.ask question next).EndsWithin 0).elim
      | lookup key next => exact (current ▸ ends : (Program.lookup key next).EndsWithin 0).elim
      | store key value next =>
          exact (current ▸ ends : (Program.store key value next).EndsWithin 0).elim
  | cons event events ih =>
      rw [run_cons]
      cases took : event.isTurnOf thread with
      | false =>
          rw [List.countP_cons_of_neg (by simp [took])] at turns
          refine ih ?_ turns
          rw [program_step_of_not_turn system took]
          exact ends
      | true =>
          rw [List.countP_cons_of_pos took] at turns
          have turned : event = .turn thread := by
            cases event with
            | turn other => rw [of_decide_eq_true took]
            | evict key => cases took
            | change source => cases took
          subst turned
          cases n with
          | zero =>
              exact ih (endsWithin_advance (ends.le (Nat.zero_le 1))) (Nat.zero_le _)
          | succ n => exact ih (endsWithin_advance ends) (Nat.le_of_succ_le_succ turns)

/-- While the source does not change, a transparent program that has had its turns has ended
as it does alone and without a cache. -/
theorem finished_eq_eval {valid : (key : sig.Key) → sig.Entry key → Prop}
    {system : System sig τ ρ} {events : List (Event sig τ)} {thread : τ} {n : ℕ}
    (entries : ∀ key value, system.cache key = some value → valid key value)
    (transparent : ∀ thread,
      (system.program thread).Transparent (system.Versions events) valid)
    (keeps : ∀ event ∈ events, event.keepsSource = true)
    (ends : (system.program thread).EndsWithin n)
    (turns : n ≤ events.countP (Event.isTurnOf thread)) :
    (system.run events).program thread =
      .done ((system.program thread).eval system.source) := by
  rcases finished_of_turns ends turns with ⟨result, finished⟩
  have reached := (sound_of_transparent events entries transparent).of_finished finished
  rw [versions_of_keepsSource keeps] at reached
  rw [finished, Program.yields_fixed.mp reached]

end Progress

end System

end IiifImage.Caching
