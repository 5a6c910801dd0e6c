import Mathlib.Logic.Function.Basic
import Mathlib.Tactic.Common

/-!
# Programs that keep what they compute

A program asks questions of a source and keeps values under keys in a cache that it shares
with others.  Without its cache it has the outcomes that the answers lead to.  A program is
transparent if no valid entry that it may find leads it to another outcome.
-/

namespace IiifImage.Caching

/-- What programs can ask for, and what they can keep. -/
structure Signature where
  Question : Type
  Answer : Question → Type
  Key : Type
  Entry : Key → Type

/-- A program with one constructor for each operation that others can come before or
after. -/
inductive Program (sig : Signature) (ρ : Type) where
  | done (result : ρ)
  | ask (question : sig.Question) (next : sig.Answer question → Program sig ρ)
  | lookup (key : sig.Key) (next : Option (sig.Entry key) → Program sig ρ)
  | store (key : sig.Key) (value : sig.Entry key) (next : Program sig ρ)

namespace Program

variable {sig : Signature} {ρ τ ε : Type}

def bind : Program sig ρ → (ρ → Program sig τ) → Program sig τ
  | done result, following => following result
  | ask question next, following => ask question fun answer => (next answer).bind following
  | lookup key next, following => lookup key fun found => (next found).bind following
  | store key value next, following => store key value (next.bind following)

instance : Monad (Program sig) where
  pure := done
  bind := bind

@[simp] theorem done_bind (result : ρ) (following : ρ → Program sig τ) :
    done result >>= following = following result := rfl

@[simp] theorem ask_bind (question : sig.Question) (next : sig.Answer question → Program sig ρ)
    (following : ρ → Program sig τ) :
    ask question next >>= following = ask question fun answer => next answer >>= following :=
  rfl

@[simp] theorem lookup_bind (key : sig.Key) (next : Option (sig.Entry key) → Program sig ρ)
    (following : ρ → Program sig τ) :
    lookup key next >>= following = lookup key fun found => next found >>= following := rfl

@[simp] theorem store_bind (key : sig.Key) (value : sig.Entry key) (next : Program sig ρ)
    (following : ρ → Program sig τ) :
    store key value next >>= following = store key value (next >>= following) := rfl

/-- Take the value under a key from the cache, or compute it and put it there.  A failure is
not kept. -/
def cached (key : sig.Key) (compute : Program sig (Except ε (sig.Entry key))) :
    Program sig (Except ε (sig.Entry key)) :=
  lookup key fun
    | some value => done (.ok value)
    | none => compute >>= fun
        | .ok value => store key value (done (.ok value))
        | .error failure => done (.error failure)

/-! ## Outcomes without the cache -/

/-- The result on a source that does not change, with a cache that is always empty. -/
def eval (source : (question : sig.Question) → sig.Answer question) : Program sig ρ → ρ
  | done result => result
  | ask question next => (next (source question)).eval source
  | lookup _ next => (next none).eval source
  | store _ _ next => next.eval source

/-- The results that the offered answers can lead to, with a cache that is always empty. -/
def Yields (offers : (question : sig.Question) → sig.Answer question → Prop) :
    Program sig ρ → ρ → Prop
  | done result, outcome => outcome = result
  | ask question next, outcome =>
      ∃ answer, offers question answer ∧ (next answer).Yields offers outcome
  | lookup _ next, outcome => (next none).Yields offers outcome
  | store _ _ next, outcome => next.Yields offers outcome

section Outcomes

variable {source : (question : sig.Question) → sig.Answer question}
variable {offers : (question : sig.Question) → sig.Answer question → Prop}

@[simp] theorem eval_pure (result : ρ) :
    (pure result : Program sig ρ).eval source = result := rfl

@[simp] theorem eval_bind (program : Program sig ρ) (following : ρ → Program sig τ) :
    (program >>= following).eval source = (following (program.eval source)).eval source := by
  induction program with
  | done result => rfl
  | ask question next ih => exact ih (source question)
  | lookup key next ih => exact ih none
  | store key value next ih => exact ih

/-- A cache that is always empty does not show. -/
@[simp] theorem eval_cached (key : sig.Key)
    (compute : Program sig (Except ε (sig.Entry key))) :
    (cached key compute).eval source = compute.eval source := by
  rw [cached, eval, eval_bind]
  cases compute.eval source <;> rfl

theorem yields_bind {program : Program sig ρ} {following : ρ → Program sig τ} {outcome : τ} :
    (program >>= following).Yields offers outcome ↔
      ∃ result, program.Yields offers result ∧ (following result).Yields offers outcome := by
  induction program with
  | done result => simp [Yields]
  | ask question next ih =>
      simp only [ask_bind, Yields, ih]
      constructor
      · intro reached
        rcases reached with ⟨answer, offered, result, first, second⟩
        exact ⟨result, ⟨answer, offered, first⟩, second⟩
      · intro reached
        rcases reached with ⟨result, ⟨answer, offered, first⟩, second⟩
        exact ⟨answer, offered, result, first, second⟩
  | lookup key next ih => exact ih none
  | store key value next ih => exact ih

theorem yields_cached {key : sig.Key} {compute : Program sig (Except ε (sig.Entry key))}
    {outcome : Except ε (sig.Entry key)} :
    (cached key compute).Yields offers outcome ↔ compute.Yields offers outcome := by
  rw [cached, Yields, yields_bind]
  constructor
  · intro reached
    rcases reached with ⟨result, first, second⟩
    cases result with
    | ok value => exact (second : outcome = .ok value) ▸ first
    | error failure => exact (second : outcome = .error failure) ▸ first
  · intro reached
    refine ⟨outcome, reached, ?_⟩
    cases outcome <;> rfl

/-- Where the source does not change, it leads to one result. -/
theorem yields_fixed {program : Program sig ρ} {outcome : ρ} :
    program.Yields (fun question answer => answer = source question) outcome ↔
      outcome = program.eval source := by
  induction program with
  | done result => exact Iff.rfl
  | ask question next ih => simp [Yields, eval, ih]
  | lookup key next ih => exact ih none
  | store key value next ih => exact ih

end Outcomes

/-! ## Programs among others -/

section Conditions

variable (offers : (question : sig.Question) → sig.Answer question → Prop)
variable (valid : (key : sig.Key) → sig.Entry key → Prop)

/-- The program keeps valid entries only, and on offered answers and valid entries it ends
with a result that has the property. -/
def Ensures (post : ρ → Prop) : Program sig ρ → Prop
  | done result => post result
  | ask question next => ∀ answer, offers question answer → (next answer).Ensures post
  | lookup key next =>
      (next none).Ensures post ∧ ∀ value, valid key value → (next (some value)).Ensures post
  | store key value next => valid key value ∧ next.Ensures post

/-- Whatever valid entries it finds, the program has an outcome that it has without them. -/
def Transparent (program : Program sig ρ) : Prop :=
  program.Ensures offers valid (program.Yields offers)

variable {offers valid}

theorem Ensures.mono {post post' : ρ → Prop} (weaker : ∀ result, post result → post' result)
    {program : Program sig ρ} (ensures : program.Ensures offers valid post) :
    program.Ensures offers valid post' := by
  induction program with
  | done result => exact weaker result ensures
  | ask question next ih => exact fun answer offered => ih answer (ensures answer offered)
  | lookup key next ih =>
      exact ⟨ih none ensures.1, fun value entered => ih (some value) (ensures.2 value entered)⟩
  | store key value next ih => exact ⟨ensures.1, ih ensures.2⟩

/-- The rule of sequencing. -/
theorem Ensures.bind {mid : ρ → Prop} {post : τ → Prop} {program : Program sig ρ}
    {following : ρ → Program sig τ} (first : program.Ensures offers valid mid)
    (second : ∀ result, mid result → (following result).Ensures offers valid post) :
    (program >>= following).Ensures offers valid post := by
  induction program with
  | done result => exact second result first
  | ask question next ih => exact fun answer offered => ih answer (first answer offered)
  | lookup key next ih =>
      exact ⟨ih none first.1, fun value entered => ih (some value) (first.2 value entered)⟩
  | store key value next ih => exact ⟨first.1, ih first.2⟩

namespace Transparent

theorem done (result : ρ) : (done result : Program sig ρ).Transparent offers valid := rfl

theorem ask {question : sig.Question} {next : sig.Answer question → Program sig ρ}
    (transparent : ∀ answer, (next answer).Transparent offers valid) :
    (ask question next).Transparent offers valid := by
  intro answer offered
  exact (transparent answer).mono fun result reached => ⟨answer, offered, reached⟩

theorem bind {program : Program sig ρ} {following : ρ → Program sig τ}
    (first : program.Transparent offers valid)
    (second : ∀ result, (following result).Transparent offers valid) :
    (program >>= following).Transparent offers valid := by
  refine Ensures.bind first fun result reached => (second result).mono ?_
  intro outcome ends
  exact yields_bind.mpr ⟨result, reached, ends⟩

/-- A cached computation is transparent if the valid entries are what it can compute. -/
theorem cached {key : sig.Key} {compute : Program sig (Except ε (sig.Entry key))}
    (computed : ∀ value, valid key value ↔ compute.Yields offers (.ok value))
    (transparent : compute.Transparent offers valid) :
    (cached key compute).Transparent offers valid := by
  have same : (Program.cached key compute).Yields offers = compute.Yields offers :=
    funext fun outcome => propext yields_cached
  rw [Transparent, same, Program.cached]
  constructor
  · refine Ensures.bind transparent fun result reached => ?_
    cases result with
    | ok value => exact ⟨(computed value).mpr reached, reached⟩
    | error failure => exact reached
  · intro value entered
    exact (computed value).mp entered

end Transparent

end Conditions

/-! ## The number of operations -/

/-- The program ends after at most so many operations. -/
def EndsWithin : ℕ → Program sig ρ → Prop
  | _, done _ => True
  | 0, _ => False
  | n + 1, ask _ next => ∀ answer, (next answer).EndsWithin n
  | n + 1, lookup _ next => ∀ found, (next found).EndsWithin n
  | n + 1, store _ _ next => next.EndsWithin n

theorem endsWithin_done (n : ℕ) (result : ρ) : (done result : Program sig ρ).EndsWithin n := by
  cases n <;> trivial

theorem EndsWithin.le {m n : ℕ} {program : Program sig ρ} (ends : program.EndsWithin m)
    (bound : m ≤ n) : program.EndsWithin n := by
  induction program generalizing m n with
  | done result => exact endsWithin_done n result
  | ask question next ih =>
      cases m with
      | zero => exact ends.elim
      | succ m =>
          cases n with
          | zero => omega
          | succ n => exact fun answer => ih answer (ends answer) (by omega)
  | lookup key next ih =>
      cases m with
      | zero => exact ends.elim
      | succ m =>
          cases n with
          | zero => omega
          | succ n => exact fun found => ih found (ends found) (by omega)
  | store key value next ih =>
      cases m with
      | zero => exact ends.elim
      | succ m =>
          cases n with
          | zero => omega
          | succ n => exact ih ends (by omega)

theorem EndsWithin.bind {m n : ℕ} {program : Program sig ρ} {following : ρ → Program sig τ}
    (first : program.EndsWithin m) (second : ∀ result, (following result).EndsWithin n) :
    (program >>= following).EndsWithin (m + n) := by
  induction program generalizing m with
  | done result => exact (second result).le (by omega)
  | ask question next ih =>
      cases m with
      | zero => exact first.elim
      | succ m =>
          rw [Nat.succ_add]
          exact fun answer => ih answer (first answer)
  | lookup key next ih =>
      cases m with
      | zero => exact first.elim
      | succ m =>
          rw [Nat.succ_add]
          exact fun found => ih found (first found)
  | store key value next ih =>
      cases m with
      | zero => exact first.elim
      | succ m =>
          rw [Nat.succ_add]
          exact ih first

/-- A cached computation takes two operations more. -/
theorem EndsWithin.cached {n : ℕ} {key : sig.Key}
    {compute : Program sig (Except ε (sig.Entry key))} (ends : compute.EndsWithin n) :
    (cached key compute).EndsWithin (n + 2) := by
  intro found
  cases found with
  | some value => exact endsWithin_done _ _
  | none =>
      refine EndsWithin.bind ends fun result => ?_
      cases result <;> trivial

end Program

/-! ## Programs that can fail -/

/-- A program that ends with a result or a failure. -/
abbrev Attempt (sig : Signature) (ε ρ : Type) := ExceptT ε (Program sig) ρ

namespace Attempt

variable {sig : Signature} {ρ τ ε : Type}

def given (outcome : Except ε ρ) : Attempt sig ε ρ := ExceptT.mk (.done outcome)

/-- Replace some failures of an attempt. -/
def mapOutcome (f : Except ε ρ → Except ε τ) (attempt : Attempt sig ε ρ) : Attempt sig ε τ :=
  ExceptT.mk (attempt.run >>= fun outcome => .done (f outcome))

/-- Go on with another attempt, whatever the outcome of the first is. -/
def continueWith (attempt : Attempt sig ε ρ) (following : Except ε ρ → Attempt sig ε τ) :
    Attempt sig ε τ :=
  ExceptT.mk (attempt.run >>= fun outcome => (following outcome).run)

/-- The continuation of a sequence, which a failure skips. -/
def skipping (following : ρ → Attempt sig ε τ) : Except ε ρ → Attempt sig ε τ
  | .ok result => following result
  | .error failure => given (.error failure)

theorem bind_eq_continueWith (attempt : Attempt sig ε ρ) (following : ρ → Attempt sig ε τ) :
    attempt >>= following = attempt.continueWith (skipping following) := by
  refine congrArg (Program.bind attempt.run) (funext fun outcome => ?_)
  cases outcome <;> rfl

section Rules

variable {source : (question : sig.Question) → sig.Answer question}
variable {offers : (question : sig.Question) → sig.Answer question → Prop}
variable {valid : (key : sig.Key) → sig.Entry key → Prop}

@[simp] theorem eval_given (outcome : Except ε ρ) :
    (given outcome : Attempt sig ε ρ).run.eval source = outcome := rfl

@[simp] theorem eval_mapOutcome (f : Except ε ρ → Except ε τ) (attempt : Attempt sig ε ρ) :
    (attempt.mapOutcome f).run.eval source = f (attempt.run.eval source) :=
  Program.eval_bind _ _

@[simp] theorem eval_continueWith (attempt : Attempt sig ε ρ)
    (following : Except ε ρ → Attempt sig ε τ) :
    (attempt.continueWith following).run.eval source =
      (following (attempt.run.eval source)).run.eval source :=
  Program.eval_bind _ _

@[simp] theorem eval_bind (attempt : Attempt sig ε ρ) (following : ρ → Attempt sig ε τ) :
    (attempt >>= following).run.eval source =
      attempt.run.eval source >>= fun result => (following result).run.eval source := by
  rw [bind_eq_continueWith, eval_continueWith]
  cases attempt.run.eval source <;> rfl

theorem yields_continueWith {attempt : Attempt sig ε ρ}
    {following : Except ε ρ → Attempt sig ε τ} {outcome : Except ε τ} :
    (attempt.continueWith following).run.Yields offers outcome ↔
      ∃ first, attempt.run.Yields offers first ∧ (following first).run.Yields offers outcome :=
  Program.yields_bind

theorem yields_mapOutcome {f : Except ε ρ → Except ε τ} {attempt : Attempt sig ε ρ}
    {outcome : Except ε τ} :
    (attempt.mapOutcome f).run.Yields offers outcome ↔
      ∃ first, attempt.run.Yields offers first ∧ outcome = f first :=
  Program.yields_bind

/-- A sequence succeeds if both of its parts do. -/
theorem yields_bind_ok {attempt : Attempt sig ε ρ} {following : ρ → Attempt sig ε τ}
    {result : τ} :
    (attempt >>= following).run.Yields offers (.ok result) ↔
      ∃ first, attempt.run.Yields offers (.ok first) ∧
        (following first).run.Yields offers (.ok result) := by
  rw [bind_eq_continueWith, yields_continueWith]
  constructor
  · intro reached
    rcases reached with ⟨first, reached, ends⟩
    cases first with
    | ok first => exact ⟨first, reached, ends⟩
    | error failure => cases (ends : (Except.ok result : Except ε τ) = .error failure)
  · intro reached
    rcases reached with ⟨first, reached, ends⟩
    exact ⟨.ok first, reached, ends⟩

theorem transparent_given (outcome : Except ε ρ) :
    (given outcome : Attempt sig ε ρ).run.Transparent offers valid :=
  Program.Transparent.done outcome

theorem transparent_mapOutcome {f : Except ε ρ → Except ε τ} {attempt : Attempt sig ε ρ}
    (transparent : attempt.run.Transparent offers valid) :
    (attempt.mapOutcome f).run.Transparent offers valid :=
  transparent.bind fun _ => Program.Transparent.done _

theorem transparent_continueWith {attempt : Attempt sig ε ρ}
    {following : Except ε ρ → Attempt sig ε τ}
    (first : attempt.run.Transparent offers valid)
    (second : ∀ outcome, (following outcome).run.Transparent offers valid) :
    (attempt.continueWith following).run.Transparent offers valid :=
  first.bind second

theorem transparent_bind {attempt : Attempt sig ε ρ} {following : ρ → Attempt sig ε τ}
    (first : attempt.run.Transparent offers valid)
    (second : ∀ result, (following result).run.Transparent offers valid) :
    (attempt >>= following).run.Transparent offers valid := by
  rw [bind_eq_continueWith]
  refine transparent_continueWith first fun outcome => ?_
  cases outcome with
  | ok result => exact second result
  | error failure => exact transparent_given _

theorem endsWithin_given (n : ℕ) (outcome : Except ε ρ) :
    (given outcome : Attempt sig ε ρ).run.EndsWithin n := Program.endsWithin_done n outcome

theorem endsWithin_mapOutcome {f : Except ε ρ → Except ε τ} {attempt : Attempt sig ε ρ} {n : ℕ}
    (ends : attempt.run.EndsWithin n) : (attempt.mapOutcome f).run.EndsWithin n :=
  Program.EndsWithin.bind (n := 0) ends fun _ => Program.endsWithin_done 0 _

theorem endsWithin_continueWith {attempt : Attempt sig ε ρ}
    {following : Except ε ρ → Attempt sig ε τ} {m n : ℕ} (first : attempt.run.EndsWithin m)
    (second : ∀ outcome, (following outcome).run.EndsWithin n) :
    (attempt.continueWith following).run.EndsWithin (m + n) :=
  first.bind second

theorem endsWithin_bind {attempt : Attempt sig ε ρ} {following : ρ → Attempt sig ε τ}
    {m n : ℕ} (first : attempt.run.EndsWithin m)
    (second : ∀ result, (following result).run.EndsWithin n) :
    (attempt >>= following).run.EndsWithin (m + n) := by
  rw [bind_eq_continueWith]
  refine endsWithin_continueWith first fun outcome => ?_
  cases outcome with
  | ok result => exact second result
  | error failure => exact endsWithin_given n _

end Rules

end Attempt

end IiifImage.Caching
