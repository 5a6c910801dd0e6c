import IiifImage.Java.Method

/-!
# Sequences of method calls

A client calls the methods of an object one after the other and catches what they throw.
A property of the fields holds after every such sequence if each single call keeps it,
whether the call returns or throws.
-/

namespace IiifImage.Java.Method

variable {ε σ κ α β : Type}

/-- The fields after a call, whether it returned or threw. -/
def after (method : Method ε σ α) (state : σ) : σ := finalState (EStateM.run method state)

theorem after_of_ok {method : Method ε σ α} {state final : σ} {value : α}
    (returned : EStateM.run method state = .ok value final) : method.after state = final := by
  rw [after, returned, finalState_ok]

theorem after_of_error {method : Method ε σ α} {state final : σ} {exception : ε}
    (thrown : EStateM.run method state = .error exception final) :
    method.after state = final := by
  rw [after, thrown, finalState_error]

/-- Statements that keep an observation do not show in it. -/
theorem after_bind_of_keeps {observe : σ → κ} {first : Method ε σ α} {next : α → Method ε σ β}
    {state : σ} (keeps : ∀ value, Keeps observe (next value)) :
    observe ((first >>= next).after state) = observe (first.after state) := by
  cases ran : EStateM.run first state with
  | ok value mid =>
      rw [after, run_bind_ok ran, after_of_ok ran]
      exact keeps value mid
  | error exception mid => rw [after_of_error ran, after_of_error (run_bind_error ran)]

/-- The fields after a sequence of calls. -/
def afterAll (perform : κ → Method ε σ Unit) : List κ → σ → σ
  | [], state => state
  | call :: calls, state => afterAll perform calls ((perform call).after state)

/-- Every call of the sequence is made in a state that allows it. -/
def Allowed (perform : κ → Method ε σ Unit) (allows : κ → σ → Prop) : List κ → σ → Prop
  | [], _ => True
  | call :: calls, state =>
      allows call state ∧ Allowed perform allows calls ((perform call).after state)

theorem allowed_true (perform : κ → Method ε σ Unit) (calls : List κ) (state : σ) :
    Allowed perform (fun _ _ => True) calls state := by
  induction calls generalizing state with
  | nil => trivial
  | cons call calls ih => exact ⟨trivial, ih _⟩

/-- What every allowed call keeps holds after an allowed sequence. -/
theorem afterAll_of_allowed {perform : κ → Method ε σ Unit} {allows : κ → σ → Prop}
    {invariant : σ → Prop}
    (keeps : ∀ call state, allows call state → invariant state →
      invariant ((perform call).after state))
    {calls : List κ} {state : σ} (allowed : Allowed perform allows calls state)
    (holds : invariant state) : invariant (afterAll perform calls state) := by
  induction calls generalizing state with
  | nil => exact holds
  | cons call calls ih => exact ih allowed.2 (keeps call state allowed.1 holds)

/-- What every call keeps holds after every sequence. -/
theorem afterAll_of_keeps {perform : κ → Method ε σ Unit} {invariant : σ → Prop}
    (keeps : ∀ call state, invariant state → invariant ((perform call).after state))
    (calls : List κ) {state : σ} (holds : invariant state) :
    invariant (afterAll perform calls state) :=
  afterAll_of_allowed (fun call state _ => keeps call state) (allowed_true _ _ _) holds

/-! ## Methods that keep an invariant -/

/-- Every run of the method, returning or throwing, keeps the invariant. -/
def Preserves (invariant : σ → Prop) (method : Method ε σ α) : Prop :=
  ∀ state, invariant state → invariant (method.after state)

namespace Preserves

variable {invariant : σ → Prop}

theorem pure (value : α) : Preserves invariant (Pure.pure value : Method ε σ α) :=
  fun _ holds => holds

theorem throw (exception : ε) :
    Preserves invariant (MonadExcept.throw exception : Method ε σ α) :=
  fun _ holds => holds

theorem get : Preserves invariant (MonadState.get : Method ε σ σ) := fun _ holds => holds

theorem ofExcept (result : Except ε α) :
    Preserves invariant (Method.ofExcept result : Method ε σ α) := by
  intro state holds
  cases result <;> exact holds

theorem modify {update : σ → σ} (keeps : ∀ state, invariant state → invariant (update state)) :
    Preserves invariant (modify update : Method ε σ PUnit) :=
  keeps

theorem bind {first : Method ε σ α} {next : α → Method ε σ β}
    (firstPreserves : Preserves invariant first)
    (nextPreserves : ∀ value, Preserves invariant (next value)) :
    Preserves invariant (first >>= next) := by
  intro state holds
  have kept := firstPreserves state holds
  cases ran : EStateM.run first state with
  | ok value mid =>
      rw [after_of_ok ran] at kept
      rw [after, run_bind_ok ran]
      exact nextPreserves value mid kept
  | error exception mid =>
      rw [after_of_error ran] at kept
      rw [after_of_error (run_bind_error ran)]
      exact kept

theorem ite {condition : Prop} [Decidable condition] {yes no : Method ε σ α}
    (yesPreserves : Preserves invariant yes) (noPreserves : Preserves invariant no) :
    Preserves invariant (if condition then yes else no) := by
  split
  · exact yesPreserves
  · exact noPreserves

theorem rethrow {ε' : Type} {convert : ε → ε'} {method : Method ε σ α}
    (preserves : Preserves invariant method) : Preserves invariant (method.rethrow convert) := by
  intro state holds
  have kept := preserves state holds
  cases ran : EStateM.run method state with
  | ok value final =>
      rw [after_of_ok ran] at kept
      rw [after_of_ok (run_rethrow_ok ran)]
      exact kept
  | error exception final =>
      rw [after_of_error ran] at kept
      rw [after_of_error (run_rethrow_error ran)]
      exact kept

end Preserves

end IiifImage.Java.Method
