/-!
# Methods of mutable objects

A method runs on the fields of its object and either returns or throws.  In both
cases the object keeps the fields as the last executed statement left them, so a
method is an `EStateM` action: its exceptions do not roll the state back.
-/

namespace IiifImage.Java

/-- A method with result `α` on an object with fields `σ`, throwing `ε`. -/
abbrev Method (ε σ α : Type) := EStateM ε σ α

namespace Method

variable {ε σ τ α β : Type}

/-- The fields after a run, whether it returned or threw. -/
def finalState : EStateM.Result ε σ α → σ
  | .ok _ state => state
  | .error _ state => state

@[simp] theorem finalState_ok (value : α) (state : σ) :
    finalState (.ok value state : EStateM.Result ε σ α) = state := rfl

@[simp] theorem finalState_error (exception : ε) (state : σ) :
    finalState (.error exception state : EStateM.Result ε σ α) = state := rfl

@[simp] theorem run_throw (exception : ε) (state : σ) :
    EStateM.run (throw exception : Method ε σ α) state =
      .error exception state := rfl

/-- Call a method of the object stored in a field. -/
def on (field : σ → τ) (update : τ → σ → σ) (method : Method ε τ α) :
    Method ε σ α := fun state =>
  match method (field state) with
  | .ok value inner => .ok value (update inner state)
  | .error exception inner => .error exception (update inner state)

theorem run_on (field : σ → τ) (update : τ → σ → σ) (method : Method ε τ α)
    (state : σ) :
    EStateM.run (method.on field update) state =
      match EStateM.run method (field state) with
      | .ok value inner => .ok value (update inner state)
      | .error exception inner => .error exception (update inner state) := rfl

theorem run_on_ok {field : σ → τ} {update : τ → σ → σ} {method : Method ε τ α}
    {state : σ} {value : α} {inner : τ}
    (returned : EStateM.run method (field state) = .ok value inner) :
    EStateM.run (method.on field update) state =
      .ok value (update inner state) := by
  rw [run_on, returned]

theorem run_on_error {field : σ → τ} {update : τ → σ → σ} {method : Method ε τ α}
    {state : σ} {exception : ε} {inner : τ}
    (thrown : EStateM.run method (field state) = .error exception inner) :
    EStateM.run (method.on field update) state =
      .error exception (update inner state) := by
  rw [run_on, thrown]

def reads (observe : σ → α) : Method ε σ α := fun state => .ok (observe state) state

@[simp] theorem run_reads (observe : σ → α) (state : σ) :
    EStateM.run (reads observe : Method ε σ α) state = .ok (observe state) state := rfl

/-- A statement that does not touch the object. -/
def ofExcept : Except ε α → Method ε σ α
  | .ok value => pure value
  | .error exception => throw exception

@[simp] theorem run_ofExcept_ok (value : α) (state : σ) :
    EStateM.run (ofExcept (.ok value) : Method ε σ α) state = .ok value state := rfl

@[simp] theorem run_ofExcept_error (exception : ε) (state : σ) :
    EStateM.run (ofExcept (.error exception) : Method ε σ α) state =
      .error exception state := rfl

/-- Sequencing after a statement that returned. -/
theorem run_bind_ok {first : Method ε σ α} {next : α → Method ε σ β} {state mid : σ}
    {value : α} (returned : EStateM.run first state = .ok value mid) :
    EStateM.run (first >>= next) state = EStateM.run (next value) mid := by
  rw [EStateM.run_bind, returned]

/-- Sequencing after a statement that threw. -/
theorem run_bind_error {first : Method ε σ α} {next : α → Method ε σ β}
    {state mid : σ} {exception : ε}
    (thrown : EStateM.run first state = .error exception mid) :
    EStateM.run (first >>= next) state = .error exception mid := by
  rw [EStateM.run_bind, thrown]

/-! The statements that open most methods, at the head of a sequence. -/

section Heads

variable (next : α → Method ε σ β) (state : σ)

@[simp] theorem run_get_bind (next : σ → Method ε σ β) :
    EStateM.run (get >>= next) state = EStateM.run (next state) state := rfl

@[simp] theorem run_modify_bind (next : PUnit → Method ε σ β) (update : σ → σ) :
    EStateM.run (modify update >>= next) state =
      EStateM.run (next ⟨⟩) (update state) := rfl

@[simp] theorem run_reads_bind (observe : σ → α) :
    EStateM.run (reads observe >>= next) state =
      EStateM.run (next (observe state)) state := rfl

@[simp] theorem run_ofExcept_ok_bind (value : α) :
    EStateM.run (ofExcept (.ok value) >>= next) state =
      EStateM.run (next value) state := rfl

@[simp] theorem run_ofExcept_error_bind (exception : ε) :
    EStateM.run (ofExcept (.error exception) >>= next) state =
      .error exception state := rfl

@[simp] theorem run_throw_bind (exception : ε) :
    EStateM.run ((throw exception : Method ε σ α) >>= next) state =
      .error exception state := rfl

@[simp] theorem run_pure_bind (value : α) :
    EStateM.run (pure value >>= next) state = EStateM.run (next value) state := rfl

end Heads

/-- A sequence returns exactly when both of its statements do. -/
theorem run_bind_eq_ok {first : Method ε σ α} {next : α → Method ε σ β}
    {state final : σ} {result : β} :
    EStateM.run (first >>= next) state = .ok result final ↔
      ∃ value mid, EStateM.run first state = .ok value mid ∧
        EStateM.run (next value) mid = .ok result final := by
  rw [EStateM.run_bind]
  cases EStateM.run first state with
  | ok value mid =>
      constructor
      · intro returned
        exact ⟨value, mid, rfl, returned⟩
      · intro steps
        rcases steps with ⟨_, _, same, returned⟩
        cases same
        exact returned
  | error exception mid => simp

/-- Sequencing after a statement that does not touch the object and returned. -/
@[simp] theorem except_ok_bind (value : α) (next : α → Except ε β) :
    (.ok value : Except ε α) >>= next = next value := rfl

/-- A sequence of such statements returns exactly when both of them do. -/
theorem except_bind_eq_ok {first : Except ε α} {next : α → Except ε β} {result : β} :
    first >>= next = .ok result ↔
      ∃ value, first = .ok value ∧ next value = .ok result := by
  cases first with
  | ok value => simp [bind, Except.bind]
  | error exception => simp [bind, Except.bind]

/-! ## What a statement can throw -/

/-- Whatever the statement throws is allowed. -/
def ThrowsOnly (allowed : ε → Prop) (result : Except ε α) : Prop :=
  ∀ exception, result = .error exception → allowed exception

namespace ThrowsOnly

variable {allowed : ε → Prop}

theorem ok (value : α) : ThrowsOnly allowed (.ok value) := by
  intro exception thrown
  cases thrown

theorem error {exception : ε} (holds : allowed exception) :
    ThrowsOnly allowed (.error exception : Except ε α) := by
  intro other thrown
  cases thrown
  exact holds

theorem bind {first : Except ε α} {next : α → Except ε β}
    (firstThrows : ThrowsOnly allowed first)
    (nextThrows : ∀ value, ThrowsOnly allowed (next value)) :
    ThrowsOnly allowed (first >>= next) := by
  cases first with
  | ok value => exact nextThrows value
  | error exception => exact .error (firstThrows exception rfl)

theorem mono {other : ε → Prop} {result : Except ε α} (throws : ThrowsOnly allowed result)
    (weaker : ∀ exception, allowed exception → other exception) : ThrowsOnly other result :=
  fun exception thrown => weaker exception (throws exception thrown)

end ThrowsOnly

/-- A method inside a `try` whose `catch` clauses throw other exceptions. -/
def rethrow {ε' : Type} (convert : ε → ε') (method : Method ε σ α) :
    Method ε' σ α := fun state =>
  match method state with
  | .ok value after => .ok value after
  | .error exception after => .error (convert exception) after

theorem run_rethrow {ε' : Type} (convert : ε → ε') (method : Method ε σ α) (state : σ) :
    EStateM.run (method.rethrow convert) state =
      match EStateM.run method state with
      | .ok value after => .ok value after
      | .error exception after => .error (convert exception) after := rfl

theorem run_rethrow_ok {ε' : Type} {convert : ε → ε'} {method : Method ε σ α}
    {state after : σ} {value : α} (returned : EStateM.run method state = .ok value after) :
    EStateM.run (method.rethrow convert) state = .ok value after := by
  rw [run_rethrow, returned]

theorem run_rethrow_error {ε' : Type} {convert : ε → ε'} {method : Method ε σ α}
    {state after : σ} {exception : ε}
    (thrown : EStateM.run method state = .error exception after) :
    EStateM.run (method.rethrow convert) state = .error (convert exception) after := by
  rw [run_rethrow, thrown]

/-! ## Properties of the fields that a method keeps -/

/-- Every run of the method, returning or throwing, keeps the value of an
observation of the fields. -/
def Keeps (observe : σ → β) (method : Method ε σ α) : Prop :=
  ∀ state, observe (finalState (EStateM.run method state)) = observe state

namespace Keeps

variable {observe : σ → β} {γ : Type}

theorem pure (value : α) : Keeps observe (Pure.pure value : Method ε σ α) :=
  fun _ => rfl

theorem throw (exception : ε) :
    Keeps observe (MonadExcept.throw exception : Method ε σ α) :=
  fun _ => rfl

theorem reads (value : σ → α) : Keeps observe (Method.reads value : Method ε σ α) :=
  fun _ => rfl

theorem ofExcept (result : Except ε α) :
    Keeps observe (Method.ofExcept result : Method ε σ α) := by
  intro state
  cases result <;> rfl

theorem bind {first : Method ε σ α} {next : α → Method ε σ γ}
    (firstKeeps : Keeps observe first)
    (nextKeeps : ∀ value, Keeps observe (next value)) :
    Keeps observe (first >>= next) := by
  intro state
  have kept := firstKeeps state
  cases ran : EStateM.run first state with
  | ok value mid =>
      rw [ran] at kept
      rw [run_bind_ok ran, nextKeeps value mid]
      exact kept
  | error exception mid =>
      rw [ran] at kept
      rw [run_bind_error ran]
      exact kept

theorem ite {condition : Prop} [Decidable condition] {yes no : Method ε σ α}
    (yesKeeps : Keeps observe yes) (noKeeps : Keeps observe no) :
    Keeps observe (if condition then yes else no) := by
  split
  · exact yesKeeps
  · exact noKeeps

theorem rethrow {ε' : Type} {convert : ε → ε'} {method : Method ε σ α}
    (keeps : Keeps observe method) : Keeps observe (method.rethrow convert) := by
  intro state
  have kept := keeps state
  rw [run_rethrow]
  cases ran : EStateM.run method state <;> rw [ran] at kept <;> exact kept

theorem of_ok {method : Method ε σ α} {state after : σ} {value : α}
    (keeps : Keeps observe method) (ran : EStateM.run method state = .ok value after) :
    observe after = observe state := by
  have kept := keeps state
  rw [ran] at kept
  exact kept

theorem of_error {method : Method ε σ α} {state after : σ} {exception : ε}
    (keeps : Keeps observe method) (ran : EStateM.run method state = .error exception after) :
    observe after = observe state := by
  have kept := keeps state
  rw [ran] at kept
  exact kept

/-- A call on a field keeps whatever the field's update does not reach. -/
theorem on {field : σ → τ} {update : τ → σ → σ} (method : Method ε τ α)
    (unreached : ∀ inner state, observe (update inner state) = observe state) :
    Keeps observe (method.on field update) := by
  intro state
  rw [run_on]
  cases EStateM.run method (field state) with
  | ok value inner => exact unreached inner state
  | error exception inner => exact unreached inner state

end Keeps

/-! ## Instrumented methods -/

variable {ρ υ : Type}

/-- The same result with the fields seen through a projection. -/
def mapState (forget : σ → ρ) : EStateM.Result ε σ α → EStateM.Result ε ρ α
  | .ok value state => .ok value (forget state)
  | .error exception state => .error exception (forget state)

/-- The left method runs on an object with additional fields and does to the
others what the right method does. -/
def Simulates (forget : σ → ρ) (instrumented : Method ε σ α) (method : Method ε ρ α) :
    Prop :=
  ∀ state, mapState forget (EStateM.run instrumented state) =
    EStateM.run method (forget state)

namespace Simulates

variable {forget : σ → ρ}

/-- The other method returns exactly when the instrumented one does. -/
theorem run_eq_ok_iff {instrumented : Method ε σ α} {method : Method ε ρ α} {after : ρ}
    {value : α} (simulates : Simulates forget instrumented method) (state : σ) :
    EStateM.run method (forget state) = .ok value after ↔
      ∃ full, EStateM.run instrumented state = .ok value full ∧ forget full = after := by
  rw [← simulates state]
  cases EStateM.run instrumented state with
  | ok value' full =>
      simp only [mapState, EStateM.Result.ok.injEq]
      constructor
      · intro same
        rcases same with ⟨rfl, rfl⟩
        exact ⟨full, ⟨rfl, rfl⟩, rfl⟩
      · intro simulated
        rcases simulated with ⟨_, ⟨rfl, rfl⟩, rfl⟩
        exact ⟨rfl, rfl⟩
  | error exception full => simp [mapState]

/-- The instrumented method returns when the other one does. -/
theorem of_ok {instrumented : Method ε σ α} {method : Method ε ρ α} {after : ρ} {value : α}
    (simulates : Simulates forget instrumented method) (state : σ)
    (ran : EStateM.run method (forget state) = .ok value after) :
    ∃ full, EStateM.run instrumented state = .ok value full ∧ forget full = after :=
  (simulates.run_eq_ok_iff state).mp ran

/-- The instrumented method throws when the other one does. -/
theorem of_error {instrumented : Method ε σ α} {method : Method ε ρ α} {after : ρ}
    {exception : ε} (simulates : Simulates forget instrumented method) (state : σ)
    (ran : EStateM.run method (forget state) = .error exception after) :
    ∃ full, EStateM.run instrumented state = .error exception full ∧
      forget full = after := by
  have simulated := simulates state
  rw [ran] at simulated
  cases result : EStateM.run instrumented state with
  | ok value full =>
      rw [result] at simulated
      cases simulated
  | error exception' full =>
      rw [result] at simulated
      cases simulated
      exact ⟨full, rfl, rfl⟩

theorem refl (method : Method ε σ α) : Simulates id method method := by
  intro state
  rw [id]
  cases EStateM.run method state <;> rfl

theorem pure (value : α) :
    Simulates forget (Pure.pure value : Method ε σ α) (Pure.pure value) :=
  fun _ => rfl

theorem throw (exception : ε) :
    Simulates forget (MonadExcept.throw exception : Method ε σ α)
      (MonadExcept.throw exception) :=
  fun _ => rfl

theorem ofExcept (result : Except ε α) :
    Simulates forget (Method.ofExcept result : Method ε σ α) (Method.ofExcept result) := by
  intro state
  cases result <;> rfl

theorem reads {full : σ → α} {part : ρ → α}
    (agrees : ∀ state, full state = part (forget state)) :
    Simulates forget (Method.reads full : Method ε σ α) (Method.reads part) := by
  intro state
  simp only [run_reads, mapState, agrees]

theorem bind {first : Method ε σ α} {first' : Method ε ρ α} {next : α → Method ε σ β}
    {next' : α → Method ε ρ β} (firstSimulates : Simulates forget first first')
    (nextSimulates : ∀ value, Simulates forget (next value) (next' value)) :
    Simulates forget (first >>= next) (first' >>= next') := by
  intro state
  have simulated := firstSimulates state
  cases ran : EStateM.run first state with
  | ok value mid =>
      rw [ran] at simulated
      rw [run_bind_ok ran, run_bind_ok simulated.symm]
      exact nextSimulates value mid
  | error exception mid =>
      rw [ran] at simulated
      rw [run_bind_error ran, run_bind_error simulated.symm]
      rfl

theorem ite {condition : Prop} [Decidable condition] {yes no : Method ε σ α}
    {yes' no' : Method ε ρ α} (yesSimulates : Simulates forget yes yes')
    (noSimulates : Simulates forget no no') :
    Simulates forget (if condition then yes else no) (if condition then yes' else no') := by
  split
  · exact yesSimulates
  · exact noSimulates

/-- Calls on corresponding fields of the two objects. -/
theorem on {field : σ → τ} {update : τ → σ → σ} {field' : ρ → υ} {update' : υ → ρ → ρ}
    {inside : τ → υ} {method : Method ε τ α} {method' : Method ε υ α}
    (simulates : Simulates inside method method')
    (sameField : ∀ state, inside (field state) = field' (forget state))
    (sameUpdate : ∀ inner state,
      forget (update inner state) = update' (inside inner) (forget state)) :
    Simulates forget (method.on field update) (method'.on field' update') := by
  intro state
  have simulated := simulates (field state)
  rw [sameField] at simulated
  rw [run_on, run_on, ← simulated]
  cases EStateM.run method (field state) with
  | ok value inner => simp only [mapState, sameUpdate]
  | error exception inner => simp only [mapState, sameUpdate]

end Simulates

end Method

end IiifImage.Java
