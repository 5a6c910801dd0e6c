import Mathlib.Data.Nat.Notation
import Mathlib.Data.List.Nodup
import Mathlib.Data.List.Range
import Mathlib.Logic.Function.Basic
import IiifImage.Arrays.Mirror

/-!
# Loops that write to arrays

Memory is a function of the index.  A loop that reads from one array and writes to
another leaves in each cell the last value written to it, and a loop that works in
place is followed cell by cell.
-/

namespace IiifImage.Arrays

/-! ## Loops with a step -/

/-- `for (n = 0; n < bound; n += step)`. -/
def forStep (bound step : ℕ) : List ℕ :=
  (List.range ((bound + step - 1) / step)).map (· * step)

variable {bound step i : ℕ}

theorem mem_forStep (positive : 0 < step) :
    i ∈ forStep bound step ↔ i < bound ∧ step ∣ i := by
  simp only [forStep, List.mem_map, List.mem_range]
  constructor
  · rintro ⟨k, below, rfl⟩
    refine ⟨?_, Nat.dvd_mul_left step k⟩
    have next : (k + 1) * step ≤ bound + step - 1 :=
      (Nat.le_div_iff_mul_le positive).mp below
    rw [Nat.succ_mul] at next
    omega
  · rintro ⟨below, k, rfl⟩
    refine ⟨k, ?_, Nat.mul_comm k step⟩
    rw [Nat.lt_div_iff_mul_lt positive, Nat.mul_comm]
    omega

theorem nodup_forStep (bound : ℕ) (positive : 0 < step) : (forStep bound step).Nodup := by
  apply List.Nodup.map _ List.nodup_range
  intro left right same
  exact Nat.eq_of_mul_eq_mul_right positive same

/-! ## Loops that can fail -/

/-- A loop over a list whose steps all succeed returns what each of them returns. -/
theorem mapM_eq_some {α β : Type} {f : α → Option β} {list : List α}
    (defined : ∀ x ∈ list, (f x).isSome = true) :
    ∃ results, list.mapM f = some results ∧ ∀ i : ℕ, results[i]? = list[i]?.bind f := by
  induction list with
  | nil => exact ⟨[], rfl, fun i => by simp⟩
  | cons first rest ih =>
      rcases ih fun x later => defined x (List.mem_cons_of_mem first later) with
        ⟨results, run, returned⟩
      rcases Option.isSome_iff_exists.mp (defined first List.mem_cons_self) with ⟨result, once⟩
      refine ⟨result :: results, ?_, ?_⟩
      · rw [List.mapM_cons, once, run]
        rfl
      · intro i
        cases i with
        | zero => simp [once]
        | succ i => simp [returned]

/-! ## Writing to another array -/

section Store

variable {β : Type}

/-- A value and the cell it is written to. -/
structure Write (β : Type) where
  row : ℕ
  column : ℕ
  value : β

def Write.perform (memory : ℕ → ℕ → β) (write : Write β) : ℕ → ℕ → β :=
  Function.update memory write.row
    (Function.update (memory write.row) write.column write.value)

theorem Write.perform_apply (memory : ℕ → ℕ → β) (write : Write β) (row column : ℕ) :
    write.perform memory row column =
      if row = write.row ∧ column = write.column then write.value else memory row column := by
  unfold Write.perform
  by_cases sameRow : row = write.row
  · subst sameRow
    simp only [Function.update_self, Function.update_apply, true_and]
  · simp only [Function.update_of_ne sameRow, sameRow, false_and, if_false]

def store (memory : ℕ → ℕ → β) (writes : List (Write β)) : ℕ → ℕ → β :=
  writes.foldl Write.perform memory

@[simp] theorem store_nil (memory : ℕ → ℕ → β) : store memory [] = memory := rfl

@[simp] theorem store_cons (memory : ℕ → ℕ → β) (write : Write β) (writes : List (Write β)) :
    store memory (write :: writes) = store (write.perform memory) writes := rfl

/-- A cell holds a value if every write to the cell writes that value, and there is
a write to it unless it held the value before. -/
theorem store_eq (memory : ℕ → ℕ → β) {writes : List (Write β)} {row column : ℕ} {value : β}
    (agree : ∀ write ∈ writes, write.row = row → write.column = column → write.value = value)
    (covered : memory row column = value ∨
      ∃ write ∈ writes, write.row = row ∧ write.column = column) :
    store memory writes row column = value := by
  induction writes generalizing memory with
  | nil =>
      rcases covered with before | ⟨write, present, -⟩
      · exact before
      · cases present
  | cons first writes ih =>
      rw [store_cons]
      apply ih
      · intro write later
        exact agree write (List.mem_cons_of_mem first later)
      · rw [Write.perform_apply]
        by_cases here : row = first.row ∧ column = first.column
        · left
          rw [if_pos here]
          exact agree first List.mem_cons_self here.1.symm here.2.symm
        · rw [if_neg here]
          rcases covered with before | ⟨write, present, atRow, atColumn⟩
          · exact .inl before
          · rcases List.mem_cons.mp present with rfl | later
            · exact absurd ⟨atRow.symm, atColumn.symm⟩ here
            · exact .inr ⟨write, later, atRow, atColumn⟩

end Store

/-! ## Working in place -/

section InPlace

variable {β : Type}

/-- Exchange two cells and change both. -/
def swapCells (change : β → β) (left right : ℕ) (row : ℕ → β) : ℕ → β :=
  Function.update (Function.update row left (change (row right))) right (change (row left))

/-- Exchange the first `count` cells pairwise from both ends. -/
def reversePrefix (change : β → β) (count : ℕ) (row : ℕ → β) : ℕ → β :=
  (forStep ((count + 1) / 2) 1).foldl
    (fun row left => swapCells change left (count - left - 1) row) row

/-- Copy `count` cells to the start of the row, from left to right. -/
def leftJustify (offset count : ℕ) (row : ℕ → β) : ℕ → β :=
  (List.range count).foldl (fun row i => Function.update row i (row (i + offset))) row

@[simp] theorem forStep_one (bound : ℕ) : forStep bound 1 = List.range bound := by
  simp [forStep]

theorem swapCells_apply (change : β → β) (left right : ℕ) (row : ℕ → β) (i : ℕ) :
    swapCells change left right row i =
      if i = right then change (row left)
      else if i = left then change (row right) else row i := by
  simp only [swapCells, Function.update_apply]

/-- After some of the exchanges the cells at both ends are reversed and the ones
between them are as they were. -/
theorem reversePrefix_step (change : β → β) (count : ℕ) (row : ℕ → β) {done : ℕ}
    (half : done ≤ (count + 1) / 2) (i : ℕ) :
    (List.range done).foldl
        (fun row left => swapCells change left (count - left - 1) row) row i =
      if i < count ∧ (i < done ∨ count - 1 - i < done) then change (row (count - 1 - i))
      else row i := by
  induction done generalizing i with
  | zero => simp
  | succ done ih =>
      have before : done ≤ (count + 1) / 2 := by omega
      rw [List.range_succ, List.foldl_append, List.foldl_cons, List.foldl_nil, swapCells_apply,
        ih before, ih before, ih before]
      by_cases right : i = count - done - 1
      · rw [if_pos right, if_neg (by omega), if_pos (by omega)]
        congr 2
        omega
      · rw [if_neg right]
        by_cases left : i = done
        · rw [if_pos left, if_neg (by omega), if_pos (by omega)]
          congr 2
          omega
        · rw [if_neg left]
          apply if_congr _ rfl rfl
          omega

/-- The exchanges reverse the first cells. -/
theorem reversePrefix_apply (change : β → β) (count : ℕ) (row : ℕ → β) (i : ℕ) :
    reversePrefix change count row i =
      if i < count then change (row (mirror count i)) else row i := by
  rw [reversePrefix, forStep_one, reversePrefix_step change count row le_rfl]
  by_cases inside : i < count
  · rw [if_pos (by omega), if_pos inside, mirror_of_lt inside]
  · rw [if_neg (by omega), if_neg inside]

/-- No cell is overwritten before it has been copied. -/
theorem leftJustify_apply (offset count : ℕ) (row : ℕ → β) (i : ℕ) :
    leftJustify offset count row i = if i < count then row (i + offset) else row i := by
  induction count generalizing i with
  | zero => rfl
  | succ count ih =>
      have previous : (List.range count).foldl
          (fun row i => Function.update row i (row (i + offset))) row =
          leftJustify offset count row := rfl
      rw [leftJustify, List.range_succ, List.foldl_append, List.foldl_cons, List.foldl_nil,
        previous, Function.update_apply, ih, ih, if_neg (show ¬count + offset < count by omega)]
      by_cases last : i = count
      · rw [if_pos last, if_pos (by omega), last]
      · rw [if_neg last]
        apply if_congr _ rfl rfl
        omega

/-- Work on the rows of a list, one after the other. -/
theorem foldl_update_row {γ : Type} (change : γ → γ) (memory : ℕ → γ) {rows : List ℕ}
    (distinct : rows.Nodup) (row : ℕ) :
    rows.foldl (fun memory row => Function.update memory row (change (memory row))) memory row =
      if row ∈ rows then change (memory row) else memory row := by
  induction rows generalizing memory with
  | nil => simp
  | cons first rows ih =>
      rcases List.nodup_cons.mp distinct with ⟨fresh, rest⟩
      rw [List.foldl_cons, ih _ rest]
      by_cases same : row = first
      · subst same
        rw [if_neg fresh, if_pos List.mem_cons_self, Function.update_self]
      · simp only [Function.update_of_ne same, List.mem_cons, same, false_or]

end InPlace

end IiifImage.Arrays
