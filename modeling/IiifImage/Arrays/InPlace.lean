import Mathlib.Data.Nat.Notation
import Mathlib.Data.List.Flatten
import Mathlib.Data.List.Pairwise
import Mathlib.Data.List.Range
import Mathlib.Logic.Function.Basic

/-!
# Moving cells within one array

A loop that copies cells to other cells of the same array leaves what a copy to another
array would, if no cell is written before it is read or a second time.  This is so in
particular if the targets increase and no source lies below its target.
-/

namespace IiifImage.Arrays

variable {α : Type}

/-- `cells[target] = cells[source]`. -/
structure Move where
  target : ℕ
  source : ℕ
  deriving DecidableEq

namespace Move

/-- Both cells are in an array of the given size. -/
def Within (size : ℕ) (move : Move) : Prop := move.target < size ∧ move.source < size

instance (size : ℕ) (move : Move) : Decidable (move.Within size) :=
  inferInstanceAs (Decidable (_ ∧ _))

def perform (cells : ℕ → α) (move : Move) : ℕ → α :=
  Function.update cells move.target (cells move.source)

def performIn (size : ℕ) (cells : ℕ → α) (move : Move) : Option (ℕ → α) :=
  if move.Within size then some (move.perform cells) else none

end Move

def moveAll (cells : ℕ → α) (moves : List Move) : ℕ → α := moves.foldl Move.perform cells

/-- Move cells of an array of the given size. -/
def moveAllIn (size : ℕ) (cells : ℕ → α) (moves : List Move) : Option (ℕ → α) :=
  moves.foldlM (Move.performIn size) cells

/-- No cell is written before it is read or a second time. -/
def Unspoiled (moves : List Move) : Prop :=
  moves.Pairwise fun earlier later =>
    earlier.target ≠ later.source ∧ earlier.target ≠ later.target

/-- Targets increase and no source lies below its target. -/
structure Downward (moves : List Move) : Prop where
  increasing : moves.Pairwise fun earlier later => earlier.target < later.target
  below : ∀ move ∈ moves, move.target ≤ move.source

variable {size : ℕ} {cells : ℕ → α} {moves : List Move}

theorem Downward.unspoiled (downward : Downward moves) : Unspoiled moves := by
  refine downward.increasing.imp_of_mem ?_
  intro earlier later _ present less
  exact ⟨(less.trans_le (downward.below later present)).ne, less.ne⟩

/-- Moves inside the array are made. -/
theorem moveAllIn_of_within (within : ∀ move ∈ moves, move.Within size) :
    moveAllIn size cells moves = some (moveAll cells moves) := by
  induction moves generalizing cells with
  | nil => rfl
  | cons first rest ih =>
      have step : first.performIn size cells = some (first.perform cells) :=
        if_pos (within first List.mem_cons_self)
      rw [moveAllIn, List.foldlM_cons, step]
      exact ih fun move later => within move (List.mem_cons_of_mem first later)

/-- The other cells are left. -/
theorem moveAll_frame {i : ℕ} (untouched : ∀ move ∈ moves, move.target ≠ i) :
    moveAll cells moves i = cells i := by
  induction moves generalizing cells with
  | nil => rfl
  | cons first rest ih =>
      have other := untouched first List.mem_cons_self
      rw [moveAll, List.foldl_cons]
      refine (ih fun move later => untouched move (List.mem_cons_of_mem first later)).trans ?_
      exact Function.update_of_ne other.symm _ _

/-- Every target gets what its source held at first. -/
theorem moveAll_apply (unspoiled : Unspoiled moves) {move : Move} (present : move ∈ moves) :
    moveAll cells moves move.target = cells move.source := by
  induction moves generalizing cells with
  | nil => cases present
  | cons first rest ih =>
      rcases List.pairwise_cons.mp unspoiled with ⟨kept, later⟩
      rw [moveAll, List.foldl_cons]
      rcases List.mem_cons.mp present with rfl | inRest
      · refine (moveAll_frame fun other isOther => (kept other isOther).2.symm).trans ?_
        exact Function.update_self _ _ _
      · refine (ih later inRest).trans ?_
        exact Function.update_of_ne (kept move inRest).1.symm _ _

/-! ## Row-major arrays -/

/-- The place of a cell in an array of rows of `stride` groups of `depth` cells. -/
def place (stride depth y x i : ℕ) : ℕ := (y * stride + x) * depth + i

section Places

variable {stride depth y x i y' x' i' : ℕ}

/-- The cells of a group are before all later groups. -/
theorem group_lt {group group' : ℕ} (before : group < group') (inGroup : i < depth) :
    group * depth + i < group' * depth := by
  calc
    group * depth + i < (group + 1) * depth := by
      rw [Nat.succ_mul]
      exact Nat.add_lt_add_left inGroup _
    _ ≤ group' * depth := Nat.mul_le_mul_right depth before

theorem place_lt_of_row (before : y < y') (inRow : x < stride) (inGroup : i < depth) :
    place stride depth y x i < place stride depth y' x' i' :=
  (group_lt ((group_lt before inRow).trans_le (Nat.le_add_right _ x')) inGroup).trans_le
    (Nat.le_add_right _ i')

theorem place_lt_of_column (before : x < x') (inGroup : i < depth) :
    place stride depth y x i < place stride depth y x' i' :=
  (group_lt (Nat.add_lt_add_left before _) inGroup).trans_le (Nat.le_add_right _ i')

/-- All cells of an array of some rows are before its end. -/
theorem place_lt_size {rows : ℕ} (row : y < rows) (inRow : x < stride) (inGroup : i < depth) :
    place stride depth y x i < rows * stride * depth :=
  group_lt (group_lt row inRow) inGroup

/-- A cell that is not before another in any direction is not before it. -/
theorem place_le (rows : y ≤ y') (columns : x ≤ x') :
    place stride depth y x i ≤ place stride depth y' x' i := by
  have groups : y * stride + x ≤ y' * stride + x' :=
    Nat.add_le_add (Nat.mul_le_mul_right stride rows) columns
  exact Nat.add_le_add_right (Nat.mul_le_mul_right depth groups) i

end Places

/-! ## Three nested loops -/

/-- The moves of three nested loops. -/
def nestedMoves (rows columns depth : ℕ) (move : ℕ → ℕ → ℕ → Move) : List Move :=
  (List.range rows).flatMap fun y =>
    (List.range columns).flatMap fun x => (List.range depth).map fun i => move y x i

variable {rows columns depth stride : ℕ} {move : ℕ → ℕ → ℕ → Move}

theorem mem_nestedMoves {moved : Move} : moved ∈ nestedMoves rows columns depth move ↔
    ∃ y < rows, ∃ x < columns, ∃ i < depth, move y x i = moved := by
  simp only [nestedMoves, List.mem_flatMap, List.mem_map, List.mem_range]

/-- The loops move from anywhere behind to the part of an array that they run over. -/
theorem downward_nestedMoves (narrow : columns ≤ stride)
    (targets : ∀ y < rows, ∀ x < columns, ∀ i < depth,
      (move y x i).target = place stride depth y x i)
    (sources : ∀ y < rows, ∀ x < columns, ∀ i < depth,
      place stride depth y x i ≤ (move y x i).source) :
    Downward (nestedMoves rows columns depth move) := by
  constructor
  · rw [nestedMoves, List.pairwise_flatMap]
    constructor
    · intro y inRows
      have row := List.mem_range.mp inRows
      rw [List.pairwise_flatMap]
      constructor
      · intro x inColumns
        have column := List.mem_range.mp inColumns
        rw [List.pairwise_map]
        refine List.pairwise_lt_range.imp_of_mem ?_
        intro i j inDepth inDepth' less
        rw [targets y row x column i (List.mem_range.mp inDepth),
          targets y row x column j (List.mem_range.mp inDepth')]
        exact Nat.add_lt_add_left less _
      · refine List.pairwise_lt_range.imp_of_mem ?_
        intro x x' inColumns inColumns' less earlier fromX later fromX'
        rcases List.mem_map.mp fromX with ⟨i, inDepth, rfl⟩
        rcases List.mem_map.mp fromX' with ⟨i', inDepth', rfl⟩
        have deep := List.mem_range.mp inDepth
        rw [targets y row x (List.mem_range.mp inColumns) i deep,
          targets y row x' (List.mem_range.mp inColumns') i' (List.mem_range.mp inDepth')]
        exact place_lt_of_column less deep
    · refine List.pairwise_lt_range.imp_of_mem ?_
      intro y y' inRows inRows' less earlier fromY later fromY'
      rcases List.mem_flatMap.mp fromY with ⟨x, inColumns, fromX⟩
      rcases List.mem_flatMap.mp fromY' with ⟨x', inColumns', fromX'⟩
      rcases List.mem_map.mp fromX with ⟨i, inDepth, rfl⟩
      rcases List.mem_map.mp fromX' with ⟨i', inDepth', rfl⟩
      have column := List.mem_range.mp inColumns
      have deep := List.mem_range.mp inDepth
      rw [targets y (List.mem_range.mp inRows) x column i deep,
        targets y' (List.mem_range.mp inRows') x' (List.mem_range.mp inColumns') i'
          (List.mem_range.mp inDepth')]
      exact place_lt_of_row less (column.trans_le narrow) deep
  · intro moved present
    rcases mem_nestedMoves.mp present with ⟨y, row, x, column, i, deep, rfl⟩
    rw [targets y row x column i deep]
    exact sources y row x column i deep

end IiifImage.Arrays
