import IiifImage.Coefficients.Routines

/-!
# What the routines gather

Every routine of `transupp.c` fills the workspace with the blocks of one array, gathered
along rows and columns of which whole interleaved MCUs are mirrored (`gather`).  The
indices that a routine computes stay inside the arrays when these are padded to whole
MCUs (`Room`, `Reach`), and the routine that works in place gathers the same blocks.
-/

namespace IiifImage.Coefficients

open Arrays

/-- The block that belongs at a place when the first `columns` columns and the first
`rows` rows are mirrored, after an exchange of the axes on demand. -/
def gather (transpose : Bool) (columns rows : ℕ) (source : ℕ → ℕ → Block)
    (row column : ℕ) : Block :=
  Block.reflect (column < columns) (row < rows)
    (Block.exchange transpose
      (if transpose then source (mirror columns column) (mirror rows row)
        else source (mirror rows row) (mirror columns column)))

theorem gather_none (source : ℕ → ℕ → Block) : gather false 0 0 source = source := by
  funext row column
  simp [gather, Block.reflect, Block.exchange]

/-! ## Performing copies -/

section Performing

variable {source target : VirtualArray}

/-- Copies between valid places are made. -/
theorem performAll_of_valid {copies : List BlockCopy}
    (valid : ∀ copy ∈ copies, copy.target.Valid target ∧ copy.source.Valid source) :
    performAll source target copies =
      some { target with
        memory := store target.memory (copies.map fun copy => copy.write source) } := by
  induction copies generalizing target with
  | nil => rfl
  | cons copy copies ih =>
      have first := valid copy List.mem_cons_self
      have step : copy.perform source target =
          some { target with memory := (copy.write source).perform target.memory } :=
        if_pos first
      rw [performAll, List.foldlM_cons, step]
      exact ih fun later present => valid later (List.mem_cons_of_mem copy present)

/-- The workspace has a place for every block that the loops write. -/
structure Room (request : Request) (target : VirtualArray) : Prop where
  access : request.vSampFactor ≤ target.maxAccess
  rows : ∀ row < request.heightInBlocks,
    row / request.vSampFactor * request.vSampFactor + request.vSampFactor ≤ target.rowsInArray
  columns : ∀ column < request.widthInBlocks,
    column / request.hSampFactor * request.hSampFactor + request.hSampFactor ≤
      target.blocksPerRow

variable {request : Request} {step : ℕ}
  {body : (dstBlkY offsetY dstBlkX offsetX : ℕ) → BlockRef × (Block → Block)}
  {content : ℕ → ℕ → Block}

theorem mem_groupLoop {copy : BlockCopy} (stepPos : 0 < step) :
    copy ∈ request.groupLoop step body ↔ ∃ dstBlkY offsetY dstBlkX offsetX : ℕ,
      (dstBlkY < request.heightInBlocks ∧ request.vSampFactor ∣ dstBlkY) ∧
      offsetY < request.vSampFactor ∧
      (dstBlkX < request.widthInBlocks ∧ step ∣ dstBlkX) ∧ offsetX < step ∧
      copy = { target := ⟨dstBlkY, request.vSampFactor, offsetY, dstBlkX + offsetX⟩
               source := (body dstBlkY offsetY dstBlkX offsetX).1
               change := (body dstBlkY offsetY dstBlkX offsetX).2 } := by
  simp only [Request.groupLoop, List.mem_flatMap, List.mem_map, List.mem_range,
    mem_forStep request.vSampFactor_pos, mem_forStep stepPos]
  constructor
  · rintro ⟨dstBlkY, rows, offsetY, row, dstBlkX, columns, offsetX, column, rfl⟩
    exact ⟨dstBlkY, offsetY, dstBlkX, offsetX, rows, row, columns, column, rfl⟩
  · rintro ⟨dstBlkY, offsetY, dstBlkX, offsetX, rows, row, columns, column, rfl⟩
    exact ⟨dstBlkY, rows, offsetY, row, dstBlkX, columns, offsetX, column, rfl⟩

/-- Loops whose bodies read valid places succeed, and they leave in every block of the
component what the bodies read for it. -/
theorem performAll_groupLoop (stepPos : 0 < step)
    (stepDvd : step ∣ request.hSampFactor) (room : Room request target)
    (reads : ∀ dstBlkY offsetY dstBlkX offsetX : ℕ,
      (dstBlkY < request.heightInBlocks ∧ request.vSampFactor ∣ dstBlkY) →
      offsetY < request.vSampFactor →
      (dstBlkX < request.widthInBlocks ∧ step ∣ dstBlkX) → offsetX < step →
      (body dstBlkY offsetY dstBlkX offsetX).1.Valid source ∧
        (body dstBlkY offsetY dstBlkX offsetX).2
            ((body dstBlkY offsetY dstBlkX offsetX).1.read source) =
          content (dstBlkY + offsetY) (dstBlkX + offsetX)) :
    ∃ memory, performAll source target (request.groupLoop step body) =
        some { target with memory := memory } ∧
      ∀ row < request.heightInBlocks, ∀ column < request.widthInBlocks,
        memory row column = content row column := by
  have valid : ∀ copy ∈ request.groupLoop step body,
      copy.target.Valid target ∧ copy.source.Valid source := by
    intro copy present
    rcases (mem_groupLoop stepPos).mp present with
      ⟨dstBlkY, offsetY, dstBlkX, offsetX, rows, row, columns, column, rfl⟩
    refine ⟨?_, (reads dstBlkY offsetY dstBlkX offsetX rows row columns column).1⟩
    have rowGroup := room.rows dstBlkY rows.1
    rw [Nat.div_mul_cancel rows.2] at rowGroup
    have group : dstBlkX + step ≤ target.blocksPerRow := by
      have wide := room.columns dstBlkX columns.1
      have multiple : step ∣ dstBlkX / request.hSampFactor * request.hSampFactor +
          request.hSampFactor :=
        Nat.dvd_add (Nat.dvd_mul_left_of_dvd stepDvd _) stepDvd
      have inside : dstBlkX < dstBlkX / request.hSampFactor * request.hSampFactor +
          request.hSampFactor := Nat.lt_div_mul_add request.hSampFactor_pos
      have reached := Nat.le_of_lt_add_of_dvd
        (show dstBlkX + step < dstBlkX / request.hSampFactor * request.hSampFactor +
          request.hSampFactor + step by omega) (Nat.dvd_add columns.2 (dvd_refl step)) multiple
      omega
    have access := room.access
    simp only [BlockRef.Valid]
    omega
  refine ⟨_, performAll_of_valid valid, ?_⟩
  intro row rowInside column columnInside
  apply store_eq
  · intro write present atRow atColumn
    rcases List.mem_map.mp present with ⟨copy, inLoop, rfl⟩
    rcases (mem_groupLoop stepPos).mp inLoop with
      ⟨dstBlkY, offsetY, dstBlkX, offsetX, rows, inGroup, columns, inColumns, rfl⟩
    have value := (reads dstBlkY offsetY dstBlkX offsetX rows inGroup columns inColumns).2
    simp only [BlockCopy.write] at atRow atColumn ⊢
    rw [value]
    congr 1
  · right
    refine ⟨_, List.mem_map_of_mem ((mem_groupLoop stepPos).mpr
      ⟨row / request.vSampFactor * request.vSampFactor, row % request.vSampFactor,
        column / step * step, column % step, ⟨?_, Nat.dvd_mul_left _ _⟩,
        Nat.mod_lt _ request.vSampFactor_pos, ⟨?_, Nat.dvd_mul_left _ _⟩,
        Nat.mod_lt _ stepPos, rfl⟩), ?_, ?_⟩
    · exact lt_of_le_of_lt (Nat.div_mul_le_self _ _) rowInside
    · exact lt_of_le_of_lt (Nat.div_mul_le_self _ _) columnInside
    · have parts := Nat.div_add_mod' row request.vSampFactor
      simp only [BlockCopy.write]
      omega
    · have parts := Nat.div_add_mod' column step
      simp only [BlockCopy.write]
      omega

end Performing

/-! ## The indices of the routines -/

/-- The source has every block that a routine can read, before and after mirroring.
Its axes are exchanged on demand. -/
structure Reach (request : Request) (transpose : Bool) (columns rows : ℕ)
    (source : VirtualArray) : Prop where
  columns_dvd : request.hSampFactor ∣ columns
  rows_dvd : request.vSampFactor ∣ rows
  columns_le : columns ≤ if transpose then source.rowsInArray else source.blocksPerRow
  rows_le : rows ≤ if transpose then source.blocksPerRow else source.rowsInArray
  access : (if transpose then request.hSampFactor else request.vSampFactor) ≤ source.maxAccess
  width_le : ∀ column < request.widthInBlocks,
    request.xCropBlocks + (column / request.hSampFactor * request.hSampFactor +
      request.hSampFactor) ≤ if transpose then source.rowsInArray else source.blocksPerRow
  height_le : ∀ row < request.heightInBlocks,
    request.yCropBlocks + (row / request.vSampFactor * request.vSampFactor +
      request.vSampFactor) ≤ if transpose then source.blocksPerRow else source.rowsInArray

section Routines

variable {request : Request} {source target : VirtualArray} {columns rows : ℕ}

/-- A group that starts among the mirrored positions ends among them. -/
theorem group_le {factor count offset start : ℕ} (countDvd : factor ∣ count)
    (startDvd : factor ∣ start) (inside : offset * factor + start < count) :
    offset * factor + start + factor ≤ count := by
  rcases countDvd with ⟨m, rfl⟩
  rcases startDvd with ⟨n, rfl⟩
  rw [Nat.mul_comm offset, ← Nat.mul_add] at inside ⊢
  rw [← Nat.mul_succ]
  exact Nat.mul_le_mul_left factor (Nat.lt_of_mul_lt_mul_left inside)

/-- What an axis of the routines does at one place: mirror it, together with its whole
group, or leave it. -/
theorem axis_cases {factor count start within : ℕ} (offset : ℕ) (countDvd : factor ∣ count)
    (startDvd : factor ∣ start) (inGroup : within < factor) :
    (offset * factor + start < count ∧ offset * factor + start + factor ≤ count ∧
      mirror count (offset * factor + (start + within)) =
        count - 1 - (offset * factor + (start + within)) ∧
      decide (offset * factor + (start + within) < count) = true) ∨
    (¬offset * factor + start < count ∧
      mirror count (offset * factor + (start + within)) = offset * factor + (start + within) ∧
      decide (offset * factor + (start + within) < count) = false) := by
  by_cases inside : offset * factor + start < count
  · have whole := group_le countDvd startDvd inside
    refine .inl ⟨inside, whole, mirror_of_lt (by omega), decide_eq_true (by omega)⟩
  · exact .inr ⟨inside, mirror_of_le (by omega), decide_eq_false (by omega)⟩

/-- What a routine leaves in the workspace. -/
def Gathers (request : Request) (transpose : Bool) (columns rows : ℕ)
    (source target : VirtualArray) (copies : List BlockCopy) : Prop :=
  ∃ memory, performAll source target copies = some { target with memory := memory } ∧
    ∀ row < request.heightInBlocks, ∀ column < request.widthInBlocks,
      memory row column = gather transpose columns rows source.memory
        (request.yCropBlocks + row) (request.xCropBlocks + column)

theorem gathers_doCrop (room : Room request target) (reach : Reach request false 0 0 source) :
    Gathers request false 0 0 source target request.doCrop := by
  apply performAll_groupLoop Nat.one_pos (one_dvd _) room
  rintro dstBlkY offsetY dstBlkX offsetX ⟨below, rowsDvd⟩ inGroup ⟨left, -⟩ one
  have access := reach.access
  have width := reach.width_le dstBlkX left
  have height := reach.height_le dstBlkY below
  have inside : dstBlkX < _ := Nat.lt_div_mul_add request.hSampFactor_pos
  rw [Nat.div_mul_cancel rowsDvd] at height
  rw [gather_none]
  simp only [if_false, Bool.false_eq_true] at access width height
  constructor
  · simp only [BlockRef.Valid]
    omega
  · simp only [BlockRef.read, id]
    congr 1 <;> omega

theorem gathers_doFlipH (room : Room request target)
    (reach : Reach request false (request.compWidth request.outputWidth) 0 source) :
    Gathers request false (request.compWidth request.outputWidth) 0 source target
      request.doFlipH := by
  apply performAll_groupLoop Nat.one_pos (one_dvd _) room
  rintro dstBlkY offsetY dstBlkX offsetX ⟨below, rowsDvd⟩ inGroup ⟨left, -⟩ one
  obtain rfl : offsetX = 0 := by omega
  have access := reach.access
  have whole := reach.columns_le
  have width := reach.width_le dstBlkX left
  have height := reach.height_le dstBlkY below
  have inside : dstBlkX < _ := Nat.lt_div_mul_add request.hSampFactor_pos
  rw [Nat.div_mul_cancel rowsDvd] at height
  simp only [if_false, Bool.false_eq_true] at access whole width height
  by_cases mirrored : request.xCropBlocks + dstBlkX < request.compWidth request.outputWidth
  · simp only [mirrored, if_true, gather, mirror_of_lt, decide_true, mirror_zero, Nat.not_lt_zero,
      decide_false, Nat.add_zero, if_false, Bool.false_eq_true, Block.reflect, Block.exchange]
    constructor
    · simp only [BlockRef.Valid]
      omega
    · simp only [BlockRef.read]
      congr 2 <;> omega
  · simp only [mirrored, if_false, gather, mirror_of_le (Nat.not_lt.mp mirrored), mirror_zero,
      Nat.not_lt_zero, decide_false, Nat.add_zero, Bool.false_eq_true, Block.reflect,
      Block.exchange]
    constructor
    · simp only [BlockRef.Valid]
      omega
    · simp only [BlockRef.read, id]
      congr 1 <;> omega

theorem gathers_doRot90 (room : Room request target)
    (reach : Reach request true (request.compWidth request.outputHeight) 0 source) :
    Gathers request true (request.compWidth request.outputHeight) 0 source target
      request.doRot90 := by
  apply performAll_groupLoop request.hSampFactor_pos dvd_rfl room
  rintro dstBlkY offsetY dstBlkX offsetX ⟨below, rowsDvd⟩ inRows ⟨left, columnsDvd⟩ inColumns
  have access := reach.access
  have whole := reach.columns_le
  have width := reach.width_le dstBlkX left
  have height := reach.height_le dstBlkY below
  rw [Nat.div_mul_cancel rowsDvd] at height
  rw [Nat.div_mul_cancel columnsDvd] at width
  simp only [if_true] at access whole width height
  rcases axis_cases request.xCropOffset reach.columns_dvd columnsDvd inColumns with
    ⟨mirrored, group, place, sign⟩ | ⟨edge, place, sign⟩
  · simp only [Request.xCropBlocks] at *
    simp only [mirrored, if_true, gather, place, sign, mirror_zero, Nat.not_lt_zero,
      decide_false, Block.reflect, Block.exchange]
    constructor
    · simp only [BlockRef.Valid]
      omega
    · simp only [BlockRef.read]
      congr 3 <;> omega
  · simp only [Request.xCropBlocks] at *
    simp only [edge, if_false, gather, place, sign, mirror_zero, if_true,
      Nat.not_lt_zero, decide_false, Block.reflect, Block.exchange]
    constructor
    · simp only [BlockRef.Valid]
      omega
    · simp only [BlockRef.read]
      congr 2 <;> omega

theorem gathers_doFlipV (room : Room request target)
    (reach : Reach request false 0 (request.compHeight request.outputHeight) source) :
    Gathers request false 0 (request.compHeight request.outputHeight) source target
      request.doFlipV := by
  apply performAll_groupLoop Nat.one_pos (one_dvd _) room
  rintro dstBlkY offsetY dstBlkX offsetX ⟨below, rowsDvd⟩ inRows ⟨left, -⟩ one
  have access := reach.access
  have whole := reach.rows_le
  have width := reach.width_le dstBlkX left
  have height := reach.height_le dstBlkY below
  have inside : dstBlkX < _ := Nat.lt_div_mul_add request.hSampFactor_pos
  rw [Nat.div_mul_cancel rowsDvd] at height
  simp only [if_false, Bool.false_eq_true] at access whole width height
  rcases axis_cases request.yCropOffset reach.rows_dvd rowsDvd inRows with
    ⟨mirrored, group, place, sign⟩ | ⟨edge, place, sign⟩
  · simp only [Request.yCropBlocks] at *
    simp only [mirrored, if_true, gather, place, sign, mirror_zero, Nat.not_lt_zero,
      decide_false, if_false, Bool.false_eq_true, Block.reflect, Block.exchange]
    constructor
    · simp only [BlockRef.Valid]
      omega
    · simp only [BlockRef.read]
      congr 2 <;> omega
  · simp only [Request.yCropBlocks] at *
    simp only [edge, if_false, gather, place, sign, mirror_zero, Nat.not_lt_zero,
      decide_false, Bool.false_eq_true, Block.reflect, Block.exchange]
    constructor
    · simp only [BlockRef.Valid]
      omega
    · simp only [BlockRef.read, id]
      congr 1 <;> omega

theorem gathers_doTranspose (room : Room request target)
    (reach : Reach request true 0 0 source) :
    Gathers request true 0 0 source target request.doTranspose := by
  apply performAll_groupLoop request.hSampFactor_pos dvd_rfl room
  rintro dstBlkY offsetY dstBlkX offsetX ⟨below, rowsDvd⟩ inRows ⟨left, columnsDvd⟩ inColumns
  have access := reach.access
  have width := reach.width_le dstBlkX left
  have height := reach.height_le dstBlkY below
  rw [Nat.div_mul_cancel rowsDvd] at height
  rw [Nat.div_mul_cancel columnsDvd] at width
  simp only [if_true] at access width height
  simp only [gather, mirror_zero, if_true, Nat.not_lt_zero, decide_false, Block.reflect,
    Block.exchange]
  constructor
  · simp only [BlockRef.Valid]
    omega
  · simp only [BlockRef.read]
    congr 2 <;> omega

theorem gathers_doRot270 (room : Room request target)
    (reach : Reach request true 0 (request.compHeight request.outputWidth) source) :
    Gathers request true 0 (request.compHeight request.outputWidth) source target
      request.doRot270 := by
  apply performAll_groupLoop request.hSampFactor_pos dvd_rfl room
  rintro dstBlkY offsetY dstBlkX offsetX ⟨below, rowsDvd⟩ inRows ⟨left, columnsDvd⟩ inColumns
  have access := reach.access
  have whole := reach.rows_le
  have width := reach.width_le dstBlkX left
  have height := reach.height_le dstBlkY below
  rw [Nat.div_mul_cancel rowsDvd] at height
  rw [Nat.div_mul_cancel columnsDvd] at width
  simp only [if_true] at access whole width height
  rcases axis_cases request.yCropOffset reach.rows_dvd rowsDvd inRows with
    ⟨mirrored, group, place, sign⟩ | ⟨edge, place, sign⟩
  · simp only [Request.yCropBlocks] at *
    simp only [mirrored, if_true, gather, place, sign, mirror_zero, Nat.not_lt_zero,
      decide_false, Block.reflect, Block.exchange]
    constructor
    · simp only [BlockRef.Valid]
      omega
    · simp only [BlockRef.read]
      congr 3 <;> omega
  · simp only [Request.yCropBlocks] at *
    simp only [edge, if_false, gather, place, sign, mirror_zero, if_true, Nat.not_lt_zero,
      decide_false, Block.reflect, Block.exchange]
    constructor
    · simp only [BlockRef.Valid]
      omega
    · simp only [BlockRef.read]
      congr 2 <;> omega

theorem gathers_doRot180 (room : Room request target)
    (reach : Reach request false (request.compWidth request.outputWidth)
      (request.compHeight request.outputHeight) source) :
    Gathers request false (request.compWidth request.outputWidth)
      (request.compHeight request.outputHeight) source target request.doRot180 := by
  apply performAll_groupLoop Nat.one_pos (one_dvd _) room
  rintro dstBlkY offsetY dstBlkX offsetX ⟨below, rowsDvd⟩ inRows ⟨left, -⟩ one
  obtain rfl : offsetX = 0 := by omega
  have access := reach.access
  have wholeColumns := reach.columns_le
  have wholeRows := reach.rows_le
  have width := reach.width_le dstBlkX left
  have height := reach.height_le dstBlkY below
  have inside : dstBlkX < _ := Nat.lt_div_mul_add request.hSampFactor_pos
  rw [Nat.div_mul_cancel rowsDvd] at height
  simp only [if_false, Bool.false_eq_true] at access wholeColumns wholeRows width height
  by_cases left : request.xCropBlocks + dstBlkX < request.compWidth request.outputWidth
  · rcases axis_cases request.yCropOffset reach.rows_dvd rowsDvd inRows with
      ⟨mirrored, group, place, sign⟩ | ⟨edge, place, sign⟩
    · simp only [Request.yCropBlocks] at *
      simp only [mirrored, left, if_true, gather, place, sign, mirror_of_lt, decide_true,
        Nat.add_zero, if_false, Bool.false_eq_true, Block.reflect, Block.exchange]
      constructor
      · simp only [BlockRef.Valid]
        omega
      · simp only [BlockRef.read]
        congr 2 <;> omega
    · simp only [Request.yCropBlocks] at *
      simp only [edge, left, if_true, gather, place, sign, mirror_of_lt, decide_true,
        Nat.add_zero, if_false, Bool.false_eq_true, Block.reflect, Block.exchange]
      constructor
      · simp only [BlockRef.Valid]
        omega
      · simp only [BlockRef.read]
        congr 2 <;> omega
  · have edgeColumn := mirror_of_le (Nat.not_lt.mp left)
    rcases axis_cases request.yCropOffset reach.rows_dvd rowsDvd inRows with
      ⟨mirrored, group, place, sign⟩ | ⟨edge, place, sign⟩
    · simp only [Request.yCropBlocks] at *
      simp only [mirrored, left, if_true, gather, place, sign, edgeColumn, decide_false,
        Nat.add_zero, if_false, Bool.false_eq_true, Block.reflect, Block.exchange]
      constructor
      · simp only [BlockRef.Valid]
        omega
      · simp only [BlockRef.read]
        congr 2
        omega
    · simp only [Request.yCropBlocks] at *
      simp only [edge, left, gather, place, sign, edgeColumn, decide_false,
        Nat.add_zero, if_false, Bool.false_eq_true, Block.reflect, Block.exchange]
      constructor
      · simp only [BlockRef.Valid]
        omega
      · simp only [BlockRef.read, id]
        congr 1 <;> omega

theorem gathers_doTransverse (room : Room request target)
    (reach : Reach request true (request.compWidth request.outputHeight)
      (request.compHeight request.outputWidth) source) :
    Gathers request true (request.compWidth request.outputHeight)
      (request.compHeight request.outputWidth) source target request.doTransverse := by
  apply performAll_groupLoop request.hSampFactor_pos dvd_rfl room
  rintro dstBlkY offsetY dstBlkX offsetX ⟨below, rowsDvd⟩ inRows ⟨left, columnsDvd⟩ inColumns
  have access := reach.access
  have wholeColumns := reach.columns_le
  have wholeRows := reach.rows_le
  have width := reach.width_le dstBlkX left
  have height := reach.height_le dstBlkY below
  rw [Nat.div_mul_cancel rowsDvd] at height
  rw [Nat.div_mul_cancel columnsDvd] at width
  simp only [if_true] at access wholeColumns wholeRows width height
  rcases axis_cases request.xCropOffset reach.columns_dvd columnsDvd inColumns with
    ⟨left, columnGroup, column, columnSign⟩ | ⟨right, column, columnSign⟩
  · rcases axis_cases request.yCropOffset reach.rows_dvd rowsDvd inRows with
      ⟨top, rowGroup, row, rowSign⟩ | ⟨bottom, row, rowSign⟩
    · simp only [Request.xCropBlocks, Request.yCropBlocks] at *
      simp only [left, top, if_true, gather, column, columnSign, row, rowSign, Block.reflect,
        Block.exchange]
      constructor
      · simp only [BlockRef.Valid]
        omega
      · simp only [BlockRef.read]
        congr 3 <;> omega
    · simp only [Request.xCropBlocks, Request.yCropBlocks] at *
      simp only [left, bottom, if_true, if_false, gather, column, columnSign, row, rowSign,
        Block.reflect, Block.exchange]
      constructor
      · simp only [BlockRef.Valid]
        omega
      · simp only [BlockRef.read]
        congr 3 <;> omega
  · rcases axis_cases request.yCropOffset reach.rows_dvd rowsDvd inRows with
      ⟨top, rowGroup, row, rowSign⟩ | ⟨bottom, row, rowSign⟩
    · simp only [Request.xCropBlocks, Request.yCropBlocks] at *
      simp only [right, top, if_true, if_false, gather, column, columnSign, row, rowSign,
        Block.reflect, Block.exchange]
      constructor
      · simp only [BlockRef.Valid]
        omega
      · simp only [BlockRef.read]
        congr 3 <;> omega
    · simp only [Request.xCropBlocks, Request.yCropBlocks] at *
      simp only [right, bottom, if_true, if_false, gather, column, columnSign, row, rowSign,
        Block.reflect, Block.exchange]
      constructor
      · simp only [BlockRef.Valid]
        omega
      · simp only [BlockRef.read]
        congr 2 <;> omega

/-! ## Working in place -/

theorem mem_flippedRows {row : ℕ} : row ∈ request.flippedRows ↔
    row / request.vSampFactor * request.vSampFactor < request.heightInBlocks := by
  have vPos := request.vSampFactor_pos
  simp only [Request.flippedRows, List.mem_flatMap, List.mem_map, List.mem_range,
    mem_forStep vPos]
  constructor
  · rintro ⟨blkY, ⟨below, n, rfl⟩, offset, inGroup, rfl⟩
    rwa [Nat.mul_add_div vPos, Nat.div_eq_of_lt inGroup, Nat.add_zero, Nat.mul_comm]
  · intro below
    exact ⟨_, ⟨below, Nat.dvd_mul_left _ _⟩, _, Nat.mod_lt row vPos, Nat.div_add_mod' _ _⟩

theorem nodup_flippedRows (request : Request) : request.flippedRows.Nodup := by
  have vPos := request.vSampFactor_pos
  apply List.nodup_flatMap.mpr
  constructor
  · intro blkY _
    exact List.Nodup.map (fun _ _ => Nat.add_left_cancel) List.nodup_range
  · apply List.Nodup.pairwise_of_forall_ne (nodup_forStep request.heightInBlocks vPos)
    intro first firstIn second secondIn different row inFirst inSecond
    rcases List.mem_map.mp inFirst with ⟨left, leftIn, rfl⟩
    rcases List.mem_map.mp inSecond with ⟨right, rightIn, same⟩
    rw [List.mem_range] at leftIn rightIn
    rcases ((mem_forStep vPos).mp firstIn).2 with ⟨m, rfl⟩
    rcases ((mem_forStep vPos).mp secondIn).2 with ⟨n, rfl⟩
    have quotient := congrArg (· / request.vSampFactor) same
    simp only [Nat.mul_add_div vPos, Nat.div_eq_of_lt leftIn, Nat.div_eq_of_lt rightIn,
      Nat.add_zero] at quotient
    exact different (by rw [quotient])

/-- A row after `do_flip_h_no_crop`. -/
theorem flipRow_apply (row : ℕ → Block) {column : ℕ}
    (inside : column < request.widthInBlocks) :
    request.flipRow row column =
      Block.reflect
        (request.xCropBlocks + column < request.compWidth request.outputWidth) false
        (row (mirror (request.compWidth request.outputWidth) (request.xCropBlocks + column))) := by
  have flipped : ∀ place, reversePrefix Block.negateOddColumns
      (request.compWidth request.outputWidth) row place =
      Block.reflect (place < request.compWidth request.outputWidth) false
        (row (mirror (request.compWidth request.outputWidth) place)) := by
    intro place
    rw [reversePrefix_apply]
    by_cases mirrored : place < request.compWidth request.outputWidth
    · simp only [mirrored, if_true, decide_true, Block.reflect]
    · simp only [mirrored, if_false, decide_false, Block.reflect,
        mirror_of_le (Nat.not_lt.mp mirrored)]
  rw [Request.flipRow]
  by_cases cropped : 0 < request.xCropBlocks
  · simp only [cropped, if_true, leftJustify_apply, inside, flipped,
      Nat.add_comm column request.xCropBlocks]
  · have uncropped : request.xCropBlocks = 0 := Nat.eq_zero_of_not_pos cropped
    simp only [uncropped, Nat.lt_irrefl, if_false, flipped, Nat.zero_add]

/-- Without a vertical offset the routine that works in place gathers what `do_flip_h`
gathers in a workspace. -/
theorem doFlipHNoCrop_gathers (top : request.yCropOffset = 0)
    (reach : Reach request false (request.compWidth request.outputWidth) 0 source) :
    ∃ memory, request.doFlipHNoCrop source = some { source with memory := memory } ∧
      ∀ row < request.heightInBlocks, ∀ column < request.widthInBlocks,
        memory row column = gather false (request.compWidth request.outputWidth) 0
          source.memory (request.yCropBlocks + row) (request.xCropBlocks + column) := by
  have uncropped : request.yCropBlocks = 0 := by
    rw [Request.yCropBlocks, top, Nat.zero_mul]
  have inside : request.FlipsInside source := by
    refine ⟨reach.access, ?_, reach.columns_le, ?_⟩
    · intro blkY present
      rcases (mem_forStep request.vSampFactor_pos).mp present with ⟨below, rowsDvd⟩
      have height := reach.height_le blkY below
      rw [Nat.div_mul_cancel rowsDvd, uncropped, Nat.zero_add] at height
      exact height
    · intro _ blkX left
      have width := reach.width_le blkX left
      have within : blkX < _ := Nat.lt_div_mul_add request.hSampFactor_pos
      simp only [Bool.false_eq_true, if_false] at width
      omega
  refine ⟨_, if_pos inside, ?_⟩
  intro row below column left
  have first : row / request.vSampFactor * request.vSampFactor < request.heightInBlocks :=
    lt_of_le_of_lt (Nat.div_mul_le_self _ _) below
  rw [foldl_update_row _ _ (nodup_flippedRows request), if_pos (mem_flippedRows.mpr first),
    flipRow_apply _ left]
  simp only [gather, uncropped, Nat.zero_add, Nat.not_lt_zero, decide_false, mirror_zero,
    Block.exchange, Bool.false_eq_true, if_false]

/-- The routine that works in place leaves the blocks that `do_flip_h` writes to a
workspace. -/
theorem doFlipHNoCrop_agrees (top : request.yCropOffset = 0) (room : Room request target)
    (reach : Reach request false (request.compWidth request.outputWidth) 0 source) :
    ∃ inPlace copied, request.doFlipHNoCrop source = some inPlace ∧
      performAll source target request.doFlipH = some copied ∧
      ∀ row < request.heightInBlocks, ∀ column < request.widthInBlocks,
        inPlace.memory row column = copied.memory row column := by
  rcases doFlipHNoCrop_gathers top reach with ⟨memory, flipped, inMemory⟩
  rcases gathers_doFlipH room reach with ⟨memory', copied, inWorkspace⟩
  refine ⟨_, _, flipped, copied, ?_⟩
  intro row below column left
  exact (inMemory row below column left).trans (inWorkspace row below column left).symm

/-- Two MCUs of which the first is cropped, and the partial third one. -/
def croppedRow : Request where
  hSampFactor := 2
  vSampFactor := 1
  widthInBlocks := 3
  heightInBlocks := 1
  maxHSampFactor := 2
  maxVSampFactor := 1
  outputWidth := 40
  outputHeight := 8
  xCropOffset := 1
  yCropOffset := 0
  hSampFactor_pos := Nat.two_pos
  vSampFactor_pos := Nat.one_pos

/-- A row of blocks that hold their column. -/
def numberedRow (blocks : ℕ) : VirtualArray where
  blocksPerRow := blocks
  rowsInArray := 1
  maxAccess := 1
  memory _ column _ _ := ⟨column % 8, by omega, by omega⟩

theorem doFlipHNoCrop_agrees_croppedRow :
    ∃ inPlace copied, croppedRow.doFlipHNoCrop (numberedRow 6) = some inPlace ∧
      performAll (numberedRow 6) (numberedRow 4) croppedRow.doFlipH = some copied ∧
      ∀ row < 1, ∀ column < 3, inPlace.memory row column = copied.memory row column := by
  have room : Room croppedRow (numberedRow 4) := ⟨by decide, by decide, by decide⟩
  have reach : Reach croppedRow false (croppedRow.compWidth croppedRow.outputWidth) 0
      (numberedRow 6) :=
    ⟨by decide, by decide, by decide, by decide, by decide, by decide, by decide⟩
  exact doFlipHNoCrop_agrees rfl room reach

end Routines

end IiifImage.Coefficients
