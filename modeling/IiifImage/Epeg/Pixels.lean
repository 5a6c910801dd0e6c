import IiifImage.Arrays.InPlace
import IiifImage.Epeg.Reduction
import IiifImage.Raster.Basic

/-!
# The pixels of Epeg

The buffer that `_epeg_decode` allocates and fills and in which `_epeg_scale` reduces the
image.  Sizes and offsets are computed as `unsigned int`, and an access outside the
buffer, after which anything may happen, is `none`.
-/

namespace IiifImage.Epeg

open Arrays

variable {β : Type}

/-- The conversion to `unsigned int`. -/
def uint (n : ℕ) : ℕ := n % 4294967296

theorem uint_of_lt {n : ℕ} (small : n < 4294967296) : uint n = n := Nat.mod_eq_of_lt small

theorem uint_lt (n : ℕ) : uint n < 4294967296 := Nat.mod_lt n (by decide)

/-- The dimensions of the decoded image in `jpeg_decompress_struct`. -/
structure Output where
  width : ℕ
  height : ℕ
  components : ℕ
  width_pos : 0 < width
  height_pos : 0 < height
  components_pos : 0 < components
  width_le : width ≤ 65500
  height_le : height ≤ 65500
  components_le : components ≤ 4

/-- What libjpeg does after `jpeg_start_decompress`: how many rows it delivers at once
when some have been delivered, and their samples. -/
structure Decompressor (β : Type) where
  out : Output
  rowCtr : ℕ → ℕ
  samples : ℕ → ℕ → β
  rowCtr_le : ∀ scanline < out.height, scanline + rowCtr scanline ≤ out.height

/-! ## The buffer -/

namespace Output

variable (out : Output)

def bytes : ℕ := out.height * out.width * out.components

/-- The argument of `malloc` for `pixels`. -/
def bufferSize : ℕ := uint (uint (out.width * out.height) * out.components)

/-- `lines[y] - pixels`. -/
def line (y : ℕ) : ℕ := uint (y * out.components * out.width)

/-- The pixels of some columns and rows in the buffer. -/
def raster (cells : ℕ → β) (width height : ℕ) : Raster (List β) :=
  Raster.ofFn width height fun x y =>
    (List.range out.components).map fun i => cells (out.line y + x * out.components + i)

/-- The rows that are handed to `jpeg_write_scanlines`. -/
def rows (cells : ℕ → β) (width height : ℕ) : List (List β) :=
  (List.range height).map fun y =>
    (List.range (width * out.components)).map fun k => cells (out.line y + k)

variable {out} {y : ℕ}

theorem bufferSize_of_fits (fits : out.bytes < 4294967296) : out.bufferSize = out.bytes := by
  rw [bytes] at fits
  have area : out.width * out.height < 4294967296 := by
    calc
      out.width * out.height = out.height * out.width := Nat.mul_comm _ _
      _ ≤ out.height * out.width * out.components := Nat.le_mul_of_pos_right _ out.components_pos
      _ < 4294967296 := fits
  rw [bufferSize, uint_of_lt area, Nat.mul_comm out.width, uint_of_lt fits, bytes]

theorem line_of_fits (fits : out.bytes < 4294967296) (row : y ≤ out.height) :
    out.line y = y * out.width * out.components := by
  have before : y * out.components * out.width ≤ out.bytes := by
    rw [bytes, Nat.mul_right_comm]
    exact Nat.mul_le_mul_right _ (Nat.mul_le_mul_right _ row)
  rw [line, uint_of_lt (before.trans_lt fits), Nat.mul_right_comm]

/-- A row of the image follows the one before. -/
theorem line_succ (fits : out.bytes < 4294967296) (row : y < out.height) :
    out.line y + out.width * out.components = out.line (y + 1) := by
  rw [line_of_fits fits row.le, line_of_fits fits row, Nat.succ_mul, Nat.add_mul]

theorem line_le_line {y' : ℕ} (fits : out.bytes < 4294967296) (before : y ≤ y')
    (row : y' ≤ out.height) : out.line y ≤ out.line y' := by
  rw [line_of_fits fits (before.trans row), line_of_fits fits row]
  exact Nat.mul_le_mul_right _ (Nat.mul_le_mul_right _ before)

/-- The place of a sample. -/
theorem line_add (fits : out.bytes < 4294967296) (row : y ≤ out.height) (x i : ℕ) :
    out.line y + x * out.components + i = place out.width out.components y x i := by
  rw [line_of_fits fits row, place, Nat.add_mul]

/-- If the bytes of the image are too many for an `unsigned int`, a row crosses the
end. -/
theorem exists_row_across (overflows : ¬out.bytes < 4294967296) : ∃ y < out.height,
    4294967296 ≤ out.line y + out.width * out.components := by
  have step : 0 < out.width * out.components := Nat.mul_pos out.width_pos out.components_pos
  have quotient : 4294967295 / (out.width * out.components) * (out.width * out.components) ≤
      4294967295 := Nat.div_mul_le_self _ _
  have next : 4294967295 <
      (4294967295 / (out.width * out.components) + 1) * (out.width * out.components) := by
    rw [Nat.mul_comm]
    exact Nat.lt_mul_div_succ _ step
  refine ⟨4294967295 / (out.width * out.components), ?_, ?_⟩
  · rw [Nat.div_lt_iff_lt_mul step, ← Nat.mul_assoc]
    rw [bytes] at overflows
    omega
  · rw [line, Nat.mul_assoc, Nat.mul_comm out.components, uint_of_lt (by omega)]
    rw [Nat.succ_mul] at next
    omega

end Output

/-! ## Decoding -/

/-- Write cells from an offset on in an array of the given size. -/
def writeRow (size offset length : ℕ) (row : ℕ → β) (cells : ℕ → β) : Option (ℕ → β) :=
  if offset + length ≤ size then
    some fun k => if offset ≤ k ∧ k < offset + length then row (k - offset) else cells k
  else none

namespace Decompressor

variable (decompressor : Decompressor β)

def storeRow (y : ℕ) (cells : ℕ → β) : Option (ℕ → β) :=
  writeRow decompressor.out.bufferSize (decompressor.out.line y)
    (decompressor.out.width * decompressor.out.components) (decompressor.samples y) cells

/-- `jpeg_read_scanlines`. -/
def readScanlines (scanline : ℕ) (cells : ℕ → β) : Option (ℕ → β) :=
  (List.range (decompressor.rowCtr scanline)).foldlM
    (fun cells ahead => decompressor.storeRow (scanline + ahead) cells) cells

/-- The loop of `_epeg_decode`, with the code that is returned. -/
def decodeLoop (oldOutputScanline outputScanline : ℕ) (cells : ℕ → β) : Option (ℤ × (ℕ → β)) :=
  if outputScanline < decompressor.out.height then
    if oldOutputScanline = outputScanline then some (1, cells)
    else
      match decompressor.readScanlines outputScanline cells with
      | none => none
      | some cells => decodeLoop outputScanline
          (outputScanline + decompressor.rowCtr outputScanline) cells
  else some (0, cells)
termination_by (decompressor.out.height - outputScanline,
  if oldOutputScanline = outputScanline then 0 else 1)
decreasing_by
  -- Either rows have been delivered or the next turn gives up.
  rcases Nat.eq_zero_or_pos (decompressor.rowCtr outputScanline) with stalls | delivers
  · simp_all [Prod.lex_def]
  · exact Prod.Lex.left _ _ (by omega)

/-- `_epeg_decode` from `jpeg_start_decompress` on. -/
def decode (cells : ℕ → β) : Option (ℤ × (ℕ → β)) := decompressor.decodeLoop 1 0 cells

def picture : Raster (List β) :=
  Raster.ofFn decompressor.out.width decompressor.out.height fun x y =>
    (List.range decompressor.out.components).map fun i =>
      decompressor.samples y (x * decompressor.out.components + i)

/-- The decoder makes progress until the last row. -/
def Delivers : Prop :=
  ∀ scanline < decompressor.out.height, 0 < decompressor.rowCtr scanline

/-- The buffer holds the first rows. -/
def Filled (rows : ℕ) (cells : ℕ → β) : Prop :=
  ∀ y < rows, ∀ k < decompressor.out.width * decompressor.out.components,
    cells (decompressor.out.line y + k) = decompressor.samples y k

variable {decompressor} {cells : ℕ → β} {scanline old : ℕ}

theorem storeRow_filled (fits : decompressor.out.bytes < 4294967296)
    (row : scanline < decompressor.out.height) (filled : decompressor.Filled scanline cells) :
    ∃ next, decompressor.storeRow scanline cells = some next ∧
      decompressor.Filled (scanline + 1) next := by
  have follows := Output.line_succ fits row
  have inside : decompressor.out.line (scanline + 1) ≤ decompressor.out.bytes := by
    rw [Output.line_of_fits fits row, Output.bytes]
    exact Nat.mul_le_mul_right _ (Nat.mul_le_mul_right _ row)
  have valid : decompressor.out.line scanline +
      decompressor.out.width * decompressor.out.components ≤ decompressor.out.bufferSize := by
    rw [Output.bufferSize_of_fits fits, follows]
    exact inside
  refine ⟨_, if_pos valid, ?_⟩
  intro y before k inRow
  rcases Nat.lt_succ_iff_lt_or_eq.mp before with earlier | rfl
  · have ends : decompressor.out.line y + k < decompressor.out.line scanline := by
      have later := Output.line_le_line fits (Nat.succ_le_of_lt earlier) row.le
      rw [← Output.line_succ fits (earlier.trans row)] at later
      omega
    dsimp only
    rw [if_neg (by omega)]
    exact filled y earlier k inRow
  · dsimp only
    rw [if_pos (by omega), Nat.add_sub_cancel_left]

theorem readScanlines_filled (fits : decompressor.out.bytes < 4294967296)
    (row : scanline < decompressor.out.height) (filled : decompressor.Filled scanline cells) :
    ∃ next, decompressor.readScanlines scanline cells = some next ∧
      decompressor.Filled (scanline + decompressor.rowCtr scanline) next := by
  have within := decompressor.rowCtr_le scanline row
  rw [readScanlines]
  generalize decompressor.rowCtr scanline = count at within
  induction count with
  | zero => exact ⟨cells, rfl, filled⟩
  | succ count ih =>
      rcases ih (by omega) with ⟨before, read, filledBefore⟩
      rcases storeRow_filled fits (by omega) filledBefore with ⟨next, stored, filledNext⟩
      refine ⟨next, ?_, filledNext⟩
      rw [List.range_succ, List.foldlM_append, read]
      change decompressor.storeRow (scanline + count) before >>= some = _
      rw [stored]
      rfl

/-- The loop ends without leaving the buffer, and with code zero only if the image is
complete. -/
theorem decodeLoop_filled (fits : decompressor.out.bytes < 4294967296)
    (reached : scanline ≤ decompressor.out.height)
    (filled : decompressor.Filled scanline cells) :
    ∃ code final, decompressor.decodeLoop old scanline cells = some (code, final) ∧
      (code = 0 ∧ decompressor.Filled decompressor.out.height final ∨
        code = 1 ∧ ¬(old ≠ scanline ∧ decompressor.Delivers)) := by
  fun_induction decompressor.decodeLoop old scanline cells with
  | case1 scanline cells row =>
      exact ⟨1, cells, rfl, .inr ⟨rfl, fun progress => progress.1 rfl⟩⟩
  | case2 old scanline cells row moved failed =>
      rcases readScanlines_filled fits row filled with ⟨next, read, -⟩
      rw [failed] at read
      cases read
  | case3 old scanline cells row moved next read ih =>
      rcases readScanlines_filled fits row filled with ⟨next', read', filledNext⟩
      rw [read] at read'
      cases read'
      rcases ih (decompressor.rowCtr_le scanline row) filledNext with
        ⟨code, final, run, complete | ⟨gaveUp, stalled⟩⟩
      · exact ⟨code, final, run, .inl complete⟩
      · refine ⟨code, final, run, .inr ⟨gaveUp, ?_⟩⟩
        rintro ⟨-, delivers⟩
        have progress := delivers scanline row
        exact stalled ⟨by omega, delivers⟩
  | case4 old scanline cells done =>
      refine ⟨0, cells, rfl, .inl ⟨rfl, ?_⟩⟩
      rwa [le_antisymm reached (Nat.not_lt.mp done)] at filled

/-- An image with too many bytes is written beyond the end of the buffer. -/
theorem decodeLoop_overflows (delivers : decompressor.Delivers) {across : ℕ}
    (isRow : across < decompressor.out.height)
    (crosses : 4294967296 ≤ decompressor.out.line across +
      decompressor.out.width * decompressor.out.components)
    (before : scanline ≤ across) (moved : old ≠ scanline) :
    decompressor.decodeLoop old scanline cells = none := by
  have refused : ∀ cells, decompressor.storeRow across cells = none := by
    intro cells
    apply if_neg
    have small := uint_lt (uint (decompressor.out.width * decompressor.out.height) *
      decompressor.out.components)
    rw [Output.bufferSize]
    omega
  fun_induction decompressor.decodeLoop old scanline cells with
  | case1 scanline cells row => exact absurd rfl moved
  | case2 old scanline cells row moved failed => rfl
  | case3 old scanline cells row moved next read ih =>
      have progress := delivers scanline row
      by_cases passed : across < scanline + decompressor.rowCtr scanline
      · exfalso
        have included : across - scanline ∈ List.range (decompressor.rowCtr scanline) :=
          List.mem_range.mpr (by omega)
        rcases List.append_of_mem included with ⟨earlier, later, split⟩
        rw [readScanlines, split, List.foldlM_append] at read
        rcases Option.bind_eq_some_iff.mp read with ⟨reached, -, rest⟩
        rw [List.foldlM_cons, Nat.add_sub_cancel' before, refused] at rest
        cases rest
      · exact ih (by omega) (by omega)
  | case4 old scanline cells done => exact absurd (before.trans_lt isRow) done

/-- Decoding ends without leaving the buffer. -/
theorem decode_filled (fits : decompressor.out.bytes < 4294967296) (cells : ℕ → β) :
    ∃ code final, decompressor.decode cells = some (code, final) ∧
      (code = 0 ∧ decompressor.Filled decompressor.out.height final ∨
        code = 1 ∧ ¬decompressor.Delivers) := by
  have empty : decompressor.Filled 0 cells := fun y before => absurd before (Nat.not_lt_zero y)
  rcases decodeLoop_filled fits (Nat.zero_le _) empty with
    ⟨code, final, run, complete | ⟨gaveUp, stalled⟩⟩
  · exact ⟨code, final, run, .inl complete⟩
  · exact ⟨code, final, run, .inr ⟨gaveUp, fun delivers => stalled ⟨Nat.one_ne_zero, delivers⟩⟩⟩

/-- Decoding stays in the buffer exactly if the bytes of the image can be counted by an
`unsigned int`. -/
theorem decode_isSome_iff (delivers : decompressor.Delivers) (cells : ℕ → β) :
    (decompressor.decode cells).isSome = true ↔ decompressor.out.bytes < 4294967296 := by
  constructor
  · intro inside
    by_contra overflows
    rcases Output.exists_row_across overflows with ⟨across, isRow, crosses⟩
    have outside : decompressor.decode cells = none :=
      decodeLoop_overflows delivers isRow crosses (Nat.zero_le across) Nat.one_ne_zero
    rw [outside] at inside
    cases inside
  · intro fits
    rcases decode_filled fits cells with ⟨code, final, run, -⟩
    rw [run]
    rfl

/-- A file of 40000 by 40000 pixels that is decoded row by row. -/
def huge : Decompressor (BitVec 8) where
  out := {
    width := 40000
    height := 40000
    components := 3
    width_pos := by decide
    height_pos := by decide
    components_pos := by decide
    width_le := by decide
    height_le := by decide
    components_le := by decide }
  rowCtr _ := 1
  samples _ _ := 0
  rowCtr_le _ row := row

theorem decode_isSome_iff_huge : ¬(huge.decode fun _ => 0).isSome = true := by
  have delivers : huge.Delivers := fun _ _ => Nat.one_pos
  rw [decode_isSome_iff delivers]
  decide

/-- What a buffer that holds the image shows. -/
theorem raster_filled (filled : decompressor.Filled decompressor.out.height cells) :
    decompressor.out.raster cells decompressor.out.width decompressor.out.height =
      decompressor.picture := by
  ext1
  · rfl
  · rfl
  · funext x y
    simp only [Output.raster, picture, Raster.ofFn]
    by_cases inside : x < decompressor.out.width ∧ y < decompressor.out.height
    · rw [if_pos inside, if_pos inside]
      congr 1
      apply List.map_congr_left
      intro i inPixel
      rw [Nat.add_assoc]
      exact filled y inside.2 _ (group_lt inside.1 (List.mem_range.mp inPixel))
    · rw [if_neg inside, if_neg inside]

end Decompressor

/-! ## Scaling -/

namespace Output

variable (out : Output)

/-- The loops of `_epeg_scale`. -/
def scaleMoves (w h : ℕ) : List Move :=
  nestedMoves h w out.components fun y x i =>
    { target := out.line y + x * out.components + i
      source := uint (uint (y * out.height) / h * out.components * out.width) +
        uint (uint (x * out.width) / w * out.components) + i }

/-- `_epeg_scale`. -/
def scale (inWidth inHeight outWidth outHeight : ℕ) (cells : ℕ → β) : Option (ℕ → β) :=
  if inWidth = outWidth ∧ inHeight = outHeight then some cells
  else moveAllIn out.bufferSize cells (out.scaleMoves outWidth outHeight)

variable {out} {w h x y i : ℕ}

/-- Products of dimensions can be counted by an `unsigned int`. -/
theorem product_lt {a b : ℕ} (left : a ≤ 65500) (right : b ≤ 65500) : a * b < 4294967296 :=
  (Nat.mul_le_mul left right).trans_lt (by decide)

/-- The sample that is moved to a place. -/
theorem source_scaleMoves (fits : out.bytes < 4294967296) (narrow : w ≤ out.width)
    (low : h ≤ out.height) (row : y < h) (column : x < w) :
    uint (uint (y * out.height) / h * out.components * out.width) +
        uint (uint (x * out.width) / w * out.components) + i =
      place out.width out.components (y * out.height / h) (x * out.width / w) i := by
  have inRows : y * out.height / h < out.height :=
    Nat.div_lt_of_lt_mul (Nat.mul_lt_mul_of_pos_right row out.height_pos)
  have inColumns : x * out.width / w < out.width :=
    Nat.div_lt_of_lt_mul (Nat.mul_lt_mul_of_pos_right column out.width_pos)
  have inRow : x * out.width / w * out.components < 4294967296 :=
    (Nat.mul_le_mul inColumns.le (out.components_le.trans (show 4 ≤ 65500 by decide))).trans_lt
      (product_lt out.width_le le_rfl)
  rw [uint_of_lt (product_lt ((row.le.trans low).trans out.height_le) out.height_le),
    uint_of_lt (product_lt ((column.le.trans narrow).trans out.width_le) out.width_le),
    uint_of_lt inRow]
  exact line_add fits inRows.le _ _

theorem source_not_below {size requested k : ℕ} (reduces : requested ≤ size)
    (inside : k < requested) : k ≤ k * size / requested := by
  rw [Nat.le_div_iff_mul_le (Nat.zero_lt_of_lt inside)]
  exact Nat.mul_le_mul_left k reduces

/-- The loops stay in the buffer, and no sample is written before it is read. -/
theorem scaleMoves_valid (fits : out.bytes < 4294967296) (narrow : w ≤ out.width)
    (low : h ≤ out.height) : Downward (out.scaleMoves w h) ∧
      ∀ move ∈ out.scaleMoves w h, move.Within out.bufferSize := by
  have targets : ∀ y < h, ∀ x < w, ∀ i < out.components,
      out.line y + x * out.components + i = place out.width out.components y x i :=
    fun y row x _ i _ => line_add fits (row.le.trans low) x i
  constructor
  · refine downward_nestedMoves narrow targets ?_
    intro y row x column i _
    dsimp only
    rw [source_scaleMoves fits narrow low row column]
    exact place_le (source_not_below low row) (source_not_below narrow column)
  · intro move present
    rcases mem_nestedMoves.mp present with ⟨y, row, x, column, i, deep, rfl⟩
    rw [Move.Within, targets y row x column i deep, source_scaleMoves fits narrow low row column,
      bufferSize_of_fits fits, bytes]
    constructor
    · exact place_lt_size (row.trans_le low) (column.trans_le narrow) deep
    · apply place_lt_size _ _ deep
      · exact Nat.div_lt_of_lt_mul (Nat.mul_lt_mul_of_pos_right row out.height_pos)
      · exact Nat.div_lt_of_lt_mul (Nat.mul_lt_mul_of_pos_right column out.width_pos)

/-- Scaling in place takes the nearest samples of the decoded image. -/
theorem scale_resamples {inWidth inHeight : ℕ} (fits : out.bytes < 4294967296)
    (narrow : w ≤ out.width) (low : h ≤ out.height)
    (unscaled : inWidth = w → inHeight = h → out.width = w ∧ out.height = h)
    (cells : ℕ → β) :
    ∃ scaled, out.scale inWidth inHeight w h cells = some scaled ∧
      out.raster scaled w h =
        (out.raster cells out.width out.height).resample w h out.width_pos out.height_pos := by
  by_cases same : inWidth = w ∧ inHeight = h
  · rcases unscaled same.1 same.2 with ⟨rfl, rfl⟩
    refine ⟨cells, if_pos same, ?_⟩
    ext1
    · rfl
    · rfl
    · funext x y
      simp only [Raster.resample, raster, Raster.ofFn, Nat.mul_div_cancel _ out.width_pos,
        Nat.mul_div_cancel _ out.height_pos]
      split_ifs <;> rfl
  · rcases scaleMoves_valid fits narrow low with ⟨downward, within⟩
    refine ⟨_, (if_neg same).trans (moveAllIn_of_within within), ?_⟩
    ext1
    · rfl
    · rfl
    · funext x y
      simp only [Raster.resample, raster, Raster.ofFn]
      by_cases inside : x < w ∧ y < h
      · rcases inside with ⟨column, row⟩
        have inColumns : x * out.width / w < out.width :=
          Nat.div_lt_of_lt_mul (Nat.mul_lt_mul_of_pos_right column out.width_pos)
        have inRows : y * out.height / h < out.height :=
          Nat.div_lt_of_lt_mul (Nat.mul_lt_mul_of_pos_right row out.height_pos)
        rw [if_pos ⟨column, row⟩, if_pos ⟨column, row⟩, if_pos ⟨inColumns, inRows⟩]
        congr 1
        apply List.map_congr_left
        intro i inPixel
        have deep := List.mem_range.mp inPixel
        have moved : (_ : Move) ∈ out.scaleMoves w h :=
          mem_nestedMoves.mpr ⟨y, row, x, column, i, deep, rfl⟩
        refine (moveAll_apply downward.unspoiled moved).trans ?_
        rw [source_scaleMoves fits narrow low row column, line_add fits inRows.le]
      · rw [if_neg inside, if_neg inside]

end Output

end IiifImage.Epeg
