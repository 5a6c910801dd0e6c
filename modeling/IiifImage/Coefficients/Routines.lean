import IiifImage.Coefficients.Image

/-!
# The lossless routines

The routines of `transupp.c` that copy the blocks of a component to a workspace, as
the lists of copies that their loops make.  The indices are those of the source; a copy
whose indices leave the arrays fails.
-/

namespace IiifImage.Coefficients

open scoped Matrix
open Arrays

/-! ## Copies -/

/-- A block of a group of rows: `access_virt_barray(array, startRow, numRows)`, then
`buffer[offset][column]`. -/
structure BlockRef where
  startRow : ℤ
  numRows : ℕ
  offset : ℤ
  column : ℤ

namespace BlockRef

/-- The group of rows can be accessed and the block is in it. -/
def Valid (ref : BlockRef) (array : VirtualArray) : Prop :=
  (0 ≤ ref.startRow ∧ ref.startRow + ref.numRows ≤ array.rowsInArray) ∧
    ref.numRows ≤ array.maxAccess ∧
    (0 ≤ ref.offset ∧ ref.offset < ref.numRows) ∧
    0 ≤ ref.column ∧ ref.column < array.blocksPerRow

instance (ref : BlockRef) (array : VirtualArray) : Decidable (ref.Valid array) :=
  inferInstanceAs (Decidable (_ ∧ _))

def read (ref : BlockRef) (array : VirtualArray) : Block :=
  array.memory (ref.startRow + ref.offset).toNat ref.column.toNat

end BlockRef

structure BlockCopy where
  target : BlockRef
  source : BlockRef
  change : Block → Block

namespace BlockCopy

def write (copy : BlockCopy) (source : VirtualArray) : Write Block where
  row := (copy.target.startRow + copy.target.offset).toNat
  column := copy.target.column.toNat
  value := copy.change (copy.source.read source)

def perform (source target : VirtualArray) (copy : BlockCopy) : Option VirtualArray :=
  if copy.target.Valid target ∧ copy.source.Valid source then
    some { target with memory := (copy.write source).perform target.memory }
  else none

end BlockCopy

def performAll (source target : VirtualArray) (copies : List BlockCopy) : Option VirtualArray :=
  copies.foldlM (BlockCopy.perform source) target

/-- What the routines know of a component: its entry in `dstinfo` and the parts of
`dstinfo`, `srcinfo` and the transform that they read. -/
structure Request where
  hSampFactor : ℕ
  vSampFactor : ℕ
  widthInBlocks : ℕ
  heightInBlocks : ℕ
  maxHSampFactor : ℕ
  maxVSampFactor : ℕ
  outputWidth : ℕ
  outputHeight : ℕ
  xCropOffset : ℕ
  yCropOffset : ℕ
  hSampFactor_pos : 0 < hSampFactor
  vSampFactor_pos : 0 < vSampFactor

namespace Request

variable (request : Request)

def xCropBlocks : ℕ := request.xCropOffset * request.hSampFactor

def yCropBlocks : ℕ := request.yCropOffset * request.vSampFactor

/-- `comp_width` for an axis of the source of the given length. -/
def compWidth (length : ℕ) : ℕ :=
  length / (request.maxHSampFactor * dctSize) * request.hSampFactor

/-- `comp_height` for an axis of the source of the given length. -/
def compHeight (length : ℕ) : ℕ :=
  length / (request.maxVSampFactor * dctSize) * request.vSampFactor

/-- The loops over a component: groups of rows, the rows of a group, groups of columns,
the columns of a group. -/
def groupLoop (columns : ℕ) (body : (dstBlkY offsetY dstBlkX offsetX : ℕ) →
    BlockRef × (Block → Block)) : List BlockCopy :=
  (forStep request.heightInBlocks request.vSampFactor).flatMap fun (dstBlkY : ℕ) =>
    (List.range request.vSampFactor).flatMap fun (offsetY : ℕ) =>
      (forStep request.widthInBlocks columns).flatMap fun (dstBlkX : ℕ) =>
        (List.range columns).map fun (offsetX : ℕ) =>
          { target := ⟨dstBlkY, request.vSampFactor, offsetY, dstBlkX + offsetX⟩
            source := (body dstBlkY offsetY dstBlkX offsetX).1
            change := (body dstBlkY offsetY dstBlkX offsetX).2 }

/-- The loops that take the columns one by one. -/
def rowLoop (body : (dstBlkY offsetY dstBlkX : ℕ) → BlockRef × (Block → Block)) :
    List BlockCopy :=
  request.groupLoop 1 fun dstBlkY offsetY dstBlkX _ => body dstBlkY offsetY dstBlkX

/-! ## Routines that keep the axes -/

def doCrop : List BlockCopy :=
  request.rowLoop fun dstBlkY offsetY dstBlkX =>
    (⟨dstBlkY + request.yCropBlocks, request.vSampFactor, offsetY,
      request.xCropBlocks + dstBlkX⟩, id)

def doFlipH : List BlockCopy :=
  let compWidth := request.compWidth request.outputWidth
  request.rowLoop fun dstBlkY offsetY dstBlkX =>
    if request.xCropBlocks + dstBlkX < compWidth then
      (⟨dstBlkY + request.yCropBlocks, request.vSampFactor, offsetY,
        (compWidth : ℤ) - request.xCropBlocks - dstBlkX - 1⟩, Block.negateOddColumns)
    else
      -- Copy last partial blocks verbatim.
      (⟨dstBlkY + request.yCropBlocks, request.vSampFactor, offsetY,
        dstBlkX + request.xCropBlocks⟩, id)

def doFlipV : List BlockCopy :=
  let compHeight := request.compHeight request.outputHeight
  request.rowLoop fun dstBlkY offsetY dstBlkX =>
    if request.yCropBlocks + dstBlkY < compHeight then
      (⟨(compHeight : ℤ) - request.yCropBlocks - dstBlkY - request.vSampFactor,
        request.vSampFactor, (request.vSampFactor : ℤ) - offsetY - 1,
        request.xCropBlocks + dstBlkX⟩, Block.negateOddRows)
    else
      (⟨dstBlkY + request.yCropBlocks, request.vSampFactor, offsetY,
        request.xCropBlocks + dstBlkX⟩, id)

def doRot180 : List BlockCopy :=
  let compWidth := request.compWidth request.outputWidth
  let compHeight := request.compHeight request.outputHeight
  request.rowLoop fun dstBlkY offsetY dstBlkX =>
    if request.yCropBlocks + dstBlkY < compHeight then
      let startRow := (compHeight : ℤ) - request.yCropBlocks - dstBlkY - request.vSampFactor
      let offset := (request.vSampFactor : ℤ) - offsetY - 1
      if request.xCropBlocks + dstBlkX < compWidth then
        (⟨startRow, request.vSampFactor, offset,
          (compWidth : ℤ) - request.xCropBlocks - dstBlkX - 1⟩, Block.negateAlternate)
      else
        -- Any remaining right-edge blocks are only mirrored vertically.
        (⟨startRow, request.vSampFactor, offset, request.xCropBlocks + dstBlkX⟩,
          Block.negateOddRows)
    else
      if request.xCropBlocks + dstBlkX < compWidth then
        (⟨dstBlkY + request.yCropBlocks, request.vSampFactor, offsetY,
          (compWidth : ℤ) - request.xCropBlocks - dstBlkX - 1⟩, Block.negateOddColumns)
      else
        (⟨dstBlkY + request.yCropBlocks, request.vSampFactor, offsetY,
          dstBlkX + request.xCropBlocks⟩, id)

/-! ## Routines that exchange the axes -/

def doTranspose : List BlockCopy :=
  request.groupLoop request.hSampFactor fun dstBlkY offsetY dstBlkX offsetX =>
    (⟨dstBlkX + request.xCropBlocks, request.hSampFactor, offsetX,
      dstBlkY + offsetY + request.yCropBlocks⟩, fun block => blockᵀ)

def doRot90 : List BlockCopy :=
  let compWidth := request.compWidth request.outputHeight
  request.groupLoop request.hSampFactor fun dstBlkY offsetY dstBlkX offsetX =>
    if request.xCropBlocks + dstBlkX < compWidth then
      (⟨(compWidth : ℤ) - request.xCropBlocks - dstBlkX - request.hSampFactor,
        request.hSampFactor, (request.hSampFactor : ℤ) - offsetX - 1,
        dstBlkY + offsetY + request.yCropBlocks⟩, fun block => Block.negateOddColumns blockᵀ)
    else
      -- Edge blocks are transposed but not mirrored.
      (⟨dstBlkX + request.xCropBlocks, request.hSampFactor, offsetX,
        dstBlkY + offsetY + request.yCropBlocks⟩, fun block => blockᵀ)

def doRot270 : List BlockCopy :=
  let compHeight := request.compHeight request.outputWidth
  request.groupLoop request.hSampFactor fun dstBlkY offsetY dstBlkX offsetX =>
    if request.yCropBlocks + dstBlkY < compHeight then
      (⟨dstBlkX + request.xCropBlocks, request.hSampFactor, offsetX,
        (compHeight : ℤ) - request.yCropBlocks - dstBlkY - offsetY - 1⟩,
        fun block => Block.negateOddRows blockᵀ)
    else
      (⟨dstBlkX + request.xCropBlocks, request.hSampFactor, offsetX,
        dstBlkY + offsetY + request.yCropBlocks⟩, fun block => blockᵀ)

def doTransverse : List BlockCopy :=
  let compWidth := request.compWidth request.outputHeight
  let compHeight := request.compHeight request.outputWidth
  request.groupLoop request.hSampFactor fun dstBlkY offsetY dstBlkX offsetX =>
    if request.yCropBlocks + dstBlkY < compHeight then
      let column := (compHeight : ℤ) - request.yCropBlocks - dstBlkY - offsetY - 1
      if request.xCropBlocks + dstBlkX < compWidth then
        (⟨(compWidth : ℤ) - request.xCropBlocks - dstBlkX - request.hSampFactor,
          request.hSampFactor, (request.hSampFactor : ℤ) - offsetX - 1, column⟩,
          fun block => Block.negateAlternate blockᵀ)
      else
        -- Right-edge blocks are mirrored in y only.
        (⟨dstBlkX + request.xCropBlocks, request.hSampFactor, offsetX, column⟩,
          fun block => Block.negateOddRows blockᵀ)
    else
      let column : ℤ := dstBlkY + offsetY + request.yCropBlocks
      if request.xCropBlocks + dstBlkX < compWidth then
        -- Bottom-edge blocks are mirrored in x only.
        (⟨(compWidth : ℤ) - request.xCropBlocks - dstBlkX - request.hSampFactor,
          request.hSampFactor, (request.hSampFactor : ℤ) - offsetX - 1, column⟩,
          fun block => Block.negateOddColumns blockᵀ)
      else
        (⟨dstBlkX + request.xCropBlocks, request.hSampFactor, offsetX, column⟩,
          fun block => blockᵀ)

/-! ## The routine that works in place -/

/-- The loops of `do_flip_h_no_crop` over the blocks of a row. -/
def flipRow (row : ℕ → Block) : ℕ → Block :=
  let mirrored := reversePrefix Block.negateOddColumns (request.compWidth request.outputWidth) row
  if 0 < request.xCropBlocks then
    leftJustify request.xCropBlocks request.widthInBlocks mirrored
  else mirrored

/-- The rows that `do_flip_h_no_crop` works on. -/
def flippedRows : List ℕ :=
  (forStep request.heightInBlocks request.vSampFactor).flatMap fun blkY =>
    (List.range request.vSampFactor).map (blkY + ·)

/-- All blocks that `do_flip_h_no_crop` reads and writes are in the array. -/
def FlipsInside (array : VirtualArray) : Prop :=
  request.vSampFactor ≤ array.maxAccess ∧
    (∀ blkY ∈ forStep request.heightInBlocks request.vSampFactor,
      blkY + request.vSampFactor ≤ array.rowsInArray) ∧
    request.compWidth request.outputWidth ≤ array.blocksPerRow ∧
    (0 < request.xCropBlocks → ∀ blkX < request.widthInBlocks,
      blkX + request.xCropBlocks < array.blocksPerRow)

instance (array : VirtualArray) : Decidable (request.FlipsInside array) :=
  inferInstanceAs (Decidable (_ ∧ _))

def doFlipHNoCrop (array : VirtualArray) : Option VirtualArray :=
  if request.FlipsInside array then
    some { array with
      memory := request.flippedRows.foldl
        (fun memory row => Function.update memory row (request.flipRow (memory row)))
        array.memory }
  else none

end Request

end IiifImage.Coefficients
