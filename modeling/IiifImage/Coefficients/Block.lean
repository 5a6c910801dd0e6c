import IiifImage.Dct.Basis

/-!
# Blocks of coefficients

The blocks that the lossless routines copy, with the changes that they make within a
block: signs of odd columns, of odd rows or of both, and transposition.  On the samples
that a block stands for these are mirror images and the transposed block.
-/

namespace IiifImage.Coefficients

open scoped Matrix

def dctSize : ℕ := 8

/-- `JCOEF`.  The least `short`, which has no negative, is left out. -/
@[ext] structure JCoef where
  value : ℤ
  low : -32767 ≤ value
  high : value ≤ 32767
  deriving DecidableEq

instance : Neg JCoef where
  neg coef := ⟨-coef.value, by have := coef.high; omega, by have := coef.low; omega⟩

@[simp] theorem value_neg (coef : JCoef) : (-coef).value = -coef.value := rfl

instance : InvolutiveNeg JCoef where
  neg_neg coef := by
    ext
    simp

instance : Inhabited JCoef := ⟨⟨0, by decide, by decide⟩⟩

/-- `JBLOCK`, by row and column. -/
abbrev Block := Matrix (Fin 8) (Fin 8) JCoef

namespace Block

/-- Copy even columns, and odd columns with sign change. -/
def negateOddColumns (block : Block) : Block := fun row column =>
  if column.val % 2 = 1 then -block row column else block row column

/-- Copy even rows, and odd rows with sign change. -/
def negateOddRows (block : Block) : Block := fun row column =>
  if row.val % 2 = 1 then -block row column else block row column

/-- For an even row negate every odd column, for an odd row every even column. -/
def negateAlternate (block : Block) : Block := fun row column =>
  if row.val % 2 = 0 then
    if column.val % 2 = 1 then -block row column else block row column
  else
    if column.val % 2 = 0 then -block row column else block row column

/-- Mirror the samples of a block on demand. -/
def reflect : (flipX flipY : Bool) → Block → Block
  | false, false, block => block
  | true, false, block => block.negateOddColumns
  | false, true, block => block.negateOddRows
  | true, true, block => block.negateAlternate

/-- Transpose the samples of a block on demand. -/
def exchange (transpose : Bool) (block : Block) : Block :=
  if transpose then blockᵀ else block

theorem reflect_apply (flipX flipY : Bool) (block : Block) (row column : Fin 8) :
    reflect flipX flipY block row column =
      if xor (flipX && column.val % 2 == 1) (flipY && row.val % 2 == 1) then -block row column
      else block row column := by
  rcases Nat.mod_two_eq_zero_or_one column.val with evenColumn | oddColumn <;>
    rcases Nat.mod_two_eq_zero_or_one row.val with evenRow | oddRow <;>
      cases flipX <;> cases flipY <;>
        simp [reflect, negateOddColumns, negateOddRows, negateAlternate, *]

theorem reflect_reflect (outerX outerY innerX innerY : Bool) (block : Block) :
    reflect outerX outerY (reflect innerX innerY block) =
      reflect (xor outerX innerX) (xor outerY innerY) block := by
  funext row column
  rw [reflect_apply, reflect_apply, reflect_apply]
  cases column.val % 2 == 1 <;> cases row.val % 2 == 1 <;>
    cases outerX <;> cases outerY <;> cases innerX <;> cases innerY <;> simp

theorem exchange_reflect (transpose flipX flipY : Bool) (block : Block) :
    exchange transpose (reflect flipX flipY block) =
      reflect (if transpose then flipY else flipX) (if transpose then flipX else flipY)
        (exchange transpose block) := by
  cases transpose with
  | false => rfl
  | true =>
      funext row column
      simp only [exchange, if_true, Matrix.transpose_apply, reflect_apply, Bool.xor_comm]

theorem exchange_exchange (outer inner : Bool) (block : Block) :
    exchange outer (exchange inner block) = exchange (xor outer inner) block := by
  cases outer <;> cases inner <;> rfl

end Block

/-! ## Samples -/

/-- `JQUANT_TBL`. -/
abbrev QuantTable := Matrix (Fin 8) (Fin 8) ℕ

namespace Block

variable {K : Type} [CommRing K]

/-- The coefficients that a block stands for. -/
def dequantize (table : QuantTable) (block : Block) : Matrix (Fin 8) (Fin 8) K :=
  fun row column => (block row column).value * table row column

theorem dequantize_exchange (transpose : Bool) (table : QuantTable) (block : Block) :
    (exchange transpose block).dequantize (K := K)
        (if transpose then tableᵀ else table) =
      if transpose then (block.dequantize table)ᵀ else block.dequantize table := by
  cases transpose <;> rfl

theorem dequantize_reflect (flipX flipY : Bool) (table : QuantTable) (block : Block) :
    (reflect flipX flipY block).dequantize (K := K) table =
      Dct.signed flipX flipY (block.dequantize table) := by
  funext row column
  simp only [dequantize, Dct.signed, reflect_apply]
  rcases Nat.mod_two_eq_zero_or_one column.val with evenColumn | oddColumn <;>
    rcases Nat.mod_two_eq_zero_or_one row.val with evenRow | oddRow <;>
      cases flipX <;> cases flipY <;>
        simp [neg_one_pow_eq_pow_mod_two, *]

def samples (basis : Dct.Basis 8 K) (table : QuantTable) (block : Block) :
    Matrix (Fin 8) (Fin 8) K :=
  basis.samples (block.dequantize table)

/-- The samples of a block that is transposed and then mirrored. -/
theorem samples_reflect_exchange (basis : Dct.Basis 8 K) (transpose flipX flipY : Bool)
    (table : QuantTable) (block : Block) (row column : Fin 8) :
    (reflect flipX flipY (exchange transpose block)).samples basis
        (if transpose then tableᵀ else table) row column =
      if transpose then
        block.samples basis table (Dct.mirrored flipX column) (Dct.mirrored flipY row)
      else block.samples basis table (Dct.mirrored flipY row) (Dct.mirrored flipX column) := by
  rw [samples, dequantize_reflect, dequantize_exchange, basis.samples_signed]
  cases transpose with
  | false => rfl
  | true =>
      simp only [if_true, basis.samples_transpose, Matrix.transpose_apply]
      rfl

end Block

end IiifImage.Coefficients
