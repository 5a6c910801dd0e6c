import Mathlib.Tactic.Linarith
import IiifImage.Java.Number
import IiifImage.Model.Throwable
import IiifImage.Raster.Orientation

/-!
# Lossless transforms as Java objects

The Java side of the TurboJPEG binding: subsamplings and their MCU sizes, the
header that a decompressor reads, the transform record with its operation, options
and bounds, and the buffer sizes that the two sides of the binding compute.
-/

namespace IiifImage.TurboJpeg

open Java

/-! ## Headers -/

/-- Levels of chrominance subsampling, `TJ.SAMP_*`. -/
inductive Subsamp where
  | samp444
  | samp422
  | samp420
  | gray
  | samp440
  | samp411
  deriving DecidableEq, Repr

namespace Subsamp

/-- `tjMCUWidth`. -/
def mcuWidth : Subsamp → ℕ
  | samp444 => 8
  | samp422 => 16
  | samp420 => 16
  | gray => 8
  | samp440 => 8
  | samp411 => 32

/-- `tjMCUHeight`. -/
def mcuHeight : Subsamp → ℕ
  | samp444 => 8
  | samp422 => 8
  | samp420 => 16
  | gray => 8
  | samp440 => 16
  | samp411 => 8

end Subsamp

/-- `JPEG_MAX_DIMENSION`. -/
def maxDimension : ℕ := 65500

theorem le_maxInt_of_le_maxDimension {n : ℤ} (small : n ≤ maxDimension) : n ≤ maxInt := by
  rw [maxDimension] at small
  rw [maxInt]
  omega

/-- What `decompressHeader` stores in a decompressor.  Headers with other dimensions
are refused when they are read. -/
structure Header where
  width : ℤ
  height : ℤ
  subsamp : Subsamp
  width_pos : 1 ≤ width
  height_pos : 1 ≤ height
  width_le : width ≤ maxDimension
  height_le : height ≤ maxDimension
  deriving DecidableEq

/-! ## Transforms -/

/-- `TJTransform.OP_*`. -/
inductive TJOp where
  | none
  | hflip
  | vflip
  | transpose
  | transverse
  | rot90
  | rot180
  | rot270
  deriving DecidableEq, Repr

namespace TJOp

/-- The pixel permutation of an operation. -/
def orientation : TJOp → Orientation
  | none => ⟨false, false, false⟩
  | hflip => ⟨false, true, false⟩
  | vflip => ⟨false, false, true⟩
  | transpose => ⟨true, false, false⟩
  | transverse => ⟨true, true, true⟩
  | rot90 => ⟨true, true, false⟩
  | rot180 => ⟨false, true, true⟩
  | rot270 => ⟨true, false, true⟩

@[simp] theorem orientation_none : none.orientation = 1 := rfl

end TJOp

def optCrop : BitVec 32 := 4

def optGray : BitVec 32 := 8

/-- `TJTransform`, a rectangle with an operation and options.  The options
`PERFECT`, `TRIM` and `NOOUTPUT` and the custom filter are never used. -/
structure TJTransform where
  x : ℤ := 0
  y : ℤ := 0
  width : ℤ := 0
  height : ℤ := 0
  op : TJOp := .none
  options : BitVec 32 := 0
  deriving DecidableEq, Repr

namespace TJTransform

def isEmpty (t : TJTransform) : Bool := t.width ≤ 0 ∨ t.height ≤ 0

def setBounds (x y width height : ℤ) (t : TJTransform) : TJTransform :=
  { t with x := x, y := y, width := width, height := height }

/-- `(options & OPT_CROP) != 0`. -/
def hasCrop (t : TJTransform) : Bool := t.options &&& optCrop != 0

/-- `(options & OPT_GRAY) != 0`. -/
def hasGray (t : TJTransform) : Bool := t.options &&& optGray != 0

/-- `options |= flag`. -/
def addOption (flag : BitVec 32) (t : TJTransform) : TJTransform :=
  { t with options := t.options ||| flag }

theorem hasCrop_of_no_options {t : TJTransform} (unset : t.options = 0) :
    t.hasCrop = false := by
  simp [hasCrop, unset]

theorem hasGray_of_no_options {t : TJTransform} (unset : t.options = 0) :
    t.hasGray = false := by
  simp [hasGray, unset]

@[simp] theorem op_addOption (flag : BitVec 32) (t : TJTransform) :
    (t.addOption flag).op = t.op := rfl

@[simp] theorem hasCrop_addOption_crop (t : TJTransform) :
    (t.addOption optCrop).hasCrop = true := by
  simp [hasCrop, addOption, optCrop, BitVec.and_or_distrib_right]

@[simp] theorem hasCrop_addOption_gray (t : TJTransform) :
    (t.addOption optGray).hasCrop = t.hasCrop := by
  simp [hasCrop, addOption, optCrop, optGray, BitVec.and_or_distrib_right]

@[simp] theorem hasGray_addOption_gray (t : TJTransform) :
    (t.addOption optGray).hasGray = true := by
  simp [hasGray, addOption, optGray, BitVec.and_or_distrib_right]

@[simp] theorem hasGray_addOption_crop (t : TJTransform) :
    (t.addOption optCrop).hasGray = t.hasGray := by
  simp [hasGray, addOption, optCrop, optGray, BitVec.and_or_distrib_right]

end TJTransform

/-! ## Buffer sizes -/

/-- `PAD(v, p)`: `v` rounded up to a multiple of the power of two `p`. -/
def pad (v p : ℤ) : ℤ := (v + (p - 1)) / p * p

/-- `chromasf` of `tjBufSize`. -/
def chromasf : Subsamp → ℤ
  | .gray => 0
  | subsamp => 4 * 64 / (subsamp.mcuWidth * subsamp.mcuHeight)

/-- `tjBufSize`, with its `int` arithmetic and before the conversion to `unsigned
long`; an invalid argument gives `-1`. -/
def tjBufSize (width height : ℤ) (subsamp : Subsamp) : ℤ :=
  if width < 1 ∨ height < 1 then -1
  else wrap (pad width subsamp.mcuWidth * pad height subsamp.mcuHeight
    * (2 + chromasf subsamp) + 2048)

theorem tjBufSize_range (width height : ℤ) (subsamp : Subsamp) :
    minInt ≤ tjBufSize width height subsamp ∧ tjBufSize width height subsamp ≤ maxInt := by
  unfold tjBufSize wrap minInt maxInt
  split <;> omega

/-- The conversion of an `int` to `unsigned long`. -/
def unsignedLong (n : ℤ) : ℤ := n % 18446744073709551616

/-- The conversion of a negative value is larger than any `int`. -/
theorem unsignedLong_le_self_iff {n : ℤ} (low : minInt ≤ n) (high : n ≤ maxInt) :
    unsignedLong n ≤ n ↔ 0 ≤ n := by
  rw [minInt] at low
  rw [maxInt] at high
  rw [unsignedLong]
  omega

def bufSize (width height : ℤ) (subsamp : Subsamp) : Except Throwable ℤ :=
  let size := tjBufSize width height subsamp
  if size = -1 then
    .error (.illegalArgument (some "tjBufSize(): Invalid argument"))
  else .ok size

/-- The size that the native side of `transform` demands of a destination buffer.  It
is computed from the bounds as if the operation did not exchange the axes. -/
def demandedSize (source : Header) (t : TJTransform) : ℤ :=
  unsignedLong (tjBufSize (if t.width ≠ 0 then t.width else source.width)
    (if t.height ≠ 0 then t.height else source.height) source.subsamp)

/-- A buffer of the size computed for the source is a Java array that is large
enough for the transform. -/
def destinationFits (source : Header) (t : TJTransform) : Prop :=
  let destinationSize := tjBufSize source.width source.height source.subsamp
  0 ≤ destinationSize ∧ demandedSize source t ≤ destinationSize

instance (source : Header) (t : TJTransform) : Decidable (destinationFits source t) :=
  inferInstanceAs (Decidable (_ ∧ _))

/-- A buffer of the size computed for an image is a Java array that is large enough
for a part of the given dimensions. -/
def cropFits (width height : ℤ) (subsamp : Subsamp) (cropWidth cropHeight : ℤ) : Prop :=
  0 ≤ tjBufSize width height subsamp ∧
    unsignedLong (tjBufSize cropWidth cropHeight subsamp) ≤ tjBufSize width height subsamp

instance (width height : ℤ) (subsamp : Subsamp) (cropWidth cropHeight : ℤ) :
    Decidable (cropFits width height subsamp cropWidth cropHeight) :=
  inferInstanceAs (Decidable (_ ∧ _))

theorem destinationFits_bounded {source : Header} {t : TJTransform}
    (width : t.width ≠ 0) (height : t.height ≠ 0) :
    destinationFits source t ↔
      cropFits source.width source.height source.subsamp t.width t.height := by
  simp only [destinationFits, demandedSize, cropFits, width, height, ne_eq, not_false_eq_true,
    if_true]

/-- Without bounds the demanded size is the size that is allocated, unless that is
negative. -/
theorem destinationFits_unbounded {source : Header} {t : TJTransform}
    (width : t.width = 0) (height : t.height = 0) :
    destinationFits source t ↔
      0 ≤ tjBufSize source.width source.height source.subsamp := by
  rcases tjBufSize_range source.width source.height source.subsamp with ⟨low, high⟩
  simp only [destinationFits, demandedSize, width, height, ne_eq, not_true, if_false,
    unsignedLong_le_self_iff low high, and_self]

/-- The part can be the whole image, unless the size of its buffer is negative. -/
theorem cropFits_whole (width height : ℤ) (subsamp : Subsamp) :
    cropFits width height subsamp width height ↔ 0 ≤ tjBufSize width height subsamp := by
  rcases tjBufSize_range width height subsamp with ⟨low, high⟩
  rw [cropFits, unsignedLong_le_self_iff low high, and_self]

end IiifImage.TurboJpeg
