import IiifImage.TurboJpeg.Transform

/-!
# The native library

The backend reaches JPEG data only through the functions of `Natives`.  Their
reference implementation works on decoded images (`Jpeg`): `tjTransform` follows
`turbojpeg.c` and `transupp.c` with every operation taken as the pixel permutation
it is named after, also at the edges of images whose last MCUs are partial, and
`downScaleJpegImage` follows `epeg_main.c` with the choice of samples left to a
`Scaler`.  What happens to the colour of a pixel in a conversion to grayscale is a
parameter.  In `library` the output of a transform is taken to fit in its buffer; in
`libraryWriting` the lengths of the outputs are another parameter, and one that fills
its buffer is an error.
-/

namespace IiifImage.TurboJpeg

open Java

/-- The functions that the backend calls on a byte array. -/
structure Natives (δ : Type) where
  byteAt : δ → ℕ → Option (BitVec 8)
  decompressHeader : δ → Except Throwable Header
  transform : δ → TJTransform → Except Throwable δ
  downScaleJpegImage : δ → ℤ → ℤ → ℤ → Except Throwable δ

/-! ## Decoded images -/

/-- `J_COLOR_SPACE` of a JPEG file. -/
inductive Colorspace where
  | gray
  | rgb
  | ycbcr
  | cmyk
  | ycck
  deriving DecidableEq, Repr

/-- A JPEG image.  The sampling factors are those of the first component; the others
are sampled once in each MCU. -/
structure Jpeg (α : Type) where
  raster : Raster α
  hSampFactor : ℕ
  vSampFactor : ℕ
  colorspace : Colorspace
  width_pos : 0 < raster.width
  height_pos : 0 < raster.height
  width_le : raster.width ≤ maxDimension
  height_le : raster.height ≤ maxDimension

namespace Jpeg

variable {α : Type}

theorem width_le_maxInt (jpeg : Jpeg α) : (jpeg.raster.width : ℤ) ≤ maxInt :=
  le_maxInt_of_le_maxDimension (by exact_mod_cast jpeg.width_le)

theorem height_le_maxInt (jpeg : Jpeg α) : (jpeg.raster.height : ℤ) ≤ maxInt :=
  le_maxInt_of_le_maxDimension (by exact_mod_cast jpeg.height_le)

def getSubsamp (jpeg : Jpeg α) : Option Subsamp :=
  if jpeg.colorspace = .gray then some .gray
  else [Subsamp.samp444, .samp422, .samp420, .samp440, .samp411].find? fun subsamp =>
    jpeg.hSampFactor = subsamp.mcuWidth / 8 ∧ jpeg.vSampFactor = subsamp.mcuHeight / 8

/-- The header of an image whose subsampling has been determined. -/
def header (jpeg : Jpeg α) (subsamp : Subsamp) : Header where
  width := jpeg.raster.width
  height := jpeg.raster.height
  subsamp := subsamp
  width_pos := by exact_mod_cast jpeg.width_pos
  height_pos := by exact_mod_cast jpeg.height_pos
  width_le := by exact_mod_cast jpeg.width_le
  height_le := by exact_mod_cast jpeg.height_le

@[simp] theorem width_header (jpeg : Jpeg α) (subsamp : Subsamp) :
    (jpeg.header subsamp).width = jpeg.raster.width := rfl

@[simp] theorem height_header (jpeg : Jpeg α) (subsamp : Subsamp) :
    (jpeg.header subsamp).height = jpeg.raster.height := rfl

@[simp] theorem subsamp_header (jpeg : Jpeg α) (subsamp : Subsamp) :
    (jpeg.header subsamp).subsamp = subsamp := rfl

/-- `tjDecompressHeader3`. -/
def decompressHeader (jpeg : Jpeg α) : Except Throwable Header :=
  match jpeg.getSubsamp with
  | some subsamp => .ok (jpeg.header subsamp)
  | none => .error (.tj (some ("tjDecompressHeader3(): Could not determine subsampling " ++
      "type for JPEG image")))

/-! ## Transforming -/

/-- The conversion of an `int` to `JDIMENSION`. -/
def jdimension (n : ℤ) : ℕ := (n % 4294967296).toNat

@[simp] theorem jdimension_natCast {n : ℕ} (small : n ≤ maxDimension) :
    jdimension n = n := by
  rw [maxDimension] at small
  rw [jdimension]
  omega

/-- A crop request that is valid for an image of the given dimensions. -/
structure CropArea (width height : ℕ) where
  rect : Rect
  inside : rect.Inside width height
  wide : 0 < rect.width
  tall : 0 < rect.height

/-- The crop parameters of `jtransform_request_workspace`, with `none` for
`JERR_BAD_CROP_SPEC`. -/
def cropArea (t : TJTransform) (outputWidth outputHeight : ℕ) :
    Option (CropArea outputWidth outputHeight) :=
  let x := jdimension t.x
  let y := jdimension t.y
  let width := if t.width ≠ 0 then jdimension t.width else outputWidth - x
  let height := if t.height ≠ 0 then jdimension t.height else outputHeight - y
  if valid : (x < outputWidth ∧ y < outputHeight) ∧
      (0 < width ∧ width ≤ outputWidth) ∧ (0 < height ∧ height ≤ outputHeight) ∧
      x ≤ outputWidth - width ∧ y ≤ outputHeight - height then
    some {
      rect := ⟨x, y, width, height⟩
      inside := by constructor <;> dsimp only <;> omega
      wide := valid.2.1.1
      tall := valid.2.2.1.1 }
  else none

/-- The image after an operation, with the sampling factors of every component
exchanged if the axes are. -/
def turned (jpeg : Jpeg α) (orientation : Orientation) : Jpeg α where
  raster := orientation • jpeg.raster
  hSampFactor := if orientation.transpose then jpeg.vSampFactor else jpeg.hSampFactor
  vSampFactor := if orientation.transpose then jpeg.hSampFactor else jpeg.vSampFactor
  colorspace := jpeg.colorspace
  width_pos := by
    rw [Raster.width_smul]
    split_ifs
    exacts [jpeg.height_pos, jpeg.width_pos]
  height_pos := by
    rw [Raster.height_smul]
    split_ifs
    exacts [jpeg.width_pos, jpeg.height_pos]
  width_le := by
    rw [Raster.width_smul]
    split_ifs
    exacts [jpeg.height_le, jpeg.width_le]
  height_le := by
    rw [Raster.height_smul]
    split_ifs
    exacts [jpeg.width_le, jpeg.height_le]

/-- The part of an image that a valid crop request selects. -/
def cropTo (jpeg : Jpeg α) (area : CropArea jpeg.raster.width jpeg.raster.height) :
    Jpeg α :=
  { jpeg with
    raster := jpeg.raster.crop area.rect
    width_pos := by
      rw [Raster.width_crop_of_inside area.inside]
      exact area.wide
    height_pos := by
      rw [Raster.height_crop_of_inside area.inside]
      exact area.tall
    width_le := by
      rw [Raster.width_crop_of_inside area.inside]
      exact (le_trans (Nat.le_add_left _ _) area.inside.1).trans jpeg.width_le
    height_le := by
      rw [Raster.height_crop_of_inside area.inside]
      exact (le_trans (Nat.le_add_left _ _) area.inside.2).trans jpeg.height_le }

/-- The output of a transform of the image has one component. -/
def singleComponent (jpeg : Jpeg α) (t : TJTransform) : Bool :=
  jpeg.colorspace = .gray ∨ (t.hasGray ∧ jpeg.colorspace = .ycbcr)

/-- `iMCU_sample_width`, for an image that has been turned already. -/
def iMCUSampleWidth (jpeg : Jpeg α) (t : TJTransform) : ℕ :=
  if jpeg.singleComponent t then 8 else jpeg.hSampFactor * 8

/-- `iMCU_sample_height`, for an image that has been turned already. -/
def iMCUSampleHeight (jpeg : Jpeg α) (t : TJTransform) : ℕ :=
  if jpeg.singleComponent t then 8 else jpeg.vSampFactor * 8

/-- Select the crop area, if there is one, in the image that has been turned
already. -/
def selectArea (jpeg : Jpeg α) (t : TJTransform) : Except Throwable (Jpeg α) :=
  if t.hasCrop then
    match cropArea t jpeg.raster.width jpeg.raster.height with
    | none => .error (.tj (some "Invalid crop request"))
    | some area =>
        if area.rect.x % jpeg.iMCUSampleWidth t = 0
            ∧ area.rect.y % jpeg.iMCUSampleHeight t = 0 then
          .ok (jpeg.cropTo area)
        else
          .error (.tj (some ("To crop this JPEG image, x must be a multiple of " ++
            toString (jpeg.iMCUSampleWidth t) ++ "\nand y must be a multiple of " ++
            toString (jpeg.iMCUSampleHeight t) ++ ".\n")))
  else .ok jpeg

/-- `jtransform_adjust_parameters`. -/
def adjustParameters (luma : α → α) (jpeg : Jpeg α) (t : TJTransform) :
    Except Throwable (Jpeg α) :=
  if t.hasGray then
    if jpeg.colorspace = .ycbcr ∨ jpeg.colorspace = .gray then
      .ok { jpeg with
        raster := jpeg.raster.map luma
        hSampFactor := 1
        vSampFactor := 1
        colorspace := .gray }
    else .error (.tj (some "Unsupported color conversion request"))
  else if jpeg.colorspace = .gray then
    .ok { jpeg with hSampFactor := 1, vSampFactor := 1 }
  else .ok jpeg

/-- `tjTransform` with one transform. -/
def tjTransform (luma : α → α) (jpeg : Jpeg α) (t : TJTransform) :
    Except Throwable (Jpeg α) :=
  match jpeg.getSubsamp with
  | none => .error (.tj (some ("tjTransform(): Could not determine subsampling type " ++
      "for JPEG image")))
  | some _ => do
      let selected ← (jpeg.turned t.op.orientation).selectArea t
      adjustParameters luma selected t

/-- `dstSizes[0]` in `tjTransform`, for an output of given dimensions.  The axes are not
exchanged with the operation, and the markers of the source are not counted. -/
def dstSize (jpeg : Jpeg α) (t : TJTransform) (outputWidth outputHeight : ℕ) : ℤ :=
  match jpeg.getSubsamp with
  | none => 0
  | some subsamp =>
      unsignedLong (if t.hasCrop then tjBufSize outputWidth outputHeight subsamp
        else tjBufSize jpeg.raster.width jpeg.raster.height subsamp)

/-- `tjTransform` with the flag `TJFLAG_NOREALLOC`, when the output and the markers that
are copied have a given length together. -/
def tjTransformWriting (luma : α → α) (written : ℕ) (jpeg : Jpeg α) (t : TJTransform) :
    Except Throwable (Jpeg α) := do
  let output ← jpeg.tjTransform luma t
  -- the last byte that fits is followed by a call of `empty_mem_output_buffer`
  if (written : ℤ) < jpeg.dstSize t output.raster.width output.raster.height then
    return output
  else throw (.tj (some "Buffer passed to JPEG library is too small"))

end Jpeg

/-! ## Downscaling -/

namespace Jpeg

variable {α : Type}

/-- The colour space that Epeg decodes to and encodes from, as it is written. -/
def epegColorspace : Colorspace → Colorspace
  | .gray => .gray
  | .rgb => .ycbcr
  | .ycbcr => .ycbcr
  | .cmyk => .cmyk
  | .ycck => .cmyk

/-- The limits of `epeg_decode_size_set`. -/
def epegSize (requested : ℤ) (size : ℕ) : ℕ :=
  if requested < 1 then 1
  else if requested > size then size
  else requested.toNat

theorem epegSize_bounds (requested : ℤ) {size : ℕ} (positive : 0 < size) :
    0 < epegSize requested size ∧ epegSize requested size ≤ size := by
  rw [epegSize]
  split_ifs <;> omega

def downScaleJpegImage (scaler : Scaler α) (jpeg : Jpeg α) (width height quality : ℤ) :
    Jpeg α :=
  let outWidth := epegSize width jpeg.raster.width
  let outHeight := epegSize height jpeg.raster.height
  let colorspace := epegColorspace jpeg.colorspace
  let factor := if colorspace = .ycbcr ∧ quality < 90 then 2 else 1
  { raster := scaler.downScale jpeg.raster jpeg.width_pos jpeg.height_pos outWidth outHeight
    hSampFactor := factor
    vSampFactor := factor
    colorspace := colorspace
    width_pos := by
      rw [scaler.width_downScale]
      exact (epegSize_bounds width jpeg.width_pos).1
    height_pos := by
      rw [scaler.height_downScale]
      exact (epegSize_bounds height jpeg.height_pos).1
    width_le := by
      rw [scaler.width_downScale]
      exact (epegSize_bounds width jpeg.width_pos).2.trans jpeg.width_le
    height_le := by
      rw [scaler.height_downScale]
      exact (epegSize_bounds height jpeg.height_pos).2.trans jpeg.height_le }

end Jpeg

/-- The native functions on decoded images.  The first two bytes of a JPEG file are
its start marker. -/
def library {α : Type} (luma : α → α) (scaler : Scaler α) : Natives (Jpeg α) where
  byteAt _ index := if index = 0 then some 0xFF else if index = 1 then some 0xD8 else none
  decompressHeader := Jpeg.decompressHeader
  transform := Jpeg.tjTransform luma
  downScaleJpegImage jpeg width height quality :=
    .ok (jpeg.downScaleJpegImage scaler width height quality)

/-- The native functions on files whose transforms have outputs of the given lengths. -/
def libraryWriting {α : Type} (luma : α → α) (scaler : Scaler α)
    (written : Jpeg α → TJTransform → ℕ) : Natives (Jpeg α) :=
  { library luma scaler with
    transform := fun jpeg t => jpeg.tjTransformWriting luma (written jpeg t) t }

end IiifImage.TurboJpeg
