import IiifImage.Epeg.Destination
import IiifImage.Epeg.Pixels
import IiifImage.TurboJpeg.Epeg

/-!
# Downscaling from file to file

The stages of Epeg put together: libjpeg decodes to the reduced size that Epeg chooses,
Epeg takes the nearest samples in place, and libjpeg compresses the rows to the
destination in memory.  What libjpeg makes of a file and of rows of samples is a
parameter.
-/

namespace IiifImage

/-- The bytes of every row. -/
def Raster.scanlines {β : Type} (image : Raster (List β)) : List (List β) :=
  (List.range image.height).map fun y =>
    (List.range image.width).flatMap fun x => (image.pixel x y).getD []

namespace Epeg

open Arrays TurboJpeg

variable {β : Type}

/-! ## What libjpeg does -/

/-- What `jpeg_read_header` finds. -/
structure FileHeader where
  width : ℕ
  height : ℕ
  colorspace : Colorspace
  width_pos : 0 < width
  height_pos : 0 < height
  width_le : width ≤ 65500
  height_le : height ≤ 65500

/-- What `_epeg_encode` sets in `jpeg_compress_struct`, with the rows that it writes. -/
structure Compression (β : Type) where
  imageWidth : ℤ
  imageHeight : ℤ
  inputComponents : ℕ
  quality : ℤ
  fullSampling : Bool
  rows : List (List β)

/-- The functions of libjpeg that Epeg calls.  Decoding depends on the size of a reduced
block and may end in a fatal error, as may compression after some output. -/
structure Libjpeg (β : Type) where
  readHeader : List β → Option FileHeader
  fatal : List β → ℕ → Bool
  rowCtr : List β → (dctSize scanline : ℕ) → ℕ
  samples : List β → (dctSize y k : ℕ) → β
  compress : Compression β → List (Emission β) × Bool
  fresh : ℕ → β
  rowCtr_le : ∀ data header, readHeader data = some header → ∀ dctSize,
    ∀ scanline < outputDimension header.height dctSize,
      scanline + rowCtr data dctSize scanline ≤ outputDimension header.height dctSize

/-! ## The stages -/

/-- `output_components` for the colour space that `_epeg_decode` asks for. -/
def outputComponents : Colorspace → ℕ
  | .gray => 1
  | .rgb => 3
  | .ycbcr => 3
  | .cmyk => 4
  | .ycck => 4

/-- The size of a reduced block when a file is decoded for some size. -/
def blockSize (header : FileHeader) (outWidth outHeight : ℕ) : ℕ :=
  minDCTScaledSize 1 (decodeScale header.width header.height outWidth outHeight)

theorem blockSize_bounds (header : FileHeader) (outWidth outHeight : ℕ) :
    1 ≤ blockSize header outWidth outHeight ∧ blockSize header outWidth outHeight ≤ 8 := by
  rcases decodeScale_bounds header.width header.height outWidth outHeight with ⟨least, most⟩
  exact (minDCTScaledSize_one least most).2

theorem outputDimension_pos {size dctSize : ℕ} (positive : 0 < size) (least : 1 ≤ dctSize) :
    0 < outputDimension size dctSize :=
  jdivRoundUp_pos (by decide) (Nat.mul_pos positive least)

theorem outputDimension_le {size dctSize : ℕ} (most : dctSize ≤ 8) :
    outputDimension size dctSize ≤ size := by
  rw [outputDimension, jdivRoundUp_le_iff (by decide)]
  exact Nat.mul_le_mul_left size most

/-- The dimensions that `jpeg_calc_output_dimensions` computes. -/
def output (header : FileHeader) (outWidth outHeight : ℕ) : Output where
  width := outputDimension header.width (blockSize header outWidth outHeight)
  height := outputDimension header.height (blockSize header outWidth outHeight)
  components := outputComponents header.colorspace
  width_pos := outputDimension_pos header.width_pos (blockSize_bounds _ _ _).1
  height_pos := outputDimension_pos header.height_pos (blockSize_bounds _ _ _).1
  components_pos := by cases header.colorspace <;> decide
  width_le := (outputDimension_le (blockSize_bounds _ _ _).2).trans header.width_le
  height_le := (outputDimension_le (blockSize_bounds _ _ _).2).trans header.height_le
  components_le := by cases header.colorspace <;> decide

/-- `_epeg_scale`. -/
def scale (header : FileHeader) (im : EpegImage β) (cells : ℕ → β) : Option (ℕ → β) :=
  (output header im.outWidth.toNat im.outHeight.toNat).scale header.width header.height
    im.outWidth.toNat im.outHeight.toNat cells

def compression (header : FileHeader) (im : EpegImage β) (rows : List (List β)) :
    Compression β where
  imageWidth := im.outWidth
  imageHeight := im.outHeight
  inputComponents := outputComponents header.colorspace
  quality := im.quality
  fullSampling := im.quality ≥ 90
  rows := rows

/-- Collect in memory what the compressor emits before it finishes or fails. -/
def collect (buf : ℕ → β) (output : List (Emission β) × Bool) : Option (Written β) := do
  let dest ← (Destination.init buf).emitAll output.1
  if output.2 then return .complete (← dest.term)
  else return .failed (some dest.data)

namespace Libjpeg

variable (lib : Libjpeg β) {header : FileHeader}

def decompressor (data : List β) (readable : lib.readHeader data = some header)
    (outWidth outHeight : ℕ) : Decompressor β where
  out := output header outWidth outHeight
  rowCtr := lib.rowCtr data (blockSize header outWidth outHeight)
  samples := lib.samples data (blockSize header outWidth outHeight)
  rowCtr_le := lib.rowCtr_le data header readable _

/-- `_epeg_decode` with the contents of `pixels`. -/
def decode (im : EpegImage β) (readable : lib.readHeader im.data = some header) :
    Option (ℤ × (ℕ → β)) :=
  if im.pixels then some (1, lib.fresh)
  else if im.outWidth < 1 ∨ im.outHeight < 1 then some (1, lib.fresh)
  else if lib.fatal im.data (blockSize header im.outWidth.toNat im.outHeight.toNat) then
    some (2, lib.fresh)
  else (lib.decompressor im.data readable im.outWidth.toNat im.outHeight.toNat).decode lib.fresh

/-- `_epeg_encode`. -/
def encode (header : FileHeader) (im : EpegImage β) (cells : ℕ → β) : Option (Written β) :=
  collect lib.fresh (lib.compress (compression header im
    ((output header im.outWidth.toNat im.outHeight.toNat).rows cells im.outWidth.toNat
      im.outHeight.toNat)))

end Libjpeg

/-- The stages are those of Epeg on top of libjpeg, as far as their behaviour is
defined. -/
structure Realizes (stages : Stages β) (lib : Libjpeg β) : Prop where
  readHeader : ∀ data, stages.readHeader data =
    (lib.readHeader data).map fun header => ((header.width : ℤ), (header.height : ℤ))
  decode : ∀ im header (readable : lib.readHeader im.data = some header) code cells,
    lib.decode im readable = some (code, cells) → stages.decode im = code
  scale : ∀ im header (readable : lib.readHeader im.data = some header) cells scaled,
    lib.decode im readable = some (0, cells) → Epeg.scale header im cells = some scaled →
      stages.scale im = 0
  encode : ∀ im header (readable : lib.readHeader im.data = some header) cells scaled written,
    lib.decode im readable = some (0, cells) → Epeg.scale header im cells = some scaled →
      lib.encode header im scaled = some written → stages.encode im = written

/-- The stages, where undefined behaviour goes on as if nothing had happened. -/
def Libjpeg.stages (lib : Libjpeg β) : Stages β where
  readHeader data :=
    (lib.readHeader data).map fun header => ((header.width : ℤ), (header.height : ℤ))
  decode im :=
    match readable : lib.readHeader im.data with
    | none => 0
    | some _ => ((lib.decode im readable).map Prod.fst).getD 0
  scale _ := 0
  encode im :=
    match readable : lib.readHeader im.data with
    | none => .complete []
    | some header =>
        (do
          let (_, cells) ← lib.decode im readable
          let scaled ← Epeg.scale header im cells
          lib.encode header im scaled).getD (.complete [])

theorem Libjpeg.realizes_stages (lib : Libjpeg β) : Realizes lib.stages lib where
  readHeader _ := rfl
  decode im header readable code cells decoded := by
    dsimp only [stages]
    split
    · rename_i unreadable
      cases readable.symm.trans unreadable
    · rename_i found readable'
      cases readable.symm.trans readable'
      rw [decoded]
      rfl
  scale _ _ _ _ _ _ _ := rfl
  encode im header readable cells scaled written decoded scale encoded := by
    dsimp only [stages]
    split
    · rename_i unreadable
      cases readable.symm.trans unreadable
    · rename_i found readable'
      cases readable.symm.trans readable'
      rw [decoded]
      change ((Epeg.scale header im cells).bind fun scaled => lib.encode header im scaled).getD _ =
        written
      rw [scale, Option.bind_some, encoded]
      rfl

/-! ## The rows that are compressed -/

/-- Groups of equal length in one range. -/
theorem flatMap_groups (count depth : ℕ) (cell : ℕ → β) :
    ((List.range count).flatMap fun x => (List.range depth).map fun i => cell (x * depth + i)) =
      (List.range (count * depth)).map cell := by
  induction count with
  | zero => rw [Nat.zero_mul]; rfl
  | succ count ih =>
      rw [List.range_succ, List.flatMap_append, ih, Nat.succ_mul, List.range_add, List.map_append,
        List.map_map, List.flatMap_cons, List.flatMap_nil, List.append_nil]
      rfl

theorem Output.rows_eq (out : Output) (cells : ℕ → β) (width height : ℕ) :
    out.rows cells width height = (out.raster cells width height).scanlines := by
  apply List.map_congr_left
  intro y row
  rw [← flatMap_groups]
  apply List.flatMap_congr
  intro x column
  have inside : x < width ∧ y < height := ⟨List.mem_range.mp column, List.mem_range.mp row⟩
  change _ = ((out.raster cells width height).pixel x y).getD []
  have shown : (out.raster cells width height).pixel x y = some _ := if_pos inside
  rw [shown, Option.getD_some]
  apply List.map_congr_left
  intro i _
  rw [Nat.add_assoc]

/-! ## The whole run -/

section Run

variable {lib : Libjpeg β} {stages : Stages β} {inData : List β} {header : FileHeader}

/-- The size of the output. -/
def targetWidth (header : FileHeader) (width : ℤ) : ℕ := Jpeg.epegSize width header.width

def targetHeight (header : FileHeader) (height : ℤ) : ℕ := Jpeg.epegSize height header.height

/-- The dimensions that libjpeg decodes to for a request. -/
def decodedOutput (header : FileHeader) (width height : ℤ) : Output :=
  output header (targetWidth header width) (targetHeight header height)

/-- The decoded image is at least as large as the output and at most as large as the
source. -/
theorem output_bounds (header : FileHeader) (width height : ℤ) :
    (targetWidth header width ≤ (decodedOutput header width height).width ∧
      targetHeight header height ≤ (decodedOutput header width height).height) ∧
      (decodedOutput header width height).width ≤ header.width ∧
      (decodedOutput header width height).height ≤ header.height := by
  have wide := (Jpeg.epegSize_bounds width header.width_pos).2
  have tall := (Jpeg.epegSize_bounds height header.height_pos).2
  rcases decodeScale_bounds header.width header.height (targetWidth header width)
    (targetHeight header height) with ⟨least, most⟩
  rcases decodeScale_mul_le wide tall with ⟨columns, rows⟩
  rcases minDCTScaledSize_one least most with ⟨enough, -, atMost⟩
  have inWidth := outputDimension_bounds columns enough atMost
  have inHeight := outputDimension_bounds rows enough atMost
  exact ⟨⟨inWidth.1, inHeight.1⟩, inWidth.2, inHeight.2⟩

/-- Nothing is reduced if the output has the size of the source. -/
theorem output_unscaled (header : FileHeader) :
    (output header header.width header.height).width = header.width ∧
      (output header header.width header.height).height = header.height := by
  have scale : decodeScale header.width header.height header.width header.height = 1 := by
    rw [decodeScale, Nat.div_self header.width_pos, Nat.div_self header.height_pos]
    rfl
  have block : blockSize header header.width header.height = 8 := by
    rw [blockSize, scale]
    exact minDCTScaledSize_unscaled
  constructor
  · exact (congrArg _ block).trans (outputDimension_unscaled _)
  · exact (congrArg _ block).trans (outputDimension_unscaled _)

/-- For every request Epeg stays in the buffer when it scales, and takes the nearest
samples of the decoded image. -/
theorem scale_request (header : FileHeader) (width height : ℤ)
    (fits : (decodedOutput header width height).bytes < 4294967296) (cells : ℕ → β) :
    ∃ scaled, (decodedOutput header width height).scale header.width header.height
        (targetWidth header width) (targetHeight header height) cells = some scaled ∧
      (decodedOutput header width height).raster scaled (targetWidth header width)
          (targetHeight header height) =
        ((decodedOutput header width height).raster cells (decodedOutput header width height).width
          (decodedOutput header width height).height).resample (targetWidth header width)
            (targetHeight header height) (decodedOutput header width height).width_pos
            (decodedOutput header width height).height_pos := by
  rcases output_bounds header width height with ⟨⟨narrow, low⟩, -⟩
  apply Output.scale_resamples fits narrow low
  intro sameWidth sameHeight
  rw [decodedOutput, ← sameWidth, ← sameHeight]
  exact output_unscaled header

/-- The header of a grayscale file of 16 by 16 pixels. -/
def squareHeader : FileHeader where
  width := 16
  height := 16
  colorspace := .gray
  width_pos := by decide
  height_pos := by decide
  width_le := by decide
  height_le := by decide

theorem scale_request_square :
    ∃ scaled, (decodedOutput squareHeader 3 3).scale 16 16 3 3 (fun k => k) = some scaled ∧
      (decodedOutput squareHeader 3 3).raster scaled 3 3 =
        ((decodedOutput squareHeader 3 3).raster (fun k => k) 4 4).resample 3 3
          (decodedOutput squareHeader 3 3).width_pos (decodedOutput squareHeader 3 3).height_pos :=
  scale_request squareHeader 3 3 (by decide) fun k => k

/-- The image that libjpeg decodes for a request. -/
def decoded (lib : Libjpeg β) (readable : lib.readHeader inData = some header)
    (width height : ℤ) : Decompressor β :=
  lib.decompressor inData readable (targetWidth header width) (targetHeight header height)

def downScaled (lib : Libjpeg β) (readable : lib.readHeader inData = some header)
    (width height : ℤ) : Raster (List β) :=
  (decoded lib readable width height).picture.resample (targetWidth header width)
    (targetHeight header height) (decoded lib readable width height).out.width_pos
    (decoded lib readable width height).out.height_pos

/-- The output of the compressor, of which an error leaves whole buffers. -/
def delivered (emissions : List (Emission β)) (finished : Bool) : List β :=
  if finished then emissions.flatMap Emission.bytes
  else (emissions.flatMap Emission.bytes).take
    ((emissions.flatMap Emission.bytes).length / 65536 * 65536)

/-- What is compressed for a request. -/
def requested (header : FileHeader) (width height quality : ℤ) (rows : List (List β)) :
    Compression β where
  imageWidth := targetWidth header width
  imageHeight := targetHeight header height
  inputComponents := outputComponents header.colorspace
  quality := if quality < 0 then 0 else if quality > 100 then 100 else quality
  fullSampling := quality ≥ 90
  rows := rows

/-- The handle for a readable file. -/
def opened (inData : List β) (header : FileHeader) : EpegImage β where
  data := inData
  inWidth := header.width
  inHeight := header.height
  outWidth := header.width
  outHeight := header.height
  quality := 75
  pixels := false

theorem memoryOpen_of_readable (realizes : Realizes stages lib)
    (readable : lib.readHeader inData = some header) :
    memoryOpen stages inData = some (opened inData header) := by
  have wide := header.width_pos
  have tall := header.height_pos
  rw [memoryOpen, realizes.readHeader, readable]
  change (if (header.width : ℤ) < 1 then none
    else if (header.height : ℤ) < 1 then none else some (opened inData header)) = _
  rw [if_neg (by omega), if_neg (by omega)]

def target (inData : List β) (header : FileHeader) (width height quality : ℤ) : EpegImage β :=
  { opened inData header with
    outWidth := targetWidth header width
    outHeight := targetHeight header height
    quality := if quality < 0 then 0 else if quality > 100 then 100 else quality }

theorem configured_opened (inData : List β) (header : FileHeader) (width height quality : ℤ) :
    configured width height quality (opened inData header) =
      target inData header width height quality := by
  have limited : ∀ (requested : ℤ) (size : ℕ),
      limitSize requested size = Jpeg.epegSize requested size := by
    intro requested size
    rw [limitSize, Jpeg.epegSize]
    split_ifs <;> omega
  change { opened inData header with
      outWidth := limitSize width header.width
      outHeight := limitSize height header.height
      quality := if quality < 0 then 0 else if quality > 100 then 100 else quality } = _
  rw [limited, limited]
  rfl

variable {width height : ℤ} {cells : ℕ → β}

/-- Decoding fills the buffer with the picture. -/
theorem decode_target (quality : ℤ) (readable : lib.readHeader inData = some header)
    (fits : (decoded lib readable width height).out.bytes < 4294967296)
    (decodable : lib.fatal inData (blockSize header (targetWidth header width)
      (targetHeight header height)) = false)
    (delivers : (decoded lib readable width height).Delivers) :
    ∃ cells, Libjpeg.decode lib (target inData header width height quality) readable =
        some (0, cells) ∧
      (decoded lib readable width height).Filled (decoded lib readable width height).out.height
        cells := by
  have wide := (Jpeg.epegSize_bounds width header.width_pos).1
  have tall := (Jpeg.epegSize_bounds height header.height_pos).1
  have sized : ¬((targetWidth header width : ℤ) < 1 ∨ (targetHeight header height : ℤ) < 1) := by
    rw [targetWidth, targetHeight]
    omega
  rcases Decompressor.decode_filled fits lib.fresh with
    ⟨code, final, run, ⟨rfl, filled⟩ | ⟨-, stalled⟩⟩
  · refine ⟨final, ?_, filled⟩
    refine (if_neg Bool.false_ne_true).trans ((if_neg sized).trans ?_)
    refine (if_neg ?_).trans run
    exact Bool.eq_false_iff.mp decodable
  · exact absurd delivers stalled

/-- Scaling leaves the pixels of the output. -/
theorem scale_target (quality : ℤ) (readable : lib.readHeader inData = some header)
    (fits : (decoded lib readable width height).out.bytes < 4294967296)
    (filled : (decoded lib readable width height).Filled
      (decoded lib readable width height).out.height cells) :
    ∃ scaled, scale header (target inData header width height quality) cells = some scaled ∧
      (decoded lib readable width height).out.raster scaled (targetWidth header width)
        (targetHeight header height) = downScaled lib readable width height := by
  rcases scale_request header width height fits cells with ⟨scaled, run, shows⟩
  refine ⟨scaled, run, shows.trans ?_⟩
  rw [downScaled]
  congr 1
  exact Decompressor.raster_filled filled

/-- Encoding writes the output. -/
theorem encode_target (inData : List β) {quality : ℤ} {emissions : List (Emission β)}
    {finished : Bool} {rows : List (List β)}
    (isRows : (decodedOutput header width height).rows cells
      (targetWidth header width) (targetHeight header height) = rows)
    (compressed : lib.compress (requested header width height quality rows) =
      (emissions, finished))
    (short : ∀ emission ∈ emissions, emission.Short)
    (small : (emissions.flatMap Emission.bytes).length ≤ 2147483647) :
    lib.encode header (target inData header width height quality) cells =
      some (if finished then .complete (delivered emissions finished)
        else .failed (some (delivered emissions finished))) := by
  have quality_ge : (if quality < 0 then 0 else if quality > 100 then 100 else quality) ≥ 90 ↔
      quality ≥ 90 := by
    split_ifs <;> omega
  have asked : compression header (target inData header width height quality) rows =
      requested header width height quality rows := by
    rw [compression, requested]
    congr 1
    exact decide_eq_decide.mpr quality_ge
  have output : lib.encode header (target inData header width height quality) cells =
      collect lib.fresh (emissions, finished) := by
    rw [← compressed, ← asked, ← isRows]
    rfl
  rcases Destination.emitAll_collects lib.fresh short small with ⟨final, run, ends, data⟩
  rw [output, collect]
  dsimp only
  rw [run]
  cases finished with
  | true =>
      change (final.term.bind fun output => some (Written.complete output)) = _
      rw [ends]
      rfl
  | false =>
      change some (Written.failed (some final.data)) = _
      rw [data]
      rfl

/-- What `downScaleJpegImage` returns for a readable file. -/
theorem downScaleJpegImage_delivers {quality : ℤ} (realizes : Realizes stages lib)
    (readable : lib.readHeader inData = some header)
    (fits : (decoded lib readable width height).out.bytes < 4294967296)
    (decodable : lib.fatal inData (blockSize header (targetWidth header width)
      (targetHeight header height)) = false)
    (delivers : (decoded lib readable width height).Delivers)
    {emissions : List (Emission β)} {finished : Bool}
    (compressed : lib.compress (requested header width height quality
      (downScaled lib readable width height).scanlines) = (emissions, finished))
    (short : ∀ emission ∈ emissions, emission.Short)
    (small : (emissions.flatMap Emission.bytes).length ≤ 2147483647) :
    ∃ frame, EStateM.run (downScaleJpegImage stages inData width height quality) {} =
      .ok (delivered emissions finished) frame := by
  rcases decode_target quality readable fits decodable delivers with
    ⟨cells, decode, filled⟩
  rcases scale_target quality readable fits filled with ⟨scaled, scale, shows⟩
  have isRows : (decodedOutput header width height).rows
      scaled (targetWidth header width) (targetHeight header height) =
        (downScaled lib readable width height).scanlines := by
    rw [← shows]
    exact Output.rows_eq _ _ _ _
  have written := encode_target inData isRows compressed short small
  have bytes : stored stages (configured width height quality (opened inData header)) =
      some (delivered emissions finished) := by
    rw [configured_opened, stored, if_neg (not_not_intro (realizes.decode _ _ readable _ _ decode)),
      if_neg (not_not_intro (realizes.scale _ _ readable _ _ decode scale)),
      realizes.encode _ _ readable _ _ _ decode scale written]
    cases finished <;> rfl
  rw [run_of_opened (memoryOpen_of_readable realizes readable), bytes]
  exact ⟨_, rfl⟩

/-- What decoding to reduced blocks shows of an image. -/
structure Reduction (α : Type) where
  reduce : Raster α → ℕ → Raster α
  width_reduce : ∀ image dctSize,
    (reduce image dctSize).width = outputDimension image.width dctSize
  height_reduce : ∀ image dctSize,
    (reduce image dctSize).height = outputDimension image.height dctSize

/-- The choice of samples that Epeg makes. -/
def Reduction.scaler {α : Type} (reduction : Reduction α) : Scaler α where
  downScale image wide tall width height :=
    let dctSize := minDCTScaledSize 1 (decodeScale image.width image.height width height)
    have positive : 1 ≤ dctSize :=
      (minDCTScaledSize_one (decodeScale_bounds _ _ _ _).1 (decodeScale_bounds _ _ _ _).2).2.1
    (reduction.reduce image dctSize).resample width height
      (by rw [reduction.width_reduce]; exact outputDimension_pos wide positive)
      (by rw [reduction.height_reduce]; exact outputDimension_pos tall positive)
  width_downScale _ _ _ _ _ := rfl
  height_downScale _ _ _ _ _ := rfl

/-- The library on decoded images scales to the pixels of the output. -/
theorem downScaleJpegImage_library {reduction : Reduction (List β)} {jpeg : Jpeg (List β)}
    (luma : List β → List β) (quality : ℤ) (readable : lib.readHeader inData = some header)
    (wide : jpeg.raster.width = header.width) (tall : jpeg.raster.height = header.height)
    (shows : (decoded lib readable width height).picture =
      reduction.reduce jpeg.raster
        (blockSize header (targetWidth header width) (targetHeight header height))) :
    ∃ result, (library luma reduction.scaler).downScaleJpegImage jpeg width height quality =
        .ok result ∧ result.raster = downScaled lib readable width height := by
  refine ⟨_, rfl, ?_⟩
  change reduction.scaler.downScale jpeg.raster jpeg.width_pos jpeg.height_pos
    (Jpeg.epegSize width jpeg.raster.width) (Jpeg.epegSize height jpeg.raster.height) = _
  simp only [Reduction.scaler, downScaled, shows, wide, tall]
  rfl

/-- What libjpeg would be if it decoded every file to a diagonal and did not compress. -/
def diagonal : Libjpeg (BitVec 8) where
  readHeader _ := some squareHeader
  fatal _ _ := false
  rowCtr _ dctSize scanline := outputDimension 16 dctSize - scanline
  samples _ _ y k := BitVec.ofNat 8 (y + k)
  compress compression := (compression.rows.flatten.map .byte, true)
  fresh _ := 0
  rowCtr_le data header readable dctSize scanline row := by
    cases readable
    exact (Nat.add_sub_cancel' row.le).le

theorem readHeader_diagonal : diagonal.readHeader [0xFF, 0xD8] = some squareHeader := rfl

theorem downScaleJpegImage_delivers_diagonal :
    ∃ frame, EStateM.run (downScaleJpegImage diagonal.stages [0xFF, 0xD8] 3 3 75) {} =
      .ok [0, 1, 2, 1, 2, 3, 2, 3, 4] frame := by
  have delivers : (decoded diagonal readHeader_diagonal 3 3).Delivers :=
    fun scanline row => Nat.sub_pos_of_lt row
  have samples : (downScaled diagonal readHeader_diagonal 3 3).scanlines.flatten =
      [0, 1, 2, 1, 2, 3, 2, 3, 4] := by decide
  have compressed : diagonal.compress (requested squareHeader 3 3 75
      (downScaled diagonal readHeader_diagonal 3 3).scanlines) =
        ([0, 1, 2, 1, 2, 3, 2, 3, 4].map .byte, true) :=
    congrArg (fun bytes => (bytes.map Emission.byte, true)) samples
  exact downScaleJpegImage_delivers diagonal.realizes_stages readHeader_diagonal (by decide) rfl
    delivers compressed (by simp [Emission.Short]) (by decide)

end Run

end Epeg

end IiifImage
