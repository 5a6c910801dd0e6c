import IiifImage.Lazy.Invariant

/-!
# Buffers of the pending transform

`transform` allocates a buffer for the whole image, and the native side demands one for the
part that is to be kept.  Both sizes are padded products that are computed in `int`, and the
comparison of the parts with the whole holds only as long as nothing overflows.
-/

namespace IiifImage

open Java TurboJpeg

/-! ## Sizes without overflow -/

namespace TurboJpeg

variable {width height cropWidth cropHeight : ℤ} {subsamp : Subsamp}

/-- The size that `tjBufSize` reduces to 32 bits. -/
def paddedSize (width height : ℤ) (subsamp : Subsamp) : ℤ :=
  pad width subsamp.mcuWidth * pad height subsamp.mcuHeight * (2 + chromasf subsamp) + 2048

theorem tjBufSize_of_pos (wide : 1 ≤ width) (tall : 1 ≤ height) :
    tjBufSize width height subsamp = wrap (paddedSize width height subsamp) :=
  if_neg (by omega)

theorem pad_mono {v w p : ℤ} (positive : 0 < p) (le : v ≤ w) : pad v p ≤ pad w p := by
  have quotients : (v + (p - 1)) / p ≤ (w + (p - 1)) / p :=
    Int.ediv_le_ediv positive (by omega)
  exact mul_le_mul_of_nonneg_right quotients positive.le

theorem pad_nonneg {v p : ℤ} (positive : 0 < p) (nonneg : 0 ≤ v) : 0 ≤ pad v p :=
  mul_nonneg (Int.ediv_nonneg (by omega) positive.le) positive.le

/-- One more row needs at most one more row of MCUs. -/
theorem pad_succ_le {v p : ℤ} (positive : 0 < p) : pad (v + 1) p ≤ pad v p + p := by
  have shifted : (v + p + (p - 1)) / p = (v + (p - 1)) / p + 1 := by
    rw [add_right_comm, ← Int.add_mul_ediv_right _ 1 positive.ne', one_mul]
  calc pad (v + 1) p ≤ pad (v + p) p := pad_mono positive (by omega)
    _ = pad v p + p := by rw [pad, shifted, add_mul, one_mul, ← pad]

theorem mcuWidth_pos (subsamp : Subsamp) : 0 < (subsamp.mcuWidth : ℤ) := by
  cases subsamp <;> decide

theorem mcuHeight_pos (subsamp : Subsamp) : 0 < (subsamp.mcuHeight : ℤ) := by
  cases subsamp <;> decide

theorem chromasf_nonneg (subsamp : Subsamp) : 0 ≤ chromasf subsamp := by
  cases subsamp <;> decide

/-- A part of the image is not larger than the image. -/
theorem paddedSize_mono (wide : 0 ≤ cropWidth) (tall : 0 ≤ cropHeight)
    (columns : cropWidth ≤ width) (rows : cropHeight ≤ height) :
    paddedSize cropWidth cropHeight subsamp ≤ paddedSize width height subsamp := by
  have across := pad_mono (mcuWidth_pos subsamp) columns
  have down := pad_mono (mcuHeight_pos subsamp) rows
  have product := mul_le_mul across down (pad_nonneg (mcuHeight_pos subsamp) tall)
    (pad_nonneg (mcuWidth_pos subsamp) (wide.trans columns))
  have factor : 0 ≤ 2 + chromasf subsamp := by
    have := chromasf_nonneg subsamp
    omega
  have scaled := mul_le_mul_of_nonneg_right product factor
  rw [paddedSize, paddedSize]
  omega

/-- The size of a buffer grows by less than `2 ^ 31` from one row to the next. -/
theorem paddedSize_succ_le (wide : 1 ≤ width) (narrow : width ≤ maxDimension) (height : ℤ)
    (subsamp : Subsamp) :
    paddedSize width (height + 1) subsamp ≤ paddedSize width height subsamp + maxInt := by
  have across : pad width subsamp.mcuWidth ≤ 65536 := by
    refine (pad_mono (mcuWidth_pos subsamp) narrow).trans ?_
    cases subsamp <;> decide
  have nonneg := pad_nonneg (mcuWidth_pos subsamp) (by omega : 0 ≤ width)
  have down := pad_succ_le (v := height) (mcuHeight_pos subsamp)
  have factor : 0 ≤ 2 + chromasf subsamp := by
    have := chromasf_nonneg subsamp
    omega
  have row : 65536 * ((subsamp.mcuHeight : ℤ) * (2 + chromasf subsamp)) ≤ maxInt := by
    cases subsamp <;> decide
  have grown := mul_le_mul_of_nonneg_right (mul_le_mul_of_nonneg_left down nonneg) factor
  have step := mul_le_mul_of_nonneg_right across
    (mul_nonneg (mcuHeight_pos subsamp).le factor)
  rw [paddedSize, paddedSize]
  linarith

/-- The reduced sizes fit exactly if the remainder of the whole is a valid `int`, and that of
the part is not larger. -/
theorem cropFits_iff (wide : 1 ≤ width) (tall : 1 ≤ height) (cropWide : 1 ≤ cropWidth)
    (cropTall : 1 ≤ cropHeight) :
    cropFits width height subsamp cropWidth cropHeight ↔
      paddedSize width height subsamp % 4294967296 ≤ maxInt ∧
        paddedSize cropWidth cropHeight subsamp % 4294967296 ≤
          paddedSize width height subsamp % 4294967296 := by
  rw [cropFits, tjBufSize_of_pos wide tall, tjBufSize_of_pos cropWide cropTall]
  unfold wrap unsignedLong maxInt
  omega

/-- The size is a valid length. -/
theorem tjBufSize_nonneg_iff (wide : 1 ≤ width) (tall : 1 ≤ height) :
    0 ≤ tjBufSize width height subsamp ↔
      paddedSize width height subsamp % 4294967296 ≤ maxInt := by
  rw [← cropFits_whole, cropFits_iff wide tall wide tall, and_iff_left le_rfl]

/-- Without overflow every part fits. -/
theorem cropFits_of_small (cropWide : 1 ≤ cropWidth) (cropTall : 1 ≤ cropHeight)
    (columns : cropWidth ≤ width) (rows : cropHeight ≤ height)
    (small : paddedSize width height subsamp ≤ maxInt) :
    cropFits width height subsamp cropWidth cropHeight := by
  have le : paddedSize cropWidth cropHeight subsamp ≤ paddedSize width height subsamp :=
    paddedSize_mono (by omega) (by omega) columns rows
  have nonneg : paddedSize 0 0 subsamp ≤ paddedSize cropWidth cropHeight subsamp :=
    paddedSize_mono le_rfl le_rfl (by omega) (by omega)
  have zero : paddedSize 0 0 subsamp = 2048 := by
    cases subsamp <;> decide
  rw [cropFits_iff (by omega) (by omega) cropWide cropTall]
  unfold maxInt at small ⊢
  omega

/-- If the size of the whole overflows, then some rows at its top do not fit. -/
theorem exists_not_cropFits (wide : 1 ≤ width) (narrow : width ≤ maxDimension)
    (tall : 1 ≤ height) (large : maxInt < paddedSize width height subsamp) :
    ∃ rows : ℤ, 1 ≤ rows ∧ rows ≤ height ∧ ¬cropFits width height subsamp width rows := by
  rcases Int.eq_ofNat_of_zero_le (by omega : 0 ≤ height) with ⟨limit, rfl⟩
  have overflows : ∃ n : ℕ, maxInt < paddedSize width n subsamp := ⟨limit, large⟩
  have found := Nat.find_spec overflows
  have positive : Nat.find overflows ≠ 0 := by
    intro none
    rw [none, Nat.cast_zero] at found
    have below : paddedSize width 0 subsamp ≤ paddedSize maxDimension 0 subsamp :=
      paddedSize_mono (by omega) le_rfl narrow le_rfl
    have small : paddedSize maxDimension 0 subsamp ≤ maxInt := by
      cases subsamp <;> decide
    omega
  rcases Nat.exists_eq_succ_of_ne_zero positive with ⟨rows, same⟩
  have before : paddedSize width rows subsamp ≤ maxInt :=
    not_lt.mp (Nat.find_min overflows (by omega))
  have step := paddedSize_succ_le wide narrow rows subsamp
  have least : Nat.find overflows ≤ limit := Nat.find_min' overflows large
  rw [same] at found least
  push_cast at found
  refine ⟨rows + 1, by omega, by omega, ?_⟩
  rw [cropFits_iff wide tall wide (by omega)]
  -- the size of these rows is negative as an `int`
  unfold maxInt at *
  omega

/-- The width of the part that a buffer is demanded for. -/
def demandedWidth (source : Header) (t : TJTransform) : ℤ :=
  if t.width ≠ 0 then t.width else source.width

/-- The height of the part that a buffer is demanded for. -/
def demandedHeight (source : Header) (t : TJTransform) : ℤ :=
  if t.height ≠ 0 then t.height else source.height

end TurboJpeg

/-! ## States that lazy calls reach -/

namespace JpegImage

variable {δ : Type} {natives : Natives δ} {source : Header} {image : JpegImage δ}

/-- The call only writes to the pending transform. -/
def Call.isLazy : Call → Bool
  | downScale .. => false
  | transform => false
  | _ => true

/-- The calls that only write to the pending transform. -/
abbrev LazyCall := {call : Call // call.isLazy = true}

/-- The state after such calls. -/
def reached (natives : Natives δ) (calls : List LazyCall) (image : JpegImage δ) : JpegImage δ :=
  Method.afterAll (fun call => call.1.method natives) calls image

/-- The source is still the data, and the pending bounds are unset or inside of it. -/
structure Bounded (natives : Natives δ) (source : Header) (image : JpegImage δ) : Prop where
  decomp : image.decomp = source
  describes : natives.decompressHeader image.imgData = .ok source
  bounds : (image.transformOptions.width = 0 ∧ image.transformOptions.height = 0) ∨
    (1 ≤ image.transformOptions.width ∧ image.transformOptions.width ≤ source.width) ∧
      1 ≤ image.transformOptions.height ∧ image.transformOptions.height ≤ source.height

theorem bounded_of_create {data : δ} (created : create natives data = .ok image) :
    Bounded natives image.decomp image := by
  rcases made_of_create created with ⟨header, parsed, rfl⟩
  exact ⟨rfl, parsed, .inl ⟨rfl, rfl⟩⟩

theorem bounded_setOp (op : TJOp) :
    Method.Preserves (Bounded natives source) (setOp (δ := δ) op) := by
  intro image bounded
  exact ⟨bounded.decomp, bounded.describes, bounded.bounds⟩

theorem bounded_rotate (angle : ℤ) :
    Method.Preserves (Bounded natives source) (rotate (δ := δ) angle) := by
  rw [rotate]
  exact .ite (.throw _) (.ite (bounded_setOp _) (.ite (bounded_setOp _)
    (.ite (bounded_setOp _) (.pure _))))

theorem bounded_crop (x y width height : IntValue) :
    Method.Preserves (Bounded natives source) (crop (δ := δ) x y width height) := by
  intro image bounded
  rcases run_crop_cases image x y width height with returned | ⟨message, refused⟩
  · rw [Method.after_of_ok returned]
    rcases (run_crop_eq_ok_iff x.2.2 y.2.2).mp returned with
      ⟨⟨left, top⟩, ⟨wide, tall⟩, ⟨right, bottom⟩, -⟩
    rw [getWidth, bounded.decomp] at right
    rw [getHeight, bounded.decomp] at bottom
    refine ⟨bounded.decomp, bounded.describes, .inr ?_⟩
    change (1 ≤ (width : ℤ) ∧ (width : ℤ) ≤ source.width) ∧
      1 ≤ (height : ℤ) ∧ (height : ℤ) ≤ source.height
    omega
  · rw [Method.after_of_error refused]
    exact bounded

theorem bounded_lazyCall (call : LazyCall) :
    Method.Preserves (Bounded natives source) (call.1.method natives) := by
  rcases call with ⟨call, isLazy⟩
  cases call with
  | rotate angle => exact bounded_rotate angle
  | flipHorizontal => exact bounded_setOp .hflip
  | flipVertical => exact bounded_setOp .vflip
  | transpose => exact bounded_setOp .transpose
  | transverse => exact bounded_setOp .transverse
  | crop x y width height => exact bounded_crop x y width height
  | toGrayscale =>
      intro image bounded
      exact ⟨bounded.decomp, bounded.describes, bounded.bounds⟩
  | downScale width height quality => cases isLazy
  | transform => cases isLazy

theorem bounded_reached {data : δ} (created : create natives data = .ok image)
    (calls : List LazyCall) : Bounded natives image.decomp (reached natives calls image) :=
  Method.afterAll_of_keeps bounded_lazyCall calls (bounded_of_create created)

/-! ## The law -/

/-- The length that `transform` allocates is a valid one and large enough for what the
native side demands, as an `int` and as the `unsigned long` that it is compared with, so that
the native transform is called. -/
structure BuffersFit (natives : Natives δ) (image : JpegImage δ) : Prop where
  allocatable : 0 ≤ tjBufSize image.getWidth image.getHeight image.decomp.subsamp
  enough : tjBufSize (demandedWidth image.decomp image.transformOptions)
      (demandedHeight image.decomp image.transformOptions) image.decomp.subsamp ≤
    tjBufSize image.getWidth image.getHeight image.decomp.subsamp
  accepted : demandedSize image.decomp image.transformOptions ≤
    tjBufSize image.getWidth image.getHeight image.decomp.subsamp
  called : EStateM.run (transform natives) image =
    EStateM.run (do
      let transformed ← Method.ofExcept
        (natives.transform image.imgData image.transformOptions)
      setImageData natives transformed
      modify fun image => { image with transformOptions := {} }) image

/-- The buffer fits without overflow, or in spite of it. -/
def FitsWrapped (source : Header) (t : TJTransform) : Prop :=
  let size := paddedSize source.width source.height source.subsamp
  let part := paddedSize (demandedWidth source t) (demandedHeight source t) source.subsamp
  size ≤ maxInt ∨ size % 4294967296 ≤ maxInt ∧ part % 4294967296 ≤ size % 4294967296

theorem buffersFit_iff_cropFits
    (describes : natives.decompressHeader image.imgData = .ok image.decomp) :
    BuffersFit natives image ↔
      cropFits image.decomp.width image.decomp.height image.decomp.subsamp
        (demandedWidth image.decomp image.transformOptions)
        (demandedHeight image.decomp image.transformOptions) := by
  constructor
  · intro fit
    exact ⟨fit.allocatable, fit.accepted⟩
  · intro fits
    refine ⟨fits.1, ?_, fits.2, run_transform_of_fits describes fits⟩
    -- a demanded size below zero would be larger than any array
    rcases fits with ⟨-, accepted⟩
    have demanded := tjBufSize_range (demandedWidth image.decomp image.transformOptions)
      (demandedHeight image.decomp image.transformOptions) image.decomp.subsamp
    have allocated := tjBufSize_range image.decomp.width image.decomp.height
      image.decomp.subsamp
    unfold unsignedLong at accepted
    unfold minInt maxInt at demanded allocated
    unfold getWidth getHeight
    omega

theorem Bounded.cropFits_iff_fitsWrapped (bounded : Bounded natives source image) :
    cropFits source.width source.height source.subsamp
        (demandedWidth source image.transformOptions)
        (demandedHeight source image.transformOptions) ↔
      FitsWrapped source image.transformOptions := by
  have wide := source.width_pos
  have tall := source.height_pos
  have part : (1 ≤ demandedWidth source image.transformOptions ∧
      demandedWidth source image.transformOptions ≤ source.width) ∧
      1 ≤ demandedHeight source image.transformOptions ∧
        demandedHeight source image.transformOptions ≤ source.height := by
    rcases bounded.bounds with ⟨noWidth, noHeight⟩ | inside
    · rw [demandedWidth, demandedHeight, if_neg (by omega), if_neg (by omega)]
      omega
    · rw [demandedWidth, demandedHeight, if_pos (by omega), if_pos (by omega)]
      exact inside
  rcases part with ⟨⟨cropWide, columns⟩, cropTall, rows⟩
  have exact : cropFits source.width source.height source.subsamp
      (demandedWidth source image.transformOptions)
      (demandedHeight source image.transformOptions) ↔ _ :=
    cropFits_iff wide tall cropWide cropTall
  constructor
  · intro fits
    exact .inr (exact.mp fits)
  · intro fits
    rcases fits with small | wrapped
    · exact cropFits_of_small cropWide cropTall columns rows small
    · exact exact.mpr wrapped

/-- Any rows at the top of the image can be what is to be kept. -/
theorem exists_reached_rows (natives : Natives δ) (image : JpegImage δ) {rows : ℤ}
    (positive : 1 ≤ rows) (inside : rows ≤ image.decomp.height) :
    ∃ calls, reached natives calls image = image.cropped 0 0 image.decomp.width rows := by
  have widthLe := le_maxInt_of_le_maxDimension image.decomp.width_le
  have heightLe := le_maxInt_of_le_maxDimension image.decomp.height_le
  have widthPos := image.decomp.width_pos
  have recorded : EStateM.run (crop 0 0 image.decomp.width rows) image =
      .ok () (image.cropped 0 0 image.decomp.width rows) := by
    rw [run_crop_eq_ok_iff (by decide) (by decide)]
    unfold getWidth getHeight
    exact ⟨⟨le_rfl, le_rfl⟩, by omega, by omega, rfl⟩
  exact ⟨[⟨.crop ⟨0, by decide⟩ ⟨0, by decide⟩
    ⟨image.decomp.width, minInt_le_of_nonneg (by omega), widthLe⟩
    ⟨rows, minInt_le_of_nonneg (by omega), by omega⟩, rfl⟩], Method.after_of_ok recorded⟩

/-- In a state that lazy calls reach the buffers fit exactly if the size of the source does
not overflow, or its remainder is still a valid length and not less than that of the part.
They fit in all of these states exactly if it does not overflow. -/
theorem transform_buffers_fit_iff {δ : Type} {natives : Natives δ} {data : δ}
    {image : JpegImage δ} (created : create natives data = .ok image) :
    (∀ calls, BuffersFit natives (reached natives calls image) ↔
      FitsWrapped image.decomp (reached natives calls image).transformOptions) ∧
    ((∀ calls, BuffersFit natives (reached natives calls image)) ↔
      paddedSize image.decomp.width image.decomp.height image.decomp.subsamp ≤ maxInt) := by
  have each : ∀ calls, BuffersFit natives (reached natives calls image) ↔
      FitsWrapped image.decomp (reached natives calls image).transformOptions := by
    intro calls
    have bounded := bounded_reached created calls
    have describes := bounded.describes
    rw [← bounded.decomp] at describes
    rw [buffersFit_iff_cropFits describes, bounded.decomp]
    exact bounded.cropFits_iff_fitsWrapped
  refine ⟨each, ?_⟩
  constructor
  · intro all
    by_contra large
    have wide := image.decomp.width_pos
    rcases exists_not_cropFits wide image.decomp.width_le image.decomp.height_pos
      (not_le.mp large) with
      ⟨rows, positive, inside, misfit⟩
    rcases exists_reached_rows natives image positive inside with ⟨calls, state⟩
    have describes : natives.decompressHeader
        (image.cropped 0 0 image.decomp.width rows).imgData =
        .ok (image.cropped 0 0 image.decomp.width rows).decomp :=
      (consistent_of_create created).describes
    have fit := (buffersFit_iff_cropFits describes).mp (state ▸ all calls)
    rw [demandedWidth, demandedHeight, if_pos (by change image.decomp.width ≠ 0; omega),
      if_pos (by change rows ≠ 0; omega)] at fit
    exact misfit fit
  · intro small calls
    exact (each calls).mpr (.inl small)

/-! ## A file of 20000 by 20000 pixels -/

/-- A file of given dimensions without subsampling. -/
def wideFile : Jpeg (ℕ × ℕ) :=
  .labelled 20000 20000 .samp444 (by decide) (by decide) (by decide) (by decide)

theorem create_wideFile :
    create (library id Scaler.nearest) wideFile = .ok (holding wideFile .samp444 {}) :=
  create_library (Jpeg.getSubsamp_labelled _ _ _ _ _)

open JpegTranImage (squareJpeg) in
/-- In a file of 32 by 32 pixels a crop gets its buffer. -/
theorem transform_buffers_fit_square :
    BuffersFit (library id Scaler.nearest) (reached (library id Scaler.nearest)
      [⟨.crop ⟨8, by decide⟩ ⟨8, by decide⟩ ⟨16, by decide⟩ ⟨24, by decide⟩, rfl⟩,
        ⟨.toGrayscale, rfl⟩] (holding (squareJpeg .samp444) .samp444 {})) :=
  (transform_buffers_fit_iff
    (create_library (Jpeg.getSubsamp_labelled _ _ _ _ _))).2.mpr (by decide +kernel) _

/-- After a rotation of the large file the length of its buffer is negative. -/
theorem transform_buffer_negative :
    let rotated := reached (library id Scaler.nearest) [⟨.rotate ⟨90, by decide⟩, rfl⟩]
      (holding wideFile .samp444 {})
    create (library id Scaler.nearest) wideFile = .ok (holding wideFile .samp444 {}) ∧
      EStateM.run (transform (library id Scaler.nearest)) rotated =
        .error (.negativeArraySize none) rotated ∧
      ¬BuffersFit (library id Scaler.nearest) rotated := by
  intro rotated
  have size : tjBufSize rotated.getWidth rotated.getHeight rotated.decomp.subsamp =
      -1894965248 := by
    decide +kernel
  have describes : (library id Scaler.nearest).decompressHeader rotated.imgData =
      .ok rotated.decomp :=
    decompressHeader_library (Jpeg.getSubsamp_labelled _ _ _ _ _)
  have computed : bufSize rotated.getWidth rotated.getHeight rotated.decomp.subsamp =
      .ok (-1894965248) := by
    rw [bufSize, size]
    rfl
  refine ⟨create_wideFile, ?_, ?_⟩
  · rw [transform, Method.run_get_bind, describes, Method.run_ofExcept_ok_bind, computed]
    rfl
  · intro fit
    have nonneg := fit.allocatable
    rw [size] at nonneg
    exact absurd nonneg (by decide)

end JpegImage

end IiifImage
