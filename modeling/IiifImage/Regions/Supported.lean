import IiifImage.Backend.Output
import IiifImage.Regions.Lossless

/-!
# Supported regions on the lossless backend

The repository decides from the region alone that it can be cropped without a loss.  The
native transform also looks at the MCU size of the file, and its output has to fit in a buffer
whose length depends on the region but not on the markers that are copied.
-/

namespace IiifImage

open Java TurboJpeg ImageService

namespace TurboJpeg

/-- The destination size of a part that fits is the computed one. -/
theorem unsignedLong_of_cropFits {width height cropWidth cropHeight : ℤ} {subsamp : Subsamp}
    (fits : cropFits width height subsamp cropWidth cropHeight) :
    unsignedLong (tjBufSize cropWidth cropHeight subsamp) =
      tjBufSize cropWidth cropHeight subsamp := by
  rcases tjBufSize_range width height subsamp with ⟨-, high⟩
  rcases tjBufSize_range cropWidth cropHeight subsamp with ⟨cropLow, cropHigh⟩
  have le := fits.2
  rw [unsignedLong] at le ⊢
  rw [minInt] at cropLow
  rw [maxInt] at high cropHigh
  omega

end TurboJpeg

/-! ## Room for the output -/

namespace JpegImage

variable {α : Type} {luma : α → α} {jpeg : Jpeg α} {subsamp : Subsamp} {rect : Rect} {n : ℕ}

/-- A transform of bounds that are on the MCU grid has the buffer of the bounds. -/
theorem hasRoom_bounds_iff (luma : α → α) (typed : jpeg.getSubsamp = some subsamp)
    (wide : 0 < rect.width) (tall : 0 < rect.height)
    (inside : rect.Inside jpeg.raster.width jpeg.raster.height)
    (aligned : rect.x % subsamp.mcuWidth = 0 ∧ rect.y % subsamp.mcuHeight = 0) :
    Jpeg.HasRoom luma n jpeg (pending rect .none) ↔
      (n : ℤ) < unsignedLong (tjBufSize rect.width rect.height subsamp) := by
  have bounds : (pending rect .none).Bounds rect := bounds_pending wide tall inside
  have written : ∃ out outSubsamp, jpeg.tjTransform luma (pending rect .none) = .ok out ∧
      out.getSubsamp = some outSubsamp := by
    rw [Jpeg.tjTransform_bounds_succeeds_iff luma typed rfl hasCrop_pending bounds inside
      (Nat.dvd_of_mod_eq_zero aligned.1) (Nat.dvd_of_mod_eq_zero aligned.2), Jpeg.Writable,
      hasGray_pending, typed]
    rfl
  rcases written with ⟨out, _, transformed, -⟩
  rcases Jpeg.tjTransform_size_bounds typed hasCrop_pending bounds transformed with
    ⟨sameWidth, sameHeight⟩
  rw [Jpeg.hasRoom_iff transformed, Jpeg.dstSize_eq typed, hasCrop_pending, sameWidth, sameHeight,
    if_pos rfl]

/-- A transform without bounds has the buffer of the whole image. -/
theorem hasRoom_idle_iff (luma : α → α) (typed : jpeg.getSubsamp = some subsamp) :
    Jpeg.HasRoom luma n jpeg {} ↔
      (n : ℤ) < unsignedLong (tjBufSize jpeg.raster.width jpeg.raster.height subsamp) := by
  obtain ⟨out, transformed, -, -⟩ := Jpeg.tjTransform_uncropped luma (t := {}) typed
    (TJTransform.hasCrop_of_no_options rfl) (TJTransform.hasGray_of_no_options rfl)
  rw [Jpeg.hasRoom_iff transformed, Jpeg.dstSize_eq typed,
    TJTransform.hasCrop_of_no_options rfl, if_neg Bool.false_ne_true]

end JpegImage

namespace JpegTranImage

variable {α : Type} {luma : α → α} {scaler : Scaler α} {fp : Rounding}
variable {written : Jpeg α → TJTransform → ℕ}
variable {jpeg : Jpeg α} {subsamp : Subsamp} {rect : Rect} {t : TJTransform}

/-- Inside the image the transform of the crop step has the buffer of its region. -/
theorem hasRoom_regionTransform_iff {n : ℕ} (luma : α → α) (typed : jpeg.getSubsamp = some subsamp)
    (wide : 0 < rect.width) (tall : 0 < rect.height)
    (inside : rect.Inside jpeg.raster.width jpeg.raster.height)
    (aligned : rect.x % subsamp.mcuWidth = 0 ∧ rect.y % subsamp.mcuHeight = 0) :
    Jpeg.HasRoom luma n jpeg (regionTransform rect jpeg.raster.width jpeg.raster.height) ↔
      (n : ℤ) < unsignedLong (tjBufSize rect.width rect.height subsamp) := by
  rw [regionTransform]
  split
  next recorded =>
    rw [Rect.clip_of_inside inside,
      JpegImage.hasRoom_bounds_iff luma typed wide tall inside aligned]
  next same =>
    have sameWidth : jpeg.raster.width = rect.width := by omega
    have sameHeight : jpeg.raster.height = rect.height := by omega
    rw [JpegImage.hasRoom_idle_iff luma typed, sameWidth, sameHeight]

/-! ## Refusals -/

theorem refuses_performTransformation_iff {natives : Natives (Jpeg α)}
    {image : JpegTranImage (Jpeg α)} {region : Option RegionParameters} :
    Refuses (onImage (performTransformation natives)) ⟨image, region⟩ ↔
      ∃ exception out, EStateM.run (JpegImage.transform natives) image.jpegImage =
        .error exception out ∧ (transformFailure exception).isTransformation = true := by
  cases ran : EStateM.run (JpegImage.transform natives) image.jpegImage with
  | ok value out => simp [Refuses, run_performTransformation_ok image region ran]
  | error exception out => simp [Refuses, run_performTransformation_error image region ran]

/-- A full buffer is one more reason for a `TransformationException`. -/
theorem refuses_writing_iff (typed : jpeg.getSubsamp = some subsamp)
    {region : Option RegionParameters} :
    Refuses (onImage (performTransformation (libraryWriting luma scaler written)))
        ⟨ofJpeg jpeg subsamp t, region⟩ ↔
      Refuses (onImage (performTransformation (library luma scaler)))
          ⟨ofJpeg jpeg subsamp t, region⟩ ∨
        destinationFits (jpeg.header subsamp) t ∧ ¬Jpeg.HasRoom luma (written jpeg t) jpeg t := by
  by_cases room : Jpeg.HasRoom luma (written jpeg t) jpeg t
  · have same : EStateM.run (JpegImage.transform (libraryWriting luma scaler written))
        (ofJpeg jpeg subsamp t).jpegImage = EStateM.run (JpegImage.transform (library luma scaler))
        (ofJpeg jpeg subsamp t).jpegImage := JpegImage.run_transform_of_hasRoom scaler room
    simp only [refuses_performTransformation_iff, same, room, not_true, and_false, or_false]
  by_cases fits : destinationFits (jpeg.header subsamp) t
  · rcases JpegImage.run_transform_of_not_hasRoom scaler typed fits room with ⟨message, thrown⟩
    exact iff_of_true (refuses_performTransformation_iff.mpr ⟨_, _, thrown, rfl⟩)
      (.inr ⟨fits, room⟩)
  · -- both natives refuse the buffer before they look at the data
    rw [refuses_iff typed]
    simp only [fits, false_and, or_false, iff_false]
    intro refused
    rcases refuses_performTransformation_iff.mp refused with ⟨exception, out, thrown, reported⟩
    have describes : (libraryWriting luma scaler written).decompressHeader
        (JpegImage.holding jpeg subsamp t).imgData =
          .ok (JpegImage.holding jpeg subsamp t).decomp :=
      JpegImage.describes_holding luma scaler typed t
    obtain ⟨other, thrown', notIO, notTransformation⟩ :=
      JpegImage.run_transform_of_not_fits describes fits
    have same : EStateM.run (JpegImage.transform (libraryWriting luma scaler written))
        (JpegImage.holding jpeg subsamp t) = .error exception out := thrown
    rw [same] at thrown'
    cases thrown'
    cases exception <;>
      simp_all [transformFailure, Throwable.isTransformation, Throwable.isIOException]

/-- With room for its output the request runs as if lengths did not matter. -/
theorem run_regionRequest_of_hasRoom (fp : Rounding) (scaler : Scaler α)
    (left : rect.x < jpeg.raster.width) (top : rect.y < jpeg.raster.height)
    (wide : 0 < rect.width) (tall : 0 < rect.height)
    (room : Jpeg.HasRoom luma
      (written jpeg (regionTransform rect jpeg.raster.width jpeg.raster.height)) jpeg
      (regionTransform rect jpeg.raster.width jpeg.raster.height)) :
    EStateM.run (regionRequest (libraryWriting luma scaler written) fp)
        ⟨ofJpeg jpeg subsamp {}, some (.ofRats rect.x rect.y rect.width rect.height)⟩ =
      EStateM.run (regionRequest (library luma scaler) fp)
        ⟨ofJpeg jpeg subsamp {}, some (.ofRats rect.x rect.y rect.width rect.height)⟩ := by
  have same : EStateM.run (JpegImage.transform (libraryWriting luma scaler written))
      (JpegImage.holding jpeg subsamp
        (regionTransform rect jpeg.raster.width jpeg.raster.height)) =
      EStateM.run (JpegImage.transform (library luma scaler)) (JpegImage.holding jpeg subsamp
        (regionTransform rect jpeg.raster.width jpeg.raster.height)) :=
    JpegImage.run_transform_of_hasRoom scaler room
  rw [run_regionRequest left top wide tall, run_regionRequest left top wide tall]
  cases ran : EStateM.run (JpegImage.transform (library luma scaler)) (JpegImage.holding jpeg
      subsamp (regionTransform rect jpeg.raster.width jpeg.raster.height)) with
  | ok value out =>
      rw [run_performTransformation_ok _ _ (same.trans ran), run_performTransformation_ok _ _ ran]
  | error exception out =>
      rw [run_performTransformation_error _ _ (same.trans ran),
        run_performTransformation_error _ _ ran]

/-- The request is refused when the corner of the recorded bounds is off the MCU grid, and
when it is not but the output fills the buffer. -/
theorem regionRequest_writing_refused_iff (fp : Rounding) (luma : α → α) (scaler : Scaler α)
    (written : Jpeg α → TJTransform → ℕ) (rect : Rect) (typed : jpeg.getSubsamp = some subsamp)
    (left : rect.x < jpeg.raster.width) (top : rect.y < jpeg.raster.height)
    (wide : 0 < rect.width) (tall : 0 < rect.height) :
    Refuses (regionRequest (libraryWriting luma scaler written) fp)
        ⟨ofJpeg jpeg subsamp {}, some (.ofRats rect.x rect.y rect.width rect.height)⟩ ↔
      Refuses (regionRequest (library luma scaler) fp)
          ⟨ofJpeg jpeg subsamp {}, some (.ofRats rect.x rect.y rect.width rect.height)⟩ ∨
        destinationFits (jpeg.header subsamp)
            (regionTransform rect jpeg.raster.width jpeg.raster.height) ∧
          ¬Jpeg.HasRoom luma
            (written jpeg (regionTransform rect jpeg.raster.width jpeg.raster.height)) jpeg
            (regionTransform rect jpeg.raster.width jpeg.raster.height) := by
  rw [Refuses, run_regionRequest left top wide tall, ← Refuses, refuses_writing_iff typed, Refuses,
    ← run_regionRequest left top wide tall, ← Refuses]

/-! ## The support predicate -/

/-- The repository supports exactly the regions of multiples of eight. -/
theorem supportsCropOperation_ofRats_iff (fp : Rounding) (x y width height : ℚ) :
    ImageRepositoryJpegTranImpl.supportsCropOperation fp
        (some (.ofRats x y width height)) = true ↔
      ((∃ k : ℤ, width = 8 * k) ∧ ∃ k : ℤ, height = 8 * k) ∧
        (∃ k : ℤ, x = 8 * k) ∧ ∃ k : ℤ, y = 8 * k := by
  have multiple : ∀ q : ℚ, (JFloat.rem (.fin q) (.fin 8)).eq (.fin 0) = true ↔
      ∃ k : ℤ, q = 8 * k := fun q => JFloat.rem_eq_zero_iff q 8 (by decide)
  have eight : fp.ofInt 8 = .fin 8 := fp.ofInt_of_small (by decide)
  have zero : fp.ofInt 0 = .fin 0 := by
    rw [fp.ofInt_of_small (by decide), Int.cast_zero]
  simp only [ImageRepositoryJpegTranImpl.supportsCropOperation, RegionParameters.ofRats,
    eight, zero, Bool.and_eq_true, multiple, and_assoc]

/-- A supported region of pixels has natural numbers for bounds. -/
theorem exists_rect_of_supported {x y width height : ℚ}
    (supported : ImageRepositoryJpegTranImpl.supportsCropOperation fp
      (some (.ofRats x y width height)) = true)
    (left : 0 ≤ x) (top : 0 ≤ y) (wide : 1 ≤ width) (tall : 1 ≤ height) :
    ∃ rect : Rect, x = rect.x ∧ y = rect.y ∧ width = rect.width ∧ height = rect.height := by
  obtain ⟨⟨⟨w, rfl⟩, h, rfl⟩, ⟨a, rfl⟩, b, rfl⟩ :=
    (supportsCropOperation_ofRats_iff fp x y width height).mp supported
  have natural : ∀ k : ℤ, (0 : ℚ) ≤ 8 * k → ((8 * k).toNat : ℚ) = 8 * k := by
    intro k nonneg
    have integral : 0 ≤ 8 * k := by exact_mod_cast nonneg
    exact_mod_cast Int.toNat_of_nonneg integral
  exact ⟨⟨(8 * a).toNat, (8 * b).toNat, (8 * w).toNat, (8 * h).toNat⟩,
    (natural a left).symm, (natural b top).symm, (natural w (by linarith)).symm,
    (natural h (by linarith)).symm⟩

/-- The part of an extent that is inside the image. -/
def insideExtent (size : ℕ) (offset extent : ℚ) : ℤ := ⌈min extent (size - offset)⌉

theorem insideExtent_natCast {size offset : ℕ} (inside : offset < size) (extent : ℕ) :
    insideExtent size offset extent = (min extent (size - offset) : ℕ) := by
  have room : (size : ℚ) - offset = (size - offset : ℕ) := by
    rw [Nat.cast_sub inside.le]
  rw [insideExtent, room, ← Nat.cast_min, Int.ceil_natCast]

/-- The corner of a region is a corner of an MCU. -/
def OnGrid (subsamp : Subsamp) (x y : ℚ) : Prop :=
  (∃ column : ℕ, x = subsamp.mcuWidth * column) ∧ ∃ row : ℕ, y = subsamp.mcuHeight * row

theorem onGrid_natCast (subsamp : Subsamp) (x y : ℕ) :
    OnGrid subsamp x y ↔ x % subsamp.mcuWidth = 0 ∧ y % subsamp.mcuHeight = 0 := by
  simp only [OnGrid, ← Nat.dvd_iff_mod_eq_zero, Dvd.dvd]
  norm_cast

/-! ## Requests for supported regions -/

/-- Reading a file does not depend on the outputs of its transforms. -/
theorem create_writing_iff {image : JpegTranImage (Jpeg α)} :
    create (libraryWriting luma scaler written) jpeg = .ok image ↔
      ∃ subsamp, jpeg.getSubsamp = some subsamp ∧ image = ofJpeg jpeg subsamp {} := by
  have same : create (libraryWriting luma scaler written) jpeg = .ok image ↔
      create (library luma scaler) jpeg = .ok image := Iff.rfl
  exact same.trans create_library_iff

/-- The dimensions of the part of the image that the transform is asked for: those of the
image when the region has them, and else those of the region inside the image. -/
def requestedPart (size : ℕ × ℕ) (x y width height : ℚ) : ℤ × ℤ :=
  if width = size.1 ∧ height = size.2 then (size.1, size.2)
  else (insideExtent size.1 x width, insideExtent size.2 y height)

/-- The transform that the crop step leaves pending for a region of pixels. -/
def requestedTransform (size : ℕ × ℕ) (x y width height : ℚ) : TJTransform :=
  regionTransform ⟨⌈x⌉.toNat, ⌈y⌉.toNat, ⌈width⌉.toNat, ⌈height⌉.toNat⟩ size.1 size.2

theorem requestedTransform_natCast (size : ℕ × ℕ) (rect : Rect) :
    requestedTransform size rect.x rect.y rect.width rect.height =
      regionTransform rect size.1 size.2 := by
  simp only [requestedTransform, Int.ceil_natCast, Int.toNat_natCast]

/-- Whether the regions's bounds are recorded or not, the request is accepted when its buffer
is not, or when the corner is on the grid and there is room for the output. -/
theorem regionRequest_writing_accepted_iff (fp : Rounding) (luma : α → α) (scaler : Scaler α)
    (written : Jpeg α → TJTransform → ℕ) (rect : Rect) (typed : jpeg.getSubsamp = some subsamp)
    (left : rect.x < jpeg.raster.width) (top : rect.y < jpeg.raster.height)
    (wide : 0 < rect.width) (tall : 0 < rect.height) :
    let size := (jpeg.raster.width, jpeg.raster.height)
    let part := requestedPart size rect.x rect.y rect.width rect.height
    ¬Refuses (regionRequest (libraryWriting luma scaler written) fp)
        ⟨ofJpeg jpeg subsamp {}, some (.ofRats rect.x rect.y rect.width rect.height)⟩ ↔
      ¬cropFits jpeg.raster.width jpeg.raster.height subsamp part.1 part.2 ∨
        (((rect.width : ℚ) = jpeg.raster.width ∧ (rect.height : ℚ) = jpeg.raster.height) ∨
            OnGrid subsamp rect.x rect.y) ∧
          (written jpeg (requestedTransform size rect.x rect.y rect.width rect.height) : ℤ) <
            tjBufSize part.1 part.2 subsamp := by
  dsimp only
  rcases Rect.clip_inside left top wide tall with ⟨inside, widthPos, heightPos⟩
  rw [regionRequest_writing_refused_iff fp luma scaler written rect typed left top wide tall,
    regionRequest_refused_iff fp luma scaler rect typed left top wide tall,
    requestedTransform_natCast, requestedPart, insideExtent_natCast left, insideExtent_natCast top,
    onGrid_natCast, regionTransform]
  by_cases same : jpeg.raster.width = rect.width ∧ jpeg.raster.height = rect.height
  · -- nothing is recorded
    have recorded : ¬(jpeg.raster.width ≠ rect.width ∨ jpeg.raster.height ≠ rect.height) := by
      omega
    have sameCast : (rect.width : ℚ) = jpeg.raster.width ∧
        (rect.height : ℚ) = jpeg.raster.height := by
      rw [same.1, same.2]
      exact ⟨rfl, rfl⟩
    rw [if_neg recorded, if_pos sameCast, JpegImage.hasRoom_idle_iff luma typed,
      destinationFits_unbounded rfl rfl, cropFits_whole]
    simp only [recorded, sameCast, false_and, false_or, and_self, true_or, true_and]
    rw [not_and_or, not_not]
    refine or_congr_right' fun nonneg => ?_
    have size : unsignedLong (tjBufSize jpeg.raster.width jpeg.raster.height subsamp) =
        tjBufSize jpeg.raster.width jpeg.raster.height subsamp :=
      unsignedLong_of_cropFits ((cropFits_whole _ _ _).mpr (not_not.mp nonneg))
    rw [size]
  · have recorded : jpeg.raster.width ≠ rect.width ∨ jpeg.raster.height ≠ rect.height := by
      omega
    have differs : ¬((rect.width : ℚ) = jpeg.raster.width ∧
        (rect.height : ℚ) = jpeg.raster.height) := by
      intro equal
      exact same ⟨by exact_mod_cast equal.1.symm, by exact_mod_cast equal.2.symm⟩
    have fits : destinationFits (jpeg.header subsamp)
          (JpegImage.pending (rect.clip jpeg.raster.width jpeg.raster.height) .none) ↔
        cropFits jpeg.raster.width jpeg.raster.height subsamp
          (rect.clip jpeg.raster.width jpeg.raster.height).width
          (rect.clip jpeg.raster.width jpeg.raster.height).height :=
      destinationFits_bounded (Int.natCast_ne_zero.mpr widthPos.ne')
        (Int.natCast_ne_zero.mpr heightPos.ne')
    rw [if_pos recorded, if_neg differs, fits, and_iff_right recorded, or_iff_right differs,
      ← and_or_left, not_and_or]
    refine or_congr_right' fun enough => ?_
    rw [not_or, not_not, not_not]
    refine and_congr_right fun aligned => ?_
    rw [JpegImage.hasRoom_bounds_iff luma typed widthPos heightPos inside aligned,
      unsignedLong_of_cropFits (not_not.mp enough)]
    rfl

/-- A supported region of pixels does not make the transformation fail exactly when another
exception reports that the destination buffer is too small for its demanded size, or there is
room for the output and the region has the dimensions of the image or its corner on the MCU
grid of the file. -/
theorem supported_region_accepted_iff (fp : Rounding) (luma : α → α) (scaler : Scaler α)
    (written : Jpeg α → TJTransform → ℕ) {image : JpegTranImage (Jpeg α)}
    {x y width height : ℚ} (created : create (libraryWriting luma scaler written) jpeg = .ok image)
    (left : 0 ≤ x ∧ x < jpeg.raster.width) (top : 0 ≤ y ∧ y < jpeg.raster.height)
    (wide : 1 ≤ width) (tall : 1 ≤ height)
    (supported : ImageRepositoryJpegTranImpl.supportsCropOperation fp
      (some (.ofRats x y width height)) = true) :
    let size := (jpeg.raster.width, jpeg.raster.height)
    let part := requestedPart size x y width height
    let subsamp := image.jpegImage.decomp.subsamp
    ¬Refuses (regionRequest (libraryWriting luma scaler written) fp)
        ⟨image, some (.ofRats x y width height)⟩ ↔
      ¬cropFits jpeg.raster.width jpeg.raster.height subsamp part.1 part.2 ∨
        ((width = jpeg.raster.width ∧ height = jpeg.raster.height) ∨ OnGrid subsamp x y) ∧
          (written jpeg (requestedTransform size x y width height) : ℤ) <
            tjBufSize part.1 part.2 subsamp := by
  rcases create_writing_iff.mp created with ⟨subsamp, typed, rfl⟩
  obtain ⟨rect, rfl, rfl, rfl, rfl⟩ :=
    exists_rect_of_supported supported left.1 top.1 wide tall
  exact regionRequest_writing_accepted_iff fp luma scaler written rect typed
    (by exact_mod_cast left.2) (by exact_mod_cast top.2)
    (by exact_mod_cast lt_of_lt_of_le one_pos wide)
    (by exact_mod_cast lt_of_lt_of_le one_pos tall)

/-! ## Two files -/

theorem supports_squareRegion :
    ImageRepositoryJpegTranImpl.supportsCropOperation .exact (some (.ofRats 8 0 8 8)) = true :=
  (supportsCropOperation_ofRats_iff .exact 8 0 8 8).mpr
    ⟨⟨⟨1, by norm_num⟩, 1, by norm_num⟩, ⟨1, by norm_num⟩, 0, by norm_num⟩

theorem create_writing_squareJpeg (written : Jpeg (ℕ × ℕ) → TJTransform → ℕ)
    (subsamp : Subsamp) :
    create (libraryWriting id Scaler.nearest written) (squareJpeg subsamp) =
      .ok (ofJpeg (squareJpeg subsamp) subsamp {}) :=
  create_writing_iff.mpr ⟨subsamp, Jpeg.getSubsamp_labelled _ _ _ _ _, rfl⟩

/-- Without subsampling a region of multiples of eight is accepted if its output has seven
hundred bytes. -/
theorem supported_region_accepted_samp444 :
    ¬Refuses (regionRequest (libraryWriting id Scaler.nearest fun _ _ => 700) .exact)
      ⟨ofJpeg (squareJpeg .samp444) .samp444 {}, some (.ofRats 8 0 8 8)⟩ :=
  (supported_region_accepted_iff .exact id Scaler.nearest (fun _ _ => 700)
    (create_writing_squareJpeg _ .samp444)
    (by norm_num [squareJpeg, Jpeg.labelled, Raster.labelled, Raster.ofFn])
    (by norm_num [squareJpeg, Jpeg.labelled, Raster.labelled, Raster.ofFn])
    (by norm_num) (by norm_num) supports_squareRegion).mpr
    (.inr ⟨.inr ⟨⟨1, by norm_num [ofJpeg, JpegImage.holding, Subsamp.mcuWidth]⟩, 0, by simp⟩,
      by decide +kernel⟩)

/-- A file of 480 by 360 pixels with 4:2:0 subsampling. -/
def photograph : Jpeg (ℕ × ℕ) :=
  Jpeg.labelled 480 360 .samp420 (by decide) (by decide) (by decide) (by decide)

/-- With 4:2:0 subsampling the supported region `8,0,8,8` is refused, however short its output
is, and `0,0,16,16`, which is on the grid, when 7698 bytes of markers are copied. -/
theorem supported_region_refused_samp420 :
    (ImageRepositoryJpegTranImpl.supportsCropOperation .exact
          (some (.ofRats 8 0 8 8)) = true ∧
        create (libraryWriting id Scaler.nearest fun _ _ => 0) (squareJpeg .samp420) =
          .ok (ofJpeg (squareJpeg .samp420) .samp420 {}) ∧
        Refuses (regionRequest (libraryWriting id Scaler.nearest fun _ _ => 0) .exact)
          ⟨ofJpeg (squareJpeg .samp420) .samp420 {}, some (.ofRats 8 0 8 8)⟩) ∧
      ImageRepositoryJpegTranImpl.supportsCropOperation .exact
          (some (.ofRats 0 0 16 16)) = true ∧
        create (libraryWriting id Scaler.nearest fun _ _ => 7698) photograph =
          .ok (ofJpeg photograph .samp420 {}) ∧
        Refuses (regionRequest (libraryWriting id Scaler.nearest fun _ _ => 7698) .exact)
          ⟨ofJpeg photograph .samp420 {}, some (.ofRats 0 0 16 16)⟩ := by
  have typed : (squareJpeg .samp420).getSubsamp = some .samp420 :=
    Jpeg.getSubsamp_labelled _ _ _ _ _
  have typed' : photograph.getSubsamp = some .samp420 := Jpeg.getSubsamp_labelled _ _ _ _ _
  have offGrid := regionRequest_writing_accepted_iff .exact id Scaler.nearest (fun _ _ => 0)
    ⟨8, 0, 8, 8⟩ typed (by decide) (by decide) (by decide) (by decide)
  have full := regionRequest_writing_accepted_iff .exact id Scaler.nearest (fun _ _ => 7698)
    ⟨0, 0, 16, 16⟩ typed' (by decide) (by decide) (by decide) (by decide)
  refine ⟨⟨supports_squareRegion, create_writing_squareJpeg _ _, ?_⟩, ?_, ?_, ?_⟩
  · by_contra accepted
    have onGrid := offGrid.mp (by exact_mod_cast accepted)
    rw [onGrid_natCast] at onGrid
    revert onGrid
    decide +kernel
  · exact (supportsCropOperation_ofRats_iff .exact 0 0 16 16).mpr
      ⟨⟨⟨2, by norm_num⟩, 2, by norm_num⟩, ⟨0, by norm_num⟩, 0, by norm_num⟩
  · exact create_writing_iff.mpr ⟨.samp420, typed', rfl⟩
  · by_contra accepted
    have room := full.mp (by exact_mod_cast accepted)
    rw [onGrid_natCast] at room
    revert room
    decide +kernel

end JpegTranImage

end IiifImage
