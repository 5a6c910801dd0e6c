import IiifImage.Backend.CropOrder
import IiifImage.Backend.JpegTranImage
import IiifImage.Business.ImageService

/-!
# Regions on the lossless backend

A region becomes the bounds of the pending transform, unless it has the dimensions of
the image: then nothing is pending and its offsets are ignored.  Whether the native
transform accepts the bounds depends on the MCU size of the file.
-/

namespace IiifImage

open Java TurboJpeg

/-! ## The pending transform of a region -/

namespace JpegImage

variable {α : Type} {luma : α → α} {scaler : Scaler α} {jpeg : Jpeg α} {subsamp : Subsamp}
variable {rect : Rect} {raster : Raster α}

/-- A transform of bounds only delivers the rectangle if its corner is on the MCU
grid. -/
theorem yields_bounds_iff (typed : jpeg.getSubsamp = some subsamp)
    (wide : 0 < rect.width) (tall : 0 < rect.height)
    (inside : rect.Inside jpeg.raster.width jpeg.raster.height) :
    Yields (transform (library luma scaler)) (holding jpeg subsamp (pending rect .none))
        raster ↔
      cropFits jpeg.raster.width jpeg.raster.height subsamp rect.width rect.height ∧
        (rect.x % subsamp.mcuWidth = 0 ∧ rect.y % subsamp.mcuHeight = 0) ∧
        jpeg.raster.crop rect = raster := by
  rw [yields_pending_iff typed wide tall inside]
  simp only [TJOp.orientation_none, one_smul, inside, true_and]
  exact and_congr_right fun _ => and_iff_right rfl

/-- A transform without bounds delivers the whole image. -/
theorem yields_idle_iff (typed : jpeg.getSubsamp = some subsamp) :
    Yields (transform (library luma scaler)) (holding jpeg subsamp {}) raster ↔
      0 ≤ tjBufSize jpeg.raster.width jpeg.raster.height subsamp ∧ jpeg.raster = raster := by
  obtain ⟨out, transformed, outRaster, outSubsamp⟩ :=
    Jpeg.tjTransform_uncropped luma (t := {}) typed
      (TJTransform.hasCrop_of_no_options rfl) (TJTransform.hasGray_of_no_options rfl)
  rw [yields_transform_iff typed, destinationFits_unbounded rfl rfl]
  apply and_congr_right
  intro fits
  rw [TJOp.orientation_none, one_smul] at outRaster
  constructor
  · intro yielded
    rcases yielded with ⟨out', transformed', -, rfl⟩
    rw [transformed] at transformed'
    cases transformed'
    exact outRaster.symm
  · rintro rfl
    exact ⟨out, transformed, outSubsamp ▸ rfl, outRaster⟩

end JpegImage

namespace JpegTranImage

open ImageService

variable {α : Type} {luma : α → α} {scaler : Scaler α} {fp : Rounding}
variable {jpeg : Jpeg α} {subsamp : Subsamp} {rect : Rect} {t : TJTransform}

/-- The image of decoded data with a pending transform. -/
def ofJpeg (jpeg : Jpeg α) (subsamp : Subsamp) (t : TJTransform) :
    JpegTranImage (Jpeg α) where
  jpegImage := JpegImage.holding jpeg subsamp t
  height := jpeg.raster.height
  width := jpeg.raster.width

@[simp] theorem width_ofJpeg : (ofJpeg jpeg subsamp t).width = jpeg.raster.width := rfl

@[simp] theorem height_ofJpeg : (ofJpeg jpeg subsamp t).height = jpeg.raster.height := rfl

theorem create_library_iff {image : JpegTranImage (Jpeg α)} :
    create (library luma scaler) jpeg = .ok image ↔
      ∃ subsamp, jpeg.getSubsamp = some subsamp ∧ image = ofJpeg jpeg subsamp {} := by
  rw [create, Method.except_bind_eq_ok]
  constructor
  · intro created
    rcases created with ⟨jpegImage, created, made⟩
    rcases JpegImage.create_library_iff.mp created with ⟨subsamp, typed, rfl⟩
    cases made
    exact ⟨subsamp, typed, rfl⟩
  · intro found
    rcases found with ⟨subsamp, typed, rfl⟩
    exact ⟨_, JpegImage.create_library typed, rfl⟩

theorem reports {δ : Type} (natives : Natives δ) (image : JpegTranImage δ) :
    Reports (methods natives fp) image image.width image.height :=
  ⟨rfl, rfl⟩

/-! ## The region step -/

/-- The clamp of one extent in `crop`. -/
theorem clamp_eq_min {size : ℕ} {offset extent : ℤ} (small : size ≤ maxDimension)
    (nonneg : 0 ≤ offset) (inside : offset < size) :
    (if extent > wrap (size - offset) then wrap (size - offset) else extent) =
      min extent (size - offset) := by
  have high : (size : ℤ) ≤ maxInt := le_maxInt_of_le_maxDimension (by exact_mod_cast small)
  have room : wrap (size - offset) = size - offset := by
    apply wrap_sub_of_nonneg <;> omega
  rw [room]
  split <;> omega

/-- The clamp of one extent of a rectangle of pixels. -/
theorem clamped_extent {size offset extent : ℕ} (inside : offset < size)
    (small : size ≤ maxDimension) :
    (if saturate extent > wrap (size - offset : ℤ) then wrap (size - offset : ℤ)
      else saturate extent) = (min extent (size - offset) : ℕ) := by
  have high : (size : ℤ) ≤ maxInt := le_maxInt_of_le_maxDimension (by exact_mod_cast small)
  rw [clamp_eq_min small (Int.natCast_nonneg offset) (by exact_mod_cast inside),
    saturate_natCast]
  omega

/-- A region that starts inside the image becomes the bounds of the pending transform,
clipped to the image. -/
theorem run_crop (fp : Rounding) (left : rect.x < jpeg.raster.width)
    (top : rect.y < jpeg.raster.height)
    (wide : 0 < rect.width) (tall : 0 < rect.height) :
    EStateM.run (crop fp (.ofRats rect.x rect.y rect.width rect.height))
        (ofJpeg jpeg subsamp {}) =
      .ok ⟨⟩ (ofJpeg jpeg subsamp
        (JpegImage.pending (rect.clip jpeg.raster.width jpeg.raster.height) .none)) := by
  rcases Rect.clip_inside left top wide tall with ⟨inside, widthPos, heightPos⟩
  have widthLe := jpeg.width_le_maxInt
  have heightLe := jpeg.height_le_maxInt
  have bounds := RegionParameters.bounds_ofRats fp rect (by omega) (by omega)
    jpeg.raster.width jpeg.raster.height
  have recorded : EStateM.run (JpegImage.crop rect.x rect.y
      (min rect.width (jpeg.raster.width - rect.x) : ℕ)
      (min rect.height (jpeg.raster.height - rect.y) : ℕ)) (JpegImage.holding jpeg subsamp {}) =
      .ok () (JpegImage.holding jpeg subsamp
        (JpegImage.pending (rect.clip jpeg.raster.width jpeg.raster.height) .none)) := by
    rw [JpegImage.run_crop_eq_ok_iff (by omega) (by omega)]
    simp only [JpegImage.getWidth, JpegImage.getHeight, JpegImage.holding,
      Jpeg.width_header, Jpeg.height_header]
    exact ⟨by omega, by omega, by omega, rfl⟩
  rw [crop, Method.run_get_bind, width_ofJpeg, height_ofJpeg, bounds]
  dsimp only
  rw [if_neg (by omega), clamped_extent left jpeg.width_le, clamped_extent top jpeg.height_le]
  exact Method.run_rethrow_ok (Method.run_on_ok recorded)

/-- The transform that is pending after the region step. -/
def regionTransform (rect : Rect) (width height : ℕ) : TJTransform :=
  if width ≠ rect.width ∨ height ≠ rect.height then
    JpegImage.pending (rect.clip width height) .none
  else {}

/-- The region step: nothing is pending when the region has the dimensions of the
image. -/
theorem run_regionStep (fp : Rounding) {natives : Natives (Jpeg α)}
    (left : rect.x < jpeg.raster.width) (top : rect.y < jpeg.raster.height)
    (wide : 0 < rect.width) (tall : 0 < rect.height) :
    EStateM.run (regionStep fp (methods natives fp))
        ⟨ofJpeg jpeg subsamp {}, some (.ofRats rect.x rect.y rect.width rect.height)⟩ =
      .ok ⟨⟩ ⟨ofJpeg jpeg subsamp (regionTransform rect jpeg.raster.width jpeg.raster.height),
        some (.ofRats rect.x rect.y rect.width rect.height)⟩ := by
  have widthLe := jpeg.width_le
  have heightLe := jpeg.height_le
  rw [maxDimension] at widthLe heightLe
  have differs : ∀ {size extent : ℕ}, size ≤ 65500 →
      (fp.ofInt size).ne (.fin extent) = decide (size ≠ extent) := by
    intro size extent small
    rw [fp.ofInt_of_small (by rw [Nat.abs_cast]; omega), JFloat.ne_fin]
    exact decide_eq_decide.mpr (not_congr (by norm_cast))
  rw [run_regionStep_absolute rfl, run_cropStep (reports natives _)]
  simp only [ofJpeg, RegionParameters.ofRats, differs widthLe, differs heightLe,
    Bool.or_eq_true, decide_eq_true_eq, regionTransform]
  split
  next => exact Method.run_on_ok (run_crop fp left top wide tall)
  next => rfl

/-! ## The final transformation -/

section Final

variable {natives : Natives (Jpeg α)} {image : JpegTranImage (Jpeg α)}
variable {after : JpegImage (Jpeg α)} {region : Option RegionParameters} {raster : Raster α}

theorem run_performTransformation_ok (image : JpegTranImage (Jpeg α))
    (region : Option RegionParameters)
    (ran : EStateM.run (JpegImage.transform natives) image.jpegImage = .ok () after) :
    EStateM.run (onImage (performTransformation natives)) ⟨image, region⟩ =
      .ok ⟨⟩ ⟨{ image with jpegImage := after }, region⟩ :=
  Method.run_on_ok (Method.run_rethrow_ok (Method.run_on_ok ran))

theorem run_performTransformation_error (image : JpegTranImage (Jpeg α))
    (region : Option RegionParameters) {exception : Throwable}
    (ran : EStateM.run (JpegImage.transform natives) image.jpegImage =
      .error exception after) :
    EStateM.run (onImage (performTransformation natives)) ⟨image, region⟩ =
      .error (transformFailure exception) ⟨{ image with jpegImage := after }, region⟩ :=
  Method.run_on_error (Method.run_rethrow_error (Method.run_on_error ran))

/-- The image holds the given pixels after the final transformation. -/
theorem performs_iff :
    (∃ final, EStateM.run (onImage (performTransformation natives)) ⟨image, region⟩ =
        .ok ⟨⟩ final ∧ final.image.jpegImage.imgData.raster = raster) ↔
      JpegImage.Yields (JpegImage.transform natives) image.jpegImage raster := by
  cases ran : EStateM.run (JpegImage.transform natives) image.jpegImage with
  | ok value out =>
      simp only [run_performTransformation_ok image region ran, JpegImage.Yields, ran,
        EStateM.Result.ok.injEq, true_and, exists_eq_left']
  | error exception out =>
      simp only [run_performTransformation_error image region ran, JpegImage.Yields, ran,
        reduceCtorEq, false_and, exists_false]

/-- The method throws a `TransformationException`. -/
def Refuses {σ : Type} (method : Method Throwable σ Unit) (state : σ) : Prop :=
  ∃ exception final, EStateM.run method state = .error exception final ∧
    exception.isTransformation = true

/-- A `TransformationException` means that the native transform was called and did not
deliver anything. -/
theorem refuses_iff (typed : jpeg.getSubsamp = some subsamp) :
    Refuses (onImage (performTransformation (library luma scaler)))
        ⟨ofJpeg jpeg subsamp t, region⟩ ↔
      destinationFits (jpeg.header subsamp) t ∧ ¬∃ raster,
        JpegImage.Yields (JpegImage.transform (library luma scaler))
          (JpegImage.holding jpeg subsamp t) raster := by
  cases ran : EStateM.run (JpegImage.transform (library luma scaler))
      (JpegImage.holding jpeg subsamp t) with
  | ok value out =>
      have performed :=
        run_performTransformation_ok (ofJpeg jpeg subsamp t) region ran
      simp [Refuses, performed, JpegImage.Yields, ran]
  | error exception out =>
      have performed :=
        run_performTransformation_error (ofJpeg jpeg subsamp t) region ran
      rcases JpegImage.run_transform_throws typed ran with ⟨refused, other⟩
      have converted : (transformFailure exception).isTransformation = true ↔
          ∃ message, exception = .tj message := by
        cases exception <;> simp_all [transformFailure, Throwable.isTransformation]
      simp [Refuses, performed, JpegImage.Yields, ran, converted, refused]

end Final

/-! ## Requests for a region in full size -/

section Requests

/-- A request for a region in full size, without rotation and in the file's own quality
and format. -/
def regionRequest {δ : Type} (natives : Natives δ) (fp : Rounding) :
    Method Throwable (Objects (JpegTranImage δ)) Unit :=
  transformImage fp (methods natives fp) none (some ⟨0, false⟩) none .jpeg

theorem run_regionRequest {natives : Natives (Jpeg α)} (left : rect.x < jpeg.raster.width)
    (top : rect.y < jpeg.raster.height) (wide : 0 < rect.width) (tall : 0 < rect.height) :
    EStateM.run (regionRequest natives fp)
        ⟨ofJpeg jpeg subsamp {}, some (.ofRats rect.x rect.y rect.width rect.height)⟩ =
      EStateM.run (onImage (performTransformation natives))
        ⟨ofJpeg jpeg subsamp (regionTransform rect jpeg.raster.width jpeg.raster.height),
          some (.ofRats rect.x rect.y rect.width rect.height)⟩ := by
  rw [regionRequest, transformImage_plain,
    Method.run_bind_ok (run_regionStep fp left top wide tall),
    Method.run_bind_ok (run_formatStep rfl)]
  rfl

/-- The request is refused exactly when the crop step has recorded bounds, a destination
buffer of their size is available and their corner is off the MCU grid. -/
theorem regionRequest_refused_iff (fp : Rounding) (luma : α → α) (scaler : Scaler α)
    (rect : Rect) (typed : jpeg.getSubsamp = some subsamp)
    (left : rect.x < jpeg.raster.width) (top : rect.y < jpeg.raster.height)
    (wide : 0 < rect.width) (tall : 0 < rect.height) :
    Refuses (regionRequest (library luma scaler) fp)
        ⟨ofJpeg jpeg subsamp {}, some (.ofRats rect.x rect.y rect.width rect.height)⟩ ↔
      (jpeg.raster.width ≠ rect.width ∨ jpeg.raster.height ≠ rect.height) ∧
        cropFits jpeg.raster.width jpeg.raster.height subsamp
          (rect.clip jpeg.raster.width jpeg.raster.height).width
          (rect.clip jpeg.raster.width jpeg.raster.height).height ∧
        ¬(rect.x % subsamp.mcuWidth = 0 ∧ rect.y % subsamp.mcuHeight = 0) := by
  rcases Rect.clip_inside left top wide tall with ⟨inside, widthPos, heightPos⟩
  rw [Refuses, run_regionRequest left top wide tall, ← Refuses, refuses_iff typed,
    regionTransform]
  split
  next differs =>
    have fits : destinationFits (jpeg.header subsamp)
        (JpegImage.pending (rect.clip jpeg.raster.width jpeg.raster.height) .none) ↔ _ :=
      destinationFits_bounded (Int.natCast_ne_zero.mpr widthPos.ne')
        (Int.natCast_ne_zero.mpr heightPos.ne')
    rw [fits, and_iff_right differs]
    apply and_congr_right
    intro enough
    apply not_congr
    simp only [JpegImage.yields_bounds_iff typed widthPos heightPos inside]
    constructor
    · intro accepted
      rcases accepted with ⟨raster, -, aligned, -⟩
      exact aligned
    · intro aligned
      exact ⟨_, enough, aligned, rfl⟩
  next same =>
    simp only [JpegImage.yields_idle_iff typed, destinationFits_unbounded]
    refine iff_of_false ?_ fun refused => same refused.1
    intro failed
    rcases failed with ⟨allocated, unread⟩
    exact unread ⟨_, allocated, rfl⟩

/-- The request delivers its part of the image exactly when the region does not have the
dimensions of the image, or nothing is cut off, and the buffer is large enough. -/
theorem regionRequest_delivers_iff (fp : Rounding) (luma : α → α) (scaler : Scaler α)
    (rect : Rect) (typed : jpeg.getSubsamp = some subsamp)
    (left : rect.x < jpeg.raster.width) (top : rect.y < jpeg.raster.height)
    (wide : 0 < rect.width) (tall : 0 < rect.height)
    (columns : subsamp.mcuWidth ∣ rect.x) (rows : subsamp.mcuHeight ∣ rect.y) :
    (∃ final, EStateM.run (regionRequest (library luma scaler) fp)
        ⟨ofJpeg jpeg subsamp {}, some (.ofRats rect.x rect.y rect.width rect.height)⟩ =
          .ok ⟨⟩ final ∧
        final.image.jpegImage.imgData.raster = jpeg.raster.crop rect) ↔
      (jpeg.raster.width ≠ rect.width ∨ jpeg.raster.height ≠ rect.height ∨
          (rect.x = 0 ∧ rect.y = 0)) ∧
        cropFits jpeg.raster.width jpeg.raster.height subsamp
          (rect.clip jpeg.raster.width jpeg.raster.height).width
          (rect.clip jpeg.raster.width jpeg.raster.height).height := by
  rcases Rect.clip_inside left top wide tall with ⟨inside, widthPos, heightPos⟩
  rw [run_regionRequest left top wide tall, performs_iff, ofJpeg, regionTransform,
    ← Raster.crop_clip jpeg.raster rect]
  split
  next differs =>
    rw [JpegImage.yields_bounds_iff typed widthPos heightPos inside]
    have aligned : rect.x % subsamp.mcuWidth = 0 ∧ rect.y % subsamp.mcuHeight = 0 :=
      ⟨Nat.mod_eq_zero_of_dvd columns, Nat.mod_eq_zero_of_dvd rows⟩
    constructor
    · intro delivered
      rcases delivered with ⟨fits, -, -⟩
      exact ⟨by omega, fits⟩
    · intro delivered
      rcases delivered with ⟨-, fits⟩
      exact ⟨fits, aligned, rfl⟩
  next same =>
    have sameWidth : jpeg.raster.width = rect.width := by omega
    have sameHeight : jpeg.raster.height = rect.height := by omega
    rw [JpegImage.yields_idle_iff typed, Raster.crop_clip,
      eq_comm (a := jpeg.raster), Raster.crop_eq_self_iff jpeg.width_pos jpeg.height_pos]
    constructor
    · intro delivered
      rcases delivered with ⟨allocated, corner, -, -⟩
      have covers : rect.Inside jpeg.raster.width jpeg.raster.height := by
        constructor <;> omega
      rw [Rect.clip_of_inside covers, ← sameWidth, ← sameHeight, cropFits_whole]
      exact ⟨.inr (.inr corner), allocated⟩
    · intro delivered
      rcases delivered with ⟨corner, fits⟩
      have atCorner : rect.x = 0 ∧ rect.y = 0 := by omega
      have covers : rect.Inside jpeg.raster.width jpeg.raster.height := by
        constructor <;> omega
      rw [Rect.clip_of_inside covers, ← sameWidth, ← sameHeight, cropFits_whole] at fits
      exact ⟨fits, atCorner, sameWidth.le, sameHeight.le⟩

end Requests

/-! ## Files of 32 by 32 pixels -/

/-- The file with a subsampling in which every pixel shows its own coordinates. -/
def squareJpeg (subsamp : Subsamp) : Jpeg (ℕ × ℕ) :=
  Jpeg.labelled 32 32 subsamp (by decide) (by decide) (by decide) (by decide)

theorem create_squareJpeg (subsamp : Subsamp) :
    create (library id Scaler.nearest) (squareJpeg subsamp) =
      .ok (ofJpeg (squareJpeg subsamp) subsamp {}) :=
  create_library_iff.mpr ⟨subsamp, Jpeg.getSubsamp_labelled _ _ _ _ _, rfl⟩

/-! ## The region law -/

/-- A region on the MCU grid is delivered exactly when it does not have the dimensions of
the image, or starts at its origin, and the destination buffer is large enough. -/
theorem grid_region_delivered_iff (fp : Rounding) (luma : α → α) (scaler : Scaler α)
    (rect : Rect) {image : JpegTranImage (Jpeg α)}
    (created : create (library luma scaler) jpeg = .ok image)
    (left : rect.x < jpeg.raster.width) (top : rect.y < jpeg.raster.height)
    (wide : 8 ≤ rect.width) (tall : 8 ≤ rect.height)
    (columns : image.jpegImage.decomp.subsamp.mcuWidth ∣ rect.x)
    (rows : image.jpegImage.decomp.subsamp.mcuHeight ∣ rect.y) :
    (∃ final, EStateM.run (regionRequest (library luma scaler) fp)
        ⟨image, some (.ofRats rect.x rect.y rect.width rect.height)⟩ = .ok ⟨⟩ final ∧
        final.image.jpegImage.imgData.raster = jpeg.raster.crop rect) ↔
      (jpeg.raster.width ≠ rect.width ∨ jpeg.raster.height ≠ rect.height ∨
          (rect.x = 0 ∧ rect.y = 0)) ∧
        cropFits jpeg.raster.width jpeg.raster.height image.jpegImage.decomp.subsamp
          (rect.clip jpeg.raster.width jpeg.raster.height).width
          (rect.clip jpeg.raster.width jpeg.raster.height).height := by
  rcases create_library_iff.mp created with ⟨subsamp, typed, rfl⟩
  exact regionRequest_delivers_iff fp luma scaler rect typed left top (by omega) (by omega)
    columns rows

/-- A region over the edges is clipped and delivered. -/
theorem grid_region_delivered_overEdge :
    ∃ final, EStateM.run (regionRequest (library id Scaler.nearest) .exact)
        ⟨ofJpeg (squareJpeg .samp444) .samp444 {},
          some (.ofRats (8 : ℕ) (16 : ℕ) (16 : ℕ) (32 : ℕ))⟩ = .ok ⟨⟩ final ∧
        final.image.jpegImage.imgData.raster =
          (squareJpeg .samp444).raster.crop ⟨8, 16, 16, 32⟩ :=
  (grid_region_delivered_iff .exact id Scaler.nearest ⟨8, 16, 16, 32⟩
    (create_squareJpeg .samp444) (by decide) (by decide) (by decide) (by decide) (by decide)
    (by decide)).mpr (by decide)

/-- A region with the dimensions of the image is ignored, wherever it starts. -/
theorem grid_region_ignored :
    create (library id Scaler.nearest) (squareJpeg .samp444) =
        .ok (ofJpeg (squareJpeg .samp444) .samp444 {}) ∧
      ¬∃ final, EStateM.run (regionRequest (library id Scaler.nearest) .exact)
          ⟨ofJpeg (squareJpeg .samp444) .samp444 {},
            some (.ofRats (8 : ℕ) (0 : ℕ) (32 : ℕ) (32 : ℕ))⟩ = .ok ⟨⟩ final ∧
          final.image.jpegImage.imgData.raster =
            (squareJpeg .samp444).raster.crop ⟨8, 0, 32, 32⟩ := by
  refine ⟨create_squareJpeg _, ?_⟩
  have typed : (squareJpeg .samp444).getSubsamp = some .samp444 :=
    Jpeg.getSubsamp_labelled _ _ _ _ _
  have delivers := regionRequest_delivers_iff .exact id Scaler.nearest ⟨8, 0, 32, 32⟩ typed
    (by decide) (by decide) (by decide) (by decide) (by decide) (by decide)
  rw [delivers]
  decide

end JpegTranImage

end IiifImage
