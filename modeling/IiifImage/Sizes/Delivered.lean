import IiifImage.Backend.Scaling
import IiifImage.Business.ParameterParser
import IiifImage.Regions.Lossless

/-!
# Delivered dimensions on the lossless backend

`scale` compares the target with the dimensions that were cached when the image was
created.  After a crop these are not the dimensions that will be delivered, so a target
with the dimensions of the whole file is taken for no scaling at all.
-/

namespace IiifImage.JpegTranImage

open Java TurboJpeg ImageService

variable {α : Type} {luma : α → α} {scaler : Scaler α} {fp : Rounding}
variable {jpeg : Jpeg α} {subsamp : Subsamp} {rect : Rect} {t : TJTransform}
variable {image : JpegTranImage (Jpeg α)} {region : Option RegionParameters}
variable {bitDepth : Option ImageBitDepth} {format : ImageFormat}

/-! ## After the scaling step -/

/-- The pending transform after the depth step. -/
def withDepth (bitDepth : Option ImageBitDepth) (t : TJTransform) : TJTransform :=
  if bitDepth = some .grayscale then t.addOption optGray else t

/-- The steps after scaling. -/
def finish (natives : Natives (Jpeg α)) (fp : Rounding) (bitDepth : Option ImageBitDepth)
    (format : ImageFormat) : Method Throwable (Objects (JpegTranImage (Jpeg α))) Unit := do
  depthStep (methods natives fp) bitDepth
  formatStep (methods natives fp) format
  onImage (performTransformation natives)

section Finish

variable {natives : Natives (Jpeg α)} {final : Objects (JpegTranImage (Jpeg α))}

theorem run_performTransformation_eq_ok_iff :
    EStateM.run (onImage (performTransformation natives)) ⟨image, region⟩ = .ok ⟨⟩ final ↔
      ∃ after, EStateM.run (JpegImage.transform natives) image.jpegImage = .ok () after ∧
        final = ⟨{ image with jpegImage := after }, region⟩ := by
  cases ran : EStateM.run (JpegImage.transform natives) image.jpegImage with
  | ok value after =>
      rw [run_performTransformation_ok image region ran]
      simp [eq_comm]
  | error exception after =>
      rw [run_performTransformation_error image region ran]
      simp

/-- Only JPEG files are written. -/
theorem run_convert_perform_eq_ok_iff :
    EStateM.run (do
        formatStep (methods natives fp) format
        onImage (performTransformation natives)) ⟨image, region⟩ = .ok ⟨⟩ final ↔
      format = .jpeg ∧
        EStateM.run (onImage (performTransformation natives)) ⟨image, region⟩ =
          .ok ⟨⟩ final := by
  by_cases same : format = .jpeg
  · rw [same, Method.run_bind_ok (run_formatStep rfl), and_iff_right rfl]
  · have formatRead : EStateM.run (onImage (methods natives fp).getFormat) ⟨image, region⟩ =
        .ok (some .jpeg) ⟨image, region⟩ := rfl
    have refused : ∃ exception, EStateM.run (formatStep (methods natives fp) format)
        ⟨image, region⟩ = .error exception ⟨image, region⟩ := by
      rw [formatStep, Method.run_bind_ok formatRead,
        if_pos fun sameFormat => same (Option.some.inj sameFormat)]
      exact ⟨_, rfl⟩
    rcases refused with ⟨exception, refused⟩
    simp only [Method.run_bind_error refused, same, reduceCtorEq, false_and]

/-- The steps after scaling return when there is no conversion to another format or to a
depth other than grayscale and the transform returns. -/
theorem run_finish_eq_ok_iff :
    EStateM.run (finish natives fp bitDepth format) ⟨image, region⟩ = .ok ⟨⟩ final ↔
      format = .jpeg ∧ (bitDepth = none ∨ bitDepth = some .grayscale) ∧ ∃ after,
        EStateM.run (JpegImage.transform natives)
          { image.jpegImage with
            transformOptions := withDepth bitDepth image.jpegImage.transformOptions } =
          .ok () after ∧
        final = ⟨{ image with jpegImage := after }, region⟩ := by
  match bitDepth with
  | none =>
      have idle : EStateM.run (depthStep (methods natives fp) none) ⟨image, region⟩ =
          .ok ⟨⟩ ⟨image, region⟩ := rfl
      rw [finish, Method.run_bind_ok idle, run_convert_perform_eq_ok_iff,
        run_performTransformation_eq_ok_iff]
      simp [withDepth]
  | some .grayscale =>
      have marked : EStateM.run (depthStep (methods natives fp) (some .grayscale))
          ⟨image, region⟩ = .ok ⟨⟩ ⟨{ image with jpegImage := { image.jpegImage with
            transformOptions := image.jpegImage.transformOptions.addOption optGray } },
            region⟩ := rfl
      rw [finish, Method.run_bind_ok marked, run_convert_perform_eq_ok_iff,
        run_performTransformation_eq_ok_iff]
      simp [withDepth]
  | some .color =>
      have refused : EStateM.run (depthStep (methods natives fp) (some .color))
          ⟨image, region⟩ = .error _ ⟨image, region⟩ := rfl
      rw [finish, Method.run_bind_error refused]
      simp
  | some .bitonal =>
      have refused : EStateM.run (depthStep (methods natives fp) (some .bitonal))
          ⟨image, region⟩ = .error _ ⟨image, region⟩ := rfl
      rw [finish, Method.run_bind_error refused]
      simp

end Finish

/-! ## The final transform -/

section Final

theorem op_withDepth : (withDepth bitDepth t).op = t.op := by
  rw [withDepth]
  split <;> rfl

theorem width_withDepth (bitDepth : Option ImageBitDepth) (t : TJTransform) :
    (withDepth bitDepth t).width = t.width := by
  rw [withDepth]
  split <;> rfl

theorem height_withDepth (bitDepth : Option ImageBitDepth) (t : TJTransform) :
    (withDepth bitDepth t).height = t.height := by
  rw [withDepth]
  split <;> rfl

theorem hasCrop_withDepth : (withDepth bitDepth t).hasCrop = t.hasCrop := by
  rw [withDepth]
  split
  · exact TJTransform.hasCrop_addOption_gray t
  · rfl

theorem hasGray_withDepth (colored : t.hasGray = false) :
    (withDepth bitDepth t).hasGray = decide (bitDepth = some .grayscale) := by
  rw [withDepth]
  split
  next gray => rw [TJTransform.hasGray_addOption_gray, decide_eq_true gray]
  next other => rw [colored, decide_eq_false other]

theorem bounds_withDepth (bounds : t.Bounds rect) : (withDepth bitDepth t).Bounds rect := by
  rw [withDepth]
  split
  · exact ⟨bounds.x, bounds.y, bounds.width, bounds.height, bounds.wide, bounds.tall,
      bounds.right, bounds.bottom⟩
  · exact bounds

theorem isEmpty_pending (wide : 0 < rect.width) (tall : 0 < rect.height) :
    (JpegImage.pending rect .none).isEmpty = false := by
  have notEmpty : ¬((rect.width : ℤ) ≤ 0 ∨ (rect.height : ℤ) ≤ 0) := by omega
  exact decide_eq_false notEmpty

theorem bounds_pending (inside : rect.Inside jpeg.raster.width jpeg.raster.height)
    (wide : 0 < rect.width) (tall : 0 < rect.height) :
    (withDepth bitDepth (JpegImage.pending rect .none)).Bounds rect :=
  bounds_withDepth ⟨rfl, rfl, rfl, rfl, wide, tall, inside.1.trans jpeg.width_le,
    inside.2.trans jpeg.height_le⟩

variable {after : JpegImage (Jpeg α)}

/-- With nothing pending but a depth the dimensions stay as they are. -/
theorem size_of_idle (typed : jpeg.getSubsamp = some subsamp)
    (ran : EStateM.run (JpegImage.transform (library luma scaler))
      (JpegImage.holding jpeg subsamp (withDepth bitDepth {})) = .ok () after) :
    after.imgData.raster.width = jpeg.raster.width ∧
      after.imgData.raster.height = jpeg.raster.height := by
  obtain ⟨_, out, outSubsamp, transformed, _, rfl⟩ :=
    (JpegImage.run_transform_eq_ok_iff typed).mp ran
  have uncropped : (withDepth bitDepth {}).hasCrop = false :=
    hasCrop_withDepth.trans (TJTransform.hasCrop_of_no_options rfl)
  have size := Jpeg.tjTransform_size_uncropped typed uncropped transformed
  rw [op_withDepth, TJOp.orientation_none, one_smul] at size
  exact size

/-- With bounds pending the dimensions are those of the bounds. -/
theorem size_of_bounds (typed : jpeg.getSubsamp = some subsamp) (wide : 0 < rect.width)
    (tall : 0 < rect.height) (inside : rect.Inside jpeg.raster.width jpeg.raster.height)
    (ran : EStateM.run (JpegImage.transform (library luma scaler))
      (JpegImage.holding jpeg subsamp (withDepth bitDepth (JpegImage.pending rect .none))) =
        .ok () after) :
    after.imgData.raster.width = rect.width ∧ after.imgData.raster.height = rect.height := by
  obtain ⟨_, out, outSubsamp, transformed, _, rfl⟩ :=
    (JpegImage.run_transform_eq_ok_iff typed).mp ran
  refine Jpeg.tjTransform_size_bounds typed ?_ (bounds_pending inside wide tall) transformed
  rw [hasCrop_withDepth, JpegImage.hasCrop_pending]

/-- Bounds on the MCU grid are carried out if the buffer is large enough and a requested
conversion to grayscale is possible. -/
theorem transform_bounds_succeeds_iff (luma : α → α) (scaler : Scaler α)
    (bitDepth : Option ImageBitDepth) (typed : jpeg.getSubsamp = some subsamp)
    (wide : 0 < rect.width) (tall : 0 < rect.height)
    (inside : rect.Inside jpeg.raster.width jpeg.raster.height)
    (columns : subsamp.mcuWidth ∣ rect.x) (rows : subsamp.mcuHeight ∣ rect.y) :
    (∃ after, EStateM.run (JpegImage.transform (library luma scaler))
        (JpegImage.holding jpeg subsamp (withDepth bitDepth (JpegImage.pending rect .none))) =
          .ok () after) ↔
      cropFits jpeg.raster.width jpeg.raster.height subsamp rect.width rect.height ∧
        (bitDepth = some .grayscale → jpeg.ConvertibleToGray) := by
  have bounds : (withDepth bitDepth (JpegImage.pending rect .none)).Bounds rect :=
    bounds_pending inside wide tall
  have fits : destinationFits (jpeg.header subsamp)
      (withDepth bitDepth (JpegImage.pending rect .none)) ↔
      cropFits jpeg.raster.width jpeg.raster.height subsamp rect.width rect.height := by
    rw [destinationFits_bounded (by rw [bounds.width]; omega) (by rw [bounds.height]; omega),
      bounds.width, bounds.height]
    rfl
  have writable : jpeg.Writable (withDepth bitDepth (JpegImage.pending rect .none)).hasGray ↔
      (bitDepth = some .grayscale → jpeg.ConvertibleToGray) := by
    rw [hasGray_withDepth (JpegImage.hasGray_pending rect .none), Jpeg.Writable, typed]
    by_cases gray : bitDepth = some .grayscale <;> simp [gray]
  simp only [JpegImage.run_transform_eq_ok_iff typed, fits, ← writable]
  rw [← Jpeg.tjTransform_bounds_succeeds_iff luma typed op_withDepth
    (hasCrop_withDepth.trans JpegImage.hasCrop_pending) bounds inside columns rows]
  constructor
  · intro returned
    rcases returned with ⟨_, enough, out, outSubsamp, transformed, outTyped, rfl⟩
    exact ⟨enough, out, outSubsamp, transformed, outTyped⟩
  · intro written
    rcases written with ⟨enough, out, outSubsamp, transformed, outTyped⟩
    exact ⟨_, enough, out, outSubsamp, transformed, outTyped, rfl⟩

end Final

/-! ## The scaling step -/

section Scaling

variable {size target : ResizeParameters} {natives : Natives (Jpeg α)}

/-- A target with the cached dimensions is taken for no scaling. -/
theorem run_scaleStep_same (unset : target.maxWidth = 0 ∧ target.maxHeight = 0)
    (same : image.width = target.width ∧ image.height = target.height) :
    EStateM.run (scaleStep (methods natives fp) (some target)) ⟨image, region⟩ =
      .ok ⟨⟩ ⟨image, region⟩ := by
  have wants : wantsScaling target = true := by simp [wantsScaling, unset]
  have idle : EStateM.run (scale natives target) image = .ok ⟨⟩ image := by
    rw [scale, Method.run_get_bind, if_pos same]
    rfl
  rw [scaleStep, if_pos wants]
  exact Method.run_on_ok idle

/-- Scaling to another target that returns leaves an image of the target's dimensions
with nothing pending. -/
theorem run_scaleStep_differs (unset : target.maxWidth = 0 ∧ target.maxHeight = 0)
    (typed : jpeg.getSubsamp = some subsamp) (pendingBounds : t = {} ∨ t.isEmpty = false)
    (differs : ¬(jpeg.raster.width = target.width ∧ jpeg.raster.height = target.height))
    {mid : Objects (JpegTranImage (Jpeg α))}
    (ran : EStateM.run (scaleStep (methods (library luma scaler) fp) (some target))
      ⟨ofJpeg jpeg subsamp t, region⟩ = .ok ⟨⟩ mid) :
    ∃ scaled scaledSubsamp, scaled.getSubsamp = some scaledSubsamp ∧
      mid = ⟨{ ofJpeg jpeg subsamp t with
        jpegImage := JpegImage.holding scaled scaledSubsamp {} }, region⟩ ∧
      (scaled.raster.width : ℤ) = target.width ∧
      (scaled.raster.height : ℤ) = target.height := by
  have wants : wantsScaling target = true := by simp [wantsScaling, unset]
  have called : EStateM.run (scale (library luma scaler) target) (ofJpeg jpeg subsamp t) =
      EStateM.run ((onJpeg (JpegImage.downScale (library luma scaler) target.width
        target.height 85)).rethrow scaleFailure) (ofJpeg jpeg subsamp t) := by
    rw [scale, Method.run_get_bind, width_ofJpeg, height_ofJpeg, if_neg differs]
  rw [scaleStep, if_pos wants] at ran
  cases scaledRun : EStateM.run (JpegImage.downScale (library luma scaler) target.width
      target.height 85) (JpegImage.holding jpeg subsamp t) with
  | ok value after =>
      obtain ⟨scaled, scaledSubsamp, scaledTyped, rfl, wide, tall⟩ :=
        JpegImage.run_downScale_eq_ok typed pendingBounds scaledRun
      have returned : EStateM.run (onImage ((methods (library luma scaler) fp).scale target))
          ⟨ofJpeg jpeg subsamp t, region⟩ = .ok ⟨⟩ ⟨{ ofJpeg jpeg subsamp t with
            jpegImage := JpegImage.holding scaled scaledSubsamp {} }, region⟩ :=
        Method.run_on_ok (called.trans (Method.run_rethrow_ok (Method.run_on_ok scaledRun)))
      rw [returned] at ran
      cases ran
      exact ⟨scaled, scaledSubsamp, scaledTyped, rfl, wide, tall⟩
  | error exception after =>
      have thrown : EStateM.run (onImage ((methods (library luma scaler) fp).scale target))
          ⟨ofJpeg jpeg subsamp t, region⟩ = .error (scaleFailure exception)
            ⟨{ ofJpeg jpeg subsamp t with jpegImage := after }, region⟩ :=
        Method.run_on_error
          (called.trans (Method.run_rethrow_error (Method.run_on_error scaledRun)))
      rw [thrown] at ran
      cases ran

/-- A request for a region and a size without rotation, after its region step and the
resolution of its size. -/
theorem run_transformImage_resolved (left : rect.x < jpeg.raster.width)
    (top : rect.y < jpeg.raster.height) (wide : 0 < rect.width) (tall : 0 < rect.height)
    (right : rect.width ≤ jpeg.raster.width) (bottom : rect.height ≤ jpeg.raster.height)
    (resolves : size.resolve fp (fp.ofInt rect.width) (fp.ofInt rect.height) = .ok target) :
    EStateM.run (transformImage fp (methods natives fp) (some size) (some ⟨0, false⟩)
        bitDepth format)
        ⟨ofJpeg jpeg subsamp {}, some (.ofRats rect.x rect.y rect.width rect.height)⟩ =
      EStateM.run (do
        scaleStep (methods natives fp) (some target)
        finish natives fp bitDepth format)
        ⟨ofJpeg jpeg subsamp (regionTransform rect jpeg.raster.width jpeg.raster.height),
          some (.ofRats rect.x rect.y rect.width rect.height)⟩ := by
  have integral : ∀ {n : ℕ}, n ≤ maxDimension → (JFloat.fin n).toInt = n := by
    intro n small
    exact JFloat.toInt_natCast (le_maxInt_of_le_maxDimension (by exact_mod_cast small))
  have resolved : EStateM.run (resolveSize fp (methods natives fp) (some size))
      ⟨ofJpeg jpeg subsamp (regionTransform rect jpeg.raster.width jpeg.raster.height),
        some (.ofRats rect.x rect.y rect.width rect.height)⟩ =
      .ok (some target)
        ⟨ofJpeg jpeg subsamp (regionTransform rect jpeg.raster.width jpeg.raster.height),
          some (.ofRats rect.x rect.y rect.width rect.height)⟩ := by
    rw [resolveSize, sourceDimensions]
    simp only [Method.run_reads_bind, bind_assoc, pure_bind, RegionParameters.ofRats,
      integral (right.trans jpeg.width_le), integral (bottom.trans jpeg.height_le), resolves]
    rfl
  rw [transformImage, Method.run_bind_ok (run_regionStep fp left top wide tall),
    Method.run_bind_ok resolved]
  rfl

end Scaling

/-! ## The law -/

section Law

variable {size target : ResizeParameters}

/-- A request for a region and a size without rotation. -/
def sizeRequest {δ : Type} (natives : Natives δ) (fp : Rounding) (size : ResizeParameters)
    (bitDepth : Option ImageBitDepth) (format : ImageFormat) :
    Method Throwable (Objects (JpegTranImage δ)) Unit :=
  transformImage fp (methods natives fp) (some size) (some ⟨0, false⟩) bitDepth format

/-- What follows the scaling step can be carried out on a part of the image. -/
def Completes (jpeg : Jpeg α) (subsamp : Subsamp) (rect : Rect)
    (bitDepth : Option ImageBitDepth) (format : ImageFormat) : Prop :=
  format = .jpeg ∧ (bitDepth = none ∨ bitDepth = some .grayscale ∧ jpeg.ConvertibleToGray) ∧
    cropFits jpeg.raster.width jpeg.raster.height subsamp rect.width rect.height

/-- Scaling to dimensions other than the cached ones never goes wrong silently. -/
theorem size_of_scaled (typed : jpeg.getSubsamp = some subsamp)
    (pendingBounds : t = {} ∨ t.isEmpty = false)
    (unset : target.maxWidth = 0 ∧ target.maxHeight = 0)
    (differs : ¬(jpeg.raster.width = target.width ∧ jpeg.raster.height = target.height))
    {final : Objects (JpegTranImage (Jpeg α))}
    (ran : EStateM.run (do
        scaleStep (methods (library luma scaler) fp) (some target)
        finish (library luma scaler) fp bitDepth format) ⟨ofJpeg jpeg subsamp t, region⟩ =
          .ok ⟨⟩ final) :
    (final.image.jpegImage.imgData.raster.width : ℤ) = target.width ∧
      (final.image.jpegImage.imgData.raster.height : ℤ) = target.height := by
  rcases Method.run_bind_eq_ok.mp ran with ⟨_, mid, scaledRun, finished⟩
  obtain ⟨scaled, scaledSubsamp, scaledTyped, rfl, wide, tall⟩ :=
    run_scaleStep_differs unset typed pendingBounds differs scaledRun
  rcases run_finish_eq_ok_iff.mp finished with ⟨_, _, after, transformed, rfl⟩
  rcases size_of_idle scaledTyped transformed with ⟨sameWidth, sameHeight⟩
  rw [← wide, ← tall]
  exact ⟨congrArg Nat.cast sameWidth, congrArg Nat.cast sameHeight⟩

/-- A target with the dimensions of the file leaves what is pending to the final
transformation. -/
theorem run_same_eq_ok_iff (unset : target.maxWidth = 0 ∧ target.maxHeight = 0)
    (same : jpeg.raster.width = target.width ∧ jpeg.raster.height = target.height)
    {final : Objects (JpegTranImage (Jpeg α))} :
    EStateM.run (do
        scaleStep (methods (library luma scaler) fp) (some target)
        finish (library luma scaler) fp bitDepth format) ⟨ofJpeg jpeg subsamp t, region⟩ =
          .ok ⟨⟩ final ↔
      format = .jpeg ∧ (bitDepth = none ∨ bitDepth = some .grayscale) ∧ ∃ after,
        EStateM.run (JpegImage.transform (library luma scaler))
          (JpegImage.holding jpeg subsamp (withDepth bitDepth t)) = .ok () after ∧
        final = ⟨{ ofJpeg jpeg subsamp t with jpegImage := after }, region⟩ := by
  rw [Method.run_bind_ok (run_scaleStep_same unset same), run_finish_eq_ok_iff]
  rfl

/-- The region is then delivered unscaled whenever the request can be carried out. -/
theorem exists_same_iff (fp : Rounding) (luma : α → α) (scaler : Scaler α)
    (bitDepth : Option ImageBitDepth) (format : ImageFormat)
    (region : Option RegionParameters) (typed : jpeg.getSubsamp = some subsamp)
    (columns : subsamp.mcuWidth ∣ rect.x) (rows : subsamp.mcuHeight ∣ rect.y)
    (inside : rect.Inside jpeg.raster.width jpeg.raster.height)
    (wide : 0 < rect.width) (tall : 0 < rect.height)
    (unset : target.maxWidth = 0 ∧ target.maxHeight = 0)
    (same : jpeg.raster.width = target.width ∧ jpeg.raster.height = target.height) :
    (∃ final, EStateM.run (do
        scaleStep (methods (library luma scaler) fp) (some target)
        finish (library luma scaler) fp bitDepth format)
        ⟨ofJpeg jpeg subsamp (JpegImage.pending rect .none), region⟩ = .ok ⟨⟩ final) ↔
      Completes jpeg subsamp rect bitDepth format := by
  have succeeds := transform_bounds_succeeds_iff luma scaler bitDepth typed wide tall inside
    columns rows
  simp only [run_same_eq_ok_iff unset same]
  constructor
  · intro returned
    rcases returned with ⟨final, isJpeg, depths, after, transformed, rfl⟩
    rcases succeeds.mp ⟨after, transformed⟩ with ⟨fits, convertible⟩
    exact ⟨isJpeg, depths.imp_right fun gray => ⟨gray, convertible gray⟩, fits⟩
  · intro completes
    rcases completes with ⟨isJpeg, depths, fits⟩
    have convertible : bitDepth = some .grayscale → jpeg.ConvertibleToGray := by
      intro gray
      rcases depths with colored | ⟨_, convertible⟩
      · rw [gray] at colored
        cases colored
      · exact convertible
    rcases succeeds.mpr ⟨fits, convertible⟩ with ⟨after, transformed⟩
    exact ⟨_, isJpeg, depths.imp_right And.left, after, transformed, rfl⟩

/-- A proper part of the image that is requested in the size of the whole image is
delivered in its own size. -/
theorem delivers_region_unscaled (fp : Rounding) (luma : α → α) (scaler : Scaler α)
    (typed : jpeg.getSubsamp = some subsamp)
    (columns : subsamp.mcuWidth ∣ rect.x) (rows : subsamp.mcuHeight ∣ rect.y)
    (inside : rect.Inside jpeg.raster.width jpeg.raster.height)
    (wide : 0 < rect.width) (tall : 0 < rect.height)
    (resolves : size.resolve fp (fp.ofInt rect.width) (fp.ofInt rect.height) = .ok target)
    (differs : jpeg.raster.width ≠ rect.width ∨ jpeg.raster.height ≠ rect.height)
    (same : jpeg.raster.width = target.width ∧ jpeg.raster.height = target.height)
    (completes : Completes jpeg subsamp rect bitDepth format) :
    ∃ final, EStateM.run (sizeRequest (library luma scaler) fp size bitDepth format)
        ⟨ofJpeg jpeg subsamp {}, some (.ofRats rect.x rect.y rect.width rect.height)⟩ =
          .ok ⟨⟩ final ∧
      final.image.jpegImage.imgData.raster.width = rect.width ∧
      final.image.jpegImage.imgData.raster.height = rect.height := by
  have unset := ResizeParameters.resolve_maxSizes resolves
  rcases inside with ⟨columnsInside, rowsInside⟩
  obtain ⟨final, ran⟩ := (exists_same_iff fp luma scaler bitDepth format
    (some (.ofRats rect.x rect.y rect.width rect.height)) typed columns rows
    ⟨columnsInside, rowsInside⟩ wide tall unset same).mpr completes
  refine ⟨final, ?_, ?_⟩
  · rw [sizeRequest, run_transformImage_resolved (by omega) (by omega) wide tall (by omega)
      (by omega) resolves, regionTransform, if_pos differs,
      Rect.clip_of_inside ⟨columnsInside, rowsInside⟩]
    exact ran
  · rcases (run_same_eq_ok_iff unset same).mp ran with ⟨_, _, after, transformed, rfl⟩
    exact size_of_bounds typed wide tall ⟨columnsInside, rowsInside⟩ transformed

/-- The request throws or delivers an image of the given dimensions. -/
def ThrowsOrDelivers (natives : Natives (Jpeg α)) (fp : Rounding) (size : ResizeParameters)
    (bitDepth : Option ImageBitDepth) (format : ImageFormat)
    (objects : Objects (JpegTranImage (Jpeg α))) (width height : ℤ) : Prop :=
  ∀ final, EStateM.run (sizeRequest natives fp size bitDepth format) objects = .ok ⟨⟩ final →
    (final.image.jpegImage.imgData.raster.width : ℤ) = width ∧
      (final.image.jpegImage.imgData.raster.height : ℤ) = height

/-- A request for a region on the MCU grid and a size without rotation throws or delivers
the resolved size exactly when it is not the case that a proper part of the image is
requested in the size of the whole image and the request can be carried out otherwise. -/
theorem delivered_size_iff (fp : Rounding) (luma : α → α) (scaler : Scaler α) (rect : Rect)
    (bitDepth : Option ImageBitDepth) (format : ImageFormat) {image : JpegTranImage (Jpeg α)}
    (created : create (library luma scaler) jpeg = .ok image)
    (columns : image.jpegImage.decomp.subsamp.mcuWidth ∣ rect.x)
    (rows : image.jpegImage.decomp.subsamp.mcuHeight ∣ rect.y)
    (inside : rect.Inside jpeg.raster.width jpeg.raster.height)
    (wide : 0 < rect.width) (tall : 0 < rect.height)
    (resolves : size.resolve fp (fp.ofInt rect.width) (fp.ofInt rect.height) = .ok target) :
    ThrowsOrDelivers (library luma scaler) fp size bitDepth format
        ⟨image, some (.ofRats rect.x rect.y rect.width rect.height)⟩ target.width
        target.height ↔
      ¬((jpeg.raster.width ≠ rect.width ∨ jpeg.raster.height ≠ rect.height) ∧
        (jpeg.raster.width = target.width ∧ jpeg.raster.height = target.height) ∧
        Completes jpeg image.jpegImage.decomp.subsamp rect bitDepth format) := by
  rcases create_library_iff.mp created with ⟨subsamp, typed, rfl⟩
  constructor
  · rintro delivers ⟨differs, same, completes⟩
    obtain ⟨final, ran, partWidth, partHeight⟩ := delivers_region_unscaled fp luma scaler typed
      columns rows inside wide tall resolves differs same completes
    rcases delivers final ran with ⟨fullWidth, fullHeight⟩
    omega
  · intro right final ran
    have unset := ResizeParameters.resolve_maxSizes resolves
    rcases inside with ⟨columnsInside, rowsInside⟩
    rw [sizeRequest, run_transformImage_resolved (by omega) (by omega) wide tall (by omega)
      (by omega) resolves, regionTransform,
      Rect.clip_of_inside ⟨columnsInside, rowsInside⟩] at ran
    by_cases same : (jpeg.raster.width : ℤ) = target.width ∧
        (jpeg.raster.height : ℤ) = target.height
    · split at ran
      next differs =>
        have completes := (exists_same_iff fp luma scaler bitDepth format _ typed columns rows
          ⟨columnsInside, rowsInside⟩ wide tall unset same).mp ⟨final, ran⟩
        exact absurd ⟨differs, same, completes⟩ right
      next whole =>
        rcases (run_same_eq_ok_iff unset same).mp ran with ⟨_, _, after, transformed, rfl⟩
        rcases size_of_idle typed transformed with ⟨sameWidth, sameHeight⟩
        dsimp only
        omega
    · refine size_of_scaled typed ?_ unset same ran
      split
      · exact .inr (isEmpty_pending wide tall)
      · exact .inl rfl

/-- A request that gives both dimensions resolves to them. -/
theorem resolve_both (width height : ℤ) (wide : 0 < width) (tall : 0 < height)
    (widthLe : width ≤ maxInt) (heightLe : height ≤ maxInt)
    (currentWidth currentHeight : JFloat) :
    ResizeParameters.resolve .exact { width := width, height := height } currentWidth
      currentHeight = .ok { width := width, height := height } := by
  have given : ¬(width = 0) ∧ ¬(height = 0) := by omega
  rw [ResizeParameters.resolve_eq_ok_iff]
  refine ⟨.fin width, .fin height, ?_, ?_⟩
  · simp [ResizeParameters.calculated, wide, tall, given]
  · rw [JFloat.ceilToInt_intCast (minInt_le_of_nonneg wide.le) widthLe,
      JFloat.ceilToInt_intCast (minInt_le_of_nonneg tall.le) heightLe]

/-- A percentage resolves to that part of the dimensions, rounded up. -/
theorem resolve_percentage {percentage : ℤ} (positive : 0 < percentage) (width height : ℚ) :
    ResizeParameters.resolve .exact { scaleFactor := percentage } (.fin width) (.fin height) =
      .ok {
        width := saturate ⌈(percentage / 100 * width : ℚ)⌉
        height := saturate ⌈(percentage / 100 * height : ℚ)⌉
        scaleFactor := percentage } := by
  rw [ResizeParameters.resolve_eq_ok_iff]
  refine ⟨.fin (percentage / 100 * width), .fin (percentage / 100 * height), ?_, rfl⟩
  simp [ResizeParameters.calculated, positive, Rounding.div_fin]

/-- A quarter of the image is scaled down to a smaller size. -/
theorem delivered_size_smaller :
    ThrowsOrDelivers (library id Scaler.nearest) .exact { width := 8, height := 8 } none .jpeg
      ⟨ofJpeg (squareJpeg .samp444) .samp444 {},
        some (.ofRats (0 : ℕ) (0 : ℕ) (16 : ℕ) (16 : ℕ))⟩ 8 8 :=
  (delivered_size_iff .exact id Scaler.nearest ⟨0, 0, 16, 16⟩ none .jpeg
    (create_squareJpeg .samp444) (by decide) (by decide) (by decide) (by decide) (by decide)
    (resolve_both 8 8 (by decide) (by decide) (by decide) (by decide) _ _)).mpr
    (fun wrong => absurd wrong.2.1.1 (by decide))

/-- A quarter of the image, requested in the size `32,32` of the whole image, is delivered
in its own size. -/
theorem delivered_size_unscaled :
    ParameterParser.parseIiifSize ['3', '2', ',', '3', '2'] =
        .ok (some { width := 32, height := 32 }) ∧
      create (library id Scaler.nearest) (squareJpeg .samp444) =
        .ok (ofJpeg (squareJpeg .samp444) .samp444 {}) ∧
      ∃ final, EStateM.run (sizeRequest (library id Scaler.nearest) .exact
          { width := 32, height := 32 } none .jpeg)
          ⟨ofJpeg (squareJpeg .samp444) .samp444 {},
            some (.ofRats (0 : ℕ) (0 : ℕ) (16 : ℕ) (16 : ℕ))⟩ = .ok ⟨⟩ final ∧
        final.image.jpegImage.imgData.raster.width = 16 ∧
        final.image.jpegImage.imgData.raster.height = 16 := by
  have typed : (squareJpeg .samp444).getSubsamp = some .samp444 :=
    Jpeg.getSubsamp_labelled _ _ _ _ _
  have inside : (⟨0, 0, 16, 16⟩ : Rect).Inside (squareJpeg .samp444).raster.width
      (squareJpeg .samp444).raster.height := by decide
  have delivered := delivers_region_unscaled .exact id Scaler.nearest typed (by decide)
    (by decide) inside (by decide) (by decide)
    (resolve_both 32 32 (by decide) (by decide) (by decide) (by decide) _ _)
    (by decide) ⟨rfl, rfl⟩ ⟨rfl, .inl rfl, by decide⟩
  exact ⟨by decide, create_squareJpeg _, delivered⟩

end Law

end IiifImage.JpegTranImage
