import IiifImage.Business.Sizing
import IiifImage.Crops.ImageIo
import IiifImage.Crops.Lossless
import IiifImage.Regions.ImageIo
import IiifImage.Sizes.Delivered

/-!
# Sizes and extracted regions

The crop step extracts the dimensions of the region rounded up and clipped to the
image.  The sizing step takes the dimensions of the region rounded down and not clipped.
A size request is resolved against the extracted dimensions when the two agree.
-/

namespace IiifImage

open Java TurboJpeg

namespace RegionParameters

variable {fp : Rounding} {region after : RegionParameters} {width height : ℤ}

/-- The region after `makeAbsolute`, if it was relative. -/
def absoluteOf (fp : Rounding) (width height : ℤ) (region : RegionParameters) :
    RegionParameters :=
  if region.absolute then region
  else { clampedTo fp width height (scaledTo fp width height region) with absolute := true }

theorem absolute_absoluteOf : (absoluteOf fp width height region).absolute = true := by
  rw [absoluteOf]
  split
  · assumption
  · rfl

/-- The offsets that `makeAbsolute` refuses. -/
def Outlies (fp : Rounding) (width height : ℤ) (region : RegionParameters) : Prop :=
  ((fp.mul region.horizontalOffset (fp.ofInt width)).gt (fp.ofInt width) ||
    (fp.mul region.verticalOffset (fp.ofInt height)).gt (fp.ofInt height)) = true

theorem run_makeAbsolute_of_outlies (outlies : region.Outlies fp width height) :
    ∃ message, EStateM.run (makeAbsolute fp width height) region =
      .error (.invalidParameters message)
        (clampedTo fp width height (scaledTo fp width height region)) := by
  simp only [makeAbsolute, Method.run_modify_bind, Method.run_get_bind]
  split
  · exact ⟨_, rfl⟩
  next inlies => exact absurd outlies inlies

theorem run_makeAbsolute_of_not_outlies (relative : region.absolute = false)
    (inlies : ¬region.Outlies fp width height) :
    EStateM.run (makeAbsolute fp width height) region =
      .ok ⟨⟩ (region.absoluteOf fp width height) := by
  rw [absoluteOf, relative]
  simp only [makeAbsolute, Method.run_modify_bind, Method.run_get_bind]
  split
  next outlies => exact absurd outlies inlies
  · rfl

end RegionParameters

namespace ImageService

variable {σ : Type} {fp : Rounding} {image : ImageMethods σ} {created : σ}
variable {width height : ℤ} {region : RegionParameters} {mid : Objects σ}

/-! ## The region step -/

theorem run_absoluteStep_relative (reports : Reports image created width height)
    (relative : region.absolute = false) :
    EStateM.run (absoluteStep fp image) ⟨created, some region⟩ =
      EStateM.run (onRegion region (RegionParameters.makeAbsolute fp width height))
        ⟨created, some region⟩ := by
  rw [absoluteStep, Method.run_reads_bind]
  simp only [relative, Bool.false_eq_true, if_false,
    Method.run_bind_ok (reports.onImage_getWidth _),
    Method.run_bind_ok (reports.onImage_getHeight _)]

/-- A relative region that starts outside the image is rejected. -/
theorem run_absoluteStep_of_outlies (reports : Reports image created width height)
    (relative : region.absolute = false) (outlies : region.Outlies fp width height) :
    ∃ message final, EStateM.run (absoluteStep fp image) ⟨created, some region⟩ =
      .error (.invalidParameters message) final := by
  rcases RegionParameters.run_makeAbsolute_of_outlies outlies with ⟨message, thrown⟩
  exact ⟨message, _, (run_absoluteStep_relative reports relative).trans
    (Method.run_on_error thrown)⟩

/-- Any other region is absolute afterwards. -/
theorem run_absoluteStep_of_accepted (reports : Reports image created width height)
    (accepted : ¬(region.absolute = false ∧ region.Outlies fp width height)) :
    EStateM.run (absoluteStep fp image) ⟨created, some region⟩ =
      .ok ⟨⟩ ⟨created, some (region.absoluteOf fp width height)⟩ := by
  cases relative : region.absolute with
  | true =>
      rw [absoluteStep, Method.run_reads_bind, RegionParameters.absoluteOf, if_pos relative]
      simp only [relative, if_true]
      rfl
  | false =>
      have inlies : ¬region.Outlies fp width height := fun outlies =>
        accepted ⟨relative, outlies⟩
      rw [run_absoluteStep_relative reports relative]
      exact Method.run_on_ok (RegionParameters.run_makeAbsolute_of_not_outlies relative inlies)

/-- A region step that returns leaves an absolute region and has cropped to it, unless the
image has its dimensions. -/
theorem run_regionStep_eq_ok (reports : Reports image created width height)
    (ran : EStateM.run (regionStep fp image) ⟨created, some region⟩ = .ok ⟨⟩ mid) :
    mid.region = some (region.absoluteOf fp width height) ∧
      (((fp.ofInt width).ne (region.absoluteOf fp width height).width ||
          (fp.ofInt height).ne (region.absoluteOf fp width height).height) = true ∧
        EStateM.run (image.crop (region.absoluteOf fp width height)) created =
          .ok ⟨⟩ mid.image ∨
      ((fp.ofInt width).ne (region.absoluteOf fp width height).width ||
          (fp.ofInt height).ne (region.absoluteOf fp width height).height) = false ∧
        mid.image = created) := by
  rw [regionStep, Method.run_bind_eq_ok] at ran
  rcases ran with ⟨_, absoluteMid, absoluteRan, cropRan⟩
  have absoluteState : absoluteMid = ⟨created, some (region.absoluteOf fp width height)⟩ := by
    by_cases refused : region.absolute = false ∧ region.Outlies fp width height
    · obtain ⟨message, final, thrown⟩ :=
        run_absoluteStep_of_outlies reports refused.1 refused.2
      rw [thrown] at absoluteRan
      cases absoluteRan
    · rw [run_absoluteStep_of_accepted reports refused] at absoluteRan
      cases absoluteRan
      rfl
  subst absoluteState
  rw [run_cropStep reports] at cropRan
  split at cropRan
  next differs =>
    rw [onImage, Method.run_on] at cropRan
    cases cropped : EStateM.run (image.crop (region.absoluteOf fp width height)) created with
    | ok value after =>
        rw [cropped] at cropRan
        cases cropRan
        exact ⟨rfl, .inl ⟨differs, rfl⟩⟩
    | error exception after =>
        rw [cropped] at cropRan
        cases cropRan
  next same =>
    cases cropRan
    exact ⟨rfl, .inr ⟨Bool.eq_false_iff.mpr same, rfl⟩⟩

/-! ## The sizing step -/

/-- The sizes passed to `scale` for a request that is resolved against given
dimensions. -/
def resolvedCalls (fp : Rounding) (size : ResizeParameters) (width height : ℤ) :
    List ResizeParameters :=
  match size.resolve fp (fp.ofInt width) (fp.ofInt height) with
  | .ok resolved => [resolved]
  | .error _ => []

/-- The sizing step resolves against the truncated dimensions of the region. -/
theorem scaleCalls_of_region {absolute : RegionParameters} (size : ResizeParameters)
    (rotation : Option RotationParameters) (bitDepth : Option ImageBitDepth)
    (format : ImageFormat)
    (ran : EStateM.run (regionStep fp image) ⟨created, some region⟩ = .ok ⟨⟩ mid)
    (kept : mid.region = some absolute) :
    scaleCalls fp image (some size) rotation bitDepth format ⟨created, some region⟩ =
      resolvedCalls fp size absolute.width.toInt absolute.height.toInt := by
  have dimensions : EStateM.run (sourceDimensions image) mid =
      .ok (absolute.width.toInt, absolute.height.toInt) mid := by
    rw [sourceDimensions, Method.run_reads_bind, kept]
    rfl
  cases resolution : size.resolve fp (fp.ofInt absolute.width.toInt)
      (fp.ofInt absolute.height.toInt) with
  | error exception =>
      have refused : EStateM.run (resolveSize fp image (some size)) mid =
          .error exception mid := by
        rw [resolveSize, Method.run_bind_ok dimensions]
        simp only [resolution, Method.run_ofExcept_error_bind]
      rw [scaleCalls_of_resolve_error ran refused, resolvedCalls, resolution]
  | ok resolved =>
      have returned : EStateM.run (resolveSize fp image (some size)) mid =
          .ok (some resolved) mid := by
        rw [resolveSize, Method.run_bind_ok dimensions]
        simp only [resolution, Method.run_ofExcept_ok_bind]
        rfl
      have wants : wantsScaling resolved = true := by
        simp [wantsScaling, ResizeParameters.resolve_maxSizes resolution]
      rw [scaleCalls_of_resolved ran returned wants, resolvedCalls, resolution]

/-- The request `pct:100` resolves to the dimensions that it is resolved against. -/
theorem resolvedCalls_full (lowWidth : minInt ≤ width) (highWidth : width ≤ maxInt)
    (lowHeight : minInt ≤ height) (highHeight : height ≤ maxInt) :
    resolvedCalls .exact { scaleFactor := 100 } width height =
      [{ width := width, height := height, scaleFactor := 100 }] := by
  have whole : ∀ n : ℤ, ⌈((100 : ℤ) / 100 * (n : ℚ) : ℚ)⌉ = n := by
    intro n
    norm_num
  rw [resolvedCalls, Rounding.exact_ofInt, Rounding.exact_ofInt,
    JpegTranImage.resolve_percentage (by decide), whole, whole,
    saturate_of_range lowWidth highWidth, saturate_of_range lowHeight highHeight]

/-- Requests resolve alike exactly when they are resolved against the same dimensions. -/
theorem resolvedCalls_eq_iff {width' height' : ℤ}
    (widthRange : minInt ≤ width ∧ width ≤ maxInt)
    (heightRange : minInt ≤ height ∧ height ≤ maxInt)
    (widthRange' : minInt ≤ width' ∧ width' ≤ maxInt)
    (heightRange' : minInt ≤ height' ∧ height' ≤ maxInt) :
    (∀ size, resolvedCalls .exact size width height =
        resolvedCalls .exact size width' height') ↔ (width, height) = (width', height') := by
  constructor
  · intro alike
    have full := alike { scaleFactor := 100 }
    rw [resolvedCalls_full widthRange.1 widthRange.2 heightRange.1 heightRange.2,
      resolvedCalls_full widthRange'.1 widthRange'.2 heightRange'.1 heightRange'.2] at full
    cases full
    rfl
  · intro same size
    cases same
    rfl

/-! ## Backends -/

/-- An image of given dimensions in the range of `int`, with its extent after cropping
and the absolute regions whose truncated dimensions are the extent that they leave. -/
structure Extracts (image : ImageMethods σ) (created : σ) (width height : ℤ)
    (extent : σ → ℤ × ℤ) (agrees : RegionParameters → Prop) : Prop where
  reports : Reports image created width height
  widthRange : 1 ≤ width ∧ width ≤ maxInt
  heightRange : 1 ≤ height ∧ height ≤ maxInt
  whole : extent created = (width, height)
  range : ∀ region final, region.absolute = true →
    EStateM.run (image.crop region) created = .ok ⟨⟩ final →
      (1 ≤ (extent final).1 ∧ (extent final).1 ≤ maxInt) ∧
        (1 ≤ (extent final).2 ∧ (extent final).2 ≤ maxInt)
  cropped : ∀ region final, region.absolute = true →
    EStateM.run (image.crop region) created = .ok ⟨⟩ final →
      ((region.width.toInt, region.height.toInt) = extent final ↔ agrees region)

/-- The region has the dimensions of the image. -/
def SameSize (region : RegionParameters) (width height : ℤ) : Prop :=
  region.width = .fin width ∧ region.height = .fin height

/-- Every request for the region and a size is resolved against the given dimensions. -/
def ResolvedAgainst (image : ImageMethods σ) (created : σ) (region : RegionParameters)
    (dimensions : ℤ × ℤ) : Prop :=
  ∀ size rotation bitDepth format,
    scaleCalls .exact image (some size) rotation bitDepth format ⟨created, some region⟩ =
      resolvedCalls .exact size dimensions.1 dimensions.2

/-- Every size is resolved against the extent that the region step leaves exactly when
the region has the dimensions of the image or truncating its own gives that extent. -/
theorem Extracts.resolved_iff {extent : σ → ℤ × ℤ} {agrees : RegionParameters → Prop}
    (extracts : Extracts image created width height extent agrees)
    (ran : EStateM.run (regionStep .exact image) ⟨created, some region⟩ = .ok ⟨⟩ mid) :
    ResolvedAgainst image created region (extent mid.image) ↔
      SameSize (region.absoluteOf .exact width height) width height ∨
        agrees (region.absoluteOf .exact width height) := by
  rcases run_regionStep_eq_ok extracts.reports ran with ⟨kept, outcome⟩
  obtain ⟨reports, ⟨widthPos, widthLe⟩, ⟨heightPos, heightLe⟩, whole, range, cropped⟩ :=
    extracts
  have positive : ∀ {n : ℤ}, 1 ≤ n → n ≤ maxInt → minInt ≤ n ∧ n ≤ maxInt := by
    intro n low high
    exact ⟨minInt_le_of_nonneg (by omega), high⟩
  have resolved : ResolvedAgainst image created region (extent mid.image) ↔
      ∀ size, resolvedCalls .exact size (region.absoluteOf .exact width height).width.toInt
          (region.absoluteOf .exact width height).height.toInt =
        resolvedCalls .exact size (extent mid.image).1 (extent mid.image).2 := by
    simp only [ResolvedAgainst, scaleCalls_of_region _ _ _ _ ran kept]
    exact ⟨fun alike size => alike size none none .jpeg, fun alike size _ _ _ => alike size⟩
  rw [resolved]
  rcases outcome with ⟨differs, cropRan⟩ | ⟨same, untouched⟩
  · obtain ⟨extentWidth, extentHeight⟩ :=
      range _ _ RegionParameters.absolute_absoluteOf cropRan
    rw [resolvedCalls_eq_iff (JFloat.toInt_range _) (JFloat.toInt_range _)
      (positive extentWidth.1 extentWidth.2) (positive extentHeight.1 extentHeight.2),
      or_iff_right]
    · exact cropped _ _ RegionParameters.absolute_absoluteOf cropRan
    · intro sameSize
      rcases sameSize with ⟨sameWidth, sameHeight⟩
      rw [sameWidth, sameHeight] at differs
      simp at differs
  · simp only [Bool.or_eq_false_iff, JFloat.ne, Bool.not_eq_false', Rounding.exact_ofInt]
      at same
    have sameWidth := JFloat.eq_of_eq same.1
    have sameHeight := JFloat.eq_of_eq same.2
    rw [untouched, whole, resolvedCalls_eq_iff (JFloat.toInt_range _) (JFloat.toInt_range _)
      (positive widthPos widthLe) (positive heightPos heightLe), ← sameWidth, ← sameHeight]
    refine iff_of_true ?_ (.inl ⟨sameWidth.symm, sameHeight.symm⟩)
    rw [JFloat.toInt_intCast (positive widthPos widthLe).1 widthLe,
      JFloat.toInt_intCast (positive heightPos heightLe).1 heightLe]

/-- On one axis, an extent that is rounded up, and clipped to the image from its rounded
offset on, is the truncated extent: it is integral and inside the image, or its truncation
ends at the edge. -/
def TruncatesToClipped (size : ℤ) (offset extent : JFloat) : Prop :=
  (extent.toInt = extent.ceilToInt ∧ offset.ceilToInt + extent.ceilToInt ≤ size) ∨
    offset.ceilToInt + extent.toInt = size

end ImageService

/-! ## The lossless backend -/

namespace JpegTranImage

open ImageService

variable {α : Type} {luma : α → α} {scaler : Scaler α} {jpeg : Jpeg α} {subsamp : Subsamp}

/-- The dimensions of the image after what is pending has been carried out. -/
def extent {δ : Type} (image : JpegTranImage δ) : ℤ × ℤ :=
  if image.jpegImage.transformOptions.isEmpty then
    (image.jpegImage.getWidth, image.jpegImage.getHeight)
  else (image.jpegImage.transformOptions.width, image.jpegImage.transformOptions.height)

theorem extent_pending {rect : Rect} (wide : 0 < rect.width) (tall : 0 < rect.height) :
    extent (ofJpeg jpeg subsamp (JpegImage.pending rect .none)) =
      (↑rect.width, ↑rect.height) := by
  have bounded : (ofJpeg jpeg subsamp
      (JpegImage.pending rect .none)).jpegImage.transformOptions.isEmpty = false :=
    isEmpty_pending wide tall
  rw [extent, bounded]
  rfl

/-- A crop to an absolute region that returns makes its dimensions, rounded up and
clipped, pending. -/
theorem run_crop_eq_ok {fp : Rounding} {region : RegionParameters}
    {final : JpegTranImage (Jpeg α)} (absolute : region.absolute = true)
    (ran : EStateM.run (crop fp region) (ofJpeg jpeg subsamp {}) = .ok ⟨⟩ final) :
    ∃ rect : Rect, rect.Inside jpeg.raster.width jpeg.raster.height ∧
      (0 < rect.width ∧ 0 < rect.height) ∧
      final = ofJpeg jpeg subsamp (JpegImage.pending rect .none) ∧
      (rect.width : ℤ) = min region.width.ceilToInt
        (jpeg.raster.width - region.horizontalOffset.ceilToInt) ∧
      (rect.height : ℤ) = min region.height.ceilToInt
        (jpeg.raster.height - region.verticalOffset.ceilToInt) := by
  have cached : (ofJpeg jpeg subsamp {}).Cached := ⟨rfl, rfl⟩
  have selects : region.Selects jpeg.raster.width jpeg.raster.height := by
    by_contra misses
    rcases run_crop_of_not_selects fp cached absolute misses with ⟨message, refused⟩
    rw [refused] at ran
    cases ran
  rw [run_crop_of_selects fp cached absolute selects] at ran
  cases ran
  rcases selects.exists_rect absolute fp with ⟨rect, bounds, ⟨left, top⟩, wide, tall⟩
  rcases RegionParameters.ceilToInt_of_bounds absolute bounds with
    ⟨⟨sameX, sameY⟩, sameWide, sameTall⟩
  obtain ⟨inside, partWide, partTall⟩ := Rect.clip_inside left top wide tall
  refine ⟨rect.clip jpeg.raster.width jpeg.raster.height, inside, ⟨partWide, partTall⟩,
    cropped_eq_pending rfl absolute rfl rfl bounds left top, ?_, ?_⟩
  · rw [sameX, sameWide, Rect.clip]
    dsimp only
    omega
  · rw [sameY, sameTall, Rect.clip]
    dsimp only
    omega

/-- The regions that the two steps take alike on the lossless backend. -/
def Agrees (width height : ℤ) (region : RegionParameters) : Prop :=
  TruncatesToClipped width region.horizontalOffset region.width ∧
    TruncatesToClipped height region.verticalOffset region.height

/-- Truncation and the clamped ceiling. -/
theorem truncated_eq_min_iff {truncated extent offset size : ℤ} (below : truncated ≤ extent) :
    truncated = min extent (size - offset) ↔
      (truncated = extent ∧ offset + extent ≤ size) ∨ offset + truncated = size := by
  omega

theorem extracts {fp : Rounding} :
    Extracts (methods (library luma scaler) fp) (ofJpeg jpeg subsamp {}) jpeg.raster.width
      jpeg.raster.height extent (Agrees jpeg.raster.width jpeg.raster.height) where
  reports := reports _ _
  widthRange := ⟨by exact_mod_cast jpeg.width_pos, jpeg.width_le_maxInt⟩
  heightRange := ⟨by exact_mod_cast jpeg.height_pos, jpeg.height_le_maxInt⟩
  whole := rfl
  range region final absolute ran := by
    rcases run_crop_eq_ok absolute ran with ⟨rect, ⟨right, bottom⟩, ⟨wide, tall⟩, rfl, -, -⟩
    have columns := jpeg.width_le_maxInt
    have rows := jpeg.height_le_maxInt
    rw [extent_pending wide tall]
    dsimp only
    omega
  cropped region final absolute ran := by
    obtain ⟨rect, -, ⟨wide, tall⟩, rfl, sameWidth, sameHeight⟩ :=
      run_crop_eq_ok absolute ran
    rw [extent_pending wide tall, sameWidth, sameHeight, Prod.mk.injEq,
      truncated_eq_min_iff (JFloat.toInt_le_ceilToInt _),
      truncated_eq_min_iff (JFloat.toInt_le_ceilToInt _)]
    rfl

end JpegTranImage

/-! ## The ImageIO backend -/

namespace JAIImage

open ImageService

variable {δ α : Type} {io : ImageIo δ α} {self : JAIImage α} {source : BufferedImage α}

/-- The dimensions of the image. -/
def extent (self : JAIImage α) : ℤ × ℤ :=
  match self.image with
  | some image => (image.raster.width, image.raster.height)
  | none => (0, 0)

theorem extent_of_present (present : self.image = some source) :
    extent self = (↑source.raster.width, ↑source.raster.height) := by
  rw [extent, present]

/-- The extent after a crop that returns is the clamped one.  It starts inside the image, and
either ends inside it or is that of the whole image. -/
theorem extent_cropped {fp : Rounding} {region : RegionParameters} {final : JAIImage α}
    (present : self.image = some source) (absolute : region.absolute = true)
    (ran : EStateM.run (crop fp region) self = .ok ⟨⟩ final) :
    extent final = region.clamped source.raster.width source.raster.height ∧
      (region.horizontalOffset.ceilToInt < source.raster.width ∧
        region.verticalOffset.ceilToInt < source.raster.height) ∧
      (1 ≤ (extent final).1 ∧ 1 ≤ (extent final).2) ∧
      region.TargetFits source.raster.width source.raster.height := by
  rcases run_crop_eq_ok present absolute ran with ⟨⟨starts, fits⟩, part, rfl, size⟩
  have widthPos := part.width_pos
  have heightPos := part.height_pos
  rw [RegionParameters.StartsOutside] at starts
  rw [extent_of_present rfl]
  exact ⟨size, by omega, by dsimp only; omega, fits⟩

/-- As on the lossless backend, if the end of the region is in the range of `int`.  If it
is not, `crop` does not clip, and accepts an extent of the whole image only. -/
def TruncatesToClamped (size : ℤ) (offset extent : JFloat) : Prop :=
  if offset.ceilToInt + extent.ceilToInt ≤ maxInt then
    ImageService.TruncatesToClipped size offset extent
  else extent.toInt = extent.ceilToInt

/-- The regions that the two steps take alike on the ImageIO backend. -/
def Agrees (width height : ℤ) (region : RegionParameters) : Prop :=
  TruncatesToClamped width region.horizontalOffset region.width ∧
    TruncatesToClamped height region.verticalOffset region.height

/-- Truncation and the clamp, on an axis where the clamped extent was accepted. -/
theorem truncated_eq_clampExtent_iff {size : ℕ} {offset extent : JFloat}
    (small : (size : ℤ) ≤ maxInt) (starts : offset.ceilToInt < size)
    (accepted : clampExtent size offset.ceilToInt extent.ceilToInt = size ∨
      0 ≤ offset.ceilToInt ∧
        1 ≤ clampExtent size offset.ceilToInt extent.ceilToInt ∧
        offset.ceilToInt + clampExtent size offset.ceilToInt extent.ceilToInt ≤ size) :
    extent.toInt = clampExtent size offset.ceilToInt extent.ceilToInt ↔
      TruncatesToClamped size offset extent := by
  have below := extent.toInt_le_ceilToInt
  have offsetRange := offset.ceilToInt_range
  have extentRange := extent.ceilToInt_range
  rw [TruncatesToClamped, ImageService.TruncatesToClipped]
  unfold minInt maxInt at *
  by_cases exceeds : wrap (offset.ceilToInt + extent.ceilToInt) > size
  · have clamped : clampExtent size offset.ceilToInt extent.ceilToInt =
        wrap (size - offset.ceilToInt) := if_pos exceeds
    rw [clamped] at accepted ⊢
    rw [wrap] at *
    split <;> omega
  · have clamped : clampExtent size offset.ceilToInt extent.ceilToInt =
        extent.ceilToInt := if_neg exceeds
    rw [clamped] at accepted ⊢
    rw [wrap] at *
    split <;> omega

theorem extracts {fp : Rounding} (present : self.image = some source)
    (columns : (source.raster.width : ℤ) ≤ maxInt)
    (rows : (source.raster.height : ℤ) ≤ maxInt) :
    Extracts (methods io fp) self source.raster.width source.raster.height extent
      (Agrees source.raster.width source.raster.height) where
  reports := reports_of_present present
  widthRange := ⟨by exact_mod_cast source.width_pos, columns⟩
  heightRange := ⟨by exact_mod_cast source.height_pos, rows⟩
  whole := extent_of_present present
  range region final absolute ran := by
    rcases extent_cropped present absolute ran with ⟨clamped, -, ⟨wide, tall⟩, whole | inside⟩
    · rw [clamped, whole] at wide tall ⊢
      exact ⟨⟨wide, columns⟩, tall, rows⟩
    · rw [← clamped] at inside
      omega
  cropped region final absolute ran := by
    rcases extent_cropped present absolute ran with
      ⟨clamped, ⟨starts, startsBelow⟩, ⟨wide, tall⟩, accepted⟩
    rw [clamped] at wide tall ⊢
    simp only [RegionParameters.TargetFits, RegionParameters.clamped, Prod.mk.injEq]
      at wide tall accepted ⊢
    rw [truncated_eq_clampExtent_iff columns starts (by omega),
      truncated_eq_clampExtent_iff rows startsBelow (by omega)]
    rfl

end JAIImage

/-! ## The law -/

namespace ImageService

open JpegTranImage (ofJpeg squareJpeg create_squareJpeg)

/-- After a region step that returns, every size is resolved against the extracted
dimensions exactly when the absolute region has the dimensions of the image, or when on
both axes truncating its extent gives what is left of it inside the image. -/
theorem sizes_resolved_iff (region : RegionParameters) :
    (∀ {δ α : Type} (io : ImageIo δ α) {self : JAIImage α} {source : BufferedImage α}
        {mid : Objects (JAIImage α)},
      self.image = some source →
      (source.raster.width : ℤ) ≤ maxInt → (source.raster.height : ℤ) ≤ maxInt →
      EStateM.run (regionStep .exact (JAIImage.methods io .exact)) ⟨self, some region⟩ =
        .ok ⟨⟩ mid →
      let absolute := region.absoluteOf .exact source.raster.width source.raster.height
      (ResolvedAgainst (JAIImage.methods io .exact) self region mid.image.extent ↔
        SameSize absolute source.raster.width source.raster.height ∨
          JAIImage.Agrees source.raster.width source.raster.height absolute)) ∧
    ∀ {α : Type} (luma : α → α) (scaler : Scaler α) {jpeg : Jpeg α}
        {self : JpegTranImage (Jpeg α)} {mid : Objects (JpegTranImage (Jpeg α))},
      JpegTranImage.create (library luma scaler) jpeg = .ok self →
      EStateM.run (regionStep .exact (JpegTranImage.methods (library luma scaler) .exact))
        ⟨self, some region⟩ = .ok ⟨⟩ mid →
      let absolute := region.absoluteOf .exact jpeg.raster.width jpeg.raster.height
      (ResolvedAgainst (JpegTranImage.methods (library luma scaler) .exact) self region
          mid.image.extent ↔
        SameSize absolute jpeg.raster.width jpeg.raster.height ∨
          JpegTranImage.Agrees jpeg.raster.width jpeg.raster.height absolute) := by
  constructor
  · intro δ α io self source mid present columns rows ran
    exact (JAIImage.extracts present columns rows).resolved_iff ran
  · intro α luma scaler jpeg self mid created ran
    rcases JpegTranImage.create_library_iff.mp created with ⟨subsamp, _, rfl⟩
    exact JpegTranImage.extracts.resolved_iff ran

/-- The region step on the file of 32 by 32 pixels. -/
theorem run_regionStep_squareJpeg (rect : Rect) (left : rect.x < 32) (top : rect.y < 32)
    (wide : 0 < rect.width) (tall : 0 < rect.height)
    (differs : 32 ≠ rect.width ∨ 32 ≠ rect.height) :
    EStateM.run (regionStep .exact
        (JpegTranImage.methods (library id Scaler.nearest) .exact))
        ⟨ofJpeg (squareJpeg .samp444) .samp444 {},
          some (.ofRats rect.x rect.y rect.width rect.height)⟩ =
      .ok ⟨⟩ ⟨ofJpeg (squareJpeg .samp444) .samp444
          (JpegImage.pending (rect.clip 32 32) .none),
        some (.ofRats rect.x rect.y rect.width rect.height)⟩ := by
  have cropped : JpegTranImage.regionTransform rect 32 32 =
      JpegImage.pending (rect.clip 32 32) .none := by
    rw [JpegTranImage.regionTransform, if_pos differs]
  rw [← cropped]
  exact JpegTranImage.run_regionStep .exact left top wide tall

theorem truncatesToClipped_natCast (size offset extent : ℕ) (inside : offset + extent ≤ size)
    (small : (size : ℤ) ≤ maxInt) :
    TruncatesToClipped size (.fin (offset : ℕ)) (.fin (extent : ℕ)) := by
  rw [TruncatesToClipped, JFloat.ceilToInt_natCast (by omega), JFloat.ceilToInt_natCast (by omega),
    JFloat.toInt_natCast (by omega)]
  exact .inl ⟨rfl, by omega⟩

/-- Sizes are resolved against the extracted dimensions for regions inside the image. -/
theorem sizes_resolved_inside :
    (∃ mid, EStateM.run (regionStep .exact
          (JAIImage.methods (JAIImage.readingIo JAIImage.smallSource) .exact))
          ⟨smallImage, some (.ofRect .exact ⟨2, 3, 4, 5⟩)⟩ =
            .ok ⟨⟩ mid ∧
        ResolvedAgainst (JAIImage.methods (JAIImage.readingIo JAIImage.smallSource) .exact)
          smallImage (.ofRect .exact ⟨2, 3, 4, 5⟩)
          mid.image.extent) ∧
      ResolvedAgainst (JpegTranImage.methods (library id Scaler.nearest) .exact)
        (ofJpeg (squareJpeg .samp444) .samp444 {})
        (.ofRats (8 : ℕ) (0 : ℕ) (16 : ℕ) (16 : ℕ)) (16, 16) := by
  constructor
  · have representable : Rect.Representable ⟨2, 3, 4, 5⟩ :=
      ⟨by decide, by decide, by decide, by decide⟩
    obtain ⟨-, -, part, ran, -⟩ | ⟨outside, -⟩ := JAIImage.run_regionStep_differs
      (JAIImage.readingIo JAIImage.smallSource) .exact smallImage rfl representable
      (by decide) (by decide) (by decide) (by decide) (by decide)
    · refine ⟨_, ran, ((sizes_resolved_iff _).1 (JAIImage.readingIo JAIImage.smallSource) rfl
        (by decide) (by decide) ran).mpr (.inr ⟨?_, ?_⟩)⟩
      · exact (if_pos (by decide)).mpr (truncatesToClipped_natCast 10 2 4 (by decide) (by decide))
      · exact (if_pos (by decide)).mpr (truncatesToClipped_natCast 10 3 5 (by decide) (by decide))
    · exact absurd outside (by decide)
  · exact ((sizes_resolved_iff _).2 id Scaler.nearest (create_squareJpeg .samp444)
      (run_regionStep_squareJpeg ⟨8, 0, 16, 16⟩ (by decide) (by decide) (by decide)
        (by decide) (by decide))).mpr
      (.inr ⟨truncatesToClipped_natCast 32 8 16 (by decide) (by decide),
        truncatesToClipped_natCast 32 0 16 (by decide) (by decide)⟩)

/-- Eight of the 16 columns of the region `24,0,16,16` are inside the image of 32 by 32
pixels.  The request `pct:100` scales them to 16 columns. -/
theorem size_resolved_overEdge :
    JpegTranImage.create (library id Scaler.nearest) (squareJpeg .samp444) =
        .ok (ofJpeg (squareJpeg .samp444) .samp444 {}) ∧
      ParameterParser.parseIiifSize ['p', 'c', 't', ':', '1', '0', '0'] =
        .ok (some { scaleFactor := 100 }) ∧
      ∃ mid, EStateM.run (regionStep .exact
          (JpegTranImage.methods (library id Scaler.nearest) .exact))
          ⟨ofJpeg (squareJpeg .samp444) .samp444 {},
            some (.ofRats (24 : ℕ) (0 : ℕ) (16 : ℕ) (16 : ℕ))⟩ = .ok ⟨⟩ mid ∧
        mid.image.extent = (8, 16) ∧
        scaleCalls .exact (JpegTranImage.methods (library id Scaler.nearest) .exact)
          (some { scaleFactor := 100 }) (some ⟨0, false⟩) none .jpeg
          ⟨ofJpeg (squareJpeg .samp444) .samp444 {},
            some (.ofRats (24 : ℕ) (0 : ℕ) (16 : ℕ) (16 : ℕ))⟩ =
          [{ width := 16, height := 16, scaleFactor := 100 }] ∧
        resolvedCalls .exact { scaleFactor := 100 } 8 16 =
          [{ width := 8, height := 16, scaleFactor := 100 }] := by
  have ran := run_regionStep_squareJpeg ⟨24, 0, 16, 16⟩ (by decide) (by decide) (by decide)
    (by decide) (by decide)
  have calls := scaleCalls_of_region { scaleFactor := 100 } (some ⟨0, false⟩) none .jpeg
    ran rfl
  have columns : (JFloat.fin (16 : ℕ)).toInt = 16 :=
    JFloat.toInt_natCast (by decide)
  refine ⟨create_squareJpeg .samp444, by decide, _, ran,
    JpegTranImage.extent_pending (by decide) (by decide), ?_,
    resolvedCalls_full (by decide) (by decide) (by decide) (by decide)⟩
  rw [calls, RegionParameters.ofRats]
  dsimp only
  rw [columns]
  exact (resolvedCalls_full (by decide) (by decide) (by decide) (by decide))

end ImageService

end IiifImage
