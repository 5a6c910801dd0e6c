import IiifImage.Business.ParameterParser
import IiifImage.Crops.Alike
import IiifImage.Sizes.Resolution

/-!
# Relative regions

The parser divides percentages by a hundred, `makeAbsolute` multiplies them by the
dimensions of the image and clamps the extents, and the backends round up and clamp once
more.  Here floats are exact.  `makeAbsolute` checks the offsets before they are rounded,
so an offset in the last pixel of a row or column passes it and is rejected later.
-/

namespace IiifImage

open Java TurboJpeg

/-- Each coordinate of the rectangle is less than a pixel away from an exact one. -/
structure Rect.Near (rect : Rect) (x y width height : ℚ) : Prop where
  left : |(rect.x : ℚ) - x| < 1
  top : |(rect.y : ℚ) - y| < 1
  wide : |(rect.width : ℚ) - width| < 1
  tall : |(rect.height : ℚ) - height| < 1

/-! ## One axis -/

theorem ceil_near (q : ℚ) : |(⌈q⌉ : ℚ) - q| < 1 := by
  have above := Int.le_ceil q
  have below := Int.ceil_lt_add_one q
  rw [abs_lt]
  constructor <;> linarith

/-- Rounding an extent up and clamping it at the rounded offset is off by less than one. -/
theorem clamped_ceil_near {size : ℤ} {offset extent : ℚ} (room : extent ≤ size - offset) :
    |((min ⌈extent⌉ (size - ⌈offset⌉) : ℤ) : ℚ) - extent| < 1 := by
  have above := Int.ceil_lt_add_one extent
  have atLeast := Int.le_ceil extent
  have offsetAbove := Int.ceil_lt_add_one offset
  rcases min_choice ⌈extent⌉ (size - ⌈offset⌉) with same | same
  · rw [same]
    exact ceil_near extent
  · have smaller : ((size - ⌈offset⌉ : ℤ) : ℚ) ≤ ⌈extent⌉ := by
      exact_mod_cast min_eq_right_iff.mp same
    rw [same, abs_lt]
    push_cast at smaller ⊢
    constructor <;> linarith

namespace RegionParameters

/-- The relative region of four fractions. -/
def ofFractions (x y width height : ℚ) : RegionParameters where
  absolute := false
  horizontalOffset := .fin x
  verticalOffset := .fin y
  width := .fin width
  height := .fin height

/-- What `makeAbsolute` makes of fractions, in exact arithmetic. -/
theorem absoluteOf_ofFractions (x y w h : ℚ) (width height : ℤ) :
    absoluteOf .exact width height (ofFractions x y w h) =
      ofRats (x * width) (y * height) (min (w * width) (width - x * width))
        (min (h * height) (height - y * height)) := by
  have clamp : ∀ extent room : ℚ,
      (if (JFloat.fin extent).gt (.fin room) then JFloat.fin room else .fin extent) =
        .fin (min extent room) := by
    intro extent room
    rw [JFloat.gt_fin]
    split
    next larger => rw [min_eq_right (of_decide_eq_true larger).le]
    next smaller => rw [min_eq_left (not_lt.mp (by simpa using smaller))]
  rw [ofRats, ← clamp, ← clamp]
  rfl

/-- Fractions of at most one are offsets that `makeAbsolute` accepts. -/
theorem not_outlies_ofFractions {x y w h : ℚ} {width height : ℤ} (widthNonneg : 0 ≤ width)
    (heightNonneg : 0 ≤ height) (left : x ≤ 1) (top : y ≤ 1) :
    ¬(ofFractions x y w h).Outlies .exact width height := by
  have scaled : ∀ {fraction : ℚ} {size : ℤ}, 0 ≤ size → fraction ≤ 1 →
      ¬(size : ℚ) < fraction * size := by
    intro fraction size nonneg small
    have sizeNonneg : (0 : ℚ) ≤ size := by exact_mod_cast nonneg
    nlinarith
  simp only [Outlies, ofFractions, Rounding.exact_ofInt, Rounding.mul_fin, Rounding.exact_result,
    JFloat.gt_fin, Bool.or_eq_true, decide_eq_true_eq]
  exact not_or.mpr ⟨scaled widthNonneg left, scaled heightNonneg top⟩

end RegionParameters

/-! ## Exact regions inside an image -/

/-- An exact region that starts in an image, ends in it and is not empty. -/
structure Fits (width height : ℕ) (x y w h : ℚ) : Prop where
  left : 0 ≤ x
  top : 0 ≤ y
  wide : 0 < w
  tall : 0 < h
  right : w ≤ width - x
  bottom : h ≤ height - y

namespace Fits

variable {width height : ℕ} {x y w h : ℚ}

/-- The region with its coordinates rounded up. -/
def rounded (x y w h : ℚ) : Rect := ⟨⌈x⌉.toNat, ⌈y⌉.toNat, ⌈w⌉.toNat, ⌈h⌉.toNat⟩

theorem toNat_ceil {q : ℚ} (nonneg : 0 ≤ q) : (⌈q⌉.toNat : ℤ) = ⌈q⌉ :=
  Int.toNat_of_nonneg (Int.ceil_nonneg nonneg)

/-- Rounding up moves the end of an exact extent by less than two pixels. -/
theorem ceil_add_ceil_le {size : ℕ} {offset extent : ℚ} (room : extent ≤ size - offset) :
    ⌈offset⌉ + ⌈extent⌉ ≤ size + 1 := by
  have offsetAbove := Int.ceil_lt_add_one offset
  have extentAbove := Int.ceil_lt_add_one extent
  have strict : ((⌈offset⌉ + ⌈extent⌉ : ℤ) : ℚ) < ((size + 2 : ℤ) : ℚ) := by
    push_cast
    linarith
  have strictInt : ⌈offset⌉ + ⌈extent⌉ < (size + 2 : ℤ) := by exact_mod_cast strict
  omega

/-- The clipped rectangle is close to the exact region on one axis. -/
theorem clipped_near {size : ℕ} {offset extent : ℚ} (nonneg : 0 ≤ offset)
    (positive : 0 < extent) (room : extent ≤ size - offset) (starts : ⌈offset⌉ < (size : ℤ)) :
    |((min ⌈extent⌉.toNat (size - ⌈offset⌉.toNat) : ℕ) : ℚ) - extent| < 1 := by
  have offsetInt := toNat_ceil nonneg
  have extentInt := toNat_ceil positive.le
  have same : ((min ⌈extent⌉.toNat (size - ⌈offset⌉.toNat) : ℕ) : ℤ) =
      min ⌈extent⌉ (size - ⌈offset⌉) := by
    omega
  have near : |((min ⌈extent⌉ (size - ⌈offset⌉) : ℤ) : ℚ) - extent| < 1 :=
    clamped_ceil_near (by exact_mod_cast room)
  rw [← same] at near
  exact_mod_cast near

theorem near_clip (fits : Fits width height x y w h) (left : ⌈x⌉ < (width : ℤ))
    (top : ⌈y⌉ < (height : ℤ)) :
    ((rounded x y w h).clip width height).Near x y w h where
  left := by
    have near := ceil_near x
    rw [← toNat_ceil fits.left] at near
    exact_mod_cast near
  top := by
    have near := ceil_near y
    rw [← toNat_ceil fits.top] at near
    exact_mod_cast near
  wide := clipped_near fits.left fits.wide fits.right left
  tall := clipped_near fits.top fits.tall fits.bottom top

/-- The rounded coordinates are in the range of `int`. -/
theorem bounds_eq (fits : Fits width height x y w h) (columns : (width : ℤ) < maxInt)
    (rows : (height : ℤ) < maxInt) (fp : Rounding) (imageWidth imageHeight : ℤ) :
    (RegionParameters.ofRats x y w h).bounds fp imageWidth imageHeight =
      (↑(rounded x y w h).x, ↑(rounded x y w h).y, ↑(rounded x y w h).width,
        ↑(rounded x y w h).height) := by
  have left := Int.ceil_nonneg fits.left
  have top := Int.ceil_nonneg fits.top
  have wide := Int.ceil_nonneg fits.wide.le
  have tall := Int.ceil_nonneg fits.tall.le
  have right := ceil_add_ceil_le fits.right
  have bottom := ceil_add_ceil_le fits.bottom
  have saturated : ∀ {n : ℤ}, 0 ≤ n → n ≤ maxInt → saturate n = n :=
    fun nonneg small => saturate_of_range (minInt_le_of_nonneg nonneg) small
  simp only [RegionParameters.bounds, RegionParameters.ofRats, if_true, JFloat.ceilToInt_fin,
    rounded, toNat_ceil fits.left, toNat_ceil fits.top, toNat_ceil fits.wide.le,
    toNat_ceil fits.tall.le]
  rw [saturated left (by omega), saturated top (by omega), saturated wide (by omega),
    saturated tall (by omega)]

theorem rounded_wide (fits : Fits width height x y w h) : 0 < (rounded x y w h).width := by
  have positive := Int.ceil_pos.mpr fits.wide
  unfold rounded
  dsimp only
  omega

theorem rounded_tall (fits : Fits width height x y w h) : 0 < (rounded x y w h).height := by
  have positive := Int.ceil_pos.mpr fits.tall
  unfold rounded
  dsimp only
  omega

theorem rounded_left (fits : Fits width height x y w h) :
    (rounded x y w h).x < width ↔ ⌈x⌉ < (width : ℤ) := by
  rw [← toNat_ceil fits.left, Nat.cast_lt]
  rfl

theorem rounded_top (fits : Fits width height x y w h) :
    (rounded x y w h).y < height ↔ ⌈y⌉ < (height : ℤ) := by
  rw [← toNat_ceil fits.top, Nat.cast_lt]
  rfl

/-- A region with the dimensions of the image is the whole image. -/
theorem whole_of_same (fits : Fits width height x y w h)
    (same : ¬((Rounding.exact.ofInt width).ne (.fin w) ||
      (Rounding.exact.ofInt height).ne (.fin h)) = true) :
    (x = 0 ∧ y = 0) ∧ w = width ∧ h = height := by
  simp only [Rounding.exact_ofInt, JFloat.ne_fin, Bool.or_eq_true, decide_eq_true_eq, not_or,
    not_not, Int.cast_natCast] at same
  rcases same with ⟨sameWidth, sameHeight⟩
  have left := fits.left
  have top := fits.top
  have right := fits.right
  have bottom := fits.bottom
  refine ⟨⟨?_, ?_⟩, sameWidth.symm, sameHeight.symm⟩ <;> linarith

theorem near_whole (fits : Fits width height x y w h)
    (same : ¬((Rounding.exact.ofInt width).ne (.fin w) ||
      (Rounding.exact.ofInt height).ne (.fin h)) = true) :
    (Rect.mk 0 0 width height).Near x y w h := by
  rcases fits.whole_of_same same with ⟨⟨rfl, rfl⟩, rfl, rfl⟩
  constructor <;> simp

end Fits

/-! ## The backends -/

/-- How the image of a backend crops exact regions: it selects the clipped rectangle if
the region starts inside the image after rounding, and rejects it otherwise. -/
structure CropsFitting {σ : Type} (image : ImageMethods σ) (created : σ)
    (selected : σ → Rect → Prop) (width height : ℕ) : Prop where
  reports : ImageService.Reports image created width height
  whole : selected created ⟨0, 0, width, height⟩
  crops : ∀ {x y w h : ℚ}, Fits width height x y w h → ⌈x⌉ < (width : ℤ) →
    ⌈y⌉ < (height : ℤ) → ∃ final,
      EStateM.run (image.crop (.ofRats x y w h)) created = .ok ⟨⟩ final ∧
        selected final ((Fits.rounded x y w h).clip width height)
  refuses : ∀ {x y w h : ℚ}, Fits width height x y w h →
    ¬(⌈x⌉ < (width : ℤ) ∧ ⌈y⌉ < (height : ℤ)) → ∃ message final,
      EStateM.run (image.crop (.ofRats x y w h)) created =
        .error (.invalidParameters message) final

/-- The limit of `SampleModel`: an image has fewer than `Integer.MAX_VALUE` pixels. -/
def BufferedImage.Allocated {α : Type} (image : BufferedImage α) : Prop :=
  (image.raster.width * image.raster.height : ℤ) < maxInt

namespace BufferedImage.Allocated

variable {α : Type} {image : BufferedImage α}

theorem columns (allocated : image.Allocated) : (image.raster.width : ℤ) < maxInt := by
  have positive : (1 : ℤ) ≤ image.raster.height := by exact_mod_cast image.height_pos
  unfold Allocated at allocated
  nlinarith

theorem rows (allocated : image.Allocated) : (image.raster.height : ℤ) < maxInt := by
  have positive : (1 : ℤ) ≤ image.raster.width := by exact_mod_cast image.width_pos
  unfold Allocated at allocated
  nlinarith

end BufferedImage.Allocated

namespace JAIImage

variable {δ α : Type} {io : ImageIo δ α} {self : JAIImage α} {source : BufferedImage α}

/-- The image holds the part of the source in a rectangle. -/
def ShowsPart (source : BufferedImage α) (self : JAIImage α) (rect : Rect) : Prop :=
  self.pixels = some (source.raster.crop rect)

theorem cropsFitting (io : ImageIo δ α) (present : self.image = some source)
    (columns : (source.raster.width : ℤ) < maxInt)
    (rows : (source.raster.height : ℤ) < maxInt) :
    CropsFitting (methods io .exact) self (ShowsPart source) source.raster.width
      source.raster.height where
  reports := reports_of_present present
  whole := by
    have all : source.raster.crop ⟨0, 0, source.raster.width, source.raster.height⟩ =
        source.raster := Raster.crop_eq_self rfl rfl le_rfl le_rfl
    rw [ShowsPart, all, pixels, present]
    rfl
  crops := by
    intro x y w h fits left top
    have right := Fits.ceil_add_ceil_le fits.right
    have bottom := Fits.ceil_add_ceil_le fits.bottom
    rw [← Fits.toNat_ceil fits.left, ← Fits.toNat_ceil fits.wide.le] at right
    rw [← Fits.toNat_ceil fits.top, ← Fits.toNat_ceil fits.tall.le] at bottom
    obtain ⟨part, returned, raster⟩ := run_crop_inside present
      (fits.bounds_eq columns rows .exact _ _) (fits.rounded_left.mpr left)
      (fits.rounded_top.mpr top) fits.rounded_wide fits.rounded_tall
      (by unfold Fits.rounded; dsimp only; omega) (by unfold Fits.rounded; dsimp only; omega)
      columns.le rows.le
    refine ⟨_, returned, ?_⟩
    rw [ShowsPart, Raster.crop_clip, ← raster]
    rfl
  refuses := by
    intro x y w h fits outside
    obtain ⟨message, thrown⟩ := run_crop_outside present
      (fits.bounds_eq columns rows .exact _ _)
      (by rw [← fits.rounded_left, ← fits.rounded_top] at outside; omega)
    exact ⟨_, _, thrown⟩

end JAIImage

namespace JpegTranImage

variable {δ : Type} {natives : Natives δ} {image : JpegTranImage δ} {data : δ}

/-- The image will be cropped to a rectangle: its bounds are pending on the file, or nothing
is pending and the rectangle is the whole image. -/
def WillShow (original image : JpegTranImage δ) (rect : Rect) : Prop :=
  image = { original with jpegImage :=
      { original.jpegImage with transformOptions := JpegImage.pending rect .none } } ∨
    image = original ∧ original.jpegImage.transformOptions = {} ∧ rect.x = 0 ∧ rect.y = 0 ∧
      rect.width = original.width ∧ rect.height = original.height

/-- An exact region inside the image selects a pixel if it starts inside after rounding. -/
theorem selects_ofRats_iff {width height : ℕ} {x y w h : ℚ} (fits : Fits width height x y w h)
    (columns : (width : ℤ) < maxInt) (rows : (height : ℤ) < maxInt) :
    (RegionParameters.ofRats x y w h).Selects width height ↔
      ⌈x⌉ < (width : ℤ) ∧ ⌈y⌉ < (height : ℤ) := by
  rcases RegionParameters.ceilToInt_of_bounds rfl (fits.bounds_eq columns rows .exact 0 0) with
    ⟨⟨sameX, sameY⟩, sameWidth, sameHeight⟩
  have wide := fits.rounded_wide
  have tall := fits.rounded_tall
  rw [RegionParameters.selects_iff, sameX, sameY, sameWidth, sameHeight, ← fits.rounded_left,
    ← fits.rounded_top]
  omega

theorem cropsFitting (created : create natives data = .ok image) {width height : ℕ}
    (sameWidth : image.width = width) (sameHeight : image.height = height) :
    CropsFitting (methods natives .exact) image (WillShow image) width height := by
  have cached := cached_of_create created
  rcases cached_range cached with ⟨⟨-, widthLe⟩, -, heightLe⟩
  have large : (maxDimension : ℤ) < maxInt := by decide
  have columns : (width : ℤ) < maxInt := by omega
  have rows : (height : ℤ) < maxInt := by omega
  constructor
  case reports =>
    rw [← sameWidth, ← sameHeight]
    exact reports natives image
  case whole =>
    exact .inr ⟨rfl, idle_of_create created, rfl, rfl, sameWidth.symm, sameHeight.symm⟩
  case crops =>
    intro x y w h fits left top
    have selects : (RegionParameters.ofRats x y w h).Selects image.width image.height := by
      rw [sameWidth, sameHeight, selects_ofRats_iff fits columns rows]
      exact ⟨left, top⟩
    have absolute : (RegionParameters.ofRats x y w h).absolute = true := rfl
    have recorded := run_crop_of_selects .exact cached absolute selects
    refine ⟨_, recorded, .inl ?_⟩
    exact cropped_eq_pending (idle_of_create created) absolute sameWidth sameHeight
      (fits.bounds_eq columns rows .exact _ _) (fits.rounded_left.mpr left)
      (fits.rounded_top.mpr top)
  case refuses =>
    intro x y w h fits outside
    have misses : ¬(RegionParameters.ofRats x y w h).Selects image.width image.height := by
      rw [sameWidth, sameHeight, selects_ofRats_iff fits columns rows]
      exact outside
    obtain ⟨message, thrown⟩ := run_crop_of_not_selects .exact cached rfl misses
    exact ⟨_, _, thrown⟩

end JpegTranImage

/-! ## The law -/

namespace ImageService

open ParameterParser

variable {σ : Type} {image : ImageMethods σ} {created : σ} {selected : σ → Rect → Prop}
variable {width height : ℕ} {a b c d : ℚ}

/-- The parser, `makeAbsolute` and the crop step extract a non-empty rectangle inside the
image that is less than a pixel off the exact percentages on every side. -/
def ServesPercent (image : ImageMethods σ) (created : σ) (selected : σ → Rect → Prop)
    (width height : ℕ) (text : JString) (a b c d : ℚ) : Prop :=
  ∃ region final rect, parseIiifRegion .exact .fin text = .ok (some region) ∧
    EStateM.run (regionStep .exact image) ⟨created, some region⟩ = .ok ⟨⟩ final ∧
    selected final.image rect ∧ (0 < rect.width ∧ 0 < rect.height) ∧
    rect.Inside width height ∧
    rect.Near (a * width / 100) (b * height / 100)
      (min (c * width / 100) (width - a * width / 100))
      (min (d * height / 100) (height - b * height / 100))

/-- The offsets of the percentages are inside the image when they are rounded up. -/
def StartsInside (width height : ℕ) (a b : ℚ) : Prop :=
  ⌈a * width / 100⌉ < (width : ℤ) ∧ ⌈b * height / 100⌉ < (height : ℤ)

/-- Percentages of an image are an exact region in it. -/
theorem fits_percent (widthPos : 0 < width) (heightPos : 0 < height) (left : 0 ≤ a ∧ a < 100)
    (top : 0 ≤ b ∧ b < 100) (wide : 0 < c) (tall : 0 < d) :
    Fits width height (a * width / 100) (b * height / 100)
      (min (c * width / 100) (width - a * width / 100))
      (min (d * height / 100) (height - b * height / 100)) := by
  have room : ∀ {size : ℕ} {percent : ℚ}, 0 < size → percent < 100 →
      0 < (size : ℚ) - percent * size / 100 := by
    intro size percent sizePos small
    have positive : (0 : ℚ) < size := by exact_mod_cast sizePos
    nlinarith
  rcases left with ⟨leftNonneg, leftSmall⟩
  rcases top with ⟨topNonneg, topSmall⟩
  constructor
  case left => positivity
  case top => positivity
  case wide => exact lt_min (by positivity) (room widthPos leftSmall)
  case tall => exact lt_min (by positivity) (room heightPos topSmall)
  case right => exact min_le_right _ _
  case bottom => exact min_le_right _ _

/-- The exact region that percentages become on an image. -/
def percentRegion (width height : ℕ) (a b c d : ℚ) : RegionParameters :=
  .ofRats (a * width / 100) (b * height / 100)
    (min (c * width / 100) (width - a * width / 100))
    (min (d * height / 100) (height - b * height / 100))

theorem run_regionStep_percent (reports : Reports image created width height)
    (left : a < 100) (top : b < 100) :
    EStateM.run (regionStep .exact image)
        ⟨created, some (.ofFractions (a / 100) (b / 100) (c / 100) (d / 100))⟩ =
      EStateM.run (cropStep .exact image)
        ⟨created, some (percentRegion width height a b c d)⟩ := by
  have inlies : ¬(RegionParameters.ofFractions (a / 100) (b / 100) (c / 100) (d / 100)).Outlies
      .exact width height :=
    RegionParameters.not_outlies_ofFractions (Int.natCast_nonneg width)
      (Int.natCast_nonneg height) (by linarith) (by linarith)
  rw [regionStep, Method.run_bind_ok (run_absoluteStep_of_accepted reports fun refused =>
    inlies refused.2), RegionParameters.absoluteOf_ofFractions]
  simp only [percentRegion, Int.cast_natCast, div_mul_eq_mul_div]

/-- An offset that is outside the image after rounding is rejected by the crop step. -/
theorem run_regionStep_of_not_starts
    (backend : CropsFitting image created selected width height) (widthPos : 0 < width)
    (heightPos : 0 < height) (left : 0 ≤ a ∧ a < 100) (top : 0 ≤ b ∧ b < 100) (wide : 0 < c)
    (tall : 0 < d) (outside : ¬StartsInside width height a b) :
    ∃ message final, EStateM.run (regionStep .exact image)
        ⟨created, some (.ofFractions (a / 100) (b / 100) (c / 100) (d / 100))⟩ =
      .error (.invalidParameters message) final := by
  have fits := fits_percent widthPos heightPos left top wide tall
  rw [run_regionStep_percent backend.reports left.2 top.2, run_cropStep backend.reports]
  split
  next differs =>
    obtain ⟨message, after, thrown⟩ := backend.refuses fits outside
    exact ⟨message, _, Method.run_on_error thrown⟩
  next same =>
    -- the step would be left out, but then the offsets are those of the whole image
    rcases (fits.whole_of_same same).1 with ⟨atLeft, atTop⟩
    refine absurd ?_ outside
    rw [StartsInside, atLeft, atTop, Int.ceil_zero]
    omega

theorem servesPercent_iff (backend : CropsFitting image created selected width height)
    (widthPos : 0 < width) (heightPos : 0 < height) {text : JString}
    (parsed : parseIiifRegion .exact .fin text =
      .ok (some (.ofFractions (a / 100) (b / 100) (c / 100) (d / 100))))
    (left : 0 ≤ a ∧ a < 100) (top : 0 ≤ b ∧ b < 100) (wide : 0 < c) (tall : 0 < d) :
    ServesPercent image created selected width height text a b c d ↔
      StartsInside width height a b := by
  have fits := fits_percent widthPos heightPos left top wide tall
  constructor
  · intro served
    rcases served with ⟨region, final, rect, parsedAgain, ran, -, -, -, -⟩
    rw [parsed] at parsedAgain
    cases parsedAgain
    by_contra outside
    obtain ⟨message, after, refused⟩ :=
      run_regionStep_of_not_starts backend widthPos heightPos left top wide tall outside
    rw [refused] at ran
    cases ran
  · intro starts
    rcases starts with ⟨startsLeft, startsTop⟩
    obtain ⟨inside, widthPos', heightPos'⟩ := Rect.clip_inside
      (fits.rounded_left.mpr startsLeft) (fits.rounded_top.mpr startsTop) fits.rounded_wide
      fits.rounded_tall
    have step := run_regionStep_percent (c := c) (d := d) backend.reports left.2 top.2
    rw [run_cropStep backend.reports] at step
    split at step
    next differs =>
      obtain ⟨after, returned, shown⟩ := backend.crops fits startsLeft startsTop
      exact ⟨_, _, _, parsed, step.trans (Method.run_on_ok returned), shown,
        ⟨widthPos', heightPos'⟩, inside, fits.near_clip startsLeft startsTop⟩
    next same =>
      exact ⟨_, _, ⟨0, 0, width, height⟩, parsed, step, backend.whole, ⟨widthPos, heightPos⟩,
        ⟨(Nat.zero_add _).le, (Nat.zero_add _).le⟩, fits.near_whole same⟩

end ImageService

section Law

open ImageService

variable {a b c d : ℚ}

/-- A relative region with its offsets inside the image is served on both backends exactly
when they are still inside after they are rounded up. -/
theorem relative_regions_served_iff {first second third fourth : JString}
    (readX : Text.parseFloat .fin first = some (.fin a))
    (readY : Text.parseFloat .fin second = some (.fin b))
    (readWidth : Text.parseFloat .fin third = some (.fin c))
    (readHeight : Text.parseFloat .fin fourth = some (.fin d))
    (left : 0 ≤ a ∧ a < 100) (top : 0 ≤ b ∧ b < 100) (wide : 0 < c) (tall : 0 < d) :
    let text := ['p', 'c', 't', ':'] ++ [','].intercalate [first, second, third, fourth]
    (∀ {δ α : Type} (io : ImageIo δ α) (self : JAIImage α) (source : BufferedImage α),
      self.image = some source → source.Allocated →
      (ServesPercent (JAIImage.methods io .exact) self (JAIImage.ShowsPart source)
          source.raster.width source.raster.height text a b c d ↔
        StartsInside source.raster.width source.raster.height a b)) ∧
    ∀ {δ : Type} (natives : Natives δ) (data : δ) (image : JpegTranImage δ) (width height : ℕ),
      JpegTranImage.create natives data = .ok image → image.width = width →
      image.height = height →
      (ServesPercent (JpegTranImage.methods natives .exact) image (JpegTranImage.WillShow image)
          width height text a b c d ↔
        StartsInside width height a b) := by
  intro text
  have parsed : ParameterParser.parseIiifRegion .exact .fin text =
      .ok (some (.ofFractions (a / 100) (b / 100) (c / 100) (d / 100))) :=
    ParameterParser.parseIiifRegion_percent .exact
      (ParameterParser.parseFloatValues_of_read readX readY readWidth readHeight)
  constructor
  · intro δ α io self source present allocated
    exact servesPercent_iff (JAIImage.cropsFitting io present allocated.columns allocated.rows)
      source.width_pos source.height_pos parsed left top wide tall
  · intro δ natives data image width height created sameWidth sameHeight
    rcases JpegTranImage.cached_range (JpegTranImage.cached_of_create created) with
      ⟨⟨widthPos, -⟩, heightPos, -⟩
    exact servesPercent_iff (JpegTranImage.cropsFitting created sameWidth sameHeight)
      (by omega) (by omega) parsed left top wide tall

/-! ## An image of ten by ten pixels -/

/-- The decoded file as an image of the ImageIO backend. -/
def smallImage : JAIImage (ℕ × ℕ) where
  image := some JAIImage.smallSource
  formatString := ['J', 'P', 'E', 'G']

theorem allocated_smallSource : JAIImage.smallSource.Allocated := by
  unfold BufferedImage.Allocated
  decide

theorem read_zero : Text.parseFloat .fin ['0'] = some (.fin 0) := by decide +kernel

theorem read_fifty : Text.parseFloat .fin ['5', '0'] = some (.fin 50) := by decide +kernel

theorem read_lastColumn :
    Text.parseFloat .fin ['9', '9', '.', '9'] = some (.fin (999 / 10)) := by decide +kernel

theorem startsInside_quarter : StartsInside 10 10 50 0 := by
  rw [StartsInside, Int.ceil_lt_iff, Int.ceil_lt_iff]
  norm_num

theorem not_startsInside_lastColumn : ¬StartsInside 10 10 (999 / 10) 0 := by
  rw [StartsInside, Int.ceil_lt_iff, Int.ceil_lt_iff]
  norm_num

/-- The region `pct:50,0,50,50` is the upper right quarter of the image. -/
theorem relative_region_served_quarter :
    ServesPercent (JAIImage.methods (JAIImage.readingIo JAIImage.smallSource) .exact) smallImage
      (JAIImage.ShowsPart JAIImage.smallSource) 10 10
      ['p', 'c', 't', ':', '5', '0', ',', '0', ',', '5', '0', ',', '5', '0'] 50 0 50 50 :=
  ((relative_regions_served_iff read_fifty read_zero read_fifty read_fifty
    ⟨by norm_num, by norm_num⟩ ⟨by norm_num, by norm_num⟩ (by norm_num) (by norm_num)).1
    (JAIImage.readingIo JAIImage.smallSource) smallImage JAIImage.smallSource rfl
    allocated_smallSource).mpr
    startsInside_quarter

/-- The region `pct:99.9,0,50,50` starts in the last column.  Its offset of 9.99 pixels
passes `makeAbsolute` and is rejected after it is rounded up. -/
theorem relative_region_lastColumn_rejected :
    (∃ region message final,
      ParameterParser.parseIiifRegion .exact .fin
        ['p', 'c', 't', ':', '9', '9', '.', '9', ',', '0', ',', '5', '0', ',', '5', '0'] =
          .ok (some region) ∧
      EStateM.run (regionStep .exact
        (JAIImage.methods (JAIImage.readingIo JAIImage.smallSource) .exact))
        ⟨smallImage, some region⟩ = .error (.invalidParameters message) final) ∧
    ¬ServesPercent (JAIImage.methods (JAIImage.readingIo JAIImage.smallSource) .exact) smallImage
      (JAIImage.ShowsPart JAIImage.smallSource) 10 10
      ['p', 'c', 't', ':', '9', '9', '.', '9', ',', '0', ',', '5', '0', ',', '5', '0']
      (999 / 10) 0 50 50 := by
  have parsed := ParameterParser.parseIiifRegion_percent .exact
    (ParameterParser.parseFloatValues_of_read read_lastColumn read_zero read_fifty read_fifty)
  have present : smallImage.image = some JAIImage.smallSource := rfl
  have backend := JAIImage.cropsFitting (JAIImage.readingIo JAIImage.smallSource) present
    allocated_smallSource.columns allocated_smallSource.rows
  have left : (0 : ℚ) ≤ 999 / 10 ∧ (999 / 10 : ℚ) < 100 := by norm_num
  have top : (0 : ℚ) ≤ 0 ∧ (0 : ℚ) < 100 := by norm_num
  have extent : (0 : ℚ) < 50 := by norm_num
  constructor
  · obtain ⟨message, final, refused⟩ := run_regionStep_of_not_starts backend
      (Nat.succ_pos 9) (Nat.succ_pos 9) left top extent extent not_startsInside_lastColumn
    exact ⟨_, message, final, parsed, refused⟩
  · intro served
    exact not_startsInside_lastColumn ((servesPercent_iff backend (Nat.succ_pos 9)
      (Nat.succ_pos 9) parsed left top extent extent).mp served)

end Law

end IiifImage
