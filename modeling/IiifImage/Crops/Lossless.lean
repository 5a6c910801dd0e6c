import IiifImage.Java.Calls
import IiifImage.Regions.Lossless

/-!
# Crops on the lossless backend

`crop` checks the offsets twice, once in each class, and clamps in between.  The two
checks together accept exactly the regions of which a pixel is inside the image at their
offsets, over the whole range of `int`, and nothing is written when they do not.
-/

namespace IiifImage

open Java TurboJpeg

/-! ## The image of the backend -/

namespace JpegTranImage

variable {δ : Type} {natives : Natives δ} {fp : Rounding} {image : JpegTranImage δ}
variable {region : RegionParameters}

/-- The cached dimensions are those of the data. -/
structure Cached (image : JpegTranImage δ) : Prop where
  width : image.width = image.jpegImage.getWidth
  height : image.height = image.jpegImage.getHeight

/-- Nothing is pending on a new image. -/
theorem made_of_create {data : δ} (created : create natives data = .ok image) :
    ∃ header, natives.decompressHeader data = .ok header ∧
      image = ⟨⟨header, {}, data⟩, header.height, header.width⟩ := by
  rw [create, Method.except_bind_eq_ok] at created
  rcases created with ⟨jpegImage, constructed, made⟩
  cases made
  rcases JpegImage.made_of_create constructed with ⟨header, parsed, rfl⟩
  exact ⟨header, parsed, rfl⟩

theorem cached_of_create {data : δ} (created : create natives data = .ok image) :
    image.Cached := by
  rcases made_of_create created with ⟨header, -, rfl⟩
  exact ⟨rfl, rfl⟩

theorem idle_of_create {data : δ} (created : create natives data = .ok image) :
    image.jpegImage.transformOptions = {} := by
  rcases made_of_create created with ⟨header, -, rfl⟩
  rfl

/-- A method of the JPEG image that keeps the header keeps the cached dimensions true. -/
theorem cached_onJpeg {α : Type} {method : Method Throwable (JpegImage δ) α}
    (keeps : Method.Keeps JpegImage.decomp method) :
    Method.Preserves (Cached (δ := δ)) (onJpeg method) := by
  intro image cached
  rcases cached with ⟨width, height⟩
  have kept := keeps image.jpegImage
  rw [Method.after, onJpeg, Method.run_on]
  cases ran : EStateM.run method image.jpegImage with
  | ok value inner =>
      rw [ran, Method.finalState_ok] at kept
      exact ⟨width.trans (congrArg Header.width kept.symm),
        height.trans (congrArg Header.height kept.symm)⟩
  | error exception inner =>
      rw [ran, Method.finalState_error] at kept
      exact ⟨width.trans (congrArg Header.width kept.symm),
        height.trans (congrArg Header.height kept.symm)⟩

/-- The pending transform that cropping to a region leaves. -/
def cropped (image : JpegTranImage δ) (region : RegionParameters) : JpegTranImage δ :=
  let x := region.horizontalOffset.ceilToInt
  let y := region.verticalOffset.ceilToInt
  { image with
    jpegImage := image.jpegImage.cropped x y
      (min region.width.ceilToInt (image.width - x))
      (min region.height.ceilToInt (image.height - y)) }

/-- With nothing pending before, the bounds are those of the rectangle clipped to the
image. -/
theorem cropped_eq_pending {rect : Rect} {width height : ℕ}
    (idle : image.jpegImage.transformOptions = {}) (absolute : region.absolute = true)
    (sameWidth : image.width = width) (sameHeight : image.height = height)
    (bounds : region.bounds fp width height =
      (↑rect.x, ↑rect.y, ↑rect.width, ↑rect.height))
    (left : rect.x < width) (top : rect.y < height) :
    image.cropped region = { image with jpegImage := { image.jpegImage with
      transformOptions := JpegImage.pending (rect.clip width height) .none } } := by
  rcases RegionParameters.ceilToInt_of_bounds absolute bounds with
    ⟨⟨sameX, sameY⟩, sameWide, sameTall⟩
  have columns : min (rect.width : ℤ) (width - rect.x) =
      (min rect.width (width - rect.x) : ℕ) := by
    omega
  have rows : min (rect.height : ℤ) (height - rect.y) =
      (min rect.height (height - rect.y) : ℕ) := by
    omega
  rw [cropped, JpegImage.cropped, idle, sameX, sameY, sameWide, sameTall, sameWidth,
    sameHeight, columns, rows]
  rfl

theorem cached_range (cached : image.Cached) :
    (1 ≤ image.width ∧ image.width ≤ maxDimension) ∧
      1 ≤ image.height ∧ image.height ≤ maxDimension := by
  rw [cached.width, cached.height]
  exact ⟨⟨image.jpegImage.decomp.width_pos, image.jpegImage.decomp.width_le⟩,
    image.jpegImage.decomp.height_pos, image.jpegImage.decomp.height_le⟩

/-- The clamp of one extent, for an offset inside an image of positive size. -/
theorem clamp_of_inside {size offset extent : ℤ} (small : size ≤ maxDimension)
    (nonneg : 0 ≤ offset) (inside : offset < size) :
    (if extent > wrap (size - offset) then wrap (size - offset) else extent) =
      min extent (size - offset) := by
  rcases Int.eq_ofNat_of_zero_le (by omega : 0 ≤ size) with ⟨n, rfl⟩
  exact clamp_eq_min (by exact_mod_cast small) nonneg inside

/-- A region that selects a pixel is recorded, clipped to the image. -/
theorem run_crop_of_selects (fp : Rounding) (cached : image.Cached)
    (absolute : region.absolute = true)
    (selects : region.Selects image.width image.height) :
    EStateM.run (crop fp region) image = .ok ⟨⟩ (image.cropped region) := by
  rcases cached_range cached with ⟨⟨-, widthLe⟩, -, heightLe⟩
  rcases selects with ⟨⟨left, right⟩, ⟨top, bottom⟩, wide, tall⟩
  have recorded : EStateM.run (JpegImage.crop region.horizontalOffset.ceilToInt
      region.verticalOffset.ceilToInt
      (min region.width.ceilToInt (image.width - region.horizontalOffset.ceilToInt))
      (min region.height.ceilToInt (image.height - region.verticalOffset.ceilToInt)))
      image.jpegImage = .ok () (image.cropped region).jpegImage := by
    rw [JpegImage.run_crop_eq_ok_iff region.horizontalOffset.ceilToInt_range.2
      region.verticalOffset.ceilToInt_range.2, ← cached.width, ← cached.height]
    exact ⟨⟨left, top⟩, by omega, by omega, rfl⟩
  rw [crop, Method.run_get_bind, RegionParameters.bounds_of_absolute absolute]
  dsimp only
  rw [if_neg (by omega), clamp_of_inside widthLe left right,
    clamp_of_inside heightLe top bottom, Method.run_rethrow, onJpeg,
    Method.run_on_ok recorded]
  rfl

/-- Any other region is refused with one exception, and nothing is recorded. -/
theorem run_crop_of_not_selects (fp : Rounding) (cached : image.Cached)
    (absolute : region.absolute = true)
    (misses : ¬region.Selects image.width image.height) :
    ∃ message, EStateM.run (crop fp region) image =
      .error (.invalidParameters message) image := by
  rw [crop, Method.run_get_bind, RegionParameters.bounds_of_absolute absolute]
  dsimp only
  split
  · exact ⟨_, rfl⟩
  next starts =>
    rw [Method.run_rethrow, onJpeg, Method.run_on]
    obtain accepted | ⟨message, refused⟩ := JpegImage.run_crop_cases image.jpegImage
      region.horizontalOffset.ceilToInt region.verticalOffset.ceilToInt
      (if region.width.ceilToInt > wrap (image.width - region.horizontalOffset.ceilToInt) then
        wrap (image.width - region.horizontalOffset.ceilToInt) else region.width.ceilToInt)
      (if region.height.ceilToInt > wrap (image.height - region.verticalOffset.ceilToInt) then
        wrap (image.height - region.verticalOffset.ceilToInt) else region.height.ceilToInt)
    · -- an accepted rectangle would select a pixel
      obtain ⟨⟨left, top⟩, ⟨wide, tall⟩, -, -⟩ := (JpegImage.run_crop_eq_ok_iff
        region.horizontalOffset.ceilToInt_range.2
        region.verticalOffset.ceilToInt_range.2).mp accepted
      rcases cached_range cached with ⟨⟨-, widthLe⟩, -, heightLe⟩
      rw [clamp_of_inside widthLe left (by omega)] at wide
      rw [clamp_of_inside heightLe top (by omega)] at tall
      exact absurd ⟨⟨left, by omega⟩, ⟨top, by omega⟩, by omega, by omega⟩ misses
    · rw [refused]
      exact ⟨message, rfl⟩

/-! ## Any sequence of lazy calls -/

/-- The calls that do no more than write to the pending transform. -/
inductive LazyCall where
  | crop (region : RegionParameters)
  | rotate (degrees : ℤ)
  | flipHorizontally
  | toDepth (depth : ImageBitDepth)

def LazyCall.method (natives : Natives δ) (fp : Rounding) :
    LazyCall → Method Throwable (JpegTranImage δ) Unit
  | crop region => (methods natives fp).crop region
  | rotate degrees => (methods natives fp).rotate degrees
  | flipHorizontally => (methods natives fp).flipHorizontally
  | toDepth depth => (methods natives fp).toDepth depth

theorem preserves_crop (fp : Rounding) (region : RegionParameters) :
    Method.Preserves (Cached (δ := δ)) (crop fp region) := by
  rw [crop]
  refine .bind .get fun image => .ite (.throw _) (.rethrow (cached_onJpeg ?_))
  intro inner
  rcases JpegImage.run_crop_cases inner _ _ _ _ with recorded | ⟨message, refused⟩
  · rw [recorded]
    rfl
  · rw [refused]
    rfl

theorem preserves_lazyCall (call : LazyCall) :
    Method.Preserves Cached (call.method natives fp) := by
  have setOp : ∀ op, Method.Keeps JpegImage.decomp (JpegImage.setOp (δ := δ) op) :=
    fun _ _ => rfl
  have toGrayscale : Method.Keeps JpegImage.decomp (JpegImage.toGrayscale (δ := δ)) :=
    fun _ => rfl
  cases call with
  | crop region => exact preserves_crop fp region
  | rotate degrees =>
      have keeps : Method.Keeps JpegImage.decomp (JpegImage.rotate (δ := δ) degrees) :=
        .ite (.throw _) (.ite (setOp _) (.ite (setOp _) (.ite (setOp _) (.pure _))))
      exact .rethrow (cached_onJpeg keeps)
  | flipHorizontally => exact cached_onJpeg (setOp .hflip)
  | toDepth depth =>
      have preserves : Method.Preserves Cached (toDepth (δ := δ) depth) :=
        .ite (cached_onJpeg toGrayscale) (.throw _)
      exact preserves

/-- As long as the file is neither scaled nor transformed, the cached dimensions are
those of its data. -/
theorem cached_afterAll (fp : Rounding) {data : δ}
    (created : create natives data = .ok image) (calls : List LazyCall) :
    (Method.afterAll (LazyCall.method natives fp) calls image).Cached :=
  Method.afterAll_of_keeps preserves_lazyCall calls (cached_of_create created)

/-! ## The law -/

/-- On an image whose cached dimensions are those of its data, and with anything pending,
`crop` records a region of which a pixel is inside the image at its offsets, clipped to
the image, and refuses every other one without a change of the image. -/
theorem crop_records_or_refuses (fp : Rounding) (cached : image.Cached) (a b c d : ℚ) :
    let pending := image.jpegImage.transformOptions
    let x := saturate ⌈a⌉
    let y := saturate ⌈b⌉
    let width := saturate ⌈c⌉
    let height := saturate ⌈d⌉
    if (0 ≤ x ∧ x < image.width) ∧ (0 ≤ y ∧ y < image.height) ∧ 1 ≤ width ∧ 1 ≤ height then
      EStateM.run (crop fp (.ofRats a b c d)) image =
        .ok ⟨⟩ { image with jpegImage := { image.jpegImage with transformOptions := { pending with
          x := x
          y := y
          width := min width (image.width - x)
          height := min height (image.height - y)
          options := pending.options ||| optCrop } } }
    else ∃ message, EStateM.run (crop fp (.ofRats a b c d)) image =
      .error (.invalidParameters message) image := by
  intro pending x y width height
  split
  next selected =>
    exact run_crop_of_selects fp cached rfl (RegionParameters.selects_iff.mpr selected)
  next missed =>
    apply run_crop_of_not_selects fp cached rfl
    intro selects
    exact missed (RegionParameters.selects_iff.mp selects)

/-- A region over the edge of a file of 32 by 32 pixels, on top of a pending rotation. -/
theorem crop_records_overEdge :
    let rotated := ofJpeg (squareJpeg .samp444) .samp444 { op := .rot90 }
    EStateM.run (crop .exact (.ofRats (47 / 2) 0 100 100)) rotated =
      .ok ⟨⟩ { rotated with jpegImage := { rotated.jpegImage with transformOptions :=
        ⟨24, 0, 8, 32, .rot90, optCrop⟩ } } := by
  have x : saturate ⌈(47 / 2 : ℚ)⌉ = 24 := by
    norm_num [Int.ceil_eq_iff, saturate, minInt, maxInt]
  have zero : saturate ⌈(0 : ℚ)⌉ = 0 := by
    rw [Int.ceil_zero, saturate_zero]
  have extent : saturate ⌈(100 : ℚ)⌉ = 100 := by
    norm_num [Int.ceil_eq_iff, saturate, minInt, maxInt]
  have cached : (ofJpeg (squareJpeg .samp444) .samp444 { op := .rot90 }).Cached :=
    cached_afterAll .exact (create_squareJpeg .samp444) [.rotate 90]
  have recorded := crop_records_or_refuses .exact cached (47 / 2) 0 100 100
  rw [x, zero, extent] at recorded
  exact (if_pos (by decide)).mp recorded

end JpegTranImage

end IiifImage
