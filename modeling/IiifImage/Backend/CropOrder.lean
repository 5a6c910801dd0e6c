import IiifImage.Backend.Orientations

/-!
# Cropping before reorienting

A crop and an orientation that are pending together are handed to the native
transform as one record, which turns the image first and crops the turned image.  The
documented order is the opposite one.  The two agree on the rectangles that the
orientation maps to themselves.
-/

namespace IiifImage.JpegImage

open Java TurboJpeg

section CropOrder

variable {α : Type} {luma : α → α} {scaler : Scaler α} {jpeg : Jpeg α} {subsamp : Subsamp}
variable {rect : Rect} {call : OrientationCall} {op : TJOp}

/-- The three calls of the fast path. -/
def cropThenOrient {δ : Type} (natives : Natives δ) (rect : Rect) (call : OrientationCall) :
    Method Throwable (JpegImage δ) Unit := do
  crop rect.x rect.y rect.width rect.height
  call.method
  transform natives

/-- The record that is pending after the first two calls. -/
def pending (rect : Rect) (op : TJOp) : TJTransform :=
  { (({} : TJTransform).setBounds rect.x rect.y rect.width rect.height).addOption optCrop with
    op := op }

theorem hasCrop_pending : (pending rect op).hasCrop = true :=
  TJTransform.hasCrop_addOption_crop _

theorem hasGray_pending (rect : Rect) (op : TJOp) : (pending rect op).hasGray = false :=
  (TJTransform.hasGray_addOption_crop _).trans (TJTransform.hasGray_of_no_options rfl)

theorem bounds_pending (wide : 0 < rect.width) (tall : 0 < rect.height)
    (inside : rect.Inside jpeg.raster.width jpeg.raster.height) :
    (pending rect op).Bounds rect :=
  ⟨rfl, rfl, rfl, rfl, wide, tall, inside.1.trans jpeg.width_le, inside.2.trans jpeg.height_le⟩

theorem yields_cropThenOrient (records : call.recorded = some op)
    (wide : 0 < rect.width) (tall : 0 < rect.height)
    (inside : rect.Inside jpeg.raster.width jpeg.raster.height) (raster : Raster α) :
    Yields (cropThenOrient (library luma scaler) rect call) (holding jpeg subsamp {}) raster ↔
      Yields (transform (library luma scaler)) (holding jpeg subsamp (pending rect op))
        raster := by
  have widthLe := jpeg.width_le_maxInt
  have heightLe := jpeg.height_le_maxInt
  have columns := inside.1
  have rows := inside.2
  have accepted : EStateM.run (crop rect.x rect.y rect.width rect.height)
      (holding jpeg subsamp {}) =
      .ok () ((holding jpeg subsamp {}).cropped rect.x rect.y rect.width rect.height) := by
    rw [run_crop_eq_ok_iff (by omega) (by omega)]
    simp only [getWidth, getHeight, holding, Jpeg.width_header, Jpeg.height_header]
    exact ⟨by omega, by omega, by omega, trivial⟩
  unfold Yields cropThenOrient
  rw [Method.run_bind_ok accepted, Method.run_bind_ok (call.run_method _), records]
  rfl

/-- A native transform that can be carried out selects the rectangle in the turned
image. -/
theorem yields_pending_iff (typed : jpeg.getSubsamp = some subsamp)
    (wide : 0 < rect.width) (tall : 0 < rect.height)
    (inside : rect.Inside jpeg.raster.width jpeg.raster.height) (raster : Raster α) :
    Yields (transform (library luma scaler)) (holding jpeg subsamp (pending rect op))
        raster ↔
      cropFits jpeg.raster.width jpeg.raster.height subsamp rect.width rect.height ∧
        (subsamp.turned op.orientation).isSome = true ∧
        rect.Inside (op.orientation • jpeg.raster).width
          (op.orientation • jpeg.raster).height ∧
        (rect.x % (if op.orientation.transpose then subsamp.mcuHeight
            else subsamp.mcuWidth) = 0 ∧
          rect.y % (if op.orientation.transpose then subsamp.mcuWidth
            else subsamp.mcuHeight) = 0) ∧
        (op.orientation • jpeg.raster).crop rect = raster := by
  have bounds : (pending rect op).Bounds rect := bounds_pending wide tall inside
  have fits : destinationFits (jpeg.header subsamp) (pending rect op) ↔
      cropFits jpeg.raster.width jpeg.raster.height subsamp rect.width rect.height :=
    destinationFits_bounded (by rw [bounds.width]; omega) (by rw [bounds.height]; omega)
  rw [yields_transform_iff typed, fits]
  rw [← Jpeg.iMCUSampleWidth_turned typed op.orientation (hasGray_pending rect op),
    ← Jpeg.iMCUSampleHeight_turned typed op.orientation (hasGray_pending rect op)]
  apply and_congr_right
  intro fits
  constructor
  · intro yielded
    rcases yielded with ⟨out, transformed, known, rfl⟩
    by_cases accepted : rect.Inside (op.orientation • jpeg.raster).width
        (op.orientation • jpeg.raster).height ∧
      rect.x % (jpeg.turned op.orientation).iMCUSampleWidth (pending rect op) = 0 ∧
      rect.y % (jpeg.turned op.orientation).iMCUSampleHeight (pending rect op) = 0
    · rcases accepted with ⟨turnedInside, aligned⟩
      obtain ⟨out', transformed', outRaster, outSubsamp⟩ := Jpeg.tjTransform_cropped
        luma typed hasCrop_pending (hasGray_pending rect op) bounds turnedInside aligned
      rw [transformed] at transformed'
      cases transformed'
      exact ⟨outSubsamp ▸ known, turnedInside, aligned, outRaster.symm⟩
    · obtain ⟨message, refused⟩ :=
        Jpeg.tjTransform_refused luma hasCrop_pending bounds accepted
      rw [refused] at transformed
      cases transformed
  · intro selected
    rcases selected with ⟨known, turnedInside, aligned, rfl⟩
    obtain ⟨out, transformed, outRaster, outSubsamp⟩ := Jpeg.tjTransform_cropped
      luma typed hasCrop_pending (hasGray_pending rect op) bounds turnedInside aligned
    exact ⟨out, transformed, outSubsamp ▸ known, outRaster⟩

/-- A rectangle on the MCU grid that an orientation maps to itself is on the grid of
the turned image as well. -/
theorem aligned_of_orient_eq {width height : ℕ} {orientation : Orientation}
    (fixed : rect.orient orientation width height = rect)
    (columns : subsamp.mcuWidth ∣ width) (rows : subsamp.mcuHeight ∣ height)
    (left : subsamp.mcuWidth ∣ rect.x) (top : subsamp.mcuHeight ∣ rect.y)
    (wide : subsamp.mcuWidth ∣ rect.width) (tall : subsamp.mcuHeight ∣ rect.height) :
    rect.x % (if orientation.transpose then subsamp.mcuHeight else subsamp.mcuWidth) = 0 ∧
      rect.y % (if orientation.transpose then subsamp.mcuWidth
        else subsamp.mcuHeight) = 0 := by
  cases transposed : orientation.transpose with
  | false => exact ⟨Nat.mod_eq_zero_of_dvd left, Nat.mod_eq_zero_of_dvd top⟩
  | true =>
      -- the fixed rectangle gets each offset from the other axis
      have sameX := congrArg Rect.x fixed
      have sameY := congrArg Rect.y fixed
      simp only [Rect.orient, transposed, Rect.flip, Rect.swap, if_true] at sameX sameY
      constructor
      · apply Nat.mod_eq_zero_of_dvd
        rw [if_pos rfl, ← sameX]
        split
        · exact Nat.dvd_sub (Nat.dvd_sub rows top) tall
        · exact top
      · apply Nat.mod_eq_zero_of_dvd
        rw [if_pos rfl, ← sameY]
        split
        · exact Nat.dvd_sub (Nat.dvd_sub columns left) wide
        · exact left

/-- On an image with all pixels different the turned image shows the wanted part at
the rectangle's place only if the orientation keeps that place. -/
theorem orient_eq_of_crop_eq {orientation : Orientation} {image : Raster α}
    (injective : image.Injective) (inside : rect.Inside image.width image.height)
    (wide : 0 < rect.width) (tall : 0 < rect.height)
    (turnedInside : rect.Inside (orientation • image).width (orientation • image).height)
    (same : (orientation • image).crop rect = orientation • image.crop rect) :
    rect.orient orientation image.width image.height = rect := by
  have place := inside.orient orientation
  rw [← Raster.width_smul, ← Raster.height_smul] at place
  rw [← Raster.crop_orient orientation inside] at same
  exact ((injective.smul orientation).rect_eq turnedInside place wide tall same).symm

/-- On every source of given dimensions and subsampling the three calls deliver the
cropped image in the requested orientation. -/
def CropsFirst (width height : ℕ) (subsamp : Subsamp) (rect : Rect) (call : OrientationCall) :
    Prop :=
  ∀ (α : Type) (luma : α → α) (scaler : Scaler α) (jpeg : Jpeg α)
      (image : JpegImage (Jpeg α)),
    create (library luma scaler) jpeg = .ok image → image.decomp.width = width →
    image.decomp.height = height → image.decomp.subsamp = subsamp →
      Yields (cropThenOrient (library luma scaler) rect call) image
        (call.requested • jpeg.raster.crop rect)

/-- Crop, reorient and transform deliver the reoriented part of every source of given
dimensions and subsampling exactly when the orientation maps the rectangle to itself,
the file that is written can be read again and the destination buffer is a valid
array. -/
theorem crop_then_orient_iff (width height : ℕ) (subsamp : Subsamp) (rect : Rect)
    (call : OrientationCall) (turns : call ≠ .rotate 0)
    (widthPos : 0 < width) (heightPos : 0 < height)
    (widthLe : width ≤ maxDimension) (heightLe : height ≤ maxDimension)
    (columns : subsamp.mcuWidth ∣ width) (rows : subsamp.mcuHeight ∣ height)
    (left : subsamp.mcuWidth ∣ rect.x) (top : subsamp.mcuHeight ∣ rect.y)
    (wideMcus : subsamp.mcuWidth ∣ rect.width) (tallMcus : subsamp.mcuHeight ∣ rect.height)
    (wide : 0 < rect.width) (tall : 0 < rect.height) (inside : rect.Inside width height) :
    CropsFirst width height subsamp rect call ↔
      rect.orient call.requested width height = rect ∧
        ¬(subsamp = .samp411 ∧ call.requested.transpose = true) ∧
        cropFits width height subsamp rect.width rect.height := by
  rcases OrientationCall.exists_recorded turns with ⟨op, records⟩
  rw [CropsFirst, ← OrientationCall.requested_of_recorded records]
  constructor
  · intro delivers
    have typed := Jpeg.getSubsamp_labelled subsamp widthPos heightPos widthLe heightLe
    have delivered := delivers _ id Scaler.nearest _ _ (create_library typed) rfl rfl rfl
    rw [yields_cropThenOrient records wide tall inside,
      yields_pending_iff typed wide tall inside, turned_isSome_iff] at delivered
    rcases delivered with ⟨fits, readable, turnedInside, -, same⟩
    exact ⟨orient_eq_of_crop_eq (Raster.labelled_injective width height) inside wide tall
      turnedInside same, readable, fits⟩
  · rintro ⟨fixed, readable, fits⟩ α luma scaler jpeg image created sameWidth sameHeight
      sameSubsamp
    rcases create_library_iff.mp created with ⟨subsamp, typed, rfl⟩
    have rasterWidth : jpeg.raster.width = width := Int.ofNat_inj.mp sameWidth
    have rasterHeight : jpeg.raster.height = height := Int.ofNat_inj.mp sameHeight
    subst rasterWidth rasterHeight sameSubsamp
    have place := inside.orient op.orientation
    rw [fixed, ← Raster.width_smul, ← Raster.height_smul] at place
    rw [yields_cropThenOrient records wide tall inside,
      yields_pending_iff typed wide tall inside, turned_isSome_iff]
    refine ⟨fits, readable, place, aligned_of_orient_eq fixed columns rows left top
      wideMcus tallMcus, ?_⟩
    rw [← Raster.crop_orient op.orientation inside, fixed]

/-- A central rectangle keeps its place in a quarter turn. -/
theorem crop_then_orient_central :
    CropsFirst 24 24 .samp444 ⟨8, 8, 8, 8⟩ (.rotate 1) :=
  (crop_then_orient_iff 24 24 .samp444 ⟨8, 8, 8, 8⟩ (.rotate 1) (by decide) (by decide)
    (by decide) (by decide) (by decide) (by decide) (by decide) (by decide) (by decide)
    (by decide) (by decide) (by decide) (by decide) (by decide)).mpr
    ⟨by decide, by decide, by decide⟩

/-- The left half of an image, cropped and mirrored, shows the right half. -/
theorem crop_then_flip_shows_other_half :
    let source := Jpeg.labelled 16 8 .samp444 (by decide) (by decide) (by decide) (by decide)
    let half : Rect := ⟨0, 0, 8, 8⟩
    create (library id Scaler.nearest) source = .ok (holding source .samp444 {}) ∧
      (∃ accepted, EStateM.run (crop half.x half.y half.width half.height)
        (holding source .samp444 {}) = .ok () accepted) ∧
      ¬Yields (cropThenOrient (library id Scaler.nearest) half .flipHorizontal)
        (holding source .samp444 {})
        (OrientationCall.flipHorizontal.requested • source.raster.crop half) := by
  have typed : (Jpeg.labelled 16 8 .samp444 (by decide) (by decide) (by decide)
      (by decide)).getSubsamp = some .samp444 := Jpeg.getSubsamp_labelled _ _ _ _ _
  refine ⟨create_library typed, ⟨_, rfl⟩, ?_⟩
  rw [yields_cropThenOrient rfl (by decide) (by decide) (by decide),
    yields_pending_iff typed (by decide) (by decide) (by decide)]
  intro yielded
  rcases yielded with ⟨-, -, -, -, same⟩
  have corner := congrArg (fun raster => raster.pixel 0 0) same
  revert corner
  decide

end CropOrder

end IiifImage.JpegImage
