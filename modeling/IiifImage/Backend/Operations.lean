import IiifImage.Backend.JAIImage

/-!
# Operations on the ImageIO backend

Every operation replaces the buffered image or throws, and one of its arguments decides
which.  There is one theorem for each end, with the dimensions of the new image.
-/

namespace IiifImage

open Java

/-- Dimensions after a clockwise rotation. -/
def ImageService.turnedSize (degrees : ℤ) (dimensions : ℤ × ℤ) : ℤ × ℤ :=
  if degrees = 90 ∨ degrees = 270 then dimensions.swap else dimensions

namespace BufferedImage

variable {α : Type}

/-- The type is known, the dimensions are not too large together, and the length of the data
array is an `int`. -/
def Creatable (type : ImageType) (width height : ℤ) : Prop :=
  type ≠ .custom ∧ width * height < maxInt ∧ dataLength type width height ≤ maxInt

instance (type : ImageType) (width height : ℤ) : Decidable (Creatable type width height) :=
  inferInstanceAs (Decidable (_ ∧ _))

theorem dataLength_nonneg (type : ImageType) {width height : ℤ} (widthNonneg : 0 ≤ width)
    (heightNonneg : 0 ≤ height) : 0 ≤ dataLength type width height := by
  have pixels : 0 ≤ width * height := Int.mul_nonneg widthNonneg heightNonneg
  unfold dataLength
  split
  · omega
  · positivity
  · split <;> omega
  · exact pixels

theorem allocate_of_creatable {type : ImageType} {width height : ℤ}
    (creatable : Creatable type width height) (widthNonneg : 0 ≤ width)
    (heightNonneg : 0 ≤ height) : allocate type width height = .ok () := by
  rcases creatable with ⟨known, small, length⟩
  have nonneg := dataLength_nonneg type widthNonneg heightNonneg
  rw [allocate, if_neg known, wrap_of_range (minInt_le_of_nonneg nonneg) length,
    if_neg (by omega), if_neg (by omega), if_neg (by omega)]

/-- Any other image is refused by an unchecked exception. -/
theorem allocate_of_not_creatable {type : ImageType} {width height : ℤ}
    (oversized : ¬Creatable type width height) :
    ∃ exception, allocate type width height = .error exception ∧
      exception.isClientError = false := by
  rw [allocate]
  split
  · exact ⟨_, rfl, rfl⟩
  split
  · exact ⟨_, rfl, rfl⟩
  split
  · exact ⟨_, rfl, rfl⟩
  split
  · exact ⟨_, rfl, rfl⟩
  next known _ small length =>
    exact absurd ⟨known, by omega, by omega⟩ oversized

theorem creatable_optimalType_iff (image : BufferedImage α) {width height : ℤ} :
    Creatable image.optimalType width height ↔ width * height < maxInt := by
  rw [optimalType]
  split
  · exact ⟨fun creatable => creatable.2.1, fun small => ⟨by decide, small, small.le⟩⟩
  · exact ⟨fun creatable => creatable.2.1, fun small => ⟨by decide, small, small.le⟩⟩

theorem drawn_of_creatable {image : BufferedImage α} (recolor : ImageType → α → α)
    {type : ImageType} (creatable : Creatable type image.raster.width image.raster.height) :
    ∃ drawn, image.drawn recolor type = .ok drawn ∧
      drawn.raster.width = image.raster.width ∧ drawn.raster.height = image.raster.height := by
  rw [drawn, allocate_of_creatable creatable (Int.natCast_nonneg _) (Int.natCast_nonneg _)]
  exact ⟨_, rfl, rfl, rfl⟩

theorem drawn_of_not_creatable {image : BufferedImage α} (recolor : ImageType → α → α)
    {type : ImageType} (oversized : ¬Creatable type image.raster.width image.raster.height) :
    ∃ exception, image.drawn recolor type = .error exception ∧
      exception.isClientError = false := by
  rcases allocate_of_not_creatable oversized with ⟨exception, thrown, unchecked⟩
  refine ⟨exception, ?_, unchecked⟩
  rw [drawn, thrown]
  rfl

end BufferedImage

namespace JAIImage

open ImageService BufferedImage

variable {δ α : Type} {self : JAIImage α} {image : BufferedImage α}

/-! ## Mirroring and bit depth -/

theorem width_mirrored (image : BufferedImage α) :
    (image.reorient .mirrorColumns).raster.width = image.raster.width := by
  simp [BufferedImage.reorient, Orientation.mirrorColumns]

theorem height_mirrored (image : BufferedImage α) :
    (image.reorient .mirrorColumns).raster.height = image.raster.height := by
  simp [BufferedImage.reorient, Orientation.mirrorColumns]

/-- Mirroring draws into an image of the same type. -/
theorem run_flipHorizontally_of_creatable (io : ImageIo δ α) (present : self.image = some image)
    (creatable : Creatable image.type image.raster.width image.raster.height) :
    ∃ flipped, EStateM.run (flipHorizontally io) self =
        .ok ⟨⟩ { self with image := some flipped } ∧
      ((flipped.raster.width : ℤ), (flipped.raster.height : ℤ)) =
        (↑image.raster.width, ↑image.raster.height) := by
  rw [← width_mirrored, ← height_mirrored] at creatable
  rcases drawn_of_creatable io.recolor creatable with ⟨flipped, drawn, sameWidth, sameHeight⟩
  refine ⟨flipped, ?_, ?_⟩
  · rw [flipHorizontally, run_buffered_bind present, drawn]
    rfl
  · rw [sameWidth, sameHeight, width_mirrored, height_mirrored]

theorem run_flipHorizontally_of_not_creatable (io : ImageIo δ α)
    (present : self.image = some image)
    (oversized : ¬Creatable image.type image.raster.width image.raster.height) :
    ∃ exception, EStateM.run (flipHorizontally io) self = .error exception self ∧
      exception.isClientError = false := by
  rw [← width_mirrored, ← height_mirrored] at oversized
  rcases drawn_of_not_creatable io.recolor oversized with ⟨exception, thrown, unchecked⟩
  refine ⟨exception, ?_, unchecked⟩
  rw [flipHorizontally, run_buffered_bind present, thrown]
  rfl

theorem run_toDepth_of_creatable (io : ImageIo δ α) (present : self.image = some image)
    {depth : ImageBitDepth}
    (creatable : Creatable (depthType depth) image.raster.width image.raster.height) :
    ∃ drawn, EStateM.run (toDepth io depth) self = .ok ⟨⟩ { self with image := some drawn } ∧
      ((drawn.raster.width : ℤ), (drawn.raster.height : ℤ)) =
        (↑image.raster.width, ↑image.raster.height) := by
  rcases drawn_of_creatable io.recolor creatable with ⟨drawn, returned, sameWidth, sameHeight⟩
  refine ⟨drawn, ?_, ?_⟩
  · rw [toDepth, run_buffered_bind present, returned]
    rfl
  · rw [sameWidth, sameHeight]

theorem run_toDepth_of_not_creatable (io : ImageIo δ α) (present : self.image = some image)
    {depth : ImageBitDepth}
    (oversized : ¬Creatable (depthType depth) image.raster.width image.raster.height) :
    ∃ exception, EStateM.run (toDepth io depth) self = .error exception self ∧
      exception.isClientError = false := by
  rcases drawn_of_not_creatable io.recolor oversized with ⟨exception, thrown, unchecked⟩
  refine ⟨exception, ?_, unchecked⟩
  rw [toDepth, run_buffered_bind present, thrown]
  rfl

/-- Eight pixels of a bitonal image share an element of the data array. -/
theorem creatable_byteBinary_iff {width height : ℤ} (widthPos : 0 < width)
    (heightNonneg : 0 ≤ height) :
    Creatable .byteBinary width height ↔ width * height < maxInt := by
  constructor
  · intro creatable
    exact creatable.2.1
  · intro small
    have packed : (width + 7) / 8 ≤ width := by omega
    have length : (width + 7) / 8 * height ≤ width * height :=
      mul_le_mul_of_nonneg_right packed heightNonneg
    exact ⟨by decide, small, length.trans small.le⟩

/-- Whether an image of another bit depth can be created does not depend on which side is
which. -/
theorem creatable_depthType_comm (depth : ImageBitDepth) {width height : ℤ}
    (widthPos : 0 < width) (heightPos : 0 < height) :
    Creatable (depthType depth) height width ↔ Creatable (depthType depth) width height := by
  cases depth with
  | grayscale =>
      simp only [Creatable, depthType, dataLength]
      rw [mul_comm]
  | color =>
      simp only [Creatable, depthType, dataLength]
      rw [mul_comm]
  | bitonal =>
      simp only [depthType]
      rw [creatable_byteBinary_iff heightPos widthPos.le,
        creatable_byteBinary_iff widthPos heightPos.le, mul_comm]

/-! ## Rotation -/

theorem size_scalrRotate (orientation : Orientation) (image : BufferedImage α) :
    (((image.scalrRotate orientation).raster.width : ℤ),
        ((image.scalrRotate orientation).raster.height : ℤ)) =
      if orientation.transpose then ((image.raster.height : ℤ), (image.raster.width : ℤ))
      else (↑image.raster.width, ↑image.raster.height) := by
  simp only [BufferedImage.scalrRotate, BufferedImage.reorient, Raster.width_smul,
    Raster.height_smul]
  split <;> rfl

/-- A rotation by right angles exchanges the sides after an odd number of them. -/
theorem run_rotate_of_rightAngle (present : self.image = some image) {degrees : ℤ}
    (nonneg : 0 ≤ degrees) (rightAngle : degrees % 90 = 0) :
    ∃ turned, EStateM.run (rotate degrees) self =
        .ok ⟨⟩ { self with image := some turned } ∧
      ((turned.raster.width : ℤ), (turned.raster.height : ℤ)) =
        turnedSize degrees (↑image.raster.width, ↑image.raster.height) := by
  have remainder : degrees.tmod 90 = degrees % 90 := Int.tmod_eq_emod_of_nonneg nonneg
  rw [rotate, if_neg (by omega)]
  split
  next threeQuarters =>
    rw [run_buffered_bind present, turnedSize, if_pos (by omega)]
    exact ⟨_, rfl, size_scalrRotate (Orientation.quarterTurn ^ 3) image⟩
  split
  next quarter =>
    rw [run_buffered_bind present, turnedSize, if_pos (by omega)]
    exact ⟨_, rfl, size_scalrRotate Orientation.quarterTurn image⟩
  split
  next half =>
    rw [run_buffered_bind present, turnedSize, if_neg (by omega)]
    exact ⟨_, rfl, size_scalrRotate (Orientation.quarterTurn ^ 2) image⟩
  next =>
    rw [turnedSize, if_neg (by omega)]
    refine ⟨image, ?_, rfl⟩
    rw [← present]
    rfl

/-- Other angles are refused by an unchecked exception. -/
theorem run_rotate_of_oblique (self : JAIImage α) {degrees : ℤ} (nonneg : 0 ≤ degrees)
    (oblique : degrees % 90 ≠ 0) :
    ∃ message, EStateM.run (rotate degrees) self =
      .error (.unsupportedOperation message) self := by
  have remainder : degrees.tmod 90 = degrees % 90 := Int.tmod_eq_emod_of_nonneg nonneg
  rw [rotate, if_pos (by omega)]
  exact ⟨_, rfl⟩

/-! ## Scaling -/

variable {target : ResizeParameters}

theorem run_scale_of_same (io : ImageIo δ α) (present : self.image = some image)
    (same : ((image.raster.width : ℤ), (image.raster.height : ℤ)) =
      (target.width, target.height)) :
    EStateM.run (scale io target) self = .ok ⟨⟩ self := by
  rw [scale, run_buffered_bind present, if_pos (Prod.mk.inj same)]
  rfl

/-- Another target gives a new image, which can be too large to be created. -/
theorem run_scale_of_differs (io : ImageIo δ α) (present : self.image = some image)
    (differs : ((image.raster.width : ℤ), (image.raster.height : ℤ)) ≠
      (target.width, target.height))
    (wide : 1 ≤ target.width) (tall : 1 ≤ target.height)
    (small : target.width * target.height < maxInt) :
    ∃ resized, EStateM.run (scale io target) self =
        .ok ⟨⟩ { self with image := some resized } ∧
      ((resized.raster.width : ℤ), (resized.raster.height : ℤ)) =
        (target.width, target.height) ∧
      resized.type = image.optimalType := by
  rw [Ne, Prod.mk.injEq] at differs
  rw [scale, run_buffered_bind present, if_neg differs, scalrResize,
    dif_pos ⟨by omega, by omega⟩,
    allocate_of_creatable ((creatable_optimalType_iff image).mpr small) (by omega) (by omega)]
  refine ⟨_, rfl, ?_, rfl⟩
  dsimp only
  rw [io.scaler.width_downScale, io.scaler.height_downScale, Int.toNat_of_nonneg (by omega),
    Int.toNat_of_nonneg (by omega)]

/-- A target without pixels or with too many of them is refused by an unchecked
exception. -/
theorem run_scale_of_refused (io : ImageIo δ α) (present : self.image = some image)
    (differs : ((image.raster.width : ℤ), (image.raster.height : ℤ)) ≠
      (target.width, target.height))
    (refused : ¬((1 ≤ target.width ∧ 1 ≤ target.height) ∧
      target.width * target.height < maxInt)) :
    ∃ exception, EStateM.run (scale io target) self = .error exception self ∧
      exception.isClientError = false := by
  rw [Ne, Prod.mk.injEq] at differs
  rw [scale, run_buffered_bind present, if_neg differs, scalrResize]
  split
  next positive =>
    have oversized : ¬Creatable image.optimalType target.width target.height := by
      rw [creatable_optimalType_iff]
      exact fun small => refused ⟨by omega, small⟩
    rcases allocate_of_not_creatable oversized with ⟨exception, thrown, unchecked⟩
    rw [thrown]
    exact ⟨exception, rfl, unchecked⟩
  next => exact ⟨_, rfl, rfl⟩

/-! ## Conversion -/

/-- An image of another format is written and read back. -/
theorem run_convert_of_written {io : ImageIo δ α} {format : ImageFormat} {data : δ}
    {converted : Option (BufferedImage α)} (present : self.image = some image)
    (differs : getFormatFromString self.formatString ≠ some format)
    (written : write io image (Text.toLowerCase format.name) = .ok data)
    (readBack : read io data = .ok converted) :
    EStateM.run (convert io format) self =
      .ok ⟨⟩ { image := converted, formatString := format.name } := by
  have current : EStateM.run getFormat self =
      .ok (getFormatFromString self.formatString) self := rfl
  rw [convert, Method.run_bind_ok current, if_pos differs, Method.run_rethrow,
    run_writeArgument_bind present, written, Method.run_ofExcept_ok_bind, readBack]
  rfl

end JAIImage

end IiifImage
