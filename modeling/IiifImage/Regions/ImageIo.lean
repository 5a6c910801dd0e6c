import IiifImage.Backend.Operations
import IiifImage.Business.ImageService

/-!
# Regions on the ImageIO backend

The region of a request is applied by the reader, which clips it to the image, and
then once more by the crop step if the clipped image does not have the dimensions of
the region.  The second application reads the offsets in the clipped image.
-/

namespace IiifImage.JAIImage

open Java ImageService

variable {δ α : Type} {io : ImageIo δ α} {fp : Rounding}

/-- The pixels of the image, if there are any. -/
def pixels (self : JAIImage α) : Option (Raster α) := self.image.map BufferedImage.raster

/-! ## The reader -/

section Reader

variable {reader : ImageReader α} {source : BufferedImage α} {data : δ}
variable {region : RegionParameters} {rect : Rect}

/-- Without an absolute region the whole source is read. -/
theorem create_of_whole (readable : io.readerFor data = some reader)
    (decodes : reader.image = .ok source) {region : Option RegionParameters}
    (whole : region.filter RegionParameters.absolute = none) :
    create io data region = .ok { image := some source, formatString := reader.formatName } := by
  rw [create, readable]
  dsimp only
  rw [whole, decodes]
  rfl

theorem create_absolute (readable : io.readerFor data = some reader)
    (absolute : region.absolute = true) :
    create io data (some region) = (do
      ImageReader.setSourceRegion region.horizontalOffset.ceilToInt
        region.verticalOffset.ceilToInt region.width.ceilToInt region.height.ceilToInt
      let image ← reader.readRegion region.horizontalOffset.ceilToInt
        region.verticalOffset.ceilToInt region.width.ceilToInt region.height.ceilToInt
      return { image := some image, formatString := reader.formatName }) := by
  have kept : (some region).filter RegionParameters.absolute = some region := by
    rw [Option.filter_some, if_pos absolute]
  rw [create, readable]
  dsimp only
  rw [kept]

/-- The constructor of an image with a region that starts inside the source reads the
part of the region inside the source. -/
theorem create_of_bounds (readable : io.readerFor data = some reader)
    (decodes : reader.image = .ok source) (absolute : region.absolute = true)
    (bounds : region.bounds fp source.raster.width source.raster.height =
      (↑rect.x, ↑rect.y, ↑rect.width, ↑rect.height))
    (left : rect.x < source.raster.width) (top : rect.y < source.raster.height)
    (wide : 0 < rect.width) (tall : 0 < rect.height) :
    ∃ part, create io data (some region) =
        .ok { image := some part, formatString := reader.formatName } ∧
      part.raster = source.raster.crop rect ∧ part.type = source.type := by
  rcases RegionParameters.ceilToInt_of_bounds absolute bounds with
    ⟨⟨sameX, sameY⟩, sameWide, sameTall⟩
  have nonempty : 0 < (source.raster.crop rect).width ∧
      0 < (source.raster.crop rect).height := by
    rw [Raster.width_crop, Raster.height_crop]
    omega
  rcases BufferedImage.cropTo_of_nonempty nonempty with ⟨part, selected, raster, type⟩
  have valid : ImageReader.setSourceRegion rect.x rect.y rect.width rect.height = .ok () := by
    rw [ImageReader.setSourceRegion, if_neg (by omega), if_neg (by omega), if_neg (by omega),
      if_neg (by omega)]
  have read : reader.readRegion rect.x rect.y rect.width rect.height = .ok part := by
    simp only [ImageReader.readRegion, decodes, Int.toNat_natCast, Method.except_ok_bind,
      selected]
    rfl
  rw [create_absolute readable absolute, sameX, sameY, sameWide, sameTall, valid,
    Method.except_ok_bind, read]
  exact ⟨part, rfl, raster, type⟩

/-- A region that selects a pixel is read, clipped to the source. -/
theorem create_of_selects (readable : io.readerFor data = some reader)
    (decodes : reader.image = .ok source) (absolute : region.absolute = true)
    (selects : region.Selects source.raster.width source.raster.height) :
    ∃ part, create io data (some region) =
        .ok { image := some part, formatString := reader.formatName } ∧
      (part.raster.width : ℤ) = min region.width.ceilToInt
        (source.raster.width - region.horizontalOffset.ceilToInt) ∧
      (part.raster.height : ℤ) = min region.height.ceilToInt
        (source.raster.height - region.verticalOffset.ceilToInt) ∧
      part.type = source.type := by
  rcases selects.exists_rect absolute .exact with ⟨rect, bounds, ⟨left, top⟩, wide, tall⟩
  rcases RegionParameters.ceilToInt_of_bounds absolute bounds with
    ⟨⟨sameX, sameY⟩, sameWide, sameTall⟩
  rcases create_of_bounds readable decodes absolute bounds left top wide tall with
    ⟨part, created, raster, type⟩
  refine ⟨part, created, ?_, ?_, type⟩
  · rw [raster, Raster.width_crop, sameX, sameWide]
    omega
  · rw [raster, Raster.height_crop, sameY, sameTall]
    omega

/-- A region that selects no pixel is refused by the reader. -/
theorem create_of_not_selects (readable : io.readerFor data = some reader)
    (decodes : reader.image = .ok source) (absolute : region.absolute = true)
    (misses : ¬region.Selects source.raster.width source.raster.height) :
    ∃ message, create io data (some region) = .error (.illegalArgument message) := by
  rw [create_absolute readable absolute, ImageReader.setSourceRegion]
  split
  · exact ⟨_, rfl⟩
  split
  · exact ⟨_, rfl⟩
  split
  · exact ⟨_, rfl⟩
  split
  · exact ⟨_, rfl⟩
  next =>
    -- the region is valid, but no pixel of the source is in it
    have empty : ¬(0 < (source.raster.crop ⟨region.horizontalOffset.ceilToInt.toNat,
          region.verticalOffset.ceilToInt.toNat, region.width.ceilToInt.toNat,
          region.height.ceilToInt.toNat⟩).width ∧
        0 < (source.raster.crop ⟨region.horizontalOffset.ceilToInt.toNat,
          region.verticalOffset.ceilToInt.toNat, region.width.ceilToInt.toNat,
          region.height.ceilToInt.toNat⟩).height) := by
      rw [RegionParameters.selects_iff] at misses
      rw [Raster.width_crop, Raster.height_crop]
      dsimp only
      omega
    rw [Method.except_ok_bind, ImageReader.readRegion, decodes, Method.except_ok_bind,
      BufferedImage.cropTo, dif_neg empty]
    exact ⟨_, rfl⟩

end Reader

/-! ## The crop step after the reader -/

section Steps

variable {self : JAIImage α} {image : BufferedImage α} {rect : Rect}

theorem reports_of_present (present : self.image = some image) :
    Reports (methods io fp) self image.raster.width image.raster.height :=
  ⟨run_getWidth present, run_getHeight present⟩

/-- An image with the dimensions of the region passes the crop step as it is. -/
theorem run_regionStep_same (io : ImageIo δ α) (fp : Rounding) (self : JAIImage α)
    (present : self.image = some image)
    (representable : rect.Representable) (wide : image.raster.width = rect.width)
    (tall : image.raster.height = rect.height) :
    EStateM.run (regionStep fp (methods io fp)) ⟨self, some (.ofRect fp rect)⟩ =
      .ok ⟨⟩ ⟨self, some (.ofRect fp rect)⟩ := by
  rw [run_regionStep_ofRect (reports_of_present present) representable
    (wide ▸ representable.width) (tall ▸ representable.height), if_neg (by omega)]

/-- An image with other dimensions is cropped to the part of the rectangle inside it, and
a rectangle that starts outside of it is rejected. -/
theorem run_regionStep_differs (io : ImageIo δ α) (fp : Rounding) (self : JAIImage α)
    (present : self.image = some image)
    (representable : rect.Representable) (wide : image.raster.width ≤ 16777216)
    (tall : image.raster.height ≤ 16777216) (widthPos : 0 < rect.width)
    (heightPos : 0 < rect.height)
    (differs : image.raster.width ≠ rect.width ∨ image.raster.height ≠ rect.height) :
    (rect.x < image.raster.width ∧ rect.y < image.raster.height ∧ ∃ part,
        EStateM.run (regionStep fp (methods io fp)) ⟨self, some (.ofRect fp rect)⟩ =
          .ok ⟨⟩ ⟨{ self with image := some part }, some (.ofRect fp rect)⟩ ∧
        part.raster = image.raster.crop rect) ∨
      (image.raster.width ≤ rect.x ∨ image.raster.height ≤ rect.y) ∧ ∃ message,
        EStateM.run (regionStep fp (methods io fp)) ⟨self, some (.ofRect fp rect)⟩ =
          .error (.invalidParameters message) ⟨self, some (.ofRect fp rect)⟩ := by
  have bounds := RegionParameters.bounds_ofRect fp representable image.raster.width
    image.raster.height
  have xLe := representable.x
  have yLe := representable.y
  have widthLe := representable.width
  have heightLe := representable.height
  rw [run_regionStep_ofRect (reports_of_present present) representable wide tall,
    if_pos differs]
  by_cases starts : rect.x < image.raster.width ∧ rect.y < image.raster.height
  · obtain ⟨part, returned, raster⟩ := run_crop_inside present bounds starts.1 starts.2
      widthPos heightPos (by unfold maxInt; omega) (by unfold maxInt; omega)
      (by unfold maxInt; omega) (by unfold maxInt; omega)
    refine .inl ⟨starts.1, starts.2, part, ?_, raster⟩
    exact Method.run_on_ok returned
  · rcases run_crop_outside present bounds (by omega) with ⟨message, thrown⟩
    exact .inr ⟨by omega, message, Method.run_on_error thrown⟩

/-- An image of another format is converted. -/
theorem run_formatStep_of_written (fp : Rounding) {format : ImageFormat} {data : δ}
    {converted : Option (BufferedImage α)} (region : Option RegionParameters)
    (present : self.image = some image)
    (differs : getFormatFromString self.formatString ≠ some format)
    (written : write io image (Text.toLowerCase format.name) = .ok data)
    (readBack : read io data = .ok converted) :
    EStateM.run (formatStep (methods io fp) format) ⟨self, region⟩ =
      .ok ⟨⟩ ⟨{ image := converted, formatString := format.name }, region⟩ := by
  have formatRead : EStateM.run (onImage (methods io fp).getFormat) ⟨self, region⟩ =
      .ok (getFormatFromString self.formatString) ⟨self, region⟩ := rfl
  rw [formatStep, Method.run_bind_ok formatRead, if_pos differs.symm]
  exact Method.run_on_ok (run_convert_of_written present differs written readBack)

/-- An image of one format can be delivered in another one without a change of its
pixels: it has that format already, or writing it in that format loses nothing. -/
def KeepsPixels (io : ImageIo δ α) (formatString : JString) (format : ImageFormat) : Prop :=
  getFormatFromString formatString = some format ∨
    ∀ image : BufferedImage α, ∃ data converted,
      write io image (Text.toLowerCase format.name) = .ok data ∧
        read io data = .ok (some converted) ∧ converted.raster = image.raster

/-- Delivering such an image does not change its pixels. -/
theorem run_formatStep_pixels (fp : Rounding) {format : ImageFormat}
    (region : Option RegionParameters) (present : self.image = some image)
    (keeps : KeepsPixels io self.formatString format) :
    ∃ final, EStateM.run (formatStep (methods io fp) format) ⟨self, region⟩ =
        .ok ⟨⟩ final ∧ final.image.pixels = some image.raster := by
  by_cases same : getFormatFromString self.formatString = some format
  · refine ⟨_, run_formatStep (by rw [← same]; rfl), ?_⟩
    rw [pixels, present, Option.map_some]
  · obtain ⟨data, converted, written, readBack, raster⟩ :=
      (keeps.resolve_left same) image
    refine ⟨⟨{ image := some converted, formatString := format.name }, region⟩, ?_, ?_⟩
    · exact run_formatStep_of_written fp region present same written readBack
    · exact congrArg some raster

end Steps

/-! ## The whole request -/

section Request

variable {self : JAIImage α} {image : BufferedImage α} {rect : Rect}
variable {getImageData : JString → Except Throwable δ} {identifier : JString}
variable {format : ImageFormat} {region : Option RegionParameters}

/-- The request for a region in full size and without rotation delivers the given
pixels. -/
def DeliversRegion (io : ImageIo δ α) (fp : Rounding)
    (getImageData : JString → Except Throwable δ) (identifier : JString) (rect : Rect)
    (format : ImageFormat) (raster : Raster α) : Prop :=
  ∃ created final,
    ImageRepositoryImageIoImpl.createImage io getImageData identifier
      (some (.ofRect fp rect)) = .ok created ∧
    EStateM.run (transformImage fp (methods io fp) none (some ⟨0, false⟩) none format)
      ⟨created, some (.ofRect fp rect)⟩ = .ok ⟨⟩ final ∧
    final.image.pixels = some raster

/-- After the region step the pixels of the image are those that are delivered. -/
theorem run_transformImage_pixels {mid : Objects (JAIImage α)}
    (ran : EStateM.run (regionStep fp (methods io fp)) ⟨self, region⟩ = .ok ⟨⟩ mid)
    (present : mid.image.image = some image)
    (keeps : KeepsPixels io mid.image.formatString format) :
    ∃ final, EStateM.run (transformImage fp (methods io fp) none (some ⟨0, false⟩) none
        format) ⟨self, region⟩ = .ok ⟨⟩ final ∧ final.image.pixels = some image.raster := by
  obtain ⟨final, converted, raster⟩ :=
    run_formatStep_pixels fp mid.region present keeps
  refine ⟨final, ?_, raster⟩
  rw [transformImage_plain, Method.run_bind_ok ran, Method.run_bind_ok converted]
  rfl

section Law

variable {reader : ImageReader α} {source : BufferedImage α} {data : δ}

/-- A source that can be read, and a region that starts inside it. -/
structure Readable (io : ImageIo δ α) (getImageData : JString → Except Throwable δ)
    (identifier : JString) (reader : ImageReader α) (source : BufferedImage α)
    (rect : Rect) : Prop where
  stored : ∃ data, getImageData identifier = .ok data ∧ io.readerFor data = some reader
  decodes : reader.image = .ok source
  representable : rect.Representable
  left : rect.x < source.raster.width
  top : rect.y < source.raster.height
  wide : 0 < rect.width
  tall : 0 < rect.height

theorem Readable.createImage (readable : Readable io getImageData identifier reader source rect)
    (fp : Rounding) :
    ∃ part, ImageRepositoryImageIoImpl.createImage io getImageData identifier
        (some (.ofRect fp rect)) =
          .ok { image := some part, formatString := reader.formatName } ∧
      part.raster = source.raster.crop rect := by
  rcases readable.stored with ⟨data, stored, readerFound⟩
  obtain ⟨part, made, raster, -⟩ := create_of_bounds readerFound readable.decodes rfl
    (RegionParameters.bounds_ofRect fp readable.representable _ _) readable.left readable.top
    readable.wide readable.tall
  refine ⟨part, ?_, raster⟩
  rw [ImageRepositoryImageIoImpl.createImage, stored, Method.except_ok_bind, made]

/-- A region inside the image is delivered: the crop step is left out. -/
theorem Readable.delivers_of_inside
    (readable : Readable io getImageData identifier reader source rect)
    (keeps : KeepsPixels io reader.formatName format)
    (inside : rect.Inside source.raster.width source.raster.height) :
    DeliversRegion io fp getImageData identifier rect format (source.raster.crop rect) := by
  rcases readable.createImage fp with ⟨part, created, raster⟩
  have partWidth : part.raster.width = rect.width := by
    rw [raster, Raster.width_crop_of_inside inside]
  have partHeight : part.raster.height = rect.height := by
    rw [raster, Raster.height_crop_of_inside inside]
  obtain ⟨final, returned, pixels⟩ := run_transformImage_pixels
    (run_regionStep_same io fp { image := some part, formatString := reader.formatName }
      rfl readable.representable partWidth partHeight) rfl keeps
  exact ⟨_, final, created, returned, raster ▸ pixels⟩

theorem deliversRegion_iff_of_run {created : JAIImage α} {final : Objects (JAIImage α)}
    {raster : Raster α}
    (opened : ImageRepositoryImageIoImpl.createImage io getImageData identifier
      (some (.ofRect fp rect)) = .ok created)
    (returned : EStateM.run (transformImage fp (methods io fp) none (some ⟨0, false⟩) none format)
      ⟨created, some (.ofRect fp rect)⟩ = .ok ⟨⟩ final) :
    DeliversRegion io fp getImageData identifier rect format raster ↔
      final.image.pixels = some raster := by
  constructor
  · intro delivered
    rcases delivered with ⟨other, result, openedOther, returnedResult, pixels⟩
    rw [opened] at openedOther
    cases openedOther
    rw [returned] at returnedResult
    cases returnedResult
    exact pixels
  · intro pixels
    exact ⟨created, final, opened, returned, pixels⟩

theorem not_deliversRegion_of_thrown {created : JAIImage α} {raster : Raster α}
    {exception : Throwable} {state : Objects (JAIImage α)}
    (opened : ImageRepositoryImageIoImpl.createImage io getImageData identifier
      (some (.ofRect fp rect)) = .ok created)
    (thrown : EStateM.run (regionStep fp (methods io fp)) ⟨created, some (.ofRect fp rect)⟩ =
      .error exception state) :
    ¬DeliversRegion io fp getImageData identifier rect format raster := by
  intro delivered
  rcases delivered with ⟨other, result, openedOther, returnedResult, -⟩
  rw [opened] at openedOther
  cases openedOther
  rw [transformImage_plain, Method.run_bind_error thrown] at returnedResult
  cases returnedResult

/-- A region over the edge is cropped a second time. -/
theorem Readable.delivers_overEdge_iff
    (readable : Readable io getImageData identifier reader source rect)
    (keeps : KeepsPixels io reader.formatName format)
    (overEdge : ¬rect.Inside source.raster.width source.raster.height) :
    DeliversRegion io fp getImageData identifier rect format (source.raster.crop rect) ↔
      rect.x = 0 ∧ rect.y = 0 := by
  rcases readable.createImage fp with ⟨part, created, raster⟩
  have partWidth : part.raster.width = min rect.width (source.raster.width - rect.x) := by
    rw [raster, Raster.width_crop]
  have partHeight : part.raster.height = min rect.height (source.raster.height - rect.y) := by
    rw [raster, Raster.height_crop]
  have widthLe := readable.representable.width
  have heightLe := readable.representable.height
  have left := readable.left
  have top := readable.top
  have wide := readable.wide
  have tall := readable.tall
  have clipped : part.raster.width ≠ rect.width ∨ part.raster.height ≠ rect.height := by
    by_contra same
    exact overEdge ⟨by omega, by omega⟩
  obtain ⟨leftAgain, topAgain, cropped, ran, again⟩ | ⟨outside, message, refused⟩ :=
    run_regionStep_differs io fp { image := some part, formatString := reader.formatName }
      rfl readable.representable (by omega) (by omega) wide tall clipped
  · rcases run_transformImage_pixels ran rfl keeps with ⟨final, returned, pixels⟩
    -- a second crop away from the origin makes the image smaller
    rw [deliversRegion_iff_of_run created returned, pixels, again, ← raster, Option.some_inj,
      Raster.crop_eq_self_iff part.width_pos part.height_pos]
    constructor
    · intro covers
      exact covers.1
    · intro atOrigin
      exact ⟨atOrigin, by omega, by omega⟩
  · exact iff_of_false (not_deliversRegion_of_thrown created refused) (by omega)

/-- The request delivers the part of the region inside the image exactly when the region
lies inside the image or starts at its origin. -/
theorem region_delivered_iff (fp : Rounding)
    (readable : Readable io getImageData identifier reader source rect)
    (keeps : KeepsPixels io reader.formatName format) :
    DeliversRegion io fp getImageData identifier rect format (source.raster.crop rect) ↔
      rect.Inside source.raster.width source.raster.height ∨ (rect.x = 0 ∧ rect.y = 0) := by
  by_cases inside : rect.Inside source.raster.width source.raster.height
  · exact ⟨fun _ => .inl inside, fun _ => readable.delivers_of_inside keeps inside⟩
  · rw [or_iff_right inside]
    exact readable.delivers_overEdge_iff keeps inside

end Law

/-! ## An image of ten by ten pixels -/

/-- The decoded file. -/
def smallSource : BufferedImage (ℕ × ℕ) :=
  BufferedImage.labelled 10 10 (Nat.succ_pos 9) (Nat.succ_pos 9)

/-- An installation of ImageIO that reads one JPEG file and has no writers. -/
def readingIo (source : BufferedImage α) : ImageIo Unit α where
  readerFor _ := some { formatName := ['J', 'P', 'E', 'G'], image := .ok source }
  writerFormatNames := []
  encode _ _ := .ok ()
  noData := ()
  recolor _ := id
  scaler := Scaler.nearest

theorem readable_smallSource (rect : Rect) (representable : rect.Representable)
    (left : rect.x < 10) (top : rect.y < 10) (wide : 0 < rect.width) (tall : 0 < rect.height) :
    Readable (readingIo smallSource) (fun _ => .ok ()) []
      { formatName := ['J', 'P', 'E', 'G'], image := .ok smallSource } smallSource rect :=
  ⟨⟨(), rfl, rfl⟩, rfl, representable, left, top, wide, tall⟩

/-- A region inside the image is delivered. -/
theorem region_delivered_inside :
    DeliversRegion (readingIo smallSource) .exact (fun _ => .ok ()) [] ⟨2, 3, 4, 5⟩ .jpeg
      (smallSource.raster.crop ⟨2, 3, 4, 5⟩) :=
  (region_delivered_iff .exact (readable_smallSource ⟨2, 3, 4, 5⟩
    ⟨by decide, by decide, by decide, by decide⟩ (by decide) (by decide) (by decide)
    (by decide)) (.inl (by decide))).mpr (.inl (by decide))

/-- The region `5,0,10,10` reaches over the right edge.  The reader returns its five
columns inside the image, and the crop step then rejects its offset. -/
theorem region_overEdge_rejected :
    ¬DeliversRegion (readingIo smallSource) .exact (fun _ => .ok ()) [] ⟨5, 0, 10, 10⟩ .jpeg
      (smallSource.raster.crop ⟨5, 0, 10, 10⟩) := by
  rw [Readable.delivers_overEdge_iff (readable_smallSource ⟨5, 0, 10, 10⟩
    ⟨by decide, by decide, by decide, by decide⟩ (by decide) (by decide) (by decide)
    (by decide)) (.inl (by decide)) (by decide)]
  decide

end Request

end IiifImage.JAIImage
