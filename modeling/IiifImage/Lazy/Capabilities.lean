import IiifImage.Crops.Lossless
import IiifImage.Lazy.Buffers

/-!
# Scalings that the repository supports

The repository says in advance whether it can scale an image and convert its depth, and the
image checks again when it is asked to.  The two are compared for native functions that do
what is asked of them.
-/

namespace IiifImage

open Java TurboJpeg

/-- The scaler makes a file of the requested size out of the data, with the given
subsampling, and files that it has made can be transformed in place. -/
structure TurboJpeg.Natives.SucceedsOn {δ : Type} (natives : Natives δ) (data : δ)
    (source : Header) (written : Subsamp) : Prop where
  scales : ∀ width height : ℤ, 1 ≤ width ∧ width ≤ source.width →
    1 ≤ height ∧ height ≤ source.height →
    ∃ scaled header, natives.downScaleJpegImage data width height 85 = .ok scaled ∧
      natives.Marked scaled ∧ natives.decompressHeader scaled = .ok header ∧
      (header.width = width ∧ header.height = height) ∧ header.subsamp = written
  transforms : ∀ width height scaled t,
    natives.downScaleJpegImage data width height 85 = .ok scaled →
    t.op = .none → t.hasCrop = false →
    ∃ out, natives.transform scaled t = .ok out ∧ natives.Decodable out

namespace JpegTranImage

variable {δ : Type} {natives : Natives δ} {data : δ} {image : JpegTranImage δ}
variable {target : ResizeParameters} {written : Subsamp}

/-- The image with other data and the header read from it. -/
def withData (image : JpegTranImage δ) (data : δ) (header : Header) : JpegTranImage δ :=
  { image with jpegImage := image.jpegImage.withData data header }

/-- A target that is not larger than the image is scaled to. -/
theorem run_scale_of_accepted (image : JpegTranImage δ) (idle : ¬image.jpegImage.Pending)
    (succeeds : natives.SucceedsOn image.jpegImage.imgData image.jpegImage.decomp written)
    (differs : ¬(image.width = target.width ∧ image.height = target.height))
    (accepts : image.jpegImage.Accepts target.width target.height) :
    ∃ scaled header,
      natives.downScaleJpegImage image.jpegImage.imgData target.width target.height 85 =
        .ok scaled ∧
      natives.decompressHeader scaled = .ok header ∧
      ((header.width = target.width ∧ header.height = target.height) ∧
        header.subsamp = written) ∧
      EStateM.run (scale natives target) image = .ok () (image.withData scaled header) := by
  obtain ⟨scaled, header, returned, marked, parsed, described⟩ :=
    succeeds.scales target.width target.height accepts.1 accepts.2
  refine ⟨scaled, header, returned, parsed, described, ?_⟩
  have stored : EStateM.run (JpegImage.downScale natives target.width target.height 85)
      image.jpegImage = .ok () (image.jpegImage.withData scaled header) := by
    rw [JpegImage.run_downScale_of_accepted (JpegImage.run_flush_of_not_pending idle) accepts,
      returned, Method.run_ofExcept_ok_bind]
    obtain ⟨header', parsed', run⟩ := JpegImage.run_setImageData_of_decodable
      ⟨marked, header, parsed⟩ image.jpegImage
    rw [parsed] at parsed'
    cases parsed'
    exact run
  rw [scale, Method.run_get_bind, if_neg differs, Method.run_rethrow, onJpeg,
    Method.run_on_ok stored]
  rfl

/-- A larger one is refused. -/
theorem run_scale_of_rejected (natives : Natives δ) (image : JpegTranImage δ)
    (idle : ¬image.jpegImage.Pending)
    (differs : ¬(image.width = target.width ∧ image.height = target.height))
    (rejects : ¬image.jpegImage.Accepts target.width target.height) :
    ∃ exception, EStateM.run (scale natives target) image = .error exception image := by
  have flushed : EStateM.run (JpegImage.flush natives) image.jpegImage =
      .ok () image.jpegImage := JpegImage.run_flush_of_not_pending idle
  obtain ⟨message, refused⟩ := JpegImage.run_downScale_of_rejected flushed rejects 85
  rw [scale, Method.run_get_bind, if_neg differs, Method.run_rethrow, onJpeg,
    Method.run_on_error refused]
  exact ⟨_, rfl⟩

/-- The final transform returns if its buffer can be allocated. -/
theorem performTransformation_returns_iff
    (describes : natives.decompressHeader image.jpegImage.imgData = .ok image.jpegImage.decomp)
    (unbounded : image.jpegImage.transformOptions.width = 0 ∧
      image.jpegImage.transformOptions.height = 0)
    (succeeds : ∃ out, natives.transform image.jpegImage.imgData
      image.jpegImage.transformOptions = .ok out ∧ natives.Decodable out) :
    (∃ final, EStateM.run (performTransformation natives) image = .ok ⟨⟩ final) ↔
      0 ≤ tjBufSize image.jpegImage.decomp.width image.jpegImage.decomp.height
        image.jpegImage.decomp.subsamp := by
  rw [← destinationFits_unbounded unbounded.1 unbounded.2]
  constructor
  · intro returned
    rcases returned with ⟨final, returned⟩
    by_contra misfit
    obtain ⟨exception, thrown, -⟩ := JpegImage.run_transform_of_not_fits describes misfit
    rw [performTransformation, Method.run_rethrow, onJpeg, Method.run_on_error thrown]
      at returned
    cases returned
  · intro fits
    rcases succeeds with ⟨out, transformed, decodable⟩
    obtain ⟨header, -, stored⟩ :=
      JpegImage.run_setImageData_of_decodable decodable image.jpegImage
    have ran : EStateM.run (JpegImage.transform natives) image.jpegImage =
        .ok () ⟨header, {}, out⟩ := by
      rw [JpegImage.run_transform_of_fits describes fits, transformed,
        Method.run_ofExcept_ok_bind, Method.run_bind_ok stored]
      rfl
    rw [performTransformation, Method.run_rethrow, onJpeg, Method.run_on_ok ran]
    exact ⟨_, rfl⟩

/-! ## The law -/

/-- The conversion to a depth, if one is given. -/
def toGivenDepth : Option ImageBitDepth → Method Throwable (JpegTranImage δ) Unit
  | none => pure ()
  | some depth => toDepth depth

/-- The three calls return. -/
def CarriesOut (natives : Natives δ) (target : ResizeParameters) (depth : Option ImageBitDepth)
    (image : JpegTranImage δ) : Prop :=
  ∃ final, EStateM.run (do
    scale natives target
    toGivenDepth depth
    performTransformation natives) image = .ok ⟨⟩ final

/-- After the scaling only a depth other than grayscale and the length of the buffer can
make the calls fail. -/
theorem carriesOut_scaled_iff (image : JpegTranImage δ) {scaled : δ} {header : Header}
    (depth : Option ImageBitDepth)
    (idle : image.jpegImage.transformOptions = {})
    (parsed : natives.decompressHeader scaled = .ok header)
    (transforms : ∀ t : TJTransform, t.op = .none → t.hasCrop = false →
      ∃ out, natives.transform scaled t = .ok out ∧ natives.Decodable out) :
    (∃ final, EStateM.run (do
        toGivenDepth depth
        performTransformation natives) (image.withData scaled header) = .ok ⟨⟩ final) ↔
      (depth = none ∨ depth = some .grayscale) ∧
        0 ≤ tjBufSize header.width header.height header.subsamp := by
  have state : image.withData scaled header =
      ⟨⟨header, {}, scaled⟩, image.height, image.width⟩ := by
    rw [withData, JpegImage.withData, idle]
  rw [state]
  cases depth with
  | none =>
      rw [and_iff_right (.inl rfl)]
      exact performTransformation_returns_iff parsed ⟨rfl, rfl⟩ (transforms {} rfl rfl)
  | some depth =>
      by_cases gray : depth = .grayscale
      · have converted : EStateM.run (toGivenDepth (some depth))
            (⟨⟨header, {}, scaled⟩, image.height, image.width⟩ : JpegTranImage δ) =
            .ok ⟨⟩ ⟨⟨header, ({} : TJTransform).addOption optGray, scaled⟩, image.height,
              image.width⟩ := by
          rw [gray]
          rfl
        rw [Method.run_bind_ok converted, gray, and_iff_right (.inr rfl)]
        exact performTransformation_returns_iff parsed ⟨rfl, rfl⟩
          (transforms _ rfl (TJTransform.hasCrop_addOption_gray _))
      · have refused : ∃ exception, EStateM.run (toGivenDepth (some depth))
            (⟨⟨header, {}, scaled⟩, image.height, image.width⟩ : JpegTranImage δ) =
            .error exception ⟨⟨header, {}, scaled⟩, image.height, image.width⟩ := by
          rw [toGivenDepth, toDepth, if_neg gray]
          exact ⟨_, rfl⟩
        rcases refused with ⟨exception, refused⟩
        rw [Method.run_bind_error refused]
        constructor
        · intro returned
          rcases returned with ⟨final, returned⟩
          cases returned
        · intro supported
          rcases supported with ⟨none | some, -⟩
          · cases none
          · exact absurd (Option.some.inj some) gray

/-- The calls return on a new image if the target is smaller, the depth is that of grayscale
images and the buffer for the scaled image can be allocated. -/
theorem carriesOut_iff {depth : Option ImageBitDepth} (created : create natives data = .ok image)
    (succeeds : natives.SucceedsOn data image.jpegImage.decomp written)
    (positive : 1 ≤ target.width ∧ 1 ≤ target.height)
    (differs : ¬(image.width = target.width ∧ image.height = target.height)) :
    CarriesOut natives target depth image ↔
      (target.width ≤ image.width ∧ target.height ≤ image.height) ∧
        (depth = none ∨ depth = some .grayscale) ∧
        0 ≤ tjBufSize target.width target.height written := by
  rcases made_of_create created with ⟨header, parsed, rfl⟩
  have idle : ¬(⟨header, {}, data⟩ : JpegImage δ).Pending := by
    rintro (op | nonempty)
    · exact op rfl
    · cases nonempty
  by_cases fits : target.width ≤ header.width ∧ target.height ≤ header.height
  · have accepts : (⟨header, {}, data⟩ : JpegImage δ).Accepts target.width target.height :=
      ⟨⟨positive.1, fits.1⟩, positive.2, fits.2⟩
    obtain ⟨scaled, scaledHeader, returned, scaledParsed, ⟨⟨wide, tall⟩, subsamp⟩, run⟩ :=
      run_scale_of_accepted ⟨⟨header, {}, data⟩, header.height, header.width⟩ idle succeeds
        differs accepts
    have rest := carriesOut_scaled_iff ⟨⟨header, {}, data⟩, header.height, header.width⟩ depth
      rfl scaledParsed fun t op crop => succeeds.transforms _ _ scaled t returned op crop
    rw [wide, tall, subsamp] at rest
    rw [CarriesOut, Method.run_bind_ok run, rest, and_iff_right fits]
  · have rejects : ¬(⟨header, {}, data⟩ : JpegImage δ).Accepts target.width target.height :=
      fun accepts => fits ⟨accepts.1.2, accepts.2.2⟩
    obtain ⟨exception, refused⟩ := run_scale_of_rejected natives
      ⟨⟨header, {}, data⟩, header.height, header.width⟩ idle differs rejects
    rw [CarriesOut, Method.run_bind_error refused]
    constructor
    · intro returned
      rcases returned with ⟨final, returned⟩
      cases returned
    · intro condition
      exact absurd condition.1 fits

/-- A supported scaling and depth are carried out exactly if the target is not larger than the
image, the depth is not that of colour images, and the length of the buffer for the scaled
image is a valid one. -/
theorem supported_carriedOut_iff {δ : Type} {natives : Natives δ} {data : δ}
    {image : JpegTranImage δ} {target : ResizeParameters} {depth : Option ImageBitDepth}
    {written : Subsamp} (created : create natives data = .ok image)
    (succeeds : natives.SucceedsOn data image.jpegImage.decomp written)
    (positive : 1 ≤ target.width ∧ 1 ≤ target.height)
    (scales : ImageRepositoryJpegTranImpl.supportsScaleOperation ⟨image.width, image.height⟩
      (some target) = true)
    (depths : ImageRepositoryJpegTranImpl.supportsBitDepth depth = true) :
    CarriesOut natives target depth image ↔
      (target.width ≤ image.width ∧ target.height ≤ image.height) ∧ depth ≠ some .color ∧
        paddedSize target.width target.height written % 4294967296 ≤ maxInt := by
  simp only [ImageRepositoryJpegTranImpl.supportsScaleOperation, decide_eq_true_eq] at scales
  simp only [ImageRepositoryJpegTranImpl.supportsBitDepth, decide_eq_true_eq] at depths
  have differs : ¬(image.width = target.width ∧ image.height = target.height) := by omega
  have supported : (depth = none ∨ depth = some .grayscale) ↔ depth ≠ some .color := by
    rcases depths with rfl | rfl | rfl <;> simp
  rw [carriesOut_iff created succeeds positive differs, supported,
    tjBufSize_nonneg_iff positive.1 positive.2]

/-! ## A file of 100 by 200 pixels -/

/-- A portrait file, without subsampling. -/
def portraitFile : Jpeg (ℕ × ℕ) :=
  .labelled 100 200 .samp444 (by decide) (by decide) (by decide) (by decide)

theorem create_portraitFile :
    create (library id Scaler.nearest) portraitFile = .ok (ofJpeg portraitFile .samp444 {}) :=
  create_library_iff.mpr ⟨.samp444, Jpeg.getSubsamp_labelled _ _ _ _ _, rfl⟩

/-- The library scales it with its usual subsampling. -/
theorem succeedsOn_portraitFile :
    (library id Scaler.nearest).SucceedsOn portraitFile (portraitFile.header .samp444)
      .samp420 where
  scales width height wide tall := by
    have size := Jpeg.size_downScaleJpegImage Scaler.nearest 85 wide tall
    exact ⟨_, _, rfl, rfl, JpegImage.decompressHeader_library Jpeg.getSubsamp_downScaleJpegImage,
      size, rfl⟩
  transforms width height scaled t written op uncropped := by
    cases written
    have typed : (portraitFile.downScaleJpegImage Scaler.nearest width height 85).getSubsamp =
        some .samp420 := Jpeg.getSubsamp_downScaleJpegImage
    have writable : (portraitFile.downScaleJpegImage Scaler.nearest width height 85).Writable
        t.hasGray := by
      cases t.hasGray with
      | true => exact .inl rfl
      | false => exact Option.isSome_of_eq_some typed
    have succeeds := Jpeg.tjTransform_idle_succeeds_iff id typed uncropped
    rw [op, Jpeg.turned_none] at succeeds
    obtain ⟨out, outSubsamp, transformed, outTyped⟩ := succeeds.mpr writable
    exact ⟨out, transformed, rfl, _, JpegImage.decompressHeader_library outTyped⟩

/-- Half of it in grayscale. -/
theorem supported_carriedOut_half :
    CarriesOut (library id Scaler.nearest) { width := 50, height := 90 } (some .grayscale)
      (ofJpeg portraitFile .samp444 {}) :=
  (supported_carriedOut_iff create_portraitFile succeedsOn_portraitFile
    ⟨by decide, by decide⟩ (by decide) (by decide)).mpr
    ⟨⟨by decide, by decide⟩, by decide, by decide +kernel⟩

/-- A target that is wider than the file is supported as long as it is not higher than the
width, and a conversion to colour is supported as well.  Both are refused. -/
theorem supported_scale_refused :
    (ImageRepositoryJpegTranImpl.supportsScaleOperation ⟨100, 200⟩
        (some { width := 150, height := 50 }) = true ∧
      ¬CarriesOut (library id Scaler.nearest) { width := 150, height := 50 } none
        (ofJpeg portraitFile .samp444 {})) ∧
    (ImageRepositoryJpegTranImpl.supportsScaleOperation ⟨100, 200⟩
        (some { width := 50, height := 90 }) = true ∧
      ImageRepositoryJpegTranImpl.supportsBitDepth (some .color) = true ∧
      ¬CarriesOut (library id Scaler.nearest) { width := 50, height := 90 } (some .color)
        (ofJpeg portraitFile .samp444 {})) := by
  refine ⟨⟨by decide, ?_⟩, by decide, by decide, ?_⟩
  · rw [carriesOut_iff create_portraitFile succeedsOn_portraitFile ⟨by decide, by decide⟩
      (by decide)]
    rintro ⟨⟨wide, -⟩, -⟩
    exact absurd wide (by decide)
  · rw [carriesOut_iff create_portraitFile succeedsOn_portraitFile ⟨by decide, by decide⟩
      (by decide)]
    rintro ⟨-, none | some, -⟩
    · cases none
    · cases some

end JpegTranImage

end IiifImage
