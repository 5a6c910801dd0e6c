import IiifImage.Business.Fallback
import IiifImage.Requests.PlainPath
import IiifImage.Sizes.Delivered

/-!
# Requests for whole JPEG files on both backends

`getImage` takes the lossless backend for every JPEG file that is requested whole and
not bitonal.  The size and the rotation are looked at later, when there is no other
backend left to try.
-/

namespace IiifImage

open Java TurboJpeg ImageService

/-! ## The lossless backend -/

namespace JpegTranImage

variable {α : Type} {luma : α → α} {scaler : Scaler α} {fp : Rounding}
variable {jpeg : Jpeg α} {subsamp : Subsamp} {image : JpegTranImage (Jpeg α)}
variable {rotation : RotationParameters} {bitDepth : Option ImageBitDepth}
variable {region : Option RegionParameters}

/-- The operation that is pending after the rotation step: a rotation by a right angle
replaces the mirroring. -/
def requestedOp (rotation : RotationParameters) : TJOp :=
  if rotation.degrees = 90 then .rot90
  else if rotation.degrees = 180 then .rot180
  else if rotation.degrees = 270 then .rot270
  else if rotation.mirrorHorizontally then .hflip
  else .none

theorem run_rotateStep {natives : Natives (Jpeg α)} (multiple : rotation.degrees % 90 = 0)
    (nonneg : 0 ≤ rotation.degrees) (small : rotation.degrees ≤ 270)
    (holds : image.jpegImage = JpegImage.holding jpeg subsamp {}) :
    EStateM.run (rotateStep (methods natives fp) (some rotation)) ⟨image, region⟩ =
      .ok ⟨⟩ ⟨{ image with
        jpegImage := JpegImage.holding jpeg subsamp { op := requestedOp rotation } },
        region⟩ := by
  rcases image with ⟨jpegImage, height, width⟩
  rcases rotation with ⟨degrees, mirrored⟩
  dsimp only at multiple nonneg small holds
  subst holds
  have angles : degrees = 0 ∨ degrees = 90 ∨ degrees = 180 ∨ degrees = 270 := by omega
  rcases angles with rfl | rfl | rfl | rfl
  all_goals cases mirrored <;> rfl

/-- A full turn is rejected. -/
theorem run_rotateStep_fullTurn (natives : Natives (Jpeg α)) (fp : Rounding)
    (image : JpegTranImage (Jpeg α)) (region : Option RegionParameters)
    (full : rotation.degrees = 360) :
    ∃ exception final, EStateM.run (rotateStep (methods natives fp) (some rotation))
      ⟨image, region⟩ = .error exception final := by
  rcases rotation with ⟨degrees, mirrored⟩
  dsimp only at full
  subst full
  cases mirrored <;> exact ⟨_, _, rfl⟩

theorem transpose_requestedOp (rotation : RotationParameters) :
    (requestedOp rotation).orientation.transpose =
      decide (rotation.degrees = 90 ∨ rotation.degrees = 270) := by
  rw [requestedOp]
  split
  next quarter => simp [TJOp.orientation, quarter]
  split
  next half => simp [TJOp.orientation, half]
  split
  next threeQuarters => simp [TJOp.orientation, threeQuarters]
  next quarter half threeQuarters =>
    rw [decide_eq_false (by omega)]
    split <;> rfl

theorem size_requestedOp (rotation : RotationParameters) (raster : Raster α) :
    ((((requestedOp rotation).orientation • raster).width : ℤ),
        (((requestedOp rotation).orientation • raster).height : ℤ)) =
      turnedSize rotation.degrees (↑raster.width, ↑raster.height) := by
  rw [Raster.width_smul, Raster.height_smul, transpose_requestedOp, turnedSize]
  by_cases turns : rotation.degrees = 90 ∨ rotation.degrees = 270 <;> simp [turns]

/-- The file that a transform writes can be read again, and the transform can change its
depth. -/
def Recodes (subsamp : Subsamp) (colorspace : Colorspace) (degrees : ℤ) :
    Option ImageBitDepth → Prop
  | none => ¬(subsamp = .samp411 ∧ (degrees = 90 ∨ degrees = 270))
  | some .grayscale => colorspace = .ycbcr ∨ colorspace = .gray
  | some .color => False
  | some .bitonal => False

instance (subsamp : Subsamp) (colorspace : Colorspace) (degrees : ℤ) :
    DecidablePred (Recodes subsamp colorspace degrees)
  | none => inferInstanceAs (Decidable (¬_))
  | some .grayscale => inferInstanceAs (Decidable (_ ∨ _))
  | some .color => inferInstanceAs (Decidable False)
  | some .bitonal => inferInstanceAs (Decidable False)

theorem recodes_iff (typed : jpeg.getSubsamp = some subsamp) :
    Recodes subsamp jpeg.colorspace rotation.degrees bitDepth ↔
      (bitDepth = none ∨ bitDepth = some .grayscale) ∧
        (jpeg.turned (requestedOp rotation).orientation).Writable
          (decide (bitDepth = some .grayscale)) := by
  have turned := Jpeg.getSubsamp_turned typed (requestedOp rotation).orientation
  have known := JpegImage.turned_isSome_iff subsamp (requestedOp rotation).orientation
  rw [transpose_requestedOp, decide_eq_true_eq, ← turned] at known
  match bitDepth with
  | none => simp only [Recodes, Jpeg.Writable, ← known]; simp
  | some .grayscale => simp [Recodes, Jpeg.Writable, Jpeg.ConvertibleToGray]
  | some .color => simp [Recodes]
  | some .bitonal => simp [Recodes]

/-- The target has the dimensions of the file. -/
def IsSize (jpeg : Jpeg α) (target : ℤ × ℤ) : Prop :=
  ((jpeg.raster.width : ℤ), (jpeg.raster.height : ℤ)) = target

instance (jpeg : Jpeg α) (target : ℤ × ℤ) : Decidable (IsSize jpeg target) :=
  inferInstanceAs (Decidable (_ = _))

def dataSize (image : JpegTranImage (Jpeg α)) : ℤ × ℤ :=
  (image.jpegImage.imgData.raster.width, image.jpegImage.imgData.raster.height)

/-- The operations after the sizing step return the turned dimensions of the file that it
left exactly when there is no full turn, the file can be recoded and the destination
buffer can be allocated. -/
theorem afterSizing_delivers_iff (fp : Rounding) (luma : α → α) (scaler : Scaler α)
    {target : ℤ × ℤ} (typed : jpeg.getSubsamp = some subsamp)
    (holds : image.jpegImage = JpegImage.holding jpeg subsamp {}) (sized : IsSize jpeg target)
    (multiple : rotation.degrees % 90 = 0) (nonneg : 0 ≤ rotation.degrees)
    (atMost : rotation.degrees ≤ 360) :
    (∃ final, EStateM.run (afterSizing (methods (library luma scaler) fp) (some rotation)
          bitDepth .jpeg) ⟨image, region⟩ = .ok ⟨⟩ final ∧
        dataSize final.image = turnedSize rotation.degrees target) ↔
      rotation.degrees ≠ 360 ∧
        Recodes subsamp jpeg.colorspace rotation.degrees bitDepth ∧
        0 ≤ tjBufSize target.1 target.2 subsamp := by
  cases sized
  have steps : afterSizing (methods (library luma scaler) fp) (some rotation) bitDepth .jpeg =
      (do
        rotateStep (methods (library luma scaler) fp) (some rotation)
        finish (library luma scaler) fp bitDepth .jpeg) := rfl
  rw [steps]
  by_cases full : rotation.degrees = 360
  · obtain ⟨exception, final, thrown⟩ :=
      run_rotateStep_fullTurn (library luma scaler) fp image region full
    simp [Method.run_bind_error thrown, full]
  have rotated : EStateM.run (rotateStep (methods (library luma scaler) fp) (some rotation))
      ⟨image, region⟩ = .ok ⟨⟩ ⟨_, region⟩ :=
    run_rotateStep multiple nonneg (by omega) holds
  simp only [Method.run_bind_ok rotated, run_finish_eq_ok_iff]
  have uncropped : (withDepth bitDepth { op := requestedOp rotation }).hasCrop = false :=
    hasCrop_withDepth.trans (TJTransform.hasCrop_of_no_options rfl)
  have gray : (withDepth bitDepth { op := requestedOp rotation }).hasGray =
      decide (bitDepth = some .grayscale) :=
    hasGray_withDepth (TJTransform.hasGray_of_no_options rfl)
  have written := Jpeg.tjTransform_idle_succeeds_iff luma typed uncropped
  rw [op_withDepth, gray] at written
  have fits : destinationFits (jpeg.header subsamp)
      (withDepth bitDepth { op := requestedOp rotation }) ↔
      0 ≤ tjBufSize jpeg.raster.width jpeg.raster.height subsamp :=
    destinationFits_unbounded (width_withDepth bitDepth _) (height_withDepth bitDepth _)
  rw [recodes_iff typed, ← written]
  constructor
  · intro delivered
    rcases delivered with ⟨final, ⟨-, depths, after, returned, rfl⟩, -⟩
    obtain ⟨enough, out, outSubsamp, transformed, outTyped, rfl⟩ :=
      (JpegImage.run_transform_eq_ok_iff typed).mp returned
    exact ⟨full, ⟨depths, out, outSubsamp, transformed, outTyped⟩, fits.mp enough⟩
  · intro carried
    rcases carried with ⟨-, ⟨depths, out, outSubsamp, transformed, outTyped⟩, enough⟩
    have returned : EStateM.run (JpegImage.transform (library luma scaler))
        (JpegImage.holding jpeg subsamp (withDepth bitDepth { op := requestedOp rotation })) =
          .ok () (JpegImage.holding out outSubsamp {}) :=
      JpegImage.run_transform_ok typed (fits.mpr enough) transformed outTyped
    refine ⟨_, ⟨trivial, depths, _, returned, rfl⟩, ?_⟩
    obtain ⟨sameWidth, sameHeight⟩ :=
      Jpeg.tjTransform_size_uncropped typed uncropped transformed
    rw [op_withDepth] at sameWidth sameHeight
    rw [← size_requestedOp, ← sameWidth, ← sameHeight]
    rfl

/-! Scaling replaces the file, also its subsampling and its colour space. -/

section Sizing

variable {size : Option ResizeParameters} {target : ℤ × ℤ}

/-- The subsampling of the file after the sizing step. -/
def sizedSubsamp (jpeg : Jpeg α) (subsamp : Subsamp) (target : ℤ × ℤ) : Subsamp :=
  if IsSize jpeg target then subsamp else Jpeg.scaledSubsamp jpeg.colorspace 85

/-- The colour space of the file after the sizing step. -/
def sizedColorspace (jpeg : Jpeg α) (target : ℤ × ℤ) : Colorspace :=
  if IsSize jpeg target then jpeg.colorspace else Jpeg.epegColorspace jpeg.colorspace

/-- The lossless backend can carry out a request for the whole file in a size: nothing is
enlarged, there is no full turn, and the sized file can be recoded into a buffer that can
be allocated. -/
structure Carries (jpeg : Jpeg α) (subsamp : Subsamp) (target : ℤ × ℤ) (degrees : ℤ)
    (bitDepth : Option ImageBitDepth) : Prop where
  notLarger : target.1 ≤ jpeg.raster.width ∧ target.2 ≤ jpeg.raster.height
  turns : degrees ≠ 360
  recodes : Recodes (sizedSubsamp jpeg subsamp target) (sizedColorspace jpeg target) degrees
    bitDepth
  allocates : 0 ≤ tjBufSize target.1 target.2 (sizedSubsamp jpeg subsamp target)

theorem carries_iff {sized : Subsamp} {colorspace : Colorspace} {degrees : ℤ}
    (notLarger : target.1 ≤ jpeg.raster.width ∧ target.2 ≤ jpeg.raster.height)
    (sameSubsamp : sizedSubsamp jpeg subsamp target = sized)
    (sameColorspace : sizedColorspace jpeg target = colorspace) :
    Carries jpeg subsamp target degrees bitDepth ↔
      degrees ≠ 360 ∧ Recodes sized colorspace degrees bitDepth ∧
        0 ≤ tjBufSize target.1 target.2 sized := by
  subst sameSubsamp sameColorspace
  constructor
  · intro carries
    rcases carries with ⟨-, turns, recodes, allocates⟩
    exact ⟨turns, recodes, allocates⟩
  · intro carried
    rcases carried with ⟨turns, recodes, allocates⟩
    exact ⟨notLarger, turns, recodes, allocates⟩

/-! `scale` on a file with nothing pending. -/

theorem run_scale_same (luma : α → α) (scaler : Scaler α) {resolved : ResizeParameters}
    (same : IsSize jpeg (resolved.width, resolved.height)) :
    EStateM.run (scale (library luma scaler) resolved) (ofJpeg jpeg subsamp {}) =
      .ok ⟨⟩ (ofJpeg jpeg subsamp {}) := by
  rcases Prod.mk.inj same with ⟨sameWidth, sameHeight⟩
  rw [scale, Method.run_get_bind, width_ofJpeg, height_ofJpeg,
    if_pos ⟨sameWidth, sameHeight⟩]
  rfl

theorem run_scale_smaller (luma : α → α) (scaler : Scaler α) {resolved : ResizeParameters}
    (positive : 1 ≤ resolved.width ∧ 1 ≤ resolved.height)
    (differs : ¬IsSize jpeg (resolved.width, resolved.height))
    (smaller : resolved.width ≤ jpeg.raster.width ∧ resolved.height ≤ jpeg.raster.height) :
    EStateM.run (scale (library luma scaler) resolved) (ofJpeg jpeg subsamp {}) =
      .ok ⟨⟩ { ofJpeg jpeg subsamp {} with
        jpegImage := JpegImage.holding
          (jpeg.downScaleJpegImage scaler resolved.width resolved.height 85)
          (Jpeg.scaledSubsamp jpeg.colorspace 85) {} } := by
  have scaled : EStateM.run (JpegImage.downScale (library luma scaler) resolved.width
      resolved.height 85) (ofJpeg jpeg subsamp {}).jpegImage = .ok () _ :=
    JpegImage.run_downScale_ok ⟨positive.1, smaller.1⟩ ⟨positive.2, smaller.2⟩
  rw [scale, Method.run_get_bind, width_ofJpeg, height_ofJpeg,
    if_neg fun same => differs (Prod.ext same.1 same.2)]
  exact Method.run_rethrow_ok (Method.run_on_ok scaled)

theorem run_scale_larger (luma : α → α) (scaler : Scaler α) {resolved : ResizeParameters}
    (larger : (jpeg.raster.width : ℤ) < resolved.width ∨
      (jpeg.raster.height : ℤ) < resolved.height) :
    EStateM.run (scale (library luma scaler) resolved) (ofJpeg jpeg subsamp {}) =
      .error (.transformation (some "Downscaling failed")) (ofJpeg jpeg subsamp {}) := by
  have refused : ∃ message, EStateM.run (JpegImage.downScale (library luma scaler)
      resolved.width resolved.height 85) (ofJpeg jpeg subsamp {}).jpegImage =
        .error (.illegalArgument message) _ :=
    JpegImage.run_downScale_refused larger
  rcases refused with ⟨message, refused⟩
  rw [scale, Method.run_get_bind, width_ofJpeg, height_ofJpeg, if_neg (by omega)]
  exact Method.run_rethrow_error (Method.run_on_error refused)

/-- A request for the whole file returns its size rotated exactly when the backend can
carry it out. -/
theorem transformImage_delivers_iff (fp : Rounding) (luma : α → α) (scaler : Scaler α)
    (typed : jpeg.getSubsamp = some subsamp)
    (requests : requestedSize fp size jpeg.raster.width jpeg.raster.height = .ok target)
    (positive : 1 ≤ target.1 ∧ 1 ≤ target.2) (multiple : rotation.degrees % 90 = 0)
    (nonneg : 0 ≤ rotation.degrees) (atMost : rotation.degrees ≤ 360) :
    (∃ final, EStateM.run (transformImage fp (methods (library luma scaler) fp) size
          (some rotation) bitDepth .jpeg) ⟨ofJpeg jpeg subsamp {}, none⟩ = .ok ⟨⟩ final ∧
        dataSize final.image = turnedSize rotation.degrees target) ↔
      Carries jpeg subsamp target rotation.degrees bitDepth := by
  cases size with
  | none =>
      cases requests
      rw [run_transformImage_unsized]
      have same : IsSize jpeg (↑jpeg.raster.width, ↑jpeg.raster.height) := rfl
      rw [carries_iff ⟨le_rfl, le_rfl⟩ (if_pos same) (if_pos same)]
      exact afterSizing_delivers_iff fp luma scaler typed rfl rfl multiple nonneg atMost
  | some parameters =>
      rcases Method.except_bind_eq_ok.mp requests with ⟨resolved, resolves, sized⟩
      cases sized
      have reported : Reports (methods (library luma scaler) fp) (ofJpeg jpeg subsamp {})
          jpeg.raster.width jpeg.raster.height := reports _ _
      rw [run_transformImage_sized reported, resolves]
      dsimp only
      by_cases smaller : resolved.width ≤ jpeg.raster.width ∧
          resolved.height ≤ jpeg.raster.height
      · by_cases same : IsSize jpeg (resolved.width, resolved.height)
        · have idle : EStateM.run (onImage ((methods (library luma scaler) fp).scale resolved))
              ⟨ofJpeg jpeg subsamp {}, none⟩ = .ok ⟨⟩ ⟨_, none⟩ :=
            Method.run_on_ok (run_scale_same luma scaler same)
          rw [Method.run_bind_ok idle, carries_iff smaller (if_pos same) (if_pos same)]
          exact afterSizing_delivers_iff fp luma scaler typed rfl same multiple nonneg atMost
        · have scaled : EStateM.run
              (onImage ((methods (library luma scaler) fp).scale resolved))
              ⟨ofJpeg jpeg subsamp {}, none⟩ = .ok ⟨⟩ ⟨_, none⟩ :=
            Method.run_on_ok (run_scale_smaller luma scaler positive same smaller)
          obtain ⟨sameWidth, sameHeight⟩ := Jpeg.size_downScaleJpegImage scaler 85
            ⟨positive.1, smaller.1⟩ ⟨positive.2, smaller.2⟩
          rw [Method.run_bind_ok scaled, carries_iff smaller (if_neg same) (if_neg same)]
          exact afterSizing_delivers_iff fp luma scaler Jpeg.getSubsamp_downScaleJpegImage rfl
            (Prod.ext sameWidth sameHeight) multiple nonneg atMost
      · have refused : EStateM.run
            (onImage ((methods (library luma scaler) fp).scale resolved))
            ⟨ofJpeg jpeg subsamp {}, none⟩ = .error _ ⟨ofJpeg jpeg subsamp {}, none⟩ :=
          Method.run_on_error (run_scale_larger luma scaler (by omega))
        simp only [Method.run_bind_error refused, reduceCtorEq, false_and, exists_false,
          false_iff]
        intro carries
        exact smaller carries.notLarger

end Sizing

end JpegTranImage

/-! ## Services -/

namespace BackendImage

variable {α β : Type}

/-- The dimensions of what an image returns as its bytes. -/
def size : BackendImage (Jpeg α) β → Option (ℤ × ℤ)
  | jpegTran image => some image.dataSize
  | imageIo image => image.image.map fun decoded =>
      (↑decoded.raster.width, ↑decoded.raster.height)

end BackendImage

namespace ImageService

variable {δ α β : Type}

def plainRepository (io : ImageIo δ β) (getImageData : JString → Except Throwable δ) :
    AbstractImageRepository (BackendImage δ β) :=
  (ImageRepositoryImageIoImpl.repository io getImageData).map BackendImage.imageIo

def losslessRepository (fp : Rounding) (natives : Natives δ)
    (getImageData : JString → Except Throwable δ) :
    AbstractImageRepository (BackendImage δ β) :=
  (ImageRepositoryJpegTranImpl.repository fp natives getImageData).map BackendImage.jpegTran

def withRepositories {σ : Type} (repos : List (AbstractImageRepository σ))
    (security : Option (JString → Bool)) : ImageService σ where
  imageRepositories := repos.map AbstractImageRepository.toImageRepository
  imageSecurityService := security

section Found

variable {fp : Rounding} {natives : Natives δ} {io : ImageIo δ β}
variable {getImageData : JString → Except Throwable δ} {identifier : JString}
variable {region : Option RegionParameters} {format : ImageFormat}
variable {bitDepth : Option ImageBitDepth}
variable {repos : List (AbstractImageRepository (BackendImage δ β))}

/-- An image that the ImageIO repository returns has been created from the data. -/
theorem search_plain {created : BackendImage δ β}
    (found : search identifier region format bitDepth [plainRepository io getImageData] =
      .ok (some created)) :
    ∃ self, ImageRepositoryImageIoImpl.createImage io getImageData identifier region =
      .ok self ∧ created = .imageIo self := by
  have offered : offer identifier region format bitDepth (plainRepository io getImageData) =
      some created := by
    simpa [firstOffer] using firstOffer_of_search_eq found
  have mapped : (ImageRepositoryImageIoImpl.createImage io getImageData identifier
      region).map BackendImage.imageIo = .ok created := by
    rw [offer] at offered
    split at offered
    next image attempted =>
      cases offered
      rw [attempt] at attempted
      split at attempted
      · exact Option.some.inj attempted
      · cases attempted
    next => cases offered
  cases result : ImageRepositoryImageIoImpl.createImage io getImageData identifier region with
  | ok self =>
      rw [result] at mapped
      cases mapped
      exact ⟨self, rfl, rfl⟩
  | error exception =>
      rw [result] at mapped
      cases mapped

/-- The lossless backend is taken for every JPEG file that is requested whole and not
bitonal. -/
theorem search_lossless {image : JpegTranImage δ} (colored : bitDepth ≠ some .bitonal)
    (created : ImageRepositoryJpegTranImpl.createImage natives getImageData identifier =
      .ok image) :
    search identifier none .jpeg bitDepth
        (losslessRepository fp natives getImageData :: repos) =
      .ok (some (.jpegTran image)) := by
  have supported : (losslessRepository fp natives getImageData : AbstractImageRepository
      (BackendImage δ β)).toImageRepository.supports none .jpeg bitDepth = true := by
    match bitDepth with
    | none | some .grayscale | some .color => rfl
    | some .bitonal => exact absurd rfl colored
  have attempted : attempt identifier none .jpeg bitDepth
      (losslessRepository fp natives getImageData : AbstractImageRepository
        (BackendImage δ β)) = some (.ok (.jpegTran image)) := by
    rw [attempt, if_pos supported]
    exact congrArg (fun result => some (Except.map BackendImage.jpegTran result)) created
  rw [search_cons, attempted]

/-- The lossless backend is passed over for bitonal images. -/
theorem search_bitonal :
    search identifier region .jpeg (some .bitonal)
        (losslessRepository fp natives getImageData :: repos) =
      search identifier region .jpeg (some .bitonal) repos := by
  have attempted : attempt identifier region .jpeg (some .bitonal)
      (losslessRepository fp natives getImageData : AbstractImageRepository
        (BackendImage δ β)) = none := by
    rw [attempt, if_neg]
    simp [ImageRepository.supports, losslessRepository, AbstractImageRepository.map,
      AbstractImageRepository.toImageRepository, ImageRepositoryJpegTranImpl.repository,
      ImageRepositoryJpegTranImpl.supportsBitDepth]
  rw [search_cons, attempted]

end Found

/-! ## The law -/

section Law

variable {fp : Rounding} {luma : α → α} {scaler : Scaler α} {io : ImageIo (Jpeg α) β}
variable {natives : Natives (Jpeg α)}
variable {repos : List (AbstractImageRepository (BackendImage (Jpeg α) β))}
variable {security : Option (JString → Bool)}
variable {getImageData : JString → Except Throwable (Jpeg α)} {identifier : JString}
variable {size : Option ResizeParameters} {rotation : RotationParameters}
variable {bitDepth : Option ImageBitDepth} {dimensions : ℤ × ℤ}
variable {jpeg : Jpeg α} {subsamp : Subsamp}

/-- ImageIO has a reader for the file that knows its format and decodes it, if at all, to
an image of its dimensions. -/
def Decodes (io : ImageIo (Jpeg α) β) (jpeg : Jpeg α) : Prop :=
  ∃ reader, io.readerFor jpeg = some reader ∧
    JAIImage.getFormatFromString reader.formatName = some .jpeg ∧
    ∀ decoded, reader.image = .ok decoded →
      decoded.raster.width = jpeg.raster.width ∧ decoded.raster.height = jpeg.raster.height

/-- The request for a whole JPEG file returns an image of the given dimensions. -/
def Serves (fp : Rounding) (natives : Natives (Jpeg α)) (io : ImageIo (Jpeg α) β)
    (service : ImageService (BackendImage (Jpeg α) β)) (identifier : JString)
    (size : Option ResizeParameters) (rotation : RotationParameters)
    (bitDepth : Option ImageBitDepth) (dimensions : ℤ × ℤ) : Prop :=
  ∃ result after, EStateM.run (processImage fp (BackendImage.methods natives io fp) service
      identifier size (some rotation) bitDepth .jpeg) none = .ok result after ∧
    result.size = some dimensions

theorem serves_iff :
    Serves fp natives io (withRepositories repos security) identifier size rotation bitDepth
        dimensions ↔
      (withRepositories repos security).accessAllowed identifier = true ∧ ∃ created,
        search identifier none .jpeg bitDepth repos = .ok (some created) ∧ ∃ final,
          EStateM.run (transformImage fp (BackendImage.methods natives io fp) size
            (some rotation) bitDepth .jpeg) ⟨created, none⟩ = .ok ⟨⟩ final ∧
          final.image.size = some dimensions := by
  simp only [Serves, run_processImage_eq_ok]
  constructor
  · intro served
    rcases served with ⟨result, after, ⟨allowed, created, found, ran⟩, sized⟩
    exact ⟨allowed, created, found, _, ran, sized⟩
  · intro served
    rcases served with ⟨allowed, created, found, final, ran, sized⟩
    exact ⟨_, _, ⟨allowed, created, found, ran⟩, sized⟩

/-- What the service with the ImageIO backend returns has the requested size, which is
positive, rotated by right angles. -/
theorem Serves.of_plain (nonneg : 0 ≤ rotation.degrees)
    (resolves : getImageData identifier = .ok jpeg) (decodes : Decodes io jpeg)
    (served : Serves fp natives io
      (withRepositories [plainRepository io getImageData] security) identifier size rotation
      bitDepth dimensions) :
    (withRepositories [plainRepository io getImageData] security).accessAllowed identifier =
        true ∧ rotation.degrees % 90 = 0 ∧ ∃ target,
      requestedSize fp size jpeg.raster.width jpeg.raster.height = .ok target ∧
        (1 ≤ target.1 ∧ 1 ≤ target.2) ∧
        dimensions = turnedSize rotation.degrees target := by
  rcases serves_iff.mp served with ⟨allowed, created, found, returned⟩
  rcases search_plain found with ⟨self, read, rfl⟩
  obtain ⟨final, ran, sized⟩ := (transformImage_returns_iff
    (BackendImage.imageIo_simulates natives io fp) fun image =>
      image.size = some dimensions).mp returned
  rcases decodes with ⟨reader, readable, format, sameSize⟩
  have created : ImageRepositoryImageIoImpl.createImage io getImageData identifier none =
      (do
        let decoded ← reader.image
        return { image := some decoded, formatString := reader.formatName }) := by
    rw [ImageRepositoryImageIoImpl.createImage, resolves, Method.except_ok_bind,
      JAIImage.create, readable]
    rfl
  rw [created] at read
  rcases Method.except_bind_eq_ok.mp read with ⟨decoded, decodedAs, same⟩
  cases same
  rcases sameSize decoded decodedAs with ⟨sameWidth, sameHeight⟩
  have shows : JAIImage.Shows { image := some decoded, formatString := reader.formatName }
      (↑jpeg.raster.width, ↑jpeg.raster.height) :=
    ⟨⟨decoded, rfl, by rw [sameWidth, sameHeight]⟩, format⟩
  obtain ⟨target, requests, positive, multiple, ⟨image, present, finalSize⟩, -⟩ :=
    shows.run_transformImage nonneg ran
  refine ⟨allowed, multiple, target, requests, positive, ?_⟩
  rw [BackendImage.size, present] at sized
  exact (Option.some.inj sized).symm.trans finalSize

/-- The service that tries the lossless backend first returns what that backend returns,
unless the request is for a bitonal image. -/
theorem serves_lossless_iff (fp : Rounding) (luma : α → α) (scaler : Scaler α)
    (io : ImageIo (Jpeg α) β) {target : ℤ × ℤ} (colored : bitDepth ≠ some .bitonal)
    (resolves : getImageData identifier = .ok jpeg)
    (typed : jpeg.getSubsamp = some subsamp)
    (requests : requestedSize fp size jpeg.raster.width jpeg.raster.height = .ok target)
    (positive : 1 ≤ target.1 ∧ 1 ≤ target.2) (multiple : rotation.degrees % 90 = 0)
    (nonneg : 0 ≤ rotation.degrees) (atMost : rotation.degrees ≤ 360) :
    Serves fp (library luma scaler) io
        (withRepositories (losslessRepository fp (library luma scaler) getImageData :: repos)
          security) identifier size rotation bitDepth
        (turnedSize rotation.degrees target) ↔
      (withRepositories repos security).accessAllowed identifier = true ∧
        JpegTranImage.Carries jpeg subsamp target rotation.degrees bitDepth := by
  have created : ImageRepositoryJpegTranImpl.createImage (library luma scaler) getImageData
      identifier = .ok (JpegTranImage.ofJpeg jpeg subsamp {}) := by
    rw [ImageRepositoryJpegTranImpl.createImage, resolves, Method.except_ok_bind,
      JpegImage.startsWithMarker_library]
    exact JpegTranImage.create_library_iff.mpr ⟨subsamp, typed, rfl⟩
  rw [serves_iff, search_lossless colored created,
    ← JpegTranImage.transformImage_delivers_iff fp luma scaler typed requests positive multiple
      nonneg atMost]
  apply and_congr_right
  intro allowed
  simp only [Except.ok.injEq, Option.some.injEq, exists_eq_left']
  rw [transformImage_returns_iff (BackendImage.jpegTran_simulates (library luma scaler) io fp)
    fun image => image.size = some (turnedSize rotation.degrees target)]
  simp only [BackendImage.size, Option.some.injEq]

/-- Where the ImageIO backend alone serves a request for a whole JPEG file, the service
that tries the lossless backend first serves it alike exactly when the request is for a
bitonal image or the lossless backend can carry it out. -/
theorem fast_path_serves_iff (fp : Rounding) (luma : α → α) (scaler : Scaler α)
    (io : ImageIo (Jpeg α) β) (security : Option (JString → Bool))
    (size : Option ResizeParameters) (bitDepth : Option ImageBitDepth) {text : JString}
    (parsed : ParameterParser.parseIiifRotation text = .ok rotation)
    (resolves : getImageData identifier = .ok jpeg)
    (typed : jpeg.getSubsamp = some subsamp) (decodes : Decodes io jpeg)
    (served : Serves fp (library luma scaler) io
      (withRepositories [plainRepository io getImageData] security) identifier size rotation
      bitDepth dimensions) :
    Serves fp (library luma scaler) io
        (withRepositories [losslessRepository fp (library luma scaler) getImageData,
          plainRepository io getImageData] security) identifier size rotation bitDepth
        dimensions ↔
      bitDepth = some .bitonal ∨ ∃ target,
        requestedSize fp size jpeg.raster.width jpeg.raster.height = .ok target ∧
          JpegTranImage.Carries jpeg subsamp target rotation.degrees bitDepth := by
  rcases ParameterParser.parseIiifRotation_range parsed with ⟨nonneg, atMost⟩
  obtain ⟨allowed, multiple, target, requests, positive, rfl⟩ :=
    served.of_plain nonneg resolves decodes
  by_cases bitonal : bitDepth = some .bitonal
  · rw [serves_iff] at served ⊢
    subst bitonal
    rw [search_bitonal]
    exact iff_of_true served (.inl rfl)
  · rw [serves_lossless_iff fp luma scaler io bitonal resolves typed requests positive multiple
      nonneg atMost, and_iff_right allowed, or_iff_right bitonal, requests]
    simp only [Except.ok.injEq, exists_eq_left']

/-! ## A file of 32 by 32 pixels -/

/-- An installation of ImageIO that reads and writes JPEG files without a loss. -/
def losslessIo : ImageIo (Jpeg (ℕ × ℕ)) (ℕ × ℕ) where
  readerFor jpeg := some {
    formatName := ['J', 'P', 'E', 'G']
    image := .ok ⟨jpeg.raster, .threeByteBgr, false, jpeg.width_pos, jpeg.height_pos⟩ }
  writerFormatNames := [['j', 'p', 'g']]
  encode image _ :=
    if fits : image.raster.width ≤ maxDimension ∧ image.raster.height ≤ maxDimension then
      .ok ⟨image.raster, 1, 1, .ycbcr, image.width_pos, image.height_pos, fits.1, fits.2⟩
    else .error (.io (some "Maximum supported image dimension is 65500 pixels"))
  noData := JpegTranImage.squareJpeg .samp444
  recolor _ := id
  scaler := Scaler.nearest

theorem format_losslessIo :
    JAIImage.getFormatFromString ['J', 'P', 'E', 'G'] = some .jpeg := by decide

theorem decodes_losslessIo (jpeg : Jpeg (ℕ × ℕ)) : Decodes losslessIo jpeg := by
  refine ⟨_, rfl, format_losslessIo, ?_⟩
  intro decoded same
  cases same
  exact ⟨rfl, rfl⟩

/-- The ImageIO backend serves every positive size of an image that Java can hold. -/
theorem serves_losslessIo (fp : Rounding) (natives : Natives (Jpeg (ℕ × ℕ)))
    (jpeg : Jpeg (ℕ × ℕ)) {target : ℤ × ℤ}
    (requests : requestedSize fp size jpeg.raster.width jpeg.raster.height = .ok target)
    (positive : 1 ≤ target.1 ∧ 1 ≤ target.2) (small : target.1 * target.2 < maxInt) :
    Serves fp natives losslessIo
      (withRepositories [plainRepository losslessIo fun _ => .ok jpeg] none) [] size
      ⟨0, false⟩ none target := by
  have shows : JAIImage.Shows
      { image := some ⟨jpeg.raster, .threeByteBgr, false, jpeg.width_pos, jpeg.height_pos⟩
        formatString := ['J', 'P', 'E', 'G'] }
      (↑jpeg.raster.width, ↑jpeg.raster.height) := ⟨⟨_, rfl, rfl⟩, format_losslessIo⟩
  rcases shows.transformImage_upright losslessIo fp requests positive small with ⟨final, ran⟩
  obtain ⟨target', requests', -, -, ⟨image, present, finalSize⟩, -⟩ :=
    shows.run_transformImage le_rfl ran
  rw [requests] at requests'
  cases requests'
  refine serves_iff.mpr ⟨rfl, .imageIo _, rfl, (transformImage_returns_iff
    (BackendImage.imageIo_simulates natives losslessIo fp) fun image =>
      image.size = some target).mpr ⟨final, ran, ?_⟩⟩
  rw [BackendImage.size, present]
  exact congrArg some finalSize

/-- A request for half the width and height is served alike. -/
theorem fast_path_serves_smaller :
    Serves .exact (library id Scaler.nearest) losslessIo
      (withRepositories [losslessRepository .exact (library id Scaler.nearest)
          fun _ => .ok (JpegTranImage.squareJpeg .samp444),
        plainRepository losslessIo fun _ => .ok (JpegTranImage.squareJpeg .samp444)] none)
      [] (some { width := 16, height := 16 }) ⟨0, false⟩ none (16, 16) := by
  have requests : requestedSize .exact (some { width := 16, height := 16 }) 32 32 =
      .ok (16, 16) := by
    rw [requestedSize, JpegTranImage.resolve_both 16 16 (by decide) (by decide) (by decide)
      (by decide)]
    rfl
  have parsed : ParameterParser.parseIiifRotation ['0'] = .ok ⟨0, false⟩ := by decide
  refine (fast_path_serves_iff .exact id Scaler.nearest losslessIo none _ none parsed rfl
    (Jpeg.getSubsamp_labelled .samp444 _ _ _ _) (decodes_losslessIo _)
    (serves_losslessIo .exact (library id Scaler.nearest) _ requests (by decide) (by decide))).mpr
    (.inr ⟨(16, 16), requests, ?_⟩)
  exact ⟨by decide, by decide, by decide, by decide⟩

/-- A request for twice the width and height, which the ImageIO backend serves, fails. -/
theorem fast_path_refuses_larger :
    ParameterParser.parseIiifSize ['p', 'c', 't', ':', '2', '0', '0'] =
        .ok (some { scaleFactor := 200 }) ∧
      ParameterParser.parseIiifRotation ['0'] = .ok ⟨0, false⟩ ∧
      ParameterParser.parseIiifQuality ['d', 'e', 'f', 'a', 'u', 'l', 't'] = .ok none ∧
      Serves .exact (library id Scaler.nearest) losslessIo
        (withRepositories
          [plainRepository losslessIo fun _ => .ok (JpegTranImage.squareJpeg .samp444)] none)
        [] (some { scaleFactor := 200 }) ⟨0, false⟩ none (64, 64) ∧
      ¬Serves .exact (library id Scaler.nearest) losslessIo
        (withRepositories [losslessRepository .exact (library id Scaler.nearest)
            fun _ => .ok (JpegTranImage.squareJpeg .samp444),
          plainRepository losslessIo fun _ => .ok (JpegTranImage.squareJpeg .samp444)] none)
        [] (some { scaleFactor := 200 }) ⟨0, false⟩ none (64, 64) := by
  have doubled : saturate ⌈((200 : ℤ) / 100 * (32 : ℤ) : ℚ)⌉ = 64 := by
    norm_num [saturate, maxInt, minInt]
  have requests : requestedSize .exact (some { scaleFactor := 200 }) 32 32 =
      .ok (64, 64) := by
    rw [requestedSize, Rounding.exact_ofInt, JpegTranImage.resolve_percentage (by decide),
      doubled]
    rfl
  refine ⟨by decide, by decide, by decide,
    serves_losslessIo .exact (library id Scaler.nearest) _ requests (by decide) (by decide), ?_⟩
  have refused : ¬JpegTranImage.Carries (JpegTranImage.squareJpeg .samp444) .samp444 (64, 64) 0
      none := fun carries => absurd carries.notLarger (by decide)
  intro served
  exact refused ((serves_lossless_iff .exact id Scaler.nearest losslessIo (by decide) rfl
    (Jpeg.getSubsamp_labelled .samp444 _ _ _ _) requests (by decide) (by decide) le_rfl
    (by decide)).mp served).2

end Law

end ImageService

end IiifImage
