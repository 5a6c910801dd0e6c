import IiifImage.Lazy.Buffers
import IiifImage.Raster.Tiling
import IiifImage.Regions.ImageIo
import IiifImage.Regions.Supported
import IiifImage.Requests.Printing
import IiifImage.Server.Concurrent

/-!
# Tiles of a file

The information about an image advertises tiles.  A client cuts the image into them and
requests each as a region in full size.  The regions inside are served by the lossless backend,
and those at an edge that is no multiple of eight by the other one.
-/

namespace IiifImage

open Java TurboJpeg Caching ImageService

/-- The sides of the tiles that `getInfo` advertises. -/
def Controller.tileSizes : List ℕ := [128, 256, 512]

/-- A side that is advertised is a multiple of the sides of an MCU. -/
theorem Controller.dvd_of_tileSizes {side : ℕ} (advertised : side ∈ tileSizes)
    (subsamp : Subsamp) : 0 < side ∧ subsamp.mcuWidth ∣ side ∧ subsamp.mcuHeight ∣ side := by
  simp only [tileSizes, List.mem_cons, List.not_mem_nil, or_false] at advertised
  rcases advertised with rfl | rfl | rfl <;> cases subsamp <;> decide

namespace RegionParameters

/-- The region of a small rectangle of pixels. -/
theorem ofRect_eq_ofRats (fp : Rounding) {rect : Rect} (representable : rect.Representable) :
    ofRect fp rect = ofRats rect.x rect.y rect.width rect.height := by
  have exact : ∀ {n : ℕ}, n ≤ 16777216 → fp.ofInt n = .fin n := by
    intro n small
    rw [fp.ofInt_of_small (by rw [Nat.abs_cast]; exact_mod_cast small), Int.cast_natCast]
  rw [ofRect, ofInts, exact representable.x, exact representable.y, exact representable.width,
    exact representable.height, ofRats]

end RegionParameters

/-- The decoded pixels of an image. -/
def BackendImage.pixels {α : Type} : BackendImage (Jpeg α) α → Option (Raster α)
  | jpegTran image => some image.jpegImage.imgData.raster
  | imageIo image => image.pixels

namespace ImageService

variable {α : Type} {fp : Rounding} {luma : α → α} {scaler : Scaler α}
variable {written : Jpeg α → TJTransform → ℕ}
variable {io : ImageIo (Jpeg α) α} {security : Option (JString → Bool)}
variable {getImageData : JString → Except Throwable (Jpeg α)} {identifier : JString}
variable {jpeg : Jpeg α} {subsamp : Subsamp} {rect : Rect}

/-- ImageIO decodes the file to its pixels and writes JPEG files. -/
structure Plays (io : ImageIo (Jpeg α) α) (jpeg : Jpeg α) : Prop where
  decodes : ∃ reader source, io.readerFor jpeg = some reader ∧
    JAIImage.getFormatFromString reader.formatName = some .jpeg ∧
    reader.image = .ok source ∧ source.raster = jpeg.raster
  writes : ImageRepositoryImageIoImpl.supportsOutputFormat io .jpeg = true

/-- The service with both backends returns the part of the file in a rectangle. -/
def Shows (fp : Rounding) (natives : Natives (Jpeg α)) (io : ImageIo (Jpeg α) α)
    (getImageData : JString → Except Throwable (Jpeg α)) (security : Option (JString → Bool))
    (identifier : JString) (rect : Rect) (raster : Raster α) : Prop :=
  ∃ result after, EStateM.run (processImage fp (BackendImage.methods natives io fp)
      (withRepositories [losslessRepository fp natives getImageData,
        plainRepository io getImageData] security) identifier none (some ⟨0, false⟩) none .jpeg)
      (some (.ofRect fp rect)) = .ok result after ∧
    result.pixels = some raster

theorem shows_of_created {natives : Natives (Jpeg α)} {created : BackendImage (Jpeg α) α}
    {raster : Raster α} (allowed : ∀ isAccessAllowed ∈ security, isAccessAllowed identifier = true)
    (found : search identifier (some (.ofRect fp rect)) .jpeg none
      [losslessRepository fp natives getImageData, plainRepository io getImageData] =
        .ok (some created))
    (returned : ∃ final, EStateM.run (transformImage fp
        (BackendImage.methods natives io fp) none (some ⟨0, false⟩) none .jpeg)
        ⟨created, some (.ofRect fp rect)⟩ = .ok ⟨⟩ final ∧
      final.image.pixels = some raster) :
    Shows fp natives io getImageData security identifier rect raster := by
  rcases returned with ⟨final, ran, pixels⟩
  refine ⟨final.image, final.region, run_processImage_eq_ok.mpr ⟨?_, created, found, ran⟩, pixels⟩
  cases security with
  | none => rfl
  | some isAccessAllowed => exact allowed isAccessAllowed rfl

/-- A supported rectangle on the MCU grid is delivered by the lossless backend if there is room
for its output. -/
theorem shows_of_supported
    (allowed : ∀ isAccessAllowed ∈ security, isAccessAllowed identifier = true)
    (resolves : getImageData identifier = .ok jpeg) (typed : jpeg.getSubsamp = some subsamp)
    (small : paddedSize jpeg.raster.width jpeg.raster.height subsamp ≤ maxInt)
    (representable : rect.Representable)
    (inside : rect.Inside jpeg.raster.width jpeg.raster.height) (wide : 0 < rect.width)
    (tall : 0 < rect.height) (columns : subsamp.mcuWidth ∣ rect.x)
    (rows : subsamp.mcuHeight ∣ rect.y)
    (room : Jpeg.HasRoom luma
      (written jpeg (JpegTranImage.regionTransform rect jpeg.raster.width jpeg.raster.height)) jpeg
      (JpegTranImage.regionTransform rect jpeg.raster.width jpeg.raster.height))
    (supported : ImageRepositoryJpegTranImpl.supportsCropOperation fp
      (some (.ofRect fp rect)) = true) :
    Shows fp (libraryWriting luma scaler written) io getImageData security identifier rect
      (jpeg.raster.crop rect) := by
  have starts : (libraryWriting luma scaler written).startsWithMarker jpeg = .ok true := rfl
  have created : ImageRepositoryJpegTranImpl.createImage (libraryWriting luma scaler written)
      getImageData identifier = .ok (JpegTranImage.ofJpeg jpeg subsamp {}) := by
    rw [ImageRepositoryJpegTranImpl.createImage, resolves, Method.except_ok_bind, starts]
    exact JpegTranImage.create_writing_iff.mpr ⟨subsamp, typed, rfl⟩
  have attempted : attempt identifier (some (.ofRect fp rect)) .jpeg none
      (losslessRepository fp (libraryWriting luma scaler written) getImageData :
        AbstractImageRepository (BackendImage (Jpeg α) α)) =
      some (.ok (.jpegTran (JpegTranImage.ofJpeg jpeg subsamp {}))) := by
    have offered : (losslessRepository fp (libraryWriting luma scaler written) getImageData :
        AbstractImageRepository (BackendImage (Jpeg α) α)).toImageRepository.supports
          (some (.ofRect fp rect)) .jpeg none = true := by
      simpa [ImageRepository.supports] using ⟨⟨supported, rfl⟩, rfl⟩
    rw [attempt, if_pos offered]
    exact congrArg (fun result => some (Except.map BackendImage.jpegTran result)) created
  have found : search identifier (some (.ofRect fp rect)) .jpeg none
      [losslessRepository fp (libraryWriting luma scaler written) getImageData,
        plainRepository io getImageData] =
      .ok (some (.jpegTran (JpegTranImage.ofJpeg jpeg subsamp {}))) := by
    rw [search_cons, attempted]
  refine shows_of_created allowed found ((transformImage_returns_iff
    (BackendImage.jpegTran_simulates (libraryWriting luma scaler written) io fp) fun image =>
      image.pixels = some (jpeg.raster.crop rect)).mpr ?_)
  have right := inside.1
  have bottom := inside.2
  have delivered := (JpegTranImage.regionRequest_delivers_iff fp luma scaler rect typed
    (by omega) (by omega) wide tall columns rows).mpr ⟨by omega, ?_⟩
  · rcases delivered with ⟨final, ran, raster⟩
    rw [RegionParameters.ofRect_eq_ofRats fp representable]
    exact ⟨final, (JpegTranImage.run_regionRequest_of_hasRoom fp scaler (by omega) (by omega) wide
      tall room).trans ran, congrArg some raster⟩
  · rw [Rect.clip_of_inside inside]
    exact cropFits_of_small (by omega) (by omega) (by omega) (by omega) small

/-- Any other rectangle inside the file is delivered by the ImageIO backend. -/
theorem shows_of_not_supported {natives : Natives (Jpeg α)}
    (allowed : ∀ isAccessAllowed ∈ security, isAccessAllowed identifier = true)
    (resolves : getImageData identifier = .ok jpeg) (plays : Plays io jpeg)
    (representable : rect.Representable)
    (inside : rect.Inside jpeg.raster.width jpeg.raster.height) (wide : 0 < rect.width)
    (tall : 0 < rect.height)
    (refused : ImageRepositoryJpegTranImpl.supportsCropOperation fp
      (some (.ofRect fp rect)) = false) :
    Shows fp natives io getImageData security identifier rect (jpeg.raster.crop rect) := by
  obtain ⟨reader, source, readable, format, decodes, sameRaster⟩ := plays.decodes
  have right := inside.1
  have bottom := inside.2
  rw [← sameRaster] at right bottom inside
  have stored : JAIImage.Readable io getImageData identifier reader source rect :=
    ⟨⟨jpeg, resolves, readable⟩, decodes, representable, by omega, by omega, wide, tall⟩
  have delivered : JAIImage.DeliversRegion io fp getImageData identifier rect .jpeg
      (source.raster.crop rect) := stored.delivers_of_inside (.inl format) inside
  obtain ⟨created, final, made, ran, pixels⟩ := delivered
  have passed : attempt identifier (some (.ofRect fp rect)) .jpeg none
      (losslessRepository fp natives getImageData : AbstractImageRepository
        (BackendImage (Jpeg α) α)) = none := by
    rw [attempt, if_neg]
    simp [ImageRepository.supports, losslessRepository, AbstractImageRepository.map,
      AbstractImageRepository.toImageRepository, ImageRepositoryJpegTranImpl.repository, refused]
  have attempted : attempt identifier (some (.ofRect fp rect)) .jpeg none
      (plainRepository io getImageData : AbstractImageRepository (BackendImage (Jpeg α) α)) =
      some (.ok (.imageIo created)) := by
    have offered : (plainRepository io getImageData : AbstractImageRepository
        (BackendImage (Jpeg α) α)).toImageRepository.supports (some (.ofRect fp rect)) .jpeg none =
          true := by
      simpa [ImageRepository.supports] using ⟨⟨rfl, plays.writes⟩, rfl⟩
    rw [attempt, if_pos offered]
    exact congrArg (fun result => some (Except.map BackendImage.imageIo result)) made
  have found : search identifier (some (.ofRect fp rect)) .jpeg none
      [losslessRepository fp natives getImageData,
        plainRepository io getImageData] = .ok (some (.imageIo created)) := by
    rw [search_cons, passed]
    dsimp only
    rw [search_cons, attempted]
  refine shows_of_created allowed found ((transformImage_returns_iff
    (BackendImage.imageIo_simulates natives io fp) fun image =>
      image.pixels = some (jpeg.raster.crop rect)).mpr ⟨final, ran, ?_⟩)
  rw [← sameRaster]
  exact pixels

theorem representable_tile (jpeg : Jpeg α) {side column row : ℕ} (positive : 0 < side)
    (listed : InGrid jpeg.raster.width jpeg.raster.height side column row) :
    (Rect.tile jpeg.raster.width jpeg.raster.height side column row).Representable := by
  have inside := listed.inside positive
  have right := inside.1
  have bottom := inside.2
  have widthLe := jpeg.width_le
  have heightLe := jpeg.height_le
  rw [maxDimension] at widthLe heightLe
  constructor <;> omega

/-- There is room for the outputs of the transforms that cut out the tiles of one side, as far
as the lossless repository supports them. -/
def TilesHaveRoom (fp : Rounding) (luma : α → α) (written : Jpeg α → TJTransform → ℕ)
    (jpeg : Jpeg α) (side : ℕ) : Prop :=
  ∀ column row, InGrid jpeg.raster.width jpeg.raster.height side column row →
    let tile : Rect := .tile jpeg.raster.width jpeg.raster.height side column row
    ImageRepositoryJpegTranImpl.supportsCropOperation fp (some (.ofRect fp tile)) = true →
      let cut := JpegTranImage.regionTransform tile jpeg.raster.width jpeg.raster.height
      Jpeg.HasRoom luma (written jpeg cut) jpeg cut

/-- Every tile of an advertised side is delivered by one of the backends. -/
theorem shows_tile {side column row : ℕ} (advertised : side ∈ Controller.tileSizes)
    (allowed : ∀ isAccessAllowed ∈ security, isAccessAllowed identifier = true)
    (resolves : getImageData identifier = .ok jpeg) (typed : jpeg.getSubsamp = some subsamp)
    (small : paddedSize jpeg.raster.width jpeg.raster.height subsamp ≤ maxInt)
    (plays : Plays io jpeg) (room : TilesHaveRoom fp luma written jpeg side)
    (listed : InGrid jpeg.raster.width jpeg.raster.height side column row) :
    Shows fp (libraryWriting luma scaler written) io getImageData security identifier
      (.tile jpeg.raster.width jpeg.raster.height side column row)
      (jpeg.raster.crop (.tile jpeg.raster.width jpeg.raster.height side column row)) := by
  rcases Controller.dvd_of_tileSizes advertised subsamp with ⟨positive, mcuWidth, mcuHeight⟩
  have inside := listed.inside positive
  have wide := listed.wide positive
  have tall := listed.tall positive
  have representable := representable_tile jpeg positive listed
  cases supported : ImageRepositoryJpegTranImpl.supportsCropOperation fp
      (some (.ofRect fp (.tile jpeg.raster.width jpeg.raster.height side column row))) with
  | true =>
      exact shows_of_supported allowed resolves typed small representable inside wide tall
        (mcuWidth.mul_left column) (mcuHeight.mul_left row) (room column row listed supported)
        supported
  | false =>
      exact shows_of_not_supported allowed resolves plays representable inside wide tall
        supported

end ImageService

/-! ## The calls of a client -/

/-- The call of the service that `getImageRepresentation` makes. -/
def ServiceCall.ofSegments (fp : Rounding) (toFloat : ℚ → JFloat) (identifier : JString)
    (segments : ImageSegments) : Except Throwable ServiceCall := do
  let parameters ← segments.parse fp toFloat
  return .processImage identifier parameters.region parameters.size (some parameters.rotation)
    parameters.quality parameters.format

/-- The request for a rectangle of the image in full size. -/
def ImageRequest.rectangle (rect : Rect) : ImageRequest where
  region := .pixels rect
  size := none
  rotation := ⟨0, false⟩
  quality := none
  format := .jpeg

/-- The call for a rectangle of the image in full size. -/
def ServiceCall.region (fp : Rounding) (identifier : JString) (rect : Rect) : ServiceCall :=
  .processImage identifier (some (.ofRect fp rect)) none (some ⟨0, false⟩) none .jpeg

theorem ServiceCall.ofSegments_rectangle (fp : Rounding) {toFloat : ℚ → JFloat}
    (represents : ∀ n : ℕ, n ≤ 16777216 → toFloat n = .fin n) (identifier : JString)
    {rect : Rect} (representable : rect.Representable) :
    ofSegments fp toFloat identifier (ImageRequest.rectangle rect).print =
      .ok (region fp identifier rect) := by
  have valid : (ImageRequest.rectangle rect).Valid :=
    ⟨fun _ absurd => (by cases absurd), le_rfl, (by decide : (0 : ℤ) ≤ 360)⟩
  have meant : (RegionName.pixels rect).parameters fp toFloat = some (.ofRect fp rect) := by
    rw [RegionParameters.ofRect_eq_ofRats fp representable, RegionName.parameters,
      represents _ representable.x, represents _ representable.y,
      represents _ representable.width, represents _ representable.height]
    rfl
  rw [ofSegments, ImageRequest.parse_print fp toFloat valid, Method.except_ok_bind]
  dsimp only [ImageRequest.parameters, ImageRequest.rectangle]
  rw [meant]
  rfl

/-- The pixels that a call returns. -/
def ServiceCall.pixels {α : Type} :
    (call : ServiceCall) → call.Outcome (BackendImage (Jpeg α) α) → Option (Raster α)
  | .processImage _ _ _ _ _ _, .ok image => image.pixels
  | _, _ => none

/-- The dimensions that a call returns. -/
def ServiceCall.info {σ : Type} : (call : ServiceCall) → call.Outcome σ → Option ImageInfo
  | .getImageInfo _, .ok info => some info
  | _, _ => none

namespace ImageServer

variable {α τ : Type}

/-- What a client has been given by a call that has ended. -/
def received {β : Type} {σ : Type} {calls : τ → ServiceCall}
    (system : System (resourceSignature (Jpeg α)) τ fun thread => (calls thread).Outcome σ)
    (observe : (call : ServiceCall) → call.Outcome σ → Option β) (thread : τ) : Option β :=
  match system.program thread with
  | .done outcome => observe (calls thread) outcome
  | _ => none

theorem received_of_done {β : Type} {σ : Type} {calls : τ → ServiceCall}
    {system : System (resourceSignature (Jpeg α)) τ fun thread => (calls thread).Outcome σ}
    {observe : (call : ServiceCall) → call.Outcome σ → Option β} {thread : τ}
    {outcome : (calls thread).Outcome σ} (finished : system.program thread = .done outcome) :
    received system observe thread = observe (calls thread) outcome := by
  rw [received, finished]

section Client

variable [DecidableEq τ] {fp : Rounding} {luma : α → α} {scaler : Scaler α}
variable {written : Jpeg α → TJTransform → ℕ}
variable {data : ImageDataRepository (Jpeg α) α} {security : Option (JString → Bool)}
variable {calls : τ → ServiceCall} {resources : Resources (Jpeg α)} {identifier : JString}
variable {events : List (Event (resourceSignature (Jpeg α)) τ)}
variable {jpeg : Jpeg α} {subsamp : Subsamp} {side : ℕ} {rect : Rect} {raster : Raster α}

theorem answer_getImageInfo_of_ok {info : ImageInfo}
    (allowed : ∀ isAccessAllowed ∈ security, isAccessAllowed identifier = true)
    (stored : data.dataFrom resources identifier = .ok jpeg)
    (measures : data.infoOf identifier jpeg = .ok info) :
    (withBackends fp data security).answer resources (.getImageInfo identifier) =
      (.ok info : Except Throwable ImageInfo) := by
  have known : data.infoFrom resources identifier = .ok info := by
    rw [ImageDataRepository.infoFrom, stored, Method.except_ok_bind, measures]
    rfl
  have granted : (withBackends fp data security).accessAllowed identifier = true := by
    cases security with
    | none => rfl
    | some isAccessAllowed => exact allowed isAccessAllowed rfl
  have reported : (withBackends fp data security).infoFrom resources identifier = .ok info := by
    rw [infoFrom, granted]
    simp [withBackends, known]
  exact reported

theorem pixels_answer
    (shows : Shows fp data.natives data.io (data.dataFrom resources) security identifier rect
      raster) :
    ServiceCall.pixels (.region fp identifier rect)
      ((withBackends fp data security).answer resources (.region fp identifier rect)) =
        some raster := by
  rcases shows with ⟨result, after, ran, pixels⟩
  have answered : (withBackends fp data security).answer resources
      (.region fp identifier rect) = (.ok result : Except Throwable _) := by
    refine answer_processImage_of_ok (show _ = EStateM.Result.ok result after from ?_)
    rw [uncached_withBackends]
    exact ran
  rw [answered]
  exact pixels

end Client

/-! ## A file of 136 by 130 pixels -/

/-- The file, which is subsampled. -/
def tiledJpeg : Jpeg (ℕ × ℕ) :=
  Jpeg.labelled 136 130 .samp420 (by decide) (by decide) (by decide) (by decide)

/-- The calls for the information and for the tiles of 128 pixels. -/
def tileCalls : Option (ℕ × ℕ) → ServiceCall
  | none => .getImageInfo ['f']
  | some (column, row) => .region .exact ['f'] (.tile 136 130 128 column row)

/-- Turns of the five calls, with the file evicted after each. -/
def tileEvents : List (Event (resourceSignature (Jpeg (ℕ × ℕ))) (Option (ℕ × ℕ))) :=
  (List.replicate 12 [.turn none, .turn (some (0, 0)), .turn (some (1, 0)),
    .turn (some (0, 1)), .turn (some (1, 1)), .evict (.sourceImages ['f'])]).flatten

/-- A server on which all transforms have outputs of two thousand bytes. -/
def tileData : ImageDataRepository (Jpeg (ℕ × ℕ)) (ℕ × ℕ) :=
  { fileData with natives := libraryWriting id Scaler.nearest fun _ _ => 2000 }

theorem tilesHaveRoom_tiledJpeg :
    TilesHaveRoom .exact id (fun _ _ => 2000) tiledJpeg 128 := by
  intro column row listed tile supported
  have typed : tiledJpeg.getSubsamp = some .samp420 := Jpeg.getSubsamp_labelled _ _ _ _ _
  have sizes : ∀ column < 2, ∀ row < 2, (2000 : ℤ) < unsignedLong (tjBufSize
      (Rect.tile 136 130 128 column row).width (Rect.tile 136 130 128 column row).height
      .samp420) := by decide
  refine (JpegTranImage.hasRoom_regionTransform_iff id typed (listed.wide (by decide))
    (listed.tall (by decide)) (listed.inside (by decide)) ?_).mpr
      (sizes column listed.1 row listed.2)
  exact ⟨Nat.mod_eq_zero_of_dvd (Dvd.dvd.mul_left (by decide) column),
    Nat.mod_eq_zero_of_dvd (Dvd.dvd.mul_left (by decide) row)⟩

end ImageServer

end IiifImage
