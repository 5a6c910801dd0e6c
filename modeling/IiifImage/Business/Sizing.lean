import IiifImage.Backend.JAIImage
import IiifImage.Business.ParameterParser
import IiifImage.Business.ScaleCalls

/-!
# The no-resizing marker

A best-fit request whose box exceeds the source resolves to the dimensions `-1`, while
the test before the scaling step looks at the maximal dimensions, which a resolved
request never has.  The marker therefore reaches `scale`.
-/

namespace IiifImage

open Java

namespace ImageService

variable {σ : Type} {fp : Rounding} {image : ImageMethods σ} {created : σ}
variable {region : Option RegionParameters} {width height : ℤ}

/-- The dimensions that a size is resolved against. -/
def sizingDimensions (region : Option RegionParameters) (width height : ℤ) : ℤ × ℤ :=
  match region with
  | some region => (region.width.toInt, region.height.toInt)
  | none => (width, height)

/-- A call of the image does not reach the region object. -/
theorem keeps_onImage {α : Type} (method : Method Throwable σ α) :
    Method.Keeps Objects.region (onImage method) :=
  .on method fun _ _ => rfl

theorem keeps_cropStep (fp : Rounding) (image : ImageMethods σ) :
    Method.Keeps Objects.region (cropStep fp image) := by
  apply Method.Keeps.bind (.reads _)
  intro region
  cases region with
  | none => exact .pure _
  | some region =>
      exact .bind (keeps_onImage _) fun _ => .bind (keeps_onImage _) fun _ =>
        .ite (keeps_onImage _) (.pure _)

/-- The region object is written to by `makeAbsolute` only. -/
theorem regionStep_keeps_region {mid : Objects σ} (absolute : ∀ r ∈ region, r.absolute = true)
    (ran : EStateM.run (regionStep fp image) ⟨created, region⟩ = .ok ⟨⟩ mid) :
    mid.region = region := by
  have unchanged : EStateM.run (absoluteStep fp image) ⟨created, region⟩ =
      .ok ⟨⟩ ⟨created, region⟩ := by
    cases region with
    | none => rfl
    | some region =>
        simp only [absoluteStep, Method.run_reads_bind, absolute region rfl, if_true]
        rfl
  rw [regionStep, Method.run_bind_ok unchanged] at ran
  exact (keeps_cropStep fp image).of_ok ran

/-- Without a region nothing happens before the sizing step. -/
theorem regionStep_none :
    EStateM.run (regionStep fp image) ⟨created, none⟩ = .ok ⟨⟩ ⟨created, none⟩ := rfl

/-- The sizing step resolves against the region's own dimensions, or else against
those of the image. -/
theorem run_sourceDimensions {mid : Objects σ} (reports : Reports image created width height)
    (absolute : ∀ r ∈ region, r.absolute = true)
    (ran : EStateM.run (regionStep fp image) ⟨created, region⟩ = .ok ⟨⟩ mid) :
    ∃ after, EStateM.run (sourceDimensions image) mid =
      .ok (sizingDimensions region width height) after := by
  have kept := regionStep_keeps_region absolute ran
  cases region with
  | some region =>
      refine ⟨mid, ?_⟩
      rw [sourceDimensions, Method.run_reads_bind, kept]
      rfl
  | none =>
      rw [regionStep_none] at ran
      cases ran
      have widthRead : EStateM.run (onImage image.getWidth) ⟨created, none⟩ =
          .ok width (⟨created, none⟩ : Objects σ) := Method.run_on_ok reports.getWidth
      have heightRead : EStateM.run (onImage image.getHeight) ⟨created, none⟩ =
          .ok height (⟨created, none⟩ : Objects σ) := Method.run_on_ok reports.getHeight
      refine ⟨⟨created, none⟩, ?_⟩
      rw [sourceDimensions, Method.run_reads_bind]
      simp only [Method.run_bind_ok widthRead, Method.run_bind_ok heightRead]
      rfl

/-! ## The sizes passed to `scale` -/

variable {size : Option ResizeParameters} {rotation : Option RotationParameters}
variable {bitDepth : Option ImageBitDepth} {format : ImageFormat}

/-- An integral region: absent, or absolute with integral
offsets and positive integral dimensions. -/
def IntegralRegion (fp : Rounding) (region : Option RegionParameters) : Prop :=
  region = none ∨ ∃ x y width height : ℤ, 1 ≤ width ∧ 1 ≤ height ∧
    region = some (.ofInts fp x y width height)

theorem IntegralRegion.absolute (integral : IntegralRegion fp region) :
    ∀ r ∈ region, r.absolute = true := by
  rcases integral with rfl | ⟨x, y, width, height, -, -, rfl⟩
  · intro r member
    cases member
  · intro r member
    cases member
    rfl

theorem IntegralRegion.sizing_positive (integral : IntegralRegion fp region)
    (wide : 1 ≤ width) (tall : 1 ≤ height) :
    1 ≤ (sizingDimensions region width height).1 ∧
      1 ≤ (sizingDimensions region width height).2 := by
  rcases integral with rfl | ⟨x, y, w, h, columns, rows, rfl⟩
  · exact ⟨wide, tall⟩
  · exact ⟨fp.one_le_toInt_ofInt columns, fp.one_le_toInt_ofInt rows⟩

/-- The constructor finds that the source needs no resizing. -/
def NoResizing (fp : Rounding) (size : Option ResizeParameters)
    (region : Option RegionParameters) (width height : ℤ) : Prop :=
  ∃ parameters, size = some parameters ∧
    ResizeParameters.withinMaxSizes fp parameters
      (fp.ofInt (sizingDimensions region width height).1)
      (fp.ofInt (sizingDimensions region width height).2)

/-- A marker that the sizing step produces is passed to `scale`. -/
theorem scaleCalls_of_noResizing (rotation : Option RotationParameters)
    (bitDepth : Option ImageBitDepth) (format : ImageFormat) {mid : Objects σ}
    (reports : Reports image created width height)
    (absolute : ∀ r ∈ region, r.absolute = true)
    (ran : EStateM.run (regionStep fp image) ⟨created, region⟩ = .ok ⟨⟩ mid)
    (noResizing : NoResizing fp size region width height) :
    ∃ factor, scaleCalls fp image size rotation bitDepth format ⟨created, region⟩ =
      [⟨-1, 0, 0, factor, -1⟩] := by
  rcases noResizing with ⟨parameters, rfl, within⟩
  rcases run_sourceDimensions reports absolute ran with ⟨after, dimensions⟩
  have resolved := ResizeParameters.resolve_of_withinMaxSizes within
  have returned : EStateM.run (resolveSize fp image (some parameters)) mid =
      .ok (some ⟨-1, 0, 0, parameters.scaleFactor, -1⟩) after := by
    rw [resolveSize, Method.run_bind_ok dimensions]
    simp only [resolved, Method.run_ofExcept_ok_bind]
    rfl
  exact ⟨parameters.scaleFactor, scaleCalls_of_resolved ran returned rfl⟩

/-- Without a marker every size that is passed to `scale` is positive. -/
theorem scaleCalls_positive {fp : UnlimitedRounding} {mid : Objects σ}
    (reports : Reports image created width height)
    (integral : IntegralRegion fp region) (wide : 1 ≤ width) (tall : 1 ≤ height)
    (ran : EStateM.run (regionStep fp image) ⟨created, region⟩ = .ok ⟨⟩ mid)
    (resizing : ¬NoResizing fp size region width height) :
    ∀ call ∈ scaleCalls fp image size rotation bitDepth format ⟨created, region⟩,
      1 ≤ call.width ∧ 1 ≤ call.height := by
  rcases integral.sizing_positive wide tall with ⟨positiveWidth, positiveHeight⟩
  cases size with
  | none => simp [scaleCalls_of_full ran]
  | some parameters =>
      rcases run_sourceDimensions reports integral.absolute ran with ⟨after, dimensions⟩
      cases resolution : parameters.resolve fp
          (fp.ofInt (sizingDimensions region width height).1)
          (fp.ofInt (sizingDimensions region width height).2) with
      | error exception =>
          have refused : EStateM.run (resolveSize fp image (some parameters)) mid =
              .error exception after := by
            rw [resolveSize, Method.run_bind_ok dimensions]
            simp only [resolution, Method.run_ofExcept_error_bind]
          simp [scaleCalls_of_resolve_error ran refused]
      | ok resolved =>
          have returned : EStateM.run (resolveSize fp image (some parameters)) mid =
              .ok (some resolved) after := by
            rw [resolveSize, Method.run_bind_ok dimensions]
            simp only [resolution, Method.run_ofExcept_ok_bind]
            rfl
          rcases ResizeParameters.resolve_maxSizes resolution with ⟨unsetWidth, unsetHeight⟩
          have wants : wantsScaling resolved = true := by
            simp [wantsScaling, unsetWidth, unsetHeight]
          rw [scaleCalls_of_resolved ran returned wants]
          intro call listed
          rw [List.mem_singleton.mp listed]
          refine ResizeParameters.resolve_positive (fp.ofInt_positive positiveWidth)
            (fp.ofInt_positive positiveHeight) ?_ resolution
          intro within
          exact resizing ⟨parameters, rfl, within⟩

/-- No request scales to non-positive dimensions and a request that needs no resizing
does not scale, exactly when it is not the case that the region is accepted and the
constructor finds that no resizing is needed. -/
theorem scaling_positive_iff (fp : UnlimitedRounding) (image : ImageMethods σ) (created : σ)
    (width height : ℤ) (region : Option RegionParameters)
    (size : Option ResizeParameters) (rotation : Option RotationParameters)
    (bitDepth : Option ImageBitDepth) (format : ImageFormat)
    (reports : Reports image created width height) (wide : 1 ≤ width) (tall : 1 ≤ height)
    (integral : IntegralRegion fp region) :
    ((∀ call ∈ scaleCalls fp image size rotation bitDepth format ⟨created, region⟩,
          1 ≤ call.width ∧ 1 ≤ call.height) ∧
        (NoResizing fp size region width height →
          scaleCalls fp image size rotation bitDepth format ⟨created, region⟩ = [])) ↔
      ¬((∃ mid, EStateM.run (regionStep fp image) ⟨created, region⟩ = .ok ⟨⟩ mid) ∧
        NoResizing fp size region width height) := by
  constructor
  · rintro ⟨-, unscaled⟩ ⟨⟨mid, ran⟩, noResizing⟩
    obtain ⟨factor, marked⟩ := scaleCalls_of_noResizing rotation bitDepth format reports
      integral.absolute ran noResizing
    rw [unscaled noResizing] at marked
    cases marked
  · intro unmarked
    cases ran : EStateM.run (regionStep fp image) ⟨created, region⟩ with
    | error exception mid => simp [scaleCalls_of_region_error ran]
    | ok value mid =>
        have resizing : ¬NoResizing fp size region width height :=
          fun noResizing => unmarked ⟨⟨mid, ran⟩, noResizing⟩
        exact ⟨scaleCalls_positive reports integral wide tall ran resizing,
          fun noResizing => absurd noResizing resizing⟩

/-- A decoded image of ten by ten pixels on the ImageIO backend. -/
def smallImage : JAIImage (ℕ × ℕ) where
  image := some (BufferedImage.labelled 10 10 (by decide) (by decide))
  formatString := ['J', 'P', 'E', 'G']

theorem smallImage_reports (io : ImageIo Unit (ℕ × ℕ)) (fp : Rounding) :
    Reports (JAIImage.methods io fp) smallImage 10 10 := by
  have present : smallImage.image =
      some (BufferedImage.labelled 10 10 (by decide) (by decide)) := rfl
  exact ⟨JAIImage.run_getWidth present, JAIImage.run_getHeight present⟩

/-- Exact arithmetic, no reader, no writer and the nearest samples. -/
def plainIo : ImageIo Unit (ℕ × ℕ) where
  readerFor _ := none
  writerFormatNames := []
  encode _ _ := .ok ()
  noData := ()
  recolor _ := id
  scaler := Scaler.nearest

/-- A request for half the width does not pass a marker to `scale`. -/
theorem scaling_positive_of_halfWidth :
    (∀ call ∈ scaleCalls .exact (JAIImage.methods plainIo .exact) (some { width := 5 }) none
        none .jpeg ⟨smallImage, none⟩, 1 ≤ call.width ∧ 1 ≤ call.height) ∧
      (NoResizing .exact (some { width := 5 }) none 10 10 →
        scaleCalls .exact (JAIImage.methods plainIo .exact) (some { width := 5 }) none none
          .jpeg ⟨smallImage, none⟩ = []) :=
  (scaling_positive_iff .exact (JAIImage.methods plainIo .exact) smallImage 10 10 none
    (some { width := 5 }) none none .jpeg (smallImage_reports plainIo .exact) (by decide)
    (by decide) (.inl rfl)).mpr (by
      rintro ⟨-, parameters, same, within⟩
      cases same
      exact absurd within.1 (by decide))

/-- The best-fit request `!20,20` scales an image of ten by ten pixels to the
dimensions `-1`. -/
theorem scaling_marker_reaches_scale :
    ParameterParser.parseIiifSize ['!', '2', '0', ',', '2', '0'] =
        .ok (some { maxWidth := 20, maxHeight := 20 }) ∧
      ∃ factor, scaleCalls .exact (JAIImage.methods plainIo .exact)
        (some { maxWidth := 20, maxHeight := 20 }) none none .jpeg ⟨smallImage, none⟩ =
          [⟨-1, 0, 0, factor, -1⟩] := by
  constructor
  · decide
  · refine scaleCalls_of_noResizing none none .jpeg (smallImage_reports plainIo .exact)
      (fun _ absent => by cases absent) regionStep_none ⟨_, rfl, ?_⟩
    decide

end ImageService

end IiifImage
