import IiifImage.Java.Method
import IiifImage.TurboJpeg.Library

/-!
# What a lossless transform does

The conditions under which the native transform succeeds and the image it returns,
stated through the subsampling that the header of the source shows.  A transform
turns the whole image first and reads its crop rectangle in the turned image.
-/

namespace IiifImage.TurboJpeg

open Java

/-! ## Subsamplings of turned images -/

/-- The subsampling of an image whose axes have been exchanged.  The exchanged 4:1:1
is not a subsampling that a header can be read with. -/
def Subsamp.transposed : Subsamp → Option Subsamp
  | samp444 => some .samp444
  | samp422 => some .samp440
  | samp420 => some .samp420
  | gray => some .gray
  | samp440 => some .samp422
  | samp411 => none

/-- The subsampling of an image after a pixel permutation. -/
def Subsamp.turned (orientation : Orientation) (subsamp : Subsamp) : Option Subsamp :=
  if orientation.transpose then subsamp.transposed else some subsamp

namespace Jpeg

variable {α : Type} {jpeg : Jpeg α} {subsamp : Subsamp}

theorem getSubsamp_gray (jpeg : Jpeg α) (single : jpeg.colorspace = .gray) :
    jpeg.getSubsamp = some .gray := if_pos single

/-- A grayscale header is that of a single component, and any other header shows the
sampling factors of the first component. -/
theorem getSubsamp_eq_some (typed : jpeg.getSubsamp = some subsamp) :
    (jpeg.colorspace = .gray ∧ subsamp = .gray) ∨
      (jpeg.colorspace ≠ .gray ∧ subsamp ≠ .gray ∧
        jpeg.hSampFactor = subsamp.mcuWidth / 8 ∧
        jpeg.vSampFactor = subsamp.mcuHeight / 8) := by
  rw [getSubsamp] at typed
  split at typed
  next single =>
    exact .inl ⟨single, (Option.some.inj typed).symm⟩
  next several =>
    have matching := List.find?_some typed
    have listed := List.mem_of_find?_eq_some typed
    rw [decide_eq_true_eq] at matching
    refine .inr ⟨several, ?_, matching⟩
    rintro rfl
    simp at listed

/-- The image of given dimensions and subsampling in which every pixel shows its own
coordinates. -/
def labelled (width height : ℕ) (subsamp : Subsamp) (wide : 0 < width) (tall : 0 < height)
    (narrow : width ≤ maxDimension) (low : height ≤ maxDimension) : Jpeg (ℕ × ℕ) where
  raster := Raster.labelled width height
  hSampFactor := subsamp.mcuWidth / 8
  vSampFactor := subsamp.mcuHeight / 8
  colorspace := if subsamp = .gray then .gray else .ycbcr
  width_pos := wide
  height_pos := tall
  width_le := narrow
  height_le := low

theorem getSubsamp_labelled {width height : ℕ} (subsamp : Subsamp) (wide : 0 < width)
    (tall : 0 < height) (narrow : width ≤ maxDimension) (low : height ≤ maxDimension) :
    (labelled width height subsamp wide tall narrow low).getSubsamp = some subsamp := by
  cases subsamp <;> rfl

@[simp] theorem colorspace_turned (orientation : Orientation) :
    (jpeg.turned orientation).colorspace = jpeg.colorspace := rfl

@[simp] theorem raster_turned (orientation : Orientation) :
    (jpeg.turned orientation).raster = orientation • jpeg.raster := rfl

theorem getSubsamp_turned (typed : jpeg.getSubsamp = some subsamp)
    (orientation : Orientation) :
    (jpeg.turned orientation).getSubsamp = subsamp.turned orientation := by
  rcases getSubsamp_eq_some typed with
    ⟨single, rfl⟩ | ⟨several, notGray, horizontal, vertical⟩
  · rw [getSubsamp_gray (jpeg.turned orientation) single, Subsamp.turned]
    split_ifs <;> rfl
  · rw [getSubsamp, colorspace_turned, if_neg several]
    simp only [turned, horizontal, vertical, Subsamp.turned]
    cases orientation.transpose <;> cases subsamp <;>
      first | exact absurd rfl notGray | decide

theorem iMCUSampleWidth_turned (typed : jpeg.getSubsamp = some subsamp)
    (orientation : Orientation) {t : TJTransform} (colored : t.hasGray = false) :
    (jpeg.turned orientation).iMCUSampleWidth t =
      if orientation.transpose then subsamp.mcuHeight else subsamp.mcuWidth := by
  rcases getSubsamp_eq_some typed with
    ⟨single, rfl⟩ | ⟨several, notGray, horizontal, vertical⟩
  · simp [iMCUSampleWidth, singleComponent, single, Subsamp.mcuWidth, Subsamp.mcuHeight]
  · simp only [iMCUSampleWidth, singleComponent, several, colored, turned,
      horizontal, vertical]
    cases orientation.transpose <;> cases subsamp <;> rfl

theorem iMCUSampleHeight_turned (typed : jpeg.getSubsamp = some subsamp)
    (orientation : Orientation) {t : TJTransform} (colored : t.hasGray = false) :
    (jpeg.turned orientation).iMCUSampleHeight t =
      if orientation.transpose then subsamp.mcuWidth else subsamp.mcuHeight := by
  rcases getSubsamp_eq_some typed with
    ⟨single, rfl⟩ | ⟨several, notGray, horizontal, vertical⟩
  · simp [iMCUSampleHeight, singleComponent, single, Subsamp.mcuWidth, Subsamp.mcuHeight]
  · simp only [iMCUSampleHeight, singleComponent, several, colored, turned,
      horizontal, vertical]
    cases orientation.transpose <;> cases subsamp <;> rfl

/-- The MCU size of the subsampling is a multiple of the MCU size of the output, which a
conversion to grayscale makes smaller. -/
theorem iMCUSample_dvd (typed : jpeg.getSubsamp = some subsamp) (t : TJTransform) :
    jpeg.iMCUSampleWidth t ∣ subsamp.mcuWidth ∧
      jpeg.iMCUSampleHeight t ∣ subsamp.mcuHeight := by
  have eights : 8 ∣ subsamp.mcuWidth ∧ 8 ∣ subsamp.mcuHeight := by
    cases subsamp <;> decide
  unfold iMCUSampleWidth iMCUSampleHeight
  split
  next => exact eights
  next several =>
    rcases getSubsamp_eq_some typed with ⟨single, -⟩ | ⟨-, -, horizontal, vertical⟩
    · simp [singleComponent, single] at several
    · rw [horizontal, vertical, Nat.div_mul_cancel eights.1, Nat.div_mul_cancel eights.2]
      exact ⟨dvd_rfl, dvd_rfl⟩

end Jpeg

/-! ## Areas -/

/-- The bounds of a transform are a non-empty rectangle of unsigned coordinates. -/
structure TJTransform.Bounds (t : TJTransform) (rect : Rect) : Prop where
  x : t.x = rect.x
  y : t.y = rect.y
  width : t.width = rect.width
  height : t.height = rect.height
  wide : 0 < rect.width
  tall : 0 < rect.height
  right : rect.x + rect.width ≤ maxDimension
  bottom : rect.y + rect.height ≤ maxDimension

namespace Jpeg

variable {α : Type} {jpeg : Jpeg α} {subsamp : Subsamp}

section Selection

variable {t : TJTransform} {rect : Rect}

/-- A crop request is valid when its rectangle lies inside the image. -/
theorem cropArea_eq (bounds : t.Bounds rect) (width height : ℕ) :
    cropArea t width height =
      if inside : rect.Inside width height then
        some ⟨rect, inside, bounds.wide, bounds.tall⟩
      else none := by
  have right := bounds.right
  have bottom := bounds.bottom
  have wide := bounds.wide
  have tall := bounds.tall
  have positive : t.width ≠ 0 ∧ t.height ≠ 0 := by
    rw [bounds.width, bounds.height]
    omega
  simp only [cropArea, positive.1, positive.2, ne_eq, not_false_eq_true, if_true]
  simp only [bounds.x, bounds.y, bounds.width, bounds.height,
    jdimension_natCast (n := rect.x) (by omega), jdimension_natCast (n := rect.y) (by omega),
    jdimension_natCast (n := rect.width) (by omega),
    jdimension_natCast (n := rect.height) (by omega)]
  refine dite_congr (propext ?_) (fun _ => rfl) (fun _ => rfl)
  rw [Rect.Inside]
  omega

theorem selectArea_uncropped (uncropped : t.hasCrop = false) :
    jpeg.selectArea t = .ok jpeg := by
  rw [selectArea, uncropped]
  rfl

theorem selectArea_eq_ok_iff (cropped : t.hasCrop = true) (bounds : t.Bounds rect)
    {selected : Jpeg α} :
    jpeg.selectArea t = .ok selected ↔
      (rect.x % jpeg.iMCUSampleWidth t = 0 ∧ rect.y % jpeg.iMCUSampleHeight t = 0) ∧
        ∃ inside : rect.Inside jpeg.raster.width jpeg.raster.height,
          selected = jpeg.cropTo ⟨rect, inside, bounds.wide, bounds.tall⟩ := by
  rw [selectArea, cropped, if_pos rfl, cropArea_eq bounds]
  by_cases inside : rect.Inside jpeg.raster.width jpeg.raster.height
  · rw [dif_pos inside]
    simp only [inside, exists_true_left]
    split
    next aligned => simp only [aligned, and_self, true_and, Except.ok.injEq, eq_comm]
    next misaligned => simp only [misaligned, false_and, reduceCtorEq]
  · rw [dif_neg inside]
    simp [inside]

theorem selectArea_error {exception : Throwable}
    (fails : jpeg.selectArea t = .error exception) :
    ∃ message, exception = .tj message := by
  rw [selectArea] at fails
  split at fails
  · split at fails
    · cases fails
      exact ⟨_, rfl⟩
    · split at fails <;> cases fails
      exact ⟨_, rfl⟩
  · cases fails

end Selection

/-! ## The whole transform -/

section Transform

variable {luma : α → α} {t : TJTransform}

/-- Without a conversion to grayscale only the sampling factors of a single component
are adjusted. -/
theorem adjustParameters_colored (luma : α → α) (jpeg : Jpeg α) (colored : t.hasGray = false) :
    ∃ adjusted, adjustParameters luma jpeg t = .ok adjusted ∧
      adjusted.raster = jpeg.raster ∧ adjusted.colorspace = jpeg.colorspace ∧
      adjusted.getSubsamp = jpeg.getSubsamp := by
  rw [adjustParameters, if_neg (by rw [colored]; decide)]
  split
  next single =>
    refine ⟨_, rfl, rfl, rfl, ?_⟩
    rw [getSubsamp_gray jpeg single]
    exact getSubsamp_gray _ single
  next => exact ⟨jpeg, rfl, rfl, rfl, rfl⟩

/-- A colour image can be converted to grayscale if it has a luma component. -/
def ConvertibleToGray (jpeg : Jpeg α) : Prop :=
  jpeg.colorspace = .ycbcr ∨ jpeg.colorspace = .gray

instance (jpeg : Jpeg α) : Decidable jpeg.ConvertibleToGray :=
  inferInstanceAs (Decidable (_ ∨ _))

theorem adjustParameters_gray (gray : t.hasGray = true) {adjusted : Jpeg α} :
    adjustParameters luma jpeg t = .ok adjusted ↔
      jpeg.ConvertibleToGray ∧ adjusted =
        { jpeg with
          raster := jpeg.raster.map luma
          hSampFactor := 1
          vSampFactor := 1
          colorspace := .gray } := by
  rw [adjustParameters, if_pos gray, ConvertibleToGray]
  split
  next convertible => rw [and_iff_right convertible, Except.ok.injEq, eq_comm]
  next unconvertible => simp only [unconvertible, false_and, reduceCtorEq]

/-- Adjusting the parameters changes the colours at most. -/
theorem adjustParameters_size {adjusted : Jpeg α}
    (succeeds : adjustParameters luma jpeg t = .ok adjusted) :
    adjusted.raster.width = jpeg.raster.width ∧
      adjusted.raster.height = jpeg.raster.height := by
  cases gray : t.hasGray with
  | true =>
      rcases (adjustParameters_gray gray).mp succeeds with ⟨_, rfl⟩
      exact ⟨rfl, rfl⟩
  | false =>
      rcases adjustParameters_colored luma jpeg gray with ⟨_, result, raster, _⟩
      rw [succeeds] at result
      cases result
      exact ⟨congrArg Raster.width raster, congrArg Raster.height raster⟩

theorem adjustParameters_error {exception : Throwable}
    (fails : adjustParameters luma jpeg t = .error exception) :
    ∃ message, exception = .tj message := by
  rw [adjustParameters] at fails
  split at fails
  · split at fails <;> cases fails
    exact ⟨_, rfl⟩
  · split at fails <;> cases fails

theorem tjTransform_eq (typed : jpeg.getSubsamp = some subsamp) :
    tjTransform luma jpeg t = (do
      let selected ← (jpeg.turned t.op.orientation).selectArea t
      adjustParameters luma selected t) := by
  rw [tjTransform, typed]

/-- The native transform reports every failure as a `TJException`. -/
theorem tjTransform_error {exception : Throwable}
    (fails : tjTransform luma jpeg t = .error exception) :
    ∃ message, exception = .tj message := by
  rw [tjTransform] at fails
  split at fails
  · cases fails
    exact ⟨_, rfl⟩
  · cases selection : (jpeg.turned t.op.orientation).selectArea t with
    | ok selected =>
        rw [selection] at fails
        exact adjustParameters_error fails
    | error thrown =>
        rw [selection] at fails
        cases fails
        exact selectArea_error selection

/-- Without a crop rectangle and a conversion to grayscale the whole image is
turned. -/
theorem tjTransform_uncropped (luma : α → α) (typed : jpeg.getSubsamp = some subsamp)
    (uncropped : t.hasCrop = false) (colored : t.hasGray = false) :
    ∃ out, tjTransform luma jpeg t = .ok out ∧
      out.raster = t.op.orientation • jpeg.raster ∧
      out.getSubsamp = subsamp.turned t.op.orientation := by
  obtain ⟨out, adjusted, raster, _, outSubsamp⟩ :=
    adjustParameters_colored luma (jpeg.turned t.op.orientation) colored
  refine ⟨out, ?_, raster, outSubsamp.trans (getSubsamp_turned typed _)⟩
  rw [tjTransform_eq typed, selectArea_uncropped uncropped]
  exact adjusted

/-- With a crop rectangle but no conversion to grayscale the result is the part of
the turned image that the rectangle covers. -/
theorem tjTransform_cropped (luma : α → α) {rect : Rect}
    (typed : jpeg.getSubsamp = some subsamp)
    (cropped : t.hasCrop = true) (colored : t.hasGray = false) (bounds : t.Bounds rect)
    (inside : rect.Inside (t.op.orientation • jpeg.raster).width
      (t.op.orientation • jpeg.raster).height)
    (aligned : rect.x % (jpeg.turned t.op.orientation).iMCUSampleWidth t = 0 ∧
      rect.y % (jpeg.turned t.op.orientation).iMCUSampleHeight t = 0) :
    ∃ out, tjTransform luma jpeg t = .ok out ∧
      out.raster = (t.op.orientation • jpeg.raster).crop rect ∧
      out.getSubsamp = subsamp.turned t.op.orientation := by
  have selection : (jpeg.turned t.op.orientation).selectArea t = .ok _ :=
    (selectArea_eq_ok_iff cropped bounds).mpr ⟨aligned, inside, rfl⟩
  obtain ⟨out, adjusted, raster, _, outSubsamp⟩ := adjustParameters_colored luma
    ((jpeg.turned t.op.orientation).cropTo ⟨rect, inside, bounds.wide, bounds.tall⟩) colored
  refine ⟨out, ?_, raster, outSubsamp.trans (getSubsamp_turned typed _)⟩
  rw [tjTransform_eq typed, selection]
  exact adjusted

/-- A crop rectangle that leaves the turned image or is off its MCU grid is
refused. -/
theorem tjTransform_refused (luma : α → α) {rect : Rect} (cropped : t.hasCrop = true)
    (bounds : t.Bounds rect)
    (refused : ¬(rect.Inside (t.op.orientation • jpeg.raster).width
        (t.op.orientation • jpeg.raster).height ∧
      rect.x % (jpeg.turned t.op.orientation).iMCUSampleWidth t = 0 ∧
      rect.y % (jpeg.turned t.op.orientation).iMCUSampleHeight t = 0)) :
    ∃ message, tjTransform luma jpeg t = .error (.tj message) := by
  cases result : tjTransform luma jpeg t with
  | error exception =>
      rcases tjTransform_error result with ⟨message, rfl⟩
      exact ⟨message, rfl⟩
  | ok out =>
      rw [tjTransform] at result
      split at result
      · cases result
      · rcases Method.except_bind_eq_ok.mp result with ⟨selected, selection, _⟩
        rcases (selectArea_eq_ok_iff cropped bounds).mp selection with ⟨aligned, inside, _⟩
        exact absurd ⟨inside, aligned⟩ refused

/-! The dimensions of the result, also with a conversion to grayscale. -/

theorem turned_none : jpeg.turned TJOp.none.orientation = jpeg := by
  simp only [turned, TJOp.orientation_none, one_smul]
  rfl

/-- A transform with bounds only delivers an image of the dimensions of the bounds. -/
theorem tjTransform_size_bounds {rect : Rect} {out : Jpeg α}
    (typed : jpeg.getSubsamp = some subsamp) (cropped : t.hasCrop = true)
    (bounds : t.Bounds rect) (transformed : tjTransform luma jpeg t = .ok out) :
    out.raster.width = rect.width ∧ out.raster.height = rect.height := by
  rw [tjTransform_eq typed] at transformed
  rcases Method.except_bind_eq_ok.mp transformed with ⟨selected, selection, adjusted⟩
  rcases (selectArea_eq_ok_iff cropped bounds).mp selection with ⟨-, inside, rfl⟩
  rcases adjustParameters_size adjusted with ⟨sameWidth, sameHeight⟩
  rw [sameWidth, sameHeight]
  exact ⟨Raster.width_crop_of_inside inside, Raster.height_crop_of_inside inside⟩

/-- A transform without bounds delivers an image of the dimensions of the turned image. -/
theorem tjTransform_size_uncropped {out : Jpeg α} (typed : jpeg.getSubsamp = some subsamp)
    (uncropped : t.hasCrop = false) (transformed : tjTransform luma jpeg t = .ok out) :
    out.raster.width = (t.op.orientation • jpeg.raster).width ∧
      out.raster.height = (t.op.orientation • jpeg.raster).height := by
  rw [tjTransform_eq typed, selectArea_uncropped uncropped] at transformed
  exact adjustParameters_size transformed

/-! When the result of a transform can be read again. -/

/-- The conversion to grayscale needs a luma component and otherwise the subsampling has
to be known. -/
def Writable (jpeg : Jpeg α) (gray : Bool) : Prop :=
  if gray then jpeg.ConvertibleToGray else jpeg.getSubsamp.isSome = true

theorem adjustParameters_succeeds_iff :
    (∃ out outSubsamp, adjustParameters luma jpeg t = .ok out ∧
        out.getSubsamp = some outSubsamp) ↔ jpeg.Writable t.hasGray := by
  cases gray : t.hasGray with
  | true =>
      simp only [adjustParameters_gray gray, Writable, if_true]
      constructor
      · intro written
        rcases written with ⟨_, _, ⟨convertible, _⟩, _⟩
        exact convertible
      · intro convertible
        exact ⟨_, .gray, ⟨convertible, rfl⟩, getSubsamp_gray _ rfl⟩
  | false =>
      rcases adjustParameters_colored luma jpeg gray with ⟨out, adjusted, _, _, known⟩
      simp only [adjusted, Except.ok.injEq, Writable, Bool.false_eq_true, if_false, ← known,
        Option.isSome_iff_exists]
      constructor
      · intro written
        rcases written with ⟨_, outSubsamp, rfl, outTyped⟩
        exact ⟨outSubsamp, outTyped⟩
      · intro known
        rcases known with ⟨outSubsamp, outTyped⟩
        exact ⟨out, outSubsamp, rfl, outTyped⟩

/-- A transform without bounds. -/
theorem tjTransform_idle_succeeds_iff (luma : α → α)
    (typed : jpeg.getSubsamp = some subsamp)
    (uncropped : t.hasCrop = false) :
    (∃ out outSubsamp, tjTransform luma jpeg t = .ok out ∧
        out.getSubsamp = some outSubsamp) ↔
      (jpeg.turned t.op.orientation).Writable t.hasGray := by
  rw [tjTransform_eq typed, selectArea_uncropped uncropped, ← adjustParameters_succeeds_iff]
  rfl

/-- A transform of bounds on the MCU grid. -/
theorem tjTransform_bounds_succeeds_iff (luma : α → α) {rect : Rect}
    (typed : jpeg.getSubsamp = some subsamp) (op : t.op = .none) (cropped : t.hasCrop = true)
    (bounds : t.Bounds rect)
    (inside : rect.Inside jpeg.raster.width jpeg.raster.height)
    (columns : subsamp.mcuWidth ∣ rect.x) (rows : subsamp.mcuHeight ∣ rect.y) :
    (∃ out outSubsamp, tjTransform luma jpeg t = .ok out ∧
        out.getSubsamp = some outSubsamp) ↔ jpeg.Writable t.hasGray := by
  have grid := iMCUSample_dvd typed t
  have selection : jpeg.selectArea t =
      .ok (jpeg.cropTo ⟨rect, inside, bounds.wide, bounds.tall⟩) :=
    (selectArea_eq_ok_iff cropped bounds).mpr
      ⟨⟨Nat.mod_eq_zero_of_dvd (grid.1.trans columns),
        Nat.mod_eq_zero_of_dvd (grid.2.trans rows)⟩, inside, rfl⟩
  rw [tjTransform_eq typed, op, turned_none, selection, Method.except_ok_bind,
    adjustParameters_succeeds_iff]
  rfl

end Transform

end Jpeg

end IiifImage.TurboJpeg
