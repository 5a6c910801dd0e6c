import IiifImage.Java.Number
import IiifImage.Model.Throwable

/-!
# Resize parameters

The parsed size request and its resolution against the dimensions of the image.
A best-fit request whose box is larger than the image in both directions resolves
to the marker dimensions `-1`.
-/

namespace IiifImage

open Java

/-- `ResizeParametersImpl`.  An unset field is zero. -/
structure ResizeParameters where
  height : ℤ := 0
  maxHeight : ℤ := 0
  maxWidth : ℤ := 0
  scaleFactor : ℤ := 0
  width : ℤ := 0
  deriving DecidableEq, Repr

namespace ResizeParameters

/-- The width and height that the constructor computes before rounding up. -/
def calculated (fp : Rounding) (sizeParameters : ResizeParameters)
    (currentWidth currentHeight : JFloat) : Except Throwable (JFloat × JFloat) :=
  let aspect := fp.div currentWidth currentHeight
  let targetHeight := sizeParameters.height
  let targetWidth := sizeParameters.width
  let targetMaxHeight := sizeParameters.maxHeight
  let targetMaxWidth := sizeParameters.maxWidth
  let scaleFactor := sizeParameters.scaleFactor
  if targetWidth > 0 ∧ targetHeight = 0 ∧ targetMaxHeight = 0 ∧ targetMaxWidth = 0 then
    let calculatedWidth := fp.ofInt targetWidth
    .ok (calculatedWidth, fp.div calculatedWidth aspect)
  else if targetWidth = 0 ∧ targetHeight > 0 ∧ targetMaxHeight = 0
      ∧ targetMaxWidth = 0 then
    let calculatedHeight := fp.ofInt targetHeight
    .ok (fp.mul aspect calculatedHeight, calculatedHeight)
  else if targetWidth > 0 ∧ targetHeight > 0 ∧ targetMaxHeight = 0
      ∧ targetMaxWidth = 0 then
    .ok (fp.ofInt targetWidth, fp.ofInt targetHeight)
  else if targetWidth = 0 ∧ targetHeight = 0 ∧ targetMaxHeight = 0
      ∧ targetMaxWidth = 0 ∧ scaleFactor > 0 then
    let factor := fp.div (fp.ofInt scaleFactor) (fp.ofInt 100)
    .ok (fp.mul factor currentWidth, fp.mul factor currentHeight)
  else if targetMaxHeight > 0 ∧ targetMaxWidth > 0 then
    let maxHeight := fp.ofInt targetMaxHeight
    let maxWidth := fp.ofInt targetMaxWidth
    if maxHeight.gt currentHeight && maxWidth.gt currentWidth then
      -- no resizing needed, both sizes are within max sizes
      .ok (fp.ofInt (-1), fp.ofInt (-1))
    else if maxHeight.lt currentHeight && maxWidth.gt currentWidth then
      let factor := fp.div maxHeight currentHeight
      .ok (fp.mul factor currentWidth, fp.mul factor currentHeight)
    else if maxHeight.gt currentHeight && maxWidth.lt currentWidth then
      let factor := fp.div maxWidth currentWidth
      .ok (fp.mul factor currentWidth, fp.mul factor currentHeight)
    else
      let factorHeight := fp.div maxHeight currentHeight
      let factorWidth := fp.div maxWidth currentWidth
      let factor := factorHeight.min factorWidth
      .ok (fp.mul factor currentWidth, fp.mul factor currentHeight)
  else .error (.invalidParameters (some "Parameter set is invalid."))

/-- The constructor `ResizeParametersImpl(sizeParameters, currentWidth,
currentHeight)`.  It never assigns the maximal dimensions. -/
def resolve (fp : Rounding) (sizeParameters : ResizeParameters)
    (currentWidth currentHeight : JFloat) : Except Throwable ResizeParameters := do
  let (calculatedWidth, calculatedHeight) ←
    calculated fp sizeParameters currentWidth currentHeight
  return {
    height := calculatedHeight.ceilToInt
    maxHeight := 0
    maxWidth := 0
    scaleFactor := sizeParameters.scaleFactor
    width := calculatedWidth.ceilToInt }

/-- The branch of the constructor in which no resizing is needed. -/
def withinMaxSizes (fp : Rounding) (sizeParameters : ResizeParameters)
    (currentWidth currentHeight : JFloat) : Prop :=
  sizeParameters.maxHeight > 0 ∧ sizeParameters.maxWidth > 0 ∧
    (fp.ofInt sizeParameters.maxHeight).gt currentHeight = true ∧
    (fp.ofInt sizeParameters.maxWidth).gt currentWidth = true

instance (fp : Rounding) (sizeParameters : ResizeParameters)
    (currentWidth currentHeight : JFloat) :
    Decidable (withinMaxSizes fp sizeParameters currentWidth currentHeight) :=
  inferInstanceAs (Decidable (_ ∧ _))

/-! ## Results of the resolution -/

section Resolution

variable {fp : Rounding} {sizeParameters resolved : ResizeParameters}
variable {currentWidth currentHeight : JFloat}

theorem resolve_eq_ok_iff :
    resolve fp sizeParameters currentWidth currentHeight = .ok resolved ↔
      ∃ calculatedWidth calculatedHeight,
        calculated fp sizeParameters currentWidth currentHeight =
          .ok (calculatedWidth, calculatedHeight) ∧
        resolved = ⟨calculatedHeight.ceilToInt, 0, 0, sizeParameters.scaleFactor,
          calculatedWidth.ceilToInt⟩ := by
  rw [resolve]
  cases calculated fp sizeParameters currentWidth currentHeight with
  | error exception => simp [bind, Except.bind]
  | ok pair =>
      rcases pair with ⟨calculatedWidth, calculatedHeight⟩
      simp only [bind, Except.bind, pure, Except.pure, Except.ok.injEq, Prod.mk.injEq]
      constructor
      · rintro rfl
        exact ⟨_, _, ⟨rfl, rfl⟩, rfl⟩
      · intro computed
        rcases computed with ⟨_, _, ⟨rfl, rfl⟩, rfl⟩
        rfl

/-- The constructor leaves the maximal dimensions of the new object unset. -/
theorem resolve_maxSizes
    (succeeds : resolve fp sizeParameters currentWidth currentHeight = .ok resolved) :
    resolved.maxWidth = 0 ∧ resolved.maxHeight = 0 := by
  rcases resolve_eq_ok_iff.mp succeeds with ⟨_, _, _, rfl⟩
  exact ⟨rfl, rfl⟩

/-- Outside the no-resizing branch, positive dimensions give positive targets. -/
theorem calculated_positive {fp : UnlimitedRounding} {calculatedWidth calculatedHeight : JFloat}
    (wide : currentWidth.Positive) (tall : currentHeight.Positive)
    (resizing : ¬withinMaxSizes fp sizeParameters currentWidth currentHeight)
    (succeeds : calculated fp sizeParameters currentWidth currentHeight =
      .ok (calculatedWidth, calculatedHeight)) :
    calculatedWidth.Positive ∧ calculatedHeight.Positive := by
  have scaled : ∀ factor : JFloat, factor.Positive →
      (fp.toRounding.mul factor currentWidth).Positive ∧
        (fp.toRounding.mul factor currentHeight).Positive :=
    fun factor positive => ⟨fp.mul_positive positive wide, fp.mul_positive positive tall⟩
  have aspect : (fp.toRounding.div currentWidth currentHeight).Positive := fp.div_positive wide tall
  simp only [calculated] at succeeds
  split at succeeds
  next given =>
    cases succeeds
    have target := fp.ofInt_positive (n := sizeParameters.width) (by omega)
    exact ⟨target, fp.div_positive target aspect⟩
  split at succeeds
  next given =>
    cases succeeds
    have target := fp.ofInt_positive (n := sizeParameters.height) (by omega)
    exact ⟨fp.mul_positive aspect target, target⟩
  split at succeeds
  next given =>
    cases succeeds
    exact ⟨fp.ofInt_positive (by omega), fp.ofInt_positive (by omega)⟩
  split at succeeds
  next given =>
    cases succeeds
    exact scaled _ (fp.div_positive (fp.ofInt_positive (by omega))
      (fp.ofInt_positive (by decide)))
  split at succeeds
  next given =>
    have maxHeight := fp.ofInt_positive (n := sizeParameters.maxHeight) (by omega)
    have maxWidth := fp.ofInt_positive (n := sizeParameters.maxWidth) (by omega)
    split at succeeds
    next within =>
      rw [Bool.and_eq_true] at within
      exact absurd ⟨given.1, given.2, within.1, within.2⟩ resizing
    split at succeeds
    next =>
      cases succeeds
      exact scaled _ (fp.div_positive maxHeight tall)
    split at succeeds
    next =>
      cases succeeds
      exact scaled _ (fp.div_positive maxWidth wide)
    next =>
      cases succeeds
      exact scaled _ ((fp.div_positive maxHeight tall).min (fp.div_positive maxWidth wide))
  next => cases succeeds

/-- Outside the no-resizing branch, resolved dimensions are at least one. -/
theorem resolve_positive {fp : UnlimitedRounding} (wide : currentWidth.Positive)
    (tall : currentHeight.Positive)
    (resizing : ¬withinMaxSizes fp sizeParameters currentWidth currentHeight)
    (succeeds : resolve fp sizeParameters currentWidth currentHeight = .ok resolved) :
    1 ≤ resolved.width ∧ 1 ≤ resolved.height := by
  obtain ⟨calculatedWidth, calculatedHeight, calculation, rfl⟩ :=
    resolve_eq_ok_iff.mp succeeds
  rcases calculated_positive wide tall resizing calculation with ⟨widthPos, heightPos⟩
  exact ⟨widthPos.one_le_ceilToInt, heightPos.one_le_ceilToInt⟩

/-- In the no-resizing branch the constructor returns the marker dimensions. -/
theorem resolve_of_withinMaxSizes
    (within : withinMaxSizes fp sizeParameters currentWidth currentHeight) :
    resolve fp sizeParameters currentWidth currentHeight =
      .ok ⟨-1, 0, 0, sizeParameters.scaleFactor, -1⟩ := by
  rcases within with ⟨tallBox, wideBox, taller, wider⟩
  have notUnset : ¬(sizeParameters.maxHeight = 0) := by omega
  have marker : (fp.ofInt (-1)).ceilToInt = -1 := by
    rw [fp.ofInt_of_small (by decide)]
    exact JFloat.ceilToInt_intCast (by decide) (by decide)
  rw [resolve_eq_ok_iff]
  refine ⟨fp.ofInt (-1), fp.ofInt (-1), ?_, ?_⟩
  · simp [calculated, notUnset, tallBox, wideBox, taller, wider]
  · rw [marker]

end Resolution

end ResizeParameters

end IiifImage
