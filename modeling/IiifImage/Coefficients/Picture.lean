import IiifImage.Coefficients.Result
import IiifImage.Raster.Whole

/-!
# The picture of coefficients

What a decoder shows of an image: at every pixel one sample of each component, rebuilt
from the block that covers the pixel by a transform with a basis of alternating parity,
and then processed by any function of the sample.  The picture of a transformed image
is a part of the picture of the source, turned with its whole MCUs.
-/

namespace IiifImage.Coefficients

open TurboJpeg Arrays

/-! ## Sampling factors -/

/-- The first component is sampled as often as any, and the others at fractions of
that. -/
structure CoefficientImage.Regular (image : CoefficientImage) : Prop where
  first : image.FirstFull
  h_dvd : ∀ component ∈ image.components, component.hSampFactor ∣ image.maxH
  v_dvd : ∀ component ∈ image.components, component.vSampFactor ∣ image.maxV

namespace CoefficientImage

variable {image : CoefficientImage}

/-- Factors that divide those of the first component. -/
theorem regular_of_dvd {first : Component} {rest : List Component}
    (components : image.components = first :: rest)
    (divides : ∀ component ∈ rest, component.hSampFactor ∣ first.hSampFactor ∧
      component.vSampFactor ∣ first.vSampFactor) : image.Regular := by
  have all : ∀ component ∈ image.components, component.hSampFactor ∣ first.hSampFactor ∧
      component.vSampFactor ∣ first.vSampFactor := by
    rw [components]
    intro component present
    rcases List.mem_cons.mp present with rfl | later
    · exact ⟨dvd_rfl, dvd_rfl⟩
    · exact divides component later
  have inInfos : first.toComponentInfo ∈ infos image.components := by
    rw [components]
    exact List.mem_cons_self
  have maxH_eq : image.maxH = first.hSampFactor := by
    refine le_antisymm (maxHSampFactor_le_iff.mpr ⟨first.hSampFactor_pos, ?_⟩)
      (hSampFactor_le_max inInfos)
    intro info present
    rcases List.mem_map.mp present with ⟨component, inImage, rfl⟩
    exact Nat.le_of_dvd first.hSampFactor_pos (all component inImage).1
  have maxV_eq : image.maxV = first.vSampFactor := by
    refine le_antisymm (maxVSampFactor_le_iff.mpr ⟨first.vSampFactor_pos, ?_⟩)
      (vSampFactor_le_max inInfos)
    intro info present
    rcases List.mem_map.mp present with ⟨component, inImage, rfl⟩
    exact Nat.le_of_dvd first.vSampFactor_pos (all component inImage).2
  refine ⟨?_, ?_, ?_⟩
  · intro head isHead
    rw [components] at isHead
    cases isHead
    exact ⟨maxH_eq.symm, maxV_eq.symm⟩
  · rw [maxH_eq]
    exact fun component present => (all component present).1
  · rw [maxV_eq]
    exact fun component present => (all component present).2

/-- What is known of the components after the first. -/
theorem restSampled_factors {first : ComponentInfo} {rest : List Component} {href vref : ℕ}
    (sampled : image.restSampled first (infos rest) href vref = true) {component : Component}
    (present : component ∈ rest) :
    (component.hSampFactor = href ∧ component.vSampFactor = vref) ∨
      (component.hSampFactor = first.hSampFactor ∧
        component.vSampFactor = first.vSampFactor) := by
  rcases List.mem_iff_getElem?.mp present with ⟨index, atIndex⟩
  have entry : ((infos rest).zipIdx 1)[index]? = some (component.toComponentInfo, 1 + index) := by
    rw [List.getElem?_zipIdx, infos, List.getElem?_map, atIndex]
    rfl
  rw [restSampled, List.all_eq_true] at sampled
  have checked := sampled _ (List.mem_of_getElem? entry)
  dsimp only at checked
  split_ifs at checked with fourth
  · exact .inr (by simpa using checked)
  · exact .inl (by simpa using checked)

/-- The levels of subsampling that the library can determine are regular. -/
theorem regular_of_getSubsamp (determined : image.getSubsamp.isSome = true) : image.Regular := by
  cases components : image.components with
  | nil => exact absurd components image.components_ne_nil
  | cons first rest =>
      apply regular_of_dvd components
      by_cases gray : image.colorspace = .gray
      · have length := image.length_components
        rw [components, gray] at length
        have none : rest = [] := List.length_eq_zero_iff.mp (by simpa [numComponents] using length)
        simp [none]
      · rw [getSubsamp, if_neg gray] at determined
        rcases List.find?_isSome.mp determined with ⟨subsamp, -, sampled⟩
        have parts : infos image.components = first.toComponentInfo :: infos rest := by
          rw [components]
          rfl
        rw [sampledAs, parts] at sampled
        intro component present
        rcases of_decide_eq_true sampled with ⟨hFirst, vFirst, others⟩ |
          ⟨hFirst, vFirst, special, others⟩
        · rcases restSampled_factors others present with ⟨hFactor, vFactor⟩ | ⟨hFactor, vFactor⟩
          · rw [hFactor, vFactor]
            exact ⟨one_dvd _, one_dvd _⟩
          · rw [hFactor, vFactor]
            exact ⟨dvd_rfl, dvd_rfl⟩
        · rcases restSampled_factors others present with ⟨hFactor, vFactor⟩ | ⟨hFactor, vFactor⟩
          · rw [hFactor, vFactor, hFirst, vFirst]
            rcases special with rfl | rfl <;> decide
          · rw [hFactor, vFactor]
            exact ⟨dvd_rfl, dvd_rfl⟩

end CoefficientImage

/-! ## Samples -/

section Samples

open scoped Matrix

variable {K σ : Type} [CommRing K] (basis : Dct.Basis 8 K)

/-- A sample of a component. -/
def Component.sample (component : Component) (x y : ℕ) : Option K :=
  (component.blocks.pixel (x / dctSize) (y / dctSize)).map fun block =>
    block.samples basis component.quantTable ⟨y % dctSize, Nat.mod_lt y (by decide)⟩
      ⟨x % dctSize, Nat.mod_lt x (by decide)⟩

/-- The place of a sample in its block after mirroring. -/
theorem mirrored_place (count offset x : ℕ) :
    Dct.mirrored (decide (offset + x / dctSize < count))
        (⟨x % dctSize, Nat.mod_lt x (by decide)⟩ : Fin 8) =
      ⟨mirror (count * dctSize) (offset * dctSize + x) % dctSize,
        Nat.mod_lt _ (by decide)⟩ := by
  have quotient : (offset * dctSize + x) / dctSize = offset + x / dctSize := by
    rw [Nat.mul_comm, Nat.mul_add_div (by decide)]
  have remainder : (offset * dctSize + x) % dctSize = x % dctSize := by
    rw [Nat.mul_comm, Nat.mul_add_mod]
  apply Fin.ext
  simp only [mirror_mod (show 0 < dctSize by decide), quotient, remainder]
  by_cases inside : offset + x / dctSize < count
  · rw [decide_eq_true inside, if_pos inside, Dct.mirrored, if_pos rfl, Fin.val_rev]
    change 8 - (x % dctSize + 1) = 8 - 1 - x % dctSize
    omega
  · rw [decide_eq_false inside, if_neg inside]
    rfl

theorem mirror_block (count offset x : ℕ) :
    mirror (count * dctSize) (offset * dctSize + x) / dctSize =
      mirror count (offset + x / dctSize) := by
  rw [mirror_div (by decide), Nat.mul_comm offset, Nat.mul_add_div (by decide)]

/-- The samples of a component whose blocks are gathered from another. -/
theorem sample_gathered {source target : Component} {transpose : Bool}
    {columns rows left top x y : ℕ}
    (table : target.quantTable = if transpose then source.quantTableᵀ else source.quantTable)
    (gathered : target.blocks.pixel (x / dctSize) (y / dctSize) =
      gatheredBlock transpose columns rows source.blocks (top + y / dctSize)
        (left + x / dctSize)) :
    target.sample basis x y =
      if transpose then
        source.sample basis (mirror (rows * dctSize) (top * dctSize + y))
          (mirror (columns * dctSize) (left * dctSize + x))
      else source.sample basis (mirror (columns * dctSize) (left * dctSize + x))
        (mirror (rows * dctSize) (top * dctSize + y)) := by
  rw [Component.sample, gathered, gatheredBlock, table, Option.map_map]
  cases transpose with
  | false =>
      simp only [Bool.false_eq_true, if_false]
      rw [Component.sample, mirror_block, mirror_block]
      congr 1
      funext block
      refine (Block.samples_reflect_exchange basis false _ _ source.quantTable block _ _).trans ?_
      rw [mirrored_place, mirrored_place]
      rfl
  | true =>
      simp only [if_true]
      rw [Component.sample, mirror_block, mirror_block]
      congr 1
      funext block
      refine (Block.samples_reflect_exchange basis true _ _ source.quantTable block _ _).trans ?_
      rw [mirrored_place, mirrored_place]
      rfl

/-! ## Pictures -/

variable (level : K → σ)

namespace CoefficientImage

/-- The samples of a pixel. -/
def color (image : CoefficientImage) (i j : ℕ) : List (Option σ) :=
  image.components.map fun component =>
    (component.sample basis (i * component.hSampFactor / image.maxH)
      (j * component.vSampFactor / image.maxV)).map level

/-- The picture that a decoder shows. -/
def picture (image : CoefficientImage) : Raster (List (Option σ)) :=
  Raster.ofFn image.width image.height (image.color basis level)

variable {image result : CoefficientImage} {t : TJTransform} {info : TransformInfo}

/-- Sampling a component at a fraction of the pixels is a division. -/
theorem mul_div_of_dvd {factor largest i : ℕ} (positive : 0 < factor)
    (divides : factor ∣ largest) : i * factor / largest = i / (largest / factor) := by
  rcases divides with ⟨ratio, rfl⟩
  rw [Nat.mul_div_cancel_left ratio positive, Nat.mul_comm i, Nat.mul_div_mul_left _ _ positive]

/-- Mirroring pixels mirrors samples. -/
theorem mirror_sample {factor largest count offset i : ℕ} (positive : 0 < factor)
    (divides : factor ∣ largest) (largestPos : 0 < largest) :
    mirror (count * factor * dctSize) (offset * factor * dctSize + i * factor / largest) =
      mirror (count * (largest * dctSize)) (offset * (largest * dctSize) + i) *
        factor / largest := by
  rw [mul_div_of_dvd positive divides, mul_div_of_dvd positive divides]
  rcases divides with ⟨ratio, rfl⟩
  have ratioPos : 0 < ratio := Nat.pos_of_mul_pos_left largestPos
  rw [Nat.mul_div_cancel_left ratio positive]
  have counts : count * (factor * ratio * dctSize) = count * factor * dctSize * ratio := by
    ring
  have places : offset * (factor * ratio * dctSize) + i =
      ratio * (offset * factor * dctSize) + i := by
    ring
  rw [counts, mirror_div ratioPos, places, Nat.mul_add_div ratioPos]

theorem mem_components_of_processed {component : Component}
    (present : component ∈ image.processed t) : component ∈ image.components := by
  rw [processed] at present
  split_ifs at present
  exacts [List.mem_of_mem_take present, present]

/-- The destination samples a component at the same fraction of the pixels. -/
theorem fraction_columns (regular : image.Regular) (accepted : ¬image.RefusesGray t)
    {component : Component} (present : component ∈ image.processed t) :
    (image.adjusted t component.toComponentInfo).hSampFactor ∣
        maxHSampFactor ((infos (image.processed t)).map (image.adjusted t)) ∧
      ∀ x, x * (image.adjusted t component.toComponentInfo).hSampFactor /
          maxHSampFactor ((infos (image.processed t)).map (image.adjusted t)) =
        if t.op.orientation.transpose then x * component.vSampFactor / image.maxV
        else x * component.hSampFactor / image.maxH := by
  have inImage := mem_components_of_processed present
  rw [map_adjusted, map_forced, adjusted, forced]
  by_cases one : (image.processed t).length = 1
  · rcases full_of_single accepted one present with ⟨fullH, fullV⟩
    rw [if_pos one, if_pos one, fullH, fullV]
    cases t.op.orientation.transpose with
    | false => simp [ComponentInfo.single, image.maxH_pos, -List.map_map]
    | true => simp [ComponentInfo.single, ComponentInfo.transpose, image.maxV_pos, -List.map_map]
  · rw [if_neg one, if_neg one]
    cases t.op.orientation.transpose with
    | false => exact ⟨regular.h_dvd component inImage, fun _ => rfl⟩
    | true =>
        rw [if_pos rfl, if_pos rfl, maxHSampFactor_transpose]
        exact ⟨regular.v_dvd component inImage, fun _ => rfl⟩

theorem fraction_rows (regular : image.Regular) (accepted : ¬image.RefusesGray t)
    {component : Component} (present : component ∈ image.processed t) :
    (image.adjusted t component.toComponentInfo).vSampFactor ∣
        maxVSampFactor ((infos (image.processed t)).map (image.adjusted t)) ∧
      ∀ y, y * (image.adjusted t component.toComponentInfo).vSampFactor /
          maxVSampFactor ((infos (image.processed t)).map (image.adjusted t)) =
        if t.op.orientation.transpose then y * component.hSampFactor / image.maxH
        else y * component.vSampFactor / image.maxV := by
  have inImage := mem_components_of_processed present
  rw [map_adjusted, map_forced, adjusted, forced]
  by_cases one : (image.processed t).length = 1
  · rcases full_of_single accepted one present with ⟨fullH, fullV⟩
    rw [if_pos one, if_pos one, fullH, fullV]
    cases t.op.orientation.transpose with
    | false => simp [ComponentInfo.single, image.maxV_pos, -List.map_map]
    | true => simp [ComponentInfo.single, ComponentInfo.transpose, image.maxH_pos, -List.map_map]
  · rw [if_neg one, if_neg one]
    cases t.op.orientation.transpose with
    | false => exact ⟨regular.v_dvd component inImage, fun _ => rfl⟩
    | true =>
        rw [if_pos rfl, if_pos rfl, maxVSampFactor_transpose]
        exact ⟨regular.h_dvd component inImage, fun _ => rfl⟩

/-- The quantization tables are transposed with the blocks. -/
theorem quantTable_adjusted (component : ComponentInfo) :
    (image.adjusted t component).quantTable =
      if t.op.orientation.transpose then component.quantTableᵀ else component.quantTable := by
  rw [adjusted, forced]
  split_ifs <;> rfl

theorem mul_mirroredColumns (factor : ℕ) : image.mirroredColumns t factor * dctSize =
    (if t.op.orientation.flipX then image.turnedWidth t.op / image.iMCUSampleWidth t else 0) *
      factor * dctSize := by
  rw [mirroredColumns]
  split_ifs <;> simp

theorem mul_mirroredRows (factor : ℕ) : image.mirroredRows t factor * dctSize =
    (if t.op.orientation.flipY then image.turnedHeight t.op / image.iMCUSampleHeight t else 0) *
      factor * dctSize := by
  rw [mirroredRows]
  split_ifs <;> simp

/-- The column of the turned image that a column of the destination shows. -/
def shownColumn (image : CoefficientImage) (t : TJTransform) (info : TransformInfo) (i : ℕ) : ℕ :=
  mirror (Raster.wholeUnits t.op.orientation.flipX (image.turnedWidth t.op)
    (image.iMCUSampleWidth t)) (info.xCropOffset * image.iMCUSampleWidth t + i)

/-- The row of the turned image that a row of the destination shows. -/
def shownRow (image : CoefficientImage) (t : TJTransform) (info : TransformInfo) (j : ℕ) : ℕ :=
  mirror (Raster.wholeUnits t.op.orientation.flipY (image.turnedHeight t.op)
    (image.iMCUSampleHeight t)) (info.yCropOffset * image.iMCUSampleHeight t + j)

/-- A sample of a pixel inside an image is in a block that the image has. -/
theorem div_lt_jdivRoundUp_mul {i size factor largest : ℕ} (largestPos : 0 < largest)
    (positive : 0 < factor) (inside : i < size) :
    i * factor / (largest * dctSize) < jdivRoundUp (size * factor) (largest * dctSize) := by
  rw [lt_jdivRoundUp_iff (Nat.mul_pos largestPos (by decide))]
  exact lt_of_le_of_lt (Nat.div_mul_le_self _ _) (Nat.mul_lt_mul_of_pos_right inside positive)

/-- A sample of the destination is a sample of the source. -/
theorem sample_transformed (regular : image.Regular) (accepted : ¬image.RefusesGray t)
    (transformed : Transformed image t info result) {ci : ℕ} {source target : Component}
    (isSource : (image.processed t)[ci]? = some source)
    (isTarget : result.components[ci]? = some target) {i j : ℕ} (column : i < result.width)
    (row : j < result.height) :
    target.sample basis (i * target.hSampFactor / result.maxH)
        (j * target.vSampFactor / result.maxV) =
      if t.op.orientation.transpose then
        source.sample basis (image.shownRow t info j * source.hSampFactor / image.maxH)
          (image.shownColumn t info i * source.vSampFactor / image.maxV)
      else source.sample basis (image.shownColumn t info i * source.hSampFactor / image.maxH)
        (image.shownRow t info j * source.vSampFactor / image.maxV) := by
  have present := List.mem_of_getElem? isSource
  have inResult := List.mem_of_getElem? isTarget
  have adjusted : target.toComponentInfo = image.adjusted t source.toComponentInfo := by
    have same := congrArg (·[ci]?) transformed.infos_eq
    simpa [infos, isSource, isTarget] using same
  have maxH_eq : result.maxH =
      maxHSampFactor ((infos (image.processed t)).map (image.adjusted t)) :=
    congrArg maxHSampFactor transformed.infos_eq
  have maxV_eq : result.maxV =
      maxVSampFactor ((infos (image.processed t)).map (image.adjusted t)) :=
    congrArg maxVSampFactor transformed.infos_eq
  rcases fraction_columns regular accepted present with ⟨columnsDvd, columns⟩
  rcases fraction_rows regular accepted present with ⟨rowsDvd, rows⟩
  rw [← adjusted, ← maxH_eq] at columnsDvd columns
  rw [← adjusted, ← maxV_eq] at rowsDvd rows
  have unitW : result.maxH * dctSize = image.iMCUSampleWidth t := by
    rw [maxH_eq, maxHSampFactor_adjusted]
  have unitH : result.maxV * dctSize = image.iMCUSampleHeight t := by
    rw [maxV_eq, maxVSampFactor_adjusted]
  have left : i * target.hSampFactor / result.maxH / dctSize < target.blocks.width := by
    rw [result.width_blocks target inResult, Nat.div_div_eq_div_mul]
    exact div_lt_jdivRoundUp_mul result.maxH_pos target.hSampFactor_pos column
  have below : j * target.vSampFactor / result.maxV / dctSize < target.blocks.height := by
    rw [result.height_blocks target inResult, Nat.div_div_eq_div_mul]
    exact div_lt_jdivRoundUp_mul result.maxV_pos target.vSampFactor_pos row
  have gathered := transformed.pixel_eq ci source target isSource isTarget _ below _ left
  have table : target.quantTable =
      if t.op.orientation.transpose then source.quantTableᵀ else source.quantTable := by
    rw [adjusted, quantTable_adjusted]
  rw [sample_gathered basis table gathered, mul_mirroredColumns, mul_mirroredRows,
    mirror_sample target.hSampFactor_pos columnsDvd result.maxH_pos,
    mirror_sample target.vSampFactor_pos rowsDvd result.maxV_pos, columns, rows, unitW, unitH]
  have shownColumn_eq : mirror ((if t.op.orientation.flipX then
      image.turnedWidth t.op / image.iMCUSampleWidth t else 0) * image.iMCUSampleWidth t)
      (info.xCropOffset * image.iMCUSampleWidth t + i) = image.shownColumn t info i := by
    rw [shownColumn, Raster.wholeUnits, ite_mul, Nat.zero_mul]
  have shownRow_eq : mirror ((if t.op.orientation.flipY then
      image.turnedHeight t.op / image.iMCUSampleHeight t else 0) * image.iMCUSampleHeight t)
      (info.yCropOffset * image.iMCUSampleHeight t + j) = image.shownRow t info j := by
    rw [shownRow, Raster.wholeUnits, ite_mul, Nat.zero_mul]
  rw [shownColumn_eq, shownRow_eq]
  cases t.op.orientation.transpose <;> rfl

/-- The part of the turned image that a transform selects. -/
def selectedRect (image : CoefficientImage) (t : TJTransform) (info : TransformInfo) : Rect :=
  ⟨info.xCropOffset * image.iMCUSampleWidth t, info.yCropOffset * image.iMCUSampleHeight t,
    info.outputWidth, info.outputHeight⟩

/-- What a forced conversion to grayscale leaves of the samples of a pixel. -/
def luma {α : Type} (samples : List α) : List α := samples.take 1

theorem map_processed {α : Type} (accepted : ¬image.RefusesGray t) (sampled : Component → α) :
    (image.processed t).map sampled =
      if t.hasGray then luma (image.components.map sampled)
      else image.components.map sampled := by
  by_cases gray : t.hasGray
  · rw [if_pos gray, luma, ← List.map_take]
    by_cases ycbcr : image.colorspace = .ycbcr
    · rw [processed, if_pos ⟨gray, ycbcr⟩]
    · have suitable := (not_not.mp (not_and.mp accepted gray)).1
      have one := image.length_components
      rw [suitable.resolve_left ycbcr] at one
      rw [processed, if_neg fun forced => ycbcr forced.2,
        List.take_of_length_le (show image.components.length ≤ 1 from one.le)]
  · rw [if_neg gray, processed, if_neg fun forced => gray forced.1]

/-- The samples of a pixel of the destination are those of a pixel of the source. -/
theorem color_transformed (regular : image.Regular) (accepted : ¬image.RefusesGray t)
    (transformed : Transformed image t info result) {i j : ℕ} (column : i < result.width)
    (row : j < result.height) :
    result.color basis level i j = (if t.hasGray then luma else id) (image.color basis level
      (if t.op.orientation.transpose then image.shownRow t info j else image.shownColumn t info i)
      (if t.op.orientation.transpose then image.shownColumn t info i
        else image.shownRow t info j)) := by
  have processed := map_processed accepted fun component =>
    (component.sample basis
      ((if t.op.orientation.transpose then image.shownRow t info j
        else image.shownColumn t info i) * component.hSampFactor / image.maxH)
      ((if t.op.orientation.transpose then image.shownColumn t info i
        else image.shownRow t info j) * component.vSampFactor / image.maxV)).map level
  have choice : ∀ samples : List (Option σ), (if t.hasGray then luma else id) samples =
      if t.hasGray then luma samples else samples := by
    intro samples
    split_ifs <;> rfl
  rw [choice, color, color, ← processed]
  apply List.ext_getElem?
  intro ci
  rw [List.getElem?_map, List.getElem?_map]
  have sameInfo := congrArg (·[ci]?) transformed.infos_eq
  simp only [infos, List.getElem?_map] at sameInfo
  cases isSource : (image.processed t)[ci]? with
  | none =>
      rw [isSource] at sameInfo
      rw [Option.map_eq_none_iff.mp sameInfo]
      rfl
  | some source =>
      rw [isSource] at sameInfo
      rcases Option.map_eq_some_iff.mp sameInfo with ⟨target, isTarget, -⟩
      rw [isTarget, Option.map_some, Option.map_some,
        sample_transformed basis regular accepted transformed isSource isTarget column row]
      cases t.op.orientation.transpose <;> rfl

/-- A pixel of the picture that is turned with its whole MCUs. -/
theorem pixel_turnWhole_picture {i j : ℕ}
    (column : info.xCropOffset * image.iMCUSampleWidth t + i < image.turnedWidth t.op)
    (row : info.yCropOffset * image.iMCUSampleHeight t + j < image.turnedHeight t.op) :
    (Raster.turnWhole t.op.orientation (image.iMCUSampleWidth t) (image.iMCUSampleHeight t)
        (image.picture basis level)).pixel (info.xCropOffset * image.iMCUSampleWidth t + i)
          (info.yCropOffset * image.iMCUSampleHeight t + j) =
      some (image.color basis level
        (if t.op.orientation.transpose then image.shownRow t info j
          else image.shownColumn t info i)
        (if t.op.orientation.transpose then image.shownColumn t info i
          else image.shownRow t info j)) := by
  have width : (Raster.swap t.op.orientation.transpose (image.picture basis level)).width =
      image.turnedWidth t.op := Raster.width_swap _ _
  have height : (Raster.swap t.op.orientation.transpose (image.picture basis level)).height =
      image.turnedHeight t.op := Raster.height_swap _ _
  have left : image.shownColumn t info i < image.turnedWidth t.op :=
    (mirror_lt (Raster.wholeUnits_le _ _ _)).mpr column
  have top : image.shownRow t info j < image.turnedHeight t.op :=
    (mirror_lt (Raster.wholeUnits_le _ _ _)).mpr row
  rw [Raster.pixel_turnWhole _ _ _ _ (width ▸ column) (height ▸ row), width, height]
  change (Raster.swap _ _).pixel (image.shownColumn t info i) (image.shownRow t info j) = _
  rw [turnedWidth] at left
  rw [turnedHeight] at top
  cases transposed : t.op.orientation.transpose with
  | false =>
      rw [transposed] at left top
      exact if_pos ⟨left, top⟩
  | true =>
      rw [transposed] at left top
      exact if_pos ⟨top, left⟩

/-- The picture of the destination is a part of the picture of the source, which is
turned with its whole MCUs. -/
theorem Transformed.picture_eq (regular : image.Regular) (accepted : ¬image.RefusesGray t)
    (fitted : Fitted image t info) (transformed : Transformed image t info result) :
    result.picture basis level =
      ((Raster.turnWhole t.op.orientation (image.iMCUSampleWidth t) (image.iMCUSampleHeight t)
        (image.picture basis level)).crop (image.selectedRect t info)).map
          (if t.hasGray then luma else id) := by
  have inside : (image.selectedRect t info).Inside
      (Raster.turnWhole t.op.orientation (image.iMCUSampleWidth t) (image.iMCUSampleHeight t)
        (image.picture basis level)).width
      (Raster.turnWhole t.op.orientation (image.iMCUSampleWidth t) (image.iMCUSampleHeight t)
        (image.picture basis level)).height := by
    rw [Raster.width_turnWhole, Raster.height_turnWhole]
    exact ⟨fitted.width_le, fitted.height_le⟩
  ext1
  · rw [Raster.width_map, Raster.width_crop_of_inside inside]
    exact transformed.width_eq
  · rw [Raster.height_map, Raster.height_crop_of_inside inside]
    exact transformed.height_eq
  · funext i j
    by_cases within : i < info.outputWidth ∧ j < info.outputHeight
    · rcases within with ⟨column, row⟩
      have columnInside := fitted.width_le
      have rowInside := fitted.height_le
      have shown : (result.picture basis level).pixel i j =
          some (result.color basis level i j) :=
        if_pos ⟨transformed.width_eq ▸ column, transformed.height_eq ▸ row⟩
      have left : info.xCropOffset * image.iMCUSampleWidth t + i < image.turnedWidth t.op := by
        omega
      have top : info.yCropOffset * image.iMCUSampleHeight t + j < image.turnedHeight t.op := by
        omega
      rw [shown]
      change _ = Option.map _ (Raster.pixel (Raster.crop _ _) i j)
      rw [Raster.pixel_crop _ column row]
      change _ = Option.map _ (Raster.pixel _ (info.xCropOffset * _ + i)
        (info.yCropOffset * _ + j))
      rw [pixel_turnWhole_picture basis level left top, Option.map_some,
        color_transformed basis level regular accepted transformed
          (transformed.width_eq ▸ column) (transformed.height_eq ▸ row)]
    · rw [Raster.pixel_eq_none, Raster.pixel_eq_none]
      · rw [Raster.width_map, Raster.height_map, Raster.width_crop_of_inside inside,
          Raster.height_crop_of_inside inside]
        exact within
      · change ¬(i < result.width ∧ j < result.height)
        rw [transformed.width_eq, transformed.height_eq]
        exact within

/-- The picture of every transformed image is a part of the turned picture. -/
theorem picture_of_tjTransform {undefined : Undefined}
    (returned : image.tjTransform undefined t = some (.ok result)) :
    ∃ info, image.requestWorkspace t = .ok info ∧
      result.picture basis level =
        ((Raster.turnWhole t.op.orientation (image.iMCUSampleWidth t) (image.iMCUSampleHeight t)
          (image.picture basis level)).crop (image.selectedRect t info)).map
            (if t.hasGray then luma else id) := by
  cases determined : image.getSubsamp with
  | none =>
      rw [tjTransform, determined] at returned
      cases returned
  | some subsamp =>
      cases requested : image.requestWorkspace t with
      | error problem =>
          rw [tjTransform, determined, requested] at returned
          cases returned
      | ok info =>
          have sampled : image.getSubsamp.isSome = true := by
            rw [determined]
            rfl
          have fitted := fitted_of_requestWorkspace requested
          by_cases misaligned : t.hasCrop ∧ ¬(Jpeg.jdimension t.x % info.iMCUSampleWidth = 0 ∧
              Jpeg.jdimension t.y % info.iMCUSampleHeight = 0)
          · simp only [tjTransform, determined, requested, if_pos misaligned] at returned
            cases returned
          · have aligned : t.hasCrop = true → Jpeg.jdimension t.x % info.iMCUSampleWidth = 0 ∧
                Jpeg.jdimension t.y % info.iMCUSampleHeight = 0 :=
              fun cropping => not_not.mp fun off => misaligned ⟨cropping, off⟩
            by_cases refused : image.RefusesGray t
            · rw [tjTransform_refused undefined sampled requested aligned refused] at returned
              cases returned
            · rcases tjTransform_transformed undefined sampled requested aligned refused with
                ⟨transformedImage, run, transformed⟩
              rw [run] at returned
              cases returned
              exact ⟨info, rfl, transformed.picture_eq basis level
                (regular_of_getSubsamp sampled) refused fitted⟩

/-- A component of three blocks side by side with different means. -/
def stripe : Component where
  hSampFactor := 1
  vSampFactor := 1
  quantTable := fun _ _ => 1
  hSampFactor_pos := Nat.one_pos
  vSampFactor_pos := Nat.one_pos
  blocks := Raster.ofFn 3 1 fun blockColumn _ row column =>
    if row.val = 0 ∧ column.val = 0 then
      ⟨100 * (blockColumn % 3 : ℕ), by omega, by omega⟩
    else default

/-- Two whole MCUs and a partial one, in colours. -/
def stripes : CoefficientImage where
  width := 20
  height := 8
  colorspace := .ycbcr
  components := [stripe, stripe, stripe]
  width_pos := by decide
  height_pos := by decide
  width_le := by decide
  height_le := by decide
  length_components := rfl
  width_blocks component present := by
    obtain rfl : component = stripe := by simpa using present
    rfl
  height_blocks component present := by
    obtain rfl : component = stripe := by simpa using present
    rfl

/-- The luminance of what is left when the first MCU of the mirrored image is cut off. -/
theorem picture_of_tjTransform_stripes :
    let t : TJTransform :=
      { x := 8, width := 12, height := 8, op := .hflip, options := optCrop ||| optGray }
    ∃ result info, stripes.tjTransform .cleared t = some (.ok result) ∧
      stripes.requestWorkspace t = .ok info ∧
      stripes.selectedRect t info = ⟨8, 0, 12, 8⟩ ∧
      result.picture (Dct.cosine 8 1) id =
        ((Raster.turnWhole TJOp.hflip.orientation 8 8 (stripes.picture (Dct.cosine 8 1) id)).crop
          ⟨8, 0, 12, 8⟩).map luma := by
  intro t
  have accepted : ¬stripes.RefusesGray t := by
    rintro ⟨-, refused⟩
    apply refused
    refine ⟨.inl rfl, ?_⟩
    intro first isFirst
    obtain rfl : stripe = first := Option.some.inj isFirst
    exact ⟨rfl, rfl⟩
  have single : (stripes.processed t).length = 1 := by decide
  have columns : stripes.iMCUSampleWidth t = 8 := if_pos single
  have rows : stripes.iMCUSampleHeight t = 8 := if_pos single
  have selected : (Jpeg.cropArea t (stripes.turnedWidth t.op) (stripes.turnedHeight t.op)).map
      Jpeg.CropArea.rect = some ⟨8, 0, 12, 8⟩ := by decide
  rcases Option.map_eq_some_iff.mp selected with ⟨⟨rect, inside, wide, tall⟩, isArea, isRect⟩
  obtain rfl : rect = ⟨8, 0, 12, 8⟩ := isRect
  have requested : ∃ info, stripes.requestWorkspace t = .ok info ∧
      stripes.selectedRect t info = ⟨8, 0, 12, 8⟩ := by
    rw [requestWorkspace, if_pos (by decide), isArea]
    refine ⟨_, rfl, ?_⟩
    change (⟨8 / stripes.iMCUSampleWidth t * stripes.iMCUSampleWidth t,
      0 / stripes.iMCUSampleHeight t * stripes.iMCUSampleHeight t,
      12 + 8 % stripes.iMCUSampleWidth t, 8 + 0 % stripes.iMCUSampleHeight t⟩ : Rect) = _
    rw [columns, rows]
  rcases requested with ⟨info, requested, isRect⟩
  have aligned : t.hasCrop = true → Jpeg.jdimension t.x % info.iMCUSampleWidth = 0 ∧
      Jpeg.jdimension t.y % info.iMCUSampleHeight = 0 := by
    intro _
    rw [(fitted_of_requestWorkspace requested).iMCUSampleWidth_eq,
      (fitted_of_requestWorkspace requested).iMCUSampleHeight_eq]
    decide
  rcases tjTransform_transformed .cleared rfl requested aligned accepted with ⟨result, run, -⟩
  rcases picture_of_tjTransform (Dct.cosine 8 1) id run with ⟨info', requested', shown⟩
  rw [requested] at requested'
  cases requested'
  rw [isRect, columns, rows, if_pos (by decide)] at shown
  exact ⟨result, info, run, requested, isRect, shown⟩

end CoefficientImage

end Samples

end IiifImage.Coefficients
