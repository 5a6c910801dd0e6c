import IiifImage.Arrays.Loops
import IiifImage.Arrays.Rounding
import IiifImage.Coefficients.Block
import IiifImage.TurboJpeg.Library

/-!
# Images as blocks of coefficients

What `jpeg_read_coefficients` makes of a JPEG file: for every component its sampling
factors, its quantization table and its blocks, in virtual arrays that are padded to
whole interleaved MCUs.  The blocks in the padding are whatever the scan left there.
-/

namespace IiifImage.Coefficients

open TurboJpeg Arrays

/-! ## Components -/

/-- `jpeg_component_info`. -/
structure ComponentInfo where
  hSampFactor : ℕ
  vSampFactor : ℕ
  quantTable : QuantTable
  hSampFactor_pos : 0 < hSampFactor
  vSampFactor_pos : 0 < vSampFactor

def maxHSampFactor (components : List ComponentInfo) : ℕ :=
  components.foldl (fun largest component => max largest component.hSampFactor) 1

def maxVSampFactor (components : List ComponentInfo) : ℕ :=
  components.foldl (fun largest component => max largest component.vSampFactor) 1

def widthInBlocks (imageWidth : ℕ) (components : List ComponentInfo)
    (component : ComponentInfo) : ℕ :=
  jdivRoundUp (imageWidth * component.hSampFactor) (maxHSampFactor components * dctSize)

def heightInBlocks (imageHeight : ℕ) (components : List ComponentInfo)
    (component : ComponentInfo) : ℕ :=
  jdivRoundUp (imageHeight * component.vSampFactor) (maxVSampFactor components * dctSize)

/-- A component with the blocks that the file has for it. -/
structure Component extends ComponentInfo where
  blocks : Raster Block

/-- The parameters of the components without their blocks. -/
def infos (components : List Component) : List ComponentInfo :=
  components.map Component.toComponentInfo

/-- `num_components` of a colour space. -/
def numComponents : Colorspace → ℕ
  | .gray => 1
  | .rgb => 3
  | .ycbcr => 3
  | .cmyk => 4
  | .ycck => 4

theorem Component.eq_of_parts {left right : Component}
    (info : left.toComponentInfo = right.toComponentInfo)
    (blocks : left.blocks = right.blocks) : left = right := by
  cases left
  cases right
  cases info
  cases blocks
  rfl

/-- A JPEG image before any decoding. -/
@[ext] structure CoefficientImage where
  width : ℕ
  height : ℕ
  colorspace : Colorspace
  components : List Component
  width_pos : 0 < width
  height_pos : 0 < height
  width_le : width ≤ maxDimension
  height_le : height ≤ maxDimension
  length_components : components.length = numComponents colorspace
  width_blocks : ∀ component ∈ components,
    component.blocks.width = widthInBlocks width (infos components) component.toComponentInfo
  height_blocks : ∀ component ∈ components,
    component.blocks.height = heightInBlocks height (infos components) component.toComponentInfo

section Factors

variable {components : List ComponentInfo} {component : ComponentInfo}

private theorem foldl_max_le {factor : ComponentInfo → ℕ} {start bound : ℕ} :
    components.foldl (fun largest component => max largest (factor component)) start ≤ bound ↔
      start ≤ bound ∧ ∀ component ∈ components, factor component ≤ bound := by
  induction components generalizing start with
  | nil => simp
  | cons first rest ih =>
      rw [List.foldl_cons, ih, List.forall_mem_cons, max_le_iff, and_assoc]

theorem maxHSampFactor_le_iff {bound : ℕ} : maxHSampFactor components ≤ bound ↔
    1 ≤ bound ∧ ∀ component ∈ components, component.hSampFactor ≤ bound :=
  foldl_max_le

theorem maxVSampFactor_le_iff {bound : ℕ} : maxVSampFactor components ≤ bound ↔
    1 ≤ bound ∧ ∀ component ∈ components, component.vSampFactor ≤ bound :=
  foldl_max_le

theorem maxHSampFactor_pos (components : List ComponentInfo) : 0 < maxHSampFactor components :=
  (maxHSampFactor_le_iff.mp le_rfl).1

theorem maxVSampFactor_pos (components : List ComponentInfo) : 0 < maxVSampFactor components :=
  (maxVSampFactor_le_iff.mp le_rfl).1

theorem hSampFactor_le_max (present : component ∈ components) :
    component.hSampFactor ≤ maxHSampFactor components :=
  (maxHSampFactor_le_iff.mp le_rfl).2 component present

theorem vSampFactor_le_max (present : component ∈ components) :
    component.vSampFactor ≤ maxVSampFactor components :=
  (maxVSampFactor_le_iff.mp le_rfl).2 component present

end Factors

/-! ## Virtual arrays -/

/-- `jvirt_barray_control`, with its memory by row and column. -/
structure VirtualArray where
  blocksPerRow : ℕ
  rowsInArray : ℕ
  maxAccess : ℕ
  memory : ℕ → ℕ → Block

namespace CoefficientImage

/-- The virtual array of `jinit_d_coef_controller` for a component, with the blocks of the
padding.  The array of a progressive file allows access to more rows at once. -/
def wholeImage (image : CoefficientImage) (padding : ℕ → ℕ → Block) (component : Component) :
    VirtualArray where
  blocksPerRow := jdivRoundUp (widthInBlocks image.width (infos image.components)
    component.toComponentInfo) component.hSampFactor * component.hSampFactor
  rowsInArray := jdivRoundUp (heightInBlocks image.height (infos image.components)
    component.toComponentInfo) component.vSampFactor * component.vSampFactor
  maxAccess := component.vSampFactor
  memory row column := (component.blocks.pixel column row).getD (padding row column)

variable (image : CoefficientImage)

/-- `max_h_samp_factor` of the image. -/
def maxH : ℕ := maxHSampFactor (infos image.components)

/-- `max_v_samp_factor` of the image. -/
def maxV : ℕ := maxVSampFactor (infos image.components)

theorem maxH_pos : 0 < image.maxH := maxHSampFactor_pos _

theorem maxV_pos : 0 < image.maxV := maxVSampFactor_pos _

theorem components_ne_nil : image.components ≠ [] := by
  intro empty
  have length := image.length_components
  rw [empty] at length
  cases space : image.colorspace <;> rw [space] at length <;> cases length

/-- A padded row has a whole number of interleaved MCUs. -/
theorem blocksPerRow_wholeImage (padding : ℕ → ℕ → Block) {component : Component} :
    (image.wholeImage padding component).blocksPerRow =
      jdivRoundUp image.width (image.maxH * dctSize) * component.hSampFactor := by
  have factor := component.hSampFactor_pos
  have unit : 0 < image.maxH * dctSize := Nat.mul_pos image.maxH_pos (by decide)
  change jdivRoundUp (jdivRoundUp (image.width * component.hSampFactor)
    (image.maxH * dctSize)) component.hSampFactor * component.hSampFactor = _
  rw [jdivRoundUp_mul unit factor, jdivRoundUp_mul_mul_right unit factor]

theorem rowsInArray_wholeImage (padding : ℕ → ℕ → Block) {component : Component} :
    (image.wholeImage padding component).rowsInArray =
      jdivRoundUp image.height (image.maxV * dctSize) * component.vSampFactor := by
  have factor := component.vSampFactor_pos
  have unit : 0 < image.maxV * dctSize := Nat.mul_pos image.maxV_pos (by decide)
  change jdivRoundUp (jdivRoundUp (image.height * component.vSampFactor)
    (image.maxV * dctSize)) component.vSampFactor * component.vSampFactor = _
  rw [jdivRoundUp_mul unit factor, jdivRoundUp_mul_mul_right unit factor]

/-- A grayscale image of two pixels, the first brighter than the second. -/
def gradient : CoefficientImage where
  width := 2
  height := 1
  colorspace := .gray
  components := [{
    hSampFactor := 1
    vSampFactor := 1
    quantTable := fun _ _ => 1
    hSampFactor_pos := Nat.one_pos
    vSampFactor_pos := Nat.one_pos
    blocks := Raster.ofFn 1 1 fun _ _ row column =>
      if row = 0 ∧ column = 1 then ⟨100, by decide, by decide⟩ else default }]
  width_pos := by decide
  height_pos := by decide
  width_le := by decide
  height_le := by decide
  length_components := rfl
  width_blocks := by
    simp only [List.forall_mem_singleton]
    rfl
  height_blocks := by
    simp only [List.forall_mem_singleton]
    rfl

end CoefficientImage

end IiifImage.Coefficients
