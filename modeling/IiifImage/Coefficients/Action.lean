import IiifImage.Coefficients.Result

/-!
# Lossless transforms as a group action

The eight operations act on images of coefficients, with whatever is left of a partial
MCU at the edges kept in place: performing one operation after another is performing
their product, and every operation is undone by its opposite.  `tjTransform` computes this
action, so that a run of lossless transforms is one lossless transform.
-/

namespace IiifImage.Coefficients

open TurboJpeg Arrays

/-! ## Blocks -/

/-- A count on demand. -/
def onDemand (flip : Bool) (count : ℕ) : ℕ := if flip then count else 0

theorem onDemand_le {flip : Bool} {count size : ℕ} (whole : count ≤ size) :
    onDemand flip count ≤ size := by
  rw [onDemand]
  split_ifs
  exacts [whole, Nat.zero_le _]

theorem mirror_onDemand (outer inner : Bool) (count i : ℕ) :
    mirror (onDemand inner count) (mirror (onDemand outer count) i) =
      mirror (onDemand (xor outer inner) count) i := by
  cases outer <;> cases inner <;> simp [onDemand, mirror_mirror]

theorem lt_onDemand (outer inner : Bool) (count i : ℕ) :
    xor (decide (i < onDemand outer count))
        (decide (mirror (onDemand outer count) i < onDemand inner count)) =
      decide (i < onDemand (xor outer inner) count) := by
  cases outer <;> cases inner <;> simp [onDemand, mirror_lt_iff]

/-- The blocks of a component that is turned, with the first `columns` columns and the
first `rows` rows of the result mirrored on demand. -/
def gatherBlocks (orientation : Orientation) (columns rows : ℕ) (blocks : Raster Block) :
    Raster Block where
  width := if orientation.transpose then blocks.height else blocks.width
  height := if orientation.transpose then blocks.width else blocks.height
  pixel column row := gatheredBlock orientation.transpose
    (onDemand orientation.flipX
      (min columns (if orientation.transpose then blocks.height else blocks.width)))
    (onDemand orientation.flipY
      (min rows (if orientation.transpose then blocks.width else blocks.height)))
    blocks row column
  pixel_isSome _ _ := isSome_gatheredBlock (onDemand_le (Nat.min_le_right _ _))
    (onDemand_le (Nat.min_le_right _ _))

section Blocks

variable {orientation outer inner : Orientation} {columns rows : ℕ} {blocks : Raster Block}

@[simp] theorem width_gatherBlocks : (gatherBlocks orientation columns rows blocks).width =
    if orientation.transpose then blocks.height else blocks.width := rfl

@[simp] theorem height_gatherBlocks : (gatherBlocks orientation columns rows blocks).height =
    if orientation.transpose then blocks.width else blocks.height := rfl

theorem pixel_gatherBlocks
    (wholeColumns : columns ≤ if orientation.transpose then blocks.height else blocks.width)
    (wholeRows : rows ≤ if orientation.transpose then blocks.width else blocks.height)
    (column row : ℕ) : (gatherBlocks orientation columns rows blocks).pixel column row =
      gatheredBlock orientation.transpose (onDemand orientation.flipX columns)
        (onDemand orientation.flipY rows) blocks row column := by
  change gatheredBlock _ (onDemand _ (min columns _)) (onDemand _ (min rows _)) _ _ _ = _
  rw [Nat.min_eq_left wholeColumns, Nat.min_eq_left wholeRows]

theorem gatherBlocks_one : gatherBlocks 1 columns rows blocks = blocks := by
  ext1
  · rfl
  · rfl
  · funext column row
    simp [gatherBlocks, gatheredBlock, onDemand, Block.reflect, Block.exchange]

/-- The block that is gathered from gathered blocks. -/
theorem gatheredBlock_gatheredBlock (outer inner : Orientation) (columns rows row column : ℕ)
    (gathered : Raster Block)
    (isGathered : ∀ column row, gathered.pixel column row =
      gatheredBlock inner.transpose
        (onDemand inner.flipX (if outer.transpose then rows else columns))
        (onDemand inner.flipY (if outer.transpose then columns else rows)) blocks row column) :
    gatheredBlock outer.transpose (onDemand outer.flipX columns) (onDemand outer.flipY rows)
        gathered row column =
      gatheredBlock (outer * inner).transpose (onDemand (outer * inner).flipX columns)
        (onDemand (outer * inner).flipY rows) blocks row column := by
  rcases outer with ⟨outerTranspose, outerX, outerY⟩
  rcases inner with ⟨innerTranspose, innerX, innerY⟩
  cases outerTranspose with
  | false =>
      change _ = gatheredBlock (xor false innerTranspose) (onDemand (xor outerX innerX) columns)
        (onDemand (xor outerY innerY) rows) blocks row column
      simp only [Bool.false_eq_true, if_false] at isGathered
      simp only [gatheredBlock, Bool.false_eq_true, if_false, isGathered, Option.map_map,
        mirror_onDemand, Bool.false_xor]
      congr 1
      funext block
      simp only [Function.comp_apply, Block.exchange, Bool.false_eq_true, if_false,
        Block.reflect_reflect, lt_onDemand]
  | true =>
      change _ = gatheredBlock (xor true innerTranspose) (onDemand (xor outerX innerY) columns)
        (onDemand (xor outerY innerX) rows) blocks row column
      simp only [if_true] at isGathered
      simp only [gatheredBlock, if_true, isGathered, Option.map_map, mirror_onDemand]
      have places : (if innerTranspose = true then
            blocks.pixel (mirror (onDemand (xor outerX innerY) columns) column)
              (mirror (onDemand (xor outerY innerX) rows) row)
          else blocks.pixel (mirror (onDemand (xor outerY innerX) rows) row)
            (mirror (onDemand (xor outerX innerY) columns) column)) =
          if xor true innerTranspose = true then
            blocks.pixel (mirror (onDemand (xor outerY innerX) rows) row)
              (mirror (onDemand (xor outerX innerY) columns) column)
          else blocks.pixel (mirror (onDemand (xor outerX innerY) columns) column)
            (mirror (onDemand (xor outerY innerX) rows) row) := by
        cases innerTranspose <;> rfl
      rw [places]
      congr 1
      funext block
      simp only [Function.comp_apply, Block.exchange_reflect, Block.exchange_exchange, if_true,
        Block.reflect_reflect, lt_onDemand]

/-- Gathering twice is gathering once. -/
theorem gatherBlocks_gatherBlocks
    (wholeColumns : columns ≤ if (outer * inner).transpose then blocks.height else blocks.width)
    (wholeRows : rows ≤ if (outer * inner).transpose then blocks.width else blocks.height) :
    gatherBlocks outer columns rows (gatherBlocks inner
        (if outer.transpose then rows else columns) (if outer.transpose then columns else rows)
        blocks) =
      gatherBlocks (outer * inner) columns rows blocks := by
  have product : (outer * inner).transpose = xor outer.transpose inner.transpose := rfl
  have innerColumns : (if outer.transpose then rows else columns) ≤
      if inner.transpose then blocks.height else blocks.width := by
    rw [product] at wholeColumns wholeRows
    revert wholeColumns wholeRows
    cases outer.transpose <;> cases inner.transpose <;> intro wholeColumns wholeRows
    exacts [wholeColumns, wholeColumns, wholeRows, wholeRows]
  have innerRows : (if outer.transpose then columns else rows) ≤
      if inner.transpose then blocks.width else blocks.height := by
    rw [product] at wholeColumns wholeRows
    revert wholeColumns wholeRows
    cases outer.transpose <;> cases inner.transpose <;> intro wholeColumns wholeRows
    exacts [wholeRows, wholeRows, wholeColumns, wholeColumns]
  have turnedColumns : (if outer.transpose then
        if inner.transpose then blocks.width else blocks.height
      else if inner.transpose then blocks.height else blocks.width) =
      if (outer * inner).transpose then blocks.height else blocks.width := by
    rw [product]
    cases outer.transpose <;> cases inner.transpose <;> rfl
  have turnedRows : (if outer.transpose then
        if inner.transpose then blocks.height else blocks.width
      else if inner.transpose then blocks.width else blocks.height) =
      if (outer * inner).transpose then blocks.width else blocks.height := by
    rw [product]
    cases outer.transpose <;> cases inner.transpose <;> rfl
  ext1
  · exact turnedColumns
  · exact turnedRows
  · funext column row
    rw [pixel_gatherBlocks (wholeColumns.trans_eq turnedColumns.symm)
      (wholeRows.trans_eq turnedRows.symm), pixel_gatherBlocks wholeColumns wholeRows]
    exact gatheredBlock_gatheredBlock outer inner columns rows row column _
      (pixel_gatherBlocks innerColumns innerRows)

end Blocks

/-! ## Images -/

/-- The parameters of a component whose axes are exchanged on demand. -/
def ComponentInfo.turn (transpose : Bool) (component : ComponentInfo) : ComponentInfo :=
  if transpose then component.transpose else component

theorem ComponentInfo.turn_turn (outer inner : Bool) (component : ComponentInfo) :
    (component.turn inner).turn outer = component.turn (xor outer inner) := by
  cases outer <;> cases inner <;> rfl

namespace CoefficientImage

variable (image : CoefficientImage) (orientation : Orientation)

/-- The whole interleaved MCUs side by side in the turned image. -/
def wholeColumns : ℕ :=
  (if orientation.transpose then image.height else image.width) /
    ((if orientation.transpose then image.maxV else image.maxH) * dctSize)

/-- The whole interleaved MCUs one below the other in the turned image. -/
def wholeRows : ℕ :=
  (if orientation.transpose then image.width else image.height) /
    ((if orientation.transpose then image.maxH else image.maxV) * dctSize)

def turnComponent (component : Component) : Component where
  toComponentInfo := component.toComponentInfo.turn orientation.transpose
  blocks := gatherBlocks orientation
    (image.wholeColumns orientation *
      (component.toComponentInfo.turn orientation.transpose).hSampFactor)
    (image.wholeRows orientation *
      (component.toComponentInfo.turn orientation.transpose).vSampFactor) component.blocks

theorem infos_turnComponent : infos (image.components.map (image.turnComponent orientation)) =
    (infos image.components).map (ComponentInfo.turn orientation.transpose) := by
  rw [infos, infos, List.map_map, List.map_map]
  rfl

theorem maxHSampFactor_turn (components : List ComponentInfo) (transpose : Bool) :
    maxHSampFactor (components.map (ComponentInfo.turn transpose)) =
      if transpose then maxVSampFactor components else maxHSampFactor components := by
  cases transpose with
  | false =>
      have unturned : ComponentInfo.turn false = id := rfl
      rw [unturned, List.map_id]
      rfl
  | true => exact maxHSampFactor_transpose components

theorem maxVSampFactor_turn (components : List ComponentInfo) (transpose : Bool) :
    maxVSampFactor (components.map (ComponentInfo.turn transpose)) =
      if transpose then maxHSampFactor components else maxVSampFactor components := by
  cases transpose with
  | false =>
      have unturned : ComponentInfo.turn false = id := rfl
      rw [unturned, List.map_id]
      rfl
  | true => exact maxVSampFactor_transpose components

theorem width_turn_blocks {component : Component} (present : component ∈ image.components)
    (transpose : Bool) :
    (if transpose then component.blocks.height else component.blocks.width) =
      jdivRoundUp ((if transpose then image.height else image.width) *
          (component.toComponentInfo.turn transpose).hSampFactor)
        ((if transpose then image.maxV else image.maxH) * dctSize) := by
  cases transpose with
  | false => exact image.width_blocks component present
  | true => exact image.height_blocks component present

theorem height_turn_blocks {component : Component} (present : component ∈ image.components)
    (transpose : Bool) :
    (if transpose then component.blocks.width else component.blocks.height) =
      jdivRoundUp ((if transpose then image.width else image.height) *
          (component.toComponentInfo.turn transpose).vSampFactor)
        ((if transpose then image.maxH else image.maxV) * dctSize) := by
  cases transpose with
  | false => exact image.height_blocks component present
  | true => exact image.width_blocks component present

def turn : CoefficientImage where
  width := if orientation.transpose then image.height else image.width
  height := if orientation.transpose then image.width else image.height
  colorspace := image.colorspace
  components := image.components.map (image.turnComponent orientation)
  width_pos := by
    split_ifs
    exacts [image.height_pos, image.width_pos]
  height_pos := by
    split_ifs
    exacts [image.width_pos, image.height_pos]
  width_le := by
    split_ifs
    exacts [image.height_le, image.width_le]
  height_le := by
    split_ifs
    exacts [image.width_le, image.height_le]
  length_components := by rw [List.length_map, image.length_components]
  width_blocks component present := by
    rcases List.mem_map.mp present with ⟨source, inImage, rfl⟩
    rw [infos_turnComponent, widthInBlocks, maxHSampFactor_turn]
    exact image.width_turn_blocks inImage orientation.transpose
  height_blocks component present := by
    rcases List.mem_map.mp present with ⟨source, inImage, rfl⟩
    rw [infos_turnComponent, heightInBlocks, maxVSampFactor_turn]
    exact image.height_turn_blocks inImage orientation.transpose

theorem wholeColumns_le {component : Component} (present : component ∈ image.components) :
    image.wholeColumns orientation *
        (component.toComponentInfo.turn orientation.transpose).hSampFactor ≤
      if orientation.transpose then component.blocks.height else component.blocks.width := by
  rw [image.width_turn_blocks present, wholeColumns]
  apply div_mul_le_jdivRoundUp
  split_ifs
  exacts [Nat.mul_pos image.maxV_pos (by decide), Nat.mul_pos image.maxH_pos (by decide)]

theorem wholeRows_le {component : Component} (present : component ∈ image.components) :
    image.wholeRows orientation *
        (component.toComponentInfo.turn orientation.transpose).vSampFactor ≤
      if orientation.transpose then component.blocks.width else component.blocks.height := by
  rw [image.height_turn_blocks present, wholeRows]
  apply div_mul_le_jdivRoundUp
  split_ifs
  exacts [Nat.mul_pos image.maxH_pos (by decide), Nat.mul_pos image.maxV_pos (by decide)]

@[simp] theorem width_turn : (image.turn orientation).width =
    if orientation.transpose then image.height else image.width := rfl

@[simp] theorem height_turn : (image.turn orientation).height =
    if orientation.transpose then image.width else image.height := rfl

theorem maxH_turn : (image.turn orientation).maxH =
    if orientation.transpose then image.maxV else image.maxH := by
  rw [maxH, turn, infos_turnComponent, maxHSampFactor_turn]
  rfl

theorem maxV_turn : (image.turn orientation).maxV =
    if orientation.transpose then image.maxH else image.maxV := by
  rw [maxV, turn, infos_turnComponent, maxVSampFactor_turn]
  rfl

variable (outer inner : Orientation)

theorem wholeColumns_turn :
    (image.turn inner).wholeColumns outer = image.wholeColumns (outer * inner) := by
  have product : (outer * inner).transpose = xor outer.transpose inner.transpose := rfl
  rw [wholeColumns, wholeColumns, maxH_turn, maxV_turn, product, width_turn, height_turn]
  cases outer.transpose <;> cases inner.transpose <;> rfl

theorem wholeRows_turn :
    (image.turn inner).wholeRows outer = image.wholeRows (outer * inner) := by
  have product : (outer * inner).transpose = xor outer.transpose inner.transpose := rfl
  rw [wholeRows, wholeRows, maxH_turn, maxV_turn, product, width_turn, height_turn]
  cases outer.transpose <;> cases inner.transpose <;> rfl

/-- Turning a component twice. -/
theorem turnComponent_turnComponent {component : Component}
    (present : component ∈ image.components) :
    (image.turn inner).turnComponent outer (image.turnComponent inner component) =
      image.turnComponent (outer * inner) component := by
  have product : (outer * inner).transpose = xor outer.transpose inner.transpose := rfl
  have factors : ((image.turnComponent inner component).toComponentInfo.turn outer.transpose) =
      component.toComponentInfo.turn (outer * inner).transpose :=
    ComponentInfo.turn_turn _ _ _
  have innerColumns : image.wholeColumns inner *
        (component.toComponentInfo.turn inner.transpose).hSampFactor =
      if outer.transpose then
        image.wholeRows (outer * inner) *
          (component.toComponentInfo.turn (outer * inner).transpose).vSampFactor
      else image.wholeColumns (outer * inner) *
        (component.toComponentInfo.turn (outer * inner).transpose).hSampFactor := by
    rw [wholeColumns, wholeColumns, wholeRows, product]
    cases outer.transpose <;> cases inner.transpose <;> rfl
  have innerRows : image.wholeRows inner *
        (component.toComponentInfo.turn inner.transpose).vSampFactor =
      if outer.transpose then
        image.wholeColumns (outer * inner) *
          (component.toComponentInfo.turn (outer * inner).transpose).hSampFactor
      else image.wholeRows (outer * inner) *
        (component.toComponentInfo.turn (outer * inner).transpose).vSampFactor := by
    rw [wholeRows, wholeRows, wholeColumns, product]
    cases outer.transpose <;> cases inner.transpose <;> rfl
  have blocks : ((image.turn inner).turnComponent outer
      (image.turnComponent inner component)).blocks =
      (image.turnComponent (outer * inner) component).blocks := by
    rw [turnComponent, factors, wholeColumns_turn, wholeRows_turn, turnComponent, innerColumns,
      innerRows]
    exact gatherBlocks_gatherBlocks (image.wholeColumns_le (outer * inner) present)
      (image.wholeRows_le (outer * inner) present)
  exact Component.eq_of_parts factors blocks

/-- Whole and partial MCUs together, the lossless operations act on images. -/
instance : MulAction Orientation CoefficientImage where
  smul orientation image := image.turn orientation
  one_smul image := by
    have unturned : image.turnComponent 1 = id := by
      funext component
      exact Component.eq_of_parts rfl gatherBlocks_one
    ext1
    · rfl
    · rfl
    · rfl
    · change image.components.map (image.turnComponent 1) = image.components
      rw [unturned, List.map_id]
  mul_smul outer inner image := by
    have product : (outer * inner).transpose = xor outer.transpose inner.transpose := rfl
    ext1
    · change (if (outer * inner).transpose then image.height else image.width) =
        if outer.transpose then (image.turn inner).height else (image.turn inner).width
      rw [product, width_turn, height_turn]
      cases outer.transpose <;> cases inner.transpose <;> rfl
    · change (if (outer * inner).transpose then image.width else image.height) =
        if outer.transpose then (image.turn inner).width else (image.turn inner).height
      rw [product, width_turn, height_turn]
      cases outer.transpose <;> cases inner.transpose <;> rfl
    · rfl
    · change image.components.map (image.turnComponent (outer * inner)) =
        (image.components.map (image.turnComponent inner)).map
          ((image.turn inner).turnComponent outer)
      rw [List.map_map]
      apply List.map_congr_left
      intro component present
      exact (image.turnComponent_turnComponent outer inner present).symm

theorem smul_eq_turn (orientation : Orientation) (image : CoefficientImage) :
    orientation • image = image.turn orientation := rfl

/-! ## Runs of transforms -/

/-- The parameters of a component as every transform takes them. -/
def unsampledInfo (component : ComponentInfo) : ComponentInfo :=
  if image.colorspace = .gray then component.single else component

def unsampledComponent (component : Component) : Component where
  toComponentInfo := image.unsampledInfo component.toComponentInfo
  blocks := component.blocks

theorem infos_unsampledComponent : infos (image.components.map image.unsampledComponent) =
    (infos image.components).map image.unsampledInfo := by
  rw [infos, infos, List.map_map, List.map_map]
  rfl

variable {image} {t : TJTransform}

theorem processed_of_colored (colored : t.hasGray = false) :
    image.processed t = image.components := if_neg (by simp [colored])

theorem not_refusesGray (colored : t.hasGray = false) : ¬image.RefusesGray t := by
  rintro ⟨gray, -⟩
  rw [colored] at gray
  cases gray

theorem adjusted_of_colored (colored : t.hasGray = false) (component : ComponentInfo) :
    image.adjusted t component =
      (image.unsampledInfo component).turn t.op.orientation.transpose := by
  have forced_eq : image.forced t component = image.unsampledInfo component := by
    rw [forced, unsampledInfo]
    refine ite_congr (propext ?_) (fun _ => rfl) fun _ => rfl
    rw [image.length_processed_eq_one_iff t, colored]
    simp
  rw [adjusted, forced_eq]
  rfl

theorem map_adjusted_of_colored (colored : t.hasGray = false) :
    (infos (image.processed t)).map (image.adjusted t) =
      ((infos image.components).map image.unsampledInfo).map
        (ComponentInfo.turn t.op.orientation.transpose) := by
  rw [processed_of_colored colored, List.map_map]
  apply List.map_congr_left
  intro component _
  exact adjusted_of_colored colored component

/-- A transform that does nothing has the factors of every transform. -/
theorem width_unsampled_blocks {component : Component} (present : component ∈ image.components) :
    component.blocks.width = widthInBlocks image.width
      ((infos image.components).map image.unsampledInfo)
      (image.unsampledInfo component.toComponentInfo) := by
  have blocks := turned_width_blocks (t := {}) (not_refusesGray rfl) present
  rw [← maxHSampFactor_adjusted, map_adjusted_of_colored rfl, adjusted_of_colored rfl,
    maxHSampFactor_turn] at blocks
  exact blocks

theorem height_unsampled_blocks {component : Component} (present : component ∈ image.components) :
    component.blocks.height = heightInBlocks image.height
      ((infos image.components).map image.unsampledInfo)
      (image.unsampledInfo component.toComponentInfo) := by
  have blocks := turned_height_blocks (t := {}) (not_refusesGray rfl) present
  rw [← maxVSampFactor_adjusted, map_adjusted_of_colored rfl, adjusted_of_colored rfl,
    maxVSampFactor_turn] at blocks
  exact blocks

/-- The image as every transform takes it: the component of a grayscale image is sampled once
in each direction. -/
def unsampled (image : CoefficientImage) : CoefficientImage where
  width := image.width
  height := image.height
  colorspace := image.colorspace
  components := image.components.map image.unsampledComponent
  width_pos := image.width_pos
  height_pos := image.height_pos
  width_le := image.width_le
  height_le := image.height_le
  length_components := by rw [List.length_map, image.length_components]
  width_blocks component present := by
    rcases List.mem_map.mp present with ⟨source, inImage, rfl⟩
    rw [infos_unsampledComponent]
    exact width_unsampled_blocks inImage
  height_blocks component present := by
    rcases List.mem_map.mp present with ⟨source, inImage, rfl⟩
    rw [infos_unsampledComponent]
    exact height_unsampled_blocks inImage

theorem unsampledInfo_turn (component : ComponentInfo) (transpose : Bool) :
    image.unsampledInfo ((image.unsampledInfo component).turn transpose) =
      (image.unsampledInfo component).turn transpose := by
  rw [unsampledInfo, unsampledInfo]
  split
  · cases transpose <;> rfl
  · rfl

/-- What is sampled once in each direction stays so. -/
theorem unsampled_smul_unsampled (orientation : Orientation) :
    (orientation • image.unsampled).unsampled = orientation • image.unsampled := by
  have unchanged : ∀ component ∈ (orientation • image.unsampled).components,
      (orientation • image.unsampled).unsampledComponent component = component := by
    intro component present
    rcases List.mem_map.mp present with ⟨turned, inImage, rfl⟩
    rcases List.mem_map.mp inImage with ⟨source, -, rfl⟩
    exact Component.eq_of_parts
      (unsampledInfo_turn source.toComponentInfo orientation.transpose) rfl
  ext1
  · rfl
  · rfl
  · rfl
  · exact (List.map_congr_left unchanged).trans (List.map_id _)

/-- A transform without options mirrors the interleaved MCUs. -/
theorem iMCUSampleWidth_of_colored (colored : t.hasGray = false) : image.iMCUSampleWidth t =
    (if t.op.orientation.transpose then image.unsampled.maxV else image.unsampled.maxH) *
      dctSize := by
  rw [← maxHSampFactor_adjusted, map_adjusted_of_colored colored, maxHSampFactor_turn, maxH, maxV,
    unsampled, infos_unsampledComponent]

theorem iMCUSampleHeight_of_colored (colored : t.hasGray = false) : image.iMCUSampleHeight t =
    (if t.op.orientation.transpose then image.unsampled.maxH else image.unsampled.maxV) *
      dctSize := by
  rw [← maxVSampFactor_adjusted, map_adjusted_of_colored colored, maxVSampFactor_turn, maxH, maxV,
    unsampled, infos_unsampledComponent]

/-- Without cropping and conversion `tjTransform` computes the action. -/
theorem tjTransform_eq_smul (undefined : Undefined)
    (determined : image.getSubsamp.isSome = true) (uncropped : t.hasCrop = false)
    (colored : t.hasGray = false) :
    image.tjTransform undefined t = some (.ok (t.op.orientation • image.unsampled)) := by
  have notCropped : ¬t.hasCrop = true := by simp [uncropped]
  rcases tjTransform_transformed undefined determined (if_neg notCropped)
    (fun cropped => absurd cropped notCropped) (not_refusesGray colored) with
    ⟨result, run, transformed⟩
  rw [run]
  congr 2
  apply transformed.unique
  refine ⟨rfl, rfl, ?_, ?_, ?_⟩
  · rw [targetSpace, if_neg (by simp [colored])]
    rfl
  · rw [map_adjusted_of_colored colored, ← infos_unsampledComponent]
    exact image.unsampled.infos_turnComponent t.op.orientation
  · intro ci source target isSource isTarget row _ column _
    rw [processed_of_colored colored] at isSource
    have present : image.unsampledComponent source ∈ image.unsampled.components :=
      List.mem_map_of_mem (List.mem_of_getElem? isSource)
    obtain rfl : image.unsampled.turnComponent t.op.orientation
        (image.unsampledComponent source) = target := by
      rw [smul_eq_turn, turn, unsampled, List.getElem?_map, List.getElem?_map, isSource] at isTarget
      exact Option.some.inj isTarget
    simp only [Nat.zero_mul, Nat.zero_add]
    rw [mirroredColumns, mirroredRows, iMCUSampleWidth_of_colored colored,
      iMCUSampleHeight_of_colored colored]
    exact pixel_gatherBlocks (image.unsampled.wholeColumns_le _ present)
      (image.unsampled.wholeRows_le _ present) column row

/-- One transform after the other, each on an image that the one before has left. -/
inductive TransformRun (undefined : Undefined) :
    List TJOp → CoefficientImage → CoefficientImage → Prop where
  | done (image : CoefficientImage) : TransformRun undefined [] image image
  | step {op : TJOp} {ops : List TJOp} {image next final : CoefficientImage} :
      image.tjTransform undefined { op := op } = some (.ok next) →
      TransformRun undefined ops next final → TransformRun undefined (op :: ops) image final

/-- The permutation that the operations of a run amount to. -/
def runOrientation (ops : List TJOp) : Orientation :=
  ops.foldl (fun before op => op.orientation * before) 1

theorem getSubsamp_of_tjTransform {undefined : Undefined} {result : CoefficientImage}
    (returned : image.tjTransform undefined t = some (.ok result)) :
    image.getSubsamp.isSome = true := by
  cases determined : image.getSubsamp with
  | some subsamp => rfl
  | none =>
      rw [tjTransform, determined] at returned
      cases returned

/-- What a transform of a run leaves. -/
theorem eq_smul_of_tjTransform {undefined : Undefined} {op : TJOp} {next : CoefficientImage}
    (returned : image.tjTransform undefined { op := op } = some (.ok next)) :
    next = op.orientation • image.unsampled := by
  have determined := getSubsamp_of_tjTransform returned
  rw [tjTransform_eq_smul _ determined (TJTransform.hasCrop_of_no_options rfl)
    (TJTransform.hasGray_of_no_options rfl)] at returned
  exact (Except.ok.inj (Option.some.inj returned)).symm

/-- From the second transform on, no factors are forced any more. -/
theorem TransformRun.of_smul {undefined : Undefined} {ops : List TJOp}
    {start final : CoefficientImage} (run : TransformRun undefined ops image final) :
    ∀ before : Orientation, image = before • start.unsampled →
      final = ops.foldl (fun before op => op.orientation * before) before • start.unsampled := by
  induction run with
  | done image =>
      intro before started
      exact started
  | step once later ih =>
      intro before started
      apply ih
      rw [eq_smul_of_tjTransform once, started, unsampled_smul_unsampled, mul_smul]

/-- What a run of lossless transforms leaves, where every transform forces the factors of the
component of a grayscale image. -/
theorem TransformRun.eq_smul {undefined : Undefined} {op : TJOp} {ops : List TJOp}
    {final : CoefficientImage} (run : TransformRun undefined (op :: ops) image final) :
    final = runOrientation (op :: ops) • image.unsampled := by
  cases run with
  | step once later =>
      have next := eq_smul_of_tjTransform once
      exact later.of_smul (op.orientation * 1) (by rw [next, mul_one])

theorem TransformRun.eq_smul_gradient : ∃ final,
    TransformRun .cleared [.hflip, .rot90] gradient final ∧
      final = runOrientation [.hflip, .rot90] • gradient.unsampled := by
  have once : gradient.tjTransform .cleared { op := .hflip } =
      some (.ok (TJOp.hflip.orientation • gradient.unsampled)) :=
    tjTransform_eq_smul _ rfl rfl rfl
  have twice : (TJOp.hflip.orientation • gradient.unsampled).tjTransform .cleared
      { op := .rot90 } =
      some (.ok (TJOp.rot90.orientation •
        (TJOp.hflip.orientation • gradient.unsampled).unsampled)) :=
    tjTransform_eq_smul _ rfl rfl rfl
  have run := TransformRun.step once (TransformRun.step twice (TransformRun.done _))
  exact ⟨_, run, run.eq_smul⟩

end CoefficientImage

end IiifImage.Coefficients
