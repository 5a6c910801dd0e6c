import IiifImage.Coefficients.Execution

/-!
# The image that a transform leaves

A transform that the parameters allow always succeeds, and the image it leaves is
determined by the file alone (`Transformed`): every block of the destination is a block
of the source, mirrored with the whole interleaved MCUs that hold it, whatever the memory
held that no file defines.
-/

namespace IiifImage.Coefficients

open TurboJpeg Arrays

/-- The block that belongs at a place of the turned and partly mirrored component. -/
def gatheredBlock (transpose : Bool) (columns rows : ℕ) (blocks : Raster Block)
    (row column : ℕ) : Option Block :=
  (if transpose then blocks.pixel (mirror rows row) (mirror columns column)
    else blocks.pixel (mirror columns column) (mirror rows row)).map fun block =>
      Block.reflect (column < columns) (row < rows) (Block.exchange transpose block)

/-- A place inside a turned component has a block. -/
theorem isSome_gatheredBlock {transpose : Bool} {columns rows : ℕ} {blocks : Raster Block}
    {row column : ℕ}
    (wholeColumns : columns ≤ if transpose then blocks.height else blocks.width)
    (wholeRows : rows ≤ if transpose then blocks.width else blocks.height) :
    (gatheredBlock transpose columns rows blocks row column).isSome = true ↔
      column < (if transpose then blocks.height else blocks.width) ∧
        row < if transpose then blocks.width else blocks.height := by
  rw [gatheredBlock, Option.isSome_map]
  cases transpose with
  | false =>
      simp only [Bool.false_eq_true, if_false] at wholeColumns wholeRows ⊢
      rw [blocks.pixel_isSome, mirror_lt wholeColumns, mirror_lt wholeRows]
  | true =>
      simp only [if_true] at wholeColumns wholeRows ⊢
      rw [blocks.pixel_isSome, mirror_lt wholeColumns, mirror_lt wholeRows, and_comm]

/-- Blocks gathered from an array are the blocks of the file, where it has them. -/
theorem gather_wholeImage {image : CoefficientImage} {component : Component}
    {padding : ℕ → ℕ → Block} {transpose : Bool} {columns rows row column : ℕ}
    (inside : (gatheredBlock transpose columns rows component.blocks row column).isSome = true) :
    some (gather transpose columns rows (image.wholeImage padding component).memory row column) =
      gatheredBlock transpose columns rows component.blocks row column := by
  rw [gatheredBlock] at inside ⊢
  rw [gather]
  cases transpose with
  | false =>
      simp only [Bool.false_eq_true, if_false, Option.isSome_map] at inside ⊢
      rcases Option.isSome_iff_exists.mp inside with ⟨block, present⟩
      simp only [CoefficientImage.wholeImage, present, Option.getD_some, Option.map_some]
  | true =>
      simp only [if_true, Option.isSome_map] at inside ⊢
      rcases Option.isSome_iff_exists.mp inside with ⟨block, present⟩
      simp only [CoefficientImage.wholeImage, present, Option.getD_some, Option.map_some]

namespace CoefficientImage

variable {image : CoefficientImage} {t : TJTransform} {info : TransformInfo} {dst : DstInfo}
  {component : Component}

/-- The columns of blocks of a component that a transform mirrors. -/
def mirroredColumns (image : CoefficientImage) (t : TJTransform) (factor : ℕ) : ℕ :=
  if t.op.orientation.flipX then image.turnedWidth t.op / image.iMCUSampleWidth t * factor
  else 0

/-- The rows of blocks of a component that a transform mirrors. -/
def mirroredRows (image : CoefficientImage) (t : TJTransform) (factor : ℕ) : ℕ :=
  if t.op.orientation.flipY then image.turnedHeight t.op / image.iMCUSampleHeight t * factor
  else 0

/-- An image with the blocks that a transform calls for. -/
structure Transformed (image : CoefficientImage) (t : TJTransform) (info : TransformInfo)
    (result : CoefficientImage) : Prop where
  width_eq : result.width = info.outputWidth
  height_eq : result.height = info.outputHeight
  colorspace_eq : result.colorspace = image.targetSpace t
  infos_eq : infos result.components = (infos (image.processed t)).map (image.adjusted t)
  pixel_eq : ∀ (ci : ℕ) (source target : Component), (image.processed t)[ci]? = some source →
    result.components[ci]? = some target →
    ∀ row < target.blocks.height, ∀ column < target.blocks.width,
      target.blocks.pixel column row =
        gatheredBlock t.op.orientation.transpose (image.mirroredColumns t target.hSampFactor)
          (image.mirroredRows t target.vSampFactor) source.blocks
          (info.yCropOffset * target.vSampFactor + row)
          (info.xCropOffset * target.hSampFactor + column)

/-! ## The blocks of the file suffice -/

/-- The turned component has as many columns of blocks as the turned image needs. -/
theorem turned_width_blocks (accepted : ¬image.RefusesGray t)
    (present : component ∈ image.processed t) :
    (if t.op.orientation.transpose then component.blocks.height else component.blocks.width) =
      jdivRoundUp (image.turnedWidth t.op *
        (image.adjusted t component.toComponentInfo).hSampFactor) (image.iMCUSampleWidth t) := by
  have member : component ∈ image.components := by
    rw [processed] at present
    split_ifs at present
    exacts [List.mem_of_mem_take present, present]
  rw [image.width_blocks component member, image.height_blocks component member, adjusted, forced,
    turnedWidth, iMCUSampleWidth]
  by_cases one : (image.processed t).length = 1
  · rcases full_of_single accepted one present with ⟨fullH, fullV⟩
    cases t.op.orientation.transpose with
    | false =>
        simp only [Bool.false_eq_true, if_false, one, if_true, ComponentInfo.single, Nat.mul_one]
        rw [widthInBlocks, fullH, ← maxH, Nat.mul_comm image.maxH dctSize,
          jdivRoundUp_mul_mul_right (by decide) image.maxH_pos]
    | true =>
        simp only [one, if_true, ComponentInfo.single, ComponentInfo.transpose, Nat.mul_one]
        rw [heightInBlocks, fullV, ← maxV, Nat.mul_comm image.maxV dctSize,
          jdivRoundUp_mul_mul_right (by decide) image.maxV_pos]
  · cases t.op.orientation.transpose with
    | false => simp only [one, if_false, Bool.false_eq_true, widthInBlocks, maxH]
    | true => simp only [one, if_true, if_false, ComponentInfo.transpose, heightInBlocks, maxV]

theorem turned_height_blocks (accepted : ¬image.RefusesGray t)
    (present : component ∈ image.processed t) :
    (if t.op.orientation.transpose then component.blocks.width else component.blocks.height) =
      jdivRoundUp (image.turnedHeight t.op *
        (image.adjusted t component.toComponentInfo).vSampFactor) (image.iMCUSampleHeight t) := by
  have member : component ∈ image.components := by
    rw [processed] at present
    split_ifs at present
    exacts [List.mem_of_mem_take present, present]
  rw [image.width_blocks component member, image.height_blocks component member, adjusted, forced,
    turnedHeight, iMCUSampleHeight]
  by_cases one : (image.processed t).length = 1
  · rcases full_of_single accepted one present with ⟨fullH, fullV⟩
    cases t.op.orientation.transpose with
    | false =>
        simp only [Bool.false_eq_true, if_false, one, if_true, ComponentInfo.single, Nat.mul_one]
        rw [heightInBlocks, fullV, ← maxV, Nat.mul_comm image.maxV dctSize,
          jdivRoundUp_mul_mul_right (by decide) image.maxV_pos]
    | true =>
        simp only [one, if_true, ComponentInfo.single, ComponentInfo.transpose, Nat.mul_one]
        rw [widthInBlocks, fullH, ← maxH, Nat.mul_comm image.maxH dctSize,
          jdivRoundUp_mul_mul_right (by decide) image.maxH_pos]
  · cases t.op.orientation.transpose with
    | false => simp only [one, if_false, Bool.false_eq_true, heightInBlocks, maxV]
    | true => simp only [one, if_true, if_false, ComponentInfo.transpose, widthInBlocks, maxH]

/-- Every place of the destination has a block in the file. -/
theorem isSome_gatheredBlock_source (fitted : Fitted image t info)
    (accepted : ¬image.RefusesGray t) (present : component ∈ image.processed t)
    {target : ComponentInfo} (isTarget : target = image.adjusted t component.toComponentInfo)
    {row column : ℕ}
    (left : column < jdivRoundUp (info.outputWidth * target.hSampFactor)
      (image.iMCUSampleWidth t))
    (below : row < jdivRoundUp (info.outputHeight * target.vSampFactor)
      (image.iMCUSampleHeight t)) :
    (gatheredBlock t.op.orientation.transpose (image.mirroredColumns t target.hSampFactor)
      (image.mirroredRows t target.vSampFactor) component.blocks
      (info.yCropOffset * target.vSampFactor + row)
      (info.xCropOffset * target.hSampFactor + column)).isSome = true := by
  subst isTarget
  have unitW := image.iMCUSampleWidth_pos t
  have unitH := image.iMCUSampleHeight_pos t
  have columns := turned_width_blocks accepted present
  have rows := turned_height_blocks accepted present
  rw [isSome_gatheredBlock, columns, rows]
  · constructor
    · have scaled := Nat.mul_le_mul_right
        (image.adjusted t component.toComponentInfo).hSampFactor fitted.width_le
      rw [Nat.add_mul, Nat.mul_right_comm] at scaled
      have placed := add_jdivRoundUp_le unitW scaled
      omega
    · have scaled := Nat.mul_le_mul_right
        (image.adjusted t component.toComponentInfo).vSampFactor fitted.height_le
      rw [Nat.add_mul, Nat.mul_right_comm] at scaled
      have placed := add_jdivRoundUp_le unitH scaled
      omega
  · rw [columns, mirroredColumns]
    split_ifs
    exacts [div_mul_le_jdivRoundUp unitW, Nat.zero_le _]
  · rw [rows, mirroredRows]
    split_ifs
    exacts [div_mul_le_jdivRoundUp unitH, Nat.zero_le _]

/-! ## The whole transform -/

/-- The routine of a component leaves the blocks that belong there. -/
theorem execute_component (undefined : Undefined) (fitted : Fitted image t info)
    (components : dst.components = (infos (image.processed t)).map (image.adjusted t))
    (accepted : ¬image.RefusesGray t) (present : component ∈ image.processed t) (ci : ℕ) :
    ∃ array, executeTransform t.op
        (image.request info dst (image.adjusted t component.toComponentInfo))
        (image.wholeImage (undefined.padding ci) component)
        (workspaceArray info t.op (undefined.workspace ci) component) = some array ∧
      ∀ row < (image.request info dst
          (image.adjusted t component.toComponentInfo)).heightInBlocks,
        ∀ column < (image.request info dst
            (image.adjusted t component.toComponentInfo)).widthInBlocks,
          some (array.memory row column) =
            gatheredBlock t.op.orientation.transpose
              (image.mirroredColumns t (image.adjusted t component.toComponentInfo).hSampFactor)
              (image.mirroredRows t (image.adjusted t component.toComponentInfo).vSampFactor)
              component.blocks
              (info.yCropOffset * (image.adjusted t component.toComponentInfo).vSampFactor + row)
              (info.xCropOffset * (image.adjusted t component.toComponentInfo).hSampFactor +
                column) := by
  have room := room_workspaceArray fitted components (undefined.workspace ci) component
  have reach := reach_wholeImage fitted components accepted present (undefined.padding ci)
  rcases executeTransform_gathers room reach with ⟨array, run, blocks⟩
  refine ⟨array, run, ?_⟩
  intro row below column left
  rw [blocks row below column left, mirroredColumns_request components,
    mirroredRows_request components]
  rw [heightInBlocks_request components] at below
  rw [widthInBlocks_request components] at left
  exact gather_wholeImage
    (isSome_gatheredBlock_source fitted accepted present rfl left below)

/-- All routines succeed, and what is encoded is the transformed image. -/
theorem executeAll_transformed (undefined : Undefined) (fitted : Fitted image t info)
    (space : dst.colorspace = image.targetSpace t)
    (components : dst.components = (infos (image.processed t)).map (image.adjusted t))
    (accepted : ¬image.RefusesGray t) :
    ∃ arrays, image.executeAll undefined t info dst = some arrays ∧
      Transformed image t info (writeCoefficients info dst arrays) := by
  have entries : ∀ ci : ℕ, ((image.processed t).zip dst.components).zipIdx[ci]? =
      (image.processed t)[ci]?.map fun component =>
        ((component, image.adjusted t component.toComponentInfo), ci) := by
    intro ci
    rw [List.getElem?_zipIdx, components, infos]
    cases component : (image.processed t)[ci]? <;>
      simp [List.zip, List.getElem?_zipWith, component]
  have defined : ∀ entry ∈ ((image.processed t).zip dst.components).zipIdx,
      (executeTransform t.op (image.request info dst entry.1.2)
        (image.wholeImage (undefined.padding entry.2) entry.1.1)
        (workspaceArray info t.op (undefined.workspace entry.2) entry.1.1)).isSome = true := by
    intro entry inList
    rcases List.mem_iff_getElem?.mp inList with ⟨ci, atIndex⟩
    rw [entries] at atIndex
    rcases Option.map_eq_some_iff.mp atIndex with ⟨component, isComponent, rfl⟩
    rcases execute_component undefined fitted components accepted
      (List.mem_of_getElem? isComponent) ci with ⟨array, run, -⟩
    rw [run]
    rfl
  rcases mapM_eq_some defined with ⟨arrays, run, returned⟩
  refine ⟨arrays, run, rfl, rfl, space, (infos_encode info dst arrays).trans components, ?_⟩
  intro ci source target isSource isTarget row below column left
  rcases execute_component undefined fitted components accepted
    (List.mem_of_getElem? isSource) ci with ⟨array, once, blocks⟩
  have isArray : arrays[ci]? = some array := by
    rw [returned, entries, isSource]
    exact once
  have encoded : target = encodeComponent info dst (image.adjusted t source.toComponentInfo)
      array := by
    rw [writeCoefficients, List.getElem?_mapIdx, components, List.getElem?_map, infos,
      List.getElem?_map, isSource] at isTarget
    simp only [Option.map_some, Option.some.injEq, List.getD_eq_getElem?_getD, isArray,
      Option.getD_some] at isTarget
    exact isTarget.symm
  subst encoded
  exact (if_pos ⟨left, below⟩).trans (blocks row below column left)

/-- A transform whose parameters are in order succeeds. -/
theorem tjTransform_transformed (undefined : Undefined)
    (determined : image.getSubsamp.isSome = true)
    (requested : image.requestWorkspace t = .ok info)
    (aligned : t.hasCrop = true → Jpeg.jdimension t.x % info.iMCUSampleWidth = 0 ∧
      Jpeg.jdimension t.y % info.iMCUSampleHeight = 0)
    (accepted : ¬image.RefusesGray t) :
    ∃ result, image.tjTransform undefined t = some (.ok result) ∧
      Transformed image t info result := by
  have fitted := fitted_of_requestWorkspace requested
  rcases Option.isSome_iff_exists.mp determined with ⟨subsamp, sampled⟩
  rcases adjustParameters_accepted accepted fitted.numComponents_eq with
    ⟨dst, adjusted, space, components⟩
  rcases executeAll_transformed undefined fitted space components accepted with
    ⟨arrays, run, transformed⟩
  refine ⟨_, ?_, transformed⟩
  have noComplaint : ¬(t.hasCrop = true ∧ ¬(Jpeg.jdimension t.x % info.iMCUSampleWidth = 0 ∧
      Jpeg.jdimension t.y % info.iMCUSampleHeight = 0)) := by
    rintro ⟨cropping, misaligned⟩
    exact misaligned (aligned cropping)
  simp only [tjTransform, sampled, requested, if_neg noComplaint, adjusted, run, Option.map_some]

/-- A conversion to grayscale that the parameters do not allow fails. -/
theorem tjTransform_refused (undefined : Undefined)
    (determined : image.getSubsamp.isSome = true) (requested : image.requestWorkspace t = .ok info)
    (aligned : t.hasCrop = true → Jpeg.jdimension t.x % info.iMCUSampleWidth = 0 ∧
      Jpeg.jdimension t.y % info.iMCUSampleHeight = 0)
    (refused : image.RefusesGray t) :
    image.tjTransform undefined t =
      some (.error (.tj (some "Unsupported color conversion request"))) := by
  rcases Option.isSome_iff_exists.mp determined with ⟨subsamp, sampled⟩
  have noComplaint : ¬(t.hasCrop = true ∧ ¬(Jpeg.jdimension t.x % info.iMCUSampleWidth = 0 ∧
      Jpeg.jdimension t.y % info.iMCUSampleHeight = 0)) := by
    rintro ⟨cropping, misaligned⟩
    exact misaligned (aligned cropping)
  simp only [tjTransform, sampled, requested, if_neg noComplaint,
    adjustParameters_refused refused]

/-- Two images with the same parts are the same. -/
theorem eq_of_components {left right : CoefficientImage} (width : left.width = right.width)
    (height : left.height = right.height) (colorspace : left.colorspace = right.colorspace)
    (sameInfos : infos left.components = infos right.components)
    (pixels : ∀ (ci : ℕ) (first second : Component), left.components[ci]? = some first →
      right.components[ci]? = some second → first.toComponentInfo = second.toComponentInfo →
      (first.blocks.width = second.blocks.width ∧ first.blocks.height = second.blocks.height) →
      ∀ row < first.blocks.height, ∀ column < first.blocks.width,
        first.blocks.pixel column row = second.blocks.pixel column row) : left = right := by
  have components : left.components = right.components := by
    apply List.ext_getElem?
    intro ci
    have sameInfo := congrArg (·[ci]?) sameInfos
    simp only [infos, List.getElem?_map] at sameInfo
    cases isFirst : left.components[ci]? with
    | none =>
        rw [isFirst, Option.map_none] at sameInfo
        exact (Option.map_eq_none_iff.mp sameInfo.symm).symm
    | some first =>
        rw [isFirst, Option.map_some] at sameInfo
        rcases Option.map_eq_some_iff.mp sameInfo.symm with ⟨second, isSecond, same⟩
        rw [isSecond]
        congr 1
        have firstWidth := left.width_blocks first (List.mem_of_getElem? isFirst)
        have firstHeight := left.height_blocks first (List.mem_of_getElem? isFirst)
        have secondWidth := right.width_blocks second (List.mem_of_getElem? isSecond)
        have secondHeight := right.height_blocks second (List.mem_of_getElem? isSecond)
        rw [same, ← sameInfos, ← width, ← firstWidth] at secondWidth
        rw [same, ← sameInfos, ← height, ← firstHeight] at secondHeight
        have blocks : first.blocks = second.blocks := by
          ext1
          · exact secondWidth.symm
          · exact secondHeight.symm
          · funext column row
            by_cases inside : column < first.blocks.width ∧ row < first.blocks.height
            · exact pixels ci first second isFirst isSecond same.symm
                ⟨secondWidth.symm, secondHeight.symm⟩ row inside.2 column inside.1
            · rw [Raster.pixel_eq_none inside,
                Raster.pixel_eq_none (by rwa [secondWidth, secondHeight])]
        exact Component.eq_of_parts same.symm blocks
  exact CoefficientImage.ext width height colorspace components

/-- The transformed image is the only one of its kind. -/
theorem Transformed.unique {left right : CoefficientImage} (first : Transformed image t info left)
    (second : Transformed image t info right) : left = right := by
  have sameInfos : infos left.components = infos right.components :=
    first.infos_eq.trans second.infos_eq.symm
  apply eq_of_components (first.width_eq.trans second.width_eq.symm)
    (first.height_eq.trans second.height_eq.symm)
    (first.colorspace_eq.trans second.colorspace_eq.symm) sameInfos
  intro ci leftTarget rightTarget isLeft isRight same ⟨sameWidth, sameHeight⟩
    row below column inside
  have isSource := congrArg (·[ci]?) first.infos_eq
  simp only [infos, List.getElem?_map, isLeft, Option.map_some] at isSource
  rcases Option.map_eq_some_iff.mp isSource.symm with ⟨info, isInfo, -⟩
  rcases Option.map_eq_some_iff.mp isInfo with ⟨source, isSource, -⟩
  rw [first.pixel_eq ci source leftTarget isSource isLeft row below column inside,
    second.pixel_eq ci source rightTarget isSource isRight row (sameHeight ▸ below) column
      (sameWidth ▸ inside), same]

/-! ## What no memory can change -/

/-- No transform of any image accesses a block outside an array. -/
theorem tjTransform_isSome (undefined : Undefined) (image : CoefficientImage) (t : TJTransform) :
    (image.tjTransform undefined t).isSome = true := by
  rw [tjTransform]
  cases image.getSubsamp with
  | none => rfl
  | some subsamp =>
      cases requested : image.requestWorkspace t with
      | error problem => rfl
      | ok info =>
          dsimp only
          have fitted := fitted_of_requestWorkspace requested
          split_ifs with misaligned
          · rfl
          · by_cases refused : image.RefusesGray t
            · rw [adjustParameters_refused refused]
              rfl
            · rcases adjustParameters_accepted refused fitted.numComponents_eq with
                ⟨dst, adjusted, space, components⟩
              rcases executeAll_transformed undefined fitted space components refused with
                ⟨arrays, run, -⟩
              simp only [adjusted, run, Option.map_some, Option.isSome_some]

/-- What memory holds that no file defines never shows in the result. -/
theorem tjTransform_undefined (left right : Undefined) (image : CoefficientImage)
    (t : TJTransform) : image.tjTransform left t = image.tjTransform right t := by
  rw [tjTransform, tjTransform]
  cases image.getSubsamp with
  | none => rfl
  | some subsamp =>
      cases requested : image.requestWorkspace t with
      | error problem => rfl
      | ok info =>
          dsimp only
          have fitted := fitted_of_requestWorkspace requested
          split_ifs with misaligned
          · rfl
          · by_cases refused : image.RefusesGray t
            · rw [adjustParameters_refused refused]
            · rcases adjustParameters_accepted refused fitted.numComponents_eq with
                ⟨dst, adjusted, space, components⟩
              rcases executeAll_transformed left fitted space components refused with
                ⟨leftArrays, leftRun, leftResult⟩
              rcases executeAll_transformed right fitted space components refused with
                ⟨rightArrays, rightRun, rightResult⟩
              simp only [adjusted, leftRun, rightRun, Option.map_some, Option.some.injEq,
                Except.ok.injEq]
              exact leftResult.unique rightResult

end CoefficientImage

end IiifImage.Coefficients
