import IiifImage.Coefficients.Gather
import IiifImage.Coefficients.Transform

/-!
# Executing a transform

The arrays of an image and the workspace have every block that the routine of a
transform touches, so that no access fails, and what is encoded afterwards are the blocks
of the source, gathered along the axes of the image that has been turned.
-/

namespace IiifImage.Coefficients

open TurboJpeg Arrays

/-! ## One component -/

/-- The columns of blocks that an operation mirrors. -/
def Request.mirroredColumns (request : Request) (op : TJOp) : ℕ :=
  if op.orientation.flipX then
    request.compWidth (if op.orientation.transpose then request.outputHeight
      else request.outputWidth)
  else 0

/-- The rows of blocks that an operation mirrors. -/
def Request.mirroredRows (request : Request) (op : TJOp) : ℕ :=
  if op.orientation.flipY then
    request.compHeight (if op.orientation.transpose then request.outputWidth
      else request.outputHeight)
  else 0

/-- Whichever routine is chosen, it gathers the blocks of the source. -/
theorem executeTransform_gathers {op : TJOp} {request : Request}
    {source workspace : VirtualArray} (room : Room request workspace)
    (reach : Reach request op.orientation.transpose (request.mirroredColumns op)
      (request.mirroredRows op) source) :
    ∃ array, executeTransform op request source workspace = some array ∧
      ∀ row < request.heightInBlocks, ∀ column < request.widthInBlocks,
        array.memory row column = gather op.orientation.transpose (request.mirroredColumns op)
          (request.mirroredRows op) source.memory (request.yCropBlocks + row)
          (request.xCropBlocks + column) := by
  have inWorkspace : ∀ {transpose columns rows copies},
      Gathers request transpose columns rows source workspace copies →
      ∃ array, performAll source workspace copies = some array ∧
        ∀ row < request.heightInBlocks, ∀ column < request.widthInBlocks,
          array.memory row column = gather transpose columns rows source.memory
            (request.yCropBlocks + row) (request.xCropBlocks + column) := by
    rintro transpose columns rows copies ⟨memory, run, blocks⟩
    exact ⟨_, run, blocks⟩
  cases op with
  | none =>
      rw [executeTransform]
      by_cases cropped : request.xCropOffset ≠ 0 ∨ request.yCropOffset ≠ 0
      · rw [if_pos cropped]
        exact inWorkspace (gathers_doCrop room reach)
      · rw [if_neg cropped]
        refine ⟨source, rfl, ?_⟩
        intro row _ column _
        have left : request.xCropOffset = 0 := by omega
        have top : request.yCropOffset = 0 := by omega
        change source.memory row column = gather false 0 0 source.memory _ _
        rw [gather_none, Request.xCropBlocks, Request.yCropBlocks, left, top]
        simp
  | hflip =>
      rw [executeTransform]
      by_cases cropped : request.yCropOffset ≠ 0
      · rw [if_pos cropped]
        exact inWorkspace (gathers_doFlipH room reach)
      · rw [if_neg cropped]
        rcases doFlipHNoCrop_gathers (not_not.mp cropped) reach with ⟨memory, run, blocks⟩
        exact ⟨_, run, blocks⟩
  | vflip => exact inWorkspace (gathers_doFlipV room reach)
  | transpose => exact inWorkspace (gathers_doTranspose room reach)
  | transverse => exact inWorkspace (gathers_doTransverse room reach)
  | rot90 => exact inWorkspace (gathers_doRot90 room reach)
  | rot180 => exact inWorkspace (gathers_doRot180 room reach)
  | rot270 => exact inWorkspace (gathers_doRot270 room reach)

/-! ## Parameters of the destination -/

section Factors

variable (components : List ComponentInfo)

@[simp] theorem maxHSampFactor_transpose :
    maxHSampFactor (components.map ComponentInfo.transpose) = maxVSampFactor components := by
  simp [maxHSampFactor, maxVSampFactor, List.foldl_map, ComponentInfo.transpose]

@[simp] theorem maxVSampFactor_transpose :
    maxVSampFactor (components.map ComponentInfo.transpose) = maxHSampFactor components := by
  simp [maxHSampFactor, maxVSampFactor, List.foldl_map, ComponentInfo.transpose]

@[simp] theorem maxHSampFactor_single :
    maxHSampFactor (components.map ComponentInfo.single) = 1 := by
  apply le_antisymm
  · rw [maxHSampFactor_le_iff]
    refine ⟨le_rfl, ?_⟩
    intro component present
    rcases List.mem_map.mp present with ⟨original, _, rfl⟩
    exact le_rfl
  · exact maxHSampFactor_pos _

@[simp] theorem maxVSampFactor_single :
    maxVSampFactor (components.map ComponentInfo.single) = 1 := by
  apply le_antisymm
  · rw [maxVSampFactor_le_iff]
    refine ⟨le_rfl, ?_⟩
    intro component present
    rcases List.mem_map.mp present with ⟨original, _, rfl⟩
    exact le_rfl
  · exact maxVSampFactor_pos _

end Factors

namespace CoefficientImage

variable (image : CoefficientImage) (t : TJTransform)

/-- The parameters of a component before the axes are exchanged. -/
def forced (component : ComponentInfo) : ComponentInfo :=
  if (image.processed t).length = 1 then component.single else component

/-- The parameters that a component has in the destination. -/
def adjusted (component : ComponentInfo) : ComponentInfo :=
  if t.op.orientation.transpose then (image.forced t component).transpose
  else image.forced t component

/-- The first component is sampled as often as any. -/
def FirstFull : Prop :=
  ∀ first ∈ image.components.head?, first.hSampFactor = image.maxH ∧
    first.vSampFactor = image.maxV

/-- A forced conversion to grayscale that `jtransform_adjust_parameters` refuses. -/
def RefusesGray : Prop :=
  t.hasGray ∧ ¬((image.colorspace = .ycbcr ∨ image.colorspace = .gray) ∧ image.FirstFull)

def targetSpace : Colorspace := if t.hasGray then .gray else image.colorspace

theorem length_processed_eq_one_iff : (image.processed t).length = 1 ↔
    image.colorspace = .gray ∨ (t.hasGray ∧ image.colorspace = .ycbcr) := by
  have length := image.length_components
  rw [processed]
  by_cases forced : t.hasGray ∧ image.colorspace = .ycbcr
  · rw [if_pos forced, List.length_take, length, forced.2]
    simp [forced, numComponents]
  · rw [if_neg forced, length]
    cases space : image.colorspace <;> simp_all [numComponents]

variable {image t} {info : TransformInfo} {dst : DstInfo}

theorem forced_of_single (one : (image.processed t).length = 1) :
    image.forced t = ComponentInfo.single := funext fun _ => if_pos one

theorem forced_of_several (several : ¬(image.processed t).length = 1) :
    image.forced t = id := funext fun _ => if_neg several

/-- What `jtransform_request_workspace` has made sure of. -/
structure Fitted (image : CoefficientImage) (t : TJTransform) (info : TransformInfo) : Prop where
  numComponents_eq : info.numComponents = (image.processed t).length
  iMCUSampleWidth_eq : info.iMCUSampleWidth = image.iMCUSampleWidth t
  iMCUSampleHeight_eq : info.iMCUSampleHeight = image.iMCUSampleHeight t
  width_le : info.xCropOffset * image.iMCUSampleWidth t + info.outputWidth ≤
    image.turnedWidth t.op
  height_le : info.yCropOffset * image.iMCUSampleHeight t + info.outputHeight ≤
    image.turnedHeight t.op

theorem fitted_of_requestWorkspace (requested : image.requestWorkspace t = .ok info) :
    Fitted image t info := by
  rw [requestWorkspace] at requested
  by_cases cropping : t.hasCrop
  · rw [if_pos cropping] at requested
    cases crop : Jpeg.cropArea t (image.turnedWidth t.op) (image.turnedHeight t.op) with
    | none =>
        rw [crop] at requested
        cases requested
    | some area =>
        simp only [crop] at requested
        cases requested
        have columns := Nat.div_add_mod' area.rect.x (image.iMCUSampleWidth t)
        have rows := Nat.div_add_mod' area.rect.y (image.iMCUSampleHeight t)
        refine ⟨rfl, rfl, rfl, ?_, ?_⟩
        · have inside := area.inside.1
          dsimp only
          omega
        · have inside := area.inside.2
          dsimp only
          omega
  · rw [if_neg cropping] at requested
    cases requested
    refine ⟨rfl, rfl, rfl, ?_, ?_⟩ <;> simp

theorem forceParameters_refused (refused : image.RefusesGray t) :
    image.forceParameters t info =
      .error (.tj (some "Unsupported color conversion request")) := by
  rcases refused with ⟨gray, unsuitable⟩
  rw [forceParameters, if_pos gray]
  cases present : image.components with
  | nil => rfl
  | cons first rest =>
      apply if_neg
      intro suitable
      apply unsuitable
      refine ⟨suitable.1, ?_⟩
      intro first' isFirst
      rw [present] at isFirst
      cases isFirst
      exact suitable.2

/-- The components before the axes are exchanged. -/
theorem forceParameters_accepted (accepted : ¬image.RefusesGray t)
    (count : info.numComponents = (image.processed t).length) :
    ∃ forced, image.forceParameters t info = .ok forced ∧
      forced.colorspace = image.targetSpace t ∧
      forced.components = (infos (image.processed t)).map (image.forced t) := by
  have single := image.length_processed_eq_one_iff t
  by_cases gray : t.hasGray
  · have suitable := not_not.mp (not_and.mp accepted gray)
    cases present : image.components with
    | nil => exact absurd present image.components_ne_nil
    | cons first rest =>
        have one : (image.processed t).length = 1 := by
          rw [single]
          rcases suitable.1 with ycbcr | gray'
          · exact .inr ⟨gray, ycbcr⟩
          · exact .inl gray'
        have full := suitable.2 first (by rw [present]; rfl)
        have only : image.processed t = [first] := by
          rcases List.length_eq_one_iff.mp one with ⟨component, alone⟩
          rw [alone]
          rw [processed, present] at alone
          split_ifs at alone
          · exact alone.symm
          · exact congrArg (fun list => [list.headD first]) alone.symm
        refine ⟨⟨.gray, [first.toComponentInfo.single], rfl⟩, ?_, ?_, ?_⟩
        · rw [forceParameters, if_pos gray, present]
          exact if_pos ⟨suitable.1, full⟩
        · rw [targetSpace, if_pos gray]
        · rw [only]
          rw [forced_of_single one]
          rfl
  · have all : image.processed t = image.components := if_neg (by simp [gray])
    by_cases one : (image.processed t).length = 1
    · rw [forceParameters, if_neg gray, if_pos (count.trans one)]
      refine ⟨_, rfl, ?_, ?_⟩
      · rw [targetSpace, if_neg gray]
      · rw [all, forced_of_single one]
    · rw [forceParameters, if_neg gray, if_neg (by rwa [count])]
      refine ⟨_, rfl, ?_, ?_⟩
      · rw [targetSpace, if_neg gray]
      · rw [all, forced_of_several one, List.map_id]

theorem adjustParameters_refused (refused : image.RefusesGray t) :
    image.adjustParameters t info =
      .error (.tj (some "Unsupported color conversion request")) := by
  rw [adjustParameters, forceParameters_refused refused]
  rfl

theorem adjustParameters_accepted (accepted : ¬image.RefusesGray t)
    (count : info.numComponents = (image.processed t).length) :
    ∃ dst, image.adjustParameters t info = .ok dst ∧
      dst.colorspace = image.targetSpace t ∧
      dst.components = (infos (image.processed t)).map (image.adjusted t) := by
  rcases forceParameters_accepted accepted count with ⟨forced, run, space, components⟩
  rw [adjustParameters, run]
  cases turned : t.op.orientation.transpose with
  | false =>
      refine ⟨forced, rfl, space, ?_⟩
      rw [components]
      congr 1
      funext component
      simp [adjusted, turned]
  | true =>
      refine ⟨_, rfl, space, ?_⟩
      simp only [components, List.map_map]
      congr 1
      funext component
      simp [adjusted, turned]

/-! ## Dimensions -/

theorem processed_of_not_single (several : ¬(image.processed t).length = 1) :
    image.processed t = image.components := by
  rw [length_processed_eq_one_iff] at several
  exact if_neg fun forced => several (.inr forced)

theorem map_forced (image : CoefficientImage) (t : TJTransform) :
    (infos (image.processed t)).map (image.forced t) =
      if (image.processed t).length = 1 then
        (infos (image.processed t)).map ComponentInfo.single
      else infos image.components := by
  by_cases one : (image.processed t).length = 1
  · rw [if_pos one, forced_of_single one]
  · rw [if_neg one, forced_of_several one, List.map_id, processed_of_not_single one]

theorem map_adjusted (image : CoefficientImage) (t : TJTransform) :
    (infos (image.processed t)).map (image.adjusted t) =
      if t.op.orientation.transpose then
        ((infos (image.processed t)).map (image.forced t)).map ComponentInfo.transpose
      else (infos (image.processed t)).map (image.forced t) := by
  unfold adjusted
  cases t.op.orientation.transpose <;> simp [List.map_map, Function.comp_def]

/-- The components of the destination span MCUs of the announced width. -/
theorem maxHSampFactor_adjusted (image : CoefficientImage) (t : TJTransform) :
    maxHSampFactor ((infos (image.processed t)).map (image.adjusted t)) * dctSize =
      image.iMCUSampleWidth t := by
  rw [map_adjusted, map_forced, iMCUSampleWidth]
  by_cases one : (image.processed t).length = 1
  · cases t.op.orientation.transpose <;> simp [one, -List.map_map]
  · cases t.op.orientation.transpose <;> simp [one, maxH, maxV]

theorem maxVSampFactor_adjusted (image : CoefficientImage) (t : TJTransform) :
    maxVSampFactor ((infos (image.processed t)).map (image.adjusted t)) * dctSize =
      image.iMCUSampleHeight t := by
  rw [map_adjusted, map_forced, iMCUSampleHeight]
  by_cases one : (image.processed t).length = 1
  · cases t.op.orientation.transpose <;> simp [one, -List.map_map]
  · cases t.op.orientation.transpose <;> simp [one, maxH, maxV]

theorem iMCUSampleWidth_pos (image : CoefficientImage) (t : TJTransform) :
    0 < image.iMCUSampleWidth t := by
  rw [← maxHSampFactor_adjusted]
  exact Nat.mul_pos (maxHSampFactor_pos _) (by decide)

theorem iMCUSampleHeight_pos (image : CoefficientImage) (t : TJTransform) :
    0 < image.iMCUSampleHeight t := by
  rw [← maxVSampFactor_adjusted]
  exact Nat.mul_pos (maxVSampFactor_pos _) (by decide)

variable {component : Component}

/-- A component that is processed alone is sampled as often as any. -/
theorem full_of_single (accepted : ¬image.RefusesGray t)
    (one : (image.processed t).length = 1) (present : component ∈ image.processed t) :
    component.hSampFactor = image.maxH ∧ component.vSampFactor = image.maxV := by
  rcases (image.length_processed_eq_one_iff t).mp one with gray | ⟨forced, ycbcr⟩
  · have all : image.processed t = image.components := if_neg (by simp [gray])
    rw [all] at one present
    rcases List.length_eq_one_iff.mp one with ⟨only, alone⟩
    rw [alone, List.mem_singleton] at present
    subst present
    rw [maxH, maxV, alone]
    exact ⟨(max_eq_right component.hSampFactor_pos).symm,
      (max_eq_right component.vSampFactor_pos).symm⟩
  · have full := (not_not.mp (not_and.mp accepted forced)).2
    apply full component
    rw [processed, if_pos ⟨forced, ycbcr⟩] at present
    cases components : image.components with
    | nil =>
        rw [components] at present
        cases present
    | cons first rest =>
        rw [components] at present
        simpa using (List.mem_singleton.mp present).symm

/-- Every row of the turned source array is as long as the turned image is wide, in whole
interleaved MCUs of the destination. -/
theorem columns_wholeImage (accepted : ¬image.RefusesGray t)
    (present : component ∈ image.processed t) (padding : ℕ → ℕ → Block) :
    jdivRoundUp (image.turnedWidth t.op) (image.iMCUSampleWidth t) *
        (image.adjusted t component.toComponentInfo).hSampFactor ≤
      if t.op.orientation.transpose then (image.wholeImage padding component).rowsInArray
      else (image.wholeImage padding component).blocksPerRow := by
  have unitH : 0 < image.maxH * dctSize := Nat.mul_pos image.maxH_pos (by decide)
  have unitV : 0 < image.maxV * dctSize := Nat.mul_pos image.maxV_pos (by decide)
  rw [blocksPerRow_wholeImage, rowsInArray_wholeImage, adjusted, forced, turnedWidth,
    iMCUSampleWidth]
  by_cases one : (image.processed t).length = 1
  · rcases full_of_single accepted one present with ⟨fullH, fullV⟩
    cases t.op.orientation.transpose with
    | false =>
        simp only [one, if_true, if_false, Bool.false_eq_true, ComponentInfo.single, Nat.mul_one,
          fullH]
        rw [jdivRoundUp_le_iff (by decide), Nat.mul_assoc]
        exact le_jdivRoundUp_mul unitH
    | true =>
        simp only [one, if_true, ComponentInfo.single, ComponentInfo.transpose, Nat.mul_one,
          fullV]
        rw [jdivRoundUp_le_iff (by decide), Nat.mul_assoc]
        exact le_jdivRoundUp_mul unitV
  · cases t.op.orientation.transpose with
    | false => simp only [one, if_false, Bool.false_eq_true, le_refl]
    | true => simp only [one, if_true, if_false, ComponentInfo.transpose, le_refl]

theorem rows_wholeImage (accepted : ¬image.RefusesGray t)
    (present : component ∈ image.processed t) (padding : ℕ → ℕ → Block) :
    jdivRoundUp (image.turnedHeight t.op) (image.iMCUSampleHeight t) *
        (image.adjusted t component.toComponentInfo).vSampFactor ≤
      if t.op.orientation.transpose then (image.wholeImage padding component).blocksPerRow
      else (image.wholeImage padding component).rowsInArray := by
  have unitH : 0 < image.maxH * dctSize := Nat.mul_pos image.maxH_pos (by decide)
  have unitV : 0 < image.maxV * dctSize := Nat.mul_pos image.maxV_pos (by decide)
  rw [blocksPerRow_wholeImage, rowsInArray_wholeImage, adjusted, forced, turnedHeight,
    iMCUSampleHeight]
  by_cases one : (image.processed t).length = 1
  · rcases full_of_single accepted one present with ⟨fullH, fullV⟩
    cases t.op.orientation.transpose with
    | false =>
        simp only [one, if_true, if_false, Bool.false_eq_true, ComponentInfo.single, Nat.mul_one,
          fullV]
        rw [jdivRoundUp_le_iff (by decide), Nat.mul_assoc]
        exact le_jdivRoundUp_mul unitV
    | true =>
        simp only [one, if_true, ComponentInfo.single, ComponentInfo.transpose, Nat.mul_one,
          fullH]
        rw [jdivRoundUp_le_iff (by decide), Nat.mul_assoc]
        exact le_jdivRoundUp_mul unitH
  · cases t.op.orientation.transpose with
    | false => simp only [one, if_false, Bool.false_eq_true, le_refl]
    | true => simp only [one, if_true, if_false, ComponentInfo.transpose, le_refl]

/-! ## No access fails -/

@[simp] theorem hSampFactor_request (component : ComponentInfo) :
    (image.request info dst component).hSampFactor = component.hSampFactor := rfl

@[simp] theorem vSampFactor_request (component : ComponentInfo) :
    (image.request info dst component).vSampFactor = component.vSampFactor := rfl

@[simp] theorem xCropBlocks_request (component : ComponentInfo) :
    (image.request info dst component).xCropBlocks =
      info.xCropOffset * component.hSampFactor := rfl

@[simp] theorem yCropBlocks_request (component : ComponentInfo) :
    (image.request info dst component).yCropBlocks =
      info.yCropOffset * component.vSampFactor := rfl

theorem widthInBlocks_request
    (components : dst.components = (infos (image.processed t)).map (image.adjusted t))
    (component : ComponentInfo) : (image.request info dst component).widthInBlocks =
      jdivRoundUp (info.outputWidth * component.hSampFactor) (image.iMCUSampleWidth t) := by
  rw [request, widthInBlocks, components, maxHSampFactor_adjusted]

theorem heightInBlocks_request
    (components : dst.components = (infos (image.processed t)).map (image.adjusted t))
    (component : ComponentInfo) : (image.request info dst component).heightInBlocks =
      jdivRoundUp (info.outputHeight * component.vSampFactor) (image.iMCUSampleHeight t) := by
  rw [request, heightInBlocks, components, maxVSampFactor_adjusted]

/-- The workspace is padded to whole MCUs. -/
theorem room_workspaceArray (fitted : Fitted image t info)
    (components : dst.components = (infos (image.processed t)).map (image.adjusted t))
    (contents : ℕ → ℕ → Block) (component : Component) :
    Room (image.request info dst (image.adjusted t component.toComponentInfo))
      (workspaceArray info t.op contents component) := by
  have factors : (workspaceArray info t.op contents component).maxAccess =
        (image.adjusted t component.toComponentInfo).vSampFactor ∧
      (workspaceArray info t.op contents component).blocksPerRow =
        jdivRoundUp info.outputWidth (image.iMCUSampleWidth t) *
          (image.adjusted t component.toComponentInfo).hSampFactor ∧
      (workspaceArray info t.op contents component).rowsInArray =
        jdivRoundUp info.outputHeight (image.iMCUSampleHeight t) *
          (image.adjusted t component.toComponentInfo).vSampFactor := by
    simp only [workspaceArray, fitted.numComponents_eq, fitted.iMCUSampleWidth_eq,
      fitted.iMCUSampleHeight_eq, adjusted, forced]
    by_cases one : (image.processed t).length = 1
    · cases t.op.orientation.transpose <;>
        simp [one, ComponentInfo.single, ComponentInfo.transpose]
    · cases t.op.orientation.transpose <;> simp [one, ComponentInfo.transpose]
  rcases factors with ⟨access, blocksPerRow, rowsInArray⟩
  refine ⟨access.ge, ?_, ?_⟩
  · intro row below
    rw [heightInBlocks_request components] at below
    have group := div_lt_jdivRoundUp (image.iMCUSampleHeight_pos t) below
    rw [rowsInArray, vSampFactor_request, ← Nat.succ_mul]
    exact Nat.mul_le_mul_right _ group
  · intro column left
    rw [widthInBlocks_request components] at left
    have group := div_lt_jdivRoundUp (image.iMCUSampleWidth_pos t) left
    rw [blocksPerRow, hSampFactor_request, ← Nat.succ_mul]
    exact Nat.mul_le_mul_right _ group

theorem mirroredColumns_request
    (components : dst.components = (infos (image.processed t)).map (image.adjusted t))
    (component : ComponentInfo) :
    (image.request info dst component).mirroredColumns t.op =
      if t.op.orientation.flipX then
        image.turnedWidth t.op / image.iMCUSampleWidth t * component.hSampFactor
      else 0 := by
  rw [Request.mirroredColumns, Request.compWidth, request, turnedWidth, components,
    maxHSampFactor_adjusted]

theorem mirroredRows_request
    (components : dst.components = (infos (image.processed t)).map (image.adjusted t))
    (component : ComponentInfo) :
    (image.request info dst component).mirroredRows t.op =
      if t.op.orientation.flipY then
        image.turnedHeight t.op / image.iMCUSampleHeight t * component.vSampFactor
      else 0 := by
  rw [Request.mirroredRows, Request.compHeight, request, turnedHeight, components,
    maxVSampFactor_adjusted]

/-- The arrays of the source are padded to whole MCUs. -/
theorem reach_wholeImage (fitted : Fitted image t info)
    (components : dst.components = (infos (image.processed t)).map (image.adjusted t))
    (accepted : ¬image.RefusesGray t) {component : Component}
    (present : component ∈ image.processed t) (padding : ℕ → ℕ → Block) :
    Reach (image.request info dst (image.adjusted t component.toComponentInfo))
      t.op.orientation.transpose
      ((image.request info dst (image.adjusted t component.toComponentInfo)).mirroredColumns t.op)
      ((image.request info dst (image.adjusted t component.toComponentInfo)).mirroredRows t.op)
      (image.wholeImage padding component) := by
  have columns := columns_wholeImage accepted present padding
  have rows := rows_wholeImage accepted present padding
  have unitW := image.iMCUSampleWidth_pos t
  have unitH := image.iMCUSampleHeight_pos t
  rw [mirroredColumns_request components, mirroredRows_request components]
  constructor
  case columns_dvd =>
    split_ifs
    exacts [Nat.dvd_mul_left _ _, dvd_zero _]
  case rows_dvd =>
    split_ifs
    exacts [Nat.dvd_mul_left _ _, dvd_zero _]
  case columns_le =>
    refine le_trans ?_ columns
    split_ifs
    exacts [Nat.mul_le_mul_right _ (div_le_jdivRoundUp unitW), Nat.zero_le _]
  case rows_le =>
    refine le_trans ?_ rows
    split_ifs
    exacts [Nat.mul_le_mul_right _ (div_le_jdivRoundUp unitH), Nat.zero_le _]
  case access =>
    simp only [request, wholeImage, adjusted, forced]
    have vPos := component.vSampFactor_pos
    by_cases one : (image.processed t).length = 1
    · cases t.op.orientation.transpose <;>
        simpa [one, ComponentInfo.single, ComponentInfo.transpose, Nat.succ_le_iff] using vPos
    · cases t.op.orientation.transpose <;> simp [one, ComponentInfo.transpose]
  case width_le =>
    intro column left
    refine le_trans ?_ columns
    rw [widthInBlocks_request components] at left
    have group := div_lt_jdivRoundUp unitW left
    have placed := add_jdivRoundUp_le unitW fitted.width_le
    rw [xCropBlocks_request, hSampFactor_request, ← Nat.succ_mul, ← Nat.add_mul]
    exact Nat.mul_le_mul_right _ (by omega)
  case height_le =>
    intro row below
    refine le_trans ?_ rows
    rw [heightInBlocks_request components] at below
    have group := div_lt_jdivRoundUp unitH below
    have placed := add_jdivRoundUp_le unitH fitted.height_le
    rw [yCropBlocks_request, vSampFactor_request, ← Nat.succ_mul, ← Nat.add_mul]
    exact Nat.mul_le_mul_right _ (by omega)

end CoefficientImage

end IiifImage.Coefficients
