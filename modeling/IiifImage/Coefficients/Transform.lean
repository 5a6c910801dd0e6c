import IiifImage.Coefficients.Routines

/-!
# Transforming an image of coefficients

`tjTransform` of `turbojpeg.c` with one transform, on top of the workspace, the
parameters and the routines of `transupp.c`.  The library version is one without
`min_DCT_h_scaled_size`, so that all blocks have `DCTSIZE` rows and columns.  The outer
`none` stands for an access outside an array.
-/

namespace IiifImage.Coefficients

open TurboJpeg Arrays
open scoped Matrix

/-- What `jtransform_request_workspace` stores in `jpeg_transform_info`. -/
structure TransformInfo where
  numComponents : ℕ
  outputWidth : ℕ
  outputHeight : ℕ
  iMCUSampleWidth : ℕ
  iMCUSampleHeight : ℕ
  xCropOffset : ℕ
  yCropOffset : ℕ
  outputWidth_pos : 0 < outputWidth
  outputHeight_pos : 0 < outputHeight
  outputWidth_le : outputWidth ≤ maxDimension
  outputHeight_le : outputHeight ≤ maxDimension

/-- The parameters of the destination that `jtransform_adjust_parameters` leaves in
`dstinfo`. -/
structure DstInfo where
  colorspace : Colorspace
  components : List ComponentInfo
  length_components : components.length = numComponents colorspace

/-- The blocks that no file defines: those in the padding of the arrays that were read
and those that a workspace holds at first, by component, row and column. -/
structure Undefined where
  padding : ℕ → ℕ → ℕ → Block
  workspace : ℕ → ℕ → ℕ → Block

def Undefined.cleared : Undefined where
  padding _ _ _ _ _ := default
  workspace _ _ _ _ _ := default

namespace ComponentInfo

/-- The factors that are forced on a single component. -/
def single (component : ComponentInfo) : ComponentInfo :=
  { component with
    hSampFactor := 1
    vSampFactor := 1
    hSampFactor_pos := Nat.one_pos
    vSampFactor_pos := Nat.one_pos }

/-- `transpose_critical_parameters` for a component. -/
def transpose (component : ComponentInfo) : ComponentInfo where
  hSampFactor := component.vSampFactor
  vSampFactor := component.hSampFactor
  quantTable := component.quantTableᵀ
  hSampFactor_pos := component.vSampFactor_pos
  vSampFactor_pos := component.hSampFactor_pos

end ComponentInfo

namespace CoefficientImage

variable (image : CoefficientImage)

/-! ## Subsampling -/

/-- The components after the first have the given factors, but in YCCK the fourth has
the factors of the first. -/
def restSampled (first : ComponentInfo) (rest : List ComponentInfo) (href vref : ℕ) : Bool :=
  (rest.zipIdx 1).all fun (component, k) =>
    if image.colorspace = .ycck ∧ k = 3 then
      component.hSampFactor = first.hSampFactor ∧ component.vSampFactor = first.vSampFactor
    else component.hSampFactor = href ∧ component.vSampFactor = vref

/-- An image has a level of subsampling, in the standard way or as a non-standard 4:2:2
or 4:4:0. -/
def sampledAs (subsamp : Subsamp) : Bool :=
  match infos image.components with
  | [] => false
  | first :: rest =>
      (first.hSampFactor = subsamp.mcuWidth / 8 ∧ first.vSampFactor = subsamp.mcuHeight / 8 ∧
        image.restSampled first rest 1 1) ∨
      (first.hSampFactor = 2 ∧ first.vSampFactor = 2 ∧
        (subsamp = .samp422 ∨ subsamp = .samp440) ∧
        image.restSampled first rest (subsamp.mcuHeight / 8) (subsamp.mcuWidth / 8))

def getSubsamp : Option Subsamp :=
  if image.colorspace = .gray then some .gray
  else [Subsamp.samp444, .samp422, .samp420, .samp440, .samp411].find? image.sampledAs

/-! ## Workspace -/

/-- The components that a transform processes. -/
def processed (t : TJTransform) : List Component :=
  if t.hasGray ∧ image.colorspace = .ycbcr then image.components.take 1 else image.components

/-- `output_width` before cropping. -/
def turnedWidth (op : TJOp) : ℕ := if op.orientation.transpose then image.height else image.width

def turnedHeight (op : TJOp) : ℕ := if op.orientation.transpose then image.width else image.height

def iMCUSampleWidth (t : TJTransform) : ℕ :=
  if (image.processed t).length = 1 then dctSize
  else (if t.op.orientation.transpose then image.maxV else image.maxH) * dctSize

def iMCUSampleHeight (t : TJTransform) : ℕ :=
  if (image.processed t).length = 1 then dctSize
  else (if t.op.orientation.transpose then image.maxH else image.maxV) * dctSize

theorem turnedWidth_pos (op : TJOp) : 0 < image.turnedWidth op := by
  rw [turnedWidth]
  split_ifs
  exacts [image.height_pos, image.width_pos]

theorem turnedHeight_pos (op : TJOp) : 0 < image.turnedHeight op := by
  rw [turnedHeight]
  split_ifs
  exacts [image.width_pos, image.height_pos]

theorem turnedWidth_le (op : TJOp) : image.turnedWidth op ≤ maxDimension := by
  rw [turnedWidth]
  split_ifs
  exacts [image.height_le, image.width_le]

theorem turnedHeight_le (op : TJOp) : image.turnedHeight op ≤ maxDimension := by
  rw [turnedHeight]
  split_ifs
  exacts [image.width_le, image.height_le]

/-- `jtransform_request_workspace` with its results. -/
def requestWorkspace (t : TJTransform) : Except Throwable TransformInfo :=
  if t.hasCrop then
    match Jpeg.cropArea t (image.turnedWidth t.op) (image.turnedHeight t.op) with
    | none => .error (.tj (some "Invalid crop request"))
    | some area => .ok {
        numComponents := (image.processed t).length
        outputWidth := area.rect.width + area.rect.x % image.iMCUSampleWidth t
        outputHeight := area.rect.height + area.rect.y % image.iMCUSampleHeight t
        iMCUSampleWidth := image.iMCUSampleWidth t
        iMCUSampleHeight := image.iMCUSampleHeight t
        xCropOffset := area.rect.x / image.iMCUSampleWidth t
        yCropOffset := area.rect.y / image.iMCUSampleHeight t
        outputWidth_pos := Nat.add_pos_left area.wide _
        outputHeight_pos := Nat.add_pos_left area.tall _
        outputWidth_le := by
          have inside := area.inside.1
          have within := Nat.mod_le area.rect.x (image.iMCUSampleWidth t)
          have small := image.turnedWidth_le t.op
          omega
        outputHeight_le := by
          have inside := area.inside.2
          have within := Nat.mod_le area.rect.y (image.iMCUSampleHeight t)
          have small := image.turnedHeight_le t.op
          omega }
  else .ok {
    numComponents := (image.processed t).length
    outputWidth := image.turnedWidth t.op
    outputHeight := image.turnedHeight t.op
    iMCUSampleWidth := image.iMCUSampleWidth t
    iMCUSampleHeight := image.iMCUSampleHeight t
    xCropOffset := 0
    yCropOffset := 0
    outputWidth_pos := image.turnedWidth_pos t.op
    outputHeight_pos := image.turnedHeight_pos t.op
    outputWidth_le := image.turnedWidth_le t.op
    outputHeight_le := image.turnedHeight_le t.op }

def workspaceArray (info : TransformInfo) (op : TJOp) (contents : ℕ → ℕ → Block)
    (component : Component) : VirtualArray :=
  let hSampFactor :=
    if info.numComponents = 1 then 1
    else if op.orientation.transpose then component.vSampFactor else component.hSampFactor
  let vSampFactor :=
    if info.numComponents = 1 then 1
    else if op.orientation.transpose then component.hSampFactor else component.vSampFactor
  { blocksPerRow := jdivRoundUp info.outputWidth info.iMCUSampleWidth * hSampFactor
    rowsInArray := jdivRoundUp info.outputHeight info.iMCUSampleHeight * vSampFactor
    maxAccess := vSampFactor
    memory := contents }

/-! ## Parameters -/

/-- The forcing of sampling factors and colour space in `jtransform_adjust_parameters`,
before the axes are exchanged. -/
def forceParameters (t : TJTransform) (info : TransformInfo) : Except Throwable DstInfo :=
  if t.hasGray then
    match image.components with
    | [] => .error (.tj (some "Unsupported color conversion request"))
    | first :: _ =>
        if (image.colorspace = .ycbcr ∨ image.colorspace = .gray) ∧
            first.hSampFactor = image.maxH ∧ first.vSampFactor = image.maxV then
          .ok ⟨.gray, [first.toComponentInfo.single], rfl⟩
        else .error (.tj (some "Unsupported color conversion request"))
  else if info.numComponents = 1 then
    .ok ⟨image.colorspace, (infos image.components).map ComponentInfo.single, by
      rw [infos, List.length_map, List.length_map, image.length_components]⟩
  else
    .ok ⟨image.colorspace, infos image.components, by
      rw [infos, List.length_map, image.length_components]⟩

/-- `jtransform_adjust_parameters`. -/
def adjustParameters (t : TJTransform) (info : TransformInfo) : Except Throwable DstInfo := do
  let forced ← image.forceParameters t info
  if t.op.orientation.transpose then
    return { forced with
      components := forced.components.map ComponentInfo.transpose
      length_components := by rw [List.length_map, forced.length_components] }
  else return forced

/-! ## Execution -/

/-- What the routines know of a component. -/
def request (info : TransformInfo) (dst : DstInfo) (component : ComponentInfo) : Request where
  hSampFactor := component.hSampFactor
  vSampFactor := component.vSampFactor
  widthInBlocks := widthInBlocks info.outputWidth dst.components component
  heightInBlocks := heightInBlocks info.outputHeight dst.components component
  maxHSampFactor := maxHSampFactor dst.components
  maxVSampFactor := maxVSampFactor dst.components
  outputWidth := image.width
  outputHeight := image.height
  xCropOffset := info.xCropOffset
  yCropOffset := info.yCropOffset
  hSampFactor_pos := component.hSampFactor_pos
  vSampFactor_pos := component.vSampFactor_pos

end CoefficientImage

/-- `jtransform_execute_transform` for a component, with the array that is encoded
afterwards. -/
def executeTransform (op : TJOp) (request : Request) (source workspace : VirtualArray) :
    Option VirtualArray :=
  match op with
  | .none =>
      if request.xCropOffset ≠ 0 ∨ request.yCropOffset ≠ 0 then
        performAll source workspace request.doCrop
      else some source
  | .hflip =>
      if request.yCropOffset ≠ 0 then performAll source workspace request.doFlipH
      else request.doFlipHNoCrop source
  | .vflip => performAll source workspace request.doFlipV
  | .transpose => performAll source workspace request.doTranspose
  | .transverse => performAll source workspace request.doTransverse
  | .rot90 => performAll source workspace request.doRot90
  | .rot180 => performAll source workspace request.doRot180
  | .rot270 => performAll source workspace request.doRot270

namespace CoefficientImage

variable (image : CoefficientImage)

/-- The arrays that are encoded after the transform. -/
def executeAll (undefined : Undefined) (t : TJTransform) (info : TransformInfo) (dst : DstInfo) :
    Option (List VirtualArray) :=
  ((image.processed t).zip dst.components).zipIdx.mapM fun ((component, target), ci) =>
    executeTransform t.op (image.request info dst target)
      (image.wholeImage (undefined.padding ci) component)
      (workspaceArray info t.op (undefined.workspace ci) component)

end CoefficientImage

instance : Inhabited VirtualArray := ⟨⟨0, 0, 0, fun _ _ => default⟩⟩

/-- The component that is encoded from an array. -/
def encodeComponent (info : TransformInfo) (dst : DstInfo) (component : ComponentInfo)
    (array : VirtualArray) : Component where
  toComponentInfo := component
  blocks := Raster.ofFn (widthInBlocks info.outputWidth dst.components component)
    (heightInBlocks info.outputHeight dst.components component)
    fun column row => array.memory row column

/-- The components that are encoded have the parameters of the destination. -/
theorem infos_encode (info : TransformInfo) (dst : DstInfo) (arrays : List VirtualArray) :
    infos (dst.components.mapIdx fun ci component =>
      encodeComponent info dst component (arrays.getD ci default)) = dst.components := by
  apply List.ext_getElem?
  intro ci
  rw [infos, List.getElem?_map, List.getElem?_mapIdx]
  cases dst.components[ci]? <;> rfl

/-- `jpeg_write_coefficients`. -/
def writeCoefficients (info : TransformInfo) (dst : DstInfo) (arrays : List VirtualArray) :
    CoefficientImage where
  width := info.outputWidth
  height := info.outputHeight
  colorspace := dst.colorspace
  components := dst.components.mapIdx fun ci component =>
    encodeComponent info dst component (arrays.getD ci default)
  width_pos := info.outputWidth_pos
  height_pos := info.outputHeight_pos
  width_le := info.outputWidth_le
  height_le := info.outputHeight_le
  length_components := by rw [List.length_mapIdx, dst.length_components]
  width_blocks component present := by
    rw [infos_encode]
    rcases List.mem_mapIdx.mp present with ⟨ci, inside, rfl⟩
    rfl
  height_blocks component present := by
    rw [infos_encode]
    rcases List.mem_mapIdx.mp present with ⟨ci, inside, rfl⟩
    rfl

namespace CoefficientImage

/-- `tjTransform` with one transform. -/
def tjTransform (undefined : Undefined) (image : CoefficientImage) (t : TJTransform) :
    Option (Except Throwable CoefficientImage) :=
  match image.getSubsamp with
  | none => some (.error (.tj (some ("tjTransform(): Could not determine subsampling type " ++
      "for JPEG image"))))
  | some _ =>
      match image.requestWorkspace t with
      | .error problem => some (.error problem)
      | .ok info =>
          if t.hasCrop ∧ ¬(Jpeg.jdimension t.x % info.iMCUSampleWidth = 0 ∧
              Jpeg.jdimension t.y % info.iMCUSampleHeight = 0) then
            some (.error (.tj (some ("To crop this JPEG image, x must be a multiple of " ++
              toString info.iMCUSampleWidth ++ "\nand y must be a multiple of " ++
              toString info.iMCUSampleHeight ++ ".\n"))))
          else
            match image.adjustParameters t info with
            | .error problem => some (.error problem)
            | .ok dst => (image.executeAll undefined t info dst).map fun arrays =>
                .ok (writeCoefficients info dst arrays)

end CoefficientImage

end IiifImage.Coefficients
