import Mathlib.Algebra.Group.Action.Basic
import Mathlib.Tactic.FinCases
import IiifImage.Backend.JpegImage

/-!
# Sequences of orientation calls

`JpegImage` has one slot for a pending operation and each call overwrites it.  A
sequence of calls therefore asks for the product of its operations and gets the last
one, so the two agree when the overwritten operations cancel.
-/

namespace IiifImage.JpegImage

open Java TurboJpeg

/-- A call of one of the methods that reorient an image. -/
inductive OrientationCall where
  | rotate (quarters : Fin 4)
  | flipHorizontal
  | flipVertical
  | transpose
  | transverse
  deriving DecidableEq, Repr

namespace OrientationCall

def method {δ : Type} : OrientationCall → Method Throwable (JpegImage δ) Unit
  | rotate quarters => JpegImage.rotate (90 * (quarters : ℤ))
  | flipHorizontal => JpegImage.flipHorizontal
  | flipVertical => JpegImage.flipVertical
  | transpose => JpegImage.transpose
  | transverse => JpegImage.transverse

/-- The symmetry that the caller asks for. -/
def requested : OrientationCall → Orientation
  | rotate quarters => Orientation.quarterTurn ^ (quarters : ℕ)
  | flipHorizontal => .mirrorColumns
  | flipVertical => .mirrorRows
  | transpose => .mainDiagonal
  | transverse => .otherDiagonal

/-- The operation that the call records, if any. -/
def recorded : OrientationCall → Option TJOp
  | rotate 0 => none
  | rotate 1 => some .rot90
  | rotate 2 => some .rot180
  | rotate 3 => some .rot270
  | flipHorizontal => some .hflip
  | flipVertical => some .vflip
  | transpose => some .transpose
  | transverse => some .transverse

/-- A call that records nothing asks for nothing. -/
theorem requested_of_unrecorded {call : OrientationCall}
    (unrecorded : call.recorded = none) : call.requested = 1 := by
  cases call with
  | rotate quarters =>
      fin_cases quarters <;> first | rfl | cases unrecorded
  | flipHorizontal | flipVertical | transpose | transverse => cases unrecorded

/-- A recorded operation is the one that the caller asks for. -/
theorem requested_of_recorded {call : OrientationCall} {op : TJOp}
    (recorded : call.recorded = some op) : op.orientation = call.requested := by
  cases call with
  | rotate quarters =>
      fin_cases quarters <;> first | cases recorded; rfl | cases recorded
  | flipHorizontal | flipVertical | transpose | transverse =>
      cases recorded
      rfl

/-- Only a rotation by zero records nothing. -/
theorem exists_recorded {call : OrientationCall} (turns : call ≠ .rotate 0) :
    ∃ op, call.recorded = some op := by
  cases call with
  | rotate quarters =>
      fin_cases quarters <;> first | exact ⟨_, rfl⟩ | exact absurd rfl turns
  | flipHorizontal | flipVertical | transpose | transverse => exact ⟨_, rfl⟩

/-- One call overwrites the slot or leaves it alone. -/
theorem run_method {δ : Type} (call : OrientationCall) (image : JpegImage δ) :
    EStateM.run call.method image = .ok ()
      { image with transformOptions := { image.transformOptions with
          op := call.recorded.getD image.transformOptions.op } } := by
  cases call with
  | rotate quarters => fin_cases quarters <;> rfl
  | flipHorizontal | flipVertical | transpose | transverse => rfl

end OrientationCall

/-! ## Sequences -/

/-- Make the calls one after the other. -/
def runCalls {δ : Type} : List OrientationCall → Method Throwable (JpegImage δ) Unit
  | [] => pure ()
  | call :: calls => do
      call.method
      runCalls calls

/-- The symmetry that a sequence of calls asks for. -/
def product : List OrientationCall → Orientation
  | [] => 1
  | call :: calls => product calls * call.requested

/-- The operations that a sequence of calls records, one after the other. -/
def operations (calls : List OrientationCall) : List TJOp :=
  calls.filterMap OrientationCall.recorded

/-- The last of a list of operations, which is the one that stays in the slot. -/
def lastOperation (ops : List TJOp) : TJOp := ops.getLast?.getD .none

/-- The symmetry of operations that are carried out one after the other. -/
def composed : List TJOp → Orientation
  | [] => 1
  | op :: ops => composed ops * op.orientation

theorem composed_append (first second : List TJOp) :
    composed (first ++ second) = composed second * composed first := by
  induction first with
  | nil => exact (mul_one _).symm
  | cons op ops ih => rw [List.cons_append, composed, ih, composed, mul_assoc]

/-- A list of operations is its last one after those before it. -/
theorem composed_eq (ops : List TJOp) :
    composed ops = (lastOperation ops).orientation * composed ops.dropLast := by
  cases last : ops.getLast? with
  | none =>
      rw [List.getLast?_eq_none_iff] at last
      subst last
      rfl
  | some op =>
      rcases List.getLast?_eq_some_iff.mp last with ⟨before, rfl⟩
      rw [composed_append, List.dropLast_concat, lastOperation, last]
      exact congrArg (· * composed before) (one_mul op.orientation)

/-- The calls ask for what the recorded operations amount to. -/
theorem product_eq_composed (calls : List OrientationCall) :
    product calls = composed (operations calls) := by
  induction calls with
  | nil => rfl
  | cons call calls ih =>
      cases recorded : call.recorded with
      | none =>
          rw [product, OrientationCall.requested_of_unrecorded recorded, mul_one, ih,
            operations, operations, List.filterMap_cons_none recorded]
      | some op =>
          rw [product, ih, operations, operations, List.filterMap_cons_some recorded,
            composed, OrientationCall.requested_of_recorded recorded]

/-- After a sequence of calls the slot holds the last recorded operation. -/
theorem run_runCalls {δ : Type} (calls : List OrientationCall) (image : JpegImage δ) :
    EStateM.run (runCalls calls) image = .ok ()
      { image with transformOptions := { image.transformOptions with
          op := (operations calls).getLast?.getD image.transformOptions.op } } := by
  induction calls generalizing image with
  | nil => rfl
  | cons call calls ih =>
      rw [runCalls, Method.run_bind_ok (call.run_method image), ih]
      cases recorded : call.recorded with
      | none =>
          rw [operations, operations, List.filterMap_cons_none recorded]
          rfl
      | some op =>
          rw [operations, operations, List.filterMap_cons_some recorded,
            List.getLast?_cons]
          rfl

/-! ## The composition law -/

section Composition

variable {α : Type} {luma : α → α} {scaler : Scaler α} {jpeg : Jpeg α} {subsamp : Subsamp}

/-- A transform after a sequence of calls turns the source by the last recorded
operation. -/
theorem yields_calls_iff (typed : jpeg.getSubsamp = some subsamp)
    (calls : List OrientationCall) (raster : Raster α) :
    Yields (do runCalls calls; transform (library luma scaler)) (holding jpeg subsamp {})
        raster ↔
      (lastOperation (operations calls)).orientation • jpeg.raster = raster ∧
        (subsamp.turned (lastOperation (operations calls)).orientation).isSome = true ∧
        0 ≤ tjBufSize jpeg.raster.width jpeg.raster.height subsamp := by
  have recorded := run_runCalls calls (holding jpeg subsamp {})
  have pending : Yields (do runCalls calls; transform (library luma scaler))
        (holding jpeg subsamp {}) raster ↔
      Yields (transform (library luma scaler))
        (holding jpeg subsamp { op := lastOperation (operations calls) }) raster := by
    rw [Yields]
    rw [Method.run_bind_ok recorded]
    rfl
  obtain ⟨out, transformed, outRaster, outSubsamp⟩ := Jpeg.tjTransform_uncropped
    luma (t := { op := lastOperation (operations calls) }) typed
    (TJTransform.hasCrop_of_no_options rfl) (TJTransform.hasGray_of_no_options rfl)
  rw [pending, yields_transform_iff typed, destinationFits_unbounded rfl rfl]
  constructor
  · intro yielded
    rcases yielded with ⟨fits, _, transformed', known, rfl⟩
    rw [transformed] at transformed'
    cases transformed'
    exact ⟨outRaster.symm, outSubsamp ▸ known, fits⟩
  · intro turned
    rcases turned with ⟨rfl, known, fits⟩
    exact ⟨fits, out, transformed, outSubsamp ▸ known, outRaster⟩

theorem turned_isSome_iff (subsamp : Subsamp) (orientation : Orientation) :
    (subsamp.turned orientation).isSome = true ↔
      ¬(subsamp = .samp411 ∧ orientation.transpose = true) := by
  rw [Subsamp.turned]
  cases orientation.transpose <;> cases subsamp <;> decide

/-- A sequence of calls records the product of what it asks for exactly when the
overwritten operations cancel, and the following transform delivers that product
exactly when the overwritten operations leave the source unchanged, the file that is
written can be read again and the destination buffer can be allocated. -/
theorem orientations_compose_iff {image : JpegImage (Jpeg α)}
    (created : create (library luma scaler) jpeg = .ok image)
    (calls : List OrientationCall) :
    ((Method.finalState (EStateM.run (runCalls calls) image)).transformOptions.op.orientation =
        product calls ↔ composed (operations calls).dropLast = 1) ∧
      (Yields (do runCalls calls; transform (library luma scaler)) image
          (product calls • jpeg.raster) ↔
        composed (operations calls).dropLast • jpeg.raster = jpeg.raster ∧
          ¬(image.decomp.subsamp = .samp411 ∧
            (lastOperation (operations calls)).orientation.transpose = true) ∧
          0 ≤ tjBufSize image.decomp.width image.decomp.height image.decomp.subsamp) := by
  rcases create_library_iff.mp created with ⟨subsamp, typed, rfl⟩
  have split : product calls = (lastOperation (operations calls)).orientation *
      composed (operations calls).dropLast := by
    rw [product_eq_composed, ← composed_eq]
  constructor
  · have slot : (Method.finalState (EStateM.run (runCalls calls)
        (holding jpeg subsamp {}))).transformOptions.op = lastOperation (operations calls) := by
      rw [run_runCalls]
      rfl
    rw [slot, split, left_eq_mul]
  · rw [yields_calls_iff typed, split, mul_smul, turned_isSome_iff]
    have cancels : (lastOperation (operations calls)).orientation • jpeg.raster =
        (lastOperation (operations calls)).orientation •
          composed (operations calls).dropLast • jpeg.raster ↔
        composed (operations calls).dropLast • jpeg.raster = jpeg.raster := by
      rw [smul_left_cancel_iff, eq_comm]
    rw [cancels]
    rfl

/-- Mirroring and then rotating by a right angle delivers the image rotated but not
mirrored. -/
theorem mirror_then_rotate_not_composed :
    let source := Jpeg.labelled 16 8 .samp444 (by decide) (by decide) (by decide) (by decide)
    let calls := [OrientationCall.flipHorizontal, .rotate 1]
    create (library id Scaler.nearest) source = .ok (holding source .samp444 {}) ∧
      ¬Yields (do runCalls calls; transform (library id Scaler.nearest))
        (holding source .samp444 {}) (product calls • source.raster) := by
  refine ⟨create_library (Jpeg.getSubsamp_labelled _ _ _ _ _), ?_⟩
  rw [yields_calls_iff (Jpeg.getSubsamp_labelled _ _ _ _ _)]
  intro yielded
  rcases yielded with ⟨same, _⟩
  have corner := congrArg (fun raster => raster.pixel 0 0) same
  revert corner
  decide

/-- Two mirrorings cancel before the image is rotated. -/
theorem orientations_compose_cancelling :
    let source := Jpeg.labelled 16 8 .samp444 (by decide) (by decide) (by decide) (by decide)
    let calls := [OrientationCall.flipHorizontal, .flipHorizontal, .rotate 1]
    Yields (do runCalls calls; transform (library id Scaler.nearest))
      (holding source .samp444 {}) (product calls • source.raster) :=
  ((orientations_compose_iff (create_library (Jpeg.getSubsamp_labelled _ _ _ _ _))
    [.flipHorizontal, .flipHorizontal, .rotate 1]).2).mpr
      ⟨one_smul Orientation _, by decide, by decide⟩

end Composition

end IiifImage.JpegImage
