import IiifImage.Java.Method
import IiifImage.TurboJpeg.Library

/-!
# The native side of downscaling

The body of `downScaleJpegImage` in C.  What libjpeg does with the data is a parameter, so
that every stage of Epeg can end in each of its ways.  A crash of the virtual machine is an
end of its own, beside returning to Java and throwing a Java exception.  The Java arrays
are taken to be available.
-/

namespace IiifImage.Epeg

open Java TurboJpeg

variable {β : Type}

/-! ## Epeg -/

/-- `Epeg_Image`, with `pixels` for a pointer that is not `NULL`. -/
structure EpegImage (β : Type) where
  data : List β
  inWidth : ℤ
  inHeight : ℤ
  outWidth : ℤ
  outHeight : ℤ
  quality : ℤ
  pixels : Bool

/-- How `_epeg_encode` ends: with all of the output and code zero, or with an error before
or after some of the output has been stored. -/
inductive Written (β : Type) where
  | complete (output : List β)
  | failed (stored : Option (List β))

/-- The stages in which libjpeg runs.  No header is read if `_epeg_open_header` jumps to
its error label or memory is exhausted. -/
structure Stages (β : Type) where
  readHeader : List β → Option (ℤ × ℤ)
  decode : EpegImage β → ℤ
  scale : EpegImage β → ℤ
  encode : EpegImage β → Written β

/-- `epeg_memory_open`, with `none` for `NULL`. -/
def memoryOpen (stages : Stages β) (data : List β) : Option (EpegImage β) :=
  match stages.readHeader data with
  | none => none
  | some (width, height) =>
      if width < 1 then none
      else if height < 1 then none
      else some {
        data := data
        inWidth := width
        inHeight := height
        outWidth := width
        outHeight := height
        quality := 75
        pixels := false }

/-- The limits that `epeg_decode_size_set` imposes on one dimension. -/
def limitSize (requested size : ℤ) : ℤ :=
  if requested < 1 then 1
  else if requested > size then size
  else requested

/-- `epeg_decode_size_set`. -/
def decodeSizeSet (width height : ℤ) (im : EpegImage β) : EpegImage β :=
  if im.pixels then im
  else { im with
    outWidth := limitSize width im.inWidth
    outHeight := limitSize height im.inHeight }

/-- `epeg_quality_set`. -/
def qualitySet (quality : ℤ) (im : EpegImage β) : EpegImage β :=
  { im with quality := if quality < 0 then 0 else if quality > 100 then 100 else quality }

/-! ## The frame of the native function -/

/-- The functions of Epeg that take a handle. -/
inductive EpegFunction where
  | decodeSizeSet
  | qualitySet
  | memoryOutputSet
  | encode
  | close
  deriving DecidableEq, Repr

/-- What can be seen of a call from outside. -/
inductive Event where
  | epeg (function : EpegFunction) (isNull : Bool)
  | newByteArray (length : ℤ)
  deriving DecidableEq, Repr

/-- The local variables that Epeg writes to, and the calls so far. -/
structure Frame (β : Type) where
  destBuf : Option (List β) := none
  destSize : ℤ := -1
  events : List Event := []

/-- How a native function ends other than by returning. -/
inductive Abort where
  | thrown (exception : Throwable)
  | crashed
  deriving DecidableEq, Repr

/-- A native function. -/
abbrev Native (β α : Type) := Method Abort (Frame β) α

def log (event : Event) : Native β Unit :=
  modify fun frame => { frame with events := frame.events ++ [event] }

/-- Call a function of Epeg that dereferences its handle. -/
def onHandle {α : Type} (function : EpegFunction) (im : Option (EpegImage β))
    (body : EpegImage β → Native β α) : Native β α := do
  log (.epeg function im.isNone)
  match im with
  | some image => body image
  | none => throw .crashed

/-- `epeg_close`, which accepts `NULL`. -/
def close (im : Option (EpegImage β)) : Native β Unit := log (.epeg .close im.isNone)

/-- `epeg_encode`, with its codes. -/
def encode (stages : Stages β) (im : EpegImage β) : Native β ℤ := do
  let ret := stages.decode im
  if ret ≠ 0 then
    return if ret = 2 then 4 else 3
  else if stages.scale im ≠ 0 then
    return 1
  else match stages.encode im with
    | .complete output => do
        modify fun frame => { frame with destBuf := some output, destSize := output.length }
        return 0
    | .failed (some stored) => do
        modify fun frame => { frame with destBuf := some stored, destSize := stored.length }
        return 2
    | .failed none => return 2

/-- `NewByteArray` and `GetPrimitiveArrayCritical`.  An array of negative length is `NULL`,
and the access to its elements is not checked. -/
def newByteArray (length : ℤ) : Native β Unit := do
  log (.newByteArray length)
  if length < 0 then throw .crashed

/-- `memcpy(data, dest_buf, dest_size)`. -/
def copyOut (destBuf : Option (List β)) (destSize : ℤ) : Native β (List β) :=
  match destBuf with
  | some bytes => return bytes.take destSize.toNat
  | none => if destSize = 0 then return [] else throw .crashed

def downScaleJpegImage (stages : Stages β) (inData : List β) (width height quality : ℤ) :
    Native β (List β) := do
  let im := memoryOpen stages inData
  let im ← onHandle .decodeSizeSet im fun image => return some (decodeSizeSet width height image)
  let im ← onHandle .qualitySet im fun image => return some (qualitySet quality image)
  onHandle .memoryOutputSet im fun _ => return ()
  -- the code that `epeg_encode` returns is not looked at
  let _ ← onHandle .encode im (encode stages)
  close im
  let frame ← get
  newByteArray frame.destSize
  copyOut frame.destBuf frame.destSize

/-! ## Its runs -/

section Runs

variable {stages : Stages β} {inData : List β} {im : EpegImage β}

/-- What an encoding leaves in the output buffer. -/
def stored (stages : Stages β) (im : EpegImage β) : Option (List β) :=
  if stages.decode im ≠ 0 then none
  else if stages.scale im ≠ 0 then none
  else match stages.encode im with
    | .complete output => some output
    | .failed stored => stored

/-- The local variables once the buffer has been filled. -/
def Frame.receive (frame : Frame β) : Option (List β) → Frame β
  | some bytes => { frame with destBuf := some bytes, destSize := bytes.length }
  | none => frame

theorem run_encode (stages : Stages β) (im : EpegImage β) (frame : Frame β) :
    ∃ code, EStateM.run (encode stages im) frame = .ok code (frame.receive (stored stages im)) := by
  rw [encode, stored]
  split
  · exact ⟨_, rfl⟩
  split
  · exact ⟨_, rfl⟩
  cases stages.encode im with
  | complete output => exact ⟨_, rfl⟩
  | failed stored =>
      cases stored with
      | none => exact ⟨_, rfl⟩
      | some bytes => exact ⟨_, rfl⟩

def configured (width height quality : ℤ) (im : EpegImage β) : EpegImage β :=
  qualitySet quality (decodeSizeSet width height im)

/-- The calls that take a handle, on one that is not `NULL`. -/
def handleEvents : List Event :=
  [.epeg .decodeSizeSet false, .epeg .qualitySet false, .epeg .memoryOutputSet false,
    .epeg .encode false, .epeg .close false]

/-- Without a handle the first call crashes. -/
theorem run_of_null (null : memoryOpen stages inData = none) (width height quality : ℤ) :
    EStateM.run (downScaleJpegImage stages inData width height quality) {} =
      .error .crashed { events := [.epeg .decodeSizeSet true] } := by
  rw [downScaleJpegImage, null]
  rfl

/-- With a handle the end depends on what the encoding has stored. -/
theorem run_of_opened (opened : memoryOpen stages inData = some im)
    (width height quality : ℤ) :
    EStateM.run (downScaleJpegImage stages inData width height quality) {} =
      match stored stages (configured width height quality im) with
      | some bytes => .ok bytes ⟨some bytes, bytes.length,
          handleEvents ++ [.newByteArray bytes.length]⟩
      | none => .error .crashed ⟨none, -1, handleEvents ++ [.newByteArray (-1)]⟩ := by
  have run : EStateM.run (downScaleJpegImage stages inData width height quality) {} =
      EStateM.run (do
        let _ ← encode stages (configured width height quality im)
        close (some (configured width height quality im))
        let frame ← get
        newByteArray frame.destSize
        copyOut frame.destBuf frame.destSize) { events := handleEvents.take 4 } := by
    rw [downScaleJpegImage, opened]
    rfl
  obtain ⟨code, encoded⟩ := run_encode stages (configured width height quality im)
    { events := handleEvents.take 4 }
  rw [run, Method.run_bind_ok encoded]
  cases stored stages (configured width height quality im) with
  | none => rfl
  | some bytes =>
      have whole : bytes.take (bytes.length : ℤ).toNat = bytes := by simp
      have nonneg : ¬((bytes.length : ℤ) < 0) := by omega
      simp only [Frame.receive, close, log, newByteArray, copyOut, if_neg nonneg, whole,
        bind_assoc, pure_bind, Method.run_modify_bind, Method.run_get_bind]
      rfl

theorem stored_of_complete {output : List β} (decoded : stages.decode im = 0)
    (scaled : stages.scale im = 0) (written : stages.encode im = .complete output) :
    stored stages im = some output := by
  rw [stored, if_neg (not_not_intro decoded), if_neg (not_not_intro scaled), written]

end Runs

/-! ## What a failure looks like from Java -/

section Failures

variable {stages : Stages β} {inData : List β} {width height quality : ℤ}

/-- `epeg_memory_open` returns a handle and `epeg_encode` zero, with all of the output in
the buffer. -/
def Encodes (stages : Stages β) (inData : List β) (width height quality : ℤ)
    (output : List β) : Prop :=
  ∃ im, memoryOpen stages inData = some im ∧
    stages.decode (configured width height quality im) = 0 ∧
    stages.scale (configured width height quality im) = 0 ∧
    stages.encode (configured width height quality im) = .complete output

/-- A run returns a complete output or throws, and makes no call with a `NULL` handle or
for an array of negative length. -/
structure ReportsFailure (stages : Stages β) (inData : List β) (width height quality : ℤ)
    (result : EStateM.Result Abort (Frame β) (List β)) : Prop where
  ends : (∃ output frame, result = .ok output frame ∧
      Encodes stages inData width height quality output) ∨
    ∃ exception frame, result = .error (.thrown exception) frame
  handles : ∀ function, .epeg function true ∉ (Method.finalState result).events
  lengths : ∀ length, .newByteArray length ∈ (Method.finalState result).events → 0 ≤ length

/-- Failures are never reported: the function behaves well exactly if nothing fails. -/
theorem reportsFailure_iff (stages : Stages β) (inData : List β) (width height quality : ℤ) :
    ReportsFailure stages inData width height quality
        (EStateM.run (downScaleJpegImage stages inData width height quality) {}) ↔
      ∃ output, Encodes stages inData width height quality output := by
  constructor
  · intro reports
    rcases reports.ends with ⟨output, frame, -, encodes⟩ | ⟨exception, frame, thrown⟩
    · exact ⟨output, encodes⟩
    · cases opened : memoryOpen stages inData with
      | none =>
          rw [run_of_null opened] at thrown
          cases thrown
      | some im =>
          rw [run_of_opened opened] at thrown
          split at thrown
          · cases thrown
          · cases thrown
  · intro succeeds
    rcases succeeds with ⟨output, im, opened, decoded, scaled, written⟩
    have encodes : Encodes stages inData width height quality output :=
      ⟨im, opened, decoded, scaled, written⟩
    have run := run_of_opened opened width height quality
    rw [stored_of_complete decoded scaled written] at run
    rw [run]
    refine ⟨.inl ⟨output, _, rfl, encodes⟩, ?_, ?_⟩
    · intro function null
      simp [handleEvents] at null
    · intro length asked
      simp [handleEvents] at asked
      omega

/-! The three ways in which it goes wrong. -/

/-- The stages on a file whose header cannot be read. -/
def unreadable : Stages (BitVec 8) where
  readHeader _ := none
  decode _ := 0
  scale _ := 0
  encode _ := .complete []

/-- The stages on a file of 16 by 16 pixels on which libjpeg gives up, while it decodes or
after some of the output. -/
def truncated (decode : ℤ) (stored : Option (List (BitVec 8))) : Stages (BitVec 8) where
  readHeader _ := some (16, 16)
  decode _ := decode
  scale _ := 0
  encode _ := .failed stored

/-- A file that has the marker but no readable header makes the machine crash, as does
one that cannot be decoded, and a partial output is returned as if it were complete. -/
theorem failures_not_reported :
    (EStateM.run (downScaleJpegImage unreadable [0xFF, 0xD8] 8 8 75) {} =
        .error .crashed { events := [.epeg .decodeSizeSet true] } ∧
      ¬ReportsFailure unreadable [0xFF, 0xD8] 8 8 75
        (EStateM.run (downScaleJpegImage unreadable [0xFF, 0xD8] 8 8 75) {})) ∧
    EStateM.run (downScaleJpegImage (truncated 2 none) [0xFF, 0xD8] 8 8 75) {} =
      .error .crashed ⟨none, -1, handleEvents ++ [.newByteArray (-1)]⟩ ∧
    EStateM.run (downScaleJpegImage (truncated 0 (some [0xFF, 0xD8])) [0xFF, 0xD8] 8 8 75) {} =
      .ok [0xFF, 0xD8] ⟨some [0xFF, 0xD8], 2, handleEvents ++ [.newByteArray 2]⟩ := by
  refine ⟨⟨rfl, ?_⟩, rfl, rfl⟩
  rw [reportsFailure_iff]
  rintro ⟨output, im, opened, -⟩
  cases opened

end Failures

end IiifImage.Epeg
