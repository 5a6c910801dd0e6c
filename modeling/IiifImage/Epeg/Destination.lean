import Mathlib.Data.List.Range
import Mathlib.Data.Nat.Notation

/-!
# The destination of Epeg

The functions of `epeg_destination_mgr`, which collect the output of the compressor in
memory, with the two ways in which the compressor writes to a destination: byte by byte,
and the code of a block at once.  Memory is taken to be available.  A write outside the
buffer and the overflow of the size, after which anything may happen, are `none`.
-/

namespace IiifImage.Epeg

variable {β : Type}

/-- `struct epeg_destination_mgr` with `im->out.mem`, whose size is the length of its
data. -/
structure Destination (β : Type) where
  data : List β
  buf : ℕ → β
  nextOutputByte : ℕ
  freeInBuffer : ℕ

/-- What the compressor writes: a byte or the code of a block. -/
inductive Emission (β : Type) where
  | byte (value : β)
  | block (code : List β)

namespace Emission

def bytes : Emission β → List β
  | .byte value => [value]
  | .block code => code

/-- The code of a block does not fill the local buffer of the encoder, whose size is
`BUFSIZE`. -/
def Short : Emission β → Prop
  | .byte _ => True
  | .block code => code.length < 256

end Emission

namespace Destination

/-- `_jpeg_init_destination`, after `_epeg_encode` has cleared the memory. -/
def init (buf : ℕ → β) : Destination β where
  data := []
  buf := buf
  nextOutputByte := 0
  freeInBuffer := 65536

variable (dest : Destination β)

def held : List β := (List.range dest.nextOutputByte).map dest.buf

/-- `_jpeg_empty_output_buffer`. -/
def emptyOutputBuffer : Option (Destination β) :=
  if dest.data.length + 65536 ≤ 2147483647 then
    some { init dest.buf with data := dest.data ++ (List.range 65536).map dest.buf }
  else none

/-- `_jpeg_term_destination`, with the data. -/
def term : Option (List β) :=
  if dest.data.length + (65536 - dest.freeInBuffer) ≤ 2147483647 then
    some (dest.data ++ (List.range (65536 - dest.freeInBuffer)).map dest.buf)
  else none

/-- Write bytes at `next_output_byte` and advance. -/
def write (bytes : List β) : Option (Destination β) :=
  if dest.nextOutputByte + bytes.length ≤ 65536 then
    some { dest with
      buf := fun k =>
        if k < dest.nextOutputByte then dest.buf k
        else (bytes[k - dest.nextOutputByte]?).getD (dest.buf k)
      nextOutputByte := dest.nextOutputByte + bytes.length
      freeInBuffer := dest.freeInBuffer - bytes.length }
  else none

def emitByte (value : β) : Option (Destination β) := do
  let dest ← dest.write [value]
  if dest.freeInBuffer = 0 then dest.emptyOutputBuffer else some dest

/-- One turn of the loop of `STORE_BUFFER` over the bytes of a local buffer. -/
def storePart (bytes : List β) : Option (Destination β) := do
  let dest ← dest.write (bytes.take (min bytes.length dest.freeInBuffer))
  if dest.freeInBuffer = 0 then dest.emptyOutputBuffer else some dest

/-- A turn stores bytes or makes room for them. -/
theorem free_of_storePart {bytes : List β} {next : Destination β} (full : dest.freeInBuffer = 0)
    (stored : dest.storePart bytes = some next) : next.freeInBuffer = 65536 := by
  rcases Option.bind_eq_some_iff.mp stored with ⟨written, write, rest⟩
  rw [Destination.write] at write
  split_ifs at write
  cases write
  rw [if_pos (by simp [full]), emptyOutputBuffer] at rest
  split_ifs at rest
  cases rest
  rfl

/-- The loop of `STORE_BUFFER` over the bytes of a local buffer. -/
def storeLocal (dest : Destination β) (bytes : List β) : Option (Destination β) :=
  if bytes.length = 0 then some dest
  else
    match _ : dest.storePart bytes with
    | none => none
    | some next => next.storeLocal (bytes.drop (min bytes.length dest.freeInBuffer))
termination_by (bytes.length, if dest.freeInBuffer = 0 then 1 else 0)
decreasing_by
  rcases Nat.eq_zero_or_pos dest.freeInBuffer with full | free
  · have room := free_of_storePart dest full (by assumption)
    simp only [full, Nat.min_zero, List.drop_zero, room]
    exact Prod.Lex.right _ (by decide)
  · exact Prod.Lex.left _ _ (by rw [List.length_drop]; omega)

/-- `LOAD_BUFFER` and `STORE_BUFFER` around the code of a block. -/
def storeBlock (code : List β) : Option (Destination β) :=
  if dest.freeInBuffer < 256 then dest.storeLocal code else dest.write code

def emit : Emission β → Option (Destination β)
  | .byte value => dest.emitByte value
  | .block code => dest.storeBlock code

def emitAll (emissions : List (Emission β)) : Option (Destination β) :=
  emissions.foldlM emit dest

/-! ## What has been written -/

/-- The data and the buffer together hold what has been emitted. -/
structure Holds (dest : Destination β) (emitted : List β) : Prop where
  room : dest.nextOutputByte + dest.freeInBuffer = 65536
  contents : emitted = dest.data ++ dest.held
  chunks : 65536 ∣ dest.data.length

variable {dest} {emitted bytes : List β} {next : Destination β}

theorem holds_init (buf : ℕ → β) : (init buf).Holds [] where
  room := Nat.zero_add 65536
  contents := rfl
  chunks := Nat.dvd_zero 65536

theorem Holds.length_eq (holds : dest.Holds emitted) :
    emitted.length = dest.data.length + dest.nextOutputByte := by
  rw [holds.contents, List.length_append, held, List.length_map, List.length_range]

/-- The part of the output that has reached the memory. -/
theorem Holds.data_eq (holds : dest.Holds emitted) (free : 0 < dest.freeInBuffer) :
    dest.data = emitted.take (emitted.length / 65536 * 65536) := by
  rcases holds.chunks with ⟨count, length⟩
  have whole : emitted.length / 65536 * 65536 = dest.data.length := by
    have room := holds.room
    rw [holds.length_eq, length]
    omega
  rw [whole, holds.contents, List.take_left]

/-- Bytes that are written follow those in the buffer. -/
theorem Holds.write (holds : dest.Holds emitted) (written : dest.write bytes = some next) :
    next.Holds (emitted ++ bytes) ∧ next.freeInBuffer + bytes.length = dest.freeInBuffer := by
  have room := holds.room
  rw [Destination.write] at written
  split_ifs at written with fits
  cases written
  refine ⟨⟨?_, ?_, holds.chunks⟩, ?_⟩
  · dsimp only
    omega
  · have kept : (List.range dest.nextOutputByte).map (fun k =>
          if k < dest.nextOutputByte then dest.buf k
          else (bytes[k - dest.nextOutputByte]?).getD (dest.buf k)) = dest.held := by
      apply List.map_congr_left
      intro k inside
      exact if_pos (List.mem_range.mp inside)
    have added : (List.range bytes.length).map (fun k =>
          if dest.nextOutputByte + k < dest.nextOutputByte then
            dest.buf (dest.nextOutputByte + k)
          else (bytes[dest.nextOutputByte + k - dest.nextOutputByte]?).getD
            (dest.buf (dest.nextOutputByte + k))) = bytes := by
      apply List.ext_getElem
      · simp
      · intro k _ inside
        simp [inside]
    rw [holds.contents, List.append_assoc]
    congr 1
    dsimp only [held]
    rw [List.range_add, List.map_append, List.map_map]
    exact congrArg₂ _ kept.symm added.symm
  · dsimp only
    omega

/-- A full buffer is appended to the data. -/
theorem Holds.emptyOutputBuffer (holds : dest.Holds emitted) (full : dest.freeInBuffer = 0)
    (emptied : dest.emptyOutputBuffer = some next) :
    next.Holds emitted ∧ next.freeInBuffer = 65536 := by
  have room := holds.room
  rw [Destination.emptyOutputBuffer] at emptied
  split_ifs at emptied
  cases emptied
  refine ⟨⟨Nat.zero_add 65536, ?_, ?_⟩, rfl⟩
  · rw [holds.contents, held, show dest.nextOutputByte = 65536 by omega]
    exact (List.append_nil _).symm
  · dsimp only
    rw [List.length_append, List.length_map, List.length_range]
    exact Nat.dvd_add holds.chunks (Nat.dvd_refl 65536)

/-- A full buffer can be emptied unless the size overflows. -/
theorem Holds.emptyOutputBuffer_isSome (holds : dest.Holds emitted)
    (full : dest.freeInBuffer = 0) (small : emitted.length ≤ 2147483647) :
    ∃ next, dest.emptyOutputBuffer = some next := by
  have length := holds.length_eq
  have room := holds.room
  exact ⟨_, if_pos (by omega)⟩

/-- Bytes that fit are written, and the buffer is emptied when it is full. -/
theorem Holds.write_emptied (holds : dest.Holds emitted)
    (fits : bytes.length ≤ dest.freeInBuffer)
    (small : emitted.length + bytes.length ≤ 2147483647) :
    ∃ next, ((dest.write bytes).bind fun dest =>
        if dest.freeInBuffer = 0 then dest.emptyOutputBuffer else some dest) = some next ∧
      next.Holds (emitted ++ bytes) ∧ 0 < next.freeInBuffer := by
  have room := holds.room
  have written : dest.write bytes = some _ := if_pos (by omega)
  rcases holds.write written with ⟨holdsWritten, -⟩
  rw [written, Option.bind_some]
  split_ifs with full
  · rw [← List.length_append] at small
    rcases holdsWritten.emptyOutputBuffer_isSome full small with ⟨next, emptied⟩
    rcases holdsWritten.emptyOutputBuffer full emptied with ⟨holdsNext, free⟩
    exact ⟨next, emptied, holdsNext, by omega⟩
  · exact ⟨_, rfl, holdsWritten, Nat.pos_of_ne_zero full⟩

/-- A turn of the loop of `STORE_BUFFER` stores a first part of the bytes. -/
theorem Holds.storePart (holds : dest.Holds emitted)
    (small : emitted.length + bytes.length ≤ 2147483647) :
    ∃ next, dest.storePart bytes = some next ∧
      next.Holds (emitted ++ bytes.take (min bytes.length dest.freeInBuffer)) ∧
      0 < next.freeInBuffer := by
  have part : (bytes.take (min bytes.length dest.freeInBuffer)).length =
      min bytes.length dest.freeInBuffer := by
    rw [List.length_take]
    omega
  have fits : (bytes.take (min bytes.length dest.freeInBuffer)).length ≤ dest.freeInBuffer := by
    omega
  exact holds.write_emptied fits (by omega)

/-- The loop of `STORE_BUFFER` stores all bytes. -/
theorem Holds.storeLocal (holds : dest.Holds emitted)
    (small : emitted.length + bytes.length ≤ 2147483647) :
    ∃ next, dest.storeLocal bytes = some next ∧ next.Holds (emitted ++ bytes) ∧
      (0 < dest.freeInBuffer → 0 < next.freeInBuffer) := by
  fun_induction dest.storeLocal bytes generalizing emitted with
  | case1 dest bytes empty =>
      obtain rfl := List.length_eq_zero_iff.mp empty
      exact ⟨dest, rfl, (List.append_nil emitted).symm ▸ holds, id⟩
  | case2 dest bytes nonempty failed =>
      rcases holds.storePart small with ⟨next, stored, -⟩
      cases failed.symm.trans stored
  | case3 dest bytes nonempty next stored ih =>
      rcases holds.storePart small with ⟨next', stored', holdsNext, free⟩
      cases stored.symm.trans stored'
      have rest : (emitted ++ bytes.take (min bytes.length dest.freeInBuffer)).length +
          (bytes.drop (min bytes.length dest.freeInBuffer)).length ≤ 2147483647 := by
        rw [List.length_append, Nat.add_assoc, ← List.length_append, List.take_append_drop]
        exact small
      rcases ih holdsNext rest with ⟨final, run, holdsFinal, kept⟩
      rw [List.append_assoc, List.take_append_drop] at holdsFinal
      exact ⟨final, run, holdsFinal, fun _ => kept free⟩

/-- What the compressor emits is written, and room is left for the next byte. -/
theorem Holds.emit {emission : Emission β} (holds : dest.Holds emitted)
    (free : 0 < dest.freeInBuffer) (short : emission.Short)
    (small : emitted.length + emission.bytes.length ≤ 2147483647) :
    ∃ next, dest.emit emission = some next ∧ next.Holds (emitted ++ emission.bytes) ∧
      0 < next.freeInBuffer := by
  cases emission with
  | byte value => exact holds.write_emptied free small
  | block code =>
      change ∃ next, dest.storeBlock code = some next ∧ _
      rw [Destination.storeBlock]
      split_ifs with almostFull
      · rcases holds.storeLocal small with ⟨next, stored, holdsNext, kept⟩
        exact ⟨next, stored, holdsNext, kept free⟩
      · have room := holds.room
        have fits : code.length < 256 := short
        have written : dest.write code = some _ := if_pos (by omega)
        rcases holds.write written with ⟨holdsNext, left⟩
        exact ⟨_, written, holdsNext, by omega⟩

/-- A run of emissions. -/
theorem Holds.emitAll {emissions : List (Emission β)} (holds : dest.Holds emitted)
    (free : 0 < dest.freeInBuffer) (short : ∀ emission ∈ emissions, emission.Short)
    (small : emitted.length + (emissions.flatMap Emission.bytes).length ≤ 2147483647) :
    ∃ final, dest.emitAll emissions = some final ∧
      final.Holds (emitted ++ emissions.flatMap Emission.bytes) ∧ 0 < final.freeInBuffer := by
  induction emissions generalizing dest emitted with
  | nil => exact ⟨dest, rfl, (List.append_nil emitted).symm ▸ holds, free⟩
  | cons first rest ih =>
      rw [List.flatMap_cons, List.length_append] at small
      rcases holds.emit free (short first List.mem_cons_self) (by omega) with
        ⟨next, step, holdsNext, freeNext⟩
      have later : (emitted ++ first.bytes).length + (rest.flatMap Emission.bytes).length ≤
          2147483647 := by
        rw [List.length_append]
        omega
      rcases ih holdsNext freeNext
        (fun emission present => short emission (List.mem_cons_of_mem first present)) later with
        ⟨final, run, holdsFinal, freeFinal⟩
      refine ⟨final, ?_, ?_, freeFinal⟩
      · rw [Destination.emitAll, List.foldlM_cons, step]
        exact run
      · rw [List.flatMap_cons, ← List.append_assoc]
        exact holdsFinal

/-- What `_jpeg_term_destination` leaves. -/
theorem Holds.term (holds : dest.Holds emitted) (small : emitted.length ≤ 2147483647) :
    dest.term = some emitted := by
  have room := holds.room
  have length := holds.length_eq
  have pending : 65536 - dest.freeInBuffer = dest.nextOutputByte := by omega
  rw [Destination.term, pending, if_pos (by omega), holds.contents, held]

/-- After any output the memory holds exactly the bytes that were emitted, and before the
end those of whole buffers. -/
theorem emitAll_collects (buf : ℕ → β) {emissions : List (Emission β)}
    (short : ∀ emission ∈ emissions, emission.Short)
    (small : (emissions.flatMap Emission.bytes).length ≤ 2147483647) :
    ∃ final, (init buf).emitAll emissions = some final ∧
      final.term = some (emissions.flatMap Emission.bytes) ∧
      final.data = (emissions.flatMap Emission.bytes).take
        ((emissions.flatMap Emission.bytes).length / 65536 * 65536) := by
  have first : (init buf).Holds ([] : List β) := holds_init buf
  have free : 0 < (init buf).freeInBuffer := show 0 < 65536 by decide
  rcases first.emitAll free short (by rwa [List.length_nil, Nat.zero_add]) with
    ⟨final, run, holds, freeFinal⟩
  rw [List.nil_append] at holds
  exact ⟨final, run, holds.term small, holds.data_eq freeFinal⟩

/-- A byte more than the buffer holds, of which only the full buffer is written before the
end. -/
theorem emitAll_collects_full : ∃ final,
    (init fun _ => (0 : BitVec 8)).emitAll (List.replicate 65537 (.byte 0xFF)) = some final ∧
      final.term = some (List.replicate 65537 0xFF) ∧
      final.data = List.replicate 65536 0xFF := by
  have bytes : (List.replicate 65537 (Emission.byte (0xFF : BitVec 8))).flatMap Emission.bytes =
      List.replicate 65537 0xFF := by
    rw [List.flatMap_replicate]
    exact List.flatten_replicate_singleton
  have short : ∀ emission ∈ List.replicate 65537 (Emission.byte (0xFF : BitVec 8)),
      emission.Short := by
    intro emission present
    obtain rfl := List.eq_of_mem_replicate present
    trivial
  have collected := emitAll_collects (fun _ => (0 : BitVec 8)) short (by
    rw [bytes, List.length_replicate]
    decide)
  rw [bytes, List.length_replicate, List.take_replicate] at collected
  exact collected

end Destination

end IiifImage.Epeg
