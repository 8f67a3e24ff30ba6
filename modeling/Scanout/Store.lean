/-
A host that keeps its buffers in memory.

* `Store`: the buffers by their handles, and counts of what was done;
* `Store.buffer?`: the buffer with a handle, the one view through which operations are described;
* `Store.allocate`, `Store.free`, `Store.map`, `Store.unmap` and the rest of what a host does, but
  for copies;
* `Store.contents`: the bytes of a buffer.

Rows lie one after the other whatever tiling a buffer declares. A buffer is mapped at most once at
a time, and while it is it can be neither mapped, freed, copied nor read. Handles count up from
one, and none is given out twice. A host has thirty-two bits for them, which are enough until it
has been asked for `2 ^ 32` buffers, freed ones among them. What becomes of that request, and of
any after it, is left open: here handles go on counting.
-/
import Scanout.Backend

namespace Scanout

/-- A buffer in memory. -/
structure Buffer where
  bytes : Bytes
  tiling : Tiling
  stride : Nat
  /-- The mapping through which the CPU sees the buffer. -/
  mapping : Option Mapping
  deriving DecidableEq

/-- A fresh buffer: zero-filled, linear, without a stride, not mapped. -/
def Buffer.fresh (size : Nat) : Buffer :=
  ⟨Bytes.zeros size, .linear, 0, none⟩

/-- How often a store has done each thing. -/
structure Counters where
  allocations : Nat := 0
  frees : Nat := 0
  maps : Nat := 0
  unmaps : Nat := 0
  blits : Nat := 0
  cpuSyncs : Nat := 0
  gpuSyncs : Nat := 0
  deriving DecidableEq, Repr

/-- A host that keeps its buffers in memory. -/
structure Store where
  /-- The number that tells the mappings of this store from those of others. -/
  serial : Nat
  /-- The buffer of each handle that was given out, as long as it has not been freed. The first slot
  stays empty, since handles count from one. -/
  slots : Array (Option Buffer)
  counters : Counters
  deriving DecidableEq

namespace Store

/-- A store without buffers. -/
def empty (serial : Nat) : Store :=
  ⟨serial, #[none], {}⟩

/-- The buffer with a handle. -/
def buffer? (s : Store) (h : Handle) : Option Buffer :=
  (s.slots[h.number]?).join

/-- Changes the buffer with a handle. -/
def modify (s : Store) (h : Handle) (f : Buffer → Buffer) : Store :=
  { s with slots := s.slots.modify h.number (Option.map f) }

/-- Changes the counters. -/
def count (s : Store) (f : Counters → Counters) : Store :=
  { s with counters := f s.counters }

/-- The number of buffers that have not been freed. -/
def liveBuffers (s : Store) : Nat :=
  s.slots.countP (·.isSome)

/-- The handle that was given out last. -/
def lastHandle (s : Store) : Handle :=
  ⟨s.slots.size - 1⟩

/-! ### What a host does -/

/-- The buffer with a handle, or the error that there is none. -/
def find (h : Handle) : Act Store Buffer := do
  match (← Act.host).buffer? h with
  | some b => return b
  | none => Act.fail (.unknownBuffer h)

/-- Refuses a use of a buffer that is mapped. -/
def refuseMapped (use : Use) (h : Handle) (b : Buffer) : Act Store Unit := do
  if b.mapping.isSome then
    Act.emit (.refused use h)
    Act.fail (.host (.mapped use h))

/-- Fails unless a range lies inside a buffer of a given size. -/
def checkRange (h : Handle) (offset len size : Nat) : Checked Unit :=
  if offset + len ≤ size then .ok () else Checked.fail (.outOfBounds h offset len size)

/-- Asks for memory. More bytes than a signed word of sixty-four bits counts are never to be had. -/
def reserve (size : Nat) : Checked Unit :=
  if size < 0x8000000000000000 then .ok () else .error .crash

/-- Makes a zero-filled buffer under the next handle. -/
def allocate (size : Nat) : Act Store Handle := do
  Act.ofChecked (reserve size)
  let h : Handle := ⟨(← Act.host).slots.size⟩
  Act.update fun s =>
    { s with
      slots := s.slots.push (some (Buffer.fresh size))
      counters := { s.counters with allocations := s.counters.allocations + 1 } }
  Act.emit (.allocated size h)
  return h

/-- Records the tiling and the stride of a buffer, which may be mapped. -/
def setTiling (h : Handle) (tiling : Tiling) (stride : Nat) : Act Store Unit := do
  let _ ← find h
  Act.update (·.modify h fun b => { b with tiling, stride })

/-- Removes a buffer that is not mapped. -/
def free (h : Handle) : Act Store Unit := do
  let b ← find h
  refuseMapped .free h b
  Act.update fun s =>
    { s with
      slots := s.slots.modify h.number fun _ => none
      counters := { s.counters with frees := s.counters.frees + 1 } }
  Act.emit (.freed h)

/-- Maps a range of a buffer that is not mapped. -/
def map (h : Handle) (offset size : Nat) (_access : Access) : Act Store Mapping := do
  let b ← find h
  refuseMapped .map h b
  Act.ofChecked (checkRange h offset size b.bytes.size)
  let m : Mapping := ⟨h, offset, size, some (← Act.host).serial⟩
  Act.update fun s =>
    (s.modify h fun b => { b with mapping := some m }).count fun c => { c with maps := c.maps + 1 }
  return m

/-- Takes back the mapping of a buffer, and refuses any other. -/
def unmap (m : Mapping) : Act Store Unit := do
  let b ← find m.buffer
  if b.mapping = some m then
    Act.update fun s =>
      (s.modify m.buffer fun b => { b with mapping := none }).count
        fun c => { c with unmaps := c.unmaps + 1 }
  else
    Act.emit (.foreignMapping m.buffer)
    Act.fail (.host (.foreignMapping m.buffer))

/-- Hands a buffer to the CPU, of which nothing but the count remains. -/
def syncCpu (h : Handle) : Act Store Unit := do
  let _ ← find h
  Act.update (·.count fun c => { c with cpuSyncs := c.cpuSyncs + 1 })

/-- Hands a buffer to the display, of which nothing but the count remains. -/
def syncGpu (h : Handle) : Act Store Unit := do
  let _ ← find h
  Act.update (·.count fun c => { c with gpuSyncs := c.gpuSyncs + 1 })

/-- The bytes of a buffer that is not mapped. -/
def contents (h : Handle) : Act Store Bytes := do
  let b ← find h
  refuseMapped .read h b
  return b.bytes

/-- The tiling and the stride of a buffer. -/
def tiling (h : Handle) : Act Store (Tiling × Nat) := do
  let b ← find h
  return (b.tiling, b.stride)

/-! ### The memory behind a mapping -/

/-- The bytes that are seen through a mapping; none when the buffer is not mapped by it. -/
def window (s : Store) (m : Mapping) : Bytes :=
  match s.buffer? m.buffer with
  | some b => if b.mapping = some m then b.bytes.slice m.offset m.len else .empty
  | none => .empty

/-- Changes the bytes that are seen through a mapping, and no others. -/
def setWindow (m : Mapping) (bytes : Bytes) (s : Store) : Store :=
  s.modify m.buffer fun b =>
    if b.mapping = some m then
      { b with bytes := b.bytes.overwrite m.offset (bytes.slice 0 m.len) }
    else b

/-- Ends a mapping that is not handed back. -/
def discard (m : Mapping) (s : Store) : Store :=
  s.modify m.buffer fun b => if b.mapping = some m then { b with mapping := none } else b

/-! ### The view through handles -/

/-- A changed buffer is seen under its handle, and every other one as before. -/
theorem buffer?_modify (s : Store) (h k : Handle) (f : Buffer → Buffer) :
    (s.modify h f).buffer? k = if k = h then (s.buffer? k).map f else s.buffer? k := by
  obtain ⟨i⟩ := h
  obtain ⟨j⟩ := k
  simp only [buffer?, modify, Array.getElem?_modify, Handle.mk.injEq, eq_comm (a := j)]
  split
  · cases h : s.slots[j]? with
    | none => rfl
    | some o => cases o <;> rfl
  · rfl

/-- A store without buffers has none under any handle. -/
theorem buffer?_empty (serial : Nat) (h : Handle) : (empty serial).buffer? h = none := by
  obtain ⟨_ | n⟩ := h <;> rfl

end Store

end Scanout
