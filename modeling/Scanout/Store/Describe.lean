/-
The state of a store as text.

* `Store.describe`: the buffers in the order of their handles, without their bytes, then the handle
  given out last, then the counters.
-/
import Scanout.Store

namespace Scanout

/-- A record as text: its name, and its fields in order between braces. -/
def describeRecord (name : String) (fields : List (String × String)) : String :=
  let shown := fields.map fun (key, value) => key ++ ": " ++ value
  name ++ " \x7b " ++ ", ".intercalate shown ++ " \x7d"

/-- A tiling as text in the state of a store. -/
def Tiling.describe : Tiling → String
  | linear => "Linear"
  | x => "X"
  | y => "Y"
  | yf => "Yf"

/-- A buffer as text. -/
def Buffer.describe (b : Buffer) : String :=
  describeRecord "MemoryBuffer"
    [("storage", describeRecord "Storage" [("len", toString b.bytes.size)]),
     ("tiling", b.tiling.describe),
     ("stride", toString b.stride)]

/-- The counters as text. -/
def Counters.describe (c : Counters) : String :=
  describeRecord "BackendStats"
    [("allocations", toString c.allocations),
     ("frees", toString c.frees),
     ("maps", toString c.maps),
     ("unmaps", toString c.unmaps),
     ("blits", toString c.blits),
     ("cpu_syncs", toString c.cpuSyncs),
     ("gpu_syncs", toString c.gpuSyncs)]

namespace Store

/-- The buffers with their handles, in the order of the handles. -/
def toList (s : Store) : List (Handle × Buffer) :=
  s.slots.toList.zipIdx.filterMap fun (slot, i) => slot.map fun b => (⟨i⟩, b)

/-- The state of a store as text. -/
def describe (s : Store) : String :=
  let entries := s.toList.map fun (h, b) =>
    "BufferHandle(" ++ toString h.number ++ "): " ++ b.describe
  describeRecord "MemoryBackend"
    [("buffers", "\x7b" ++ ", ".intercalate entries ++ "\x7d"),
     ("next_handle", toString s.lastHandle.number),
     ("stats", s.counters.describe)]

end Store

end Scanout
