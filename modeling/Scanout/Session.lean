/-
Sessions: several hosts in memory, with the mappings and framebuffers that were made on them.

* `Session`: the state of a session;
* `Session.onHost`: a step on one of the hosts;
* `Session.memory`, `Session.setMemory`, `Session.discard`: what is behind a mapping, and its end.

A host that is dropped answers no more requests, and the memory behind its mappings lives on.
-/
import Scanout.Session.Command

namespace Scanout

/-- A host of a session. -/
structure Session.Station where
  monitor : Monitor Store
  dropped : Bool

/-- A mapping of a session. Memory of its own stands behind a mapping that no host has made. -/
structure Session.Held where
  mapping : Mapping
  own : Bytes

/-- The state of a session. A slot is empty once its mapping or framebuffer has been given up. -/
structure Session where
  stations : Array Session.Station
  mappings : Array (Option Session.Held)
  framebuffers : Array (Option Framebuffer)

namespace Session

/-- A host as it is at first; its number in the session tells its mappings from those of others. -/
def Station.fresh (number : Nat) : Station :=
  ⟨Monitor.ofHost (Store.empty number), false⟩

/-- A session with one host. -/
def start : Session :=
  ⟨#[Station.fresh 0], #[], #[]⟩

/-- The host with a number, unless it has been dropped. -/
def monitor? (s : Session) (number : Nat) : Option (Monitor Store) :=
  match s.stations[number]? with
  | some ⟨m, false⟩ => some m
  | _ => none

/-- Changes a host, dropped or not. -/
def modify (s : Session) (number : Nat) (f : Monitor Store → Monitor Store) : Session :=
  { s with stations := s.stations.modify number fun st => { st with monitor := f st.monitor } }

variable {α : Type}

/-- A step on the host with a number. -/
def onHost (number : Nat) (x : Act (Monitor Store) α) : Act Session α :=
  fun ⟨s, log⟩ =>
    match s.monitor? number with
    | none => .error .crash ⟨s, log⟩
    | some m =>
      match x ⟨m, log⟩ with
      | .ok a ⟨m, log⟩ => .ok a ⟨s.modify number fun _ => m, log⟩
      | .error f ⟨m, log⟩ => .error f ⟨s.modify number fun _ => m, log⟩

/-- The mapping in a slot. -/
def held (slot : Nat) : Act Session Held := do
  Act.ofChecked (Checked.need ((← Act.host).mappings[slot]?).join)

/-- The mapping in a slot, which is empty afterwards. -/
def takeHeld (slot : Nat) : Act Session Held := do
  let h ← held slot
  Act.update fun s => { s with mappings := s.mappings.setIfInBounds slot none }
  return h

/-- Puts a mapping into the next slot and tells its number. -/
def addHeld (h : Held) : Act Session Nat := do
  let slot := (← Act.host).mappings.size
  Act.update fun s => { s with mappings := s.mappings.push (some h) }
  return slot

/-- The framebuffer in a slot. -/
def framebuffer (slot : Nat) : Act Session Framebuffer := do
  Act.ofChecked (Checked.need ((← Act.host).framebuffers[slot]?).join)

/-- Puts a framebuffer into the next slot and tells its number. -/
def addFramebuffer (fb : Framebuffer) : Act Session Nat := do
  let slot := (← Act.host).framebuffers.size
  Act.update fun s => { s with framebuffers := s.framebuffers.push (some fb) }
  return slot

/-! ### The memory behind a mapping -/

/-- The bytes that are seen through a mapping. -/
def memory (s : Session) (h : Held) : Bytes :=
  match h.mapping.issuer with
  | none => h.own
  | some number =>
    match s.stations[number]? with
    | some st => st.monitor.host.window h.mapping
    | none => .empty

/-- Changes the bytes that are seen through the mapping in a slot. -/
def setMemory (slot : Nat) (h : Held) (bytes : Bytes) (s : Session) : Session :=
  match h.mapping.issuer with
  | none =>
    { s with mappings := s.mappings.setIfInBounds slot (some { h with own := bytes }) }
  | some number => s.modify number (Backend.setWindow h.mapping bytes)

/-- Ends a mapping where it was made. -/
def discard (m : Mapping) (s : Session) : Session :=
  match m.issuer with
  | none => s
  | some number => s.modify number (Backend.discard m)

end Session

end Scanout
