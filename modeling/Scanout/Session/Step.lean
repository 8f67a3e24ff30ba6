/-
The steps of a session.

* `Session.perform`: what an action does;
* `Session.step`: a command, with the entry that tells what became of it;
* `Session.run`: the entries of a list of commands, up to one that crashes.
-/
import Scanout.Session
import Scanout.Store.Describe

namespace Scanout.Session

variable [Machine]

/-- A part of some bytes, all of which has to exist. -/
def part? (bytes : Bytes) (pos len : Nat) : Option Bytes :=
  if pos + len ≤ bytes.size then some (bytes.slice pos len) else none

/-- Parts of some bytes, `stride` bytes apart, all of which have to exist. -/
def parts? (bytes : Bytes) (pos len stride count : Nat) : Option (Array Bytes) :=
  sweep (fun i parts => (part? bytes (pos + i * stride) len).map parts.push) 0 count #[]

/-- Bytes with a part replaced, all of which has to exist. -/
def replacePart? (bytes : Bytes) (pos : Nat) (new : Bytes) : Option Bytes :=
  if pos + new.size ≤ bytes.size then some (bytes.overwrite pos new) else none

/-! ### Open views -/

section Views

variable {σ : Type} [Backend σ]

/-- Does one thing with an open view. -/
def viewOp (v : View) : ViewOp → Act σ (ViewReply × View)
  | .info =>
    let fb := v.framebuffer
    return (.info v.route fb.width fb.height v.packing v.stride, v)
  | .len => return (.len (v.pixels (← Act.host)).size, v)
  | .read pos len => do
    let bytes ← Act.ofChecked (Checked.need (part? (v.pixels (← Act.host)) pos len))
    return (.bytes bytes, v)
  | .write pos new => do
    let bytes ← Act.ofChecked (Checked.need (replacePart? (v.pixels (← Act.host)) pos new))
    return (.done, ← v.setPixels bytes)
  | .canvas steps => do
    let (readings, v) ← v.edit (Canvas.runSteps steps)
    return (.readings readings, v)

/-- Does things with an open view, up to one that crashes. -/
def viewOps : List ViewOp → View → Act σ (List (Checked ViewReply) × View)
  | [], v => return ([], v)
  | op :: ops, v => do
    let (reply, v) : Checked ViewReply × View ←
      match ← Act.attempt (viewOp v op) with
      | .ok (reply, v) => pure (.ok reply, v)
      | .error f => pure (.error f, v)
    if ViewReply.crashed reply then
      return ([reply], v)
    else
      let (replies, v) ← viewOps ops v
      return (reply :: replies, v)

/-- Opens a view, does things with it, and ends it. -/
def view (fb : Framebuffer) (ops : List ViewOp) (ending : ViewEnd) : Act σ Reply := do
  let v ← View.acquire fb
  let (replies, v) ← viewOps ops v
  match ending with
  | .finish => return .viewed replies (some (← Act.attempt v.finish))
  | .drop =>
    v.dispose
    return .viewed replies none

/-- Runs a script on a view of a framebuffer and writes the pixels back. -/
def draw (fb : Framebuffer) (steps : List CanvasStep) : Act σ Reply := do
  match ← Act.attempt (View.acquire fb) with
  | .error f => return .drawn [] (.error f)
  | .ok v =>
    match ← Act.attempt (v.edit (Canvas.runSteps steps)) with
    | .error f =>
      v.dispose
      return .drawn [] (.error f)
    | .ok (readings, v) => return .drawn readings (← Act.attempt v.finish)

/-- Makes a framebuffer. -/
def create (code : FourCC) (g : Framebuffer.Geometry) : Painting → Act σ Framebuffer
  | .plain => Framebuffer.create code g
  | .color color => Framebuffer.createColor code g color
  | .pattern => Framebuffer.createPattern code g
  | .colorPattern color => Framebuffer.createColorPattern code g color

end Views

/-! ### Actions -/

/-- What an action does. One that names a host, mapping or framebuffer that is not there crashes. -/
def perform (number : Nat) : Action → Act Session Reply
  | .openHost => do
    let made := (← Act.host).stations.size
    Act.update fun s => { s with stations := s.stations.push (Station.fresh made) }
    return .made made
  | .dropHost => do
    onHost number (pure ())
    Act.update fun s =>
      { s with stations := s.stations.modify number fun st => { st with dropped := true } }
    return .done
  | .inject fault => do
    onHost number (Act.update fun m => { m with faults := m.faults ++ [fault] })
    return .done
  | .heal => do
    onHost number (Act.update fun m => { m with faults := [] })
    return .done
  | .allocate size => do
    let h ← onHost number (Backend.allocate size)
    return .made h.number
  | .free buffer => do
    onHost number (Backend.free buffer)
    return .done
  | .syncCpu buffer => do
    onHost number (Backend.syncCpu buffer)
    return .done
  | .syncGpu buffer => do
    onHost number (Backend.syncGpu buffer)
    return .done
  | .setTiling buffer tiling stride => do
    onHost number (Backend.setTiling buffer tiling stride)
    return .done
  | .getTiling buffer => do
    let (tiling, stride) ← onHost number (Monitor.forward (Store.tiling buffer))
    return .tiling tiling stride
  | .map buffer offset size access => do
    let m ← onHost number (Backend.map buffer offset size access)
    return .made (← addHeld ⟨m, .empty⟩)
  | .rawMap buffer offset memory => do
    return .made (← addHeld ⟨⟨buffer, offset, memory.size, none⟩, memory⟩)
  | .mappingInfo slot => do
    return .mapping (← held slot).mapping
  | .readMapping slot => do
    let h ← held slot
    return .bytes ((← Act.host).memory h)
  | .writeMapping slot pos new => do
    let h ← held slot
    let bytes ← Act.ofChecked (Checked.need (replacePart? ((← Act.host).memory h) pos new))
    Act.update (setMemory slot h bytes)
    return .done
  | .unmap slot => do
    let h ← takeHeld slot
    let outcome ← Act.attempt (onHost number (Backend.unmap h.mapping))
    Act.update (discard h.mapping)
    Act.ofChecked outcome
    return .done
  | .dropMapping slot => do
    let h ← takeHeld slot
    Act.update (discard h.mapping)
    return .done
  | .copy src dst area => do
    onHost number (Backend.copy src dst area)
    return .done
  | .contents buffer offset len => do
    let bytes ← onHost number (Monitor.forward (Store.contents buffer))
    let shown ← Act.ofChecked <|
      Checked.need (part? bytes offset (len.getD (bytes.size - offset)))
    return .contents bytes.size shown
  | .contentsRows buffer offset len stride rows => do
    let bytes ← onHost number (Monitor.forward (Store.contents buffer))
    let shown ← Act.ofChecked (Checked.need (parts? bytes offset len stride rows))
    return .rows shown
  | .describe => do
    let m ← onHost number Act.host
    return .text m.host.describe
  | .create spelling geometry painting => do
    let code ← Act.ofChecked (FourCC.read spelling)
    let fb ← onHost number (create code geometry painting)
    return .framebuffer (some (← addFramebuffer fb)) fb
  | .framebuffer slot => do
    return .framebuffer none (← framebuffer slot)
  | .plane slot plane => do
    let fb ← framebuffer slot
    let area ← Act.ofChecked (Checked.need (fb.area? plane))
    let surface ← Act.ofChecked (Checked.need (fb.surface? plane))
    return .plane area surface
  | .draw slot steps => do
    let fb ← framebuffer slot
    onHost number (draw fb steps)
  | .view slot ops ending => do
    let fb ← framebuffer slot
    onHost number (view fb ops ending)
  | .remove slot => do
    let fb ← framebuffer slot
    Act.update fun s => { s with framebuffers := s.framebuffers.setIfInBounds slot none }
    onHost number fb.remove
    return .done

/-! ### Commands -/

/-- What the host of a command has done by the end of it. -/
structure Status where
  counters : Counters
  liveBuffers : Nat
  /-- The requests that were made of the host by the command. -/
  calls : Array Call

/-- What became of a command. -/
structure Entry where
  outcome : Checked Reply
  /-- The status of the host, unless it has been dropped. -/
  status : Option Status
  log : Array Event

/-- Whether a session ends with a command. -/
def Entry.ends (e : Entry) : Bool :=
  match e.outcome with
  | .ok reply => reply.crashed
  | .error .crash => true
  | .error (.error _) => false

/-- The status of a host. -/
def Status.of (m : Monitor Store) : Status :=
  ⟨m.host.counters, m.host.liveBuffers, m.calls⟩

/-- What becomes of a command, and the session after it. -/
def step (s : Session) (c : Command) : Entry × Session :=
  let s := s.modify c.host fun m => { m with calls := #[] }
  let (outcome, ⟨s, log⟩) : Checked Reply × Run Session :=
    match perform c.host c.action ⟨s, #[]⟩ with
    | .ok reply r => (.ok reply, r)
    | .error f r => (.error f, r)
  (⟨outcome, (s.monitor? c.host).map Status.of, log⟩, s)

/-- What becomes of commands that are given one after the other, up to one that crashes. -/
def run (s : Session) : List Command → List Entry
  | [] => []
  | c :: cs =>
    let (entry, s) := s.step c
    if entry.ends then [entry] else entry :: run s cs

end Scanout.Session
