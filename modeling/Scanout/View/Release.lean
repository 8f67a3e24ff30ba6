/-
The end of a view.

* `View.closing`: the steps by which the pixels are written back and everything is given back;
* `View.release`: all of them, each made whatever became of those before it, and once only;
* `View.finish`: a release whose first failure the caller is told;
* `View.dispose`: a release whose first failure is logged.
-/
import Scanout.Nv12.Encode
import Scanout.View

namespace Scanout

variable {σ : Type} [Backend σ]

/-- Copies every plane of a framebuffer, from the first on, until a copy fails. -/
def Framebuffer.copyPlanes (fb : Framebuffer) (src dst : Nat → Option Surface) : Act σ Unit :=
  (List.range fb.numPlanes).forM fun plane => do
    let src ← Act.ofChecked (Checked.need (src plane))
    let dst ← Act.ofChecked (Checked.need (dst plane))
    let area ← Act.ofChecked (Checked.need (fb.area? plane))
    Backend.copy src dst area

namespace View

/-- Converts the pixels back into the planes that are mapped. -/
def encode (v : View) : Act σ Unit := do
  match v.scratch, v.mapping with
  | some s, some m =>
    let fb := v.framebuffer
    let planes := Backend.window (← Act.host) m
    let planes ← Act.ofChecked <|
      Nv12.encode fb.width fb.height s.data s.stride planes v.placement
    Act.update (Backend.setWindow m planes)
  | _, _ => return

/-- The steps by which a view ends: the pixels are converted back, the mapping is handed back and
its buffer to the display, the linear copy is copied back and freed. -/
def closing (v : View) : List (Act σ Unit) :=
  let fb := v.framebuffer
  let mapped : List (Act σ Unit) :=
    match v.mapping with
    | some m => [Backend.unmap m, Backend.syncGpu m.buffer]
    | none => []
  let shadowed : List (Act σ Unit) :=
    match v.shadow with
    | some s => [fb.copyPlanes s.surface? fb.surface?, Backend.free s.buffer]
    | none => []
  v.encode :: mapped ++ shadowed

/-- Gives everything back, and tells the first failure. Nothing is left to do the next time. -/
def release (v : View) : Act σ (Checked Unit × View) := do
  if v.released then
    return (.ok (), v)
  else
    Act.emit (.closing v.route v.framebuffer.buffer)
    let outcome ← Act.attemptAll v.closing
    return (outcome, { v with mapping := none, shadow := none, scratch := none, released := true })

/-- Gives a view up. A failure is logged and goes no further. -/
def dispose (v : View) : Act σ Unit := do
  match (← v.release).1 with
  | .error (.error e) => Act.emit (.closingFailed v.framebuffer.buffer e)
  | .error .crash => throw .crash
  | .ok _ => return

/-- Ends a view. -/
def finish (v : View) : Act σ Unit := do
  let (outcome, v) ← v.release
  v.dispose
  Act.ofChecked outcome

end View

end Scanout
