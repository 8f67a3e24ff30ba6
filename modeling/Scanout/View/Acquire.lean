/-
The opening of a view.

* `Opening`: a step by which a view is opened, with what has been acquired so far as part of the
  state, so that it is known when the step fails;
* `View.openLinear`: a mapping of the framebuffer, or of a linear copy of it;
* `View.decode`: the conversion of mapped planes to packed pixels;
* `View.acquire`: the whole of it, with everything given back when it fails.
-/
import Scanout.Machine
import Scanout.Nv12.Decode
import Scanout.View.Release

namespace Scanout

/-- A step by which a view is opened. -/
abbrev Opening (σ α : Type) := EStateM Failure (Run σ × View) α

namespace Opening

variable {σ α : Type}

/-- A step on the host. -/
def act (x : Act σ α) : Opening σ α :=
  fun (r, v) =>
    match x r with
    | .ok a r => .ok a (r, v)
    | .error f r => .error f (r, v)

/-- The view as far as it is open. -/
def view : Opening σ View :=
  fun (r, v) => .ok v (r, v)

/-- Adds to the view what has been acquired. -/
def acquired (f : View → View) : Opening σ Unit :=
  fun (r, v) => .ok () (r, f v)

/-- Opens a view as far as it goes. -/
def run (x : Opening σ Unit) (v : View) : Act σ (Checked Unit × View) :=
  fun r =>
    match x (r, v) with
    | .ok _ (r, v) => .ok (.ok (), v) r
    | .error f (r, v) => .ok (.error f, v) r

end Opening

namespace View

variable {σ : Type} [Backend σ] [Machine]

/-- The multiple to which a row of a converted image is filled up. -/
def scratchStrideAlign : Nat := 16

/-- Hands a buffer to the CPU and maps its first `size` bytes. -/
def openMapping (buffer : Handle) (size : Nat) : Opening σ Unit := do
  Opening.act (Backend.syncCpu buffer)
  let m ← Opening.act (Backend.map buffer 0 size .readWrite)
  Opening.acquired fun v => { v with mapping := some m }

/-- Makes a linear copy of the framebuffer. -/
def openShadow (fb : Framebuffer) : Opening σ Shadow := do
  let layout ← Opening.act <| Act.ofChecked <|
    Layout.compute fb.device fb.width fb.height fb.format .linear
  let buffer ← Opening.act (Backend.allocate layout.size)
  let shadow : Shadow := ⟨buffer, layout⟩
  Opening.acquired fun v => { v with shadow := some shadow }
  Opening.act (Backend.setTiling buffer .linear layout.stride)
  Opening.act (fb.copyPlanes fb.surface? shadow.surface?)
  return shadow

/-- Maps the framebuffer, or a linear copy where no mapping can undo its tiling. -/
def openLinear : Opening σ Unit := do
  let fb := (← Opening.view).framebuffer
  if fb.tiling.needsBlit then
    let shadow ← openShadow fb
    openMapping shadow.buffer shadow.layout.size
  else
    openMapping fb.buffer fb.layout.size

/-- The stride of a converted image. -/
def scratchStride (width : Nat) : Checked Nat := do
  let row ← fit32 (width * 4)
  alignUp row scratchStrideAlign

/-- Converts the planes that are mapped to packed pixels, in whole pages. -/
def decode : Opening σ Unit := do
  let v ← Opening.view
  let fb := v.framebuffer
  let stride ← Opening.act (Act.ofChecked (scratchStride fb.width))
  let size := roundUp (stride * fb.height) Machine.pageSize
  let host ← Opening.act Act.host
  let data ← Opening.act <| Act.ofChecked <|
    match v.mapping with
    | some m =>
      Nv12.unpack fb.width fb.height (Backend.window host m) v.placement size stride
    | none => .ok (Bytes.zeros size)
  Opening.acquired fun v => { v with scratch := some ⟨data, stride⟩ }

/-- Opens a view. When that fails, what has been acquired by then is given back as a view is at its
end. -/
def acquire (fb : Framebuffer) : Act σ View := do
  let route := Route.of fb
  if route = .convert then
    Act.ofChecked fb.format.ensureConvertible
  Act.emit (.opening route fb.buffer fb.width fb.height fb.format.name fb.tiling)
  let opening : Opening σ Unit := do
    openLinear
    if route = .convert then
      decode
  let (outcome, v) ← opening.run (unopened fb)
  match outcome with
  | .ok _ => return v
  | .error f =>
    v.dispose
    throw f

end View

end Scanout
