/-
Views: the pixels of a framebuffer as the CPU works on them.

* `View`: a framebuffer with all that was acquired to reach its pixels;
* `View.pixels`, `View.setPixels`: the packed pixels, wherever they are;
* `View.edit`: work on a canvas over them.

The pixels are those of the framebuffer itself, of a linear copy of it (`Shadow`), or of a converted
image of either (`Scratch`).
-/
import Scanout.Backend
import Scanout.Canvas
import Scanout.Framebuffer
import Scanout.Nv12.Placement

namespace Scanout

/-- A linear copy of a framebuffer. -/
structure Shadow where
  buffer : Handle
  layout : Layout
  deriving DecidableEq, Repr

/-- Where a plane of the copy lies. -/
def Shadow.surface? (s : Shadow) (plane : Nat) : Option Surface :=
  s.layout.offsets[plane]?.map fun offset =>
    { buffer := s.buffer, offset, stride := s.layout.stride, tiling := .linear }

/-- A converted image. -/
structure Scratch where
  data : Bytes
  stride : Nat
  deriving DecidableEq

/-- The way to the pixels of a framebuffer: several planes are converted, and one plane is copied
when no mapping can undo its tiling. -/
def Route.of (fb : Framebuffer) : Route :=
  if fb.format.isPlanar then .convert else if fb.tiling.needsBlit then .blit else .direct

/-- A framebuffer with all that was acquired to reach its pixels. -/
structure View where
  framebuffer : Framebuffer
  route : Route
  mapping : Option Mapping
  shadow : Option Shadow
  scratch : Option Scratch
  /-- Whether everything has been given back. -/
  released : Bool
  deriving DecidableEq

namespace View

/-- A view for which nothing has been acquired. -/
def unopened (fb : Framebuffer) : View :=
  ⟨fb, Route.of fb, none, none, none, false⟩

/-- The layout of what is mapped: of the linear copy, if there is one. -/
def linearLayout (v : View) : Layout :=
  match v.shadow with
  | some s => s.layout
  | none => v.framebuffer.layout

/-- Where the planes are in what is mapped. -/
def placement (v : View) : Nv12.Placement :=
  let layout := v.linearLayout
  ⟨layout.stride, layout.offset 0, layout.offset 1⟩

/-- The layout of the pixels. -/
def packing (v : View) : Packing :=
  v.framebuffer.format.packing

/-- The bytes from one row of pixels to the next. -/
def stride (v : View) : Nat :=
  match v.scratch with
  | some s => s.stride
  | none => v.linearLayout.stride

variable {σ α : Type} [Backend σ]

/-- The bytes of the pixels, the top left one first. -/
def pixels (v : View) (host : σ) : Bytes :=
  match v.scratch, v.mapping with
  | some s, _ => s.data
  | none, some m => Backend.window host m
  | none, none => .empty

/-- Changes the bytes of the pixels. -/
def setPixels (v : View) (bytes : Bytes) : Act σ View := do
  match v.scratch, v.mapping with
  | some s, _ => return { v with scratch := some { s with data := bytes } }
  | none, some m =>
    Act.update (Backend.setWindow m bytes)
    return v
  | none, none => return v

/-- A canvas over the pixels. -/
def canvas (v : View) (host : σ) : Checked Canvas :=
  Canvas.make (v.pixels host) v.framebuffer.width v.framebuffer.height v.stride v.packing

/-- Works on a canvas over the pixels. -/
def edit (v : View) (work : Canvas → α × Canvas) : Act σ (α × View) := do
  let c ← Act.ofChecked (v.canvas (← Act.host))
  let (a, c) := work c
  let v ← v.setPixels c.data
  return (a, v)

end View

end Scanout
