/-
Painting on framebuffers.

* `Framebuffer.draw`: painting operations on the pixels of a framebuffer;
* `Framebuffer.createPainted`: a framebuffer with painting operations done on it;
* `Framebuffer.createColor`, `Framebuffer.createPattern`, `Framebuffer.createColorPattern`: one
  filled with a colour, one with the test pattern, and one with both.
-/
import Scanout.Canvas.Stroke
import Scanout.Framebuffer.Create
import Scanout.View.Acquire

namespace Scanout.Framebuffer

variable {σ : Type} [Backend σ] [Machine]

/-- Does painting operations on a view of the framebuffer and writes the pixels back. -/
def draw (fb : Framebuffer) (strokes : List Stroke) : Act σ Unit := do
  let v ← View.acquire fb
  let painting (c : Canvas) : Bool × Canvas :=
    match c.strokes? strokes with
    | some c => (true, c)
    | none => (false, c)
  match ← Act.attempt (v.edit painting) with
  | .ok (true, v) => v.finish
  | .ok (false, v) =>
    v.dispose
    throw .crash
  | .error f =>
    v.dispose
    throw f

/-- Makes a framebuffer and does painting operations on it. -/
def createPainted (code : FourCC) (g : Geometry) (strokes : List Stroke) : Act σ Framebuffer := do
  let fb ← create code g
  fb.draw strokes
  return fb

/-- The operation that fills an image of the size asked for with a colour. -/
def Geometry.fill (g : Geometry) (color : Color) : Stroke :=
  .fill 0 0 (Canvas.signed32 g.width) (Canvas.signed32 g.height) color

/-- Makes a framebuffer filled with a colour. -/
def createColor (code : FourCC) (g : Geometry) (color : Color) : Act σ Framebuffer :=
  createPainted code g [g.fill color]

/-- Makes a framebuffer that shows the test pattern on black. -/
def createPattern (code : FourCC) (g : Geometry) : Act σ Framebuffer :=
  createPainted code g [.pattern]

/-- Makes a framebuffer that shows the test pattern on a colour. -/
def createColorPattern (code : FourCC) (g : Geometry) (color : Color) : Act σ Framebuffer :=
  createPainted code g [g.fill color, .pattern]

end Scanout.Framebuffer
