/-
The making and the end of a framebuffer.

* `Framebuffer.Geometry`: what a framebuffer is asked to be, but for its format;
* `Framebuffer.prepare`: the tiling of a new buffer is declared and, where zero bytes are not black,
  its image is made black;
* `Framebuffer.create`: the whole of it, with the buffer given back when it fails;
* `Framebuffer.remove`: the end.
-/
import Scanout.Backend
import Scanout.Framebuffer

namespace Scanout.Framebuffer

variable {σ : Type} [Backend σ]

/-- What a framebuffer is asked to be, but for its format. A size or stride other than zero takes
the place of the computed one. -/
structure Geometry where
  device : Device
  width : Nat
  height : Nat
  tiling : Tiling
  size : Nat := 0
  stride : Nat := 0
  deriving DecidableEq, Repr

/-- The layout that is asked for, in a format. -/
def Geometry.layout (g : Geometry) (format : PixelFormat) : Checked Layout := do
  let layout ← Layout.compute g.device g.width g.height format g.tiling
  return { layout with
    stride := if g.stride = 0 then layout.stride else g.stride
    size := if g.size = 0 then layout.size else g.size }

/-- The luma of black. -/
def blackLuma : UInt8 := 16

/-- The chroma of every grey. -/
def neutralChroma : UInt8 := 0x80

/-- Makes the planes of an image black: luma up to the second plane, and chroma for the rows of that
plane, as far as the layout says that the buffer goes. -/
def blacken? (layout : Layout) (height : Nat) (bytes : Bytes) : Option Bytes := do
  let chromaStart := min (layout.offset 1) layout.size
  let chromaStop := min (chromaStart + halfUp height * layout.stride) layout.size
  let bytes ← bytes.fill? 0 chromaStart blackLuma
  bytes.fill? chromaStart chromaStop neutralChroma

/-- Declares the tiling of a new buffer and makes its image black. -/
def prepare (buffer : Handle) (format : PixelFormat) (tiling : Tiling) (layout : Layout)
    (height : Nat) : Act σ Unit := do
  Backend.setTiling buffer tiling layout.stride
  if format.isNv12 then
    Backend.syncCpu buffer
    let m ← Backend.map buffer 0 layout.size .write
    let host ← Act.host
    let black ← Act.ofChecked (Checked.need (blacken? layout height (Backend.window host m)))
    Act.update (Backend.setWindow m black)
    Backend.unmap m
    Backend.syncGpu buffer

/-- Makes a framebuffer. When its buffer cannot be prepared the buffer is given back, and a
failure of that comes before the one that led to it. -/
def create (code : FourCC) (g : Geometry) : Act σ Framebuffer := do
  let format ← Act.ofChecked (PixelFormat.ofCode code)
  let layout ← Act.ofChecked (g.layout format)
  Act.emit (.creating g.width g.height format.name g.tiling layout.size)
  let buffer ← Backend.allocate layout.size
  match ← Act.attempt (prepare buffer format g.tiling layout g.height) with
  | .error f =>
    Backend.free buffer
    throw f
  | .ok _ =>
    Act.emit (.created buffer layout.stride)
    return { buffer, width := g.width, height := g.height, format, tiling := g.tiling,
             device := g.device, layout }

/-- Gives the buffer of a framebuffer up. -/
def remove (fb : Framebuffer) : Act σ Unit := do
  Act.emit (.removing fb.buffer)
  Backend.free fb.buffer

end Scanout.Framebuffer
