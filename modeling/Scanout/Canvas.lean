/-
Canvases: packed pixels in a buffer, to be drawn on.

* `Canvas`: a buffer with the size, stride and packing of the image in it;
* `Canvas.make`: a canvas over a buffer that is long enough;
* `Canvas.pixel?`, `Canvas.store?`, `Canvas.colorAt?`: one pixel;
* `Canvas.row?`: the pixels of a row.

The places of pixels are not checked against the size of the image, only against the end of the
buffer.
-/
import Scanout.Bytes
import Scanout.Color
import Scanout.Sweep

namespace Scanout

/-- Packed pixels in a buffer. -/
structure Canvas where
  data : Bytes
  width : Nat
  height : Nat
  /-- The bytes from one row to the next. -/
  stride : Nat
  packing : Packing

namespace Canvas

/-- A canvas over a buffer. The stride has to hold a row, and the buffer every row of the image. -/
def make (data : Bytes) (width height stride : Nat) (packing : Packing) : Checked Canvas :=
  let row := width * packing.bytesPerPixel
  let needed := (height - 1) * stride + row
  if stride < row then Checked.fail (.invalidDimensions width height)
  else if 0 < height ∧ data.size < needed then Checked.fail (.bufferTooSmall needed data.size)
  else .ok ⟨data, width, height, stride, packing⟩

/-- The place of the first byte of a pixel. -/
def offset (c : Canvas) (x y : Nat) : Nat :=
  y * c.stride + x * c.packing.bytesPerPixel

/-- The number that a pixel holds. -/
def pixel? (c : Canvas) (x y : Nat) : Option UInt32 :=
  c.data.word? c.packing.bytesPerPixel (c.offset x y)

/-- Stores a pixel. -/
def store? (c : Canvas) (x y : Nat) (value : UInt32) : Option Canvas := do
  let pos := c.offset x y
  let ⟨data, width, height, stride, packing⟩ := c
  let data ← data.putWord? packing.bytesPerPixel pos value
  return ⟨data, width, height, stride, packing⟩

/-- The colour and alpha of a pixel. -/
def colorAt? (c : Canvas) (x y : Nat) : Option (Color × Float) :=
  (c.pixel? x y).map c.packing.decode

/-- The pixels of a row from left to right. -/
def row? (c : Canvas) (y : Nat) : Option (Array UInt32) :=
  sweep (fun x row => (c.pixel? x y).map row.push) 0 c.width #[]

end Canvas

end Scanout
