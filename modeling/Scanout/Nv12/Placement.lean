/-
Where the samples of an image lie in byte buffers.

* `Nv12.Placement`: the two planes of an image in one buffer, and where each sample is;
* `Nv12.requireLength`: the error for a buffer that is too short;
* `Nv12.checkPlanes`, `Nv12.checkPacked`: whether a buffer holds the planes, or the packed pixels,
  of an image that is not empty.
-/
import Scanout.Bytes
import Scanout.Layout.Arithmetic
import Scanout.Nv12.Pixel
import Scanout.Sweep

namespace Scanout.Nv12

/-- Where the planes of an image lie in a buffer. Both have the same stride. -/
structure Placement where
  stride : Nat
  lumaStart : Nat
  chromaStart : Nat
  deriving DecidableEq, Repr

namespace Placement

/-- The place of the luma byte of a pixel. -/
def lumaAt (p : Placement) (row column : Nat) : Nat :=
  p.lumaStart + row * p.stride + column

/-- The place of the first byte of the chroma pair of a block. -/
def chromaAt (p : Placement) (blockRow blockColumn : Nat) : Nat :=
  p.chromaStart + blockRow * p.stride + 2 * blockColumn

/-- The bytes that a buffer needs for the luma of an image. -/
def lumaEnd (p : Placement) (width height : Nat) : Nat :=
  p.lumaAt (height - 1) width

/-- The bytes that a buffer needs for the chroma of an image. -/
def chromaEnd (p : Placement) (width height : Nat) : Nat :=
  p.chromaAt (halfUp height - 1) (halfUp width)

end Placement

/-- The place of the first byte of a packed pixel. -/
def packedAt (stride row column : Nat) : Nat :=
  row * stride + 4 * column

/-- Fails when a buffer is shorter than what it has to hold. -/
def requireLength (b : Bytes) (needed : Nat) : Checked Unit :=
  if b.size < needed then Checked.fail (.bufferTooSmall needed b.size) else .ok ()

/-- Fails when a buffer does not hold the luma, or else the chroma, of an image. -/
def checkPlanes (width height : Nat) (b : Bytes) (p : Placement) : Checked Unit := do
  requireLength b (p.lumaEnd width height)
  requireLength b (p.chromaEnd width height)

/-- Fails when a buffer does not hold the packed pixels of an image. -/
def checkPacked (width height : Nat) (b : Bytes) (stride : Nat) : Checked Unit :=
  requireLength b (packedAt stride (height - 1) width)

/-- The colour bytes of the packed pixel at a place. -/
def bgr? (b : Bytes) (pos : Nat) : Option Bgr := do
  let blue ← b[pos]?
  let green ← b[pos + 1]?
  let red ← b[pos + 2]?
  return ⟨blue, green, red⟩

/-- Stores the colour bytes of a packed pixel; the fourth byte of the pixel is left alone. -/
def putBgr? (b : Bytes) (pos : Nat) (color : Bgr) : Option Bytes := do
  let b ← b.put? pos color.blue
  let b ← b.put? (pos + 1) color.green
  b.put? (pos + 2) color.red

/-- The chroma pair at a place. -/
def chroma? (b : Bytes) (pos : Nat) : Option Chroma := do
  let cb ← b[pos]?
  let cr ← b[pos + 1]?
  return ⟨cb, cr⟩

/-- Stores a chroma pair. -/
def putChroma? (b : Bytes) (pos : Nat) (chroma : Chroma) : Option Bytes := do
  let b ← b.put? pos chroma.cb
  b.put? (pos + 1) chroma.cr

end Scanout.Nv12
