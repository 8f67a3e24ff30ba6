/-
Packed pixels from luma and chroma planes.

* `Nv12.decodePixel`: the colours of one pixel;
* `Nv12.decode`: those of a whole image, stored into a packed buffer;
* `Nv12.unpack`: the same in a fresh buffer.

Two rows share a row of chroma pairs and two columns share a pair. The pixels are stored block row
by block row, in each column by column, the upper pixel first; the order shows when packed rows
overlap.
-/
import Scanout.Nv12.Placement

namespace Scanout.Nv12

/-- Stores the colours of the pixel at a row and column. -/
def decodePixel (src : Bytes) (p : Placement) (stride row column : Nat) (dst : Bytes) :
    Option Bytes := do
  let chroma ← chroma? src (p.chromaAt (row / 2) (column / 2))
  let luma ← src[p.lumaAt row column]?
  putBgr? dst (packedAt stride row column) (toBgr luma chroma)

/-- Stores the colours of the one or two rows of a block row. -/
def decodeBlockRow (width height : Nat) (src : Bytes) (p : Placement) (stride blockRow : Nat)
    (dst : Bytes) : Option Bytes :=
  let rows := min 2 (height - 2 * blockRow)
  sweep (fun column => sweep (fun i => decodePixel src p stride (2 * blockRow + i) column) 0 rows)
    0 width dst

/-- Stores the colours of an image into a packed buffer with its own stride. An empty image stores
nothing, and whatever is too short for the image is found before anything is stored. -/
def decode (width height : Nat) (src : Bytes) (p : Placement) (dst : Bytes) (stride : Nat) :
    Checked Bytes := do
  if width = 0 ∨ height = 0 then
    return dst
  checkPlanes width height src p
  checkPacked width height dst stride
  Checked.need (sweep (decodeBlockRow width height src p stride) 0 (halfUp height) dst)

/-- The colours of an image in a fresh packed buffer, which is not made for planes that are too
short. -/
def unpack (width height : Nat) (src : Bytes) (p : Placement) (size stride : Nat) :
    Checked Bytes := do
  unless width = 0 ∨ height = 0 do
    checkPlanes width height src p
  decode width height src p (Bytes.zeros size) stride

/-- An image is unpacked into a fresh buffer as into any other. -/
theorem unpack_eq_decode (width height : Nat) (src : Bytes) (p : Placement) (size stride : Nat) :
    unpack width height src p size stride =
      decode width height src p (Bytes.zeros size) stride := by
  unfold unpack decode
  by_cases h : width = 0 ∨ height = 0
  · simp [h]
  · simp only [h, ↓reduceIte]
    cases checkPlanes width height src p <;> rfl

end Scanout.Nv12
