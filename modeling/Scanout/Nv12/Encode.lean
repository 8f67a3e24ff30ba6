/-
Luma and chroma planes from packed pixels.

* `Nv12.encodeLuma`: the luma of every pixel;
* `Nv12.encodeChroma`: the chroma of every block, sampled in its left column: both rows are
  averaged, and a last row without a partner stands alone;
* `Nv12.encode`: both, stored into the planes of a buffer.

All luma is stored before any chroma, rows from the top and columns from the left; the order shows
when planes overlap.
-/
import Scanout.Nv12.Placement

namespace Scanout.Nv12

/-- Stores the luma of every pixel. -/
def encodeLuma (width height : Nat) (src : Bytes) (stride : Nat) (p : Placement) (dst : Bytes) :
    Option Bytes :=
  sweepArea
    (fun column row dst => do
      let color ← bgr? src (packedAt stride row column)
      dst.put? (p.lumaAt row column) (luma color))
    0 0 width height dst

/-- The chroma of a block, from the left one or two of its pixels. -/
def blockChroma? (height : Nat) (src : Bytes) (stride blockRow blockColumn : Nat) :
    Option Chroma := do
  let top ← bgr? src (packedAt stride (2 * blockRow) (2 * blockColumn))
  if 2 * blockRow + 1 < height then
    let bottom ← bgr? src (packedAt stride (2 * blockRow + 1) (2 * blockColumn))
    return pairChroma top bottom
  else
    return singleChroma top

/-- Stores the chroma of every block. -/
def encodeChroma (width height : Nat) (src : Bytes) (stride : Nat) (p : Placement) (dst : Bytes) :
    Option Bytes :=
  sweepArea
    (fun blockColumn blockRow dst => do
      let chroma ← blockChroma? height src stride blockRow blockColumn
      putChroma? dst (p.chromaAt blockRow blockColumn) chroma)
    0 0 (halfUp width) (halfUp height) dst

/-- Stores the luma and chroma of a packed image into the planes of a buffer. An empty image stores
nothing, and whatever is too short for the image is found before anything is stored. -/
def encode (width height : Nat) (src : Bytes) (stride : Nat) (dst : Bytes) (p : Placement) :
    Checked Bytes := do
  if width = 0 ∨ height = 0 then
    return dst
  checkPacked width height src stride
  checkPlanes width height dst p
  Checked.need do
    let dst ← encodeLuma width height src stride p dst
    encodeChroma width height src stride p dst

end Scanout.Nv12
