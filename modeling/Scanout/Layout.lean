/-
The layout of a framebuffer in its buffer.

* `Layout`: bytes per row, bytes in all, and where each plane begins;
* `Layout.packed`: packed pixels, in whole tiles, or in powers of two where fence registers ask for
  them;
* `Layout.planar`: several planes one after the other with one stride for all;
* `Layout.compute`: the layout of an image on a device, or the reason why it has none.
-/
import Scanout.Layout.Plane
import Scanout.Tile

namespace Scanout

/-- Where the pixels of a framebuffer lie in its buffer. -/
structure Layout where
  /-- The bytes from one row to the next, in every plane. -/
  stride : Nat
  /-- The bytes of the whole buffer. -/
  size : Nat
  /-- The first byte of each plane; zero for a plane that does not exist. -/
  offsets : Vector Nat maxPlanes
  deriving DecidableEq, Repr

namespace Layout

/-- The smallest stride of a tiled buffer behind fence registers. -/
def legacyStrideFloor : Nat := 512

/-- The smallest tiled buffer behind fence registers. -/
def legacySizeFloor : Nat := 1024 * 1024

/-- The layout of packed pixels. Fence registers cover power-of-two regions with power-of-two
strides, and with them tiles play no part; otherwise rows are filled up to whole tiles and the
number of rows likewise. -/
def packed (device : Device) (tiling : Tiling) (f : PixelFormat) (width height : Nat) :
    Checked Layout := do
  let tile ← Tile.of device tiling f.bpp
  let row ← fit32 (width * (f.bpp / 8))
  if tiling ≠ .linear ∧ device.hasLegacyFences then
    let stride ← doubleTo row legacyStrideFloor (by decide)
    let least ← fit32 (stride * height)
    let size ← doubleTo least legacySizeFloor (by decide)
    return ⟨stride, size, Vector.replicate _ 0⟩
  else
    let stride ← alignUp row tile.width
    let rows ← alignUp height tile.height
    let size ← fit32 (rows * stride)
    return ⟨stride, size, Vector.replicate _ 0⟩

/-- The stride of one plane by itself: its row filled up to whole tiles. -/
def planeStride (device : Device) (tiling : Tiling) (f : PixelFormat) (width plane : Nat) :
    Checked Nat := do
  let bpp ← Checked.need (f.planeBpp? plane)
  let tile ← Tile.of device tiling bpp
  let row ← Plane.rowBytes f width plane
  alignUp row tile.width

/-- The largest of `stride` and the strides of the `n` planes from `plane` on. -/
def widestStride (device : Device) (tiling : Tiling) (f : PixelFormat) (width : Nat) :
    (n plane stride : Nat) → Checked Nat
  | 0, _, stride => .ok stride
  | n + 1, plane, stride => do
    let own ← planeStride device tiling f width plane
    widestStride device tiling f width n (plane + 1) (max stride own)

/-- The rows that a plane takes up: its own, filled up to whole tiles. -/
def planeRows (device : Device) (tiling : Tiling) (f : PixelFormat) (height plane : Nat) :
    Checked Nat := do
  let bpp ← Checked.need (f.planeBpp? plane)
  let tile ← Tile.of device tiling bpp
  alignUp (Plane.height f height plane) tile.height

/-- Puts the `n` planes from `plane` on behind what is laid out already. -/
def stack (device : Device) (tiling : Tiling) (f : PixelFormat) (height : Nat) :
    (n plane : Nat) → Layout → Checked Layout
  | 0, _, layout => .ok layout
  | n + 1, plane, layout => do
    let rows ← planeRows device tiling f height plane
    let bytes ← fit32 (layout.stride * rows)
    let size ← fit32 (layout.size + bytes)
    stack device tiling f height n (plane + 1)
      { layout with size, offsets := layout.offsets.setIfInBounds plane layout.size }

/-- The layout of several planes: the widest stride serves all of them, and each begins where the
one before it ends. -/
def planar (device : Device) (tiling : Tiling) (f : PixelFormat) (width height : Nat) :
    Checked Layout := do
  let stride ← widestStride device tiling f width f.numPlanes 0 0
  stack device tiling f height f.numPlanes 0 ⟨stride, 0, Vector.replicate _ 0⟩

/-- The layout of an image of `width` columns and `height` rows on a device. An empty image has
none. -/
def compute (device : Device) (width height : Nat) (f : PixelFormat) (tiling : Tiling) :
    Checked Layout :=
  if width = 0 ∨ height = 0 then Checked.fail (.invalidDimensions width height)
  else if f.isPlanar then planar device tiling f width height
  else packed device tiling f width height

/-- Where a plane begins; zero for one that no buffer has room for. -/
def offset (layout : Layout) (plane : Nat) : Nat :=
  layout.offsets[plane]?.getD 0

end Layout

end Scanout
