/-
Framebuffers: a buffer together with what is needed to scan it out.

* `Framebuffer`: the buffer, the image in it and its layout;
* `Framebuffer.area?`, `Framebuffer.surface?`: the samples of a plane, and where they lie.
-/
import Scanout.Layout
import Scanout.Surface

namespace Scanout

/-- A buffer together with what is needed to scan it out. The buffer belongs to the framebuffer
until that is removed. -/
structure Framebuffer where
  buffer : Handle
  width : Nat
  height : Nat
  format : PixelFormat
  tiling : Tiling
  device : Device
  layout : Layout
  deriving DecidableEq, Repr

namespace Framebuffer

/-- The number of planes in memory. -/
def numPlanes (fb : Framebuffer) : Nat :=
  fb.format.numPlanes

/-- The columns and rows of a plane and the bits of a sample. A plane that the format does not
have is empty, and there is room for no more than `maxPlanes`. -/
def area? (fb : Framebuffer) (plane : Nat) : Option Area :=
  if maxPlanes ≤ plane then none
  else if plane < fb.numPlanes then
    (fb.format.planeBpp? plane).map fun bpp =>
      ⟨Plane.width fb.format fb.width plane, Plane.height fb.format fb.height plane, bpp⟩
  else some ⟨0, 0, 0⟩

/-- Where a plane lies. -/
def surface? (fb : Framebuffer) (plane : Nat) : Option Surface :=
  fb.layout.offsets[plane]?.map fun offset =>
    { buffer := fb.buffer, offset, stride := fb.layout.stride, tiling := fb.tiling }

end Framebuffer

end Scanout
