/-
The rectangle of samples that a plane holds.

* `Plane.width`, `Plane.height`: the columns and rows of a plane;
* `Plane.rowBytes`: the bytes of one of its rows.

The chroma plane of a format with several planes has half the columns and half the rows of the
image, rounded up.
-/
import Scanout.Layout.Arithmetic
import Scanout.PixelFormat

namespace Scanout.Plane

/-- Whether the samples of a plane each stand for a block of two by two pixels. -/
def isHalved (f : PixelFormat) (plane : Nat) : Bool :=
  f.isPlanar && plane == 1

/-- The columns of a plane of an image with `width` columns. -/
def width (f : PixelFormat) (width plane : Nat) : Nat :=
  if isHalved f plane then halfUp width else width

/-- The rows of a plane of an image with `height` rows. -/
def height (f : PixelFormat) (height plane : Nat) : Nat :=
  if isHalved f plane then halfUp height else height

/-- The bytes that the samples of one row of a plane take. -/
def rowBytes (f : PixelFormat) (imageWidth plane : Nat) : Checked Nat := do
  let bpp ← Checked.need (f.planeBpp? plane)
  fit32 (width f imageWidth plane * (bpp / 8))

end Scanout.Plane
