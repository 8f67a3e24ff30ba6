/-
The arithmetic of one pixel between luma and chroma bytes and colour bytes.

* `Bgr`: the three colour bytes of a packed pixel, in the order of memory;
* `Nv12.toBgr`: the colours of a luma byte and a chroma pair;
* `Nv12.luma`, `Nv12.pairChroma`, `Nv12.singleChroma`: the way back.

The luma of black is sixteen and that of white two hundred and thirty-five; chroma is centred at
one hundred and twenty-eight. Every step is rounded to single precision, sums run from left to
right, and a result loses its fraction when it becomes a byte. The products with zero belong to
the sums.
-/
namespace Scanout

/-- The colour bytes of a packed pixel, in the order of memory. -/
structure Bgr where
  blue : UInt8
  green : UInt8
  red : UInt8
  deriving DecidableEq, Repr

namespace Nv12

/-- The two chroma bytes of a block of pixels, in the order of memory. -/
structure Chroma where
  cb : UInt8
  cr : UInt8
  deriving DecidableEq, Repr

/-- A colour value as a byte, held between the smallest and the largest one. -/
def colorByte (value : Float32) : UInt8 :=
  (if value < 0.0 then 0.0 else if 255.0 < value then 255.0 else value : Float32).toUInt8

/-- The colours of a pixel with a luma byte in a block with a chroma pair. -/
def toBgr (luma : UInt8) (chroma : Chroma) : Bgr :=
  let level : Float32 := 1.164 * (luma.toFloat32 - 16.0)
  let cb : Float32 := chroma.cb.toFloat32 - 128.0
  let cr : Float32 := chroma.cr.toFloat32 - 128.0
  let red : Float32 := 0.0 * cb + 1.793 * cr
  let green : Float32 := -0.213 * cb + -0.533 * cr
  let blue : Float32 := 2.112 * cb + 0.0 * cr
  ⟨colorByte (level + blue), colorByte (level + green), colorByte (level + red)⟩

/-- The luma of a pixel. -/
def luma (p : Bgr) : UInt8 :=
  (0.183 * p.red.toFloat32 + 0.614 * p.green.toFloat32 + 0.062 * p.blue.toFloat32 + 16.0).toUInt8

/-- The chroma of a block of which two pixels are sampled, the weights being halved. -/
def pairChroma (p q : Bgr) : Chroma :=
  let r₀ := p.red.toFloat32
  let g₀ := p.green.toFloat32
  let b₀ := p.blue.toFloat32
  let r₁ := q.red.toFloat32
  let g₁ := q.green.toFloat32
  let b₁ := q.blue.toFloat32
  let cb : Float32 :=
    -0.101 / 2.0 * r₀ + -0.101 / 2.0 * r₁ + -0.339 / 2.0 * g₀ + -0.339 / 2.0 * g₁
      + 0.439 / 2.0 * b₀ + 0.439 / 2.0 * b₁ + 128.0
  let cr : Float32 :=
    0.439 / 2.0 * r₀ + 0.439 / 2.0 * r₁ + -0.339 / 2.0 * g₀ + -0.339 / 2.0 * g₁
      + -0.040 / 2.0 * b₀ + -0.040 / 2.0 * b₁ + 128.0
  ⟨cb.toUInt8, cr.toUInt8⟩

/-- The chroma of a block of which one pixel is sampled. -/
def singleChroma (p : Bgr) : Chroma :=
  let r := p.red.toFloat32
  let g := p.green.toFloat32
  let b := p.blue.toFloat32
  let cb : Float32 := -0.101 * r + -0.339 * g + 0.439 * b + 128.0
  let cr : Float32 := 0.439 * r + -0.339 * g + -0.040 * b + 128.0
  ⟨cb.toUInt8, cr.toUInt8⟩

end Nv12

end Scanout
