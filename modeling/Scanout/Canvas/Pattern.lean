/-
The test pattern: four gradient bars across the middle and a marker on every corner.

* `Canvas.paintMarker`: a crosshair and a ring, a black outline under a white core;
* `Canvas.paintPattern`: the whole pattern.
-/
import Scanout.Canvas.Paint

namespace Scanout.Canvas

/-- A size as a signed number of thirty-two bits. -/
def signed32 (n : Nat) : Int :=
  Int.bmod n 0x100000000

/-- A number without its fraction, held within thirty-two signed bits. -/
def truncate32 (v : Float) : Int :=
  v.toInt32.toInt

/-- The length of an arm of a marker. -/
def markerArm : Int := 20

/-- The radius of the ring of a marker. -/
def markerRadius : Int := 10

/-- Whether the centre of a pixel lies within `half` of the ring around a point. Twice the distances
are whole numbers, so that squares decide it exactly. -/
def isOnRing (x y half : Int) (px py : Nat) : Bool :=
  let a := 2 * (px - x) + 1
  let b := 2 * (py - y) + 1
  let square := a * a + b * b
  let inner := 2 * (markerRadius - half)
  let outer := 2 * (markerRadius + half)
  inner * inner ≤ square && square ≤ outer * outer

/-- Paints the cross and the ring of a marker, of lines that reach `half` to both sides. -/
def paintMarkerLines (c : Canvas) (x y half : Int) (color : Color) : Option Canvas := do
  let reach := markerArm + half
  let c ← c.paintColor (x - half) (y - reach) (2 * half) (2 * reach) color
  let c ← c.paintColor (x - reach) (y - half) (2 * reach) (2 * half) color
  let value := c.packing.encode color 1.0
  let outer := markerRadius + half
  c.fillWith (x - outer) (y - outer) (2 * outer) (2 * outer) fun c px py =>
    if isOnRing x y half px py then some value else c.pixel? px py

/-- Paints a marker around a point: a black outline, then a white core. -/
def paintMarker (c : Canvas) (x y : Int) : Option Canvas := do
  let c ← c.paintMarkerLines x y 2 .black
  c.paintMarkerLines x y 1 .white

/-- Paints bars of a height below each other, each in its own colour. A bar begins on a whole row,
so that the fraction of a row is lost anew with each bar. -/
def paintBars (x w : Int) (height : Float) : (y : Int) → List Color → Canvas → Option Canvas
  | _, [], c => some c
  | y, color :: colors, c => do
    let c ← c.paintFade x y w (truncate32 height) color
    paintBars x w height (truncate32 (Float.ofInt y + height)) colors c

/-- Paints the test pattern: bars three quarters of the width wide and eight hundredths of the
height high, from a tenth of the height on, and the four markers. -/
def paintPattern (c : Canvas) : Option Canvas := do
  let barWidth := c.width.toFloat * 0.75
  let barHeight := c.height.toFloat * 0.08
  let x := truncate32 ((c.width / 2).toFloat - barWidth / 2.0)
  let y := truncate32 (c.height.toFloat * 0.10)
  let w := signed32 c.width
  let h := signed32 c.height
  let c ← paintBars x (truncate32 barWidth) barHeight y
    [.pureRed, .pureGreen, .pureBlue, .white] c
  [(0, 0), (w, 0), (0, h), (w, h)].foldlM (fun c (x, y) => c.paintMarker x y) c

end Scanout.Canvas
