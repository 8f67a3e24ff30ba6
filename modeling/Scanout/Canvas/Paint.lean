/-
Painting on a canvas.

* `Canvas.putPixel`: one pixel;
* `Canvas.fillWith`: every pixel of a rectangle, by a rule;
* `Canvas.paintColor`, `Canvas.paintAlpha`, `Canvas.paintGradient`: the rules for a solid colour,
  for a translucent one, and for a gradient.

Rectangles are given by a corner and a size, which may lie anywhere, and are clipped to the
canvas: a negative size is empty. There is no canvas to return only when a pixel lies outside its
buffer, which `Canvas.make` rules out.
-/
import Scanout.Canvas

namespace Scanout.Canvas

/-- The numbers from `first` on, `size` of them, that are not negative and below `limit`, by the
least of them and by how many they are. -/
def span (first size : Int) (limit : Nat) : Nat × Nat :=
  let low := first.toNat
  let high := (min (first + max size 0) limit).toNat
  (low, high - low)

/-- Visits the pixels of a rectangle, row by row and from left to right, and stores into each the
value that the rule gives for it on the canvas as it is by then. -/
def fillWith (c : Canvas) (x y w h : Int) (rule : Canvas → Nat → Nat → Option UInt32) :
    Option Canvas :=
  let (left, width) := span x w c.width
  let (top, height) := span y h c.height
  sweepArea
    (fun px py c => do
      let value ← rule c px py
      c.store? px py value)
    left top width height c

/-- Paints one pixel; a place outside the canvas is ignored. -/
def putPixel (c : Canvas) (x y : Int) (color : Color) : Option Canvas :=
  if 0 ≤ x ∧ 0 ≤ y ∧ x < c.width ∧ y < c.height then
    let value := c.packing.encode color 1.0
    c.store? x.toNat y.toNat value
  else some c

/-- Fills a rectangle with a colour. -/
def paintColor (c : Canvas) (x y w h : Int) (color : Color) : Option Canvas :=
  let value := c.packing.encode color 1.0
  c.fillWith x y w h fun _ _ _ => some value

/-- The colour and alpha of a translucent colour over another one. Where nothing is left to be seen
the colour is black. -/
def blend (color : Color) (alpha : Float) (under : Color) (underAlpha : Float) : Color × Float :=
  let total := alpha + underAlpha * (1.0 - alpha)
  let mixed (s d : Float) : Float := (s * alpha + d * underAlpha * (1.0 - alpha)) / total
  if 0.0 < total then
    (⟨mixed color.red under.red, mixed color.green under.green, mixed color.blue under.blue⟩, total)
  else (Color.black, total)

/-- Lays a translucent colour over the pixels of a rectangle. -/
def paintAlpha (c : Canvas) (x y w h : Int) (color : Color) (alpha : Float) : Option Canvas :=
  let alpha := clampUnit alpha
  c.fillWith x y w h fun c px py => do
    let (under, underAlpha) ← c.colorAt? px py
    let (mixed, total) := blend color alpha under underAlpha
    return c.packing.encode mixed total

/-- How far the centre of a pixel lies along the diagonal of a rectangle, from zero at the corner to
one at the opposite corner. -/
def diagonalPart (x y w h : Int) (px py : Nat) : Float :=
  let dx := Float.ofInt w
  let dy := Float.ofInt h
  let length := dx * dx + dy * dy
  let cx := px.toFloat + 0.5 - Float.ofInt x
  let cy := py.toFloat + 0.5 - Float.ofInt y
  if 0.0 < length then clampUnit ((cx * dx + cy * dy) / length) else 0.0

/-- Fills a rectangle with a gradient along its diagonal, from `near` at its corner to `far` at the
opposite one, each pixel having the colour of its centre. -/
def paintGradient (c : Canvas) (x y w h : Int) (far near : Color) : Option Canvas :=
  c.fillWith x y w h fun c px py =>
    some (c.packing.encode (near.mix far (diagonalPart x y w h px py)) 1.0)

/-- Fills a rectangle with a gradient from a colour at its corner to black. -/
def paintFade (c : Canvas) (x y w h : Int) (color : Color) : Option Canvas :=
  c.paintGradient x y w h .black color

end Scanout.Canvas
