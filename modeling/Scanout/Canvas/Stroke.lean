/-
Painting operations as data.

* `Stroke`: one operation with its arguments;
* `Canvas.stroke?`: what it does;
* `Canvas.strokes?`: what a list of them does, one after the other.
-/
import Scanout.Canvas.Pattern

namespace Scanout

/-- A painting operation. -/
inductive Stroke where
  | pixel (x y : Int) (color : Color)
  | fill (x y w h : Int) (color : Color)
  | blend (x y w h : Int) (color : Color) (alpha : Float)
  | fade (x y w h : Int) (color : Color)
  | gradient (x y w h : Int) (far near : Color)
  | pattern

namespace Canvas

/-- The canvas after a painting operation. -/
def stroke? (c : Canvas) : Stroke → Option Canvas
  | .pixel x y color => c.putPixel x y color
  | .fill x y w h color => c.paintColor x y w h color
  | .blend x y w h color alpha => c.paintAlpha x y w h color alpha
  | .fade x y w h color => c.paintFade x y w h color
  | .gradient x y w h far near => c.paintGradient x y w h far near
  | .pattern => c.paintPattern

/-- The canvas after painting operations, one after the other. -/
def strokes? (c : Canvas) (strokes : List Stroke) : Option Canvas :=
  strokes.foldlM stroke? c

end Canvas

end Scanout
