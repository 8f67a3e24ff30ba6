/-
Scripts that paint on a canvas and look at it.

* `CanvasStep`: a painting operation, or a question about the canvas;
* `Reading`: the answer; a painting operation is answered by the fingerprint of the image after it;
* `Canvas.runSteps`: the answers of a script, up to and including a step that crashes.
-/
import Scanout.Canvas.Stroke
import Scanout.Fingerprint

namespace Scanout

/-- A painting operation, or a question about the canvas. -/
inductive CanvasStep where
  | stroke (s : Stroke)
  | pixel (x y : Nat)
  | colorAt (x y : Nat)
  | info
  | row (y : Nat)
  | rowPrints

/-- The answer to a step. -/
inductive Reading where
  | print (image : Fingerprint)
  | pixel (value : UInt32)
  | color (color : Color) (alpha : Float)
  | info (width height stride : Nat) (packing : Packing)
  | row (pixels : Array UInt32)
  | rowPrints (rows : Array Fingerprint)

namespace Canvas

/-- The fingerprint of the pixels of a rectangle, row by row. -/
def fingerprint? (c : Canvas) (left top width height : Nat) : Option Fingerprint :=
  sweepArea (fun x y f => (c.pixel? x y).map f.stepWord) left top width height Fingerprint.start

/-- The fingerprint of each row by itself. -/
def rowPrints? (c : Canvas) : Option (Array Fingerprint) :=
  sweep (fun y prints => (c.fingerprint? 0 y c.width 1).map prints.push) 0 c.height #[]

/-- The answer to a question. -/
def read? (c : Canvas) : CanvasStep → Option Reading
  | .stroke _ => (c.fingerprint? 0 0 c.width c.height).map .print
  | .pixel x y => (c.pixel? x y).map .pixel
  | .colorAt x y => (c.colorAt? x y).map fun (color, alpha) => .color color alpha
  | .info => some (.info c.width c.height c.stride c.packing)
  | .row y => (c.row? y).map .row
  | .rowPrints => c.rowPrints?.map .rowPrints

/-- The canvas after a step. A question leaves it as it is. -/
def advance? (c : Canvas) : CanvasStep → Option Canvas
  | .stroke s => c.stroke? s
  | .pixel .. | .colorAt .. | .info | .row .. | .rowPrints => some c

/-- The answers of a script and the canvas after it. A step that crashes has no answer and ends the
script, and leaves the canvas as it was before it. -/
def runSteps : List CanvasStep → Canvas → List (Option Reading) × Canvas
  | [], c => ([], c)
  | s :: steps, c =>
    match c.advance? s with
    | none => ([none], c)
    | some c =>
      match c.read? s with
      | none => ([none], c)
      | some reading =>
        let (readings, c) := runSteps steps c
        (some reading :: readings, c)

end Canvas

end Scanout
