/-
Painting operations as rectangles.

* `Shade`, `Patch`: a way to shade pixels, and a rectangle that is shaded in one way;
* `Canvas.lay?`, `Canvas.layAll?`: the painting of one patch, and of one over the other;
* `Stroke.patch?`: the patch of a painting operation, which all but the test pattern have;
* `Canvas.lt_of_span`, `Canvas.mem_span`: the numbers of a span;
* `Canvas.putPixel_eq`: a pixel is painted as a rectangle of one;
* `Canvas.patternPatches`, `Canvas.paintPattern_eq`: the patches of the test pattern;
* `Stroke.patches`, `Canvas.stroke?_eq`: **every painting operation lays patches**.
-/
import Scanout.Canvas.Stroke
import Mathlib.Tactic.Lemma

namespace Scanout

/-- A way to shade pixels. -/
inductive Shade where
  /-- One colour. -/
  | solid (color : Color)
  /-- A translucent colour over what was there. -/
  | veil (color : Color) (alpha : Float)
  /-- A gradient along the diagonal. -/
  | slope (far near : Color)
  /-- One colour on the ring around a point, and elsewhere what was there. -/
  | ring (x y half : Int) (color : Color)

/-- A rectangle that is shaded in one way. -/
structure Patch where
  x : Int
  y : Int
  w : Int
  h : Int
  shade : Shade

namespace Canvas

variable {c : Canvas}

/-- Paints a patch. -/
def lay? (c : Canvas) (k : Patch) : Option Canvas :=
  match k.shade with
  | .solid color => c.paintColor k.x k.y k.w k.h color
  | .veil color alpha => c.paintAlpha k.x k.y k.w k.h color alpha
  | .slope far near => c.paintGradient k.x k.y k.w k.h far near
  | .ring x y half color =>
    let value := c.packing.encode color 1.0
    c.fillWith k.x k.y k.w k.h fun c px py =>
      if isOnRing x y half px py then some value else c.pixel? px py

/-- Paints patches, one over the other. -/
def layAll? (c : Canvas) (ks : List Patch) : Option Canvas :=
  ks.foldlM lay? c

/-! ### Spans and single pixels -/

/-- A number of a span is below the limit. -/
lemma lt_of_span {first size : Int} {limit n : Nat} (hlow : (span first size limit).1 ≤ n)
    (hhigh : n < (span first size limit).1 + (span first size limit).2) : n < limit := by
  simp only [span] at hlow hhigh
  omega

/-- The numbers of a span are those that were asked for, as far as the limit goes. -/
lemma mem_span {least size : Int} {limit n : Nat} (hn : n < limit) :
    ((span least size limit).1 ≤ n ∧ n < (span least size limit).1 + (span least size limit).2) ↔
      least ≤ n ∧ n < least + max size 0 := by
  simp only [span]
  omega

/-- A span of one number is that number, or empty where it is out of the limit. -/
lemma span_one (first : Int) (limit : Nat) :
    (¬(0 ≤ first ∧ first < limit) ∧ (span first 1 limit).2 = 0) ∨
      (0 ≤ first ∧ first < limit) ∧ span first 1 limit = (first.toNat, 1) := by
  have one : max (1 : Int) 0 = 1 := rfl
  simp only [span, one]
  by_cases hin : 0 ≤ first ∧ first < limit
  · refine .inr ⟨hin, ?_⟩
    rw [show (min (first + 1) limit).toNat - first.toNat = 1 by omega]
  · exact .inl ⟨hin, by omega⟩

/-- A pixel is painted as a rectangle of one. -/
lemma putPixel_eq (c : Canvas) (x y : Int) (color : Color) :
    c.putPixel x y color = c.paintColor x y 1 1 color := by
  simp only [putPixel, paintColor, fillWith, sweepArea_eq]
  rcases span_one y c.height with ⟨hout, hy⟩ | ⟨hiny, hy⟩
  · rw [if_neg fun hin => hout ⟨hin.2.1, hin.2.2.2⟩, hy, sweep]
  · rcases span_one x c.width with ⟨hout, hx⟩ | ⟨hinx, hx⟩
    · rw [if_neg fun hin => hout ⟨hin.1, hin.2.2.1⟩, hx]
      exact (sweep_some ..).symm
    · rw [if_pos ⟨hinx.1, hiny.1, hinx.2, hiny.2⟩, hx, hy, sweep_one, sweep_one]
      rfl

/-! ### The test pattern -/

/-- The rectangles of the cross and the ring of a marker. -/
def linePatches (x y half : Int) (color : Color) : List Patch :=
  let reach := markerArm + half
  let outer := markerRadius + half
  [⟨x - half, y - reach, 2 * half, 2 * reach, .solid color⟩,
   ⟨x - reach, y - half, 2 * reach, 2 * half, .solid color⟩,
   ⟨x - outer, y - outer, 2 * outer, 2 * outer, .ring x y half color⟩]

/-- The rectangles of a marker. -/
def markerPatches (x y : Int) : List Patch :=
  linePatches x y 2 .black ++ linePatches x y 1 .white

/-- The rectangles of bars below each other. -/
def barPatches (x w : Int) (height : Float) : (y : Int) → List Color → List Patch
  | _, [] => []
  | y, color :: colors =>
    ⟨x, y, w, truncate32 height, .slope .black color⟩ ::
      barPatches x w height (truncate32 (Float.ofInt y + height)) colors

/-- The rectangles of the test pattern on a canvas of some size. -/
def patternPatches (width height : Nat) : List Patch :=
  let barWidth := width.toFloat * 0.75
  let barHeight := height.toFloat * 0.08
  let x := truncate32 ((width / 2).toFloat - barWidth / 2.0)
  let y := truncate32 (height.toFloat * 0.10)
  let w := signed32 width
  let h := signed32 height
  barPatches x (truncate32 barWidth) barHeight y [.pureRed, .pureGreen, .pureBlue, .white] ++
    [(0, 0), (w, 0), (0, h), (w, h)].flatMap fun (x, y) => markerPatches x y

lemma layAll?_append (ks ls : List Patch) :
    c.layAll? (ks ++ ls) = c.layAll? ks >>= (·.layAll? ls) :=
  List.foldlM_append

lemma paintMarkerLines_eq (x y half : Int) (color : Color) :
    c.paintMarkerLines x y half color = c.layAll? (linePatches x y half color) := by
  simp only [layAll?, linePatches, List.foldlM_cons, List.foldlM_nil, bind_pure]
  rfl

lemma paintMarker_eq (x y : Int) : c.paintMarker x y = c.layAll? (markerPatches x y) := by
  simp only [markerPatches, layAll?_append, ← paintMarkerLines_eq]
  rfl

lemma paintBars_eq {x w y : Int} {height : Float} {colors : List Color} :
    paintBars x w height y colors c = c.layAll? (barPatches x w height y colors) := by
  induction colors generalizing c y with
  | nil => rfl
  | cons color colors ih =>
      rw [paintBars, barPatches, layAll?, List.foldlM_cons]
      exact bind_congr fun d => ih

/-- The test pattern is painted rectangle by rectangle. -/
lemma paintPattern_eq (c : Canvas) :
    c.paintPattern = c.layAll? (patternPatches c.width c.height) := by
  simp only [paintPattern, patternPatches, paintBars_eq, paintMarker_eq, layAll?_append,
    List.foldlM_cons, List.foldlM_nil, List.flatMap_cons, List.flatMap_nil]
  rfl

end Canvas

/-- The patch of a painting operation. -/
def Stroke.patch? : Stroke → Option Patch
  | .pixel x y color => some ⟨x, y, 1, 1, .solid color⟩
  | .fill x y w h color => some ⟨x, y, w, h, .solid color⟩
  | .blend x y w h color alpha => some ⟨x, y, w, h, .veil color alpha⟩
  | .fade x y w h color => some ⟨x, y, w, h, .slope .black color⟩
  | .gradient x y w h far near => some ⟨x, y, w, h, .slope far near⟩
  | .pattern => none

/-- The patches of a painting operation on a canvas of some size. -/
def Stroke.patches (s : Stroke) (width height : Nat) : List Patch :=
  match s.patch? with
  | some k => [k]
  | none => Canvas.patternPatches width height

namespace Canvas

variable {c : Canvas} {s : Stroke} {k : Patch}

lemma stroke?_of_patch (hk : s.patch? = some k) : c.stroke? s = c.lay? k := by
  cases s <;> cases hk
  case pixel x y color => exact putPixel_eq c x y color
  all_goals rfl

lemma eq_pattern_of_patch (hs : s.patch? = none) : s = .pattern := by
  cases s with
  | pattern => rfl
  | pixel | fill | blend | fade | gradient => cases hs

/-- **Every painting operation lays patches**, one over the other. -/
lemma stroke?_eq (c : Canvas) (s : Stroke) :
    c.stroke? s = c.layAll? (s.patches c.width c.height) := by
  unfold Stroke.patches
  cases hs : s.patch? with
  | some k =>
      rw [stroke?_of_patch hs, layAll?, List.foldlM_cons]
      exact (bind_pure _).symm
  | none =>
      rw [eq_pattern_of_patch hs]
      exact paintPattern_eq c

end Canvas

end Scanout
