/-
Painting is clipped to the canvas and local to each pixel.

* `Patch.InRange`, `Canvas.inRange_pattern`: the test pattern is given by thirty-two bit numbers;
* `Canvas.Clips`: a patch that was painted, and clipped to the canvas;
* `Canvas.stroke_clipped`: **painting changes no byte outside the pixels, no pixel outside the
  rectangle, and each pixel inside by what it held alone**.
-/
import Scanout.Proofs.Canvas.Filling

namespace Scanout

/-- A signed number of thirty-two bits. -/
def IsSigned32 (v : Int) : Prop :=
  -0x80000000 ≤ v ∧ v < 0x80000000

/-- The corner and the size of a patch are signed numbers of thirty-two bits. -/
def Patch.InRange (k : Patch) : Prop :=
  IsSigned32 k.x ∧ IsSigned32 k.y ∧ IsSigned32 k.w ∧ IsSigned32 k.h

namespace Canvas

variable {data : Bytes} {w h stride : Nat} {p : Packing} {c d : Canvas}

/-! ### Numbers of thirty-two bits -/

lemma isSigned32_truncate (v : Float) : IsSigned32 (truncate32 v) :=
  ⟨Int32.le_toInt _, Int32.toInt_lt _⟩

lemma signed32_of_le (hw : w ≤ 0x7fffffff) : signed32 w = w := by
  unfold signed32
  exact Int.bmod_eq_of_le (by omega) (by omega)

lemma inRange_bars {x w y : Int} {height : Float} {colors : List Color} (hx : IsSigned32 x)
    (hw : IsSigned32 w) (hy : IsSigned32 y) :
    ∀ k ∈ barPatches x w height y colors, k.InRange := by
  induction colors generalizing y with
  | nil => exact fun _ hk => nomatch hk
  | cons color colors ih =>
      rintro k (_ | ⟨_, hk⟩)
      · exact ⟨hx, hy, hw, isSigned32_truncate height⟩
      · exact ih (isSigned32_truncate _) k hk

lemma inRange_marker {x y : Int} (hx : 0 ≤ x ∧ x ≤ 0x7fffffff) (hy : 0 ≤ y ∧ y ≤ 0x7fffffff) :
    ∀ k ∈ markerPatches x y, k.InRange := by
  intro k hk
  simp only [markerPatches, linePatches, markerArm, markerRadius, List.cons_append,
    List.nil_append, List.mem_cons, List.not_mem_nil, or_false] at hk
  rcases hk with rfl | rfl | rfl | rfl | rfl | rfl <;>
    simp only [Patch.InRange, IsSigned32] <;> omega

/-- The test pattern of a canvas that is no wider and no higher than signed numbers go is painted
with such numbers. -/
lemma inRange_pattern (hw : w ≤ 0x7fffffff) (hh : h ≤ 0x7fffffff) :
    ∀ k ∈ patternPatches w h, k.InRange := by
  intro k hk
  simp only [patternPatches, List.mem_append, List.mem_flatMap] at hk
  rcases hk with hk | ⟨⟨x, y⟩, hxy, hk⟩
  · exact inRange_bars (isSigned32_truncate _) (isSigned32_truncate _) (isSigned32_truncate _) k hk
  · refine inRange_marker ?_ ?_ k hk
    all_goals
      simp only [signed32_of_le hw, signed32_of_le hh, List.mem_cons, Prod.mk.injEq,
        List.not_mem_nil, or_false] at hxy
      omega

/-! ### Painting operations -/

/-- A patch that was painted on a canvas is clipped to it: the pixels of both hold what follows from
their place and what they held, and all others what they held. -/
structure Clips (k : Patch) (c d : Canvas) : Prop where
  inside : ∀ x < c.width, ∀ y < c.height, k.Has x y →
    ∃ v, c.pixel? x y = some v ∧ d.pixel? x y = some (k.stored c.packing x y v)
  outside : ∀ x < c.width, ∀ y < c.height, ¬k.Has x y → d.pixel? x y = c.pixel? x y

lemma Becomes.clips {k : Patch} (h : c.Becomes (k.result c.packing) d) : Clips k c d where
  inside := by
    intro x hx y hy hin
    obtain ⟨v, hv, hd⟩ := h.pixel x hx y hy
    rw [Patch.result, if_pos hin] at hd
    exact ⟨v, hv, hd⟩
  outside := by
    intro x hx y hy hout
    obtain ⟨v, hv, hd⟩ := h.pixel x hx y hy
    rw [Patch.result, if_neg hout] at hd
    exact hd.trans hv.symm

/-- **Painting is clipped, local, and the same on every canvas.** On a canvas that could be made,
every painting operation succeeds, whatever its numbers are, and changes neither the shape of the
canvas nor a byte outside its pixels. An operation on a rectangle changes no pixel outside of it,
and stores in each one inside what follows from the operation, the place of the pixel and what it
held; on any other canvas of the same packing, the pixels that both have and that were the same
before are the same after it. The test pattern is painted rectangle by rectangle, and on a canvas
that is no larger than signed numbers of thirty-two bits go, these are given by such numbers. -/
theorem stroke_clipped (hc : make data w h stride p = .ok c) (s : Stroke) :
    ∃ d, c.stroke? s = some d ∧ d.shape = c.shape ∧
      (∀ i, ¬c.OnPixel i → d.data[i]? = c.data[i]?) ∧
      match s.patch? with
      | some k => Clips k c d ∧
          ∀ data' w' h' stride' c', make data' w' h' stride' p = .ok c' →
            ∃ d', c'.stroke? s = some d' ∧ ∀ x < min w w', ∀ y < min h h',
              c'.pixel? x y = c.pixel? x y → d'.pixel? x y = d.pixel? x y
      | none => c.layAll? (patternPatches w h) = some d ∧
          (w ≤ 0x7fffffff → h ≤ 0x7fffffff → ∀ k ∈ patternPatches w h, k.InRange) := by
  obtain ⟨rfl, hroomy⟩ := roomy_of_make hc
  -- every stroke but the pattern is one patch
  cases hs : s.patch? with
  | some k =>
      obtain ⟨d, hd, hcd⟩ := exists_lay hroomy k
      refine ⟨d, (stroke?_of_patch hs).trans hd, hcd.shape, hcd.spared, hcd.clips, ?_⟩
      intro data' w' h' stride' c' hc'
      obtain ⟨rfl, hroomy'⟩ := roomy_of_make hc'
      obtain ⟨d', hd', hcd'⟩ := exists_lay hroomy' k
      refine ⟨d', (stroke?_of_patch hs).trans hd', fun x hx y hy => ?_⟩
      obtain ⟨hx, hx'⟩ := Nat.lt_min.1 hx
      obtain ⟨hy, hy'⟩ := Nat.lt_min.1 hy
      exact hcd.agree hcd' hx hx' hy hy'
  | none =>
      obtain rfl := eq_pattern_of_patch hs
      obtain ⟨d, hd, hcd⟩ := exists_layAll hroomy (patternPatches w h)
      exact ⟨d, (paintPattern_eq _).trans hd, hcd.shape, hcd.spared, hd, inRange_pattern⟩

/-- Two rows of one pixel, the ends of which and what follows them are not painted on, beside one
row of two pixels, and the same rectangle on both. -/
theorem stroke_clipped_narrow :
    let narrow : Canvas := ⟨.zeros 8, 1, 2, 4, .rgb565⟩
    let wide : Canvas := ⟨.zeros 7, 2, 1, 5, .rgb565⟩
    let veil : Stroke := .blend (-1) 0 2 5 .white 0.5
    make (.zeros 8) 1 2 4 .rgb565 = .ok narrow ∧ make (.zeros 7) 2 1 5 .rgb565 = .ok wide ∧
      (∃ d d', narrow.stroke? veil = some d ∧ wide.stroke? veil = some d' ∧
        d.data[2]? = some 0 ∧ d.data[7]? = some 0 ∧ d'.pixel? 0 0 = d.pixel? 0 0) ∧
      ∃ d, narrow.stroke? .pattern = some d ∧ narrow.layAll? (patternPatches 1 2) = some d ∧
        ∀ k ∈ patternPatches 1 2, k.InRange := by
  intro narrow wide veil
  have hnarrow : make (.zeros 8) 1 2 4 .rgb565 = .ok narrow := rfl
  have hwide : make (.zeros 7) 2 1 5 .rgb565 = .ok wide := rfl
  obtain ⟨d, hd, -, hspared, -, hwider⟩ := stroke_clipped hnarrow veil
  obtain ⟨d', hd', hsame⟩ := hwider _ _ _ _ _ hwide
  obtain ⟨e, he, -, -, hlay, hrange⟩ := stroke_clipped hnarrow .pattern
  refine ⟨hnarrow, hwide, ⟨d, d', hd, hd', ?_, ?_, ?_⟩, e, he, hlay, ?_⟩
  · exact (hspared 2 (by decide)).trans (by decide)
  · exact (hspared 7 (by decide)).trans (by decide)
  · exact hsame 0 (by decide) 0 (by decide) (by decide)
  · exact hrange (by decide) (by decide)

end Canvas

end Scanout
