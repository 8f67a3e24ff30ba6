/-
Painting does not depend on where the pixels lie.

* `Canvas.Shape`: all of a canvas but the bytes in it, of which the number counts;
* `Canvas.Twins`: two canvases hold the same pixels, each in rows of its own;
* `Canvas.Twins.pixel`, `Canvas.Twins.store`: a pixel is read and stored on both alike;
* `Canvas.Twins.fillWith`, `Canvas.Twins.lay`: so is every rectangle that is painted by a rule, and
  so every patch;
* `Canvas.Twins.strokes`: **whatever is painted on both, they stay twins**.
-/
import Scanout.Proofs.Canvas.Patches
import Scanout.Proofs.Samples.Both

namespace Scanout.Canvas

/-- All of a canvas but the bytes in it, of which the number counts. -/
structure Shape where
  size : Nat
  width : Nat
  height : Nat
  stride : Nat
  packing : Packing

/-- The shape of a canvas. -/
def shape (c : Canvas) : Shape :=
  ⟨c.data.size, c.width, c.height, c.stride, c.packing⟩

/-- The bytes of a row of pixels. -/
def Shape.rowBytes (s : Shape) : Nat :=
  s.width * s.packing.bytesPerPixel

/-- Two shapes of one image, each with rows that do not reach into each other. -/
structure Shape.Pair (s t : Shape) : Prop where
  width : t.width = s.width
  height : t.height = s.height
  packing : t.packing = s.packing
  left : s.rowBytes ≤ s.stride
  right : s.rowBytes ≤ t.stride

variable {s t : Shape} {hst : s.Pair t} {c d : Canvas} {x y : Nat}

/-- Two canvases hold the same pixels, each in rows of its own. -/
structure Twins (hst : s.Pair t) (c d : Canvas) : Prop where
  left : c.shape = s
  right : d.shape = t
  same : Places.Same (.rows hst.left : Places (OnRows s.height s.rowBytes)) (.rows hst.right)
    s.size t.size c.data d.data

lemma store?_eq {value : UInt32} : c.store? x y value =
    (c.data.putWord? c.packing.bytesPerPixel (c.offset x y) value).map fun data =>
      { c with data } := by
  rw [store?]
  show Option.bind _ _ = _
  cases c.data.putWord? c.packing.bytesPerPixel (c.offset x y) value <;> rfl

namespace Twins

lemma agree (h : Twins hst c d) :
    d.width = c.width ∧ d.height = c.height ∧ d.packing = c.packing := by
  obtain ⟨rfl, rfl, -⟩ := h
  exact ⟨hst.width, hst.height, hst.packing⟩

/-- The bytes of a pixel lie in its row. -/
lemma pixel_on (h : Twins hst c d) (hx : x < c.width) (hy : y < c.height) :
    ∀ k < c.packing.bytesPerPixel,
      OnRows s.height s.rowBytes (y, x * c.packing.bytesPerPixel + k) := by
  obtain ⟨rfl, -, -⟩ := h
  intro k hk
  refine ⟨hy, ?_⟩
  have := row_end_le hx (Nat.le_refl c.packing.bytesPerPixel)
  simp only [Shape.rowBytes, shape]
  omega

/-- A pixel is read on both alike. -/
lemma pixel (h : Twins hst c d) (hx : x < c.width) (hy : y < c.height) :
    Both (· = ·) (c.pixel? x y) (d.pixel? x y) := by
  have hon := h.pixel_on hx hy
  obtain ⟨-, -, hp⟩ := h.agree
  obtain ⟨rfl, rfl, hsame⟩ := h
  simp only [pixel?]
  rw [hp]
  refine Places.both_word ?_
  intro k hk
  obtain ⟨u, hc, hd⟩ := hsame.sample _ (hon k hk)
  refine ⟨u, ?_, ?_⟩
  · rw [offset, Nat.add_assoc]
    exact hc
  · rw [offset, Nat.add_assoc, hp]
    exact hd

/-- A pixel is stored on both alike. -/
lemma store {value : UInt32} (h : Twins hst c d) (hx : x < c.width) (hy : y < c.height) :
    Both (Twins hst) (c.store? x y value) (d.store? x y value) := by
  have hon := h.pixel_on hx hy
  obtain ⟨-, -, hp⟩ := h.agree
  obtain ⟨rfl, rfl, hsame⟩ := h
  have hc : ∀ k < c.packing.bytesPerPixel,
      y * c.stride + (x * c.packing.bytesPerPixel + k) = c.offset x y + k := fun k _ => by
    rw [offset, Nat.add_assoc]
  have hd : ∀ k < c.packing.bytesPerPixel,
      y * d.stride + (x * c.packing.bytesPerPixel + k) = d.offset x y + k := fun k _ => by
    rw [offset, Nat.add_assoc, hp]
  obtain ⟨c', d', hc, hd, hsame'⟩ := hsame.putWord (v := value) hon hc hd
  rw [← hp] at hd
  refine ⟨{ c with data := c' }, { d with data := d' }, ?_, ?_, ?_, ?_, hsame'⟩
  · rw [store?_eq, hc, Option.map_some]
  · rw [store?_eq, hd, Option.map_some]
  · simp only [shape, hsame'.left]
  · simp only [shape, hsame'.right]

/-! ### Painting operations -/

/-- **A rectangle is painted on both alike**, if the rule gives the same for every pixel. -/
lemma fillWith {left top w q : Int} {f g : Canvas → Nat → Nat → Option UInt32}
    (h : Twins hst c d)
    (rule : ∀ c d, Twins hst c d → ∀ x y, x < c.width → y < c.height →
      Both (· = ·) (f c x y) (g d x y)) :
    Both (Twins hst) (c.fillWith left top w q f) (d.fillWith left top w q g) := by
  obtain ⟨hw, hh, -⟩ := h.agree
  have shape : ∀ {c' : Canvas}, c'.shape = s → c'.width = c.width ∧ c'.height = c.height := by
    intro c' hc
    rw [← h.left] at hc
    exact ⟨congrArg Shape.width hc, congrArg Shape.height hc⟩
  simp only [Canvas.fillWith]
  rw [hw, hh]
  refine sweepArea_both (fun x hx hx' y hy hy' c' d' h' => ?_) h
  obtain ⟨hcw, hch⟩ := shape h'.left
  have hx : x < c'.width := hcw ▸ lt_of_span hx hx'
  have hy : y < c'.height := hch ▸ lt_of_span hy hy'
  exact (rule c' d' h' x y hx hy).bind fun u v huv => huv ▸ h'.store hx hy

/-- A patch is painted on both alike. -/
lemma lay {k : Patch} (h : Twins hst c d) : Both (Twins hst) (c.lay? k) (d.lay? k) := by
  have hp : d.packing = c.packing := h.agree.2.2
  unfold lay?
  -- a shade is made of colours, places and the pixel that is there, and these are the same in both
  cases k.shade with
  | solid color =>
      simp only [paintColor, hp]
      exact h.fillWith fun _ _ _ _ _ _ _ => both_some rfl
  | veil color alpha =>
      refine h.fillWith fun c d h x y hx hy => ?_
      obtain ⟨u, v, hc, hd, rfl⟩ := h.pixel hx hy
      simp only [colorAt?, hc, hd, h.agree.2.2]
      exact both_some rfl
  | slope far near =>
      refine h.fillWith fun c d h x y _ _ => ?_
      rw [h.agree.2.2]
      exact both_some rfl
  | ring cx cy half color =>
      refine h.fillWith fun c d h x y hx hy => ?_
      split
      · rw [hp]
        exact both_some rfl
      · exact h.pixel hx hy

/-- A painting operation is done on both alike. -/
lemma stroke {k : Stroke} (h : Twins hst c d) : Both (Twins hst) (c.stroke? k) (d.stroke? k) := by
  obtain ⟨hw, hh, -⟩ := h.agree
  rw [stroke?_eq, stroke?_eq, hw, hh]
  exact foldlM_both (fun _ _ _ h => h.lay) _ h

/-- **Whatever is painted on both, they stay twins**, and nothing stops the painting. -/
lemma strokes {l : List Stroke} (h : Twins hst c d) :
    Both (Twins hst) (c.strokes? l) (d.strokes? l) :=
  foldlM_both (fun _ _ _ h => h.stroke) l h

end Twins

end Scanout.Canvas
