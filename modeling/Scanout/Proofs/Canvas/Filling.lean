/-
Rectangles are filled pixel by pixel.

* `Patch.Has`, `Patch.value`, `Patch.result`: the pixels of a patch, and what each comes to hold by
  what it held;
* `Canvas.sweep_becomes`: the changes of a sweep add up;
* `Canvas.exists_fillWith`: **a rectangle that is filled changes pixel by pixel**, and only inside;
* `Canvas.exists_lay`, `Canvas.exists_layAll`: so does a patch, and so do many.
-/
import Scanout.Proofs.Canvas.Pixels

namespace Scanout

namespace Patch

/-- The pixels of a patch: from its corner on as many columns and rows as its size says, and none
where that is negative. -/
def Has (k : Patch) (px py : Nat) : Prop :=
  (k.x ≤ px ∧ px < k.x + max k.w 0) ∧ k.y ≤ py ∧ py < k.y + max k.h 0

instance (k : Patch) (px py : Nat) : Decidable (k.Has px py) :=
  inferInstanceAs (Decidable (_ ∧ _))

/-- The number that a patch stores in a pixel that held `old`. -/
def value (k : Patch) (p : Packing) (px py : Nat) (old : UInt32) : UInt32 :=
  match k.shade with
  | .solid color => p.encode color 1.0
  | .veil color alpha =>
    let (under, underAlpha) := p.decode old
    let (mixed, total) := Canvas.blend color (clampUnit alpha) under underAlpha
    p.encode mixed total
  | .slope far near => p.encode (near.mix far (Canvas.diagonalPart k.x k.y k.w k.h px py)) 1.0
  | .ring x y half color => if Canvas.isOnRing x y half px py then p.encode color 1.0 else old

/-- What a pixel holds of that number, as far as its bytes go. -/
def stored (k : Patch) (p : Packing) (px py : Nat) (old : UInt32) : UInt32 :=
  Bytes.lowBytes p.bytesPerPixel (k.value p px py old)

/-- What a pixel that held `old` holds after a patch was painted. -/
def result (k : Patch) (p : Packing) (px py : Nat) (old : UInt32) : UInt32 :=
  if k.Has px py then k.stored p px py old else old

end Patch

namespace Canvas

variable {c d : Canvas} {x y first count left top width height : Nat} {k : Patch}

/-! ### Rectangles -/

/-- What is done on one part and then on another one, apart from it, is done on both. -/
lemma ite_ite_apart {α : Type} {S T U : Prop} [Decidable S] [Decidable T] [Decidable U] {f : α → α}
    {v : α} (both : U ↔ S ∨ T) (apart : ¬(S ∧ T)) :
    (if T then f (if S then f v else v) else if S then f v else v) = if U then f v else v := by
  by_cases hS : S
  · rw [if_pos hS, if_neg fun hT => apart ⟨hS, hT⟩, if_pos (both.2 (.inl hS))]
  · rw [if_neg hS]
    by_cases hT : T
    · rw [if_pos hT, if_pos (both.2 (.inr hT))]
    · rw [if_neg hT, if_neg fun hU => (both.1 hU).elim hS hT]

section Filling

variable {rule : Canvas → Nat → Nat → Option UInt32} (hc : c.shape.Roomy)
  (hrule : ∀ a : Canvas, a.shape = c.shape → ∀ x y old, a.pixel? x y = some old →
    rule a x y = some (k.value c.packing x y old))
include hc

/-- The changes of a sweep add up. -/
lemma sweep_becomes {step : Nat → Canvas → Option Canvas} {f g : Nat → Nat → Nat → UInt32 → UInt32}
    (hstep : ∀ i, first ≤ i → i < first + count → ∀ a : Canvas, a.shape = c.shape →
      ∃ b, step i a = some b ∧ a.Becomes (f i) b)
    (start : ∀ x y v, g first x y v = v)
    (next : ∀ i, first ≤ i → ∀ x y v, f i x y (g i x y v) = g (i + 1) x y v) :
    ∃ d, sweep step first count c = some d ∧ c.Becomes (g (first + count)) d := by
  refine sweep_upto (P := fun i => c.Becomes (g i)) (fun i hi hlt a ha => ?_)
    ((Becomes.refl hc).congr fun x _ y _ v _ => (start x y v).symm)
  obtain ⟨b, hb, hab⟩ := hstep i hi hlt a ha.shape
  exact ⟨b, hb, (ha.trans hab).congr fun x _ y _ v _ => next i hi x y v⟩

include hrule

/-- One pixel that is filled. -/
lemma exists_fill (hd : d.shape = c.shape) (hx : x < c.width) (hy : y < c.height) :
    ∃ e, (do let value ← rule d x y; d.store? x y value) = some e ∧ d.Becomes (fun x' y' v =>
      if x' = x ∧ y' = y then k.stored c.packing x' y' v else v) e := by
  rw [← hd] at hc
  rw [eq_of_shape hd.symm] at hx hy
  obtain ⟨old, hold⟩ := exists_pixel hc hx hy
  obtain ⟨e, he, hde⟩ := exists_store hc hx hy (k.value c.packing x y old)
  refine ⟨e, by rw [hrule d hd x y old hold]; exact he, hde.congr fun x' _ y' _ v hv => ?_⟩
  split
  · next heq =>
      obtain ⟨rfl, rfl⟩ := heq
      cases hold.symm.trans hv
      rw [eq_of_shape hd]
      rfl
  · rfl

/-- A row of pixels that is filled. -/
lemma exists_fillRow (hd : d.shape = c.shape) (hy : y < c.height)
    (hx : ∀ x, left ≤ x → x < left + width → x < c.width) :
    ∃ e, sweep (fun x d => do let value ← rule d x y; d.store? x y value) left width d = some e ∧
      d.Becomes (fun x' y' v =>
        if (left ≤ x' ∧ x' < left + width) ∧ y' = y then k.stored c.packing x' y' v else v) e := by
  have hroomy : d.shape.Roomy := hd.symm ▸ hc
  -- up to column `n` the row is filled, and the step there fills one pixel more
  refine sweep_becomes hroomy
    (f := fun n x' y' v => if x' = n ∧ y' = y then k.stored c.packing x' y' v else v)
    (g := fun n x' y' v =>
      if (left ≤ x' ∧ x' < n) ∧ y' = y then k.stored c.packing x' y' v else v) ?_ ?_ ?_
  · intro x hge hlt a ha
    exact exists_fill hc hrule (ha.trans hd) (hx x hge hlt) hy
  · intro x' y' v
    exact if_neg (by omega)
  · intro n hn x' y' v
    exact ite_ite_apart (by omega) (by omega)

/-- The rows of a rectangle that is filled. -/
lemma exists_fillRows (hx : ∀ x, left ≤ x → x < left + width → x < c.width)
    (hy : ∀ y, top ≤ y → y < top + height → y < c.height) :
    ∃ d, sweepArea (fun x y d => do let value ← rule d x y; d.store? x y value)
        left top width height c = some d ∧
      c.Becomes (fun x y v =>
        if (left ≤ x ∧ x < left + width) ∧ top ≤ y ∧ y < top + height then
          k.stored c.packing x y v else v) d := by
  rw [sweepArea_eq]
  -- after the rows up to `n` what has been filled is the rectangle as far as `n`
  refine sweep_becomes hc
    (f := fun n x y v =>
      if (left ≤ x ∧ x < left + width) ∧ y = n then k.stored c.packing x y v else v)
    (g := fun n x y v =>
      if (left ≤ x ∧ x < left + width) ∧ top ≤ y ∧ y < n then k.stored c.packing x y v else v)
    ?_ ?_ ?_
  · intro y hge hlt a ha
    exact exists_fillRow hc hrule ha (hy y hge hlt) hx
  · intro x y v
    exact if_neg (by omega)
  · intro n hn x y v
    exact ite_ite_apart (by omega) (by omega)

/-- **A rectangle that is filled changes pixel by pixel**, and only inside, if the rule goes by what
each pixel holds. -/
lemma exists_fillWith :
    ∃ d, c.fillWith k.x k.y k.w k.h rule = some d ∧ c.Becomes (k.result c.packing) d := by
  have columns : ∀ x, (span k.x k.w c.width).1 ≤ x →
      x < (span k.x k.w c.width).1 + (span k.x k.w c.width).2 → x < c.width :=
    fun _ => lt_of_span
  have rows : ∀ y, (span k.y k.h c.height).1 ≤ y →
      y < (span k.y k.h c.height).1 + (span k.y k.h c.height).2 → y < c.height :=
    fun _ => lt_of_span
  obtain ⟨d, hd, hcd⟩ := exists_fillRows hc hrule columns rows
  refine ⟨d, hd, hcd.congr fun x hx y hy v _ => ?_⟩
  simp only [mem_span hx, mem_span hy]
  rfl

end Filling

/-! ### Patches -/

/-- A patch that is painted changes pixel by pixel. -/
lemma exists_lay (hc : c.shape.Roomy) (k : Patch) :
    ∃ d, c.lay? k = some d ∧ c.Becomes (k.result c.packing) d := by
  obtain ⟨left, top, w, h, shade⟩ := k
  cases shade with
  | solid color => exact exists_fillWith hc fun _ _ _ _ _ _ => rfl
  | veil color alpha =>
      refine exists_fillWith hc fun a ha x y old hold => ?_
      simp only [colorAt?, hold]
      rw [eq_of_shape ha]
      rfl
  | slope far near =>
      refine exists_fillWith hc fun a ha x y old hold => ?_
      rw [eq_of_shape ha]
      rfl
  | ring cx cy half color =>
      refine exists_fillWith hc fun a _ x y old hold => ?_
      rw [hold]
      exact (apply_ite some (isOnRing cx cy half x y = true) _ _).symm

/-- Patches that are painted one over the other change each pixel in turn. -/
lemma exists_layAll (hc : c.shape.Roomy) (ks : List Patch) :
    ∃ d, c.layAll? ks = some d ∧
      c.Becomes (fun x y v => ks.foldl (fun v k => k.result c.packing x y v) v) d := by
  induction ks generalizing c with
  | nil => exact ⟨c, rfl, .refl hc⟩
  | cons k ks ih =>
      obtain ⟨d, hd, hcd⟩ := exists_lay hc k
      obtain ⟨e, he, hde⟩ := ih (c := d) (hcd.shape.symm ▸ hc)
      rw [hcd.packing] at hde
      refine ⟨e, ?_, hcd.trans hde⟩
      rw [layAll?, List.foldlM_cons, hd]
      exact he

end Canvas

end Scanout
