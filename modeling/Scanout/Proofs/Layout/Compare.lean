/-
Two layouts side by side, one of which needs no more room than the other.

* `Checked.Below`: two computations end alike, with results that are related, unless the second
  one has an excuse to fail;
* `Checked.Below.bind`: what is related stays so, step by step;
* `below_fit32`, `below_alignUp`, `below_doubleTo`: the arithmetic in thirty-two bits is monotone,
  in its results and in when it overflows;
* `Tile.Divides`: a whole number of tiles fits into another tile, both ways;
* `Layout.Within`: no measure of a layout is larger than that of another one;
* `Layout.planar_below`, `Layout.inTiles_below`: **smaller images, in tiles that divide the other
  ones, need no more room**.
-/
import Scanout.Proofs.Layout.Planes

namespace Scanout

variable {α β γ δ : Type} {excused : Failure → Prop}

/-! ### Computations that may fail -/

/-- Two computations fail alike, or both have results and these are related; but the second one may
end in any excused failure, whatever becomes of the first one. -/
inductive Checked.Below (excused : Failure → Prop) (R : α → β → Prop) :
    Checked α → Checked β → Prop
  | done {a : α} {b : β} (h : R a b) : Below excused R (.ok a) (.ok b)
  | failed (e : Failure) : Below excused R (.error e) (.error e)
  | excuse {e : Failure} (x : Checked α) (h : excused e) : Below excused R x (.error e)

namespace Checked.Below

variable {R : α → β → Prop} {S : γ → δ → Prop} {x : Checked α} {y : Checked β}

/-- What is related stays so when both computations go on. -/
lemma bind {f : α → Checked γ} {g : β → Checked δ} (h : Below excused R x y)
    (hfg : ∀ a b, R a b → Below excused S (f a) (g b)) :
    Below excused S (x >>= f) (y >>= g) := by
  cases h with
  | done h => exact hfg _ _ h
  | failed e => exact .failed e
  | excuse x h => exact .excuse _ h

/-- The same computation gives the same result. -/
lemma same (x : Checked α) : Below excused (· = ·) x x := by
  cases x with
  | ok a => exact .done rfl
  | error e => exact .failed e

/-- Where the second computation succeeds the first one does. -/
lemma exists_ok {b : β} (h : Below excused R x (.ok b)) : ∃ a, x = .ok a ∧ R a b := by
  cases h with
  | done h => exact ⟨_, rfl, h⟩

/-- Where every failure is excused, all that counts is what the second computation succeeds with. -/
lemma of_ok (h : ∀ b, y = .ok b → ∃ a, x = .ok a ∧ R a b) : Below (fun _ => True) R x y := by
  cases y with
  | ok b =>
      obtain ⟨a, rfl, hab⟩ := h b rfl
      exact .done hab
  | error e => exact .excuse x trivial

/-- What the first one fails with is what the second one fails with, or the excuse of that. -/
lemma exists_error {e : Failure} (h : Below excused R (.error e) y) :
    ∃ e', y = .error e' ∧ (e' = e ∨ excused e') := by
  cases h with
  | failed => exact ⟨e, rfl, .inl rfl⟩
  | excuse _ h => exact ⟨_, rfl, .inr h⟩

end Checked.Below

/-! ### Sizes in thirty-two bits -/

section Arithmetic

variable {m n align align' goal goal' value : Nat} {pos : 0 < value}

/-- Rounding up is monotone, also in what is rounded up to. -/
lemma roundUp_mono (hpos : 0 < align') (hd : align ∣ align') (h : m ≤ n) :
    roundUp m align ≤ roundUp n align' :=
  roundUp_le_of_dvd (Nat.pos_of_dvd_of_pos hd hpos) (Nat.dvd_trans hd (dvd_roundUp n align'))
    (Nat.le_trans h (le_roundUp hpos n))

variable (overflows : excused (.error .overflow))
include overflows

lemma below_fit32 (h : m ≤ n) : Checked.Below excused (· ≤ ·) (fit32 m) (fit32 n) := by
  unfold fit32
  by_cases hn : n < 0x100000000
  · rw [if_pos hn, if_pos (by omega)]
    exact .done h
  · rw [if_neg hn]
    exact .excuse _ overflows

lemma below_alignUp (hpos : 0 < align') (hd : align ∣ align') (h : m ≤ n) :
    Checked.Below excused (· ≤ ·) (alignUp m align) (alignUp n align') := by
  rw [alignUp, alignUp, if_neg (Nat.ne_of_gt (Nat.pos_of_dvd_of_pos hd hpos)),
    if_neg (Nat.ne_of_gt hpos)]
  exact below_fit32 overflows (roundUp_mono hpos hd h)

lemma below_doubleTo (h : goal ≤ goal') :
    Checked.Below excused (· ≤ ·) (doubleTo goal value pos) (doubleTo goal' value pos) := by
  -- by the steps of the second search, which is the longer one
  induction value, pos using doubleTo.induct goal' with
  | case1 value pos hle =>
      rw [doubleTo, doubleTo, if_pos hle, if_pos (Nat.le_trans h hle)]
      exact .done (Nat.le_refl value)
  | case2 value pos hlt hfit ih =>
      rw [doubleTo.eq_1 goal', if_neg hlt, dif_pos hfit]
      by_cases hle : goal ≤ value
      · -- the first search is over, and the second one only goes on to larger numbers
        rw [doubleTo, if_pos hle]
        cases hs : doubleTo goal' (2 * value) (by omega) with
        | ok m =>
            obtain ⟨-, hm, -⟩ := doubleTo_spec hs
            exact .done (by omega)
        | error e =>
            rw [hs] at ih
            rw [doubleTo, if_pos (by omega)] at ih
            cases ih with
            | excuse _ he => exact .excuse _ he
      · rw [doubleTo, if_neg hle, dif_pos hfit]
        exact ih
  | case3 value pos hlt hfit =>
      rw [doubleTo.eq_1 goal', if_neg hlt, dif_neg hfit]
      exact .excuse _ overflows

end Arithmetic

/-! ### Tiles -/

/-- A whole number of tiles fits into another tile, across and down. -/
structure Tile.Divides (tile tile' : Tile) : Prop where
  width : tile.width ∣ tile'.width
  height : tile.height ∣ tile'.height
  width_pos : 0 < tile'.width
  height_pos : 0 < tile'.height

/-- A tile divides itself. -/
lemma Tile.below_self (device : Device) (tiling : Tiling) (bpp : Nat) :
    Checked.Below excused Divides (Tile.of device tiling bpp) (Tile.of device tiling bpp) := by
  cases h : Tile.of device tiling bpp with
  | ok tile =>
      obtain ⟨hw, hh⟩ := Tile.pos_of_of? (Tile.of_eq_ok.1 h)
      exact .done ⟨Nat.dvd_refl _, Nat.dvd_refl _, hw, hh⟩
  | error e => exact .failed e

namespace Layout

variable {device device' : Device} {tiling tiling' : Tiling} {f : PixelFormat}
  {w w' height height' n plane stride stride' : Nat} {L M : Layout}

/-- No measure of a layout is larger than that of another one. -/
structure Within (L M : Layout) : Prop where
  stride : L.stride ≤ M.stride
  size : L.size ≤ M.size
  offset : ∀ plane, L.offset plane ≤ M.offset plane

/-- Without planes behind the first one, the stride and the size are all that counts. -/
lemma within_single {size size' : Nat} (hstride : stride ≤ stride') (hsize : size ≤ size') :
    Within ⟨stride, size, Vector.replicate _ 0⟩ ⟨stride', size', Vector.replicate _ 0⟩ :=
  ⟨hstride, hsize, fun _ => by rw [offset_replicate]; exact Nat.zero_le _⟩

/-- The offsets after that of one plane has been set. -/
lemma offset_set {size : Nat} {p : Nat} :
    offset ⟨L.stride, size, L.offsets.setIfInBounds plane L.size⟩ p =
      if p = plane ∧ plane < maxPlanes then L.size else L.offset p := by
  rw [offset]
  by_cases hp : p = plane
  · subst hp
    by_cases hroom : p < maxPlanes
    · rw [Vector.getElem?_setIfInBounds_self_of_lt hroom, if_pos ⟨rfl, hroom⟩, Option.getD_some]
    · rw [if_neg fun h => hroom h.2, offset, Vector.getElem?_eq_none (Nat.le_of_not_lt hroom),
        Vector.getElem?_eq_none (Nat.le_of_not_lt hroom)]
  · rw [Vector.getElem?_setIfInBounds_ne (Ne.symm hp), if_neg fun h => hp h.1, offset]

/-- The next plane needs no more room. -/
lemma Within.next (h : Within L M) {size size' : Nat} (hsize : size ≤ size') :
    Within ⟨L.stride, size, L.offsets.setIfInBounds plane L.size⟩
      ⟨M.stride, size', M.offsets.setIfInBounds plane M.size⟩ := by
  refine ⟨h.stride, hsize, fun p => ?_⟩
  rw [offset_set, offset_set]
  split
  · exact h.size
  · exact h.offset p

lemma width_mono (hw : w ≤ w') : Plane.width f w plane ≤ Plane.width f w' plane := by
  simp only [Plane.width, halfUp]
  split <;> omega

lemma height_mono (hh : height ≤ height') :
    Plane.height f height plane ≤ Plane.height f height' plane := by
  simp only [Plane.height, halfUp]
  split <;> omega

/-! ### Planes and packed pixels -/

section Below

variable (overflows : excused (.error .overflow))
  (htile : ∀ bpp, Checked.Below excused Tile.Divides (Tile.of device tiling bpp)
    (Tile.of device' tiling' bpp))
include overflows

lemma rowBytes_below (hw : w ≤ w') :
    Checked.Below excused (· ≤ ·) (Plane.rowBytes f w plane) (Plane.rowBytes f w' plane) :=
  (Checked.Below.same _).bind fun bpp _ hbpp => by
    subst hbpp
    exact below_fit32 overflows (Nat.mul_le_mul_right _ (width_mono hw))

include htile

lemma planeStride_below (hw : w ≤ w') :
    Checked.Below excused (· ≤ ·) (planeStride device tiling f w plane)
      (planeStride device' tiling' f w' plane) :=
  (Checked.Below.same _).bind fun bpp _ hbpp => by
    subst hbpp
    exact (htile bpp).bind fun tile tile' hd => (rowBytes_below overflows hw).bind
      fun row row' hle => below_alignUp overflows hd.width_pos hd.width hle

lemma planeRows_below (hh : height ≤ height') :
    Checked.Below excused (· ≤ ·) (planeRows device tiling f height plane)
      (planeRows device' tiling' f height' plane) :=
  (Checked.Below.same _).bind fun bpp _ hbpp => by
    subst hbpp
    exact (htile bpp).bind fun tile tile' hd =>
      below_alignUp overflows hd.height_pos hd.height (height_mono hh)

lemma widestStride_below (hw : w ≤ w') (hle : stride ≤ stride') :
    Checked.Below excused (· ≤ ·) (widestStride device tiling f w n plane stride)
      (widestStride device' tiling' f w' n plane stride') := by
  induction n generalizing plane stride stride' with
  | zero => exact .done hle
  | succ n ih =>
      exact (planeStride_below overflows htile hw).bind fun own own' hown => ih (by omega)

lemma stack_below (hh : height ≤ height') (hLM : Within L M) :
    Checked.Below excused Within (stack device tiling f height n plane L)
      (stack device' tiling' f height' n plane M) := by
  induction n generalizing plane L M with
  | zero => exact .done hLM
  | succ n ih =>
      refine (planeRows_below overflows htile hh).bind fun rows rows' hrows => ?_
      refine (below_fit32 overflows (Nat.mul_le_mul hLM.stride hrows)).bind
        fun bytes bytes' hbytes => ?_
      exact (below_fit32 overflows (Nat.add_le_add hLM.size hbytes)).bind
        fun size size' hsize => ih (hLM.next hsize)

/-- **Planes of a smaller image, in tiles that divide the other ones, need no more room.** -/
lemma planar_below (hw : w ≤ w') (hh : height ≤ height') :
    Checked.Below excused Within (planar device tiling f w height)
      (planar device' tiling' f w' height') :=
  (widestStride_below overflows htile hw (Nat.le_refl 0)).bind fun _ _ hstride =>
    stack_below overflows htile hh (within_single hstride (Nat.le_refl 0))

/-- **Packed pixels of a smaller image, in tiles that divide the other ones, need no more room**,
where there are no fence registers. -/
lemma inTiles_below (hw : w ≤ w') (hh : height ≤ height')
    (htiles : ¬(tiling ≠ .linear ∧ device.hasLegacyFences))
    (htiles' : ¬(tiling' ≠ .linear ∧ device'.hasLegacyFences)) :
    Checked.Below excused Within (packed device tiling f w height)
      (packed device' tiling' f w' height') := by
  unfold packed
  simp only [if_neg htiles, if_neg htiles']
  refine (htile f.bpp).bind fun tile tile' hd => ?_
  refine (below_fit32 overflows (Nat.mul_le_mul_right _ hw)).bind fun row row' hrow => ?_
  refine (below_alignUp overflows hd.width_pos hd.width hrow).bind fun s s' hs => ?_
  refine (below_alignUp overflows hd.height_pos hd.height hh).bind fun rows rows' hrows => ?_
  exact (below_fit32 overflows (Nat.mul_le_mul hrows hs)).bind fun size size' hsize =>
    .done (within_single hs hsize)

end Below

end Layout

end Scanout
