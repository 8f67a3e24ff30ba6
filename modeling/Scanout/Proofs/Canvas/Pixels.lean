/-
What is stored in a pixel, and what is read back.

* `Bytes.lowBytes`: what is left of a number in so many bytes;
* `Bytes.exists_putWord?`, `Bytes.getElem?_putWord?`, `Bytes.word?_putWord?`: a number that is
  stored is read back, and no other byte changes;
* `Canvas.Shape.Roomy`: every row holds its pixels, and the buffer every row;
* `Canvas.OnPixel`: the bytes of the pixels, which leave out the ends of rows and what follows the
  last one;
* `Canvas.Becomes`: each pixel changes by what it held itself, and nothing but pixels does;
* `Canvas.exists_store`: **a pixel that is stored changes alone**.
-/
import Mathlib.Algebra.Group.Nat.Defs
import Scanout.Proofs.Samples.Painting

namespace Scanout

namespace Bytes

variable {b b' : Bytes} {n pos pos' i : Nat} {v : UInt32}

/-! ### Numbers of several bytes -/

/-- What is left of a number in `n` bytes. -/
def lowBytes (n : Nat) (v : UInt32) : UInt32 :=
  .ofNat (v.toNat % 256 ^ n)

lemma toNat_lowBytes (n : Nat) (v : UInt32) : (lowBytes n v).toNat = v.toNat % 256 ^ n :=
  UInt32.toNat_ofNat_of_lt' (Nat.lt_of_le_of_lt (Nat.mod_le _ _) v.toNat_lt)

/-- The lowest byte of a number, and the others above it. -/
lemma lowBytes_succ (hn : n < 4) (v : UInt32) :
    v.toUInt8.toUInt32 ||| lowBytes n (v >>> 8) <<< 8 = lowBytes (n + 1) v := by
  refine UInt32.toNat_inj.1 ?_
  have room : v.toNat / 256 % 256 ^ n * 256 < 2 ^ 32 :=
    calc
      _ < 256 ^ n * 256 :=
          Nat.mul_lt_mul_of_pos_right (Nat.mod_lt _ (Nat.pow_pos (by decide))) (by decide)
      _ = 256 ^ (n + 1) := (Nat.pow_succ ..).symm
      _ ≤ 256 ^ 4 := Nat.pow_le_pow_right (by decide) hn
      _ = 2 ^ 32 := by decide
  have high : (v >>> 8).toNat = v.toNat / 256 := by
    simp [UInt32.toNat_shiftRight, Nat.shiftRight_eq_div_pow]
  have whole : v.toNat % 256 ^ (n + 1) = 2 ^ 8 * (v.toNat / 256 % 256 ^ n) + v.toNat % 2 ^ 8 := by
    rw [Nat.pow_succ, Nat.mul_comm (256 ^ n), Nat.mod_mul]
    omega
  rw [toNat_lowBytes, whole, Nat.two_pow_add_eq_or_of_lt (Nat.mod_lt _ (by decide)), Nat.or_comm,
    UInt32.toNat_or, UInt32.toNat_shiftLeft, toNat_lowBytes, high, Nat.shiftLeft_eq]
  rw [show 2 ^ ((8 : UInt32).toNat % 32) = 256 from rfl, Nat.mod_eq_of_lt room, Nat.mul_comm]
  rfl

/-- The same bytes hold the same number. -/
lemma word?_congr (h : ∀ k < n, b[pos + k]? = b'[pos' + k]?) : b.word? n pos = b'.word? n pos' := by
  induction n generalizing pos pos' with
  | zero => rfl
  | succ n ih =>
      have rest : b.word? n (pos + 1) = b'.word? n (pos' + 1) := ih fun k hk => by
        rw [Nat.add_right_comm, Nat.add_assoc, Nat.add_right_comm pos', Nat.add_assoc pos']
        exact h (k + 1) (Nat.succ_lt_succ hk)
      rw [word?, word?, rest, show b[pos]? = b'[pos']? from h 0 (Nat.succ_pos n)]

/-- Inside the buffer there is a number. -/
lemma exists_word? (h : pos + n ≤ b.size) : ∃ v, b.word? n pos = some v := by
  obtain ⟨v, _, hv, -⟩ : Both (· = ·) (b.word? n pos) (b.word? n pos) :=
    Places.both_word fun k hk =>
      have hlt : pos + k < b.size := by omega
      ⟨b[pos + k], getElem?_pos b _ hlt, getElem?_pos b _ hlt⟩
  exact ⟨v, hv⟩

lemma putWord?_succ : b.putWord? (n + 1) pos v = some b' ↔
    ∃ b₁, b.put? pos v.toUInt8 = some b₁ ∧ b₁.putWord? n (pos + 1) (v >>> 8) = some b' :=
  Option.bind_eq_some_iff

/-- Inside the buffer a number is stored. -/
lemma exists_putWord? (h : pos + n ≤ b.size) :
    ∃ b', b.putWord? n pos v = some b' ∧ b'.size = b.size := by
  induction n generalizing b pos v with
  | zero => exact ⟨b, rfl, rfl⟩
  | succ n ih =>
      obtain ⟨b₁, hb₁, hsize⟩ := exists_put? v.toUInt8 (show pos < b.size by omega)
      obtain ⟨b', hb', hsize'⟩ := ih (b := b₁) (v := v >>> 8) (show pos + 1 + n ≤ b₁.size by omega)
      exact ⟨b', putWord?_succ.2 ⟨b₁, hb₁, hb'⟩, hsize'.trans hsize⟩

/-- A number that is stored changes no byte but its own. -/
lemma getElem?_putWord? (h : b.putWord? n pos v = some b') (hi : i < pos ∨ pos + n ≤ i) :
    b'[i]? = b[i]? := by
  induction n generalizing b pos v with
  | zero =>
      cases h
      rfl
  | succ n ih =>
      obtain ⟨b₁, hb₁, hb'⟩ := putWord?_succ.1 h
      rw [ih hb' (by omega), getElem?_put? hb₁, if_neg (by omega)]

/-- A number that is stored is read back, as much of it as was stored. -/
lemma word?_putWord? (hn : n ≤ 4) (h : b.putWord? n pos v = some b') :
    b'.word? n pos = some (lowBytes n v) := by
  induction n generalizing b pos v with
  | zero =>
      rw [word?, lowBytes, Nat.pow_zero, Nat.mod_one]
      rfl
  | succ n ih =>
      obtain ⟨b₁, hb₁, hb'⟩ := putWord?_succ.1 h
      have low : b'[pos]? = some v.toUInt8 := by
        rw [getElem?_putWord? hb' (.inl (Nat.lt_succ_self pos)), getElem?_put? hb₁, if_pos rfl]
      rw [word?, low, ih (by omega) hb', ← lowBytes_succ hn]
      rfl

end Bytes

lemma Packing.bytesPerPixel_le (p : Packing) : p.bytesPerPixel ≤ 4 := by
  cases p <;> decide

namespace Canvas

variable {data : Bytes} {w h stride x y x' y' i : Nat} {p : Packing} {c d e : Canvas} {v : UInt32}
  {f g : Nat → Nat → UInt32 → UInt32}

/-! ### Canvases that hold their pixels -/

/-- Every row holds its pixels, and the buffer every row. -/
structure Shape.Roomy (s : Shape) : Prop where
  row : s.rowBytes ≤ s.stride
  rows : 0 < s.height → (s.height - 1) * s.stride + s.rowBytes ≤ s.size

/-- A canvas that can be made has room for its pixels. -/
lemma roomy_of_make (hc : make data w h stride p = .ok c) :
    c = ⟨data, w, h, stride, p⟩ ∧ c.shape.Roomy := by
  rw [make] at hc
  split at hc
  · cases hc
  · next hrow =>
      split at hc
      · cases hc
      · next hrows =>
          cases hc
          refine ⟨rfl, Nat.le_of_not_lt hrow, fun hh => ?_⟩
          exact Nat.le_of_not_lt fun hlt => hrows ⟨hh, hlt⟩

/-- A byte of a pixel. -/
def OnPixel (c : Canvas) (i : Nat) : Prop :=
  ∃ x < c.width, ∃ y < c.height,
    c.offset x y ≤ i ∧ i < c.offset x y + c.packing.bytesPerPixel

instance (c : Canvas) (i : Nat) : Decidable (c.OnPixel i) :=
  inferInstanceAs (Decidable (∃ x, x < c.width ∧ ∃ y, y < c.height ∧ _))

/-- Pixels lie inside the buffer. -/
lemma offset_le (hc : c.shape.Roomy) (hx : x < c.width) (hy : y < c.height) :
    c.offset x y + c.packing.bytesPerPixel ≤ c.data.size :=
  have hcell := row_end_le hx (Nat.le_refl c.packing.bytesPerPixel)
  calc
    _ = y * c.stride + (x * c.packing.bytesPerPixel + c.packing.bytesPerPixel) := Nat.add_assoc ..
    _ ≤ (c.height - 1) * c.stride + c.shape.rowBytes :=
        Nat.add_le_add (Nat.mul_le_mul_right _ (by omega)) hcell
    _ ≤ c.data.size := hc.rows (Nat.zero_lt_of_lt hy)

/-- Pixels lie apart. -/
lemma offset_apart (hc : c.shape.Roomy) (hx : x < c.width) (hx' : x' < c.width)
    (hne : ¬(x' = x ∧ y' = y)) :
    c.offset x y + c.packing.bytesPerPixel ≤ c.offset x' y' ∨
      c.offset x' y' + c.packing.bytesPerPixel ≤ c.offset x y := by
  have hrow : c.packing.bytesPerPixel * c.width ≤ c.stride :=
    Nat.mul_comm c.width _ ▸ hc.row
  simp only [offset, Nat.mul_comm _ c.packing.bytesPerPixel]
  exact cells_apart hrow hx hx' fun heq => hne heq.symm

/-- There is a pixel in each place. -/
lemma exists_pixel (hc : c.shape.Roomy) (hx : x < c.width) (hy : y < c.height) :
    ∃ v, c.pixel? x y = some v :=
  Bytes.exists_word? (offset_le hc hx hy)

/-! ### Canvases that change pixel by pixel -/

/-- Each pixel of a canvas changes by a rule, which is given its place and what it held, and nothing
but pixels changes. -/
structure Becomes (f : Nat → Nat → UInt32 → UInt32) (c d : Canvas) : Prop where
  shape : d.shape = c.shape
  spared : ∀ i, ¬c.OnPixel i → d.data[i]? = c.data[i]?
  pixel : ∀ x < c.width, ∀ y < c.height, ∃ v, c.pixel? x y = some v ∧ d.pixel? x y = some (f x y v)

/-- Canvases of one shape are alike in all but their bytes. -/
lemma eq_of_shape (h : d.shape = c.shape) : d = { c with data := d.data } := by
  cases d
  simp only [shape, Shape.mk.injEq] at h
  obtain ⟨-, rfl, rfl, rfl, rfl⟩ := h
  rfl

namespace Becomes

lemma onPixel (h : Becomes f c d) : d.OnPixel i ↔ c.OnPixel i := by
  rw [eq_of_shape h.shape]
  rfl

lemma width (h : Becomes f c d) : d.width = c.width :=
  congrArg Shape.width h.shape

lemma height (h : Becomes f c d) : d.height = c.height :=
  congrArg Shape.height h.shape

lemma packing (h : Becomes f c d) : d.packing = c.packing :=
  congrArg Shape.packing h.shape

/-- Only what becomes of the pixels that there are matters. -/
lemma congr (h : Becomes f c d)
    (hfg : ∀ x < c.width, ∀ y < c.height, ∀ v, c.pixel? x y = some v → f x y v = g x y v) :
    Becomes g c d where
  shape := h.shape
  spared := h.spared
  pixel := by
    intro x hx y hy
    obtain ⟨v, hv, hd⟩ := h.pixel x hx y hy
    exact ⟨v, hv, hfg x hx y hy v hv ▸ hd⟩

/-- A canvas that is left alone. -/
lemma refl (hc : c.shape.Roomy) : Becomes (fun _ _ v => v) c c where
  shape := rfl
  spared _ _ := rfl
  pixel := by
    intro x hx y hy
    obtain ⟨v, hv⟩ := exists_pixel hc hx hy
    exact ⟨v, hv, hv⟩

/-- One change after the other. -/
lemma trans (hcd : Becomes f c d) (hde : Becomes g d e) :
    Becomes (fun x y v => g x y (f x y v)) c e where
  shape := hde.shape.trans hcd.shape
  spared i hi := (hde.spared i (mt hcd.onPixel.1 hi)).trans (hcd.spared i hi)
  pixel := by
    intro x hx y hy
    obtain ⟨v, hv, hd⟩ := hcd.pixel x hx y hy
    obtain ⟨u, hu, he⟩ := hde.pixel x (hcd.width.symm ▸ hx) y (hcd.height.symm ▸ hy)
    cases hd.symm.trans hu
    exact ⟨v, hv, he⟩

/-- What changes by one rule is the same afterwards if it was before, on whatever canvas it is. -/
lemma agree {c' d' : Canvas} (hc : Becomes f c c') (hd : Becomes f d d') (hx : x < c.width)
    (hx' : x < d.width) (hy : y < c.height) (hy' : y < d.height)
    (h : d.pixel? x y = c.pixel? x y) : d'.pixel? x y = c'.pixel? x y := by
  obtain ⟨v, hv, hc'⟩ := hc.pixel x hx y hy
  obtain ⟨u, hu, hd'⟩ := hd.pixel x hx' y hy'
  cases (hu.symm.trans h).trans hv
  rw [hc', hd']

end Becomes

/-- **A pixel that is stored changes alone.** -/
lemma exists_store (hc : c.shape.Roomy) (hx : x < c.width) (hy : y < c.height) (v : UInt32) :
    ∃ d, c.store? x y v = some d ∧ c.Becomes (fun x' y' old =>
      if x' = x ∧ y' = y then Bytes.lowBytes c.packing.bytesPerPixel v else old) d := by
  obtain ⟨data, hdata, hsize⟩ := Bytes.exists_putWord? (v := v) (offset_le hc hx hy)
  refine ⟨{ c with data }, by rw [store?_eq, hdata, Option.map_some], ?_, fun i hi => ?_, ?_⟩
  · simp only [Canvas.shape, hsize]
  · refine Bytes.getElem?_putWord? hdata (Decidable.byContradiction fun hin => ?_)
    exact hi ⟨x, hx, y, hy, by omega⟩
  · intro x' hx' y' hy'
    obtain ⟨old, hold⟩ := exists_pixel hc hx' hy'
    refine ⟨old, hold, ?_⟩
    by_cases heq : x' = x ∧ y' = y
    · obtain ⟨rfl, rfl⟩ := heq
      rw [if_pos ⟨rfl, rfl⟩]
      exact Bytes.word?_putWord? c.packing.bytesPerPixel_le hdata
    · rw [if_neg heq, ← hold]
      -- another pixel lies apart from this one
      have apart := offset_apart hc hx hx' heq
      refine Bytes.word?_congr fun k (hk : k < c.packing.bytesPerPixel) => ?_
      refine Bytes.getElem?_putWord? hdata ?_
      show c.offset x' y' + k < c.offset x y ∨
        c.offset x y + c.packing.bytesPerPixel ≤ c.offset x' y' + k
      omega

end Canvas

end Scanout
