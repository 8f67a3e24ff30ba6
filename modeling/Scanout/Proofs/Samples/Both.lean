/-
Two computations side by side, on buffers that hold the same in different places.

* `Both`: two computations have results, and these are related;
* `Both.bind`, `sweep_both`, `foldlM_both`: what is related stays so, step by step;
* `sweep_upto`, `sweep_keeps`: a sweep succeeds if each step leads on to the next;
* `Places`: where the samples of an image lie in a buffer, each in a place of its own;
* `Places.Same`: two buffers hold the same samples;
* `Places.Same.put`, `Places.Same.putWord`: **a sample that is stored in both is the same in both**,
  and all others stay as they are;
* `cells_apart`, `row_column_inj`: in rows that do not reach into each other, cells lie apart;
* `Places.rows`: the places of an image in rows.
-/
import Scanout.Bytes
import Scanout.Sweep
import Mathlib.Tactic.Lemma

namespace Scanout

variable {α β γ δ ι : Type}

/-- Two computations have results, and these are related. -/
def Both (R : α → β → Prop) (x : Option α) (y : Option β) : Prop :=
  ∃ a b, x = some a ∧ y = some b ∧ R a b

variable {R : α → β → Prop} {S : γ → δ → Prop}

lemma both_some {a : α} {b : β} (h : R a b) : Both R (some a) (some b) :=
  ⟨a, b, rfl, rfl, h⟩

lemma Both.bind {x : Option α} {y : Option β} {f : α → Option γ} {g : β → Option δ}
    (h : Both R x y) (hfg : ∀ a b, R a b → Both S (f a) (g b)) : Both S (x >>= f) (y >>= g) := by
  obtain ⟨a, b, rfl, rfl, hab⟩ := h
  exact hfg a b hab

/-- What every step keeps related is related in the end. -/
lemma sweep_both {f : Nat → α → Option α} {g : Nat → β → Option β} {first count : Nat} {a : α}
    {b : β} (step : ∀ i, first ≤ i → i < first + count → ∀ a b, R a b → Both R (f i a) (g i b))
    (h : R a b) : Both R (sweep f first count a) (sweep g first count b) := by
  induction count generalizing first a b with
  | zero => exact both_some h
  | succ count ih =>
      obtain ⟨a', b', ha, hb, hab⟩ := step first (Nat.le_refl _) (by omega) a b h
      rw [sweep, sweep, ha, hb]
      exact ih (fun i hi hc => step i (by omega) (by omega)) hab

/-- A sweep succeeds if each step does and leads on to what the next one needs. -/
lemma sweep_upto {P : Nat → α → Prop} {f : Nat → α → Option α} {first count : Nat} {a : α}
    (step : ∀ i, first ≤ i → i < first + count → ∀ a, P i a → ∃ b, f i a = some b ∧ P (i + 1) b)
    (h : P first a) : ∃ b, sweep f first count a = some b ∧ P (first + count) b := by
  induction count generalizing first a with
  | zero => exact ⟨a, rfl, h⟩
  | succ count ih =>
      obtain ⟨b, hb, hP⟩ := step first (Nat.le_refl _) (by omega) a h
      rw [sweep, hb, ← Nat.succ_add_eq_add_succ first count]
      exact ih (fun i hi hc => step i (by omega) (by omega)) hP

/-- A sweep whose steps succeed, and keep what they need for that, succeeds. -/
lemma sweep_keeps {P : α → Prop} {f : Nat → α → Option α} {first count : Nat} {a : α}
    (step : ∀ i, first ≤ i → i < first + count → ∀ a, P a → ∃ b, f i a = some b ∧ P b) (h : P a) :
    ∃ b, sweep f first count a = some b ∧ P b :=
  sweep_upto (P := fun _ => P) step h

/-- The same over the places of a rectangle. -/
lemma sweepArea_both {f : Nat → Nat → α → Option α} {g : Nat → Nat → β → Option β}
    {left top width height : Nat} {a : α} {b : β}
    (step : ∀ x, left ≤ x → x < left + width → ∀ y, top ≤ y → y < top + height →
      ∀ a b, R a b → Both R (f x y a) (g x y b)) (h : R a b) :
    Both R (sweepArea f left top width height a) (sweepArea g left top width height b) := by
  rw [sweepArea_eq, sweepArea_eq]
  exact sweep_both (fun y hy hy' _ _ hab =>
    sweep_both (fun x hx hx' => step x hx hx' y hy hy') hab) h

/-- The same over the members of a list. -/
lemma foldlM_both {f : α → γ → Option α} {g : β → γ → Option β}
    (step : ∀ k a b, R a b → Both R (f a k) (g b k)) (l : List γ) {a : α} {b : β} (h : R a b) :
    Both R (l.foldlM f a) (l.foldlM g b) := by
  induction l generalizing a b with
  | nil => exact both_some h
  | cons k l ih =>
      rw [List.foldlM_cons, List.foldlM_cons]
      exact (step k a b h).bind fun a b hab => ih hab

/-- Sweeps whose steps are the same are the same. -/
lemma sweep_congr {f g : Nat → α → Option α} {first count : Nat} {a : α}
    (h : ∀ i, first ≤ i → i < first + count → ∀ a, f i a = g i a) :
    sweep f first count a = sweep g first count a := by
  induction count generalizing first a with
  | zero => rfl
  | succ count ih =>
      rw [sweep, sweep, h first (Nat.le_refl _) (by omega)]
      cases g first a with
      | none => rfl
      | some a => exact ih fun i hi hc => h i (by omega) (by omega)

/-! ### Samples and their places -/

/-- Where the samples of an image lie in a buffer, each in a place of its own. -/
structure Places (Valid : ι → Prop) where
  place : ι → Nat
  apart : ∀ i j, Valid i → Valid j → place i = place j → i = j

namespace Places

variable {Valid : ι → Prop} {p q r : Places Valid} {m n k : Nat} {d e c : Bytes}

/-- Two buffers of certain sizes hold the same samples. -/
structure Same (p q : Places Valid) (m n : Nat) (d e : Bytes) : Prop where
  left : d.size = m
  right : e.size = n
  sample : ∀ i, Valid i → ∃ x, d[p.place i]? = some x ∧ e[q.place i]? = some x

lemma Same.symm (h : Same p q m n d e) : Same q p n m e d := by
  refine ⟨h.right, h.left, fun i hi => ?_⟩
  obtain ⟨x, hd, he⟩ := h.sample i hi
  exact ⟨x, he, hd⟩

lemma Same.trans (h : Same p q m n d e) (h' : Same q r n k e c) : Same p r m k d c := by
  refine ⟨h.left, h'.right, fun i hi => ?_⟩
  obtain ⟨x, hd, he⟩ := h.sample i hi
  obtain ⟨y, he', hc⟩ := h'.sample i hi
  cases he.symm.trans he'
  exact ⟨x, hd, hc⟩

/-- Every sample lies inside the buffer. -/
lemma Same.lt_size {i : ι} (h : Same p q m n d e) (hi : Valid i) : p.place i < d.size := by
  obtain ⟨x, hd, -⟩ := h.sample i hi
  exact (getElem?_eq_some_iff.1 hd).1

/-- A sample that is put in its place is there, and all others are as before. -/
lemma getElem?_put {i j : ι} {u : UInt8} (hi : Valid i) (hj : Valid j)
    (h : d.put? (p.place i) u = some e) :
    (j = i → e[p.place j]? = some u) ∧ (j ≠ i → e[p.place j]? = d[p.place j]?) := by
  rw [Bytes.getElem?_put? h]
  refine ⟨fun hji => if_pos (congrArg _ hji), fun hji => if_neg fun hp => hji ?_⟩
  exact p.apart j i hj hi hp

/-- **A sample that is stored in both buffers is the same in both.** -/
lemma Same.put {i : ι} {u : UInt8} (h : Same p q m n d e) (hi : Valid i) :
    Both (Same p q m n) (d.put? (p.place i) u) (e.put? (q.place i) u) := by
  obtain ⟨d', hd, hds⟩ := Bytes.exists_put? u (h.lt_size hi)
  obtain ⟨e', he, hes⟩ := Bytes.exists_put? u (h.symm.lt_size hi)
  refine ⟨d', e', hd, he, hds.trans h.left, hes.trans h.right, fun j hj => ?_⟩
  obtain ⟨hd₁, hd₂⟩ := getElem?_put hi hj hd
  obtain ⟨he₁, he₂⟩ := getElem?_put hi hj he
  by_cases hji : j = i
  · exact ⟨u, hd₁ hji, he₁ hji⟩
  · rw [hd₂ hji, he₂ hji]
    exact h.sample j hj

/-- The same for a number of several bytes. -/
lemma Same.putWord {l a b : Nat} {v : UInt32} {i : Nat → ι} (h : Same p q m n d e)
    (hi : ∀ k < l, Valid (i k)) (ha : ∀ k < l, p.place (i k) = a + k)
    (hb : ∀ k < l, q.place (i k) = b + k) :
    Both (Same p q m n) (d.putWord? l a v) (e.putWord? l b v) := by
  induction l generalizing d e a b v i with
  | zero => exact both_some h
  | succ l ih =>
      have first := h.put (u := v.toUInt8) (hi 0 (Nat.succ_pos l))
      rw [ha 0 (Nat.succ_pos l), hb 0 (Nat.succ_pos l)] at first
      refine first.bind fun d' e' h' => ih (i := fun k => i (k + 1)) h' (fun k hk => ?_)
        (fun k hk => ?_) fun k hk => ?_
      · exact hi (k + 1) (Nat.succ_lt_succ hk)
      · rw [ha (k + 1) (Nat.succ_lt_succ hk)]
        omega
      · rw [hb (k + 1) (Nat.succ_lt_succ hk)]
        omega

/-- A number of several bytes that both buffers hold. -/
lemma both_word {l a b : Nat} (h : ∀ k < l, ∃ x, d[a + k]? = some x ∧ e[b + k]? = some x) :
    Both (· = ·) (d.word? l a) (e.word? l b) := by
  induction l generalizing a b with
  | zero => exact both_some rfl
  | succ l ih =>
      obtain ⟨x, hd, he⟩ := h 0 (Nat.succ_pos l)
      rw [Nat.add_zero] at hd he
      rw [Bytes.word?, Bytes.word?, hd, he]
      refine (ih fun k hk => ?_).bind fun u v huv => ?_
      · obtain ⟨y, hy⟩ := h (k + 1) (Nat.succ_lt_succ hk)
        rw [Nat.add_right_comm, Nat.add_assoc, Nat.add_right_comm b, Nat.add_assoc b]
        exact ⟨y, hy⟩
      · subst huv
        exact both_some rfl

end Places

/-! ### Rows -/

/-- A row before the last one ends where the next one begins, or before. -/
lemma row_end_le {row rows len stride : Nat} (hrow : row < rows) (hlen : len ≤ stride) :
    row * stride + len ≤ rows * stride := by
  have : (row + 1) * stride ≤ rows * stride := Nat.mul_le_mul_right _ hrow
  rw [Nat.add_mul, Nat.one_mul] at this
  omega

/-- Cells of some width, in rows that do not reach into each other, lie apart. -/
lemma cells_apart {row row' column column' columns width stride : Nat}
    (hstride : width * columns ≤ stride) (hcol : column < columns) (hcol' : column' < columns)
    (hne : ¬(row' = row ∧ column' = column)) :
    row * stride + width * column + width ≤ row' * stride + width * column' ∨
      row' * stride + width * column' + width ≤ row * stride + width * column := by
  have before : ∀ {c c'}, c < c' → width * c + width ≤ width * c' :=
    fun hlt => Nat.mul_le_mul_left width hlt
  -- two rows, or two columns of one row
  rcases Nat.lt_trichotomy row row' with hlt | rfl | hlt
  · have := row_end_le hlt hstride
    have := before hcol
    omega
  · rcases Nat.lt_or_gt_of_ne fun heq => hne ⟨rfl, heq⟩ with hlt | hlt
    · have := before hlt
      omega
    · have := before hlt
      omega
  · have := row_end_le hlt hstride
    have := before hcol'
    omega

/-- A place in such rows is in one row only. -/
lemma row_column_inj {row row' i i' len stride : Nat} (hlen : len ≤ stride) (hi : i < len)
    (hi' : i' < len) (heq : row * stride + i = row' * stride + i') : row = row' ∧ i = i' := by
  refine Decidable.byContradiction fun hne => ?_
  have := cells_apart (show 1 * len ≤ stride by omega) hi' hi hne
  omega

/-- A byte of an image in rows: the number of its row, and its number there. -/
def OnRows (height len : Nat) (i : Nat × Nat) : Prop :=
  i.1 < height ∧ i.2 < len

/-- The places of an image in rows that do not reach into each other. -/
def Places.rows {height len stride : Nat} (h : len ≤ stride) : Places (OnRows height len) where
  place i := i.1 * stride + i.2
  apart := by
    rintro ⟨y, i⟩ ⟨y', i'⟩ ⟨-, hi⟩ ⟨-, hi'⟩ heq
    obtain ⟨rfl, rfl⟩ := row_column_inj h hi hi' heq
    rfl

end Scanout
