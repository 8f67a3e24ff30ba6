/-
Rows of zeros stored into a buffer.

* `Bytes.Zeroed`: some bytes are others with zeros in certain places;
* `Store.Reached`: the places that rows reach, up to the first that does not fit;
* `Store.zeroed_scatter`: **what rows of zeros leave of a buffer**, where some of them may not fit;
* `Store.zeroed_copied`: the same for a copy of a rectangle that holds nothing but zeros.
-/
import Scanout.Proofs.Store.Rows

namespace Scanout

namespace Bytes

/-- Some bytes are others with zeros in certain places. -/
def Zeroed (W : Nat → Prop) (b d : Bytes) : Prop :=
  ∀ j : Nat, (W j → d[j]? = some 0) ∧ (¬W j → d[j]? = b[j]?)

variable {W V : Nat → Prop} {b d e : Bytes}

lemma Zeroed.congr (h : Zeroed W b d) (hW : ∀ j, W j ↔ V j) : Zeroed V b d :=
  fun j => ⟨fun hv => (h j).1 ((hW j).2 hv), fun hv => (h j).2 fun hw => hv ((hW j).1 hw)⟩

lemma zeroed_self (hW : ∀ j, ¬W j) : Zeroed W b b :=
  fun j => ⟨fun hw => absurd hw (hW j), fun _ => rfl⟩

/-- Where there is no place for a zero the bytes are the same. -/
lemma Zeroed.eq (h : Zeroed W b d) (hW : ∀ j, ¬W j) : d = b :=
  ext_getElem? fun j => (h j).2 (hW j)

lemma Zeroed.trans (h : Zeroed W b d) (h' : Zeroed V d e) : Zeroed (fun j => W j ∨ V j) b e := by
  refine fun j => ⟨fun hwv => ?_, fun hwv => ?_⟩
  · by_cases hv : V j
    · exact (h' j).1 hv
    · exact ((h' j).2 hv).trans ((h j).1 (hwv.resolve_right hv))
  · rw [not_or] at hwv
    exact ((h' j).2 hwv.2).trans ((h j).2 hwv.1)

/-- Nothing changes exactly when there were zeros already. -/
lemma Zeroed.eq_iff (h : Zeroed W b d) : d = b ↔ ∀ j, W j → b[j]? = some 0 := by
  refine ⟨fun heq j hw => heq ▸ (h j).1 hw, fun hzero => ext_getElem? fun j => ?_⟩
  by_cases hw : W j
  · exact ((h j).1 hw).trans (hzero j hw).symm
  · exact (h j).2 hw

/-- A run of zeros in its place. -/
lemma zeroed_overwrite {source : Bytes} {pos a len : Nat} (hfit : pos + len ≤ b.size)
    (hs : ∀ i < len, source[a + i]? = some 0) :
    Zeroed (fun j => pos ≤ j ∧ j < pos + len) b (b.overwrite pos (source.slice a len)) := by
  have hsize : (source.slice a len).size = len := by
    rw [size_slice]
    cases len with
    | zero => exact Nat.zero_min _
    | succ n =>
        have hlast := hs n (Nat.lt_succ_self n)
        rw [getElem?_eq_some_iff] at hlast
        obtain ⟨hlt, -⟩ := hlast
        omega
  refine fun j => ⟨fun hj => ?_, fun hj => ?_⟩
  · rw [getElem?_overwrite, hsize, if_pos (by omega), getElem?_slice, if_pos (by omega)]
    exact hs _ (by omega)
  · rw [getElem?_overwrite, hsize, if_neg (by omega)]

end Bytes

namespace Store

variable {h : Handle} {source bytes : Bytes} {ss ds len n p q : Nat}

/-- A place that rows reach: one of them holds it, and that one and all before it fit. -/
def Reached (size n q ds len j : Nat) : Prop :=
  ∃ row < n, (q + row * ds ≤ j ∧ j < q + row * ds + len) ∧ ∀ k ≤ row, q + k * ds + len ≤ size

/-- Where the first row fits, a place is in it or is reached by the rows after it. -/
lemma reached_succ {size j : Nat} (hfit : q + len ≤ size) :
    Reached size (n + 1) q ds len j ↔
      (q ≤ j ∧ j < q + len) ∨ Reached size n (q + ds) ds len j := by
  simp only [Reached, row_next]
  constructor
  · rintro ⟨row, hrow, hj, hk⟩
    cases row with
    | zero => exact .inl (by rwa [row_first] at hj)
    | succ row =>
        exact .inr ⟨row, Nat.lt_of_succ_lt_succ hrow, hj,
          fun k hk' => hk (k + 1) (Nat.succ_le_succ hk')⟩
  · rintro (hj | ⟨row, hrow, hj, hk⟩)
    · refine ⟨0, Nat.succ_pos n, by rwa [row_first], fun k hk => ?_⟩
      rwa [Nat.le_zero.1 hk, row_first]
    · refine ⟨row + 1, Nat.succ_lt_succ hrow, hj, fun k hk' => ?_⟩
      cases k with
      | zero => rwa [row_first]
      | succ k => exact hk k (Nat.le_of_succ_le_succ hk')

/-- Where the first row does not fit no place is reached. -/
lemma not_reached {size j : Nat} (hfit : ¬q + len ≤ size) : ¬Reached size n q ds len j := by
  rintro ⟨row, -, -, hk⟩
  have first := hk 0 (Nat.zero_le row)
  rw [row_first] at first
  exact hfit first

/-- **What rows of zeros leave of a buffer**: zeros in the rows up to the first that does not fit.
-/
lemma zeroed_scatter (hs : ∀ row < n, ∀ i < len, source[p + row * ss + i]? = some 0) :
    Bytes.Zeroed (Reached bytes.size n q ds len) bytes
      (scatter h source ss ds len n p q bytes).1 := by
  induction n generalizing p q bytes with
  | zero =>
      refine Bytes.zeroed_self ?_
      rintro j ⟨row, hrow, -⟩
      exact absurd hrow (Nat.not_lt_zero row)
  | succ n ih =>
      rw [scatter, checkRange]
      by_cases hfit : q + len ≤ bytes.size
      · rw [if_pos hfit]
        have hs₀ := hs 0 (Nat.succ_pos n)
        rw [row_first] at hs₀
        have rest := @ih (bytes.overwrite q (source.slice p len)) (p + ss) (q + ds)
          fun row hrow => by rw [row_next]; exact hs (row + 1) (Nat.succ_lt_succ hrow)
        -- a row keeps the size, so that the same rows fit after it
        rw [Bytes.size_overwrite] at rest
        exact ((Bytes.zeroed_overwrite hfit hs₀).trans rest).congr fun j => (reached_succ hfit).symm
      · rw [if_neg hfit]
        exact Bytes.zeroed_self fun j => not_reached hfit

/-- What a rectangle of zeros leaves of the buffer to which it is copied. -/
lemma zeroed_copied {src dst : Surface} {area : Area} {source target : Bytes}
    (hs : ∀ row < area.height, ∀ i < area.rowBytes, source[src.place row i]? = some 0) :
    Bytes.Zeroed (fun j => ∃ row < area.rows,
        (dst.place row 0 ≤ j ∧ j < dst.place row area.rowBytes) ∧
          ∀ k ≤ row, dst.place k area.rowBytes ≤ target.size)
      target (copied src dst area source target).1 :=
  zeroed_scatter fun row hrow => hs row (lt_height_of_lt_rows hrow)

/-- A copy succeeds exactly when all rows fit. -/
lemma copied_eq_ok {src dst : Surface} {area : Area} {source target : Bytes} :
    (copied src dst area source target).2 = .ok () ↔
      ∀ row < area.rows, dst.place row area.rowBytes ≤ target.size :=
  scatter_eq_ok

end Store

end Scanout
