/-
Rows of bytes stored into a buffer.

The rows of a copy are stored one after the other, up to the first that does not fit.

* `Store.checkRows_eq_error`, `Store.checkSource_eq_error`: which row of a source is told of where
  they are not all inside it;
* `Store.scatter_keeps`: **what every row keeps is kept by all of them**;
* `Store.size_scatter`, `Store.scatter_eq_ok`: the buffer keeps its size, and all rows are stored
  exactly when all of them fit;
* `Store.getElem?_scatter_outside`, `Store.getElem?_scatter_last`: what is read back, also where
  rows overlap; `Store.getElem?_scatter_inside`: the same where they do not;
* `Store.scatter_eq_error`: where the rows stop, and what is stored by then;
* `Store.scatter_same`: rows that are there already change nothing, even where they overlap;
* `Store.copied`, with the same facts: a copy from one surface to another.
-/
import Scanout.Store.Blit
import Mathlib.Tactic.Lemma

namespace Scanout.Bytes

/-- The whole of a buffer is seen and changed through a mapping of all of it. -/
lemma overwrite_whole {bytes image : Bytes} {size : Nat} (hb : bytes.size = size)
    (hi : image.size = size) : bytes.overwrite 0 (image.slice 0 size) = image := by
  refine ext_getElem? ?_
  intro i
  rw [getElem?_overwrite, size_slice, getElem?_slice]
  simp only [Nat.sub_zero, Nat.zero_add]
  by_cases hlt : i < size
  · rw [if_pos (by omega), if_pos hlt]
  · rw [if_neg (by omega), getElem?_eq_data, getElem?_eq_data,
      Array.getElem?_eq_none (by simp only [ByteArray.size_data]; omega),
      Array.getElem?_eq_none (by simp only [ByteArray.size_data]; omega)]

lemma slice_whole {bytes : Bytes} {size : Nat} (hb : bytes.size = size) :
    bytes.slice 0 size = bytes := by
  refine ext_getElem? ?_
  intro i
  rw [getElem?_slice, Nat.zero_add]
  split
  · rfl
  · rw [getElem?_eq_data, Array.getElem?_eq_none (by simp only [ByteArray.size_data]; omega)]

end Scanout.Bytes

namespace Scanout.Store

variable {h : Handle} {source bytes : Bytes} {ss ds len n p q : Nat}

/-- Where the rows of a source are not all inside it, one of them is what is told. -/
lemma checkRows_eq_error {f : Failure} {size : Nat}
    (hf : checkRows h ss len size n p = .error f) :
    ∃ row < n, size < p + row * ss + len ∧
      f = .error (.outOfBounds h (p + row * ss) len size) := by
  induction n generalizing p with
  | zero => cases hf
  | succ n ih =>
      rw [checkRows, checkRange] at hf
      by_cases hfit : p + len ≤ size
      · rw [if_pos hfit] at hf
        obtain ⟨row, hrow, outside, rfl⟩ := ih hf
        rw [row_next] at outside ⊢
        exact ⟨row + 1, by omega, outside, rfl⟩
      · rw [if_neg hfit] at hf
        cases hf
        exact ⟨0, by omega, by omega, by rw [row_first]⟩

lemma checkSource_eq_error {f : Failure} {size : Nat}
    (hf : checkSource h ss len size n p = .error f) :
    ∃ row < n, size < p + row * ss + len ∧
      f = .error (.outOfBounds h (p + row * ss) len size) := by
  obtain ⟨row, hrow, told⟩ := checkRows_eq_error hf
  refine ⟨row, ?_, told⟩
  split at hrow <;> omega

/-- A condition that no row ends, among those that fit, holds of the bytes in the end. -/
lemma scatter_keeps {P : Bytes → Prop} {size : Nat} (hsize : bytes.size = size) (hP : P bytes)
    (keeps : ∀ row < n, q + row * ds + len ≤ size → ∀ b : Bytes, b.size = size → P b →
      P (b.overwrite (q + row * ds) (source.slice (p + row * ss) len))) :
    P (scatter h source ss ds len n p q bytes).1 := by
  induction n generalizing p q bytes with
  | zero => exact hP
  | succ n ih =>
      rw [scatter, checkRange]
      by_cases hfit : q + len ≤ bytes.size
      · rw [if_pos hfit]
        have first := keeps 0 (by omega) (by omega) bytes hsize hP
        rw [row_first, row_first] at first
        refine ih (by rw [Bytes.size_overwrite, hsize]) first ?_
        intro row hrow
        rw [row_next, row_next]
        exact keeps (row + 1) (by omega)
      · rw [if_neg hfit]
        exact hP

/-- A buffer keeps its size. -/
lemma size_scatter : (scatter h source ss ds len n p q bytes).1.size = bytes.size :=
  scatter_keeps (P := fun b => b.size = bytes.size) rfl rfl fun _ _ _ _ hb _ => by
    rw [Bytes.size_overwrite, hb]

/-- All rows are stored exactly when all of them fit. -/
lemma scatter_eq_ok : (scatter h source ss ds len n p q bytes).2 = .ok () ↔
    ∀ row < n, q + row * ds + len ≤ bytes.size := by
  rw [← checkRows_eq_ok (h := h)]
  induction n generalizing p q bytes with
  | zero => exact Iff.rfl
  | succ n ih =>
      rw [scatter, checkRows]
      cases checkRange h q len bytes.size with
      | ok _ =>
          -- a row keeps the size, so that the same rows fit after it
          have rest := @ih (bytes.overwrite q (source.slice p len)) (p + ss) (q + ds)
          rwa [Bytes.size_overwrite] at rest
      | error f => exact Iff.rfl

/-- A place that is in no row keeps its byte. -/
lemma getElem?_scatter_outside {j : Nat}
    (hj : ∀ row < n, j < q + row * ds ∨ q + row * ds + len ≤ j) :
    (scatter h source ss ds len n p q bytes).1[j]? = bytes[j]? := by
  refine scatter_keeps (P := fun b => b[j]? = bytes[j]?) rfl rfl ?_
  intro row hrow hin b hb hPb
  have hrow := hj row hrow
  rw [Bytes.getElem?_overwrite, Bytes.size_slice, if_neg (by omega)]
  exact hPb

/-- In a row the byte of the source is read, where no later row reaches: the rows before the last
one keep as much of themselves as the stride leaves. -/
lemma getElem?_scatter_last {row i : Nat} (hlast : row + 1 = n ∨ i < ds)
    (hs : ∀ row < n, p + row * ss + len ≤ source.size)
    (ht : ∀ row < n, q + row * ds + len ≤ bytes.size) (hrow : row < n) (hi : i < len) :
    (scatter h source ss ds len n p q bytes).1[q + row * ds + i]? =
      source[p + row * ss + i]? := by
  induction n generalizing p q bytes row with
  | zero => cases hrow
  | succ n ih =>
      have hs₀ := hs 0 (by omega)
      have ht₀ := ht 0 (by omega)
      rw [row_first] at hs₀ ht₀
      rw [scatter, checkRange, if_pos ht₀]
      cases row with
      | zero =>
          rw [row_first, row_first]
          -- the rows that follow begin behind this place
          rw [getElem?_scatter_outside fun k hk => .inl ?_]
          · rw [Bytes.getElem?_overwrite, Bytes.size_slice, if_pos (by omega), Bytes.getElem?_slice,
              Nat.add_sub_cancel_left, if_pos hi]
          · have : 0 ≤ k * ds := Nat.zero_le _
            omega
      | succ row =>
          have rest := @ih (bytes.overwrite q (source.slice p len)) (p + ss) (q + ds) row
            (by omega) (fun k hk => by rw [row_next]; exact hs (k + 1) (by omega))
            (fun k hk => by rw [row_next, Bytes.size_overwrite]; exact ht (k + 1) (by omega))
            (by omega)
          rw [row_next, row_next] at rest
          exact rest

/-- In a row the byte of the source is read, where rows do not reach into those after them. -/
lemma getElem?_scatter_inside {row i : Nat} (hd : len ≤ ds)
    (hs : ∀ row < n, p + row * ss + len ≤ source.size)
    (ht : ∀ row < n, q + row * ds + len ≤ bytes.size) (hrow : row < n) (hi : i < len) :
    (scatter h source ss ds len n p q bytes).1[q + row * ds + i]? =
      source[p + row * ss + i]? :=
  getElem?_scatter_last (.inr (Nat.lt_of_lt_of_le hi hd)) hs ht hrow hi

/-- Where the rows stop fitting, those before are stored as if there were no more of them. -/
lemma scatter_eq_error {f : Failure}
    (hf : (scatter h source ss ds len n p q bytes).2 = .error f) :
    ∃ k < n, (∀ row < k, q + row * ds + len ≤ bytes.size) ∧ bytes.size < q + k * ds + len ∧
      (scatter h source ss ds len n p q bytes).1 =
        (scatter h source ss ds len k p q bytes).1 := by
  induction n generalizing p q bytes with
  | zero => cases hf
  | succ n ih =>
      by_cases hfit : q + len ≤ bytes.size
      · rw [scatter, checkRange, if_pos hfit] at hf
        obtain ⟨k, hk, fits, stops, same⟩ := ih hf
        rw [Bytes.size_overwrite] at fits stops
        rw [row_next] at stops
        -- the row that does not fit comes one later in all of them
        refine ⟨k + 1, Nat.succ_lt_succ hk, fun row hrow => ?_, stops, ?_⟩
        · cases row with
          | zero => rwa [row_first]
          | succ row => exact row_next .. ▸ fits row (Nat.lt_of_succ_lt_succ hrow)
        · rw [scatter, scatter, checkRange, if_pos hfit]
          exact same
      · refine ⟨0, Nat.succ_pos n, fun _ hrow => absurd hrow (Nat.not_lt_zero _), ?_, ?_⟩
        · rw [row_first]
          exact Nat.lt_of_not_le hfit
        · rw [scatter, scatter, checkRange, if_neg hfit]
          rfl

/-- A row that is there already changes nothing. -/
lemma overwrite_same {pos from_ : Nat}
    (hsame : ∀ i < len, pos + i < bytes.size → source[from_ + i]? = bytes[pos + i]?) :
    bytes.overwrite pos (source.slice from_ len) = bytes := by
  refine Bytes.ext_getElem? ?_
  intro j
  rw [Bytes.getElem?_overwrite, Bytes.size_slice]
  split
  · next hj =>
    rw [Bytes.getElem?_slice, if_pos (by omega), hsame _ (by omega) (by omega)]
    congr 1
    omega
  · rfl

/-- Rows that are there already change nothing, even where they overlap. -/
lemma scatter_same
    (hsame : ∀ row < n, ∀ i < len, q + row * ds + i < bytes.size →
      source[p + row * ss + i]? = bytes[q + row * ds + i]?) :
    (scatter h source ss ds len n p q bytes).1 = bytes := by
  refine scatter_keeps (P := fun b => b = bytes) rfl rfl ?_
  intro row hrow _ b _ hb
  subst hb
  exact overwrite_same (hsame row hrow)

end Scanout.Store

namespace Scanout

/-- The place of a byte of a row. -/
def Surface.place (s : Surface) (row i : Nat) : Nat :=
  s.offset + row * s.stride + i

lemma Surface.place_eq (s : Surface) (row i : Nat) : s.place row i = s.place row 0 + i := rfl

lemma Surface.place_succ (s : Surface) (row : Nat) :
    s.place (row + 1) 0 = s.place row 0 + s.stride := by
  rw [place, place, Nat.add_mul]
  omega

/-- The rows of a rectangle that a copy stores: none where they hold no bytes. -/
def Area.rows (a : Area) : Nat :=
  if a.rowBytes = 0 then 0 else a.height

namespace Store

/-- The bytes of the target after a copy, and what the copy ends with. -/
def copied (src dst : Surface) (area : Area) (source target : Bytes) : Bytes × Checked Unit :=
  scatter dst.buffer source src.stride dst.stride area.rowBytes area.rows src.offset dst.offset
    target

variable {src dst : Surface} {area : Area} {source target : Bytes}

lemma lt_height_of_lt_rows {row : Nat} (h : row < area.rows) : row < area.height := by
  rw [Area.rows] at h
  split at h
  · cases h
  · exact h

lemma lt_rows_of_lt_height {row i : Nat} (h : row < area.height) (hi : i < area.rowBytes) :
    row < area.rows := by
  rw [Area.rows]
  rw [if_neg (Nat.ne_of_gt (Nat.zero_lt_of_lt hi))]
  exact h

lemma size_copied : (copied src dst area source target).1.size = target.size :=
  size_scatter

/-- A copy succeeds where all rows fit. -/
lemma copied_ok (ht : ∀ row < area.height, dst.place row area.rowBytes ≤ target.size) :
    (copied src dst area source target).2 = .ok () :=
  scatter_eq_ok.2 fun row hrow => ht row (lt_height_of_lt_rows hrow)

/-- In the rectangle the bytes of the source are read. -/
lemma getElem?_copied_inside {row i : Nat} (hd : area.rowBytes ≤ dst.stride)
    (hs : ∀ row < area.height, src.place row area.rowBytes ≤ source.size)
    (ht : ∀ row < area.height, dst.place row area.rowBytes ≤ target.size)
    (hrow : row < area.height) (hi : i < area.rowBytes) :
    (copied src dst area source target).1[dst.place row i]? = source[src.place row i]? :=
  getElem?_scatter_inside hd (fun row hrow => hs row (lt_height_of_lt_rows hrow))
    (fun row hrow => ht row (lt_height_of_lt_rows hrow)) (lt_rows_of_lt_height hrow hi) hi

/-- Outside the rectangle every byte is as before. -/
lemma getElem?_copied_outside {j : Nat}
    (hj : ∀ row < area.height, j < dst.place row 0 ∨ dst.place row area.rowBytes ≤ j) :
    (copied src dst area source target).1[j]? = target[j]? :=
  getElem?_scatter_outside fun row hrow => hj row (lt_height_of_lt_rows hrow)

/-- A rectangle that is there already changes nothing. -/
lemma copied_same
    (hsame : ∀ row < area.height, ∀ i < area.rowBytes, dst.place row i < target.size →
      source[src.place row i]? = target[dst.place row i]?) :
    (copied src dst area source target).1 = target :=
  scatter_same fun row hrow => hsame row (lt_height_of_lt_rows hrow)

end Store

end Scanout
