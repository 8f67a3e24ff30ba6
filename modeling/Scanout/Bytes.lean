/-
Byte buffers.

* `Bytes.put?`: a store of one byte that fails outside the buffer;
* `Bytes.word?`, `Bytes.putWord?`: numbers of several bytes, the low byte first;
* `Bytes.overwrite`, `Bytes.fill`: stores of a whole run of bytes, dropped where they would leave
  the buffer;
* `Bytes.slice`: the bytes of a range, as far as the buffer goes;
* `getElem?_put?`, `getElem?_overwrite`, `getElem?_fill`, `getElem?_slice`: what is read back, which
  by `ext_getElem?` is all that there is to a buffer.
-/
namespace Scanout

/-- A run of bytes, counted from zero. -/
abbrev Bytes := ByteArray

/-- Runs of bytes are the same when their bytes are. -/
instance : DecidableEq Bytes := ByteArray.instDecidableEq

namespace Bytes

/-- `n` bytes of one value. -/
def replicate (n : Nat) (value : UInt8) : Bytes :=
  n.fold (fun _ _ (b : Bytes) => b.push value) (ByteArray.emptyWithCapacity n)

/-- A buffer of `n` zero bytes. -/
def zeros (n : Nat) : Bytes :=
  replicate n 0

/-- The bytes from `pos` on, `len` of them as far as the buffer goes. -/
def slice (b : Bytes) (pos len : Nat) : Bytes :=
  b.extract pos (pos + len)

/-- Stores one byte; there is no buffer to return when `pos` is outside it. -/
def put? (b : Bytes) (pos : Nat) (value : UInt8) : Option Bytes :=
  if h : pos < b.size then some (b.set pos value h) else none

/-- The number held by `n` bytes from `pos` on, the low byte first. -/
def word? (b : Bytes) : (n pos : Nat) → Option UInt32
  | 0, _ => some 0
  | n + 1, pos => do
    let low ← b[pos]?
    let high ← word? b n (pos + 1)
    return low.toUInt32 ||| high <<< 8

/-- Stores the low `n` bytes of a number from `pos` on, the low byte first. -/
def putWord? (b : Bytes) : (n pos : Nat) → UInt32 → Option Bytes
  | 0, _, _ => some b
  | n + 1, pos, value => do
    let b ← b.put? pos value.toUInt8
    putWord? b n (pos + 1) (value >>> 8)

/-- Stores `row` from `pos` on; what would lie outside the buffer is dropped. -/
def overwrite (b : Bytes) (pos : Nat) (row : Bytes) : Bytes :=
  row.copySlice 0 b pos (min row.size (b.size - pos))

/-- Stores `value` at every place from `first` up to but not including `stop`; what would lie
outside the buffer is dropped. -/
def fill (b : Bytes) (first stop : Nat) (value : UInt8) : Bytes :=
  b.overwrite first (replicate (stop - first) value)

/-- The same for a run of bytes that has to lie inside the buffer. -/
def fill? (b : Bytes) (first stop : Nat) (value : UInt8) : Option Bytes :=
  if first ≤ stop ∧ stop ≤ b.size then some (b.fill first stop value) else none

/-! ### What is read back -/

variable {b b' row : Bytes} {pos i : Nat}

theorem getElem?_eq_data (b : Bytes) (i : Nat) : b[i]? = b.data[i]? := by
  by_cases h : i < b.data.size
  · rw [getElem?_pos b i h, Array.getElem?_eq_getElem h]
    rfl
  · rw [getElem?_neg b i h, Array.getElem?_eq_none (Nat.le_of_not_lt h)]

/-- Two buffers are the same when the same is read in each place. -/
theorem ext_getElem? (h : ∀ i : Nat, b[i]? = b'[i]?) : b = b' := by
  refine ByteArray.ext (Array.ext_getElem? fun i => ?_)
  simpa only [getElem?_eq_data] using h i

theorem data_replicate (n : Nat) (value : UInt8) :
    (replicate n value).data = Array.replicate n value := by
  suffices h : ∀ m, (n.fold (fun _ _ (b : Bytes) => b.push value)
      (ByteArray.emptyWithCapacity m)).data = Array.replicate n value from h n
  intro m
  induction n with
  | zero => rfl
  | succ n ih => rw [Nat.fold_succ, ByteArray.data_push, ih, Array.replicate_succ]

theorem size_replicate (n : Nat) (value : UInt8) : (replicate n value).size = n := by
  rw [← ByteArray.size_data, data_replicate, Array.size_replicate]

theorem getElem?_replicate (n : Nat) (value : UInt8) (i : Nat) :
    (replicate n value)[i]? = if i < n then some value else none := by
  rw [getElem?_eq_data, data_replicate]
  exact Array.getElem?_replicate

theorem size_zeros (n : Nat) : (zeros n).size = n :=
  size_replicate n 0

theorem getElem?_zeros (n i : Nat) : (zeros n)[i]? = if i < n then some 0 else none :=
  getElem?_replicate n 0 i

/-- A slice is read from its own start, as far as it and the buffer go. -/
theorem getElem?_slice (b : Bytes) (pos len i : Nat) :
    (b.slice pos len)[i]? = if i < len then b[pos + i]? else none := by
  simp only [getElem?_eq_data, slice, ByteArray.data_extract, Array.getElem?_extract]
  by_cases hi : i < len
  · by_cases hb : pos + i < b.data.size
    · rw [if_pos (by omega), if_pos hi]
    · rw [if_neg (by omega), if_pos hi, Array.getElem?_eq_none (by omega)]
  · rw [if_neg (by omega), if_neg hi]

theorem size_slice (b : Bytes) (pos len : Nat) :
    (b.slice pos len).size = min len (b.size - pos) := by
  simp only [slice, ByteArray.size_extract]
  omega

theorem size_put? {value : UInt8} (h : b.put? pos value = some b') : b'.size = b.size := by
  unfold put? at h
  split at h
  · cases h
    exact Array.size_set ..
  · cases h

/-- A byte that was put is read back in its place and changes no other place. -/
theorem getElem?_put? {value : UInt8} (h : b.put? pos value = some b') :
    b'[i]? = if i = pos then some value else b[i]? := by
  unfold put? at h
  split at h
  · next hlt =>
    cases h
    rw [getElem?_eq_data, getElem?_eq_data]
    refine (Array.getElem?_set hlt).trans ?_
    simp only [eq_comm]
  · cases h

/-- A put succeeds exactly inside the buffer. -/
theorem isSome_put? {value : UInt8} : (b.put? pos value).isSome = decide (pos < b.size) := by
  unfold put?
  split <;> simp_all

/-- Inside the buffer there is a put, and the buffer stays as large as it was. -/
theorem exists_put? (value : UInt8) (h : pos < b.size) :
    ∃ b', b.put? pos value = some b' ∧ b'.size = b.size := by
  obtain ⟨b', hb'⟩ : ∃ b', b.put? pos value = some b' := by
    rw [← Option.isSome_iff_exists, isSome_put?]
    exact decide_eq_true h
  exact ⟨b', hb', size_put? hb'⟩

theorem size_overwrite (b : Bytes) (pos : Nat) (row : Bytes) :
    (b.overwrite pos row).size = b.size := by
  simp only [overwrite, ByteArray.size, ByteArray.copySlice, Array.size_append, Array.size_extract]
  omega

/-- After an overwrite the row is read in its place and everything else is as before. -/
theorem getElem?_overwrite (b : Bytes) (pos : Nat) (row : Bytes) (i : Nat) :
    (b.overwrite pos row)[i]? =
      if pos ≤ i ∧ i < pos + row.size ∧ i < b.size then row[i - pos]? else b[i]? := by
  simp only [getElem?_eq_data, overwrite, ByteArray.size, ByteArray.copySlice,
    Array.getElem?_append, Array.getElem?_extract, Array.size_append, Array.size_extract]
  repeat' split
  all_goals first
    | omega
    | (congr 1; omega)
    | (symm; exact Array.getElem?_eq_none (by omega))

theorem size_fill (b : Bytes) (first stop : Nat) (value : UInt8) :
    (b.fill first stop value).size = b.size :=
  size_overwrite ..

/-- After a fill the range holds the value and everything else is as before. -/
theorem getElem?_fill (b : Bytes) (first stop : Nat) (value : UInt8) (i : Nat) :
    (b.fill first stop value)[i]? =
      if first ≤ i ∧ i < stop ∧ i < b.size then some value else b[i]? := by
  rw [fill, getElem?_overwrite, size_replicate, getElem?_replicate]
  by_cases h : first ≤ i ∧ i < stop ∧ i < b.size
  · rw [if_pos (by omega), if_pos h, if_pos (by omega)]
  · rw [if_neg (by omega), if_neg h]

end Bytes

end Scanout
