/-
Copies between the buffers of a store.

* `Store.checkRows`: whether all rows of a rectangle lie inside a buffer;
* `Store.scatter`: the rows of one buffer stored into another one, up to the first that would leave
  it;
* `Store.copy`: both. Source and destination may be the same buffer.

With this a store is a host: `instance : Backend Store`.
-/
import Scanout.Store

namespace Scanout.Store

/-- Fails at the first of `n` rows of `len` bytes from `start` on, `stride` bytes apart, that does
not lie inside a buffer of a given size. -/
def checkRows (h : Handle) (stride len size : Nat) : (n start : Nat) → Checked Unit
  | 0, _ => .ok ()
  | n + 1, start =>
    match checkRange h start len size with
    | .ok _ => checkRows h stride len size n (start + stride)
    | .error f => .error f

/-- Fails unless all `n` rows of a rectangle lie inside a buffer. Rows that are no bytes apart all
lie in the same place, so that one of them stands for all. -/
def checkSource (h : Handle) (stride len size n start : Nat) : Checked Unit :=
  checkRows h stride len size (if stride = 0 then min n 1 else n) start

/-- Stores `n` rows of `len` bytes from a place of `source` on into a buffer from a place on, each
side with its own stride. A row that would leave the buffer ends the work; the rows before it are
stored. -/
def scatter (h : Handle) (source : Bytes) (srcStride dstStride len : Nat) :
    (n srcStart dstStart : Nat) → Bytes → Bytes × Checked Unit
  | 0, _, _, bytes => (bytes, .ok ())
  | n + 1, srcStart, dstStart, bytes =>
    match checkRange h dstStart len bytes.size with
    | .ok _ =>
      scatter h source srcStride dstStride len n (srcStart + srcStride) (dstStart + dstStride)
        (bytes.overwrite dstStart (source.slice srcStart len))
    | .error f => (bytes, .error f)

/-- Copies a rectangle of pixels. The whole source is read, into memory that is asked for first,
before anything is stored: the rows that are stored are those of the source as it was. A rectangle
whose rows hold no bytes stores nothing, wherever the destination lies. -/
def copy (src dst : Surface) (area : Area) : Act Store Unit := do
  Act.emit (.blitted src dst area)
  let len := area.rowBytes
  let source ← find src.buffer
  refuseMapped .blit src.buffer source
  Act.ofChecked (reserve (len * area.height))
  Act.ofChecked (checkSource src.buffer src.stride len source.bytes.size area.height src.offset)
  let target ← find dst.buffer
  refuseMapped .blit dst.buffer target
  let rows := if len = 0 then 0 else area.height
  let (bytes, outcome) :=
    scatter dst.buffer source.bytes src.stride dst.stride len rows src.offset dst.offset
      target.bytes
  Act.update (·.modify dst.buffer fun b => { b with bytes })
  Act.ofChecked outcome
  Act.update (·.count fun c => { c with blits := c.blits + 1 })

/-! ### Rows inside a buffer -/

/-- The first row begins where the rows begin. -/
theorem row_first (start stride : Nat) : start + 0 * stride = start := by
  rw [Nat.zero_mul, Nat.add_zero]

/-- The rows after the first one are rows that begin a stride later. -/
theorem row_next (start stride row : Nat) :
    start + stride + row * stride = start + (row + 1) * stride := by
  rw [Nat.succ_mul, Nat.add_assoc, Nat.add_comm stride]

/-- Rows are inside a buffer when each of them is. -/
theorem checkRows_eq_ok {h : Handle} {stride len size n start : Nat} :
    checkRows h stride len size n start = .ok () ↔
      ∀ row < n, start + row * stride + len ≤ size := by
  induction n generalizing start with
  | zero => simp [checkRows]
  | succ n ih =>
    by_cases hr : start + len ≤ size
    · rw [checkRows, checkRange, if_pos hr]
      simp only [ih]
      constructor
      · intro hrest row hrow
        match row with
        | 0 => simpa using hr
        | row + 1 =>
          rw [← row_next]
          exact hrest row (by omega)
      · intro hall row hrow
        rw [row_next]
        exact hall (row + 1) (by omega)
    · rw [checkRows, checkRange, if_neg hr]
      refine ⟨nofun, fun hall => absurd (hall 0 (by omega)) ?_⟩
      simpa using hr

/-- The rows of a source are inside it when each of them is. -/
theorem checkSource_eq_ok {h : Handle} {stride len size n start : Nat} :
    checkSource h stride len size n start = .ok () ↔
      ∀ row < n, start + row * stride + len ≤ size := by
  unfold checkSource
  split
  · next hs =>
    subst hs
    simp only [checkRows_eq_ok, Nat.mul_zero, Nat.add_zero]
    exact ⟨fun hall row hrow => hall 0 (by omega), fun hall row hrow => hall row (by omega)⟩
  · exact checkRows_eq_ok

instance : Backend Store where
  allocate := allocate
  setTiling := setTiling
  free := free
  map := map
  unmap := unmap
  copy := copy
  syncCpu := syncCpu
  syncGpu := syncGpu
  window := window
  setWindow := setWindow
  discard := discard

end Scanout.Store
