/-
Sizes in thirty-two bits.

* `fit32`: a number, or an overflow when it needs more than thirty-two bits;
* `roundUp`: the next multiple, without a limit; `alignUp`: the same in thirty-two bits;
* `doubleTo`: the first doubling of a number that reaches a goal.

Numbers are natural throughout, and each result that a thirty-two-bit field has to hold passes
through `fit32`, so that an overflow is reported where it arises and nothing wraps.
-/
import Scanout.Error

namespace Scanout

/-- A number that fits in thirty-two bits, or an overflow. -/
def fit32 (n : Nat) : Checked Nat :=
  if n < 0x100000000 then .ok n else Checked.fail .overflow

theorem fit32_eq_ok {n m : Nat} : fit32 n = .ok m ↔ n < 0x100000000 ∧ n = m := by
  unfold fit32 Checked.fail
  split
  · next h => simp only [h, Except.ok.injEq, true_and]
  · next h => simp only [h, reduceCtorEq, false_and]

/-- Half a number, rounded up. -/
def halfUp (n : Nat) : Nat :=
  (n + 1) / 2

/-- The least multiple of `align` that is at least `n`. -/
def roundUp (n align : Nat) : Nat :=
  (n + align - 1) / align * align

theorem dvd_roundUp (n align : Nat) : align ∣ roundUp n align :=
  Nat.dvd_mul_left ..

theorem le_roundUp {align : Nat} (h : 0 < align) (n : Nat) : n ≤ roundUp n align := by
  have hm := Nat.div_add_mod (n + align - 1) align
  have hl := Nat.mod_lt (n + align - 1) h
  rw [Nat.mul_comm] at hm
  unfold roundUp
  omega

/-- A multiple that is at least `n` is at least `roundUp n align`. -/
theorem roundUp_le_of_dvd {n m align : Nat} (h : 0 < align) (hd : align ∣ m) (hn : n ≤ m) :
    roundUp n align ≤ m := by
  obtain ⟨k, rfl⟩ := hd
  have hlt : (n + align - 1) / align < k + 1 := by
    rw [Nat.div_lt_iff_lt_mul h, Nat.add_mul, Nat.mul_comm k]
    omega
  unfold roundUp
  rw [Nat.mul_comm align]
  exact Nat.mul_le_mul_right _ (by omega)

/-- The least multiple of `align` that is at least `n`, in thirty-two bits. There is none of zero.
-/
def alignUp (n align : Nat) : Checked Nat :=
  if align = 0 then .error .crash else fit32 (roundUp n align)

/-- The first of `value`, twice `value`, four times `value` and so on that reaches `goal`, in
thirty-two bits. -/
def doubleTo (goal value : Nat) (pos : 0 < value) : Checked Nat :=
  if goal ≤ value then .ok value
  else if h : 2 * value < 0x100000000 then doubleTo goal (2 * value) (by omega)
  else Checked.fail .overflow
termination_by 0x100000000 - value

end Scanout
