/-
Work on one number after the other, or on one place of a rectangle after the other, that ends where
there is no result.

* `sweep`: the numbers from a first one on;
* `sweepArea`: the places of a rectangle, row by row;
* `sweepArea_eq`: a sweep over a rectangle is a sweep over rows, each a sweep over columns;
* `sweep_invariant`, `sweepArea_invariant`: what every step keeps is kept by the whole;
* `sweep_establishes`, `sweepArea_establishes`: what one step brings about, and all others keep, has
  come about in the end.

Nothing is laid out in advance, so that a sweep that ends early is as cheap as what was done of it.
-/
namespace Scanout

variable {α : Type}

/-- Applies `step first`, `step (first + 1)` and so on, `count` of them in that order. -/
@[specialize]
def sweep (step : Nat → α → Option α) : (first count : Nat) → α → Option α
  | _, 0, a => some a
  | first, count + 1, a =>
    match step first a with
    | some a => sweep step (first + 1) count a
    | none => none

/-- Applies `step x y` to every place of a rectangle, row by row and from left to right. A
rectangle without columns has no place, however many rows it has. -/
@[inline]
def sweepArea (step : (x y : Nat) → α → Option α) (left top width height : Nat) (a : α) :
    Option α :=
  if width = 0 then some a
  else sweep (fun y => sweep (fun x => step x y) left width) top height a

/-- A sweep of steps that change nothing changes nothing. -/
theorem sweep_some (first count : Nat) (a : α) : sweep (fun _ => some) first count a = some a := by
  induction count generalizing first with
  | zero => rfl
  | succ count ih => exact ih (first + 1)

/-- A sweep of one step is that step. -/
theorem sweep_one (step : Nat → α → Option α) (n : Nat) (a : α) : sweep step n 1 a = step n a := by
  simp only [sweep]
  cases step n a <;> rfl

theorem sweepArea_eq (step : (x y : Nat) → α → Option α) (left top width height : Nat) (a : α) :
    sweepArea step left top width height a =
      sweep (fun y => sweep (fun x => step x y) left width) top height a := by
  unfold sweepArea
  split
  · subst width
    exact (sweep_some top height a).symm
  · rfl

/-- What every step keeps is kept by a sweep. -/
theorem sweep_invariant {P : α → Prop} {step : Nat → α → Option α} {first count : Nat} {a b : α}
    (keeps : ∀ i a b, first ≤ i → i < first + count → step i a = some b → P a → P b)
    (h : sweep step first count a = some b) (ha : P a) : P b := by
  induction count generalizing first a with
  | zero =>
    cases h
    exact ha
  | succ count ih =>
    rw [sweep] at h
    split at h
    · next hs =>
      exact ih (fun i a b hi hc => keeps i a b (by omega) (by omega)) h
        (keeps _ _ _ (Nat.le_refl _) (by omega) hs ha)
    · cases h

/-- What one step brings about and all others keep has come about in the end. -/
theorem sweep_establishes {P : α → Prop} {step : Nat → α → Option α} {first count i : Nat} {a b : α}
    (hi : first ≤ i) (hlt : i < first + count)
    (establishes : ∀ a b, step i a = some b → P b)
    (keeps : ∀ j a b, first ≤ j → j < first + count → j ≠ i → step j a = some b → P a → P b)
    (h : sweep step first count a = some b) : P b := by
  induction count generalizing first a with
  | zero => omega
  | succ count ih =>
    rw [sweep] at h
    split at h
    · next a' hs =>
      by_cases heq : first = i
      · subst heq
        exact sweep_invariant (fun j a b hj hc => keeps j a b (by omega) (by omega) (by omega)) h
          (establishes _ _ hs)
      · exact ih (by omega) (by omega) (fun j a b hj hc => keeps j a b (by omega) (by omega)) h
    · cases h

/-- What every step keeps is kept by a sweep over a rectangle. -/
theorem sweepArea_invariant {P : α → Prop} {step : (x y : Nat) → α → Option α}
    {left top width height : Nat} {a b : α}
    (keeps : ∀ x y a b, left ≤ x → x < left + width → top ≤ y → y < top + height →
      step x y a = some b → P a → P b)
    (h : sweepArea step left top width height a = some b) (ha : P a) : P b := by
  rw [sweepArea_eq] at h
  exact sweep_invariant (fun y _ _ hy hy' hrow =>
    sweep_invariant (fun x a b hx hx' => keeps x y a b hx hx' hy hy') hrow) h ha

/-- What the step at one place of a rectangle brings about and all others keep has come about in the
end. -/
theorem sweepArea_establishes {P : α → Prop} {step : (x y : Nat) → α → Option α}
    {left top width height x y : Nat} {a b : α}
    (hx : left ≤ x) (hx' : x < left + width) (hy : top ≤ y) (hy' : y < top + height)
    (establishes : ∀ a b, step x y a = some b → P b)
    (keeps : ∀ x' y' a b, left ≤ x' → x' < left + width → top ≤ y' → y' < top + height →
      ¬(x' = x ∧ y' = y) → step x' y' a = some b → P a → P b)
    (h : sweepArea step left top width height a = some b) : P b := by
  rw [sweepArea_eq] at h
  refine sweep_establishes hy hy' (fun _ _ => ?_) (fun y' _ _ hl hlt hne hrow => ?_) h
  · exact sweep_establishes hx hx' establishes fun x' a b hl hlt hne =>
      keeps x' y a b hl hlt hy hy' fun heq => hne heq.1
  · exact sweep_invariant (fun x' a b hl' hlt' =>
      keeps x' y' a b hl' hlt' hl hlt fun heq => hne heq.2) hrow

end Scanout
