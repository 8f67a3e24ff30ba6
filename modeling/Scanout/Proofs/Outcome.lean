/-
How a step ends.

A step of a host, or of the opening of a view, ends with a value or with a failure and leaves a
state behind in both cases. `Ends x s Q` says that what `x` ends with and what it leaves, when it
is made in the state `s`, meet the condition `Q`, so that one statement speaks of success and of
failure alike.

* `Ends`, with `ends_bind` and its companions: the condition moves backwards through a program, one
  combinator at a time; on a given host it is decided by running the program;
* `Ends.of_ok`, `Ends.of_error`: what a step is known to end with meets the condition;
* `ends_attemptAll_cons`: steps that are all made, whatever became of those before;
* `Ends.forM_range`: **the loop rule**, an invariant indexed by the number of rounds that are done;
* `stop`, `Ends.forM_range_stop`: the same, with the round in which a loop fails;
* `Act.leaves`: what a step leaves behind in any case.
-/
import Scanout.View.Acquire
import Mathlib.Tactic.Lemma

namespace Scanout

variable {ε S α β : Type}

/-- What a step ends with, and the state that it leaves, meet a condition. -/
def Ends (x : EStateM ε S α) (s : S) (Q : Except ε α → S → Prop) : Prop :=
  match x s with
  | .ok a s => Q (.ok a) s
  | .error e s => Q (.error e) s

/-- A condition on what a step ends with is decided by making the step. -/
instance Ends.decidable {x : EStateM ε S α} {s : S} {Q : Except ε α → S → Prop}
    [∀ o s', Decidable (Q o s')] : Decidable (Ends x s Q) :=
  show Decidable (match x s with | .ok a s' => Q (.ok a) s' | .error e s' => Q (.error e) s') from
    match x s with
    | .ok a s' => inferInstanceAs (Decidable (Q (.ok a) s'))
    | .error e s' => inferInstanceAs (Decidable (Q (.error e) s'))

/-- Whether a step succeeds, and as it should, is decided by making it. -/
instance decidableExistsOk {x : EStateM ε S α} {s : S} {P : α → S → Prop}
    [∀ a s', Decidable (P a s')] : Decidable (∃ a s', x s = .ok a s' ∧ P a s') :=
  match x s with
  | .ok a s' =>
    decidable_of_iff (P a s') ⟨fun h => ⟨a, s', rfl, h⟩, by rintro ⟨_, _, ⟨⟩, h⟩; exact h⟩
  | .error .. => .isFalse fun ⟨_, _, h, _⟩ => nomatch h

/-! ### The rules of sequencing -/

section Sequencing

variable {s s' : S} {x : EStateM ε S α} {Q R : Except ε α → S → Prop}

@[simp] lemma ends_pure {a : α} : Ends (pure a) s Q ↔ Q (.ok a) s := Iff.rfl

/-- What follows a failure is not made. -/
@[simp] lemma ends_bind {x : EStateM ε S β} {f : β → EStateM ε S α} :
    Ends (x >>= f) s Q ↔ Ends x s fun o s =>
      match o with
      | .ok a => Ends (f a) s Q
      | .error e => Q (.error e) s := by
  simp only [Ends, bind, EStateM.bind]
  cases x s <;> rfl

lemma Ends.mono (h : Ends x s Q) (hQ : ∀ o s, Q o s → R o s) : Ends x s R := by
  rw [Ends] at h ⊢
  split <;> simp_all only

lemma Ends.and (hQ : Ends x s Q) (hR : Ends x s R) : Ends x s fun o s => Q o s ∧ R o s := by
  rw [Ends] at hQ hR ⊢
  split <;> simp_all only [and_self]

/-- The condition holds of a value that the step is known to end with. -/
lemma Ends.of_ok {a : α} (h : Ends x s Q) (hx : x s = .ok a s') : Q (.ok a) s' := by
  simpa only [Ends, hx] using h

/-- The condition holds of a failure that the step is known to end with. -/
lemma Ends.of_error {e : ε} (h : Ends x s Q) (hx : x s = .error e s') : Q (.error e) s' := by
  simpa only [Ends, hx] using h

/-- **The loop rule.** An invariant that counts the rounds done so far is kept by each of them, up
to the first that fails. -/
lemma Ends.forM_range {Q : Except ε PUnit → S → Prop} {n : Nat} {f : Nat → EStateM ε S PUnit}
    (I : Nat → S → Prop) (h₀ : I 0 s)
    (step : ∀ i < n, ∀ s, I i s → Ends (f i) s fun o s =>
      match o with
      | .ok _ => I (i + 1) s
      | .error e => Q (.error e) s)
    (last : ∀ s, I n s → Q (.ok ⟨⟩) s) : Ends ((List.range n).forM f) s Q := by
  -- the rounds from `i` on, of which `k` are left
  have key : ∀ k i, i + k = n → ∀ s, I i s → Ends ((List.range' i k).forM f) s Q := by
    intro k
    induction k with
    | zero =>
        intro i hi s hs
        rw [Nat.add_zero] at hi
        exact last s (hi ▸ hs)
    | succ k ih =>
        intro i hi s hs
        rw [List.range'_succ]
        show Ends (f i >>= fun _ => (List.range' (i + 1) k).forM f) s Q
        rw [ends_bind]
        refine (step i (by omega) s hs).mono ?_
        intro o s ho
        cases o with
        | ok _ => exact ih (i + 1) (by omega) s ho
        | error e => exact ho
  rw [List.range_eq_range']
  exact key n 0 (by omega) s h₀

/-- The round in which a loop fails, and the state that it leaves. -/
def stop (f : Nat → EStateM ε S PUnit) : (n i : Nat) → S → Option (Nat × S)
  | 0, _, _ => none
  | n + 1, i, s =>
    match f i s with
    | .ok _ s => stop f n (i + 1) s
    | .error _ s => some (i, s)

/-- What meets a condition is there. -/
lemma Ends.exists_end (h : Ends x s Q) : ∃ o s', Q o s' := by
  rw [Ends] at h
  split at h
  · exact ⟨_, _, h⟩
  · exact ⟨_, _, h⟩

/-- A step succeeds or fails. -/
lemma Ends.ok_or_error (h : Ends x s Q) :
    (∃ a s', x s = .ok a s' ∧ Q (.ok a) s') ∨ ∃ e s', x s = .error e s' ∧ Q (.error e) s' := by
  rw [Ends] at h
  split at h
  · next a s' hx => exact .inl ⟨a, s', hx, h⟩
  · next e s' hx => exact .inr ⟨e, s', hx, h⟩

/-- What a step ends with is what it ends with. -/
lemma ends_self : Ends x s fun o s' =>
    x s = match o with
      | .ok a => .ok a s'
      | .error e => .error e s' := by
  rw [Ends]
  cases x s <;> rfl

/-- The loop rule, with the round in which the loop fails. -/
lemma Ends.forM_range_stop {n : Nat} {f : Nat → EStateM ε S PUnit} (I : Nat → S → Prop)
    (J : Nat → ε → S → Prop) (h₀ : I 0 s)
    (step : ∀ i < n, ∀ s, I i s → Ends (f i) s fun o s =>
      match o with
      | .ok _ => I (i + 1) s
      | .error e => J i e s) :
    Ends ((List.range n).forM f) s fun o s' =>
      match o with
      | .ok _ => I n s' ∧ stop f n 0 s = none
      | .error e => ∃ i < n, J i e s' ∧ stop f n 0 s = some (i, s') := by
  -- the rounds that are left stop where the whole does
  refine Ends.forM_range (fun i s' => I i s' ∧ stop f (n - i) i s' = stop f n 0 s) ⟨h₀, rfl⟩ ?_
    fun s' hs' => ⟨hs'.1, ?_⟩
  case refine_2 =>
    rw [← hs'.2, Nat.sub_self]
    rfl
  rintro i hi s' ⟨hI, hstop⟩
  obtain ⟨k, hk⟩ : ∃ k, n - i = k + 1 := ⟨n - i - 1, by omega⟩
  rw [hk, stop] at hstop
  refine ((step i hi s' hI).and ends_self).mono ?_
  intro o s'' ho
  cases o with
  | ok a =>
      rw [ho.2] at hstop
      exact ⟨ho.1, by rwa [show n - (i + 1) = k by omega]⟩
  | error e =>
      rw [ho.2] at hstop
      exact ⟨i, hi, ho.1, hstop.symm⟩

end Sequencing

/-! ### Steps on a host -/

section Acts

variable {σ τ : Type} {r : Run σ}

@[simp] lemma ends_host {Q : Checked σ → Run σ → Prop} :
    Ends Act.host r Q ↔ Q (.ok r.host) r := Iff.rfl

@[simp] lemma ends_update {f : σ → σ} {Q : Checked Unit → Run σ → Prop} :
    Ends (Act.update f) r Q ↔ Q (.ok ()) ⟨f r.host, r.log⟩ := Iff.rfl

@[simp] lemma ends_emit {e : Event} {Q : Checked Unit → Run σ → Prop} :
    Ends (Act.emit e) r Q ↔ Q (.ok ()) ⟨r.host, r.log.push e⟩ := Iff.rfl

@[simp] lemma ends_ofChecked {c : Checked α} {Q : Checked α → Run σ → Prop} :
    Ends (Act.ofChecked c) r Q ↔ Q c r := by
  cases c <;> rfl

@[simp] lemma ends_attempt {x : Act σ α} {Q : Checked (Checked α) → Run σ → Prop} :
    Ends (Act.attempt x) r Q ↔ Ends x r fun o r => Q (.ok o) r := by
  simp only [Ends, Act.attempt]
  cases x r <;> rfl

/-- The steps after the first are made whatever it ended with, and its failure comes before theirs.
-/
lemma ends_attemptAll_cons {x : Act σ Unit} {xs : List (Act σ Unit)}
    {Q : Checked (Checked Unit) → Run σ → Prop} :
    Ends (Act.attemptAll (x :: xs)) r Q ↔ Ends x r fun first r =>
      Ends (Act.attemptAll xs) r fun rest r =>
        match rest with
        | .ok rest => Q (.ok (match first with | .ok _ => rest | .error f => .error f)) r
        | .error f => Q (.error f) r := by
  rw [Act.attemptAll, ends_bind, ends_attempt]
  simp only [Ends]
  cases x r with
  | ok a r₁ =>
      simp only [bind, EStateM.bind]
      cases Act.attemptAll xs r₁ <;> rfl
  | error f r₁ =>
      simp only [bind, EStateM.bind]
      cases Act.attemptAll xs r₁ <;> rfl

/-- What is left behind does not depend on what the steps ended with. -/
lemma ends_attemptAll_cons_any {x : Act σ Unit} {xs : List (Act σ Unit)} {P R : Run σ → Prop}
    (hx : Ends x r fun _ r => P r)
    (hxs : ∀ r, P r → Ends (Act.attemptAll xs) r fun _ r => R r) :
    Ends (Act.attemptAll (x :: xs)) r fun _ r => R r := by
  refine ends_attemptAll_cons.2 (hx.mono fun _ r' hr' => (hxs r' hr').mono fun rest _ hR => ?_)
  cases rest with
  | ok _ => exact hR
  | error _ => exact hR

/-- What a step leaves behind, whether it succeeds or fails. -/
def Act.leaves (x : Act σ α) (r : Run σ) : Run σ :=
  match x r with
  | .ok _ r => r
  | .error _ r => r

lemma Ends.leaves {x : Act σ α} {P : Run σ → Prop} (hx : Ends x r fun _ r => P r) :
    P (x.leaves r) := by
  rw [Ends] at hx
  rw [Act.leaves]
  cases h : x r <;> simpa only [h] using hx

/-- A step on a part of a host leaves the rest as it is. -/
lemma ends_focus {part : τ → σ} {replace : σ → τ → τ} {x : Act σ α} {r : Run τ}
    {Q : Checked α → Run τ → Prop} :
    Ends (Act.focus part replace x) r Q ↔ Ends x ⟨part r.host, r.log⟩ fun o r' =>
      Q o ⟨replace r'.host r.host, r'.log⟩ := by
  simp only [Ends, Act.focus]
  cases x ⟨part r.host, r.log⟩ <;> rfl

end Acts

/-! ### Steps by which a view is opened -/

section Openings

variable {σ : Type} {r : Run σ} {v : View}

@[simp] lemma ends_act {x : Act σ α} {Q : Checked α → Run σ × View → Prop} :
    Ends (Opening.act x) (r, v) Q ↔ Ends x r fun o r => Q o (r, v) := by
  simp only [Ends, Opening.act]
  cases x r <;> rfl

@[simp] lemma ends_view {Q : Checked View → Run σ × View → Prop} :
    Ends Opening.view (r, v) Q ↔ Q (.ok v) (r, v) := Iff.rfl

@[simp] lemma ends_acquired {f : View → View} {Q : Checked Unit → Run σ × View → Prop} :
    Ends (Opening.acquired f) (r, v) Q ↔ Q (.ok ()) (r, f v) := Iff.rfl

/-- What has been acquired is known however the opening ends. -/
@[simp] lemma ends_run {x : Opening σ Unit} {Q : Checked (Checked Unit × View) → Run σ → Prop} :
    Ends (x.run v) r Q ↔ Ends x (r, v) fun o s => Q (.ok (o, s.2)) s.1 := by
  simp only [Ends, Opening.run]
  cases x (r, v) <;> rfl

end Openings

end Scanout
