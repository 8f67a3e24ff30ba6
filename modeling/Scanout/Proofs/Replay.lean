/-
Requests that a host has met.

A record says what was asked and what came of it. `Replays` says of a list of requests that a host
has met them, in their order and with what is on record, and what it is then.

* `Act.Yields`: what a step ends with, and what it leaves;
* `Deed.Ran`, `Replays`: a host has met one request, or one after the other;
* `Checked.first`: the first failure among outcomes;
* `Amounts`, `AmountsAll`: **a step, or several that are all made, comes to requests of some form**,
  which the host meets, and ends with the first failure among them.
-/
import Scanout.Proofs.Trace

namespace Scanout

variable {σ α : Type}

/-- What a step ends with, and what it leaves. -/
def Act.Yields (x : Act σ α) (r : Run σ) (o : Checked α) (r' : Run σ) : Prop :=
  x r = match o with
    | .ok a => .ok a r'
    | .error f => .error f r'

lemma Act.ends_yields {x : Act σ α} {r : Run σ} : Ends x r (x.Yields r) :=
  ends_self

/-- What a step is known to end with, and to leave, meets the condition. -/
lemma Ends.of_yields {x : Act σ α} {r r' : Run σ} {o : Checked α}
    {Q : Checked α → Run σ → Prop} (h : Ends x r Q) (hx : x.Yields r o r') : Q o r' := by
  cases o with
  | ok a => exact h.of_ok hx
  | error f => exact h.of_error hx

/-- What meets a condition is all that there is to a step. -/
lemma Act.Yields.ends {x : Act σ α} {r r' : Run σ} {o : Checked α} {Q : Checked α → Run σ → Prop}
    (hx : x.Yields r o r') (h : Q o r') : Ends x r Q := by
  cases o with
  | ok a =>
      rw [Ends, show x r = .ok a r' from hx]
      exact h
  | error f =>
      rw [Ends, show x r = .error f r' from hx]
      exact h

/-- What every end of a step is, that it yields. -/
lemma Act.yields_of_ends {x : Act σ α} {r r' : Run σ} {o : Checked α}
    (h : Ends x r fun o' r'' => o' = o ∧ r'' = r') : x.Yields r o r' := by
  obtain ⟨o', r'', hy, rfl, rfl⟩ := (ends_yields.and h).exists_end
  exact hy

/-! ### Requests met one after the other -/

section Replays

variable [Backend σ] {r r' r'' : Run σ} {ds ds' : List Deed}

/-- A host has met a request. -/
def Deed.Ran : Deed → Run σ → Run σ → Prop
  | allocate size o, r, r' => (Backend.allocate size : Act σ Handle).Yields r o r'
  | setTiling h tiling stride o, r, r' =>
    (Backend.setTiling h tiling stride : Act σ Unit).Yields r o r'
  | free h o, r, r' => (Backend.free h : Act σ Unit).Yields r o r'
  | map h offset size access o, r, r' =>
    (Backend.map h offset size access : Act σ Mapping).Yields r o r'
  | unmap m o, r, r' => (Backend.unmap m : Act σ Unit).Yields r o r'
  | copy src dst area o, r, r' => (Backend.copy src dst area : Act σ Unit).Yields r o r'
  | syncCpu h o, r, r' => (Backend.syncCpu h : Act σ Unit).Yields r o r'
  | syncGpu h o, r, r' => (Backend.syncGpu h : Act σ Unit).Yields r o r'

/-- A host has met requests one after the other. -/
def Replays : List Deed → Run σ → Run σ → Prop
  | [], r, r' => r' = r
  | d :: ds, r, r'' => ∃ r', d.Ran r r' ∧ Replays ds r' r''

lemma Replays.append (h : Replays ds r r') (h' : Replays ds' r' r'') :
    Replays (ds ++ ds') r r'' := by
  induction ds generalizing r with
  | nil =>
      cases h
      exact h'
  | cons d ds ih =>
      obtain ⟨r₁, hd, h⟩ := h
      exact ⟨r₁, hd, ih h⟩

end Replays

/-! ### The first failure -/

/-- The first failure among outcomes, if there is one. -/
def Checked.first : List (Checked Unit) → Checked Unit
  | [] => .ok ()
  | .ok _ :: os => first os
  | .error f :: _ => .error f

lemma Checked.first_append (os os' : List (Checked Unit)) : first (os ++ os') =
    match first os with
    | .ok _ => first os'
    | .error f => .error f := by
  induction os with
  | nil => rfl
  | cons o os ih =>
      cases o with
      | ok _ => exact ih
      | error f => rfl

/-- Requests that were made up to the first that failed have no other failure. -/
lemma Straight.first {ds : List Deed} {o : Checked Unit} (h : Straight ds o) :
    Checked.first (ds.map Deed.outcome) = o := by
  induction h with
  | nil => rfl
  | last failed => rw [List.map_singleton, failed]; rfl
  | cons done rest ih =>
      rw [List.map_cons, done]
      exact ih

lemma Straight.append {ds ds' : List Deed} {o : Checked Unit} (h : Straight ds (.ok ()))
    (h' : Straight ds' o) : Straight (ds ++ ds') o := by
  generalize ho : Except.ok () = o' at h
  induction h with
  | nil => exact h'
  | last failed => cases ho
  | cons done rest ih => exact .cons done (ih ho)

/-! ### Steps that come to requests -/

/-- The host that is watched, and the log. -/
def Traced.unwatched (r : Run (Traced σ)) : Run σ :=
  ⟨r.host.host, r.log⟩

variable [Backend σ]

/-- Requests are put on record, and the host that is watched meets them. -/
structure Traced.Follows (r : Run (Traced σ)) (ds : List Deed) (r' : Run (Traced σ)) : Prop where
  deeds : r'.host.deeds = r.host.deeds ++ ds
  ran : Replays ds (unwatched r) (unwatched r')

section Amounts

open Traced

variable {r r' r'' : Run (Traced σ)} {ds ds' : List Deed} {P Q : List Deed → Prop}
  {x : Act (Traced σ) Unit} {xs : List (Act (Traced σ) Unit)}

lemma Traced.Follows.refl (r : Run (Traced σ)) : Follows r [] r :=
  ⟨(List.append_nil _).symm, rfl⟩

lemma Traced.Follows.trans (h : Follows r ds r') (h' : Follows r' ds' r'') :
    Follows r (ds ++ ds') r'' :=
  ⟨by rw [h'.deeds, h.deeds, List.append_assoc], h.ran.append h'.ran⟩

/-- A step comes to requests of some form, and ends with the first failure among them. -/
def Amounts (x : Act (Traced σ) Unit) (P : List Deed → Prop) : Prop :=
  ∀ r, Ends x r fun o r' =>
    ∃ ds, P ds ∧ o = Checked.first (ds.map Deed.outcome) ∧ Follows r ds r'

/-- Steps that are all made come to requests of some form, and the first failure among them is told.
-/
def AmountsAll (xs : List (Act (Traced σ) Unit)) (P : List Deed → Prop) : Prop :=
  ∀ r, Ends (Act.attemptAll xs) r fun o r' =>
    ∃ ds, P ds ∧ o = .ok (Checked.first (ds.map Deed.outcome)) ∧ Follows r ds r'

/-- A request comes to itself. -/
lemma amounts_record {deed : Checked Unit → Deed} {y : Act σ Unit}
    (houtcome : ∀ o, (deed o).outcome = o)
    (hran : ∀ o (r r' : Run σ), y.Yields r o r' → (deed o).Ran r r') :
    Amounts (record deed y) fun ds => ∃ o, ds = [deed o] := by
  refine fun r => ends_record.2 (Act.ends_yields.mono fun o t hy => ?_)
  refine ⟨[deed o], ⟨o, rfl⟩, ?_, rfl, t, hran o _ _ hy, rfl⟩
  rw [List.map_singleton, houtcome]
  cases o <;> rfl

lemma AmountsAll.mono (h : AmountsAll xs P) (hPQ : ∀ ds, P ds → Q ds) : AmountsAll xs Q := by
  refine fun r => (h r).mono ?_
  rintro o r' ⟨ds, hds, rest⟩
  exact ⟨ds, hPQ ds hds, rest⟩

lemma amountsAll_nil : AmountsAll (σ := σ) [] fun ds => ds = [] :=
  fun r => ⟨[], rfl, rfl, .refl r⟩

/-- Whatever the first step comes to, the others are made. -/
lemma amountsAll_cons (hx : Amounts x P) (hxs : AmountsAll xs Q) :
    AmountsAll (x :: xs) fun ds => ∃ ds₁ ds₂, ds = ds₁ ++ ds₂ ∧ P ds₁ ∧ Q ds₂ := by
  refine fun r => ends_attemptAll_cons.2 ((hx r).mono ?_)
  rintro o r₁ ⟨ds₁, h₁, rfl, follows₁⟩
  refine (hxs r₁).mono ?_
  rintro o r₂ ⟨ds₂, h₂, rfl, follows₂⟩
  refine ⟨ds₁ ++ ds₂, ⟨ds₁, ds₂, rfl, h₁, h₂⟩, ?_, follows₁.trans follows₂⟩
  rw [List.map_append, Checked.first_append]
  cases Checked.first (ds₁.map Deed.outcome) <;> rfl

end Amounts

end Scanout
