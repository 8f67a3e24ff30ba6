/-
What a step asks of its host, and what it does to the store behind it.

`Recorded x s Q` says that the condition `Q` is met by what the step `x` ends with, by the requests
that it makes with what became of them, and by the store that it leaves, from the store `s`, on
every host with that store and whatever requests the host refuses.

* `Recorded`, with `recorded_bind` and its companions: the rules of sequencing;
* `recorded_request`: **the rule of a request**, by which what it does to the store is on record
  together with what it ended with.
-/
import Scanout.Proofs.Effect
import Scanout.Proofs.Trace

namespace Scanout

variable {σ α β : Type} [Backend σ] [StoreHost σ]

/-- What a step ends with, the requests that it makes and the store that it leaves meet a condition
on every host with a store. -/
def Recorded (x : Act (Traced σ) α) (s : Store) (Q : Checked α → List Deed → Store → Prop) : Prop :=
  ∀ r : Run (Traced σ), StoreHost.store r.host.host = s → Ends x r fun o r' =>
    ∃ ds, r'.host.deeds = r.host.deeds ++ ds ∧ Q o ds (StoreHost.store r'.host.host)

variable {s : Store} {Q R : Checked α → List Deed → Store → Prop}

lemma Recorded.mono {x : Act (Traced σ) α} (h : Recorded x s Q)
    (hQ : ∀ o ds s, Q o ds s → R o ds s) : Recorded x s R := by
  refine fun r hs => (h r hs).mono ?_
  rintro o r' ⟨ds, hds, hq⟩
  exact ⟨ds, hds, hQ o ds _ hq⟩

lemma recorded_pure {a : α} (h : Q (.ok a) [] s) : Recorded (σ := σ) (pure a) s Q := by
  rintro r rfl
  exact ⟨[], (List.append_nil _).symm, h⟩

lemma recorded_throw {f : Failure} (h : Q (.error f) [] s) : Recorded (σ := σ) (throw f) s Q := by
  rintro r rfl
  exact ⟨[], (List.append_nil _).symm, h⟩

lemma recorded_ofChecked {c : Checked α} (h : Q c [] s) :
    Recorded (σ := σ) (Act.ofChecked c) s Q := by
  rintro r rfl
  exact ends_ofChecked.2 ⟨[], (List.append_nil _).symm, h⟩

lemma recorded_emit {e : Event} {Q : Checked Unit → List Deed → Store → Prop}
    (h : Q (.ok ()) [] s) : Recorded (σ := σ) (Act.emit e) s Q := by
  rintro r rfl
  exact ⟨[], (List.append_nil _).symm, h⟩

/-- What follows is asked after what was asked before, and nothing after a failure. -/
lemma recorded_bind {x : Act (Traced σ) β} {f : β → Act (Traced σ) α}
    (h : Recorded x s fun o ds s =>
      match o with
      | .ok b => Recorded (f b) s fun o ds' s => Q o (ds ++ ds') s
      | .error e => Q (.error e) ds s) : Recorded (x >>= f) s Q := by
  intro r hs
  rw [ends_bind]
  refine (h r hs).mono ?_
  rintro o r' ⟨ds, hds, ho⟩
  cases o with
  | ok b =>
      refine (ho r' rfl).mono ?_
      rintro o r'' ⟨ds', hds', ho⟩
      exact ⟨ds ++ ds', by rw [hds', hds, List.append_assoc], ho⟩
  | error e => exact ⟨ds, hds, ho⟩

lemma recorded_attempt {x : Act (Traced σ) β} {Q : Checked (Checked β) → List Deed → Store → Prop}
    (h : Recorded x s fun o ds s => Q (.ok o) ds s) : Recorded (Act.attempt x) s Q :=
  fun r hs => ends_attempt.2 (h r hs)

/-- What is made of the host does not depend on more of it than its store. -/
lemma recorded_host_bind {f : Traced σ → Act (Traced σ) α}
    (h : ∀ t : Traced σ, StoreHost.store t.host = s → Recorded (f t) s Q) :
    Recorded (Act.host >>= f) s Q := by
  intro r hs
  rw [ends_bind]
  exact h r.host hs r hs

/-- The bytes seen through a mapping change as they do in the store. -/
lemma recorded_setWindow {m : Mapping} {bytes : Bytes} {Q : Checked Unit → List Deed → Store → Prop}
    (h : Q (.ok ()) [] (s.setWindow m bytes)) :
    Recorded (σ := σ) (Act.update (Backend.setWindow m bytes)) s Q := by
  rintro r rfl
  refine ⟨[], (List.append_nil _).symm, ?_⟩
  show Q _ _ (StoreHost.store (Backend.setWindow m bytes r.host.host))
  rw [StoreHost.store_setWindow]
  exact h

/-- **The rule of a request.** It is refused or is what the store does, and is on record with what
it ended with. -/
lemma recorded_request {deed : Checked α → Deed} {x : Act σ α}
    (h : Does (fun _ => False) x s fun o s => Q o [deed o] s) :
    Recorded (Traced.record deed x) s Q := by
  rintro r rfl
  rw [Traced.ends_record]
  have hend : Ends x ⟨r.host.host, r.log⟩ fun o t => Q o [deed o] (StoreHost.store t.host) :=
    Does.ends h
  exact hend.mono fun o t hq => ⟨[deed o], rfl, hq⟩

end Scanout
