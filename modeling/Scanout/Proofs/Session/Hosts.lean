/-
Steps on one of the hosts of a session.

* `Session.exists_station`, `Session.monitor?_modify`, `Session.monitor?_modify_ne`: where a host is
  found, and what becomes of it when it changes or another one does;
* `Session.ends_onHost`: **a step on a host leaves the rest of the session as it is**;
* `Session.ends_onHost_of`: the same, where there need not be a host.
-/
import Scanout.Proofs.Outcome
import Scanout.Session

namespace Scanout.Session

variable {s : Session} {number i : Nat} {m : Monitor Store} {log : Array Event} {α : Type}

lemma exists_station (hm : s.monitor? number = some m) :
    ∃ st, s.stations[number]? = some st ∧ st.monitor = m := by
  rw [monitor?] at hm
  split at hm
  · next hst =>
    cases hm
    exact ⟨_, hst, rfl⟩
  · cases hm

lemma monitor?_modify (hm : s.monitor? number = some m) (f : Monitor Store → Monitor Store) :
    (s.modify number f).monitor? number = some (f m) := by
  rw [monitor?] at hm ⊢
  rw [modify, Array.getElem?_modify, if_pos rfl]
  split at hm
  · next m' hs =>
    cases hm
    simp [hs]
  · cases hm

lemma monitor?_modify_ne {f : Monitor Store → Monitor Store} (hi : i ≠ number) :
    (s.modify number f).monitor? i = s.monitor? i := by
  rw [monitor?, monitor?, modify, Array.getElem?_modify, if_neg (Ne.symm hi)]

/-- A step on a host leaves the rest of the session as it is. -/
lemma ends_onHost {x : Act (Monitor Store) α} {Q : Checked α → Run Session → Prop}
    (hm : s.monitor? number = some m) :
    Ends (onHost number x) ⟨s, log⟩ Q ↔
      Ends x ⟨m, log⟩ fun o r => Q o ⟨s.modify number fun _ => r.host, r.log⟩ := by
  simp only [Ends, onHost, hm]
  cases x ⟨m, log⟩ <;> rfl

/-- A step on a host crashes where there is none. -/
lemma ends_onHost_of {x : Act (Monitor Store) α} {Q : Checked α → Run Session → Prop}
    (gone : s.monitor? number = none → Q (.error .crash) ⟨s, log⟩)
    (there : ∀ m, s.monitor? number = some m →
      Ends x ⟨m, log⟩ fun o r => Q o ⟨s.modify number fun _ => r.host, r.log⟩) :
    Ends (onHost number x) ⟨s, log⟩ Q := by
  cases hm : s.monitor? number with
  | none => simpa only [Ends, onHost, hm] using gone hm
  | some m => exact (ends_onHost hm).2 (there m hm)

end Scanout.Session
