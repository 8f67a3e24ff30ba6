/-
What the books of a host say.

Whatever is done with the buffers and the mappings of some hosts, and whichever requests fail, what
a host counts is what its buffers and mappings have come to.

* `Session.Did`: what became of a command in the course of a run;
* `Session.Lapsed`: a handle with which nothing can be done;
* `Session.Booked`: what the books of a host say after a run;
* `Session.step_entered`, `Session.after_entered`: what a command and a run do to them;
* `Session.number_lt_of_few`: handles fit in thirty-two bits as long as there are such handles;
* `Session.after_booked`: **every run of commands is booked**.
-/
import Scanout.Proofs.Session.Books

namespace Scanout.Session

variable {s s' : Session} {slot i n : Nat} {h : Held} {w : Monitor Store} {k : Handle} {a : Action}
  {c : Command} {cs : List Command} {log : Array Event}

/-! ### Requests that have no buffer of their own -/

lemma store_noticed : (s.noticed n).store = s.store := by
  funext i
  rw [noticed]
  cases hst : s.stations[n]? with
  | none => rw [store_modify_none hst]
  | some st => rw [store_modify hst, ← store_of_station hst, Function.update_eq_self]

/-- What one command does to the books. -/
lemma step_entered [Machine] (ha : Bare c.action) (hs : Exclusive s) :
    Entered s c.action (s.step c).1.outcome (s.step c).2 := by
  obtain ⟨follows, counted⟩ := step_of_ends (ends_entered ha hs.noticed)
  rw [store_noticed] at follows counted
  exact ⟨follows, counted⟩

/-- **What a run of commands does to the books.** -/
lemma after_entered [Machine] (h : ∀ c ∈ cs, Bare c.action) (hs : Exclusive s) :
    (∀ i, (s.store i).Follows ((s.after cs).store i)) ∧
    ∀ i, ((s.after cs).store i).counters.maps + (s.store i).counters.unmaps + s.issued i =
      (s.store i).counters.maps + ((s.after cs).store i).counters.unmaps + (s.after cs).issued i +
        lost i s cs := by
  induction cs generalizing s with
  | nil => exact ⟨fun _ => .refl _, fun _ => rfl⟩
  | cons c cs ih =>
      have first := step_entered (h c List.mem_cons_self) hs
      obtain ⟨follows, counted⟩ := ih (fun d hd => h d (List.mem_cons_of_mem c hd))
        (step_exclusive (h c List.mem_cons_self) hs)
      refine ⟨fun i => (first.follows i).trans (follows i), fun i => ?_⟩
      have := first.counted i
      have := counted i
      rw [after, List.foldl_cons, ← after, lost]
      omega

lemma store_start : start.store i = Store.empty i := by
  cases i <;> rfl

/-- After a run what a host counts agrees with the buffers that it has. -/
lemma after_balanced [Machine] (h : ∀ c ∈ cs, Bare c.action) :
    ((after start cs).store n).Balanced :=
  ((after_entered h exclusive_start).1 n).balanced (store_start ▸ Store.balanced_empty n)

/-- **Handles fit in thirty-two bits**, those of live buffers and the next one, until a host has
made as many buffers as there are handles. -/
theorem number_lt_of_few [Machine] (h : ∀ c ∈ cs, Bare c.action)
    (few : ((after start cs).store n).counters.allocations < 0xffffffff) :
    (∀ k b, ((after start cs).store n).buffer? k = some b → k.number < 0x100000000) ∧
      ((after start cs).store n).slots.size < 0x100000000 := by
  have balanced := after_balanced (n := n) h
  refine ⟨fun k b hb => ?_, ?_⟩
  · exact Nat.lt_trans (Nat.lt_of_le_of_lt (balanced.number_le hb) few) (by decide)
  · rw [balanced.handles]
    exact Nat.succ_lt_succ few

end Scanout.Session
