/-
Which buffers are live in the course of a session.

* `Session.Owns`: the live buffers of a store are those of the framebuffers on a ledger, each has
  its own, and none is mapped;
* `Session.ledger`: the framebuffers that were made and not yet removed, as the answers tell;
* `Session.Tame`: the actions that work on framebuffers, and those that make requests other than
  `free` fail;
* `Session.ends_perform`: **what one action keeps**;
* `Session.play_owns`: **what every run of a session keeps**.
-/
import Scanout.Proofs.Framebuffer.Painting
import Scanout.Proofs.Session.Hosts
import Scanout.Proofs.Session.Views

namespace Scanout.Session

/-- The live buffers of a store are those of the framebuffers on a ledger, each framebuffer has its
own, and none is mapped. -/
structure Owns (s : Store) (owned : Array (Option Framebuffer)) : Prop where
  live : ∀ h, s.IsLive h ↔
    ∃ (slot : Nat) (fb : Framebuffer), owned[slot]? = some (some fb) ∧ fb.buffer = h
  apart : ∀ (i j : Nat) (fb fb' : Framebuffer), owned[i]? = some (some fb) →
    owned[j]? = some (some fb') → fb.buffer = fb'.buffer → i = j
  free : ∀ h b, s.buffer? h = some b → b.mapping = none

namespace Owns

variable {s s' : Store} {owned : Array (Option Framebuffer)} {h : Handle} {fb : Framebuffer}
  {slot : Nat}

lemma congr (hs : Owns s owned) (hlive : ∀ k, s'.IsLive k ↔ s.IsLive k)
    (hfree : ∀ k b, s'.buffer? k = some b → b.mapping = none) : Owns s' owned :=
  ⟨fun k => (hlive k).trans (hs.live k), hs.apart, hfree⟩

/-- Nothing is owned after a failure to make a framebuffer that was not owned before. -/
lemma keeps {freed : Prop} (hs : Owns s owned) (hk : s.Keeps freed s') (hf : freed) :
    Owns s' owned := by
  refine hs.congr (fun k => hk.isLive_iff hf) ?_
  intro k b hb
  cases hold : s.buffer? k with
  | none =>
      simp [hk.gone hf k hold] at hb
  | some b' =>
      cases (hk.old k b' hold).symm.trans hb
      exact hs.free k _ hold

/-- Work on a framebuffer changes bytes at most. -/
lemma settles {freed : Prop} {P : Bytes → Bytes → Prop} (hs : Owns s owned)
    (hset : s.Settles freed h P s') (hf : freed) : Owns s' owned := by
  refine hs.congr (fun k => hset.isLive_iff hf) ?_
  intro k b hb
  cases hold : s.buffer? k with
  | none =>
      simp [hset.gone hf k hold] at hb
  | some b' =>
      by_cases hk : k = h
      · subst hk
        obtain ⟨b'', hb'', hshape, -⟩ := hset.self b' hold
        cases hb''.symm.trans hb
        exact (congrArg (·.2.2.2) hshape).trans (hs.free k b' hold)
      · cases (hset.other k hk b' hold).symm.trans hb
        exact hs.free k _ hold

/-- A framebuffer that is made is owned. -/
lemma push {code : FourCC} {g : Framebuffer.Geometry} (hs : Owns s owned)
    (hm : Framebuffer.Made code g s fb s') : Owns s' (owned.push (some fb)) := by
  obtain ⟨b, hsets, hfree, -⟩ := hm.buffer
  -- what is on the ledger after the entry was added
  have entry : ∀ (i : Nat) (fb' : Framebuffer), (owned.push (some fb))[i]? = some (some fb') ↔
      owned[i]? = some (some fb') ∨ i = owned.size ∧ fb' = fb := by
    intro i fb'
    rw [Array.getElem?_push]
    split
    · next hi =>
      subst hi
      simp [eq_comm]
    · next hi => simp only [hi, false_and, or_false]
  -- the handle is a new one, so that no earlier entry has it
  have new : ∀ (i : Nat) (fb' : Framebuffer), owned[i]? = some (some fb') →
      fb'.buffer ≠ fb.buffer := by
    intro i fb' hi heq
    have hl : s.IsLive fb.buffer := (hs.live _).2 ⟨i, fb', hi, heq⟩
    simp [Store.IsLive, hm.fresh] at hl
  refine ⟨fun h => ?_, fun i j fb₁ fb₂ hi hj heq => ?_, fun h b' hb' => ?_⟩
  · by_cases hh : h = fb.buffer
    · subst hh
      refine iff_of_true ?_ ⟨owned.size, fb, (entry _ _).2 (.inr ⟨rfl, rfl⟩), rfl⟩
      simp [Store.IsLive, hsets.self]
    · rw [Store.IsLive, hsets.other hh]
      refine (hs.live h).trans ⟨?_, ?_⟩
      · rintro ⟨i, fb', hi, he⟩
        exact ⟨i, fb', (entry _ _).2 (.inl hi), he⟩
      · rintro ⟨i, fb', hi, rfl⟩
        rcases (entry _ _).1 hi with hi | ⟨-, rfl⟩
        · exact ⟨i, fb', hi, rfl⟩
        · exact absurd rfl hh
  · rcases (entry _ _).1 hi with hi' | ⟨hi', h₁⟩ <;> rcases (entry _ _).1 hj with hj' | ⟨hj', h₂⟩
    · exact hs.apart i j fb₁ fb₂ hi' hj' heq
    · exact absurd (h₂ ▸ heq) (new i fb₁ hi')
    · exact absurd (h₁ ▸ heq.symm) (new j fb₂ hj')
    · rw [hi', hj']
  · by_cases hh : h = fb.buffer
    · subst hh
      cases hsets.self.symm.trans hb'
      exact hfree
    · rw [hsets.other hh] at hb'
      exact hs.free h b' hb'

/-- A framebuffer whose buffer is freed is owned no more. -/
lemma erase (hs : Owns s owned) (hslot : owned[slot]? = some (some fb))
    (hsets : s.Sets fb.buffer none s') : Owns s' (owned.setIfInBounds slot none) := by
  -- what is left on the ledger
  have entry : ∀ (i : Nat) (fb' : Framebuffer),
      (owned.setIfInBounds slot none)[i]? = some (some fb') ↔
        owned[i]? = some (some fb') ∧ i ≠ slot := by
    intro i fb'
    by_cases hi : i = slot
    · subst hi
      simp only [ne_eq, not_true_eq_false, and_false, iff_false]
      intro h
      rw [Array.getElem?_setIfInBounds_self] at h
      split at h <;> cases h
    · rw [Array.getElem?_setIfInBounds_ne (Ne.symm hi)]
      simp only [ne_eq, hi, not_false_eq_true, and_true]
  refine ⟨fun h => ?_, fun i j fb₁ fb₂ hi hj heq => ?_, fun h b' hb' => ?_⟩
  · by_cases hh : h = fb.buffer
    · subst hh
      refine iff_of_false ?_ ?_
      · rw [Store.IsLive, hsets.self]
        exact Bool.false_ne_true
      · rintro ⟨i, fb', hi, heq⟩
        obtain ⟨hi, hne⟩ := (entry _ _).1 hi
        -- no other entry owns the buffer that went
        exact hne (hs.apart i slot fb' fb hi hslot heq)
    · rw [Store.IsLive, hsets.other hh]
      refine (hs.live h).trans ⟨?_, ?_⟩
      · rintro ⟨i, fb', hi, rfl⟩
        refine ⟨i, fb', (entry _ _).2 ⟨hi, ?_⟩, rfl⟩
        rintro rfl
        cases hslot.symm.trans hi
        exact hh rfl
      · rintro ⟨i, fb', hi, he⟩
        exact ⟨i, fb', ((entry _ _).1 hi).1, he⟩
  · exact hs.apart i j fb₁ fb₂ ((entry _ _).1 hi).1 ((entry _ _).1 hj).1 heq
  · by_cases hh : h = fb.buffer
    · subst hh
      simp [hsets.self] at hb'
    · rw [hsets.other hh] at hb'
      exact hs.free h b' hb'

end Owns

/-! ### Actions -/

variable {s : Session} {number : Nat} {m : Monitor Store} {log : Array Event} {α : Type}

lemma ends_framebuffer {slot : Nat} {Q : Checked Framebuffer → Run Session → Prop} :
    Ends (framebuffer slot) ⟨s, log⟩ Q ↔
      match (s.framebuffers[slot]?).join with
      | some fb => Q (.ok fb) ⟨s, log⟩
      | none => Q (.error .crash) ⟨s, log⟩ := by
  rw [framebuffer, ends_bind, ends_host]
  dsimp only
  rw [ends_ofChecked]
  cases (s.framebuffers[slot]?).join <;> rfl

/-- The actions that work on framebuffers, and those by which requests other than `free` are made to
fail. -/
inductive Tame : Action → Prop where
  | create (spelling : List UInt8) (g : Framebuffer.Geometry) : Tame (.create spelling g .plain)
  | view (slot : Nat) (ops : List ViewOp) (ending : ViewEnd) : Tame (.view slot ops ending)
  | draw (slot : Nat) (steps : List CanvasStep) : Tame (.draw slot steps)
  | remove (slot : Nat) : Tame (.remove slot)
  | inject (fault : Fault) (hf : fault.kind ≠ .free) : Tame (.inject fault)
  | heal : Tame .heal

/-- The framebuffers that were made and not yet removed, after an action and its answer, by the
order in which they were made. -/
def ledger (owned : Array (Option Framebuffer)) : Action → Checked Reply →
    Array (Option Framebuffer)
  | .create .., .ok (.framebuffer _ fb) => owned.push (some fb)
  | .remove slot, .ok _ => owned.setIfInBounds slot none
  | _, _ => owned

/-- A session keeps its ledger, and its host owns what is on it. -/
structure Tidy (s : Session) (owned : Array (Option Framebuffer)) : Prop where
  framebuffers : s.framebuffers = owned
  host : ∃ m, s.monitor? 0 = some m ∧ Fault.Lets m.faults .free ∧ Owns m.host owned

variable {owned : Array (Option Framebuffer)} {a : Action}

/-- Work on a framebuffer keeps the ledger. -/
lemma ends_work {slot : Nat} {work : Framebuffer → Act (Monitor Store) Reply} (hs : Tidy s owned)
    (hwork : ∀ fb t, Does (· = .free) (work fb) t fun _ t' =>
      t.Settles (CallKind.free = .free) fb.buffer (fun _ _ => True) t') :
    Ends (framebuffer slot >>= fun fb => onHost 0 (work fb)) ⟨s, log⟩ fun _ r =>
      Tidy r.host owned := by
  rw [ends_bind, ends_framebuffer]
  cases (s.framebuffers[slot]?).join with
  | none => exact hs
  | some fb =>
      obtain ⟨hfbs, m, hm, hf, ho⟩ := hs
      refine (ends_onHost hm).2 ((hwork fb m.host ⟨m, log⟩ rfl fun k hk => hk ▸ hf).mono ?_)
      exact fun o r h => ⟨hfbs, r.host, monitor?_modify hm _, h.1 _ rfl, ho.settles h.2 rfl⟩

/-- A framebuffer that is made is put on the ledger. -/
lemma ends_create [Machine] {spelling : List UInt8} {g : Framebuffer.Geometry} (hs : Tidy s owned) :
    Ends (perform 0 (.create spelling g .plain)) ⟨s, log⟩ fun o r =>
      Tidy r.host (ledger owned (.create spelling g .plain) o) := by
  rw [perform]
  rw [ends_bind, ends_ofChecked]
  cases FourCC.read spelling with
  | error f => exact hs
  | ok code =>
      obtain ⟨hfbs, m, hm, hf, ho⟩ := hs
      dsimp only
      rw [ends_bind, ends_onHost hm]
      have hlets : StoreHost.LetsAll (· = .free) m := fun k hk => hk ▸ hf
      refine (Framebuffer.does_create ⟨m, log⟩ rfl hlets).mono ?_
      intro o r h
      have hm' := monitor?_modify hm fun _ => r.host
      cases o with
      | error f => exact ⟨hfbs, r.host, hm', h.1 _ rfl, ho.keeps h.2 rfl⟩
      | ok fb =>
          subst hfbs
          exact ⟨rfl, r.host, hm', h.1 _ rfl, ho.push h.2⟩

/-- A framebuffer that is removed is taken off the ledger: its buffer is live and not mapped, so
that nothing keeps it from being freed. -/
lemma ends_remove [Machine] {slot : Nat} (hs : Tidy s owned) :
    Ends (perform 0 (.remove slot)) ⟨s, log⟩ fun o r =>
      Tidy r.host (ledger owned (.remove slot) o) := by
  rw [perform]
  rw [ends_bind, ends_framebuffer]
  obtain ⟨rfl, m, hm, hf, ho⟩ := hs
  cases hslot : (s.framebuffers[slot]?).join with
  | none => exact ⟨rfl, m, hm, hf, ho⟩
  | some fb =>
      have hslot : s.framebuffers[slot]? = some (some fb) := Option.join_eq_some_iff.1 hslot
      obtain ⟨b, hb⟩ := ((ho.live fb.buffer).2 ⟨slot, fb, hslot, rfl⟩).exists
      -- the buffer is there and free, so that nothing but the removal can happen
      have hremove : Does (σ := Monitor Store) (· = .free) fb.remove m.host fun o t =>
          o = .ok () ∧ m.host.Sets fb.buffer none t := by
        refine does_bind (does_emit (does_free (fun h => absurd rfl h) (fun hn => ?_)
          (fun b' hb' hmap => ?_) fun b' t hb' _ hsets => ⟨rfl, hsets⟩))
        · simp [hn] at hb
        · exact absurd (ho.free fb.buffer b' hb') hmap
      dsimp only
      rw [ends_bind, ends_update]
      dsimp only
      let kept : Session := { s with framebuffers := s.framebuffers.setIfInBounds slot none }
      have hm : kept.monitor? 0 = some m := hm
      rw [ends_bind, ends_onHost hm]
      refine (hremove ⟨m, log⟩ rfl fun k hk => hk ▸ hf).mono ?_
      intro o r h
      obtain ⟨hl, rfl, hsets⟩ := h
      exact ⟨rfl, r.host, monitor?_modify hm _, hl _ rfl, ho.erase hslot hsets⟩

/-- **What one action keeps**: the live buffers are those of the framebuffers on the ledger. -/
lemma ends_perform [Machine] (ha : Tame a) (hs : Tidy s owned) :
    Ends (perform 0 a) ⟨s, log⟩ fun o r => Tidy r.host (ledger owned a o) := by
  cases ha with
  | create spelling g => exact ends_create hs
  | view slot ops ending => exact ends_work hs fun fb t => does_view
  | draw slot steps => exact ends_work hs fun fb t => does_draw
  | remove slot => exact ends_remove hs
  | inject fault hfault =>
      obtain ⟨hfbs, m, hm, hf, ho⟩ := hs
      rw [perform]
      rw [ends_bind, ends_onHost hm]
      refine ⟨hfbs, _, monitor?_modify hm _, fun f hmem hk => ?_, ho⟩
      rcases List.mem_append.1 hmem with hmem | hmem
      · exact hf f hmem hk
      · rw [List.mem_singleton.1 hmem] at hk
        exact absurd hk hfault
  | heal =>
      obtain ⟨hfbs, m, hm, hf, ho⟩ := hs
      rw [perform]
      rw [ends_bind, ends_onHost hm]
      exact ⟨hfbs, _, monitor?_modify hm _, nofun, ho⟩

/-! ### Runs -/

/-- What one command on the host keeps. -/
lemma tidy_step [Machine] (ha : Tame a) (hs : Tidy s owned) :
    Tidy (s.step ⟨0, a⟩).2 (ledger owned a (s.step ⟨0, a⟩).1.outcome) := by
  obtain ⟨hfbs, m, hm, hf, ho⟩ := hs
  have hs' : Tidy (s.modify 0 fun m => { m with calls := #[] }) owned :=
    ⟨hfbs, _, monitor?_modify hm _, hf, ho⟩
  have hend : Ends (perform 0 a) ⟨_, #[]⟩ _ := ends_perform ha hs'
  rw [Ends] at hend
  rw [step]
  dsimp only
  cases hp : perform 0 a ⟨s.modify 0 fun m => { m with calls := #[] }, #[]⟩ with
  | ok reply r =>
      rw [hp] at hend
      exact hend
  | error f r =>
      rw [hp] at hend
      exact hend

/-- A session and its ledger after actions on its host, one after the other. -/
def play [Machine] (s : Session) (owned : Array (Option Framebuffer)) : List Action →
    Session × Array (Option Framebuffer)
  | [] => (s, owned)
  | a :: actions =>
    let (entry, s) := s.step ⟨0, a⟩
    play s (ledger owned a entry.outcome) actions

lemma tidy_play [Machine] {actions : List Action} (ha : ∀ a ∈ actions, Tame a) (hs : Tidy s owned) :
    Tidy (play s owned actions).1 (play s owned actions).2 := by
  induction actions generalizing s owned with
  | nil => exact hs
  | cons a actions ih =>
      exact ih (fun b hb => ha b (List.mem_cons_of_mem a hb))
        (tidy_step (ha a List.mem_cons_self) hs)

/-- A session begins with nothing on its ledger. -/
lemma tidy_start : Tidy start #[] := by
  have hm : start.monitor? 0 = some (.ofHost (.empty 0)) := rfl
  have ho : Owns (Store.empty 0) #[] := by
    refine ⟨fun h => ?_, fun i j fb fb' hi => ?_, fun h b hb => ?_⟩
    · refine iff_of_false ?_ ?_
      · rw [Store.IsLive, Store.buffer?_empty]
        exact Bool.false_ne_true
      · rintro ⟨slot, fb, hslot, -⟩
        cases hslot
    · cases hi
    · simp [Store.buffer?_empty] at hb
  refine ⟨rfl, _, hm, fun f hf => ?_, ho⟩
  cases hf

/-- **No buffer is ever left behind or lost.** From a host without buffers on, whatever framebuffers
are made, viewed, painted and removed, and whatever requests fail but for those to free a buffer,
the live buffers are at all times exactly those of the framebuffers that were made and not yet
removed; no two of them have the same buffer, and none is mapped. -/
theorem play_owns [Machine] (actions : List Action) (h : ∀ a ∈ actions, Tame a) :
    ∃ m, (play start #[] actions).1.monitor? 0 = some m ∧
      Owns m.host (play start #[] actions).2 := by
  obtain ⟨-, m, hm, -, ho⟩ := tidy_play h tidy_start
  exact ⟨m, hm, ho⟩

/-- A tiled framebuffer is made, painting on it fails for want of a copy, and it is removed. -/
def rehearsal : List Action :=
  [.create [88, 82, 50, 52] ⟨.standard, 1, 1, .y, 0, 0⟩ .plain, .inject ⟨.copy, 0, 1⟩, .draw 0 [],
    .heal, .view 0 [.write 0 ⟨#[1, 2, 3, 4]⟩] .drop, .remove 0]

theorem rehearsal_owns :
    (∀ a ∈ rehearsal, Tame a) ∧
      ∃ m, (play start #[] rehearsal).1.monitor? 0 = some m ∧
        Owns m.host (play start #[] rehearsal).2 := by
  have tame : ∀ a ∈ rehearsal, Tame a := by
    intro a ha
    simp only [rehearsal, List.mem_cons, List.not_mem_nil, or_false] at ha
    obtain rfl | rfl | rfl | rfl | rfl | rfl := ha
    · exact .create ..
    · exact .inject _ (by decide)
    · exact .draw ..
    · exact .heal
    · exact .view ..
    · exact .remove 0
  exact ⟨tame, play_owns rehearsal tame⟩

end Scanout.Session
