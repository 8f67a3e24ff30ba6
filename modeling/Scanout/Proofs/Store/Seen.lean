/-
What is seen of a store through mappings.

A buffer that is mapped is seen: the mapping and the bytes behind it are all that a program which
holds mappings can tell of a store. Most requests change nothing of that.

* `Store.seen`: the mapping of a buffer and the bytes of the buffer, by handle;
* `Store.Calm`: one store is another one as far as anyone sees;
* `Store.Tells`: what the outcome of a request tells of the buffers that it is about;
* `Store.ends_map`, `Store.ends_unmap`, `Store.ends_copy` and their companions: **what each request
  does to what is seen**;
* `Monitor.ends_passed`: the same of a host that is watched and has no faults.
-/
import Scanout.Proofs.Store.Requests
import Mathlib.Logic.Function.Basic

namespace Scanout

namespace Store

/-- The mapping through which a buffer is seen, and the bytes of the buffer. -/
def seen (s : Store) (h : Handle) : Option (Mapping × Bytes) :=
  (s.buffer? h).bind fun b => b.mapping.map (·, b.bytes)

/-- A store is another one as far as its number and what is seen through mappings go. -/
structure Calm (s s' : Store) : Prop where
  serial : s'.serial = s.serial
  seen : s'.seen = s.seen

/-- A failure which says that a buffer is mapped speaks of one that is. -/
def Founded (s : Store) (f : Failure) : Prop :=
  ∀ use h, f = .error (.host (.mapped use h)) → s.seen h ≠ none

/-- What the outcome of a request tells of the buffers that it is about: none is mapped where it
succeeds, and one is where it is refused for that. -/
def Tells {α : Type} (s : Store) (hs : List Handle) : Checked α → Prop
  | .ok _ => ∀ h ∈ hs, s.seen h = none
  | .error f => s.Founded f

variable {s : Store} {h : Handle} {b : Buffer} {m : Mapping} {log : Array Event} {α β : Type}

lemma Calm.refl (s : Store) : s.Calm s := ⟨rfl, rfl⟩

lemma tells_ok (a : α) : s.Tells [] (.ok a : Checked α) :=
  List.forall_mem_nil _

lemma founded_unknownBuffer : s.Founded (.error (.unknownBuffer h)) := by
  rintro _ _ ⟨⟩

lemma founded_foreignMapping : s.Founded (.error (.host (.foreignMapping h))) := by
  rintro _ _ ⟨⟩

lemma seen_eq_none (hb : s.buffer? h = some b) (hm : b.mapping = none) : s.seen h = none := by
  simp only [seen, hb, hm, Option.bind_some, Option.map_none]

lemma seen_eq_some {bytes : Bytes} : s.seen h = some (m, bytes) ↔
    ∃ b, s.buffer? h = some b ∧ b.mapping = some m ∧ b.bytes = bytes := by
  simp only [seen, Option.bind_eq_some_iff, Option.map_eq_some_iff, Prod.mk.injEq]
  constructor
  · rintro ⟨b, hb, _, hm, rfl, rfl⟩
    exact ⟨b, hb, hm, rfl⟩
  · rintro ⟨b, hb, hm, rfl⟩
    exact ⟨b, hb, m, hm, rfl, rfl⟩

/-- The memory behind a mapping is its range of the bytes of the buffer that is seen through it. -/
lemma window_eq (s : Store) (m : Mapping) :
    s.window m =
      match s.seen m.buffer with
      | some (m', bytes) => if m' = m then bytes.slice m.offset m.len else .empty
      | none => .empty := by
  rw [window, seen]
  cases s.buffer? m.buffer with
  | none => rfl
  | some b =>
      cases hm : b.mapping with
      | none => simp [hm]
      | some m' => simp [hm]

/-! ### Changes of a buffer -/

lemma seen_modify (s : Store) (h : Handle) (f : Buffer → Buffer) :
    (s.modify h f).seen = Function.update s.seen h
      ((s.buffer? h).bind fun b => (f b).mapping.map (·, (f b).bytes)) := by
  funext k
  rw [seen, buffer?_modify, Function.update_apply]
  split
  · next hk =>
    subst hk
    cases s.buffer? k <;> rfl
  · rfl

/-- A buffer that is seen as before may change otherwise. -/
lemma seen_modify_same {f : Buffer → Buffer}
    (same : ∀ b, s.buffer? h = some b →
      (f b).mapping.map (·, (f b).bytes) = b.mapping.map (·, b.bytes)) :
    (s.modify h f).seen = s.seen := by
  rw [seen_modify, Function.update_eq_self_iff, seen]
  cases hb : s.buffer? h with
  | none => rfl
  | some b => exact same b hb

/-- A mapping that is given up is seen no more, and every other one as before. -/
lemma seen_discard (hm : ∀ p ∈ s.seen m.buffer, p.1 = m) :
    (s.discard m).seen = Function.update s.seen m.buffer none := by
  rw [discard, seen_modify]
  congr 1
  cases hb : s.buffer? m.buffer with
  | none => rfl
  | some b =>
      simp only [Option.bind_some]
      split
      · rfl
      · next hne =>
        cases hbm : b.mapping with
        | none => rfl
        | some m' => exact absurd (hm _ (seen_eq_some.2 ⟨b, hb, hbm, rfl⟩) ▸ hbm) hne

/-- What is written through a mapping is seen, and nothing else changes. -/
lemma seen_setWindow {old new : Bytes} (hs : s.seen m.buffer = some (m, old)) :
    (s.setWindow m new).seen = Function.update s.seen m.buffer
      (some (m, old.overwrite m.offset (new.slice 0 m.len))) := by
  obtain ⟨b, hb, hm, rfl⟩ := seen_eq_some.1 hs
  rw [setWindow, seen_modify]
  simp only [hb, hm, Option.bind_some, ↓reduceIte, Option.map_some]

/-! ### Questions that come before a request -/

variable {Q : Checked α → Run Store → Prop}

/-- A request about a buffer that must not be mapped says that it is only where it is. -/
lemma ends_unmapped {use : Use} {x : Buffer → Act Store α}
    (missed : ∀ f log, s.Founded f → Q (.error f) ⟨s, log⟩)
    (found : ∀ b, s.buffer? h = some b → b.mapping = none → Ends (x b) ⟨s, log⟩ Q) :
    Ends (find h >>= fun b => refuseMapped use h b >>= fun _ => x b) ⟨s, log⟩ Q := by
  refine ends_found_unmapped (fun _ => missed _ _ founded_unknownBuffer)
    (fun b hb hm => missed _ _ fun use' k heq => ?_) found
  cases heq
  obtain ⟨m, hm⟩ := Option.ne_none_iff_exists'.1 hm
  simp [seen_eq_some.2 ⟨b, hb, hm, rfl⟩]

/-! ### Failures that have nothing to do with mappings -/

variable {f : Failure} {n : Nat}

lemma founded_reserve (hf : reserve n = .error f) : s.Founded f := by
  rintro use k rfl
  rw [reserve] at hf
  split at hf <;> cases hf

lemma founded_checkRange {offset len size : Nat} (hf : checkRange h offset len size = .error f) :
    s.Founded f := by
  rintro use k rfl
  rw [checkRange] at hf
  split at hf <;> cases hf

lemma founded_checkRows {stride len size start : Nat}
    (hf : checkRows h stride len size n start = .error f) : s.Founded f := by
  induction n generalizing start with
  | zero => cases hf
  | succ n ih =>
      rw [checkRows] at hf
      split at hf
      · exact ih hf
      · next hr =>
        cases hf
        exact founded_checkRange hr

lemma founded_scatter {source : Bytes} {srcStride dstStride len srcStart dstStart : Nat}
    {bytes : Bytes}
    (hf : (scatter h source srcStride dstStride len n srcStart dstStart bytes).2 = .error f) :
    s.Founded f := by
  induction n generalizing srcStart dstStart bytes with
  | zero => cases hf
  | succ n ih =>
      rw [scatter] at hf
      split at hf
      · exact ih hf
      · next hr =>
        cases hf
        exact founded_checkRange hr

/-- Nothing is seen to happen where an outcome that has nothing to do with mappings ends a request.
-/
lemma ends_checked {c : Checked β} {x : β → Act Store α}
    (failed : ∀ f, c = .error f → Q (.error f) ⟨s, log⟩)
    (passed : ∀ a, c = .ok a → Ends (x a) ⟨s, log⟩ Q) :
    Ends (Act.ofChecked c >>= x) ⟨s, log⟩ Q := by
  rw [ends_bind, ends_ofChecked]
  cases c with
  | ok a => exact passed a rfl
  | error f => exact failed f rfl

/-! ### Requests -/

lemma ends_allocate (size : Nat) :
    Ends (allocate size) ⟨s, log⟩ fun o r => s.Calm r.host ∧ s.Tells [] o := by
  refine ends_checked (fun f hf => ⟨.refl s, founded_reserve hf⟩) fun _ _ => ?_
  refine ⟨⟨rfl, funext fun k => ?_⟩, tells_ok _⟩
  -- a buffer that has just been made is not mapped
  obtain ⟨i⟩ := k
  simp only [seen, buffer?, Array.getElem?_push]
  split
  · next hi =>
    subst hi
    simp [Buffer.fresh]
  · rfl

lemma ends_setTiling (tiling : Tiling) (stride : Nat) :
    Ends (setTiling h tiling stride) ⟨s, log⟩ fun o r => s.Calm r.host ∧ s.Tells [] o :=
  ends_found (fun _ => ⟨.refl s, founded_unknownBuffer⟩) fun _ _ =>
    ⟨⟨rfl, seen_modify_same fun _ _ => rfl⟩, tells_ok _⟩

lemma ends_syncCpu : Ends (syncCpu h) ⟨s, log⟩ fun o r => s.Calm r.host ∧ s.Tells [] o :=
  ends_found (fun _ => ⟨.refl s, founded_unknownBuffer⟩) fun _ _ => ⟨⟨rfl, rfl⟩, tells_ok _⟩

lemma ends_syncGpu : Ends (syncGpu h) ⟨s, log⟩ fun o r => s.Calm r.host ∧ s.Tells [] o :=
  ends_found (fun _ => ⟨.refl s, founded_unknownBuffer⟩) fun _ _ => ⟨⟨rfl, rfl⟩, tells_ok _⟩

lemma ends_tiling : Ends (Store.tiling h) ⟨s, log⟩ fun o r => s.Calm r.host ∧ s.Tells [] o :=
  ends_found (fun _ => ⟨.refl s, founded_unknownBuffer⟩) fun _ _ => ⟨.refl s, tells_ok _⟩

lemma ends_contents : Ends (contents h) ⟨s, log⟩ fun o r => s.Calm r.host ∧ s.Tells [h] o := by
  refine ends_unmapped (fun f log hf => ⟨.refl s, hf⟩) fun b hb hm => ⟨.refl s, ?_⟩
  simpa [Tells] using seen_eq_none hb hm

lemma ends_free : Ends (free h) ⟨s, log⟩ fun o r => s.Calm r.host ∧ s.Tells [h] o := by
  refine ends_unmapped (fun f log hf => ⟨.refl s, hf⟩) fun b hb hm => ?_
  have free := seen_eq_none hb hm
  refine ⟨⟨rfl, funext fun k => ?_⟩, by simpa [Tells] using free⟩
  obtain ⟨i⟩ := k
  obtain ⟨j⟩ := h
  simp only [seen, buffer?, Array.getElem?_modify] at free ⊢
  split
  · next hij =>
    subst hij
    rw [free]
    cases s.slots[j]? <;> rfl
  · rfl

/-- A copy stores bytes in a buffer that is not mapped, where nobody sees them. -/
lemma ends_copy (src dst : Surface) (area : Area) :
    Ends (copy src dst area) ⟨s, log⟩ fun o r =>
      s.Calm r.host ∧ s.Tells [src.buffer, dst.buffer] o := by
  rw [copy, ends_bind, ends_emit]
  refine ends_unmapped (fun f log hf => ⟨.refl s, hf⟩) fun a ha hma => ?_
  refine ends_checked (fun f hf => ⟨.refl s, founded_reserve hf⟩) fun _ _ => ?_
  refine ends_checked (fun f hf => ⟨.refl s, founded_checkRows hf⟩) fun _ _ => ?_
  refine ends_unmapped (fun f log hf => ⟨.refl s, hf⟩) fun b hb hmb => ?_
  have hidden (bytes : Bytes) : (s.modify dst.buffer fun b => { b with bytes }).seen = s.seen := by
    refine seen_modify_same fun b' hb' => ?_
    cases hb.symm.trans hb'
    simp only [hmb, Option.map_none]
  dsimp only
  generalize hout : scatter dst.buffer a.bytes _ _ _ _ _ _ b.bytes = out
  obtain ⟨bytes, outcome⟩ := out
  refine ends_bind.2 (ends_update.2 ?_)
  refine ends_checked (fun f hf => ⟨⟨rfl, hidden _⟩, founded_scatter (by rw [hout]; exact hf)⟩)
    fun _ _ => ?_
  refine ⟨⟨rfl, hidden _⟩, ?_⟩
  simpa [Tells] using ⟨seen_eq_none ha hma, seen_eq_none hb hmb⟩

/-- A mapping that is made is seen, and its range lies inside the buffer. -/
lemma ends_map (offset size : Nat) (access : Access) :
    Ends (map h offset size access) ⟨s, log⟩ fun o r =>
      s.Tells [h] o ∧ r.host.serial = s.serial ∧
        match o with
        | .ok m => m = ⟨h, offset, size, some s.serial⟩ ∧
          ∃ bytes, offset + size ≤ bytes.size ∧
            r.host.seen = Function.update s.seen h (some (m, bytes))
        | .error _ => r.host.seen = s.seen := by
  refine ends_unmapped (fun f log hf => ⟨hf, rfl, rfl⟩) fun b hb hm => ?_
  refine ends_checked (fun f hf => ⟨founded_checkRange hf, rfl, rfl⟩) fun _ hin => ?_
  have inside : offset + size ≤ b.bytes.size := by
    by_contra hout
    rw [checkRange, if_neg hout] at hin
    cases hin
  refine ⟨by simpa [Tells] using seen_eq_none hb hm, rfl, rfl, b.bytes, inside, ?_⟩
  refine (seen_modify s h _).trans ?_
  rw [hb]
  rfl

/-- The mapping through which a buffer is seen is taken back. -/
lemma ends_unmap {bytes : Bytes} (hs : s.seen m.buffer = some (m, bytes)) :
    Ends (unmap m) ⟨s, log⟩ fun o r => o = .ok () ∧ r.host.serial = s.serial ∧
      r.host.seen = Function.update s.seen m.buffer none := by
  obtain ⟨b, hb, hm, rfl⟩ := seen_eq_some.1 hs
  refine ends_found (fun hn => by simp [hn] at hb) fun b' hb' => ?_
  cases hb.symm.trans hb'
  rw [if_pos hm]
  refine ⟨rfl, rfl, (seen_modify s _ _).trans ?_⟩
  simp only [hb, Option.bind_some, Option.map_none]

/-- Any other mapping is refused, and nothing is done. -/
lemma ends_unmap_foreign (hs : ∀ bytes, s.seen m.buffer ≠ some (m, bytes)) :
    Ends (unmap m) ⟨s, log⟩ fun o r =>
      (∃ f, o = .error f ∧ s.Founded f) ∧ r.host = s := by
  refine ends_found (fun _ => ⟨⟨_, rfl, founded_unknownBuffer⟩, rfl⟩) fun b hb => ?_
  rw [if_neg fun hm => hs _ (seen_eq_some.2 ⟨b, hb, hm, rfl⟩)]
  exact ⟨⟨_, rfl, founded_foreignMapping⟩, rfl⟩

end Store

/-! ### A store that is watched -/

namespace Monitor

variable {m : Monitor Store} {log : Array Event} {α : Type}

variable {x : Act Store α} {Q : Checked α → Run Store → Prop}

lemma ends_forwarded (hm : m.faults = []) (hx : Ends x ⟨m.host, log⟩ Q) :
    Ends (forward x) ⟨m, log⟩ fun o r => r.host.faults = [] ∧ Q o ⟨r.host.host, r.log⟩ :=
  ends_forward.2 (hx.mono fun _ _ h => ⟨hm, h⟩)

/-- A request that no fault stands in the way of is what the store does. -/
lemma ends_passed {call : Call} (hm : m.faults = []) (hx : Ends x ⟨m.host, log⟩ Q) :
    Ends (request call x) ⟨m, log⟩ fun o r => r.host.faults = [] ∧ Q o ⟨r.host.host, r.log⟩ := by
  rw [ends_request]
  simp only [hm, noted, Fault.visit, Bool.false_eq_true, ↓reduceIte]
  exact hx.mono fun o r h => ⟨trivial, h⟩

lemma ends_unmap_passed {back : Mapping} {Q : Checked Unit → Run Store → Prop}
    (hm : m.faults = []) (hx : Ends (Store.unmap back) ⟨m.host, log⟩ Q) :
    Ends (unmap back) ⟨m, log⟩ fun o r => r.host.faults = [] ∧ Q o ⟨r.host.host, r.log⟩ := by
  rw [unmap, ends_bind, ends_note]
  simp only [hm, Fault.visit, Bool.false_eq_true, ↓reduceIte]
  refine ends_forwarded ?_ hx
  simp only [noted, hm, Fault.visit]

end Monitor

end Scanout
