/-
What the holders of mappings can rely on.

Hosts, their buffers and the mappings of them come and go, handles of several hosts coincide, and
mappings are handed to hosts that did not make them. The mappings of a buffer guard it all the same.

* `Session.after`: a session after some commands;
* `Session.Guarded`: a mapped buffer is shown by one mapping, and is neither used nor changed until
  that is given up, and then free again; a host takes back its own mappings only;
* `Session.step_done`: what one command does;
* `Session.after_guarded`: **every session that a list of commands leads to is guarded**.
-/
import Scanout.Proofs.Session.Bare

namespace Scanout.Session

/-- A session after commands that are given one after the other. -/
def after [Machine] (s : Session) (cs : List Command) : Session :=
  cs.foldl (fun s c => (s.step c).2) s

/-- What the holders of mappings can rely on in a session, whatever is done next. -/
structure Guarded [Machine] (s : Session) : Prop where
  /-- A buffer has one mapping at most. -/
  alone : ∀ i j h h' p, s.Holds i h → s.Holds j h' → h.mapping.place? = some p →
    h'.mapping.place? = some p → i = j
  /-- The range of a mapping lies inside its buffer, and the bytes there are what is seen. -/
  inside : ∀ i h n k, s.Holds i h → h.mapping.place? = some (n, k) →
    ∃ (st : Station) (b : Buffer), s.stations[n]? = some st ∧
      st.monitor.host.buffer? k = some b ∧ h.mapping.offset + h.mapping.len ≤ b.bytes.size ∧
        s.memory h = b.bytes.slice h.mapping.offset h.mapping.len
  /-- A mapping that is made names the host, the buffer and the range that were asked for. -/
  issued : ∀ n k offset size access slot,
    (s.step ⟨n, .map k offset size access⟩).1.outcome = .ok (.made slot) →
      ∃ h, (s.step ⟨n, .map k offset size access⟩).2.Holds slot h ∧
        h.mapping = ⟨k, offset, size, some n⟩
  /-- A mapping over memory of its own names no host. -/
  unissued : ∀ n k offset memory slot,
    (s.step ⟨n, .rawMap k offset memory⟩).1.outcome = .ok (.made slot) →
      ∃ h, (s.step ⟨n, .rawMap k offset memory⟩).2.Holds slot h ∧
        h.mapping = ⟨k, offset, memory.size, none⟩
  /-- What asks for buffers that are not mapped succeeds only where none of them is. -/
  free : ∀ c reply, Bare c.action → (s.step c).1.outcome = .ok reply →
    ∀ k ∈ c.action.uses, ¬s.Maps (c.host, k)
  /-- Nothing is refused for the mapping of a buffer that has none. -/
  refused : ∀ c use k, Bare c.action →
    (s.step c).1.outcome = .error (.error (.host (.mapped use k))) → s.Maps (c.host, k)
  /-- A mapping that is given up, in whatever way, leaves its buffer without one, and what is asked
  next is not refused for it. -/
  ended : ∀ c slot h p, Bare c.action → c.action.givesUp = some slot → s.Holds slot h →
    h.mapping.place? = some p →
      ¬(s.step c).2.Maps p ∧ ∀ a use, Bare a →
        ((s.step c).2.step ⟨p.1, a⟩).1.outcome ≠ .error (.error (.host (.mapped use p.2)))
  /-- A mapping stays until it is given up, and the bytes that are seen through it stay the same
  until something is written through it. -/
  steady : ∀ c slot h, Bare c.action → s.Holds slot h → c.action.givesUp ≠ some slot →
    ∃ h', (s.step c).2.Holds slot h' ∧ h'.mapping = h.mapping ∧
      (c.action.writes ≠ some slot → (s.step c).2.memory h' = s.memory h)
  /-- A host takes a mapping back exactly if it has made it, and is left as it was otherwise. -/
  unmapped : ∀ n w slot h, s.monitor? n = some w → s.Holds slot h →
    ((∃ reply, (s.step ⟨n, .unmap slot⟩).1.outcome = .ok reply) ↔ h.mapping.issuer = some n) ∧
      (h.mapping.issuer ≠ some n →
        ∃ w', (s.step ⟨n, .unmap slot⟩).2.monitor? n = some w' ∧ w'.host = w.host)

variable {s s₁ s' : Session} {n : Nat} {a : Action} {o : Checked Reply} {c : Command}

/-! ### Commands -/

/-- The session that a command finds: the requests of the command before are forgotten. -/
def noticed (s : Session) (n : Nat) : Session :=
  s.modify n fun w => { w with calls := #[] }

lemma seen_noticed : (s.noticed n).seen = s.seen :=
  seen_modify_same fun _ _ => rfl

lemma Exclusive.noticed (hs : Exclusive s) : Exclusive (s.noticed n) :=
  hs.congr (hs.plain.modify fun _ hn hf => ⟨hn, hf⟩) rfl seen_noticed

/-- What an action ends with and leaves is what the command does. -/
lemma step_of_ends [Machine] {Q : Checked Reply → Run Session → Prop}
    (h : Ends (perform c.host c.action) ⟨s.noticed c.host, #[]⟩ Q) :
    Q (s.step c).1.outcome ⟨(s.step c).2, (s.step c).1.log⟩ := by
  rw [Ends] at h
  rw [step]
  dsimp only
  rw [noticed] at h
  cases hp : perform c.host c.action ⟨s.modify c.host fun w => { w with calls := #[] }, #[]⟩ with
  | ok reply r =>
      rw [hp] at h
      exact h
  | error f r =>
      rw [hp] at h
      exact h

/-- What one command does. -/
lemma step_done [Machine] (ha : Bare c.action) (hs : Exclusive s) :
    Done s c.host c.action (s.step c).1.outcome (s.step c).2 := by
  obtain ⟨plain, change, tells⟩ := step_of_ends (ends_bare ha hs.noticed)
  refine ⟨plain, change.of_calm rfl seen_noticed, ?_⟩
  revert tells
  cases (s.step c).1.outcome <;> simp only [Tells, seen_noticed] <;> exact id

lemma step_exclusive [Machine] (ha : Bare c.action) (hs : Exclusive s) : Exclusive (s.step c).2 :=
  have done := step_done ha hs
  done.change.exclusive hs done.plain

/-- A refusal for a mapping is right. -/
lemma maps_of_refused [Machine] {use : Use} {k : Handle} (ha : Bare c.action) (hs : Exclusive s)
    (ho : (s.step c).1.outcome = .error (.error (.host (.mapped use k)))) :
    s.Maps (c.host, k) := by
  have told := (step_done ha hs).tells
  rw [ho] at told
  exact hs.maps_iff.2 (told use k rfl)

/-! ### Runs -/

/-- Where mappings exclude each other buffers are guarded. -/
lemma Exclusive.guarded [Machine] (hs : Exclusive s) : Guarded s where
  alone := hs.alone
  inside := by
    intro i h n k hi hp
    obtain ⟨bytes, hb, inside⟩ := hs.shown i h (n, k) hi hp
    have memory := memory_of_seen hp hb
    obtain ⟨st, hst, hseen⟩ := Option.bind_eq_some_iff.1 hb
    obtain ⟨b, hbuf, -, rfl⟩ := Store.seen_eq_some.1 hseen
    exact ⟨st, b, hst, hbuf, inside, memory⟩
  issued := fun n k offset size access =>
    (step_of_ends (c := ⟨n, .map k offset size access⟩) (ends_map hs.noticed offset size access)).2
  unissued := fun n k offset memory =>
    (step_of_ends (c := ⟨n, .rawMap k offset memory⟩) (ends_rawMap hs.noticed offset memory)).2
  free := by
    intro c reply ha ho k hk hm
    have told := (step_done ha hs).tells
    rw [ho] at told
    -- a request that was answered had found no mapping of the buffer
    exact hs.maps_iff.1 hm (told k hk)
  refused := fun c use k ha ho => maps_of_refused ha hs ho
  ended := by
    intro c slot h p ha given hi hp
    have gone := (step_done ha hs).change.ends_maps hs hi given hp
    exact ⟨gone, fun a use ha' ho =>
      gone (maps_of_refused (c := ⟨p.1, a⟩) ha' (step_exclusive ha hs) ho)⟩
  steady := fun c slot h ha hi stays => (step_done ha hs).change.keeps hs hi stays
  unmapped := by
    intro n w slot h hw hi
    have hw' := monitor?_modify hw fun w => { w with calls := #[] }
    have taken := (step_of_ends (c := ⟨n, .unmap slot⟩) (ends_unmap hs.noticed)).2 _ h hw' hi
    exact taken

lemma exclusive_start : Exclusive start := by
  have unseen : ∀ p, start.seen p = none := by
    rintro ⟨_ | n, k⟩
    · show (Store.empty 0).seen k = none
      rw [Store.seen, Store.buffer?_empty]
      rfl
    · rfl
  have empty : ∀ i h, ¬start.Holds i h := by simp [Holds, start]
  refine ⟨?_, ?_, ?_, ?_⟩
  · rintro (_ | n) st hst
    · cases hst
      exact ⟨rfl, rfl⟩
    · cases hst
  · exact fun i h p hi => absurd hi (empty i h)
  · intro p m bytes hb
    cases (unseen p).symm.trans hb
  · exact fun i j h h' p hi => absurd hi (empty i h)

lemma exclusive_after [Machine] {cs : List Command} (h : ∀ c ∈ cs, Bare c.action)
    (hs : Exclusive s) : Exclusive (s.after cs) := by
  induction cs generalizing s with
  | nil => exact hs
  | cons c cs ih =>
      exact ih (fun d hd => h d (List.mem_cons_of_mem c hd))
        (step_exclusive (h c List.mem_cons_self) hs)

/-- **Mappings exclude each other.** From one host without buffers on, whatever hosts are opened and
dropped, whatever buffers are allocated, freed, copied and read, and whatever becomes of mappings,
those that no host has made and those that are handed to another host than theirs among them: each
buffer has one mapping at most, which lies inside it; it is not used while it is mapped and is not
refused for a mapping that has been given up; what is seen through a mapping changes by writing
through it alone; and a host takes back the mappings that it has made, and is not changed by any
other. -/
theorem after_guarded [Machine] (cs : List Command) (h : ∀ c ∈ cs, Bare c.action) :
    Guarded (after start cs) :=
  (exclusive_after h exclusive_start).guarded

/-- Two hosts make mappings of buffers that have the same handle. The first is handed the mapping of
the second and one that nobody has made, is asked to map and to free its buffer a second time, and
keeps its own. -/
def standoff : List Command :=
  [⟨0, .openHost⟩, ⟨0, .allocate 16⟩, ⟨1, .allocate 8⟩, ⟨0, .map ⟨1⟩ 4 8 .readWrite⟩,
    ⟨1, .map ⟨1⟩ 0 8 .read⟩, ⟨0, .rawMap ⟨1⟩ 4 ⟨#[1, 2]⟩⟩, ⟨0, .writeMapping 0 2 ⟨#[7]⟩⟩,
    ⟨0, .unmap 1⟩, ⟨0, .unmap 2⟩, ⟨0, .map ⟨1⟩ 12 4 .write⟩, ⟨0, .free ⟨1⟩⟩, ⟨1, .free ⟨1⟩⟩,
    ⟨1, .dropHost⟩]

set_option maxRecDepth 2000 in
theorem standoff_guarded :
    (∀ c ∈ standoff, Bare c.action) ∧ Guarded (after start standoff) ∧
      (after start standoff).Maps (0, ⟨1⟩) := by
  have bare : ∀ c ∈ standoff, Bare c.action := by
    intro c hc
    simp only [standoff, List.mem_cons, List.not_mem_nil, or_false] at hc
    rcases hc with rfl | rfl | rfl | rfl | rfl | rfl | rfl | rfl | rfl | rfl | rfl | rfl | rfl <;>
      exact trivial
  exact ⟨bare, after_guarded standoff bare, 0, ⟨⟨⟨1⟩, 4, 8, some 0⟩, .empty⟩, rfl, rfl⟩

end Scanout.Session
