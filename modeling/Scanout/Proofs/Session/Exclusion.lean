/-
Mappings exclude each other.

The state of a session is told here by two things alone: the mappings that are held, by slot, and
what is seen through mappings, by host and buffer. An action changes little of either.

* `Mapping.place?`: the buffer that a mapping shows, with the host that made it;
* `Session.seen`: the mapping and the bytes of each buffer that is mapped;
* `Session.Change`: **the ways in which one action can change a session**;
* `Session.Exclusive`: the mappings that are held and those through which buffers are seen are the
  same, one for each buffer;
* `Change.exclusive`: every change keeps that;
* `Change.keeps`: a mapping that is held stays, and so do the bytes behind it, unless the action
  gives it up or writes through it.
-/
import Scanout.Proofs.Store.Seen
import Scanout.Session.Step

namespace Scanout

/-- A buffer of one of the hosts of a session. -/
abbrev Place := Nat × Handle

/-- The buffer that a mapping shows, with the host that made the mapping. One that no host has made
shows none. -/
def Mapping.place? (m : Mapping) : Option Place :=
  m.issuer.map (·, m.buffer)

namespace Session

/-- A mapping is held in a slot. -/
def Holds (s : Session) (slot : Nat) (h : Held) : Prop :=
  s.mappings[slot]? = some (some h)

/-- A mapping is held that its host has made for a buffer. -/
def Maps (s : Session) (p : Place) : Prop :=
  ∃ slot h, s.Holds slot h ∧ h.mapping.place? = some p

/-- The mapping through which a buffer is seen, and the bytes of the buffer. -/
def seen (s : Session) (p : Place) : Option (Mapping × Bytes) :=
  (s.stations[p.1]?).bind fun st => st.monitor.host.seen p.2

/-- Every host knows its number and has no faults. -/
def Plain (s : Session) : Prop :=
  ∀ (n : Nat) (st : Station), s.stations[n]? = some st →
    st.monitor.host.serial = n ∧ st.monitor.faults = []

/-- The slot whose mapping an action gives up. -/
def Action.givesUp : Action → Option Nat
  | .unmap slot | .dropMapping slot => some slot
  | _ => none

/-- The slot through whose mapping an action writes. -/
def Action.writes : Action → Option Nat
  | .writeMapping slot .. => some slot
  | _ => none

variable {s s' : Session} {slot i j n : Nat} {h h' h₁ : Held} {m : Mapping} {p q : Place}
  {k : Handle} {a : Action}

lemma givesUp_of_writes (ha : a.writes = some slot) : a.givesUp = none := by
  cases a <;> first | rfl | cases ha

lemma place?_eq_some : m.place? = some (n, k) ↔ m.issuer = some n ∧ m.buffer = k := by
  simp only [Mapping.place?, Option.map_eq_some_iff, Prod.mk.injEq]
  constructor
  · rintro ⟨_, hn, rfl, hk⟩
    exact ⟨hn, hk⟩
  · rintro ⟨hn, hk⟩
    exact ⟨n, hn, rfl, hk⟩

/-! ### Slots -/

/-- A slot holds one mapping. -/
lemma Holds.unique (hi : s.Holds i h) (hi' : s.Holds i h') : h = h' := by
  rw [Holds, hi] at hi'
  cases hi'
  rfl

lemma holds_congr (hm : s'.mappings = s.mappings) : s'.Holds i h ↔ s.Holds i h := by
  rw [Holds, Holds, hm]

lemma holds_push (hm : s'.mappings = s.mappings.push (some h)) :
    s'.Holds i h' ↔ s.Holds i h' ∨ i = s.mappings.size ∧ h' = h := by
  rw [Holds, Holds, hm, Array.getElem?_push]
  split
  · next hi =>
    subst hi
    simp [eq_comm]
  · next hi => simp [hi]

lemma holds_emptied (hm : s'.mappings = s.mappings.setIfInBounds slot none) :
    s'.Holds i h ↔ s.Holds i h ∧ i ≠ slot := by
  rw [Holds, Holds, hm, Array.getElem?_setIfInBounds]
  split
  · next hi =>
    subst hi
    split <;> simp
  · next hi => simp [Ne.symm hi]

lemma holds_put (hs : s.Holds slot h) (hm : s'.mappings = s.mappings.setIfInBounds slot (some h₁)) :
    s'.Holds i h' ↔ if i = slot then h' = h₁ else s.Holds i h' := by
  obtain ⟨hlt, -⟩ := Array.getElem?_eq_some_iff.1 hs
  rw [Holds, Holds, hm, Array.getElem?_setIfInBounds]
  by_cases hi : slot = i
  · subst hi
    simp [hlt, eq_comm]
  · simp [hi, Ne.symm hi]

/-! ### The memory behind a mapping -/

/-- The memory behind a mapping that a host has made is its range of the buffer that it shows. -/
lemma memory_eq (s : Session) (hp : h.mapping.place? = some p) :
    s.memory h =
      match s.seen p with
      | some (m, bytes) =>
        if m = h.mapping then bytes.slice h.mapping.offset h.mapping.len else .empty
      | none => .empty := by
  obtain ⟨n, k⟩ := p
  obtain ⟨hn, rfl⟩ := place?_eq_some.1 hp
  simp only [memory, seen, hn]
  cases s.stations[n]? with
  | none => rfl
  | some st => exact Store.window_eq st.monitor.host h.mapping

/-- It depends on the buffer alone, and that behind any other mapping on nothing. -/
lemma memory_congr (hm : h'.mapping = h.mapping) (own : h.mapping.place? = none → h'.own = h.own)
    (hs : ∀ p, h.mapping.place? = some p → s'.seen p = s.seen p) : s'.memory h' = s.memory h := by
  cases hp : h.mapping.place? with
  | none =>
      have hn : h.mapping.issuer = none := Option.map_eq_none_iff.1 hp
      simp only [memory, hm, hn]
      exact own hp
  | some p => rw [memory_eq s hp, memory_eq s' (hm ▸ hp), hm, hs p hp]

lemma memory_of_seen {bytes : Bytes} (hp : h.mapping.place? = some p)
    (hs : s.seen p = some (h.mapping, bytes)) :
    s.memory h = bytes.slice h.mapping.offset h.mapping.len := by
  simp only [memory_eq s hp, hs, ↓reduceIte]

/-! ### The ways in which a session changes -/

/-- The ways in which an action can change the mappings of a session and what is seen through
them. -/
inductive Change (s : Session) (a : Action) (s' : Session) : Prop where
  /-- Nothing changes that anyone could see. -/
  | calm (stays : ∀ h slot, a.givesUp = some slot → ¬s.Holds slot h)
      (mappings : s'.mappings = s.mappings) (seen : s'.seen = s.seen)
  /-- A mapping is held that no host has made. -/
  | raw (m : Mapping) (own : Bytes) (place : m.place? = none) (stays : a.givesUp = none)
      (mappings : s'.mappings = s.mappings.push (some ⟨m, own⟩)) (seen : s'.seen = s.seen)
  /-- A buffer that was not mapped is. -/
  | mapped (m : Mapping) (p : Place) (bytes : Bytes) (place : m.place? = some p)
      (free : s.seen p = none) (inside : m.offset + m.len ≤ bytes.size) (stays : a.givesUp = none)
      (mappings : s'.mappings = s.mappings.push (some ⟨m, .empty⟩))
      (seen : s'.seen = Function.update s.seen p (some (m, bytes)))
  /-- A mapping is held no more, and nothing is seen through it. -/
  | ended (slot : Nat) (h : Held) (given : a.givesUp = some slot) (held : s.Holds slot h)
      (mappings : s'.mappings = s.mappings.setIfInBounds slot none)
      (seen : s'.seen = fun q => if h.mapping.place? = some q then none else s.seen q)
  /-- The memory of its own behind a mapping changes. -/
  | own (slot : Nat) (h : Held) (bytes : Bytes) (wrote : a.writes = some slot)
      (held : s.Holds slot h)
      (mappings : s'.mappings = s.mappings.setIfInBounds slot (some { h with own := bytes }))
      (seen : s'.seen = s.seen)
  /-- The bytes of the buffer behind a mapping change. -/
  | written (slot : Nat) (h : Held) (p : Place) (old new : Bytes) (wrote : a.writes = some slot)
      (held : s.Holds slot h) (place : h.mapping.place? = some p)
      (before : s.seen p = some (h.mapping, old)) (size : new.size = old.size)
      (mappings : s'.mappings = s.mappings)
      (seen : s'.seen = Function.update s.seen p (some (h.mapping, new)))

/-- An action that gives no mapping up may change nothing that anyone could see. -/
lemma Change.quiet (ha : a.givesUp = none) (mappings : s'.mappings = s.mappings)
    (seen : s'.seen = s.seen) : Change s a s' :=
  .calm (fun h slot given => by simp [ha] at given) mappings seen

/-- What cannot be seen makes no difference to how a session changes from there. -/
lemma Change.of_calm {s₀ : Session} (hc : Change s a s') (mappings : s.mappings = s₀.mappings)
    (seen : s.seen = s₀.seen) : Change s₀ a s' := by
  have holds : ∀ slot h, s.Holds slot h ↔ s₀.Holds slot h := fun _ _ => holds_congr mappings
  cases hc with
  | calm stays hm hs =>
      exact .calm (fun h slot ha => (holds slot h).not.1 (stays h slot ha)) (hm.trans mappings)
        (hs.trans seen)
  | raw m own place stays hm hs => exact .raw m own place stays (mappings ▸ hm) (hs.trans seen)
  | mapped m p bytes place free inside stays hm hs =>
      exact .mapped m p bytes place (seen ▸ free) inside stays (mappings ▸ hm) (seen ▸ hs)
  | ended slot h given held hm hs =>
      exact .ended slot h given ((holds _ _).1 held) (mappings ▸ hm) (seen ▸ hs)
  | own slot h bytes wrote held hm hs =>
      exact .own slot h bytes wrote ((holds _ _).1 held) (mappings ▸ hm) (hs.trans seen)
  | written slot h p old new wrote held place before size hm hs =>
      exact .written slot h p old new wrote ((holds _ _).1 held) place (seen ▸ before) size
        (hm.trans mappings) (seen ▸ hs)

/-! ### The invariant -/

/-- The mappings that are held and those through which buffers are seen are the same, one for each
buffer. -/
structure Exclusive (s : Session) : Prop where
  plain : Plain s
  /-- A buffer is seen through the mapping that is held, whose range lies inside it. -/
  shown : ∀ i h p, s.Holds i h → h.mapping.place? = some p →
    ∃ bytes, s.seen p = some (h.mapping, bytes) ∧
      h.mapping.offset + h.mapping.len ≤ bytes.size
  /-- A mapping through which a buffer is seen is held, and was made for that buffer. -/
  held : ∀ p m bytes, s.seen p = some (m, bytes) → m.place? = some p ∧ ∃ i own, s.Holds i ⟨m, own⟩
  alone : ∀ i j h h' p, s.Holds i h → s.Holds j h' → h.mapping.place? = some p →
    h'.mapping.place? = some p → i = j

namespace Exclusive

/-- A buffer is mapped exactly if it is seen. -/
lemma maps_iff (hs : Exclusive s) : s.Maps p ↔ s.seen p ≠ none := by
  constructor
  · rintro ⟨i, h, hi, hp⟩
    obtain ⟨bytes, hb, -⟩ := hs.shown i h p hi hp
    simp [hb]
  · intro hne
    obtain ⟨⟨m, bytes⟩, hb⟩ := Option.ne_none_iff_exists'.1 hne
    obtain ⟨hp, i, own, hi⟩ := hs.held p m bytes hb
    exact ⟨i, ⟨m, own⟩, hi, hp⟩

/-- What cannot be seen makes no difference. -/
lemma congr (hs : Exclusive s) (hp : Plain s') (mappings : s'.mappings = s.mappings)
    (seen : s'.seen = s.seen) : Exclusive s' := by
  have same : ∀ {i h}, s'.Holds i h ↔ s.Holds i h := holds_congr mappings
  refine ⟨hp, fun i h p hi => ?_, fun p m bytes hb => ?_, fun i j h h' p hi hj => ?_⟩
  · rw [seen]
    exact hs.shown i h p (same.1 hi)
  · obtain ⟨hp, i, own, hi⟩ := hs.held p m bytes (seen ▸ hb)
    exact ⟨hp, i, own, same.2 hi⟩
  · exact hs.alone i j h h' p (same.1 hi) (same.1 hj)

lemma push_raw (hs : Exclusive s) {own : Bytes} (hp : Plain s') (place : m.place? = none)
    (mappings : s'.mappings = s.mappings.push (some ⟨m, own⟩)) (seen : s'.seen = s.seen) :
    Exclusive s' := by
  -- what is held at a buffer was held before
  have old : ∀ i h p, s'.Holds i h → h.mapping.place? = some p → s.Holds i h := by
    rintro i h p hi hp
    obtain hi | ⟨-, rfl⟩ := (holds_push mappings).1 hi
    · exact hi
    · simp [place] at hp
  refine ⟨hp, fun i h p hi hp => ?_, fun p m bytes hb => ?_, fun i j h h' p hi hj hp hp' => ?_⟩
  · rw [seen]
    exact hs.shown i h p (old i h p hi hp) hp
  · obtain ⟨hp, i, own, hi⟩ := hs.held p m bytes (seen ▸ hb)
    exact ⟨hp, i, own, (holds_push mappings).2 (.inl hi)⟩
  · exact hs.alone i j h h' p (old i h p hi hp) (old j h' p hj hp') hp hp'

lemma push_mapped (hs : Exclusive s) {bytes : Bytes} (hp : Plain s') (place : m.place? = some p)
    (free : s.seen p = none) (inside : m.offset + m.len ≤ bytes.size)
    (mappings : s'.mappings = s.mappings.push (some ⟨m, .empty⟩))
    (seen : s'.seen = Function.update s.seen p (some (m, bytes))) : Exclusive s' := by
  -- nothing was held for the buffer before
  have other : ∀ i h q, s.Holds i h → h.mapping.place? = some q → q ≠ p := by
    rintro i h q hi hq rfl
    exact hs.maps_iff.1 ⟨i, h, hi, hq⟩ free
  refine ⟨hp, fun i h q hi hq => ?_, fun q m' bytes' hb => ?_, fun i j h h' q hi hj hq hq' => ?_⟩
  · rw [seen]
    obtain hi | ⟨-, rfl⟩ := (holds_push mappings).1 hi
    · rw [Function.update_of_ne (other i h q hi hq)]
      exact hs.shown i h q hi hq
    · cases place.symm.trans hq
      exact ⟨bytes, Function.update_self .., inside⟩
  · rw [seen, Function.update_apply] at hb
    split at hb
    · next hq =>
      cases hb
      exact ⟨hq ▸ place, _, _, (holds_push mappings).2 (.inr ⟨rfl, rfl⟩)⟩
    · obtain ⟨hq, i, own, hi⟩ := hs.held q m' bytes' hb
      exact ⟨hq, i, own, (holds_push mappings).2 (.inl hi)⟩
  · -- the new mapping and an old one are of two buffers
    obtain hi' | ⟨rfl, rfl⟩ := (holds_push mappings).1 hi <;>
      obtain hj' | ⟨rfl, rfl⟩ := (holds_push mappings).1 hj
    · exact hs.alone i j h h' q hi' hj' hq hq'
    · exact absurd (Option.some.inj (hq'.symm.trans place)) (other i h q hi' hq)
    · exact absurd (Option.some.inj (hq.symm.trans place)) (other j h' q hj' hq')
    · rfl

lemma erase (hs : Exclusive s) (hp : Plain s') (held : s.Holds slot h)
    (mappings : s'.mappings = s.mappings.setIfInBounds slot none)
    (seen : s'.seen = fun q => if h.mapping.place? = some q then none else s.seen q) :
    Exclusive s' := by
  have kept : ∀ {i h}, s'.Holds i h ↔ s.Holds i h ∧ i ≠ slot := holds_emptied mappings
  refine ⟨hp, fun i h' q hi hq => ?_, fun q m bytes hb => ?_, fun i j h₁ h₂ q hi hj => ?_⟩
  · obtain ⟨hi, hne⟩ := kept.1 hi
    simp only [seen, if_neg fun hp => hne (hs.alone i slot h' h q hi held hq hp)]
    exact hs.shown i h' q hi hq
  · simp only [seen] at hb
    split at hb
    · cases hb
    · next hne =>
      obtain ⟨hq, i, own, hi⟩ := hs.held q m bytes hb
      refine ⟨hq, i, own, kept.2 ⟨hi, ?_⟩⟩
      rintro rfl
      exact hne (hi.unique held ▸ hq)
  · exact hs.alone i j h₁ h₂ q (kept.1 hi).1 (kept.1 hj).1

/-- The memory of its own behind a mapping plays no part. -/
lemma put_own (hs : Exclusive s) {bytes : Bytes} (hp : Plain s') (held : s.Holds slot h)
    (mappings : s'.mappings = s.mappings.setIfInBounds slot (some { h with own := bytes }))
    (seen : s'.seen = s.seen) : Exclusive s' := by
  -- each slot holds the mapping that it held, with some memory behind it
  have old : ∀ i h', s'.Holds i h' → ∃ own, s.Holds i ⟨h'.mapping, own⟩ := by
    intro i h' hi
    rw [holds_put held mappings] at hi
    split at hi
    · next heq =>
      subst heq hi
      exact ⟨h.own, held⟩
    · exact ⟨h'.own, hi⟩
  refine ⟨hp, fun i h' q hi hq => ?_, fun q m bytes' hb => ?_, fun i j h₁ h₂ q hi hj hq hq' => ?_⟩
  · obtain ⟨own, hi⟩ := old i h' hi
    rw [seen]
    exact hs.shown i ⟨h'.mapping, own⟩ q hi hq
  · obtain ⟨hq, i, own, hi⟩ := hs.held q m bytes' (seen ▸ hb)
    by_cases heq : i = slot
    · subst heq
      cases hi.unique held
      exact ⟨hq, i, bytes, (holds_put held mappings).2 (by rw [if_pos rfl])⟩
    · exact ⟨hq, i, own, (holds_put held mappings).2 (by rwa [if_neg heq])⟩
  · obtain ⟨own, hi⟩ := old i h₁ hi
    obtain ⟨own', hj⟩ := old j h₂ hj
    exact hs.alone i j _ _ q hi hj hq hq'

lemma write (hs : Exclusive s) {old new : Bytes} (hp : Plain s') (held : s.Holds slot h)
    (place : h.mapping.place? = some p) (before : s.seen p = some (h.mapping, old))
    (size : new.size = old.size) (mappings : s'.mappings = s.mappings)
    (seen : s'.seen = Function.update s.seen p (some (h.mapping, new))) : Exclusive s' := by
  have same : ∀ {i h}, s'.Holds i h ↔ s.Holds i h := holds_congr mappings
  refine ⟨hp, fun i h' q hi hq => ?_, fun q m bytes hb => ?_, fun i j h₁ h₂ q hi hj => ?_⟩
  · obtain ⟨bytes, hb, hin⟩ := hs.shown i h' q (same.1 hi) hq
    rw [seen, Function.update_apply]
    split
    · next heq =>
      -- what is seen there is the mapping with other bytes, as many as before
      simp only [heq, before, Option.some.injEq, Prod.mk.injEq] at hb
      obtain ⟨hm, rfl⟩ := hb
      exact ⟨new, by rw [hm], size ▸ hin⟩
    · exact ⟨bytes, hb, hin⟩
  · rw [seen, Function.update_apply] at hb
    split at hb
    · next heq =>
      cases hb
      exact ⟨heq ▸ place, slot, h.own, same.2 held⟩
    · obtain ⟨hq, i, own, hi⟩ := hs.held q m bytes hb
      exact ⟨hq, i, own, same.2 hi⟩
  · exact hs.alone i j h₁ h₂ q (same.1 hi) (same.1 hj)

end Exclusive

/-! ### What every change keeps -/

namespace Change

/-- **Every change keeps mappings exclusive.** -/
lemma exclusive (hc : Change s a s') (hs : Exclusive s) (hp : Plain s') : Exclusive s' := by
  cases hc with
  | calm stays mappings seen => exact hs.congr hp mappings seen
  | raw m own place stays mappings seen => exact hs.push_raw hp place mappings seen
  | mapped m p bytes place free inside stays mappings seen =>
      exact hs.push_mapped hp place free inside mappings seen
  | ended slot h given held mappings seen => exact hs.erase hp held mappings seen
  | own slot h bytes wrote held mappings seen => exact hs.put_own hp held mappings seen
  | written slot h p old new wrote held place before size mappings seen =>
      exact hs.write hp held place before size mappings seen

/-- **A mapping that is held stays** unless the action gives it up, and the bytes behind it stay the
same unless the action writes through it. -/
lemma keeps (hc : Change s a s') (hs : Exclusive s) (hi : s.Holds i h)
    (stays : a.givesUp ≠ some i) :
    ∃ h', s'.Holds i h' ∧ h'.mapping = h.mapping ∧
      (a.writes ≠ some i → s'.memory h' = s.memory h) := by
  cases hc with
  | calm _ mappings seen =>
      exact ⟨h, (holds_congr mappings).2 hi, rfl, fun _ => memory_congr rfl (fun _ => rfl)
        fun p _ => congrFun seen p⟩
  | raw m own place _ mappings seen =>
      exact ⟨h, (holds_push mappings).2 (.inl hi), rfl, fun _ => memory_congr rfl (fun _ => rfl)
        fun p _ => congrFun seen p⟩
  | mapped m p bytes place free inside _ mappings seen =>
      refine ⟨h, (holds_push mappings).2 (.inl hi), rfl, fun _ => memory_congr rfl (fun _ => rfl)
        fun q hq => ?_⟩
      rw [seen, Function.update_of_ne]
      rintro rfl
      exact hs.maps_iff.1 ⟨i, h, hi, hq⟩ free
  | ended slot h' given held mappings seen =>
      -- the mapping that has ended was another one, of another buffer
      have hne : i ≠ slot := fun heq => stays (heq ▸ given)
      refine ⟨h, (holds_emptied mappings).2 ⟨hi, hne⟩, rfl, fun _ => memory_congr rfl
        (fun _ => rfl) fun q hq => (congrFun seen q).trans (if_neg fun hp => ?_)⟩
      exact hne (hs.alone i slot h h' q hi held hq hp)
  | own slot h' bytes wrote held mappings seen =>
      by_cases heq : i = slot
      · subst heq
        cases hi.unique held
        refine ⟨{ h with own := bytes }, ?_, rfl, fun hne => absurd wrote hne⟩
        exact (holds_put held mappings).2 (by rw [if_pos rfl])
      · exact ⟨h, (holds_put held mappings).2 (by rwa [if_neg heq]), rfl, fun _ =>
          memory_congr rfl (fun _ => rfl) fun p _ => congrFun seen p⟩
  | written slot h' p old new wrote held place before size mappings seen =>
      refine ⟨h, (holds_congr mappings).2 hi, rfl, fun hne => memory_congr rfl (fun _ => rfl)
        fun q hq => ?_⟩
      rw [seen, Function.update_of_ne]
      rintro rfl
      -- what is written is seen through this mapping only if it is the one written through
      exact hne (hs.alone i slot h h' q hi held hq place ▸ wrote)

/-- **A buffer whose mapping is given up is not mapped.** -/
lemma ends_maps (hc : Change s a s') (hs : Exclusive s) (hi : s.Holds i h)
    (given : a.givesUp = some i) (hp : h.mapping.place? = some p) : ¬s'.Maps p := by
  cases hc with
  | calm stays => exact absurd hi (stays h i given)
  | raw m own place stays => simp [stays] at given
  | mapped m p bytes place free inside stays => simp [stays] at given
  | ended slot h' given' held mappings seen =>
      cases given.symm.trans given'
      rintro ⟨j, h₁, hj, hq⟩
      obtain ⟨hj, hne⟩ := (holds_emptied mappings).1 hj
      exact hne (hs.alone j i h₁ h p hj hi hq hp)
  | own slot h' bytes wrote => simp [givesUp_of_writes wrote] at given
  | written slot h' p old new wrote => simp [givesUp_of_writes wrote] at given

end Change

end Session

end Scanout
