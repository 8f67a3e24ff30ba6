/-
The books of the hosts of a session.

What a host counts is compared with what its buffers and mappings have come to, whatever is done
with them in the meantime and whichever requests fail.

* `Session.store`, `Session.issued`: the store of a host, and how many of its mappings are held;
* `Session.lost`: how many of its mappings some commands end otherwise than by handing them back;
* `Session.Entered`: **what an action does to the books of every host**;
* `Session.Served`: what comes of a request about a buffer;
* `Session.ends_entered`, `Session.ends_served`: **what every action does to them**.
-/
import Scanout.Proofs.Session.Guarded
import Scanout.Proofs.Store.Books

namespace Scanout.Session

/-- The store of a host. That of a host that is not open yet is what it will be then. -/
def store (s : Session) (n : Nat) : Store :=
  ((s.stations[n]?).map (·.monitor.host)).getD (Store.empty n)

/-- The number of the mappings of a host that are held. -/
def issued (s : Session) (n : Nat) : Nat :=
  s.mappings.countP fun slot => slot.any (·.mapping.issuer = some n)

/-- Whether an action ends a mapping of a host otherwise than by handing it back to that host. -/
def loses (s : Session) (n : Nat) (a : Action) (o : Checked Reply) : Bool :=
  match a, o with
  | .unmap _, .ok _ => false
  | a, _ => (a.givesUp.bind fun slot => (s.mappings[slot]?).join).any (·.mapping.issuer = some n)

/-- The number of the mappings of a host that some commands end so. -/
def lost [Machine] (n : Nat) : Session → List Command → Nat
  | _, [] => 0
  | s, c :: cs => (s.loses n c.action (s.step c).1.outcome).toNat + lost n (s.step c).2 cs

/-- The buffer that a request is about, where it is about one. -/
def Action.subject : Action → Option Handle
  | .free k | .syncCpu k | .syncGpu k | .setTiling k .. | .getTiling k | .map k .. |
    .contents k .. | .contentsRows k .. => some k
  | _ => none

/-- What an action does to the books of every host: stores follow each other, and a mapping that is
counted when it is made is counted when it is taken back, unless it is held or is lost. -/
structure Entered (s : Session) (a : Action) (o : Checked Reply) (s' : Session) : Prop where
  follows : ∀ i, (s.store i).Follows (s'.store i)
  counted : ∀ i, (s'.store i).counters.maps + (s.store i).counters.unmaps + s.issued i =
    (s.store i).counters.maps + (s'.store i).counters.unmaps + s'.issued i +
      (s.loses i a o).toNat

/-- What comes of a request about a buffer. -/
structure Served (s : Session) (n : Nat) (k : Handle) (o : Checked Reply) (s' : Session) :
    Prop where
  unknown : (∃ w, s.monitor? n = some w) → (s.store n).buffer? k = none →
    o = .error (.error (.unknownBuffer k))
  failed : ∀ e, o = .error (.error e) → s'.store = s.store

variable {s s' : Session} {slot i n : Nat} {h : Held} {m : Mapping} {w : Monitor Store}
  {k : Handle} {a : Action} {o : Checked Reply} {log : Array Event} {α : Type}
  {f : Monitor Store → Monitor Store} {st : Station}

/-! ### Stores -/

lemma store_congr (stations : s'.stations = s.stations) : s'.store = s.store := by
  funext i
  rw [store, store, stations]

lemma store_of_station (hst : s.stations[n]? = some st) : s.store n = st.monitor.host := by
  rw [store, hst]
  rfl

lemma store_modify (hst : s.stations[n]? = some st) :
    (s.modify n f).store = Function.update s.store n (f st.monitor).host := by
  funext i
  rw [store, Session.modify, Array.getElem?_modify, Function.update_apply]
  split
  · next hi =>
    subst hi
    simp [hst]
  · next hi => rw [if_neg (Ne.symm hi), store]

/-- A host that is not there does not change. -/
lemma store_modify_none (hst : s.stations[n]? = none) : (s.modify n f).store = s.store := by
  funext i
  rw [store, store, Session.modify, Array.getElem?_modify]
  split
  · next hi => rw [← hi, hst, Option.map_none]
  · rfl

lemma steady_modify
    (hf : ∀ st, s.stations[n]? = some st → st.monitor.host.Steady (f st.monitor).host) (i : Nat) :
    (s.store i).Steady ((s.modify n f).store i) := by
  cases hst : s.stations[n]? with
  | none =>
      rw [store_modify_none hst]
      exact .refl _
  | some st =>
      rw [store_modify hst, Function.update_apply]
      split
      · next hi =>
        rw [hi, store_of_station hst]
        exact hf st hst
      · exact .refl _

lemma steady_replaced {t : Monitor Store} (hst : s.stations[n]? = some st)
    (steady : st.monitor.host.Steady t.host) (i : Nat) :
    (s.store i).Steady ((s.modify n fun _ => t).store i) := by
  refine steady_modify (fun st' hst' => ?_) i
  cases hst.symm.trans hst'
  exact steady

lemma steady_discard (i : Nat) : (s.store i).Steady ((discard m s).store i) := by
  rw [discard]
  cases m.issuer with
  | none => exact .refl _
  | some n => exact steady_modify (fun _ _ => Store.steady_discard) i

/-! ### Mappings that are held -/

lemma issued_push (hm : s'.mappings = s.mappings.push (some h)) :
    s'.issued i = s.issued i + (decide (h.mapping.issuer = some i)).toNat := by
  rw [issued, hm, Array.countP_push, issued]
  by_cases hi : h.mapping.issuer = some i <;> simp [hi]

/-- A mapping that is given up is held no more. -/
lemma issued_emptied (hh : s.Holds slot h)
    (hm : s'.mappings = s.mappings.setIfInBounds slot none) :
    s'.issued i + (decide (h.mapping.issuer = some i)).toNat = s.issued i := by
  rw [issued, hm]
  exact countP_setIfInBounds (b := none) hh

/-- The memory of its own behind a mapping makes no difference. -/
lemma issued_own {bytes : Bytes} (hh : s.Holds slot h)
    (hm : s'.mappings = s.mappings.setIfInBounds slot (some { h with own := bytes })) :
    s'.issued i = s.issued i := by
  rw [issued, hm]
  exact Nat.add_right_cancel
    (countP_setIfInBounds (p := fun slot => slot.any (·.mapping.issuer = some i)) hh)

/-! ### Entries -/

lemma loses_of_stays (ha : a.givesUp = none) : s.loses i a o = false := by
  unfold loses
  split
  · rfl
  · rw [ha]
    rfl

/-- Where no mapping is made or taken back, those that are held no more are lost. -/
lemma entered_of_steady (steady : ∀ i, (s.store i).Steady (s'.store i))
    (held : ∀ i, s'.issued i + (s.loses i a o).toNat = s.issued i) : Entered s a o s' where
  follows := fun i => (steady i).toFollows
  counted := by
    intro i
    rw [(steady i).maps, (steady i).unmaps, ← held i]
    omega

lemma entered_quiet (steady : ∀ i, (s.store i).Steady (s'.store i))
    (mappings : s'.mappings = s.mappings) (ha : a.givesUp = none) : Entered s a o s' :=
  entered_of_steady steady fun i => by rw [loses_of_stays ha, issued, issued, mappings]; rfl

lemma entered_self (ha : a.givesUp = none) : Entered s a o s :=
  entered_quiet (fun _ => .refl _) rfl ha

/-- Where mappings are made and taken back as a host counts them. -/
lemma entered_of_served {y : α} {t : Monitor Store} {made taken : Nat}
    (hst : s.stations[n]? = some st) (served : st.monitor.host.Served k made taken (.ok y) t.host)
    (steady : ∀ i, ((s.modify n fun _ => t).store i).Steady (s'.store i))
    (held : ∀ i, s'.issued i + (s.loses i a o).toNat + (if i = n then taken else 0) =
      s.issued i + if i = n then made else 0) : Entered s a o s' := by
  obtain ⟨maps, unmaps⟩ := served.counted y rfl
  -- the host that answers counts what it made and took back, and every other one stays
  have kept : ∀ i, (s.store i).Follows ((s.modify n fun _ => t).store i) ∧
      ((s.modify n fun _ => t).store i).counters.maps =
        (s.store i).counters.maps + (if i = n then made else 0) ∧
      ((s.modify n fun _ => t).store i).counters.unmaps =
        (s.store i).counters.unmaps + if i = n then taken else 0 := by
    intro i
    rw [store_modify hst, Function.update_apply]
    split
    · next hi =>
      rw [hi, store_of_station hst]
      exact ⟨served.follows, maps, unmaps⟩
    · exact ⟨.refl _, rfl, rfl⟩
  refine ⟨fun i => (kept i).1.trans (steady i).toFollows, fun i => ?_⟩
  rw [(steady i).maps, (steady i).unmaps, (kept i).2.1, (kept i).2.2]
  have := held i
  omega

/-- A request by which no mapping is made or taken back. -/
lemma ends_entered_asked {x : Act (Monitor Store) α} {answer : α → Act Session Reply}
    (hs : Plain s)
    (hx : ∀ (w : Monitor Store) log, w.faults = [] → Ends x ⟨w, log⟩ fun _ r =>
      w.host.Steady r.host.host)
    (ha : a.givesUp = none) (told : ∀ y, Answers (answer y)) :
    Ends (onHost n x >>= answer) ⟨s, log⟩ fun o r => Entered s a o r.host := by
  rw [ends_bind]
  refine ends_onHost_of (fun _ => entered_self ha) fun w hw => ?_
  obtain ⟨st, hst, rfl⟩ := exists_station hw
  refine (hx st.monitor log (hs n st hst).2).mono fun o r steady => ?_
  have kept := steady_replaced hst steady
  cases o with
  | error e => exact entered_quiet kept rfl ha
  | ok y =>
      refine (told y _).mono fun o r' ho => ?_
      rw [ho.1]
      exact entered_quiet kept rfl ha

/-- A mapping that is made is put into the next slot. -/
lemma entered_mapped {t : Monitor Store} (hst : s.stations[n]? = some st)
    (served : st.monitor.host.Served k 1 0 (.ok m) t.host) (ha : a.givesUp = none)
    (hn : h.mapping.issuer = some n)
    (stations : s'.stations = (s.modify n fun _ => t).stations)
    (mappings : s'.mappings = s.mappings.push (some h)) : Entered s a o s' := by
  refine entered_of_served hst served (fun i => ?_) fun i => ?_
  · rw [store_congr stations]
    exact .refl _
  · rw [loses_of_stays ha, issued_push mappings, hn]
    by_cases hi : i = n
    · simp [hi]
    · simp [hi, Ne.symm hi]

/-- A mapping that is made is counted and held. -/
lemma ends_entered_map [Machine] (hs : Plain s) (offset size : Nat) (access : Access) :
    Ends (perform n (.map k offset size access)) ⟨s, log⟩ fun o r =>
      Entered s (.map k offset size access) o r.host := by
  rw [perform]
  rw [ends_bind]
  refine ends_onHost_of (fun _ => entered_self rfl) fun w hw => ?_
  obtain ⟨st, hst, rfl⟩ := exists_station hw
  obtain ⟨hserial, hfaults⟩ := hs n st hst
  refine (Monitor.ends_passed hfaults ((Store.ends_served_map offset size access).and
    (Store.ends_map offset size access))).mono ?_
  rintro o r ⟨-, served, -, -, told⟩
  cases o with
  | error e =>
      exact entered_quiet (steady_replaced hst (served.failed e rfl ▸ .refl _)) rfl rfl
  | ok m =>
      have issuer : m.issuer = some n := told.1 ▸ congrArg some hserial
      exact entered_mapped (h := ⟨m, .empty⟩) hst served rfl issuer rfl rfl

/-- What is written through a mapping is counted nowhere. -/
lemma ends_entered_writeMapping [Machine] (pos : Nat) (new : Bytes) :
    Ends (perform n (.writeMapping slot pos new)) ⟨s, log⟩ fun o r =>
      Entered s (.writeMapping slot pos new) o r.host := by
  rw [perform]
  refine ends_held_bind (fun _ => entered_self rfl) fun h hh => ?_
  rw [ends_bind, ends_host]
  dsimp only
  rw [ends_bind, ends_ofChecked]
  cases replacePart? (s.memory h) pos new with
  | none => exact entered_self rfl
  | some bytes =>
      dsimp only [Checked.need]
      rw [ends_bind, ends_update, ends_pure]
      dsimp only
      rw [setMemory]
      -- memory that no store has mapped is on no books
      cases h.mapping.issuer with
      | none =>
          refine entered_of_steady (fun _ => .refl _) fun i => ?_
          rw [loses_of_stays rfl]
          exact issued_own hh rfl
      | some i =>
          refine entered_quiet (steady_modify fun _ _ => ?_) rfl rfl
          exact Store.steady_setWindow

/-! ### Giving mappings up -/

/-- A mapping that is given up is lost to its host, unless that takes it back. -/
lemma loses_of_holds (ha : a.givesUp = some slot) (hh : s.Holds slot h)
    (ho : ∀ reply, a = .unmap slot → o ≠ .ok reply) :
    s.loses i a o = decide (h.mapping.issuer = some i) := by
  have given : (a.givesUp.bind fun slot => (s.mappings[slot]?).join).any
      (·.mapping.issuer = some i) = decide (h.mapping.issuer = some i) := by
    rw [ha, Option.bind_some, hh]
    rfl
  unfold loses
  split
  · next slot' reply =>
    cases ha
    exact absurd rfl (ho reply rfl)
  · exact given

/-- Nothing is lost where nothing is held. -/
lemma loses_of_missing (ha : a.givesUp = some slot) (hn : ∀ h, ¬s.Holds slot h) :
    s.loses i a o = false := by
  have none : (s.mappings[slot]?).join = none := by
    refine Option.eq_none_iff_forall_ne_some.2 fun h hh => ?_
    exact hn h (Option.join_eq_some_iff.1 hh)
  unfold loses
  split
  · rfl
  · rw [ha, Option.bind_some, none]
    rfl

/-- What is left of a mapping that is lost. -/
lemma entered_lost (ha : a.givesUp = some slot) (hh : s.Holds slot h)
    (steady : ∀ i, (s.store i).Steady (s'.store i))
    (mappings : s'.mappings = s.mappings.setIfInBounds slot none)
    (ho : ∀ reply, a = .unmap slot → o ≠ .ok reply) :
    Entered s a o (discard h.mapping s') := by
  refine entered_of_steady (fun i => ?_) fun i => ?_
  · exact ⟨(steady i).toFollows.trans (steady_discard i).toFollows,
      (steady_discard i).maps.trans (steady i).maps,
      (steady_discard i).unmaps.trans (steady i).unmaps⟩
  · rw [loses_of_holds ha hh ho]
    exact issued_emptied hh (mappings_discard.trans mappings)

/-- An action on a slot that is empty. -/
lemma entered_missing (ha : a.givesUp = some slot) (hn : ∀ h, ¬s.Holds slot h) :
    Entered s a o s :=
  entered_of_steady (fun _ => .refl _) fun i => by rw [loses_of_missing ha hn]; rfl

lemma ends_entered_dropMapping [Machine] :
    Ends (perform n (.dropMapping slot)) ⟨s, log⟩ fun o r =>
      Entered s (.dropMapping slot) o r.host := by
  rw [perform]
  refine ends_takeHeld_bind (fun hn => entered_missing rfl hn) fun h hh => ?_
  exact entered_lost rfl hh (fun _ => .refl _) rfl (by rintro _ ⟨⟩)

/-- A mapping that its host takes back is counted, and every other one is lost. -/
lemma ends_entered_unmap [Machine] (hs : Exclusive s) :
    Ends (perform n (.unmap slot)) ⟨s, log⟩ fun o r => Entered s (.unmap slot) o r.host := by
  have given : (Action.unmap slot).givesUp = some slot := rfl
  rw [perform]
  refine ends_takeHeld_bind (fun hn => entered_missing given hn) fun h hh => ?_
  rw [ends_bind, ends_attempt]
  refine ends_onHost_of (fun _ => ?_) fun w hw => ?_
  · exact entered_lost given hh (fun _ => .refl _) rfl (by rintro _ - ⟨⟩)
  obtain ⟨st, hst, rfl⟩ := exists_station (s := s) hw
  obtain ⟨hserial, hfaults⟩ := hs.plain n st hst
  refine (Monitor.ends_unmap_passed hfaults
    (Store.ends_served_unmap.and Store.ends_unmap_ok)).mono ?_
  rintro o r ⟨-, served, own⟩
  generalize hs₁ : Session.modify { s with mappings := s.mappings.setIfInBounds slot none } n
    (fun _ => r.host) = s₁
  have stores : s₁.store = (s.modify n fun _ => r.host).store := hs₁ ▸ store_congr rfl
  have mappings : s₁.mappings = s.mappings.setIfInBounds slot none := hs₁ ▸ rfl
  cases o with
  | error e =>
      refine entered_lost given hh (fun i => ?_) mappings (by rintro _ - ⟨⟩)
      rw [stores]
      exact steady_replaced hst (served.failed e rfl ▸ .refl _) i
  | ok y =>
      -- the mapping that was taken back is one of this host, and one fewer is held
      obtain ⟨b, hb, hm⟩ := own y rfl
      have hn : h.mapping.issuer = some n := by
        refine (place?_eq_some.1 (hs.held (n, h.mapping.buffer) _ b.bytes ?_).1).1
        rw [seen_of_station hst]
        exact Store.seen_eq_some.2 ⟨b, hb, hm, rfl⟩
      refine entered_of_served hst served (fun i => stores ▸ steady_discard i) fun i => ?_
      have gone := @issued_emptied s (discard h.mapping s₁) slot i h hh
        (mappings_discard.trans mappings)
      rw [hn] at gone
      show _ + false.toNat + _ = _
      by_cases hi : i = n
      · simpa [hi] using gone
      · simpa [hi, Ne.symm hi] using gone

/-! ### Requests about a buffer -/

/-- An action is a request about a buffer, by which no mapping is made or taken back, and the answer
to it. -/
def Asks [Machine] (n : Nat) (a : Action) (k : Handle) : Prop :=
  ∃ (α : Type) (x : Act (Monitor Store) α) (answer : α → Act Session Reply),
    perform n a = onHost n x >>= answer ∧ (∀ y, Answers (answer y)) ∧
      ∀ (w : Monitor Store) log, w.faults = [] →
        Ends x ⟨w, log⟩ fun o r => w.host.Served k 0 0 o r.host.host

/-- Every action about a buffer asks for no mapping, or for one. -/
lemma asks_or_maps [Machine] (ha : a.subject = some k) :
    Asks n a k ∨ ∃ offset size access, a = .map k offset size access := by
  have passed {β : Type} {call : Call} {w : Monitor Store} {log : Array Event} {y : Act Store β}
      (hw : w.faults = [])
      (hy : Ends y ⟨w.host, log⟩ fun o r => w.host.Served k 0 0 o r.host) :
      Ends (Monitor.request call y) ⟨w, log⟩ fun o r => w.host.Served k 0 0 o r.host.host :=
    (Monitor.ends_passed hw hy).mono fun _ _ h => h.2
  have forwarded {β : Type} {w : Monitor Store} {log : Array Event} {y : Act Store β}
      (hy : Ends y ⟨w.host, log⟩ fun o r => w.host.Served k 0 0 o r.host) :
      Ends (Monitor.forward y) ⟨w, log⟩ fun o r => w.host.Served k 0 0 o r.host.host :=
    Monitor.ends_forward.2 hy
  -- an action on a buffer is passed to its host as it is, and only `map` makes a mapping
  cases a with
  | map k' offset size access =>
      cases ha
      exact .inr ⟨offset, size, access, rfl⟩
  | free =>
      cases ha
      exact .inl ⟨_, _, _, rfl, fun _ => answers_pure _, fun w log hw =>
        passed hw Store.ends_served_free⟩
  | syncCpu =>
      cases ha
      exact .inl ⟨_, _, _, rfl, fun _ => answers_pure _, fun w log hw =>
        passed hw Store.ends_served_syncCpu⟩
  | syncGpu =>
      cases ha
      exact .inl ⟨_, _, _, rfl, fun _ => answers_pure _, fun w log hw =>
        passed hw Store.ends_served_syncGpu⟩
  | setTiling _ tiling stride =>
      cases ha
      exact .inl ⟨_, _, _, rfl, fun _ => answers_pure _, fun w log hw =>
        passed hw (Store.ends_served_setTiling tiling stride)⟩
  | getTiling =>
      cases ha
      exact .inl ⟨_, _, _, rfl, fun _ => answers_pure _, fun w log _ =>
        forwarded Store.ends_served_tiling⟩
  | contents =>
      cases ha
      exact .inl ⟨_, _, _, rfl, fun _ => answers_need _ _, fun w log _ =>
        forwarded Store.ends_served_contents⟩
  | contentsRows =>
      cases ha
      exact .inl ⟨_, _, _, rfl, fun _ => answers_need _ _, fun w log _ =>
        forwarded Store.ends_served_contents⟩
  | openHost | dropHost | inject | heal | allocate | rawMap | mappingInfo | readMapping
  | writeMapping | unmap | dropMapping | copy | describe | create | framebuffer | plane | draw
  | view | remove => cases ha

lemma ends_entered_openHost [Machine] : Ends (perform n .openHost) ⟨s, log⟩ fun o r =>
    Entered s .openHost o r.host := by
  refine entered_quiet (fun i => ?_) rfl rfl
  -- the host that is opened has the store that it is said to have
  have same : store { s with stations := s.stations.push (Station.fresh s.stations.size) } i =
      s.store i := by
    rw [store, store, Array.getElem?_push]
    split
    · next hi =>
      rw [hi, Array.getElem?_eq_none (Nat.le_refl _)]
      rfl
    · rfl
  exact same ▸ .refl _

lemma ends_entered_dropHost [Machine] : Ends (perform n .dropHost) ⟨s, log⟩ fun o r =>
    Entered s .dropHost o r.host := by
  rw [perform]
  rw [ends_bind]
  refine ends_onHost_of (fun _ => entered_self rfl) fun w hw => ?_
  obtain ⟨st, hst, rfl⟩ := exists_station hw
  rw [ends_pure]
  dsimp only
  rw [ends_bind, ends_update, ends_pure]
  generalize hs' : Session.mk _ _ _ = s'
  have same : ∀ i, s'.store i = s.store i := by
    intro i
    rw [← hs']
    simp only [store, Session.modify, Array.getElem?_modify]
    split
    · next hi =>
      subst hi
      simp [hst]
    · rfl
  exact entered_quiet (fun i => same i ▸ .refl _) (hs' ▸ rfl) rfl

/-- **What every action does to the books.** -/
lemma ends_entered [Machine] (ha : Bare a) (hs : Exclusive s) :
    Ends (perform n a) ⟨s, log⟩ fun o r => Entered s a o r.host := by
  cases hk : a.subject with
  | some k =>
      -- actions on one buffer first, all alike but for `map`
      obtain ⟨α, x, answer, hperform, told, hx⟩ | ⟨offset, size, access, rfl⟩ :=
        asks_or_maps (n := n) hk
      · rw [hperform]
        refine ends_entered_asked hs.plain (fun w log hw => ?_) ?_ told
        · exact (hx w log hw).mono fun _ _ h => h.steady
        · cases a <;> first | rfl | cases hk
      · exact ends_entered_map hs.plain offset size access
  | none =>
  cases a with
  | openHost => exact ends_entered_openHost
  | dropHost => exact ends_entered_dropHost
  | allocate size =>
      refine ends_entered_asked hs.plain (fun w log hw => ?_) rfl fun _ => answers_pure _
      exact (Monitor.ends_passed hw (Store.ends_booked_allocate size)).mono fun _ _ h => h.2.1
  | copy src dst area =>
      refine ends_entered_asked hs.plain (fun w log hw => ?_) rfl fun _ => answers_pure _
      exact (Monitor.ends_passed hw (Store.ends_booked_copy src dst area)).mono fun _ _ h => h.2.1
  | describe => exact ends_entered_asked hs.plain (fun _ _ _ => .refl _) rfl fun _ => answers_pure _
  | rawMap k offset memory =>
      refine entered_of_steady (fun _ => .refl _) fun i => ?_
      rw [loses_of_stays rfl]
      exact issued_push (h := ⟨⟨k, offset, memory.size, none⟩, memory⟩) rfl
  | mappingInfo | readMapping =>
      exact ends_held_bind (fun _ => entered_self rfl) fun _ _ => entered_self rfl
  | writeMapping slot pos new => exact ends_entered_writeMapping pos new
  | unmap slot => exact ends_entered_unmap hs
  | dropMapping slot => exact ends_entered_dropMapping
  | free | syncCpu | syncGpu | setTiling | getTiling | map | contents | contentsRows => cases hk
  | inject | heal | create | framebuffer | plane | draw | view | remove => exact ha.elim

end Scanout.Session
