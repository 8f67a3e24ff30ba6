/-
What the actions on buffers and mappings do.

* `Session.Bare`: the actions that work on buffers and mappings themselves;
* `Session.Done`: an action has made one of the changes of `Session.Change`, and its outcome tells
  which buffers are mapped;
* `Session.ends_asked`: what requests do that leave mappings alone;
* `Session.ends_map`, `Session.ends_writeMapping`, `Session.ends_dropMapping`,
  `Session.ends_unmap`: what is done with mappings;
* `Session.ends_bare`: **what every action does**.
-/
import Scanout.Proofs.Session.Exclusion
import Scanout.Proofs.Session.Hosts

namespace Scanout.Session

/-- The buffers of its host that an action asks to be not mapped. -/
def Action.uses : Action → List Handle
  | .map buffer .. | .free buffer | .contents buffer .. | .contentsRows buffer .. => [buffer]
  | .copy src dst _ => [src.buffer, dst.buffer]
  | _ => []

/-- The actions that work on buffers and mappings themselves, not through a framebuffer, and that
make no request fail. -/
def Bare : Action → Prop
  | .inject _ | .heal | .create .. | .framebuffer _ | .plane .. | .draw .. | .view .. | .remove _ =>
    False
  | _ => True

/-- What an outcome tells of some buffers of a host: none is mapped where it is a success, and one
is where it is a refusal for that. -/
def Tells {α : Type} (s : Session) (n : Nat) (hs : List Handle) : Checked α → Prop
  | .ok _ => ∀ k ∈ hs, s.seen (n, k) = none
  | .error f => ∀ use k, f = .error (.host (.mapped use k)) → s.seen (n, k) ≠ none

/-- What one action does: it keeps hosts plain, it makes one of the changes, and its outcome tells
which buffers are mapped. -/
structure Done (s : Session) (n : Nat) (a : Action) (o : Checked Reply) (s' : Session) : Prop where
  plain : Plain s'
  change : Change s a s'
  tells : s.Tells n a.uses o

variable {s s' : Session} {slot i n : Nat} {h : Held} {m : Mapping} {w : Monitor Store} {p : Place}
  {k : Handle} {a : Action} {log : Array Event} {α : Type} {f : Monitor Store → Monitor Store}

lemma tells_crash {hs : List Handle} : s.Tells n hs (.error .crash : Checked α) := by
  rintro _ _ ⟨⟩

lemma tells_ok (y : α) : s.Tells n [] (.ok y : Checked α) :=
  List.forall_mem_nil _

/-- An action that crashes before it has done anything. -/
lemma Done.crashed (hs : Exclusive s) (ha : a.givesUp = none) : Done s n a (.error .crash) s :=
  ⟨hs.plain, .quiet ha rfl rfl, tells_crash⟩

/-! ### Changes of a host -/

/-- Whether a host has been dropped is not seen. -/
lemma seen_congr
    (same : ∀ i : Nat, (s'.stations[i]?).map (·.monitor) = (s.stations[i]?).map (·.monitor)) :
    s'.seen = s.seen := by
  have key : ∀ (s : Session) (p : Place),
      s.seen p = ((s.stations[p.1]?).map (·.monitor)).bind fun w => w.host.seen p.2 := by
    intro s p
    rw [Option.bind_map]
    rfl
  funext p
  rw [key, key, same]

lemma Plain.congr (hs : Plain s)
    (same : ∀ i : Nat, (s'.stations[i]?).map (·.monitor) = (s.stations[i]?).map (·.monitor)) :
    Plain s' := by
  intro i st hst
  have hi := same i
  rw [hst, Option.map_some, eq_comm, Option.map_eq_some_iff] at hi
  obtain ⟨st', hst', heq⟩ := hi
  exact heq ▸ hs i st' hst'

lemma Plain.modify (hs : Plain s)
    (hf : ∀ w, w.host.serial = n → w.faults = [] → (f w).host.serial = n ∧ (f w).faults = []) :
    Plain (s.modify n f) := by
  intro i st hst
  rw [Session.modify, Array.getElem?_modify] at hst
  split at hst
  · next hi =>
    subst hi
    obtain ⟨st', hst', rfl⟩ := Option.map_eq_some_iff.1 hst
    exact hf _ (hs n st' hst').1 (hs n st' hst').2
  · exact hs i st hst

lemma seen_modify : (s.modify n f).seen (i, k) =
    if i = n then (s.stations[n]?).bind fun st => (f st.monitor).host.seen k
    else s.seen (i, k) := by
  simp only [seen, Session.modify, Array.getElem?_modify, eq_comm (a := n)]
  split
  · next hi =>
    subst hi
    cases s.stations[i]? <;> rfl
  · rfl

/-- A host of which nothing else is seen makes no difference. -/
lemma seen_modify_same (hf : ∀ st, s.stations[n]? = some st →
    (f st.monitor).host.seen = st.monitor.host.seen) : (s.modify n f).seen = s.seen := by
  funext ⟨i, k⟩
  rw [seen_modify]
  split
  · next hi =>
    subst hi
    rw [seen]
    cases hst : s.stations[i]? with
    | none => rfl
    | some st => exact congrFun (hf st hst) k
  · rfl

/-- What changes in one buffer of a host changes in that buffer of the session. -/
lemma seen_modify_update {st : Station} {v : Option (Mapping × Bytes)}
    (hst : s.stations[n]? = some st)
    (hf : (f st.monitor).host.seen = Function.update st.monitor.host.seen k v) :
    (s.modify n f).seen = Function.update s.seen (n, k) v := by
  funext ⟨i, k'⟩
  rw [seen_modify, Function.update_apply]
  by_cases hi : i = n
  · subst hi
    simp only [hst, hf, Option.bind_some, Function.update_apply, ↓reduceIte, Prod.mk.injEq,
      true_and, seen]
  · simp only [hi, ↓reduceIte, Prod.mk.injEq, false_and]

lemma seen_of_station {st : Station} (hst : s.stations[n]? = some st) :
    s.seen (n, k) = st.monitor.host.seen k := by
  rw [seen, hst]
  rfl

/-! ### Requests to a host -/

/-- A step leaves a session alone, and ends with an answer or a crash. -/
def Answers (x : Act Session Reply) : Prop :=
  ∀ r, Ends x r fun o r' => r'.host = r.host ∧ ((∃ reply, o = .ok reply) ∨ o = .error .crash)

lemma answers_pure (reply : Reply) : Answers (pure reply) :=
  fun _ => ⟨rfl, .inl ⟨reply, rfl⟩⟩

/-- An answer about something that has to be there. -/
lemma answers_need (y : Option α) (reply : α → Reply) :
    Answers (Act.ofChecked (Checked.need y) >>= fun y => pure (reply y)) := by
  intro r
  rw [ends_bind, ends_ofChecked]
  cases y with
  | none => exact ⟨rfl, .inr rfl⟩
  | some y => exact ⟨rfl, .inl ⟨reply y, rfl⟩⟩

/-- A request that leaves what is seen of its store alone, and the answer to it. -/
lemma ends_asked {x : Act (Monitor Store) α} {answer : α → Act Session Reply} (hs : Exclusive s)
    (hx : ∀ (w : Monitor Store) log, w.faults = [] → Ends x ⟨w, log⟩ fun o r =>
      r.host.faults = [] ∧ w.host.Calm r.host.host ∧ w.host.Tells a.uses o)
    (ha : a.givesUp = none) (told : ∀ y, Answers (answer y)) :
    Ends (onHost n x >>= answer) ⟨s, log⟩ fun o r => Done s n a o r.host := by
  rw [ends_bind]
  refine ends_onHost_of (fun _ => .crashed hs ha) fun w hw => ?_
  obtain ⟨st, hst, rfl⟩ := exists_station hw
  refine (hx st.monitor log (hs.plain n st hst).2).mono ?_
  rintro o r ⟨hfaults, hcalm, htells⟩
  have plain : Plain (s.modify n fun _ => r.host) :=
    hs.plain.modify fun _ _ _ => ⟨hcalm.serial.trans (hs.plain n st hst).1, hfaults⟩
  -- a request that maps nothing leaves what is seen as it was
  have change : Change s a (s.modify n fun _ => r.host) := by
    refine .quiet ha rfl (seen_modify_same fun st' hst' => ?_)
    cases hst.symm.trans hst'
    exact hcalm.seen
  have seen : ∀ k, s.seen (n, k) = st.monitor.host.seen k := fun _ => seen_of_station hst
  cases o with
  | error e => exact ⟨plain, change, fun use k he => seen k ▸ htells use k he⟩
  | ok y =>
      refine (told y _).mono fun o r' ho => ⟨ho.1 ▸ plain, ho.1 ▸ change, ?_⟩
      obtain ⟨-, ⟨reply, rfl⟩ | rfl⟩ := ho
      · exact fun k hk => (seen k).trans (htells k hk)
      · exact tells_crash

/-! ### Making mappings -/

/-- A mapping that is made is held in the next slot and names its host and its buffer. -/
lemma ends_map [Machine] (hs : Exclusive s) (offset size : Nat) (access : Access) :
    Ends (perform n (.map k offset size access)) ⟨s, log⟩ fun o r =>
      Done s n (.map k offset size access) o r.host ∧
        ∀ slot, o = .ok (.made slot) →
          ∃ h, r.host.Holds slot h ∧ h.mapping = ⟨k, offset, size, some n⟩ := by
  rw [perform]
  rw [ends_bind]
  refine ends_onHost_of (fun _ => ⟨.crashed hs rfl, by simp⟩) fun w hw => ?_
  obtain ⟨st, hst, rfl⟩ := exists_station hw
  obtain ⟨rfl, hfaults⟩ := hs.plain n st hst
  refine (Monitor.ends_passed hfaults (Store.ends_map offset size access)).mono ?_
  rintro o r ⟨hfaults', htells, hserial, ho⟩
  have plain : Plain (s.modify st.monitor.host.serial fun _ => r.host) :=
    hs.plain.modify fun _ _ _ => ⟨hserial, hfaults'⟩
  have seen : ∀ k, s.seen (st.monitor.host.serial, k) = st.monitor.host.seen k :=
    fun _ => seen_of_station hst
  cases o with
  | error e =>
      refine ⟨⟨plain, .quiet rfl rfl (seen_modify_same fun st' hst' => ?_), ?_⟩, by simp⟩
      · cases hst.symm.trans hst'
        exact ho
      · exact fun use k he => seen k ▸ htells use k he
  | ok m =>
      obtain ⟨rfl, bytes, inside, hseen⟩ := ho
      -- a buffer that could be mapped was not, so that no mapping of it is held
      have free := (seen k).trans (htells k (List.mem_singleton_self k))
      refine ⟨⟨plain, ?_, ?_⟩, ?_⟩
      · exact .mapped _ (_, k) bytes rfl free inside rfl rfl
          (seen_modify_update (f := fun _ => r.host) hst hseen)
      · intro k' hk'
        rwa [List.mem_singleton.1 hk']
      · rintro slot hslot
        cases hslot
        exact ⟨_, Array.getElem?_push_size, rfl⟩

/-- A mapping that no host has made is held in the next slot and names none. -/
lemma ends_rawMap [Machine] (hs : Exclusive s) (offset : Nat) (memory : Bytes) :
    Ends (perform n (.rawMap k offset memory)) ⟨s, log⟩ fun o r =>
      Done s n (.rawMap k offset memory) o r.host ∧
        ∀ slot, o = .ok (.made slot) →
          ∃ h, r.host.Holds slot h ∧ h.mapping = ⟨k, offset, memory.size, none⟩ := by
  refine ⟨⟨hs.plain, ?_, tells_ok _⟩, ?_⟩
  · exact .raw ⟨k, offset, memory.size, none⟩ memory rfl rfl rfl rfl
  · rintro slot hslot
    cases hslot
    exact ⟨_, Array.getElem?_push_size, rfl⟩

/-! ### Working with mappings -/

/-- An action on a mapping crashes where none is held. -/
lemma ends_held_bind {x : Held → Act Session α} {Q : Checked α → Run Session → Prop}
    (missing : (∀ h, ¬s.Holds slot h) → Q (.error .crash) ⟨s, log⟩)
    (there : ∀ h, s.Holds slot h → Ends (x h) ⟨s, log⟩ Q) :
    Ends (held slot >>= x) ⟨s, log⟩ Q := by
  rw [held, ends_bind, ends_bind, ends_host]
  dsimp only
  rw [ends_ofChecked]
  cases hh : (s.mappings[slot]?).join with
  | none =>
      refine missing fun h hs => ?_
      rw [Holds] at hs
      simp [hs] at hh
  | some h => exact there h (Option.join_eq_some_iff.1 hh)

/-- What is written through a mapping is seen through it alone. -/
lemma ends_writeMapping [Machine] (hs : Exclusive s) (pos : Nat) (new : Bytes) :
    Ends (perform n (.writeMapping slot pos new)) ⟨s, log⟩ fun o r =>
      Done s n (.writeMapping slot pos new) o r.host := by
  rw [perform]
  refine ends_held_bind (fun _ => .crashed hs rfl) fun h hh => ?_
  rw [ends_bind, ends_host]
  dsimp only
  rw [ends_bind, ends_ofChecked]
  cases replacePart? (s.memory h) pos new with
  | none => exact .crashed hs rfl
  | some bytes =>
      dsimp only [Checked.need]
      rw [ends_bind, ends_update, ends_pure]
      dsimp only
      rw [setMemory]
      cases hn : h.mapping.issuer with
      | none =>
          exact ⟨hs.plain, .own slot h bytes rfl hh rfl rfl, tells_ok _⟩
      | some i =>
          have place : h.mapping.place? = some (i, h.mapping.buffer) :=
            place?_eq_some.2 ⟨hn, rfl⟩
          -- a mapping that a host has made is the one that its buffer has
          obtain ⟨old, hold, -⟩ := hs.shown slot h _ hh place
          obtain ⟨st, hst, hseen⟩ := Option.bind_eq_some_iff.1 hold
          refine ⟨hs.plain.modify fun w hw hf => ⟨hw, hf⟩, ?_, tells_ok _⟩
          exact .written slot h _ old _ rfl hh place hold (Bytes.size_overwrite ..) rfl
            (seen_modify_update hst (Store.seen_setWindow hseen))

/-! ### Giving mappings up -/

/-- A mapping that is given up where it was made is seen no more. -/
lemma seen_discard (hm : ∀ p, m.place? = some p → ∀ x ∈ s.seen p, x.1 = m) :
    (discard m s).seen = fun q => if m.place? = some q then none else s.seen q := by
  rw [discard]
  cases hn : m.issuer with
  | none => simp [Mapping.place?, hn]
  | some i =>
      have hp : m.place? = some (i, m.buffer) := place?_eq_some.2 ⟨hn, rfl⟩
      have cleared : (s.modify i (Backend.discard m)).seen =
          Function.update s.seen (i, m.buffer) none := by
        cases hst : s.stations[i]? with
        | some st =>
            refine seen_modify_update hst (Store.seen_discard fun x hx => hm _ hp x ?_)
            rwa [seen_of_station hst]
        | none =>
            rw [seen_modify_same (by simp [hst]), eq_comm, Function.update_eq_self_iff, seen, hst]
            rfl
      refine cleared.trans (funext fun q => ?_)
      simp only [Function.update_apply, hp, Option.some.injEq, eq_comm]

lemma Plain.discard (hs : Plain s) : Plain (discard m s) := by
  rw [Session.discard]
  cases m.issuer with
  | none => exact hs
  | some i => exact hs.modify fun w hw hf => ⟨hw, hf⟩

lemma mappings_discard : (discard m s).mappings = s.mappings := by
  rw [discard]
  cases m.issuer <;> rfl

/-- What is left of a mapping once it is given up, whatever became of it before. -/
lemma Change.of_discard {s₁ : Session} (hs : Exclusive s) (hh : s.Holds slot h)
    (ha : a.givesUp = some slot) (mappings : s₁.mappings = s.mappings.setIfInBounds slot none)
    (seen : ∀ q, s₁.seen q = s.seen q ∨ h.mapping.place? = some q ∧ s₁.seen q = none) :
    Change s a (Session.discard h.mapping s₁) := by
  have only : ∀ p, h.mapping.place? = some p → ∀ x ∈ s₁.seen p, x.1 = h.mapping := by
    intro p hp x hx
    obtain hsame | ⟨-, hnone⟩ := seen p
    · obtain ⟨bytes, hb, -⟩ := hs.shown slot h p hh hp
      rw [hsame, hb] at hx
      cases hx
      rfl
    · simp [hnone] at hx
  refine .ended slot h ha hh (mappings_discard.trans mappings) ?_
  refine (seen_discard only).trans (funext fun q => ?_)
  split
  · rfl
  · next hne =>
    obtain hsame | ⟨hp, -⟩ := seen q
    · exact hsame
    · exact absurd hp hne

lemma monitor?_discard (hm : m.issuer ≠ some n) : (discard m s).monitor? n = s.monitor? n := by
  rw [discard]
  cases hn : m.issuer with
  | none => rfl
  | some i => exact monitor?_modify_ne fun hi => hm (hn.trans (congrArg some hi.symm))

lemma ends_takeHeld_bind {x : Held → Act Session α} {Q : Checked α → Run Session → Prop}
    (missing : (∀ h, ¬s.Holds slot h) → Q (.error .crash) ⟨s, log⟩)
    (there : ∀ h, s.Holds slot h →
      Ends (x h) ⟨{ s with mappings := s.mappings.setIfInBounds slot none }, log⟩ Q) :
    Ends (takeHeld slot >>= x) ⟨s, log⟩ Q := by
  rw [takeHeld, ends_bind]
  refine ends_held_bind missing fun h hh => ?_
  exact there h hh

lemma ends_dropMapping [Machine] (hs : Exclusive s) :
    Ends (perform n (.dropMapping slot)) ⟨s, log⟩ fun o r =>
      Done s n (.dropMapping slot) o r.host := by
  rw [perform]
  refine ends_takeHeld_bind (fun hn => ⟨hs.plain, .calm ?_ rfl rfl, tells_crash⟩) fun h hh => ?_
  · rintro h slot' heq
    cases heq
    exact hn h
  · refine ⟨Plain.discard hs.plain, ?_, tells_ok _⟩
    exact .of_discard hs hh rfl rfl fun _ => .inl rfl

variable {x : Array (Option Held)}

/-- A host takes back a mapping that it has made, whatever else is held by then. -/
lemma ends_takenBack (hs : Exclusive s) (hw : s.monitor? n = some w) (hh : s.Holds slot h)
    (hn : h.mapping.issuer = some n) :
    Ends (onHost n (Backend.unmap h.mapping)) ⟨{ s with mappings := x }, log⟩ fun o r =>
      o = .ok () ∧ Plain r.host ∧ r.host.mappings = x ∧
        r.host.seen = Function.update s.seen (n, h.mapping.buffer) none := by
  obtain ⟨st, hst, rfl⟩ := exists_station hw
  obtain ⟨hserial, hfaults⟩ := hs.plain n st hst
  obtain ⟨bytes, hb, -⟩ := hs.shown slot h _ hh (place?_eq_some.2 ⟨hn, rfl⟩)
  rw [seen_of_station hst] at hb
  rw [ends_onHost (s := { s with mappings := x }) hw]
  refine (Monitor.ends_unmap_passed hfaults (Store.ends_unmap hb)).mono ?_
  rintro o r ⟨hfaults', rfl, hserial', hseen⟩
  refine ⟨rfl, ?_, rfl, seen_modify_update (s := s) (f := fun _ => r.host) hst hseen⟩
  exact Plain.modify (s := s) hs.plain fun _ _ _ => ⟨hserial'.trans hserial, hfaults'⟩

/-- A host refuses every other mapping and stays as it was. -/
lemma ends_sentBack (hs : Exclusive s) (hw : s.monitor? n = some w)
    (hn : h.mapping.issuer ≠ some n) :
    Ends (onHost n (Backend.unmap h.mapping)) ⟨{ s with mappings := x }, log⟩ fun o r =>
      (∃ f, o = .error f ∧ s.Tells n [] (.error f : Checked Reply)) ∧ Plain r.host ∧
        r.host.mappings = x ∧ r.host.seen = s.seen ∧
          ∃ w', r.host.monitor? n = some w' ∧ w'.host = w.host := by
  have kept : Session.monitor? { s with mappings := x } n = some w := hw
  obtain ⟨st, hst, rfl⟩ := exists_station hw
  obtain ⟨hserial, hfaults⟩ := hs.plain n st hst
  -- the buffer of that handle has no mapping of this host to be taken for it
  have foreign : ∀ bytes, st.monitor.host.seen h.mapping.buffer ≠ some (h.mapping, bytes) := by
    intro bytes hb
    rw [← seen_of_station hst] at hb
    exact hn (place?_eq_some.1 (hs.held _ _ _ hb).1).1
  rw [ends_onHost kept]
  refine (Monitor.ends_unmap_passed hfaults (Store.ends_unmap_foreign foreign)).mono ?_
  rintro o r ⟨hfaults', ⟨e, rfl, hfounded⟩, hhost⟩
  refine ⟨⟨e, rfl, fun use k he => seen_of_station hst ▸ hfounded use k he⟩, ?_, rfl, ?_,
    r.host, monitor?_modify kept _, hhost⟩
  · exact Plain.modify (s := s) hs.plain fun _ _ _ =>
      ⟨(congrArg (·.serial) hhost).trans hserial, hfaults'⟩
  · refine seen_modify_same (s := s) (f := fun _ => r.host) fun st' hst' => ?_
    cases hst.symm.trans hst'
    exact congrArg Store.seen hhost

/-- A mapping is handed back to the host that made it, and refused by every other one, which stays
as it was. -/
lemma ends_unmap [Machine] (hs : Exclusive s) :
    Ends (perform n (.unmap slot)) ⟨s, log⟩ fun o r =>
      Done s n (.unmap slot) o r.host ∧
        ∀ w h, s.monitor? n = some w → s.Holds slot h →
          ((∃ reply, o = .ok reply) ↔ h.mapping.issuer = some n) ∧
            (h.mapping.issuer ≠ some n →
              ∃ w', r.host.monitor? n = some w' ∧ w'.host = w.host) := by
  have given : (Action.unmap slot).givesUp = some slot := rfl
  rw [perform]
  refine ends_takeHeld_bind (fun hn => ⟨⟨hs.plain, .calm ?_ rfl rfl, tells_crash⟩, ?_⟩)
    fun h hh => ?_
  · rintro h slot' heq
    cases heq
    exact hn h
  · exact fun _ h _ hh => absurd hh (hn h)
  rw [ends_bind, ends_attempt]
  cases hw : s.monitor? n with
  | none =>
      refine ends_onHost_of (fun _ => ⟨⟨Plain.discard hs.plain, ?_, tells_crash⟩, by simp⟩)
        fun w hw' => by cases hw.symm.trans hw'
      exact .of_discard hs hh given rfl fun _ => .inl rfl
  | some w =>
      by_cases hn : h.mapping.issuer = some n
      · -- the host that made the mapping takes it back
        refine (ends_takenBack hs hw hh hn).mono ?_
        rintro o ⟨s₁, log₁⟩ ⟨rfl, plain, mappings, seen⟩
        refine ⟨⟨plain.discard, .of_discard hs hh given mappings fun q => ?_, tells_ok _⟩, ?_⟩
        · rw [seen, Function.update_apply]
          split
          · next hq => exact .inr ⟨hq ▸ place?_eq_some.2 ⟨hn, rfl⟩, rfl⟩
          · exact .inl rfl
        · intro _ h' _ hh'
          cases hh.unique hh'
          exact ⟨iff_of_true ⟨_, rfl⟩ hn, absurd hn⟩
      · -- any other refuses it, and then it is dropped
        refine (ends_sentBack hs hw hn).mono ?_
        rintro o ⟨s₁, log₁⟩ ⟨⟨e, rfl, tells⟩, plain, mappings, seen, w', hw', hhost⟩
        refine ⟨⟨plain.discard, .of_discard hs hh given mappings fun q => ?_, tells⟩, ?_⟩
        · exact .inl (congrFun seen q)
        · intro _ h' heq hh'
          cases heq
          cases hh.unique hh'
          exact ⟨iff_of_false (by simp) hn, fun _ =>
            ⟨w', (monitor?_discard hn).trans hw', hhost⟩⟩

/-! ### All of them -/

/-- A host that is opened has no buffers yet. -/
lemma ends_openHost [Machine] (hs : Exclusive s) :
    Ends (perform n .openHost) ⟨s, log⟩ fun o r => Done s n .openHost o r.host := by
  refine ⟨fun i st hst => ?_, .quiet rfl rfl (funext fun q => ?_), tells_ok _⟩
  · replace hst : (s.stations.push (Station.fresh s.stations.size))[i]? = some st := hst
    rw [Array.getElem?_push] at hst
    split at hst
    · next hi =>
      subst hi
      cases hst
      exact ⟨rfl, rfl⟩
    · exact hs.plain i st hst
  · show ((s.stations.push (Station.fresh s.stations.size))[q.1]?).bind _ = s.seen q
    rw [Array.getElem?_push, seen]
    split
    · next hq =>
      rw [hq, Array.getElem?_eq_none (Nat.le_refl _)]
      simp [Station.fresh, Monitor.ofHost, Store.seen, Store.buffer?_empty]
    · rfl

/-- A host that is dropped leaves its buffers to those who have them mapped. -/
lemma ends_dropHost [Machine] (hs : Exclusive s) :
    Ends (perform n .dropHost) ⟨s, log⟩ fun o r => Done s n .dropHost o r.host := by
  rw [perform]
  rw [ends_bind]
  refine ends_onHost_of (fun _ => .crashed hs rfl) fun w hw => ?_
  obtain ⟨st, hst, rfl⟩ := exists_station hw
  rw [ends_pure]
  dsimp only
  rw [ends_bind, ends_update, ends_pure]
  generalize hs' : Session.mk _ _ _ = s'
  have same : ∀ i : Nat, (s'.stations[i]?).map (·.monitor) = (s.stations[i]?).map (·.monitor) := by
    intro i
    rw [← hs']
    simp only [Session.modify, Array.getElem?_modify]
    split
    · next hi =>
      subst hi
      simp [hst]
    · rfl
  exact ⟨hs.plain.congr same, .quiet rfl (by rw [← hs']; rfl) (seen_congr same), tells_ok _⟩

/-- **What every action does.** -/
lemma ends_bare [Machine] (ha : Bare a) (hs : Exclusive s) :
    Ends (perform n a) ⟨s, log⟩ fun o r => Done s n a o r.host := by
  -- most actions are requests that hand out and take back no mapping; the others have their own
  -- lemmas
  cases a with
  | openHost => exact ends_openHost hs
  | dropHost => exact ends_dropHost hs
  | allocate size =>
      exact ends_asked hs (fun w _ hw => Monitor.ends_passed hw (Store.ends_allocate size)) rfl
        fun _ => answers_pure _
  | free k =>
      exact ends_asked hs (fun w _ hw => Monitor.ends_passed hw Store.ends_free) rfl
        fun _ => answers_pure _
  | syncCpu k =>
      exact ends_asked hs (fun w _ hw => Monitor.ends_passed hw Store.ends_syncCpu) rfl
        fun _ => answers_pure _
  | syncGpu k =>
      exact ends_asked hs (fun w _ hw => Monitor.ends_passed hw Store.ends_syncGpu) rfl
        fun _ => answers_pure _
  | setTiling k tiling stride =>
      exact ends_asked hs
        (fun w _ hw => Monitor.ends_passed hw (Store.ends_setTiling tiling stride)) rfl
        fun _ => answers_pure _
  | getTiling k =>
      exact ends_asked hs (fun w _ hw => Monitor.ends_forwarded hw Store.ends_tiling) rfl
        fun _ => answers_pure _
  | map k offset size access => exact (ends_map hs offset size access).mono fun _ _ h => h.1
  | rawMap k offset memory => exact (ends_rawMap hs offset memory).mono fun _ _ h => h.1
  | mappingInfo slot =>
      exact ends_held_bind (fun _ => .crashed hs rfl)
        fun _ _ => ⟨hs.plain, .quiet rfl rfl rfl, tells_ok _⟩
  | readMapping slot =>
      exact ends_held_bind (fun _ => .crashed hs rfl)
        fun _ _ => ⟨hs.plain, .quiet rfl rfl rfl, tells_ok _⟩
  | writeMapping slot pos new => exact ends_writeMapping hs pos new
  | unmap slot => exact (ends_unmap hs).mono fun _ _ h => h.1
  | dropMapping slot => exact ends_dropMapping hs
  | copy src dst area =>
      exact ends_asked hs (fun w _ hw => Monitor.ends_passed hw (Store.ends_copy src dst area)) rfl
        fun _ => answers_pure _
  | contents k offset len =>
      exact ends_asked hs (fun w _ hw => Monitor.ends_forwarded hw Store.ends_contents) rfl
        fun _ => answers_need _ _
  | contentsRows k offset len stride rows =>
      exact ends_asked hs (fun w _ hw => Monitor.ends_forwarded hw Store.ends_contents) rfl
        fun _ => answers_need _ _
  | describe =>
      exact ends_asked hs (fun w _ hw => ⟨hw, .refl _, Store.tells_ok _⟩) rfl
        fun _ => answers_pure _
  | inject | heal | create | framebuffer | plane | draw | view | remove => exact ha.elim

end Scanout.Session
