/-
What is asked of a host, and what comes of it.

* `Deed`: a request with what it ended with;
* `Straight`: requests that were made up to the first that failed;
* `Traced`: a host of which every request is recorded;
* `Throughout`: a condition on every deed of a record and on those before it;
* `Deed.Allowed`, `Orderly`: **a record in which mappings and buffers are obtained, used and given
  back in order**;
* `Tally`: what a record comes to so far, with a lemma for each kind of deed.
-/
import Scanout.Proofs.Outcome

namespace Scanout

/-- A request to a host with what it ended with. -/
inductive Deed where
  | allocate (size : Nat) (outcome : Checked Handle)
  | setTiling (buffer : Handle) (tiling : Tiling) (stride : Nat) (outcome : Checked Unit)
  | free (buffer : Handle) (outcome : Checked Unit)
  | map (buffer : Handle) (offset size : Nat) (access : Access) (outcome : Checked Mapping)
  | unmap (mapping : Mapping) (outcome : Checked Unit)
  | copy (src dst : Surface) (area : Area) (outcome : Checked Unit)
  | syncCpu (buffer : Handle) (outcome : Checked Unit)
  | syncGpu (buffer : Handle) (outcome : Checked Unit)

namespace Deed

/-- The kind of a request. -/
def kind : Deed → CallKind
  | allocate .. => .allocate
  | setTiling .. => .setTiling
  | free .. => .free
  | map .. => .map
  | unmap .. => .unmap
  | copy .. => .copy
  | syncCpu .. => .syncCpu
  | syncGpu .. => .syncGpu

/-- Whether a request was done or failed. -/
def outcome : Deed → Checked Unit
  | allocate _ o => o.map fun _ => ()
  | map _ _ _ _ o => o.map fun _ => ()
  | setTiling _ _ _ o | free _ o | unmap _ o | copy _ _ _ o | syncCpu _ o | syncGpu _ o => o

end Deed

/-- Requests that were made one after the other up to the first that failed. -/
inductive Straight : List Deed → Checked Unit → Prop where
  | nil : Straight [] (.ok ())
  | last {d : Deed} {f : Failure} (failed : d.outcome = .error f) : Straight [d] (.error f)
  | cons {d : Deed} {ds : List Deed} {o : Checked Unit} (done : d.outcome = .ok ())
      (rest : Straight ds o) : Straight (d :: ds) o

/-! ### Hosts of which every request is recorded -/

/-- A host of which every request is recorded. -/
structure Traced (σ : Type) where
  host : σ
  deeds : List Deed

namespace Traced

variable {σ α : Type}

/-- Records from now on. -/
def watch (r : Run σ) : Run (Traced σ) :=
  ⟨⟨r.host, []⟩, r.log⟩

/-- Passes a request on and records what it ended with. -/
def record (deed : Checked α → Deed) (x : Act σ α) : Act (Traced σ) α := do
  let outcome ← Act.attempt (Act.focus (·.host) (fun host t => { t with host }) x)
  Act.update fun t => { t with deeds := t.deeds ++ [deed outcome] }
  Act.ofChecked outcome

instance [Backend σ] : Backend (Traced σ) where
  allocate size := record (.allocate size) (Backend.allocate size)
  setTiling h tiling stride :=
    record (.setTiling h tiling stride) (Backend.setTiling h tiling stride)
  free h := record (.free h) (Backend.free h)
  map h offset size access := record (.map h offset size access) (Backend.map h offset size access)
  unmap m := record (.unmap m) (Backend.unmap m)
  copy src dst area := record (.copy src dst area) (Backend.copy src dst area)
  syncCpu h := record (.syncCpu h) (Backend.syncCpu h)
  syncGpu h := record (.syncGpu h) (Backend.syncGpu h)
  window t m := Backend.window t.host m
  setWindow m bytes t := { t with host := Backend.setWindow m bytes t.host }
  discard m t := { t with host := Backend.discard m t.host }

variable {r : Run (Traced σ)} {deed : Checked α → Deed} {x : Act σ α}
  {Q : Checked α → Run (Traced σ) → Prop}

/-- A request is made of the host, and then it is on record. -/
lemma ends_record : Ends (record deed x) r Q ↔ Ends x ⟨r.host.host, r.log⟩ fun o t =>
    Q o ⟨⟨t.host, r.host.deeds ++ [deed o]⟩, t.log⟩ := by
  rw [record, ends_bind, ends_attempt, ends_focus]
  simp only [ends_bind, ends_update, ends_ofChecked]

/-- Whatever the host does, the request is on record. -/
lemma ends_record_any (h : ∀ o host log, Q o ⟨⟨host, r.host.deeds ++ [deed o]⟩, log⟩) :
    Ends (record deed x) r Q :=
  ends_record.2 (ends_self.mono fun o t _ => h o t.host t.log)

end Traced

/-! ### Records in order -/

lemma filterMap_cons_toList {β γ : Type} (f : β → Option γ) (d : β) (ds : List β) :
    (d :: ds).filterMap f = (f d).toList ++ ds.filterMap f := by
  rw [List.filterMap_cons]
  cases f d <;> rfl

/-- Every deed of a list, and those that were there before it, meet a condition. -/
def Throughout (P : List Deed → Deed → Prop) (past : List Deed) : List Deed → Prop
  | [] => True
  | d :: ds => P past d ∧ Throughout P (past ++ [d]) ds

section Throughout

variable {P : List Deed → Deed → Prop} {past ds ds' : List Deed}

lemma throughout_append :
    Throughout P past (ds ++ ds') ↔ Throughout P past ds ∧ Throughout P (past ++ ds) ds' := by
  induction ds generalizing past with
  | nil =>
      rw [List.nil_append, List.append_nil]
      exact ⟨fun h => ⟨trivial, h⟩, And.right⟩
  | cons d ds ih =>
      rw [List.cons_append, Throughout, Throughout, ih, List.append_assoc, and_assoc]
      rfl

/-- What is true of every deed, whatever has come before but for what there was, is true throughout.
-/
lemma throughout_of_forall (h : ∀ past', past <+: past' → ∀ d ∈ ds, P past' d) :
    Throughout P past ds := by
  induction ds generalizing past with
  | nil => trivial
  | cons d ds ih =>
      refine ⟨h past (List.prefix_refl _) d List.mem_cons_self, ih fun past' hpast d hd => ?_⟩
      exact h past' (List.IsPrefix.trans (List.prefix_append _ _) hpast) d
        (List.mem_cons_of_mem _ hd)

end Throughout

namespace Deed

/-- The mapping that was obtained. -/
def mapped? : Deed → Option Mapping
  | map _ _ _ _ (.ok m) => some m
  | _ => none

/-- The mapping that was handed back. -/
def unmapped? : Deed → Option Mapping
  | unmap m _ => some m
  | _ => none

/-- The buffer that was obtained. -/
def allocated? : Deed → Option Handle
  | allocate _ (.ok h) => some h
  | _ => none

/-- The buffer that was given up. -/
def freed? : Deed → Option Handle
  | free h _ => some h
  | _ => none

/-- What was to be copied. -/
def copied? : Deed → Option (Surface × Surface × Area)
  | copy src dst area _ => some (src, dst, area)
  | _ => none

/-- Nothing was obtained and nothing given back. -/
def Quiet (d : Deed) : Prop :=
  d.mapped? = none ∧ d.unmapped? = none ∧ d.allocated? = none ∧ d.freed? = none

/-- A buffer is mapped: a mapping of it was obtained and has not been handed back. -/
def Mapped (past : List Deed) (h : Handle) : Prop :=
  ∃ offset size access m, map h offset size access (.ok m) ∈ past ∧ m ∉ past.filterMap unmapped?

/-- A buffer is with the CPU: it was handed over, and nothing has been copied since. -/
def Handed (past : List Deed) (h : Handle) : Prop :=
  ∃ before after, past = before ++ syncCpu h (.ok ()) :: after ∧ after.filterMap copied? = []

/-- What has to be on record for a request to be in order: what is copied from or to is not mapped,
what is mapped is with the CPU, what is handed back was obtained and not handed back before, and
what is given up was allocated. -/
def Allowed (past : List Deed) : Deed → Prop
  | copy src dst _ _ => ¬Mapped past src.buffer ∧ ¬Mapped past dst.buffer
  | map h _ _ _ _ => Handed past h
  | unmap m _ => m ∈ past.filterMap mapped? ∧ m ∉ past.filterMap unmapped?
  | free h _ => h ∈ past.filterMap allocated?
  | _ => True

end Deed

/-- A record in order: every mapping that was obtained is handed back once, every buffer that was
obtained is given up once and last of all, and every request is in order. -/
structure Orderly (ds : List Deed) : Prop where
  mappings : ds.filterMap Deed.unmapped? = ds.filterMap Deed.mapped?
  mappings_nodup : (ds.filterMap Deed.unmapped?).Nodup
  buffers : ds.filterMap Deed.freed? = ds.filterMap Deed.allocated?
  buffers_nodup : (ds.filterMap Deed.freed?).Nodup
  last : Throughout (fun past _ => past.filterMap Deed.freed? = []) [] ds
  allowed : Throughout Deed.Allowed [] ds

/-! ### What a record comes to -/

/-- A record in order so far: the mapping that was obtained and the one that was handed back, the
buffer that was obtained and the one that was given up. -/
structure Tally (mapped unmapped : Option Mapping) (allocated freed : Option Handle)
    (ds : List Deed) : Prop where
  mapped : ds.filterMap Deed.mapped? = mapped.toList
  unmapped : ds.filterMap Deed.unmapped? = unmapped.toList
  allocated : ds.filterMap Deed.allocated? = allocated.toList
  freed : ds.filterMap Deed.freed? = freed.toList
  last : Throughout (fun past _ => past.filterMap Deed.freed? = []) [] ds
  allowed : Throughout Deed.Allowed [] ds

namespace Tally

variable {mapped unmapped mapped' unmapped' : Option Mapping}
  {allocated freed allocated' : Option Handle} {ds cs : List Deed} {d : Deed} {h : Handle}
  {m : Mapping}

lemma nil : Tally none none none none [] :=
  ⟨rfl, rfl, rfl, rfl, trivial, trivial⟩

/-- One more deed that is in order. -/
lemma add (ht : Tally mapped unmapped allocated none ds) (hd : d.Allowed ds)
    (hm : mapped.toList ++ d.mapped?.toList = mapped'.toList)
    (hu : unmapped.toList ++ d.unmapped?.toList = unmapped'.toList)
    (ha : allocated.toList ++ d.allocated?.toList = allocated'.toList) :
    Tally mapped' unmapped' allocated' d.freed? (ds ++ [d]) := by
  have one : ∀ {β : Type} (f : Deed → Option β), [d].filterMap f = (f d).toList := fun f =>
    (filterMap_cons_toList f d []).trans (List.append_nil _)
  refine ⟨?_, ?_, ?_, ?_, throughout_append.2 ⟨ht.last, ?_, trivial⟩,
    throughout_append.2 ⟨ht.allowed, hd, trivial⟩⟩
  · rw [List.filterMap_append, ht.mapped, one, hm]
  · rw [List.filterMap_append, ht.unmapped, one, hu]
  · rw [List.filterMap_append, ht.allocated, one, ha]
  · rw [List.filterMap_append, ht.freed, one]
    rfl
  · exact ht.freed

/-- One more deed by which nothing is obtained and nothing given back. -/
lemma quiet (ht : Tally mapped unmapped allocated none ds) (hd : d.Allowed ds) (hq : d.Quiet) :
    Tally mapped unmapped allocated none (ds ++ [d]) := by
  obtain ⟨hm, hu, ha, hf⟩ := hq
  rw [← hf]
  refine ht.add hd ?_ ?_ ?_
  · rw [hm]
    exact List.append_nil _
  · rw [hu]
    exact List.append_nil _
  · rw [ha]
    exact List.append_nil _

/-- Where everything that was mapped has been handed back, nothing is mapped. -/
lemma not_mapped (ht : Tally mapped mapped allocated freed ds) : ¬Deed.Mapped ds h := by
  rintro ⟨offset, size, access, m, hmem, hheld⟩
  have hm : m ∈ ds.filterMap Deed.mapped? := List.mem_filterMap.2 ⟨_, hmem, rfl⟩
  rw [ht.mapped, ← ht.unmapped] at hm
  exact hheld hm

/-- Copies where nothing is mapped. -/
lemma copies (ht : Tally mapped mapped allocated none ds) (hcs : ∀ c ∈ cs, c.copied? ≠ none) :
    Tally mapped mapped allocated none (ds ++ cs) := by
  induction cs generalizing ds with
  | nil => rwa [List.append_nil]
  | cons c cs ih =>
      rw [List.append_cons]
      refine ih ?_ fun c hc => hcs c (List.mem_cons_of_mem _ hc)
      have hc := hcs c List.mem_cons_self
      cases c
      case copy src dst area o => exact ht.quiet ⟨ht.not_mapped, ht.not_mapped⟩ ⟨rfl, rfl, rfl, rfl⟩
      all_goals exact absurd rfl hc

/-- A buffer that is obtained. -/
lemma allocate {size : Nat} (ht : Tally mapped unmapped none none ds) :
    Tally mapped unmapped (some h) none (ds ++ [.allocate size (.ok h)]) :=
  ht.add (d := .allocate size (.ok h)) trivial (List.append_nil _) (List.append_nil _) rfl

/-- A mapping that is obtained. -/
lemma map {offset size : Nat} {access : Access} (ht : Tally none unmapped allocated none ds)
    (hd : Deed.Handed ds h) :
    Tally (some m) unmapped allocated none (ds ++ [.map h offset size access (.ok m)]) :=
  ht.add (d := .map h offset size access (.ok m)) hd rfl (List.append_nil _) (List.append_nil _)

/-- A mapping that is handed back. -/
lemma unmap {o : Checked Unit} (ht : Tally (some m) none allocated none ds) :
    Tally (some m) (some m) allocated none (ds ++ [.unmap m o]) := by
  refine ht.add (d := .unmap m o) ⟨?_, ?_⟩ (List.append_nil _) rfl (List.append_nil _)
  · rw [ht.mapped]
    exact List.mem_singleton.2 rfl
  · rw [ht.unmapped]
    exact List.not_mem_nil

/-- A buffer that is given up. -/
lemma free {o : Checked Unit} (ht : Tally mapped mapped (some h) none ds) :
    Tally mapped mapped (some h) (some h) (ds ++ [.free h o]) := by
  refine ht.add (d := .free h o) ?_ (List.append_nil _) (List.append_nil _) (List.append_nil _)
  show h ∈ ds.filterMap Deed.allocated?
  rw [ht.allocated]
  exact List.mem_singleton.2 rfl

/-- A record in order of which nothing is left. -/
lemma orderly (ht : Tally mapped mapped allocated allocated ds) : Orderly ds where
  mappings := ht.unmapped.trans ht.mapped.symm
  mappings_nodup := by
    rw [ht.unmapped]
    cases mapped with
    | none => exact List.nodup_nil
    | some m => exact List.pairwise_singleton ..
  buffers := ht.freed.trans ht.allocated.symm
  buffers_nodup := by
    rw [ht.freed]
    cases allocated with
    | none => exact List.nodup_nil
    | some h => exact List.pairwise_singleton ..
  last := ht.last
  allowed := ht.allowed

end Tally

end Scanout
