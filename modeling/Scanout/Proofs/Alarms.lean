/-
What a host writes to the log by itself.

* `alarms`: the errors in a log;
* `Act.Hushed`: a step writes no error to the log, with the rules of sequencing;
* `Hushed`: no request makes a host write one;
* `hushed_store`, `hushed_monitor`: **neither a store nor a host that is watched does**, whatever
  fails.
-/
import Scanout.Monitor
import Scanout.Proofs.Replay
import Scanout.Store.Blit

namespace Scanout

variable {σ α β : Type}

/-- The errors in a log. -/
def alarms (log : Array Event) : List Event :=
  log.toList.filter (·.level = .error)

/-- One more error. -/
lemma alarms_push_error {log : Array Event} {e : Event} (he : e.level = .error) :
    alarms (log.push e) = alarms log ++ [e] := by
  simp [alarms, he]

/-- A message that is no error. -/
lemma alarms_push_other {log : Array Event} {e : Event} (he : e.level ≠ .error) :
    alarms (log.push e) = alarms log := by
  simp [alarms, he]

/-! ### Steps without errors -/

/-- A step writes no error to the log, whatever it ends with. -/
def Act.Hushed (x : Act σ α) : Prop :=
  ∀ r, Ends x r fun _ r' => alarms r'.log = alarms r.log

namespace Act

lemma hushed_pure {a : α} : Hushed (σ := σ) (pure a) := fun _ => rfl

lemma hushed_fail {e : Error} : Hushed (σ := σ) (α := α) (fail e) := fun _ => rfl

lemma hushed_host : Hushed (σ := σ) host := fun _ => rfl

lemma hushed_update {f : σ → σ} : Hushed (update f) := fun _ => rfl

lemma hushed_ofChecked {c : Checked α} : Hushed (σ := σ) (ofChecked c) :=
  fun _ => ends_ofChecked.2 rfl

lemma hushed_emit {e : Event} (he : e.level ≠ .error) : Hushed (σ := σ) (emit e) :=
  fun _ => alarms_push_other he

lemma Hushed.bind {x : Act σ β} {f : β → Act σ α} (hx : x.Hushed) (hf : ∀ b, (f b).Hushed) :
    (x >>= f).Hushed := by
  refine fun r => ends_bind.2 ((hx r).mono fun o r' hr' => ?_)
  cases o with
  | ok b => exact (hf b r').mono fun _ _ h => h.trans hr'
  | error f => exact hr'

end Act

open Act

/-! ### A store -/

namespace Store

variable {h : Handle} {b : Buffer} {use : Use}

lemma hushed_find : Hushed (find h) :=
  hushed_host.bind fun s => by
    cases s.buffer? h with
    | none => exact hushed_fail
    | some b => exact hushed_pure

lemma hushed_refuseMapped : Hushed (refuseMapped use h b) := by
  rw [refuseMapped]
  split
  · exact (hushed_emit (by simp [Event.level])).bind fun _ => hushed_fail
  · exact hushed_pure

lemma hushed_allocate {size : Nat} : Hushed (allocate size) :=
  hushed_ofChecked.bind fun _ => hushed_host.bind fun _ => hushed_update.bind fun _ =>
    (hushed_emit (by simp [Event.level])).bind fun _ => hushed_pure

lemma hushed_setTiling {tiling : Tiling} {stride : Nat} : Hushed (setTiling h tiling stride) :=
  hushed_find.bind fun _ => hushed_update

lemma hushed_free : Hushed (free h) :=
  hushed_find.bind fun _ => hushed_refuseMapped.bind fun _ => hushed_update.bind fun _ =>
    hushed_emit (by simp [Event.level])

lemma hushed_map {offset size : Nat} {access : Access} : Hushed (map h offset size access) :=
  hushed_find.bind fun _ => hushed_refuseMapped.bind fun _ => hushed_ofChecked.bind fun _ =>
    hushed_host.bind fun _ => hushed_update.bind fun _ => hushed_pure

lemma hushed_unmap {m : Mapping} : Hushed (unmap m) :=
  hushed_find.bind fun b => by
    split
    · exact hushed_update
    · exact (hushed_emit (by simp [Event.level])).bind fun _ => hushed_fail

lemma hushed_sync : Hushed (syncCpu h) ∧ Hushed (syncGpu h) :=
  ⟨hushed_find.bind fun _ => hushed_update, hushed_find.bind fun _ => hushed_update⟩

lemma hushed_copy {src dst : Surface} {area : Area} : Hushed (copy src dst area) :=
  (hushed_emit (by simp [Event.level])).bind fun _ => hushed_find.bind fun _ =>
    hushed_refuseMapped.bind fun _ => hushed_ofChecked.bind fun _ => hushed_ofChecked.bind fun _ =>
      hushed_find.bind fun _ => hushed_refuseMapped.bind fun _ => hushed_update.bind fun _ =>
        hushed_ofChecked.bind fun _ => hushed_update

end Store

/-! ### Hosts -/

/-- No request makes a host write an error to the log. -/
def Hushed (σ : Type) [Backend σ] : Prop :=
  ∀ (d : Deed) (r r' : Run σ), d.Ran r r' → alarms r'.log = alarms r.log

variable [Backend σ]

/-- Nor do requests one after the other. -/
lemma Hushed.replays {ds : List Deed} {r r' : Run σ} (hushed : Hushed σ) (h : Replays ds r r') :
    alarms r'.log = alarms r.log := by
  induction ds generalizing r with
  | nil =>
      cases h
      rfl
  | cons d ds ih =>
      obtain ⟨r₁, hd, h⟩ := h
      exact (ih h).trans (hushed d r r₁ hd)

lemma hushed_store : Hushed Store := by
  intro d r r' hd
  cases d with
  | allocate => exact (Store.hushed_allocate r).of_yields hd
  | setTiling => exact (Store.hushed_setTiling r).of_yields hd
  | free => exact (Store.hushed_free r).of_yields hd
  | map => exact (Store.hushed_map r).of_yields hd
  | unmap => exact (Store.hushed_unmap r).of_yields hd
  | copy => exact (Store.hushed_copy r).of_yields hd
  | syncCpu => exact (Store.hushed_sync.1 r).of_yields hd
  | syncGpu => exact (Store.hushed_sync.2 r).of_yields hd

/-- Whatever such a host is asked for, it writes no error. -/
lemma Hushed.act {x : Act σ α} (hushed : Hushed σ) (deed : Checked α → Deed)
    (hran : ∀ o (r r' : Run σ), x.Yields r o r' → (deed o).Ran r r') : x.Hushed :=
  fun r => ends_yields.mono fun o r' hy => hushed (deed o) r r' (hran o r r' hy)

namespace Monitor

omit [Backend σ] in
lemma hushed_note {call : Call} : (note (σ := σ) call).Hushed :=
  hushed_host.bind fun _ => hushed_update.bind fun _ => hushed_pure

omit [Backend σ] in
lemma hushed_forward {x : Act σ α} (hx : x.Hushed) : (forward x).Hushed :=
  fun r => ends_focus.2 (hx ⟨r.host.host, r.log⟩)

/-- A request that is refused is noted, but not in the log. -/
lemma hushed_request {x : Act σ α} (hushed : Scanout.Hushed σ) (call : Call)
    (deed : Checked α → Deed) (hran : ∀ o (r r' : Run σ), x.Yields r o r' → (deed o).Ran r r') :
    (request call x).Hushed :=
  hushed_note.bind fun fails => by
    cases fails with
    | true => exact hushed_fail
    | false => exact hushed_forward (hushed.act deed hran)

lemma hushed_unmap (hushed : Scanout.Hushed σ) (m : Mapping) : (unmap (σ := σ) m).Hushed :=
  hushed_note.bind fun fails => by
    cases fails with
    | true => exact hushed_update.bind fun _ => hushed_fail
    | false => exact hushed_forward (hushed.act (.unmap m) fun _ _ _ h => h)

end Monitor

open Monitor in
/-- To watch a host does not make it write errors. -/
lemma hushed_monitor (hushed : Hushed σ) : Hushed (Monitor σ) := by
  intro d r r' hd
  cases d with
  | allocate size o =>
      exact (hushed_request hushed _ (.allocate size) (fun _ _ _ => id) r).of_yields hd
  | setTiling h tiling stride o =>
      exact (hushed_request hushed _ (.setTiling h tiling stride) (fun _ _ _ => id) r).of_yields hd
  | free h o => exact (hushed_request hushed _ (.free h) (fun _ _ _ => id) r).of_yields hd
  | map h offset size access o =>
      exact (hushed_request hushed _ (.map h offset size access) (fun _ _ _ => id) r).of_yields hd
  | unmap m o => exact (Monitor.hushed_unmap hushed m r).of_yields hd
  | copy src dst area o =>
      exact (hushed_request hushed _ (.copy src dst area) (fun _ _ _ => id) r).of_yields hd
  | syncCpu h o => exact (hushed_request hushed _ (.syncCpu h) (fun _ _ _ => id) r).of_yields hd
  | syncGpu h o => exact (hushed_request hushed _ (.syncGpu h) (fun _ _ _ => id) r).of_yields hd

end Scanout
