/-
Hosts that keep their buffers in a store.

A store is a host, and so is a store that is watched, whose requests may be refused.

* `StoreHost`: what the two have in common: **a request is refused before the store hears of it, or
  the store does what it always does**;
* `Fault.Lets`: the faults that a watched store may have for a kind of request to be let through;
* `Monitor.ends_request`: what a request to a host that is watched ends with.
-/
import Scanout.Monitor
import Scanout.Proofs.Outcome
import Scanout.Store.Blit

namespace Scanout

variable {σ α : Type}

/-- A step on a host is refused, where its kind is not let through, or is what a step on its store
is. A kind that is let through stays so. -/
def Passes (store : σ → Store) (Lets : σ → CallKind → Prop) (kind : CallKind)
    (refused : Store → Store) (x : Act σ α) (y : Act Store α) : Prop :=
  ∀ (r : Run σ) (Q : Checked α → Run σ → Prop),
    (¬Lets r.host kind → ∀ e r', store r'.host = refused (store r.host) →
      (∀ k, Lets r.host k → Lets r'.host k) → Q (.error (.error e)) r') →
    (Ends y ⟨store r.host, r.log⟩ fun o s => ∀ r', store r'.host = s.host →
      (∀ k, Lets r.host k → Lets r'.host k) → Q o r') →
    Ends x r Q

/-- A host that is a store behind requests that may be refused. -/
class StoreHost (σ : Type) [Backend σ] where
  store : σ → Store
  /-- Whether no request of a kind is refused from now on. -/
  Lets : σ → CallKind → Prop
  allocate : ∀ size, Passes store Lets .allocate id (Backend.allocate size) (Store.allocate size)
  setTiling : ∀ h tiling stride, Passes store Lets .setTiling id
    (Backend.setTiling h tiling stride) (Store.setTiling h tiling stride)
  free : ∀ h, Passes store Lets .free id (Backend.free h) (Store.free h)
  map : ∀ h offset size access, Passes store Lets .map id
    (Backend.map h offset size access) (Store.map h offset size access)
  /-- A mapping is given up even where its return is refused. -/
  unmap : ∀ m, Passes store Lets .unmap (Store.discard m) (Backend.unmap m) (Store.unmap m)
  copy : ∀ src dst area, Passes store Lets .copy id
    (Backend.copy src dst area) (Store.copy src dst area)
  syncCpu : ∀ h, Passes store Lets .syncCpu id (Backend.syncCpu h) (Store.syncCpu h)
  syncGpu : ∀ h, Passes store Lets .syncGpu id (Backend.syncGpu h) (Store.syncGpu h)
  window : ∀ host m, Backend.window host m = (store host).window m
  store_setWindow : ∀ m bytes host,
    store (Backend.setWindow m bytes host) = (store host).setWindow m bytes
  lets_setWindow : ∀ m bytes host k, Lets host k → Lets (Backend.setWindow m bytes host) k

/-! ### A store as a host -/

lemma passes_self {kind : CallKind} {refused : Store → Store} {x : Act Store α} :
    Passes id (fun _ _ => True) kind refused x x :=
  fun _ _ _ passed => passed.mono fun _ r' h => h r' rfl fun _ => id

/-- A store refuses nothing. -/
instance : StoreHost Store where
  store := id
  Lets _ _ := True
  allocate _ := passes_self
  setTiling _ _ _ := passes_self
  free _ := passes_self
  map _ _ _ _ := passes_self
  unmap _ := passes_self
  copy _ _ _ := passes_self
  syncCpu _ := passes_self
  syncGpu _ := passes_self
  window _ _ := rfl
  store_setWindow _ _ _ := rfl
  lets_setWindow _ _ _ _ := id

/-! ### A store that is watched -/

/-- No fault is left that would make a request of a kind fail. -/
def Fault.Lets (fs : List Fault) (kind : CallKind) : Prop :=
  ∀ f ∈ fs, f.kind = kind → f.times = 0

/-- A request whose kind is let through does not fail. -/
lemma Fault.Lets.visit_snd {kind : CallKind} {fs : List Fault} (h : Fault.Lets fs kind) :
    (Fault.visit kind fs).2 = false := by
  induction fs with
  | nil => rfl
  | cons f fs ih =>
      have hf : ¬(f.kind = kind ∧ f.after = 0 ∧ 0 < f.times) := by
        rintro ⟨hk, -, ht⟩
        exact absurd (h f List.mem_cons_self hk) (Nat.ne_of_gt ht)
      rw [Fault.visit, if_neg hf]
      exact ih fun g hg => h g (List.mem_cons_of_mem f hg)

/-- No request makes a fault of a kind that is let through. -/
lemma Fault.Lets.visit_fst {kind k : CallKind} {fs : List Fault} (h : Fault.Lets fs k) :
    Fault.Lets (Fault.visit kind fs).1 k := by
  induction fs with
  | nil => exact h
  | cons f fs ih =>
      have hf := h f List.mem_cons_self
      have hfs : Fault.Lets fs k := fun g hg => h g (List.mem_cons_of_mem f hg)
      rw [Fault.visit]
      -- a fault keeps its kind, and its times never grow
      split
      · rintro g hg hk
        rcases List.mem_cons.1 hg with rfl | hg
        · have : f.times = 0 := hf hk
          simp only [this]
        · exact hfs g hg hk
      · rintro g hg hk
        rcases List.mem_cons.1 hg with rfl | hg
        · have same : (if f.kind = kind then { f with after := f.after - 1 } else f).kind = f.kind ∧
              (if f.kind = kind then { f with after := f.after - 1 } else f).times = f.times := by
            split <;> exact ⟨rfl, rfl⟩
          rw [same.2]
          exact hf (same.1 ▸ hk)
        · exact ih hfs g hg hk

namespace Monitor

variable {r : Run (Monitor σ)}

/-- What a host is after a request was noted. -/
def noted (call : Call) (m : Monitor σ) : Monitor σ :=
  { m with faults := (Fault.visit call.kind m.faults).1, calls := m.calls.push call }

@[simp] lemma ends_note {call : Call} {Q : Checked Bool → Run (Monitor σ) → Prop} :
    Ends (note call) r Q ↔
      Q (.ok (Fault.visit call.kind r.host.faults).2) ⟨r.host.noted call, r.log⟩ := Iff.rfl

@[simp] lemma ends_forward {x : Act σ α} {Q : Checked α → Run (Monitor σ) → Prop} :
    Ends (forward x) r Q ↔
      Ends x ⟨r.host.host, r.log⟩ fun o s => Q o ⟨{ r.host with host := s.host }, s.log⟩ :=
  ends_focus

/-- A request is noted, and then fails or is what the host does. -/
lemma ends_request {call : Call} {x : Act σ α} {Q : Checked α → Run (Monitor σ) → Prop} :
    Ends (request call x) r Q ↔
      if (Fault.visit call.kind r.host.faults).2 then
        Q (.error (.error (.host (.injected call.kind)))) ⟨r.host.noted call, r.log⟩
      else Ends x ⟨r.host.host, r.log⟩ fun o s =>
        Q o ⟨{ r.host.noted call with host := s.host }, s.log⟩ := by
  rw [request, ends_bind, ends_note]
  dsimp only
  cases (Fault.visit call.kind r.host.faults).2 with
  | true => rfl
  | false => exact ends_forward

lemma passes_request (call : Call) (x : Act Store α) :
    Passes (σ := Monitor Store) (·.host) (fun m => Fault.Lets m.faults) call.kind id
      (request call x) x := by
  intro r Q refused passed
  rw [ends_request]
  split
  · next hf =>
    refine refused (fun hl => ?_) _ _ rfl fun k hk => hk.visit_fst
    exact absurd hf (ne_true_of_eq_false hl.visit_snd)
  · exact passed.mono fun o s h => h _ rfl fun k hk => hk.visit_fst

lemma passes_unmap (m : Mapping) :
    Passes (σ := Monitor Store) (·.host) (fun m => Fault.Lets m.faults) .unmap (Store.discard m)
      (unmap m) (Store.unmap m) := by
  intro r Q refused passed
  rw [unmap, ends_bind, ends_note]
  dsimp only
  split
  · next hf =>
    refine refused (fun hl => ?_) _ _ rfl fun k hk => hk.visit_fst
    exact absurd hf (ne_true_of_eq_false hl.visit_snd)
  · exact ends_forward.2 <| passed.mono fun o s h => h _ rfl fun k hk => hk.visit_fst

/-- A store that is watched refuses what its faults say. -/
instance : StoreHost (Monitor Store) where
  store := (·.host)
  Lets m := Fault.Lets m.faults
  allocate size := passes_request (.allocate size) _
  setTiling h tiling stride := passes_request (.setTiling h tiling stride) _
  free h := passes_request (.free h) _
  map h offset size access := passes_request (.map h offset size access) _
  unmap := passes_unmap
  copy src dst area := passes_request (.copy src dst area) _
  syncCpu h := passes_request (.syncCpu h) _
  syncGpu h := passes_request (.syncGpu h) _
  window _ _ := rfl
  store_setWindow _ _ _ := rfl
  lets_setWindow _ _ _ _ := id

end Monitor

end Scanout
