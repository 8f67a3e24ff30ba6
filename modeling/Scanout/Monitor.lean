/-
A host that is watched, and whose requests can be made to fail.

* `Fault`: which request fails, after how many, and how often;
* `Fault.visit`: what a request does to the faults that are set, and whether it fails;
* `Monitor`: a host with the requests made of it and the faults set for it;
* `instance : Backend (Monitor σ)`: each request is noted, fails if a fault says so, and is passed
  on otherwise.
-/
import Scanout.Backend

namespace Scanout

/-- Makes requests of a kind fail: the first `after` are let through, the next `times` fail. -/
structure Fault where
  kind : CallKind
  after : Nat
  times : Nat
  deriving DecidableEq, Repr

/-- The faults after a request, and whether it fails. The faults of its kind are visited in order:
one that waits counts down, one that is due is used once and ends the visit, one that is used up
is passed over. -/
def Fault.visit (kind : CallKind) : List Fault → List Fault × Bool
  | [] => ([], false)
  | f :: fs =>
    if f.kind = kind ∧ f.after = 0 ∧ 0 < f.times then
      ({ f with times := f.times - 1 } :: fs, true)
    else
      let f := if f.kind = kind then { f with after := f.after - 1 } else f
      let (fs, fails) := visit kind fs
      (f :: fs, fails)

/-- A host that is watched, and whose requests can be made to fail. -/
structure Monitor (σ : Type) where
  host : σ
  faults : List Fault
  /-- The requests that were made, those that failed among them. -/
  calls : Array Call

namespace Monitor

variable {σ α : Type}

/-- Watches a host from now on. -/
def ofHost (host : σ) : Monitor σ :=
  ⟨host, [], #[]⟩

/-- Passes a step on to the host. -/
def forward (x : Act σ α) : Act (Monitor σ) α :=
  Act.focus (·.host) (fun host m => { m with host }) x

/-- Notes a request and tells whether it is to fail. -/
def note (call : Call) : Act (Monitor σ) Bool := do
  let (faults, fails) := Fault.visit call.kind (← Act.host).faults
  Act.update fun m => { m with faults, calls := m.calls.push call }
  return fails

/-- Notes a request and passes it on unless it is to fail. -/
def request (call : Call) (x : Act σ α) : Act (Monitor σ) α := do
  if ← note call then
    Act.fail (.host (.injected call.kind))
  else
    forward x

/-- Notes that a mapping is handed back and passes it on. It is given up even if that is to fail. -/
def unmap [Backend σ] (m : Mapping) : Act (Monitor σ) Unit := do
  if ← note (.unmap m.buffer m.offset m.len) then
    Act.update fun watched => { watched with host := Backend.discard m watched.host }
    Act.fail (.host (.injected .unmap))
  else
    forward (Backend.unmap m)

instance [Backend σ] : Backend (Monitor σ) where
  allocate size := request (.allocate size) (Backend.allocate size)
  setTiling h tiling stride :=
    request (.setTiling h tiling stride) (Backend.setTiling h tiling stride)
  free h := request (.free h) (Backend.free h)
  map h offset size access :=
    request (.map h offset size access) (Backend.map h offset size access)
  unmap := unmap
  copy src dst area := request (.copy src dst area) (Backend.copy src dst area)
  syncCpu h := request (.syncCpu h) (Backend.syncCpu h)
  syncGpu h := request (.syncGpu h) (Backend.syncGpu h)
  window watched m := Backend.window watched.host m
  setWindow m bytes watched := { watched with host := Backend.setWindow m bytes watched.host }
  discard m watched := { watched with host := Backend.discard m watched.host }

end Monitor

end Scanout
