/-
Actions on a host.

* `Run`: a host together with the log written so far;
* `Act`: a step that changes both and ends with a value or a failure, what it did before a failure
  being kept;
* `Act.attempt`: a step whose failure is a value;
* `Act.attemptAll`: several steps, each made whatever became of those before it;
* `Act.focus`: a step on a part of a larger host.
-/
import Scanout.Event

namespace Scanout

/-- A host together with the log written so far. -/
structure Run (σ : Type) where
  host : σ
  log : Array Event := #[]

/-- A step on a host. What it did to the host and wrote to the log stays done when it fails. -/
abbrev Act (σ α : Type) := EStateM Failure (Run σ) α

namespace Act

variable {σ τ α : Type}

/-- The host as it is. -/
def host : Act σ σ :=
  fun r => .ok r.host r

/-- Changes the host. -/
def update (f : σ → σ) : Act σ Unit :=
  fun ⟨host, log⟩ => .ok () ⟨f host, log⟩

/-- Writes to the log. -/
def emit (e : Event) : Act σ Unit :=
  fun ⟨host, log⟩ => .ok () ⟨host, log.push e⟩

/-- Ends with an error. -/
def fail (e : Error) : Act σ α :=
  throw (.error e)

/-- The value of a computation that needs no host. -/
def ofChecked : Checked α → Act σ α
  | .ok a => pure a
  | .error f => throw f

/-- A step whose failure is a value. -/
def attempt (x : Act σ α) : Act σ (Checked α) :=
  fun r =>
    match x r with
    | .ok a r => .ok (.ok a) r
    | .error f r => .ok (.error f) r

/-- Makes every step in turn and ends with the first failure among them, if there is one. -/
def attemptAll : List (Act σ Unit) → Act σ (Checked Unit)
  | [] => pure (.ok ())
  | x :: xs => do
    let first ← attempt x
    let rest ← attemptAll xs
    match first with
    | .ok _ => return rest
    | .error f => return .error f

/-- A step on a part of a host, the rest of which stays as it is. -/
def focus (part : τ → σ) (replace : σ → τ → τ) (x : Act σ α) : Act τ α :=
  fun ⟨whole, log⟩ =>
    match x ⟨part whole, log⟩ with
    | .ok a ⟨host, log⟩ => .ok a ⟨replace host whole, log⟩
    | .error f ⟨host, log⟩ => .error f ⟨replace host whole, log⟩

end Act

end Scanout
