/-
The commands of a session and their answers.

* `Command`: an action and the host that it is for;
* `Action`: what is done, on hosts, mappings and framebuffers that are named by the order in which
  they were made;
* `Reply`: the answer to an action that succeeds.
-/
import Scanout.Canvas.Script
import Scanout.Framebuffer.Draw
import Scanout.Monitor
import Scanout.Store.Blit

namespace Scanout.Session

/-- What is done with an open view. -/
inductive ViewOp where
  | info
  | len
  | read (pos len : Nat)
  | write (pos : Nat) (bytes : Bytes)
  | canvas (steps : List CanvasStep)

/-- How a view ends. -/
inductive ViewEnd where
  | finish
  | drop
  deriving DecidableEq, Repr

/-- How a framebuffer is made. -/
inductive Painting where
  | plain
  | color (color : Color)
  | pattern
  | colorPattern (color : Color)

/-- What is done. Slots count the mappings, or the framebuffers, that were made in the session. -/
inductive Action where
  | openHost
  | dropHost
  | inject (fault : Fault)
  | heal
  | allocate (size : Nat)
  | free (buffer : Handle)
  | syncCpu (buffer : Handle)
  | syncGpu (buffer : Handle)
  | setTiling (buffer : Handle) (tiling : Tiling) (stride : Nat)
  | getTiling (buffer : Handle)
  | map (buffer : Handle) (offset size : Nat) (access : Access)
  /-- A mapping over memory of its own, which no host has made. -/
  | rawMap (buffer : Handle) (offset : Nat) (memory : Bytes)
  | mappingInfo (slot : Nat)
  | readMapping (slot : Nat)
  | writeMapping (slot pos : Nat) (bytes : Bytes)
  | unmap (slot : Nat)
  | dropMapping (slot : Nat)
  | copy (src dst : Surface) (area : Area)
  | contents (buffer : Handle) (offset : Nat) (len : Option Nat)
  | contentsRows (buffer : Handle) (offset len stride rows : Nat)
  | describe
  /-- A framebuffer in the format whose code the bytes spell. -/
  | create (spelling : List UInt8) (geometry : Framebuffer.Geometry) (painting : Painting)
  | framebuffer (slot : Nat)
  | plane (slot plane : Nat)
  | draw (slot : Nat) (steps : List CanvasStep)
  | view (slot : Nat) (ops : List ViewOp) (ending : ViewEnd)
  | remove (slot : Nat)

/-- An action and the host that it is for. -/
structure Command where
  host : Nat
  action : Action

/-- The answer to what is done with an open view. -/
inductive ViewReply where
  | done
  | info (route : Route) (width height : Nat) (packing : Packing) (stride : Nat)
  | len (n : Nat)
  | bytes (b : Bytes)
  | readings (rs : List (Option Reading))

/-- The answer to an action. -/
inductive Reply where
  | done
  /-- The number of what was made. -/
  | made (number : Nat)
  | tiling (tiling : Tiling) (stride : Nat)
  | mapping (m : Mapping)
  | bytes (b : Bytes)
  /-- A part of a buffer, and the size of the whole. -/
  | contents (whole : Nat) (part : Bytes)
  | rows (rows : Array Bytes)
  | text (s : String)
  | framebuffer (slot : Option Nat) (fb : Framebuffer)
  | plane (area : Area) (surface : Surface)
  | drawn (readings : List (Option Reading)) (outcome : Checked Unit)
  | viewed (ops : List (Checked ViewReply)) (outcome : Option (Checked Unit))

/-- Whether a step of a script on a canvas crashed. -/
def crashed (rs : List (Option Reading)) : Bool :=
  rs.any (·.isNone)

/-- Whether what was done with an open view crashed. -/
def ViewReply.crashed : Checked ViewReply → Bool
  | .ok (.readings rs) => Session.crashed rs
  | .error .crash => true
  | _ => false

/-- Whether a part of what an action did crashed. -/
def Reply.crashed : Reply → Bool
  | .drawn rs _ => Session.crashed rs
  | .viewed ops _ => ops.any ViewReply.crashed
  | _ => false

end Scanout.Session
