/-
What a host is asked to work on.

* `Access`: what the CPU means to do with a mapping;
* `Mapping`: a range of a buffer that the CPU sees;
* `Surface`: rows of pixels in a buffer, one side of a copy;
* `Area`: the rectangle that is copied;
* `Call`: a request to a host with its arguments.
-/
import Scanout.Error

namespace Scanout

/-- What the CPU means to do with a mapping. -/
inductive Access where
  | read
  | write
  | readWrite
  deriving DecidableEq, Repr

/-- A range of a buffer that the CPU sees. -/
structure Mapping where
  buffer : Handle
  offset : Nat
  len : Nat
  /-- The number of the store that made the mapping; there is none when memory of some other kind
  is given out as one. -/
  issuer : Option Nat
  deriving DecidableEq, Repr

/-- Rows of pixels in a buffer. -/
structure Surface where
  buffer : Handle
  /-- The first byte of the first row. -/
  offset : Nat
  /-- The bytes from one row to the next. -/
  stride : Nat
  tiling : Tiling
  deriving DecidableEq, Repr

/-- A surface as messages show it. -/
def Surface.text (s : Surface) : String :=
  s.buffer.text ++ "+" ++ toString s.offset ++ " (" ++ s.tiling.name ++ ")"

/-- A rectangle of pixels that is copied from one surface to another. -/
structure Area where
  width : Nat
  height : Nat
  bpp : Nat
  deriving DecidableEq, Repr

/-- The bytes of one row of the rectangle. -/
def Area.rowBytes (a : Area) : Nat :=
  a.width * (a.bpp / 8)

/-- A request to a host. -/
inductive Call where
  | allocate (size : Nat)
  | setTiling (buffer : Handle) (tiling : Tiling) (stride : Nat)
  | free (buffer : Handle)
  | map (buffer : Handle) (offset size : Nat) (access : Access)
  | unmap (buffer : Handle) (offset len : Nat)
  | copy (src dst : Surface) (area : Area)
  | syncCpu (buffer : Handle)
  | syncGpu (buffer : Handle)
  deriving DecidableEq, Repr

/-- The kind of a request. -/
def Call.kind : Call → CallKind
  | allocate .. => .allocate
  | setTiling .. => .setTiling
  | free .. => .free
  | map .. => .map
  | unmap .. => .unmap
  | copy .. => .copy
  | syncCpu .. => .syncCpu
  | syncGpu .. => .syncGpu

end Scanout
