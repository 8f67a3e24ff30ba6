/-
Handles of buffer objects.

* `Handle`: the number by which a host knows a buffer;
* `Handle.text`: how messages show a handle.
-/
namespace Scanout

/-- The number by which a host knows one of its buffers. Numbers of thirty-two bits are meant; here
they have no limit, which makes no difference until a host has made `2 ^ 32 - 1` buffers. -/
structure Handle where
  number : Nat
  deriving DecidableEq, Repr, Inhabited

/-- A handle is shown as its number after a hash sign. -/
def Handle.text (h : Handle) : String :=
  "#" ++ toString h.number

end Scanout
