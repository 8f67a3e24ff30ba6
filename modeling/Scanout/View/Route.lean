/-
The three ways in which the CPU reaches the pixels of a framebuffer.

* `Route`: through a mapping, through a linear copy, or through a conversion;
* `Route.name`: how messages call a way.
-/
namespace Scanout

/-- How the CPU reaches the pixels of a framebuffer. -/
inductive Route where
  /-- The buffer is mapped and worked on in place. -/
  | direct
  /-- A linear copy is made, worked on, and copied back. -/
  | blit
  /-- Planes are converted to packed pixels and back. -/
  | convert
  deriving DecidableEq, Repr

/-- The name by which messages call a way. -/
def Route.name : Route → String
  | direct => "Direct"
  | blit => "Blit"
  | convert => "Convert"

end Scanout
