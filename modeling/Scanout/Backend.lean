/-
What a framebuffer asks of its host.

* `Backend`: buffers are allocated, given a tiling, freed, mapped, unmapped, copied, and handed back
  and forth between the CPU and the display.

A step may fail; it says itself what it has done by then. The memory behind a mapping is read and
changed through `Backend.window` and `Backend.setWindow`, which never fail.
-/
import Scanout.Act
import Scanout.Bytes

namespace Scanout

/-- A host that owns buffers. -/
class Backend (σ : Type) where
  /-- Makes a zero-filled buffer. -/
  allocate : (size : Nat) → Act σ Handle
  /-- Declares the tiling and the stride of a buffer. -/
  setTiling : Handle → Tiling → (stride : Nat) → Act σ Unit
  /-- Gives a buffer up. -/
  free : Handle → Act σ Unit
  /-- Shows a range of a buffer to the CPU. -/
  map : Handle → (offset size : Nat) → Access → Act σ Mapping
  /-- Takes a mapping back. -/
  unmap : Mapping → Act σ Unit
  /-- Copies a rectangle of pixels between two surfaces, each in its own tiling. -/
  copy : (src dst : Surface) → Area → Act σ Unit
  /-- Waits for the display and hands a buffer to the CPU. -/
  syncCpu : Handle → Act σ Unit
  /-- Hands a buffer back to the display, which sees what the CPU wrote. -/
  syncGpu : Handle → Act σ Unit
  /-- The bytes that the CPU sees through a mapping. -/
  window : σ → Mapping → Bytes
  /-- Changes the bytes that the CPU sees through a mapping. -/
  setWindow : Mapping → Bytes → σ → σ
  /-- Gives a mapping up without handing it back. -/
  discard : Mapping → σ → σ

end Scanout
