/-
Fingerprints of byte sequences, by which two images are compared without showing either.

* `Fingerprint.step`: what one byte does to a fingerprint;
* `Fingerprint.ofBytes`: the fingerprint of a buffer.
-/
import Scanout.Bytes

namespace Scanout

/-- Thirty-two bits that stand for a byte sequence. -/
structure Fingerprint where
  bits : UInt32
  deriving DecidableEq, Repr

namespace Fingerprint

/-- The fingerprint of no bytes. -/
def start : Fingerprint :=
  ⟨0x811c9dc5⟩

/-- A further byte is combined bit by bit and the result is spread by an odd multiplier. -/
def step (f : Fingerprint) (byte : UInt8) : Fingerprint :=
  ⟨(f.bits ^^^ byte.toUInt32) * 0x01000193⟩

/-- The fingerprint after the four bytes of a number, the low byte first. -/
def stepWord (f : Fingerprint) (word : UInt32) : Fingerprint :=
  (((f.step word.toUInt8).step (word >>> 8).toUInt8).step (word >>> 16).toUInt8).step
    (word >>> 24).toUInt8

/-- The fingerprint of a buffer, first byte first. -/
def ofBytes (b : Bytes) : Fingerprint :=
  b.foldl step start

end Fingerprint

end Scanout
