/-
Display hardware, as far as it decides how buffers are laid out.

* `Device`: the generation, and whether the part is of the 915 class;
* `Device.genClass`: the three groups of hardware that tile shapes tell apart;
* `Device.hasLegacyFences`: the generations whose tiled buffers have power-of-two sizes.
-/
namespace Scanout

/-- A hardware generation. The 915 class is an older part of the third generation. -/
structure Device where
  gen : Nat
  is915 : Bool
  deriving DecidableEq, Repr

/-- The groups of hardware that tile shapes tell apart. -/
inductive GenClass where
  | gen2
  | i915
  | other
  deriving DecidableEq, Repr

namespace Device

/-- The generation that is assumed when nothing else is said. -/
def defaultGen : Nat := 9

/-- The last generation that scans out tiled buffers through power-of-two fence registers. -/
def legacyFenceMaxGen : Nat := 3

/-- An ordinary part of a generation. -/
def ofGen (gen : Nat) : Device :=
  ⟨gen, false⟩

/-- The device that is assumed when nothing else is said. -/
def standard : Device :=
  ofGen defaultGen

/-- The 915-class part. -/
def i915 : Device :=
  ⟨3, true⟩

/-- The group of a device. The 915 class counts in the third generation alone. -/
def genClass (d : Device) : GenClass :=
  if d.gen = 2 then .gen2 else if d.gen = 3 ∧ d.is915 then .i915 else .other

/-- Whether tiled buffers need a power-of-two stride and size. -/
def hasLegacyFences (d : Device) : Bool :=
  d.gen ≤ legacyFenceMaxGen

end Device

end Scanout
