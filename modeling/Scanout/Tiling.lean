/-
Tiling modes of a buffer.

* `Tiling`: rows of pixels one after the other, or one of three tile orders;
* `Tiling.modifier`, `Tiling.ofModifier?`: the number by which a framebuffer declares its tiling;
* `Tiling.objectTiling`, `Tiling.ofObjectTiling?`: the older number that a buffer object carries;
* `Tiling.needsBlit`: the tilings that no CPU mapping can undo.

The two pairs are inverse to each other: `ofModifier?_modifier` and `ofObjectTiling?_objectTiling`.
-/
namespace Scanout

/-- The order of the pixels of a buffer in memory. -/
inductive Tiling where
  | linear
  | x
  | y
  | yf
  deriving DecidableEq, Repr, Inhabited

namespace Tiling

/-- The name by which messages call a tiling. -/
def name : Tiling → String
  | linear => "linear"
  | x => "X"
  | y => "Y"
  | yf => "Yf"

/-- A modifier carries the vendor in its top byte and the vendor's own value below it. -/
def vendorModifier (vendor value : Nat) : Nat :=
  vendor <<< 56 ||| value &&& 0x00ffffffffffffff

/-- The number by which a framebuffer declares its tiling: zero for linear, else a value of the
vendor `1`. -/
def modifier : Tiling → Nat
  | linear => 0
  | x => vendorModifier 1 1
  | y => vendorModifier 1 2
  | yf => vendorModifier 1 3

/-- The number that a buffer object carries for its tiling. -/
def objectTiling : Tiling → Nat
  | linear => 0
  | x => 1
  | y => 2
  | yf => 3

/-- Every tiling, in the order of the object numbers. -/
def all : List Tiling :=
  [linear, x, y, yf]

/-- The tiling that a modifier declares. -/
def ofModifier? (m : Nat) : Option Tiling :=
  all.find? (·.modifier == m)

/-- The tiling that an object number stands for. -/
def ofObjectTiling? (n : Nat) : Option Tiling :=
  all.find? (·.objectTiling == n)

/-- Whether a mapping does not show the rows in order, so that the CPU has to go through a linear
copy made by the blitter. -/
def needsBlit : Tiling → Bool
  | linear | x => false
  | y | yf => true

theorem ofModifier?_modifier (t : Tiling) : ofModifier? t.modifier = some t := by
  cases t <;> decide

theorem ofObjectTiling?_objectTiling (t : Tiling) : ofObjectTiling? t.objectTiling = some t := by
  cases t <;> decide

end Tiling

end Scanout
