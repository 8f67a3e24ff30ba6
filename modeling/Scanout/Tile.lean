/-
The shape of a tile.

* `Tile`: bytes across and rows down;
* `BppClass`: the groups of pixel sizes that the Yf tiling tells apart;
* `Tile.of?`: the tile of a tiling on a device at a pixel size;
* `Tile.of`: the same with the error for the pixel sizes that have none.
-/
import Scanout.Device
import Scanout.Error

namespace Scanout

/-- A tile: its width in bytes and its height in rows. -/
structure Tile where
  width : Nat
  height : Nat
  deriving DecidableEq, Repr

/-- The groups of pixel sizes that the Yf tiling tells apart. -/
inductive BppClass where
  | bpp8
  | bpp16To32
  | bpp64To128
  deriving DecidableEq, Repr

/-- The group of a pixel size in bits. -/
def BppClass.of? : Nat → Option BppClass
  | 8 => some bpp8
  | 16 | 32 => some bpp16To32
  | 64 | 128 => some bpp64To128
  | _ => none

namespace Tile

/-- The tile of a tiling. A linear row is cut into units of sixty-four bytes; X and Y tiles depend
on the hardware and never on the pixel size; a Yf tile of four kilobytes gets wider and lower as
the pixels grow, and has no shape for other pixel sizes. -/
def of? (device : Device) : Tiling → (bpp : Nat) → Option Tile
  | .linear, _ => some ⟨64, 1⟩
  | .x, _ =>
    match device.genClass with
    | .gen2 => some ⟨128, 16⟩
    | .i915 | .other => some ⟨512, 8⟩
  | .y, _ =>
    match device.genClass with
    | .gen2 => some ⟨128, 16⟩
    | .i915 => some ⟨512, 8⟩
    | .other => some ⟨128, 32⟩
  | .yf, bpp =>
    (BppClass.of? bpp).map fun
      | .bpp8 => ⟨64, 64⟩
      | .bpp16To32 => ⟨128, 32⟩
      | .bpp64To128 => ⟨256, 16⟩

/-- The tile of a tiling, or the error that the pixel size has none. -/
def of (device : Device) (tiling : Tiling) (bpp : Nat) : Checked Tile :=
  match of? device tiling bpp with
  | some tile => .ok tile
  | none => Checked.fail (.unsupportedBpp tiling bpp)

/-- A tile is never empty. -/
theorem pos_of_of? {device : Device} {tiling : Tiling} {bpp : Nat} {tile : Tile}
    (h : of? device tiling bpp = some tile) : 0 < tile.width ∧ 0 < tile.height := by
  cases tiling <;> simp only [of?] at h
  case linear => cases h; decide
  case x => split at h <;> cases h <;> decide
  case y => split at h <;> cases h <;> decide
  case yf =>
    obtain ⟨c, -, rfl⟩ := Option.map_eq_some_iff.1 h
    cases c <;> decide

end Tile

end Scanout
