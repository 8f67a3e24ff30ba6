/-
Framebuffers for stereo display modes.

* `Stereo.Mode`: how the pictures of the two eyes share a frame;
* `Stereo.Timing`: what of a display mode decides it;
* `Stereo.frame`: the size of the framebuffer and the rectangle of each eye.
-/
import Scanout.Error

namespace Scanout

/-- A rectangle of pixels. -/
structure Rect where
  x : Nat
  y : Nat
  width : Nat
  height : Nat
  deriving DecidableEq, Repr

namespace Stereo

/-- How the pictures of the two eyes share a frame. -/
inductive Mode where
  | topAndBottom
  | sideBySideHalf
  | framePacking
  deriving DecidableEq, Repr

/-- The bits of the mode flags that speak of stereo. -/
def mask : Nat := 0x1f <<< 14

/-- The stereo bits of a mode. -/
def Mode.flags : Mode → Nat
  | topAndBottom => 7 <<< 14
  | sideBySideHalf => 8 <<< 14
  | framePacking => 1 <<< 14

/-- The stereo mode that the flags of a display mode ask for. -/
def Mode.ofFlags (flags : Nat) : Checked Mode :=
  match [Mode.topAndBottom, .sideBySideHalf, .framePacking].find? (·.flags == flags &&& mask) with
  | some m => .ok m
  | none => Checked.fail (.unsupportedStereoMode (flags &&& mask))

/-- What of a display mode decides its stereo framebuffer: the visible columns and rows, the rows in
all, and the flags. -/
structure Timing where
  hdisplay : Nat
  vdisplay : Nat
  vtotal : Nat
  flags : Nat
  deriving DecidableEq, Repr

/-- A framebuffer for a stereo mode and the rectangle of each eye. -/
structure Frame where
  width : Nat
  height : Nat
  left : Rect
  right : Rect
  deriving DecidableEq, Repr

/-- The framebuffer of a stereo mode. Two eyes that share a frame get a half each, the second one
the larger when the number is odd. Packed frames keep their full size, and the rows of the
vertical blank lie between them. -/
def Mode.frame (mode : Mode) (t : Timing) : Frame :=
  match mode with
  | .topAndBottom =>
    let middle := t.vdisplay / 2
    { width := t.hdisplay
      height := t.vdisplay
      left := ⟨0, 0, t.hdisplay, middle⟩
      right := ⟨0, middle, t.hdisplay, t.vdisplay - middle⟩ }
  | .sideBySideHalf =>
    let middle := t.hdisplay / 2
    { width := t.hdisplay
      height := t.vdisplay
      left := ⟨0, 0, middle, t.vdisplay⟩
      right := ⟨middle, 0, t.hdisplay - middle, t.vdisplay⟩ }
  | .framePacking =>
    let gap := t.vtotal - t.vdisplay
    { width := t.hdisplay
      height := 2 * t.vdisplay + gap
      left := ⟨0, 0, t.hdisplay, t.vdisplay⟩
      right := ⟨0, t.vdisplay + gap, t.hdisplay, t.vdisplay⟩ }

/-- The framebuffer that the flags and the timing of a display mode ask for. -/
def frame (t : Timing) : Checked Frame := do
  let mode ← Mode.ofFlags t.flags
  return mode.frame t

end Stereo

end Scanout
