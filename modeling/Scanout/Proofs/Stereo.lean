/-
How the two eyes of a stereo mode share a frame.

A frame is cut into bands: two that touch each other, or two with the rows of the vertical blank
between them. Bands of columns are bands of rows with rows and columns exchanged.

* `Rect.Holds`, `Rect.Inside`: the pixels of a rectangle, and a rectangle that lies inside an image;
* `Stereo.Frame.Parted`, `Stereo.Frame.Halved`: no pixel belongs to both eyes, and every pixel
  belongs to one;
* `Stereo.bands`: two bands of rows, with `Stereo.bands_parted` and `Stereo.bands_blank`: what of a
  frame they hold, and what they leave between them;
* `Stereo.Mode.ofFlags_eq_ok`: the stereo bits of the flags are all that a mode is told by;
* `Stereo.Mode.Shares`, `Stereo.frame_shared`: **how much of a frame each eye gets**.
-/
import Scanout.Stereo
import Mathlib.Tactic.Lemma

namespace Scanout

/-! ### Rectangles -/

/-- A pixel belongs to a rectangle. -/
def Rect.Holds (r : Rect) (x y : Nat) : Prop :=
  (r.x ≤ x ∧ x < r.x + r.width) ∧ r.y ≤ y ∧ y < r.y + r.height

instance (r : Rect) (x y : Nat) : Decidable (r.Holds x y) :=
  inferInstanceAs (Decidable ((_ ∧ _) ∧ _ ∧ _))

/-- A rectangle lies inside an image of some width and height. -/
def Rect.Inside (r : Rect) (width height : Nat) : Prop :=
  r.x + r.width ≤ width ∧ r.y + r.height ≤ height

/-- A rectangle with rows and columns exchanged. -/
def Rect.transpose (r : Rect) : Rect :=
  ⟨r.y, r.x, r.height, r.width⟩

lemma Rect.holds_transpose {r : Rect} {x y : Nat} : r.transpose.Holds x y ↔ r.Holds y x :=
  and_comm

namespace Stereo

variable {fr : Frame} {t : Timing} {mode : Mode} {flags w top start rows x y : Nat}

/-! ### Frames -/

/-- Neither eye leaves the frame, and no pixel belongs to both. -/
structure Frame.Parted (fr : Frame) : Prop where
  left : fr.left.Inside fr.width fr.height
  right : fr.right.Inside fr.width fr.height
  apart : ∀ x y, ¬(fr.left.Holds x y ∧ fr.right.Holds x y)

/-- Every pixel of the frame belongs to one eye and not to the other. -/
def Frame.Halved (fr : Frame) : Prop :=
  ∀ x < fr.width, ∀ y < fr.height, fr.left.Holds x y ↔ ¬fr.right.Holds x y

/-- A frame with rows and columns exchanged. -/
def Frame.transpose (fr : Frame) : Frame :=
  ⟨fr.height, fr.width, fr.left.transpose, fr.right.transpose⟩

lemma Frame.Parted.transpose (h : fr.Parted) : fr.transpose.Parted where
  left := h.left.symm
  right := h.right.symm
  apart x y := by
    simp only [Frame.transpose, Rect.holds_transpose]
    exact h.apart y x

lemma Frame.Halved.transpose (h : fr.Halved) : fr.transpose.Halved := by
  intro x hx y hy
  simp only [Frame.transpose, Rect.holds_transpose]
  exact h y hy x hx

/-! ### Bands -/

/-- A frame of two bands: the first rows, and some rows from a row on, which are the last. -/
def bands (w top start rows : Nat) : Frame :=
  ⟨w, start + rows, ⟨0, 0, w, top⟩, ⟨0, start, w, rows⟩⟩

lemma holds_left : (bands w top start rows).left.Holds x y ↔ x < w ∧ y < top := by
  simp only [bands, Rect.Holds]
  omega

lemma holds_right :
    (bands w top start rows).right.Holds x y ↔ x < w ∧ start ≤ y ∧ y < start + rows := by
  simp only [bands, Rect.Holds]
  omega

/-- Bands that do not reach into each other are parted. -/
lemma bands_parted (h : top ≤ start) : (bands w top start rows).Parted where
  left := by
    simp only [bands, Rect.Inside]
    omega
  right := by
    simp only [bands, Rect.Inside]
    omega
  apart x y := by
    rw [holds_left, holds_right]
    omega

/-- The rows between two bands are all that they leave of a frame. -/
lemma bands_blank (hx : x < w) (hy : y < start + rows) :
    ¬(bands w top start rows).left.Holds x y ∧ ¬(bands w top start rows).right.Holds x y ↔
      top ≤ y ∧ y < start := by
  rw [holds_left, holds_right]
  omega

/-- Two blank rows between bands of two. -/
example : ∀ y < 6, ¬(bands 3 2 4 2).left.Holds 0 y ∧ ¬(bands 3 2 4 2).right.Holds 0 y ↔
    y = 2 ∨ y = 3 := by
  decide

/-- Bands that touch each other leave nothing. -/
lemma bands_halved : (bands w top top rows).Halved := by
  intro x hx y hy
  have hx : x < w := hx
  have hy : y < top + rows := hy
  rw [holds_left, holds_right]
  omega

/-! ### Modes -/

/-- The stereo bits of the flags are all that a mode is told by. -/
lemma Mode.ofFlags_eq_ok : Mode.ofFlags flags = .ok mode ↔ mode.flags = flags &&& mask := by
  rw [Mode.ofFlags]
  constructor
  · intro h
    split at h
    · next m hm =>
      cases h
      have found := List.find?_some hm
      exact eq_of_beq found
    · cases h
  · intro h
    rw [← h]
    cases mode <;> rfl

/-- How the eyes share the frame of each mode: halves of its rows, halves of its columns, or two
pictures of full size with the rows of the vertical blank between them. -/
def Mode.Shares (mode : Mode) (t : Timing) (fr : Frame) : Prop :=
  match mode with
  | .topAndBottom =>
    fr.width = t.hdisplay ∧ fr.height = t.vdisplay ∧ fr.Halved ∧
      fr.left.width = fr.width ∧ fr.right.width = fr.width ∧
      fr.left.height ≤ fr.right.height ∧ fr.right.height ≤ fr.left.height + 1
  | .sideBySideHalf =>
    fr.width = t.hdisplay ∧ fr.height = t.vdisplay ∧ fr.Halved ∧
      fr.left.height = fr.height ∧ fr.right.height = fr.height ∧
      fr.left.width ≤ fr.right.width ∧ fr.right.width ≤ fr.left.width + 1
  | .framePacking =>
    fr.width = t.hdisplay ∧ fr.height = 2 * t.vdisplay + (t.vtotal - t.vdisplay) ∧
      (fr.left.width = t.hdisplay ∧ fr.left.height = t.vdisplay) ∧
      (fr.right.width = t.hdisplay ∧ fr.right.height = t.vdisplay) ∧
      fr.right.y = fr.left.y + fr.left.height + (t.vtotal - t.vdisplay) ∧
      ∀ x < fr.width, ∀ y < fr.height, ¬fr.left.Holds x y ∧ ¬fr.right.Holds x y ↔
        fr.left.y + fr.left.height ≤ y ∧ y < fr.right.y

lemma frame_topAndBottom (t : Timing) : Mode.topAndBottom.frame t =
    bands t.hdisplay (t.vdisplay / 2) (t.vdisplay / 2) (t.vdisplay - t.vdisplay / 2) := by
  simp only [Mode.frame, bands, Frame.mk.injEq, and_true, true_and]
  omega

lemma frame_sideBySideHalf (t : Timing) : Mode.sideBySideHalf.frame t =
    (bands t.vdisplay (t.hdisplay / 2) (t.hdisplay / 2)
      (t.hdisplay - t.hdisplay / 2)).transpose := by
  simp only [Mode.frame, bands, Frame.transpose, Rect.transpose, Frame.mk.injEq, and_true]
  omega

lemma frame_framePacking (t : Timing) : Mode.framePacking.frame t =
    bands t.hdisplay t.vdisplay (t.vdisplay + (t.vtotal - t.vdisplay)) t.vdisplay := by
  simp only [Mode.frame, bands, Frame.mk.injEq, and_true, true_and]
  omega

lemma parted_frame (mode : Mode) (t : Timing) : (mode.frame t).Parted := by
  cases mode with
  | topAndBottom =>
      rw [frame_topAndBottom]
      exact bands_parted (Nat.le_refl _)
  | sideBySideHalf =>
      rw [frame_sideBySideHalf]
      exact (bands_parted (Nat.le_refl _)).transpose
  | framePacking =>
      rw [frame_framePacking]
      exact bands_parted (Nat.le_add_right ..)

lemma shares_frame (mode : Mode) (t : Timing) : mode.Shares t (mode.frame t) := by
  cases mode with
  | topAndBottom =>
      have halved : (Mode.topAndBottom.frame t).Halved := frame_topAndBottom t ▸ bands_halved
      refine ⟨rfl, rfl, halved, rfl, rfl, ?_⟩
      simp only [Mode.frame]
      omega
  | sideBySideHalf =>
      have halved : (Mode.sideBySideHalf.frame t).Halved :=
        frame_sideBySideHalf t ▸ bands_halved.transpose
      refine ⟨rfl, rfl, halved, rfl, rfl, ?_⟩
      simp only [Mode.frame]
      omega
  | framePacking =>
      refine ⟨rfl, rfl, ⟨rfl, rfl⟩, ⟨rfl, rfl⟩, ?_, fun x hx y hy => ?_⟩
      · simp only [Mode.frame]
        omega
      · rw [frame_framePacking] at hx hy ⊢
        refine (bands_blank hx hy).trans ?_
        simp only [bands]
        omega

/-- **The eyes share a frame.** The flags of a display mode that has a frame ask for one of the
stereo modes, whatever its size. Neither eye leaves the frame, no pixel belongs to both, and each
gets the share of the mode. Of the flags no bits count but those of the stereo mode. -/
theorem frame_shared (t : Timing) :
    (∀ fr, frame t = .ok fr → ∃ mode : Mode, mode.flags = t.flags &&& mask ∧ fr.Parted ∧
      mode.Shares t fr) ∧
    ∀ flags, flags &&& mask = t.flags &&& mask → frame { t with flags } = frame t := by
  constructor
  · intro fr h
    rw [frame] at h
    cases hmode : Mode.ofFlags t.flags with
    | error f => simp [hmode, bind, Except.bind] at h
    | ok mode =>
        rw [hmode] at h
        cases h
        exact ⟨mode, Mode.ofFlags_eq_ok.1 hmode, parted_frame mode t, shares_frame mode t⟩
  · intro flags h
    -- a mode does not look at the flags again
    have same : ∀ mode : Mode, mode.frame { t with flags } = mode.frame t := by
      intro mode
      cases mode <;> rfl
    rw [frame, frame, Mode.ofFlags, Mode.ofFlags]
    dsimp only
    rw [h]
    simp only [same]

/-- Pictures of three columns and two rows with two blank rows between them, by flags of which only
one bit speaks of stereo. -/
theorem frame_shared_packed :
    frame ⟨3, 2, 4, 0x4005⟩ = .ok ⟨3, 6, ⟨0, 0, 3, 2⟩, ⟨0, 4, 3, 2⟩⟩ ∧
      (∃ mode : Mode, mode.flags = 0x4005 &&& mask ∧
        Frame.Parted ⟨3, 6, ⟨0, 0, 3, 2⟩, ⟨0, 4, 3, 2⟩⟩ ∧
        mode.Shares ⟨3, 2, 4, 0x4005⟩ ⟨3, 6, ⟨0, 0, 3, 2⟩, ⟨0, 4, 3, 2⟩⟩) ∧
      0x4000 &&& mask = 0x4005 &&& mask ∧ frame ⟨3, 2, 4, 0x4000⟩ = frame ⟨3, 2, 4, 0x4005⟩ := by
  have computed : frame ⟨3, 2, 4, 0x4005⟩ = .ok ⟨3, 6, ⟨0, 0, 3, 2⟩, ⟨0, 4, 3, 2⟩⟩ := rfl
  have bits : 0x4000 &&& mask = 0x4005 &&& mask := by decide
  obtain ⟨shared, same⟩ := frame_shared ⟨3, 2, 4, 0x4005⟩
  exact ⟨computed, shared _ computed, bits, same 0x4000 bits⟩

end Stereo

end Scanout
