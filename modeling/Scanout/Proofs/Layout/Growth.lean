/-
A smaller image needs no more room.

* `Layout.fenced_below`: powers of two behind fence registers grow with the image;
* `Layout.compute_below`: the layouts of two images, one inside the other, side by side;
* `Layout.compute_mono`: **where an image can be laid out, a smaller one can be, and no measure of
  its layout is larger**; and where an image overflows, a larger one does.
-/
import Scanout.Proofs.Layout.Compare

namespace Scanout.Layout

variable {device : Device} {tiling : Tiling} {f : PixelFormat} {w w' height height' : Nat}

/-- An overflow, which is all that a larger image may meet and a smaller one need not. -/
def Overflows (e : Failure) : Prop :=
  e = .error .overflow

lemma overflows : Overflows (.error .overflow) :=
  rfl

/-- Powers of two behind fence registers grow with the image. -/
lemma fenced_below (hw : w ≤ w') (hh : height ≤ height')
    (hfenced : tiling ≠ .linear ∧ device.hasLegacyFences) :
    Checked.Below Overflows Within (packed device tiling f w height)
      (packed device tiling f w' height') := by
  unfold packed
  simp only [if_pos hfenced]
  refine (Checked.Below.same (Tile.of device tiling f.bpp)).bind fun _ _ _ => ?_
  refine (below_fit32 overflows (Nat.mul_le_mul_right _ hw)).bind fun row row' hrow => ?_
  refine (below_doubleTo overflows hrow).bind fun s s' hs => ?_
  refine (below_fit32 overflows (Nat.mul_le_mul hs hh)).bind fun least least' hleast => ?_
  refine (below_doubleTo overflows hleast).bind fun size size' hsize => ?_
  exact .done (within_single hs hsize)

/-- The layouts of two images that are not empty, one inside the other, side by side. -/
lemma compute_below (hw : 0 < w) (hww : w ≤ w') (hh : 0 < height) (hhh : height ≤ height') :
    Checked.Below Overflows Within (compute device w height f tiling)
      (compute device w' height' f tiling) := by
  have pixels : ¬(w = 0 ∨ height = 0) := by omega
  have pixels' : ¬(w' = 0 ∨ height' = 0) := by omega
  rw [compute, if_neg pixels, compute, if_neg pixels']
  split
  · exact planar_below overflows (Tile.below_self device tiling) hww hhh
  · by_cases hfenced : tiling ≠ .linear ∧ device.hasLegacyFences
    · exact fenced_below hww hhh hfenced
    · exact inTiles_below overflows (Tile.below_self device tiling) hww hhh hfenced hfenced

/-- **A smaller image needs no more room.** Where an image can be laid out, one that is no wider and
no higher, and not empty, can be laid out as well, and neither its stride nor its size nor the
beginning of any of its planes is larger. An image that overflows has only larger ones that overflow
too. -/
theorem compute_mono (hw : 0 < w) (hww : w ≤ w') (hh : 0 < height) (hhh : height ≤ height') :
    (∀ L', compute device w' height' f tiling = .ok L' →
      ∃ L, compute device w height f tiling = .ok L ∧ L.stride ≤ L'.stride ∧ L.size ≤ L'.size ∧
        ∀ plane, L.offset plane ≤ L'.offset plane) ∧
    (compute device w height f tiling = Checked.fail .overflow →
      compute device w' height' f tiling = Checked.fail .overflow) := by
  have below : Checked.Below Overflows Within (compute device w height f tiling)
      (compute device w' height' f tiling) := compute_below hw hww hh hhh
  refine ⟨fun L' hL' => ?_, fun hover => ?_⟩
  · rw [hL'] at below
    obtain ⟨L, hL, hle⟩ := below.exists_ok
    exact ⟨L, hL, hle.stride, hle.size, hle.offset⟩
  · rw [hover] at below
    obtain ⟨e, he, rfl | rfl⟩ := below.exists_error
    · exact he
    · exact he

/-- A seventh of the rows behind fence registers: the stride stays, and the size falls to its floor.
And an image of four gibibytes, which is the least that does not fit, with a few rows more. -/
theorem compute_mono_fenced :
    (compute .i915 1100 700 .xrgb8888 .x = .ok ⟨8192, 8388608, #v[0, 0, 0, 0]⟩ ∧
      ∃ L, compute .i915 1100 100 .xrgb8888 .x = .ok L ∧ L.stride ≤ 8192 ∧ L.size ≤ 8388608 ∧
        ∀ plane, L.offset plane ≤ offset ⟨8192, 8388608, #v[0, 0, 0, 0]⟩ plane) ∧
    compute .standard 16384 65536 .xrgb8888 .linear = Checked.fail .overflow ∧
      compute .standard 16384 65540 .xrgb8888 .linear = Checked.fail .overflow := by
  have larger : compute .i915 1100 700 .xrgb8888 .x = .ok ⟨8192, 8388608, #v[0, 0, 0, 0]⟩ := by
    cbv
  have full : compute .standard 16384 65536 .xrgb8888 .linear = Checked.fail .overflow := rfl
  exact ⟨⟨larger, (compute_mono (by decide) (Nat.le_refl 1100) (by decide)
      (by decide : 100 ≤ 700)).1 _ larger⟩,
    full, (compute_mono (by decide) (Nat.le_refl 16384) (by decide)
      (by decide : 65536 ≤ 65540)).2 full⟩

end Scanout.Layout
