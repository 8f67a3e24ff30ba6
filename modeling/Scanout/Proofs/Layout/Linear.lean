/-
A linear copy of an image that is laid out can be laid out.

Every tile is as wide as some units of a linear row, and at least one row high, and the strides that
fence registers ask for are whole units as well. None of this depends on the device that the copy is
for.

* `Tile.below_linear`: a unit of a linear row divides every tile;
* `Layout.fenced_linear`: rows need no more room than the powers of two of fence registers;
* `Layout.below_linear`: the layout in rows and the layout in some tiling, side by side;
* `Layout.linear_fits`: **where an image can be laid out in some tiling, it can be laid out in
  rows, and takes no more room**.
-/
import Scanout.Proofs.Layout.Compare

namespace Scanout

variable {device device' : Device} {tiling : Tiling} {f : PixelFormat} {w height : Nat} {L : Layout}

/-- A tile is as wide as some units of a linear row. -/
lemma Tile.dvd_width {bpp : Nat} {tile : Tile} (h : Tile.of device tiling bpp = .ok tile) :
    64 ∣ tile.width := by
  have h := Tile.of_eq_ok.1 h
  cases tiling <;> simp only [Tile.of?] at h
  case linear => cases h; decide
  case x => split at h <;> cases h <;> decide
  case y => split at h <;> cases h <;> decide
  case yf =>
    obtain ⟨c, -, rfl⟩ := Option.map_eq_some_iff.1 h
    cases c <;> decide

/-- A unit of a linear row divides every tile. -/
lemma Tile.below_linear (device' device : Device) (tiling : Tiling) (bpp : Nat) :
    Checked.Below (fun _ => True) Divides (Tile.of device' .linear bpp)
      (Tile.of device tiling bpp) := by
  refine .of_ok fun tile h => ?_
  obtain ⟨hw, hh⟩ := Tile.pos_of_of? (Tile.of_eq_ok.1 h)
  exact ⟨⟨64, 1⟩, rfl, Tile.dvd_width h, Nat.one_dvd _, hw, hh⟩

/-- Below a multiple there is room for what it is a multiple of. -/
lemma exists_alignUp {align m n : Nat} (hpos : 0 < align) (hd : align ∣ m) (hn : n ≤ m)
    (hm : m < 0x100000000) : ∃ k, alignUp n align = .ok k ∧ k ≤ m := by
  have hle := roundUp_le_of_dvd hpos hd hn
  exact ⟨_, alignUp_eq_ok.2 ⟨hpos, Nat.lt_of_le_of_lt hle hm, rfl⟩, hle⟩

namespace Layout

/-- Rows need no more room than the powers of two of fence registers. -/
lemma fenced_linear (hfenced : tiling ≠ .linear ∧ device.hasLegacyFences)
    (h : packed device tiling f w height = .ok L) :
    ∃ L', packed device' .linear f w height = .ok L' ∧ L'.Within L := by
  obtain ⟨tile, htile, row, hrow, stride, size, rfl, hsizes⟩ := packed_eq_ok.1 h
  rw [if_pos hfenced] at hsizes
  obtain ⟨hstride, least, hleast, hsize⟩ := hsizes
  -- the stride is whole units of a linear row, and the size holds all rows
  obtain ⟨hle, hfloor, hdvd, hs⟩ := doubleTo_spec hstride
  obtain ⟨hlt, rfl⟩ := fit32_eq_ok.1 hleast
  obtain ⟨hin, -, -, hfits⟩ := doubleTo_spec hsize
  have hpos : 0 < stride := Nat.lt_of_lt_of_le (by decide) hfloor
  have hunits : 64 ∣ stride := Nat.dvd_trans (by decide) hdvd
  have hheight : height < 0x100000000 :=
    Nat.lt_of_le_of_lt (Nat.le_mul_of_pos_left height hpos) hlt
  obtain ⟨stride', hs', hs'le⟩ := exists_alignUp (by decide : 0 < 64) hunits hle
    (hs.elim (fun he => he ▸ by decide) id)
  obtain ⟨rows', hr', hr'le⟩ := exists_alignUp Nat.one_pos (Nat.one_dvd _) (Nat.le_refl height)
    hheight
  have hsize' : rows' * stride' ≤ size := by
    calc
      _ ≤ height * stride := Nat.mul_le_mul hr'le hs'le
      _ = stride * height := Nat.mul_comm height stride
      _ ≤ size := hin
  have hsizelt : size < 0x100000000 := hfits.elim (fun he => he ▸ by decide) id
  refine ⟨⟨stride', rows' * stride', Vector.replicate _ 0⟩,
    packed_eq_ok.2 ⟨⟨64, 1⟩, rfl, row, hrow, stride', _, rfl, ?_⟩, within_single hs'le hsize'⟩
  rw [if_neg fun hl => hl.1 rfl]
  exact ⟨hs', rows', hr', fit32_eq_ok.2 ⟨Nat.lt_of_le_of_lt hsize' hsizelt, rfl⟩⟩

lemma packed_below_linear : Checked.Below (fun _ => True) Within
    (packed device' .linear f w height) (packed device tiling f w height) := by
  by_cases hfenced : tiling ≠ .linear ∧ device.hasLegacyFences
  · exact .of_ok fun _ h => fenced_linear hfenced h
  · exact inTiles_below trivial (Tile.below_linear device' device tiling) (Nat.le_refl w)
      (Nat.le_refl height) (fun hl => hl.1 rfl) hfenced

/-- The layout in rows and the layout in some tiling, side by side. -/
lemma below_linear (device' device : Device) (tiling : Tiling) (f : PixelFormat) (w height : Nat) :
    Checked.Below (fun _ => True) Within (compute device' w height f .linear)
      (compute device w height f tiling) := by
  unfold compute
  split
  · exact .failed _
  split
  · exact planar_below trivial (Tile.below_linear device' device tiling) (Nat.le_refl w)
      (Nat.le_refl height)
  · exact packed_below_linear

/-- Where an image is laid out in some tiling, there is a layout in rows. -/
lemma exists_linear (h : compute device w height f tiling = .ok L) :
    ∃ L', compute device w height f .linear = .ok L' := by
  obtain ⟨L', hL', -⟩ := (h ▸ below_linear device device tiling f w height).exists_ok
  exact ⟨L', hL'⟩

/-- **Rows always fit.** Where an image can be laid out in some tiling, behind fence registers or
not, it can be laid out in rows, on the same device and on every other one, and neither the stride
nor the size nor the beginning of any plane is larger. -/
theorem linear_fits (h : compute device w height f tiling = .ok L) (device' : Device) :
    ∃ L', compute device' w height f .linear = .ok L' ∧ L'.stride ≤ L.stride ∧ L'.size ≤ L.size ∧
      ∀ plane, L'.offset plane ≤ L.offset plane := by
  have below := below_linear device' device tiling f w height
  rw [h] at below
  obtain ⟨L', hL', hle⟩ := below.exists_ok
  exact ⟨L', hL', hle.stride, hle.size, hle.offset⟩

/-- Two planes whose tiles differ, and packed pixels whose buffer is filled up to a power of two. -/
theorem linear_fits_uneven :
    (compute .standard 9 9 .nv12 .yf = .ok ⟨128, 12288, #v[0, 8192, 0, 0]⟩ ∧
      ∃ L', compute .standard 9 9 .nv12 .linear = .ok L' ∧ L'.stride ≤ 128 ∧ L'.size ≤ 12288 ∧
        ∀ plane, L'.offset plane ≤ offset ⟨128, 12288, #v[0, 8192, 0, 0]⟩ plane) ∧
    (compute .i915 1100 700 .xrgb8888 .x = .ok ⟨8192, 8388608, #v[0, 0, 0, 0]⟩ ∧
      ∃ L', compute .i915 1100 700 .xrgb8888 .linear = .ok L' ∧ L'.stride ≤ 8192 ∧
        L'.size ≤ 8388608 ∧
        ∀ plane, L'.offset plane ≤ offset ⟨8192, 8388608, #v[0, 0, 0, 0]⟩ plane) := by
  have planes : compute .standard 9 9 .nv12 .yf = .ok ⟨128, 12288, #v[0, 8192, 0, 0]⟩ := rfl
  have fenced : compute .i915 1100 700 .xrgb8888 .x = .ok ⟨8192, 8388608, #v[0, 0, 0, 0]⟩ := by
    cbv
  exact ⟨⟨planes, linear_fits planes .standard⟩, fenced, linear_fits fenced .i915⟩

end Layout

end Scanout
