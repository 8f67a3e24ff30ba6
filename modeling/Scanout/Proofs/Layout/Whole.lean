/-
Layouts are made of whole tiles.

The tiles of one tiling are nested, the wider ones being as much lower, and wider tiles belong to
larger pixels. So the widest stride is that of a plane whose tile is widest, even where that plane
has half the columns.

* `Tile.area`, `Tile.area_eq`: all tiles of one tiling hold the same number of bytes;
* `Tile.nested`: of two tiles of one tiling one is as wide as some of the other, and if it is
  wider, its pixels have at least twice the bytes;
* `Layout.dvd_widestStride`: **the widest stride is whole tiles of every plane**;
* `Layout.stack_adds`: a plane takes up the stride times its rows, filled up to whole tiles;
* `Layout.compute_whole_tiles`: **strides, offsets and sizes are whole tiles of every plane**.
-/
import Scanout.Proofs.Layout.Compare

namespace Scanout

variable {device : Device} {tiling : Tiling} {bpp bpp' : Nat} {tile tile' : Tile}

namespace Tile

/-- The bytes of a tile. -/
def area (tile : Tile) : Nat :=
  tile.width * tile.height

/-- All tiles of one tiling hold the same number of bytes. -/
lemma area_eq (h : of? device tiling bpp = some tile) (h' : of? device tiling bpp' = some tile') :
    tile'.area = tile.area := by
  cases tiling <;> simp only [of?] at h h'
  case linear => cases h; cases h'; rfl
  case x => rw [h] at h'; cases h'; rfl
  case y => rw [h] at h'; cases h'; rfl
  case yf =>
    obtain ⟨c, -, rfl⟩ := Option.map_eq_some_iff.1 h
    obtain ⟨c', -, rfl⟩ := Option.map_eq_some_iff.1 h'
    cases c <;> cases c' <;> rfl

/-- The bytes of a pixel of a group: at most half as many as those of the next group. -/
lemma bytes_of_class {c : BppClass} (h : BppClass.of? bpp = some c) :
    match c with
    | .bpp8 => bpp / 8 = 1
    | .bpp16To32 => 2 ≤ bpp / 8 ∧ bpp / 8 ≤ 4
    | .bpp64To128 => 8 ≤ bpp / 8 := by
  unfold BppClass.of? at h
  split at h <;> cases h <;> decide

/-- Of two tiles of one tiling the first is as wide as some of the second; or else the second is as
wide as some of the first, and its pixels have at least twice the bytes. -/
lemma nested (h : of? device tiling bpp = some tile) (h' : of? device tiling bpp' = some tile') :
    tile'.width ∣ tile.width ∨ tile.width ∣ tile'.width ∧ 2 * (bpp / 8) ≤ bpp' / 8 := by
  cases tiling <;> simp only [of?] at h h'
  case linear => cases h; cases h'; exact .inl (Nat.dvd_refl _)
  case x => rw [h] at h'; cases h'; exact .inl (Nat.dvd_refl _)
  case y => rw [h] at h'; cases h'; exact .inl (Nat.dvd_refl _)
  case yf =>
    obtain ⟨c, hc, rfl⟩ := Option.map_eq_some_iff.1 h
    obtain ⟨c', hc', rfl⟩ := Option.map_eq_some_iff.1 h'
    have hbytes := bytes_of_class hc
    have hbytes' := bytes_of_class hc'
    cases c <;> cases c' <;> dsimp only at hbytes hbytes' ⊢
    case bpp8.bpp16To32 => exact .inr ⟨by decide, by omega⟩
    case bpp8.bpp64To128 => exact .inr ⟨by decide, by omega⟩
    case bpp16To32.bpp64To128 => exact .inr ⟨by decide, by omega⟩
    all_goals exact .inl (by decide)

end Tile

namespace Layout

variable {f : PixelFormat} {w height n plane stride s s' p q rows : Nat} {L L' : Layout}

/-! ### Strides -/

/-- The widest stride is that of a plane, if there is any. -/
lemma widestStride_attained (h : widestStride device tiling f w n plane stride = .ok s) :
    s = stride ∨ ∃ p, plane ≤ p ∧ p < plane + n ∧ planeStride device tiling f w p = .ok s := by
  induction n generalizing plane stride with
  | zero =>
      cases h
      exact .inl rfl
  | succ n ih =>
      obtain ⟨own, hown, h⟩ := Checked.bind_eq_ok.1 h
      rcases ih h with hs | ⟨p, hp, hlt, hs⟩
      · by_cases hle : own ≤ stride
        · exact .inl (by omega)
        · exact .inr ⟨plane, Nat.le_refl _, by omega, by rw [hown]; congr 1; omega⟩
      · exact .inr ⟨p, by omega, by omega, hs⟩

/-- The row of a plane has no more bytes than that of a plane whose pixels have twice as many, even
where that one has half the columns. -/
lemma row_le_of_double (h : 2 * (bpp / 8) ≤ bpp' / 8) :
    Plane.width f w p * (bpp / 8) ≤ Plane.width f w q * (bpp' / 8) := by
  have hp : Plane.width f w p ≤ w := by
    rw [Plane.width, halfUp]
    split <;> omega
  have hq : w ≤ Plane.width f w q * 2 := by
    rw [Plane.width, halfUp]
    split <;> omega
  calc
    _ ≤ Plane.width f w q * 2 * (bpp / 8) := Nat.mul_le_mul_right _ (Nat.le_trans hp hq)
    _ = Plane.width f w q * (2 * (bpp / 8)) := Nat.mul_assoc ..
    _ ≤ Plane.width f w q * (bpp' / 8) := Nat.mul_le_mul_left _ h

/-- A plane whose stride is at least that of another one has whole tiles of that one too. -/
lemma dvd_of_planeStride_le (hbpp : f.planeBpp? p = some bpp)
    (htile : Tile.of? device tiling bpp = some tile)
    (hp : planeStride device tiling f w p = .ok s') (hq : planeStride device tiling f w q = .ok s)
    (hle : s' ≤ s) : tile.width ∣ s := by
  obtain ⟨_, hbpp₁, _, htile₁, row, hrow, hs'⟩ := planeStride_eq_ok.1 hp
  cases hbpp.symm.trans hbpp₁
  cases htile.symm.trans (Tile.of_eq_ok.1 htile₁)
  obtain ⟨bpp', hbpp', tile', htile', row', hrow', hs⟩ := planeStride_eq_ok.1 hq
  obtain ⟨hpos, -, rfl⟩ := alignUp_eq_ok.1 hs'
  obtain ⟨-, -, rfl⟩ := alignUp_eq_ok.1 hs
  rcases Tile.nested (Tile.of_eq_ok.1 htile') htile with hd | ⟨hd, hbytes⟩
  · exact Nat.dvd_trans hd (dvd_roundUp row' tile'.width)
  · -- the other plane has the wider tile, and so no smaller stride: the two are the same
    obtain ⟨_, hb, -, rfl⟩ := Plane.rowBytes_eq_ok.1 hrow
    cases hbpp.symm.trans hb
    obtain ⟨_, hb', -, rfl⟩ := Plane.rowBytes_eq_ok.1 hrow'
    cases hbpp'.symm.trans hb'
    have hge := roundUp_mono hpos hd (row_le_of_double (f := f) (w := w) (p := q) (q := p) hbytes)
    rw [Nat.le_antisymm hge hle]
    exact dvd_roundUp _ _

/-- **The widest stride is whole tiles of every plane.** -/
lemma dvd_widestStride (h : widestStride device tiling f w f.numPlanes 0 0 = .ok s)
    (hp : p < f.numPlanes) (hbpp : f.planeBpp? p = some bpp)
    (htile : Tile.of? device tiling bpp = some tile) : tile.width ∣ s := by
  obtain ⟨-, hwide⟩ := widestStride_spec h
  obtain ⟨own, hown, hle⟩ := hwide p (Nat.zero_le p) (by omega)
  rcases widestStride_attained h with rfl | ⟨q, -, -, hq⟩
  · exact Nat.dvd_zero _
  · exact dvd_of_planeStride_le hbpp htile hown hq hle

/-! ### Planes -/

/-- A plane ends where the next one begins, and the last one where the buffer ends. -/
def stop (L : Layout) (f : PixelFormat) (plane : Nat) : Nat :=
  if plane + 1 < f.numPlanes then L.offset (plane + 1) else L.size

/-- A plane takes up the stride times its rows, filled up to whole tiles. -/
lemma stack_adds (hf : f.isPlanar) (h : stack device tiling f height n plane L = .ok L') :
    ∀ p, plane ≤ p → p < plane + n → ∃ rows, planeRows device tiling f height p = .ok rows ∧
      (if p + 1 < plane + n then L'.offset (p + 1) else L'.size) =
        L'.offset p + L'.stride * rows := by
  induction n generalizing plane L with
  | zero => intro p hp hlt; omega
  | succ n ih =>
      intro p hp hlt
      obtain ⟨hstride, -, -, -, hhere, -⟩ := stack_spec hf h
      obtain ⟨rows, hrows, h⟩ := Checked.bind_eq_ok.1 h
      obtain ⟨bytes, hbytes, h⟩ := Checked.bind_eq_ok.1 h
      obtain ⟨size, hsize, h⟩ := Checked.bind_eq_ok.1 h
      obtain ⟨-, rfl⟩ := fit32_eq_ok.1 hbytes
      obtain ⟨-, rfl⟩ := fit32_eq_ok.1 hsize
      -- the plane that was just put there ends where the next one begins, if there is one
      by_cases heq : p = plane
      · subst heq
        refine ⟨rows, hrows, ?_⟩
        rw [hhere (Nat.succ_pos n), hstride]
        cases n with
        | zero =>
            cases h
            rw [if_neg (by omega)]
        | succ n =>
            obtain ⟨-, -, -, -, hnext, -⟩ := stack_spec hf h
            rw [if_pos (by omega), hnext (Nat.succ_pos n)]
      · obtain ⟨rows', hrows', hadds⟩ := ih h p (by omega) (by omega)
        rw [show plane + 1 + n = plane + (n + 1) by omega] at hadds
        exact ⟨rows', hrows', hadds⟩

/-- The planes of several are laid out in whole tiles. -/
lemma whole_planar (hf : f.isPlanar) (h : planar device tiling f w height = .ok L)
    (hp : p < f.numPlanes) (hbpp : f.planeBpp? p = some bpp)
    (htile : Tile.of? device tiling bpp = some tile) :
    tile.width ∣ L.stride ∧ tile.area ∣ L.size ∧ (∀ q < f.numPlanes, tile.area ∣ L.offset q) ∧
      ∃ rows, tile.height ∣ rows ∧ L.stop f p = L.offset p + L.stride * rows := by
  have sound := sound_planar hf h
  obtain ⟨stride, hstride, h⟩ := Checked.bind_eq_ok.1 h
  obtain ⟨hsame, -⟩ := stack_spec hf h
  dsimp only at hsame
  have adds : ∀ q < f.numPlanes, ∃ rows, planeRows device tiling f height q = .ok rows ∧
      L.stop f q = L.offset q + L.stride * rows := fun q hq => by
    obtain ⟨rows, hrows, hadds⟩ := stack_adds hf h q (Nat.zero_le q) (by omega)
    rw [Nat.zero_add] at hadds
    exact ⟨rows, hrows, hadds⟩
  -- the widest row of all planes is whole tiles of each
  have wide : ∀ {q bpp : Nat} {tile : Tile}, q < f.numPlanes → f.planeBpp? q = some bpp →
      Tile.of? device tiling bpp = some tile → tile.width ∣ L.stride := by
    intro q bpp tile hq hbpp htile
    rw [hsame]
    exact dvd_widestStride hstride hq hbpp htile
  -- what a plane takes up is whole tiles of its own, which are as large as those of any other
  have step : ∀ q < f.numPlanes, tile.area ∣ L.offset q → tile.area ∣ L.stop f q := by
    intro q hq hd
    obtain ⟨rows, hrows, hadds⟩ := adds q hq
    obtain ⟨bpp', hbpp', tile', htile', hrows⟩ := planeRows_eq_ok.1 hrows
    have htile' := Tile.of_eq_ok.1 htile'
    obtain ⟨-, -, rfl⟩ := alignUp_eq_ok.1 hrows
    rw [hadds, ← Tile.area_eq htile htile']
    exact Nat.dvd_add (Tile.area_eq htile htile' ▸ hd)
      (Nat.mul_dvd_mul (wide hq hbpp' htile') (dvd_roundUp _ _))
  have offsets : ∀ q < f.numPlanes, tile.area ∣ L.offset q := by
    intro q hq
    induction q with
    | zero => rw [sound.first]; exact Nat.dvd_zero _
    | succ q ih =>
        have := step q (by omega) (ih (by omega))
        rwa [stop, if_pos hq] at this
  refine ⟨wide hp hbpp htile, ?_, offsets, ?_⟩
  · have := step (f.numPlanes - 1) (by omega) (offsets _ (by omega))
    rwa [stop, if_neg (by omega)] at this
  · obtain ⟨rows, hrows, hadds⟩ := adds p hp
    obtain ⟨_, hb, _, ht, hrows⟩ := planeRows_eq_ok.1 hrows
    cases hbpp.symm.trans hb
    cases htile.symm.trans (Tile.of_eq_ok.1 ht)
    obtain ⟨-, -, rfl⟩ := alignUp_eq_ok.1 hrows
    exact ⟨_, dvd_roundUp _ _, hadds⟩

/-! ### Packed pixels -/

/-- Every tile of a tiled buffer fits a whole number of times into the smallest stride and the
smallest size behind fence registers. -/
lemma whole_floors (htile : Tile.of? device tiling bpp = some tile) :
    tile.width ∣ legacyStrideFloor ∧ tile.area ∣ legacySizeFloor := by
  cases tiling <;> simp only [Tile.of?] at htile
  case linear => cases htile; decide
  case x => split at htile <;> cases htile <;> decide
  case y => split at htile <;> cases htile <;> decide
  case yf =>
    obtain ⟨c, -, rfl⟩ := Option.map_eq_some_iff.1 htile
    cases c <;> decide

/-- Packed pixels are laid out in whole tiles, and rows of them where there are no fence registers.
-/
lemma whole_packed (hf : ¬f.isPlanar) (h : packed device tiling f w height = .ok L)
    (htile : Tile.of? device tiling f.bpp = some tile) :
    tile.width ∣ L.stride ∧ tile.area ∣ L.size ∧ (∀ q, tile.area ∣ L.offset q) ∧
      (¬(tiling ≠ .linear ∧ device.hasLegacyFences) →
        ∃ rows, tile.height ∣ rows ∧ L.stop f 0 = L.offset 0 + L.stride * rows) := by
  obtain ⟨_, ht, row, -, stride, size, rfl, hsizes⟩ := packed_eq_ok.1 h
  cases htile.symm.trans (Tile.of_eq_ok.1 ht)
  have offsets : ∀ q, tile.area ∣ offset ⟨stride, size, Vector.replicate _ 0⟩ q := fun q => by
    rw [offset_replicate]
    exact Nat.dvd_zero _
  split at hsizes
  · next hfenced =>
    obtain ⟨hstride, least, -, hsize⟩ := hsizes
    -- doublings of the floors, which are whole tiles
    obtain ⟨hwidth, harea⟩ := whole_floors htile
    obtain ⟨-, -, hd, -⟩ := doubleTo_spec hstride
    obtain ⟨-, -, hd', -⟩ := doubleTo_spec hsize
    exact ⟨Nat.dvd_trans hwidth hd, Nat.dvd_trans harea hd', offsets, fun hn => absurd hfenced hn⟩
  · obtain ⟨hstride, rows, hrows, hsize⟩ := hsizes
    obtain ⟨-, -, rfl⟩ := alignUp_eq_ok.1 hstride
    obtain ⟨-, -, rfl⟩ := alignUp_eq_ok.1 hrows
    obtain ⟨-, rfl⟩ := fit32_eq_ok.1 hsize
    have hn := numPlanes_of_packed hf
    refine ⟨dvd_roundUp _ _, ?_, offsets, fun _ => ⟨_, dvd_roundUp height tile.height, ?_⟩⟩
    · rw [Tile.area, Nat.mul_comm]
      exact Nat.mul_dvd_mul (dvd_roundUp _ _) (dvd_roundUp _ _)
    · rw [stop, if_neg (by omega), offset_replicate, Nat.zero_add, Nat.mul_comm]

/-- **Layouts are made of whole tiles.** Every plane has a tile. The stride is whole tiles of it
across, and the size and the beginnings of all planes are whole tiles of it; and except behind
fence registers a plane ends the stride times whole tiles of rows behind its beginning. -/
theorem compute_whole_tiles (h : compute device w height f tiling = .ok L) :
    ∀ plane < f.numPlanes, ∃ bpp tile, f.planeBpp? plane = some bpp ∧
      Tile.of? device tiling bpp = some tile ∧ tile.width ∣ L.stride ∧
      tile.width * tile.height ∣ L.size ∧
      (∀ q < f.numPlanes, tile.width * tile.height ∣ L.offset q) ∧
      (f.isPlanar ∨ tiling = .linear ∨ 3 < device.gen →
        ∃ rows, tile.height ∣ rows ∧
          (if plane + 1 < f.numPlanes then L.offset (plane + 1) else L.size) =
            L.offset plane + L.stride * rows) := by
  intro plane hp
  obtain ⟨-, -, h⟩ := compute_eq_ok.1 h
  split at h
  · next hf =>
    obtain ⟨stride, hstride, -⟩ := Checked.bind_eq_ok.1 h
    obtain ⟨own, hown, -⟩ := (widestStride_spec hstride).2 plane (Nat.zero_le _) (by omega)
    obtain ⟨bpp, hbpp, tile, htile, -⟩ := planeStride_eq_ok.1 hown
    have htile := Tile.of_eq_ok.1 htile
    obtain ⟨hwidth, hsize, hoffsets, hrows⟩ := whole_planar hf h hp hbpp htile
    exact ⟨bpp, tile, hbpp, htile, hwidth, hsize, hoffsets, fun _ => hrows⟩
  · next hf =>
    obtain ⟨tile, htile, -⟩ := packed_eq_ok.1 h
    have htile := Tile.of_eq_ok.1 htile
    obtain ⟨hwidth, hsize, hoffsets, hrows⟩ := whole_packed hf h htile
    obtain rfl : plane = 0 := by
      have := numPlanes_of_packed hf
      omega
    refine ⟨f.bpp, tile, if_neg hf, htile, hwidth, hsize, fun q _ => hoffsets q, fun hfree => ?_⟩
    -- fences are legacy before the fourth generation, and stand before tiles only
    refine hrows fun ⟨htiled, hlegacy⟩ => ?_
    rcases hfree with hplanar | hlinear | hgen
    · exact hf hplanar
    · exact htiled hlinear
    · have : device.gen ≤ 3 := decide_eq_true_iff.1 hlegacy
      omega

/-- Luma in tiles of sixty-four bytes by sixty-four rows, and chroma in tiles twice as wide and half
as high. -/
theorem compute_whole_tiles_uneven :
    compute .standard 9 9 .nv12 .yf = .ok ⟨128, 12288, #v[0, 8192, 0, 0]⟩ ∧
      ∃ bpp tile, PixelFormat.nv12.planeBpp? 1 = some bpp ∧
        Tile.of? .standard .yf bpp = some tile ∧ tile.width ∣ 128 ∧
        tile.width * tile.height ∣ 12288 ∧
        ∃ rows, tile.height ∣ rows ∧ 12288 = 8192 + 128 * rows := by
  have computed : compute .standard 9 9 .nv12 .yf = .ok ⟨128, 12288, #v[0, 8192, 0, 0]⟩ := rfl
  obtain ⟨bpp, tile, hbpp, htile, hwidth, hsize, -, hrows⟩ :=
    compute_whole_tiles computed 1 (by decide)
  exact ⟨computed, bpp, tile, hbpp, htile, hwidth, hsize, hrows (.inl rfl)⟩

end Layout

end Scanout
