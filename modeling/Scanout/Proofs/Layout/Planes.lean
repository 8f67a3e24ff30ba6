/-
Planes lie apart from each other and inside the buffer.

* `Layout.Sound`: the rows of every plane fit into the stride, every plane ends before the next one
  begins, and the last one ends in the buffer;
* `Layout.widestStride_spec`, `Layout.stack_spec`: what the two passes over the planes ensure, from
  any plane on;
* `Layout.sound_of_compute`: **every layout that is computed is sound**;
* `Layout.planes_inside`: **the last row of every plane ends before the next plane begins**, or
  before the buffer ends.
-/
import Scanout.Layout
import Mathlib.Tactic.Lemma

namespace Scanout

variable {α β : Type}

lemma Checked.bind_eq_ok {x : Checked α} {f : α → Checked β} {b : β} :
    (x >>= f) = .ok b ↔ ∃ a, x = .ok a ∧ f a = .ok b := by
  cases x with
  | ok a => exact ⟨fun h => ⟨a, rfl, h⟩, fun ⟨_, ha, h⟩ => (Except.ok.inj ha) ▸ h⟩
  | error f => exact ⟨nofun, fun ⟨_, ha, _⟩ => nomatch ha⟩

lemma Checked.need_eq_ok {o : Option α} {a : α} : Checked.need o = .ok a ↔ o = some a := by
  cases o with
  | none => exact ⟨nofun, nofun⟩
  | some b =>
      exact ⟨fun h => congrArg some (Except.ok.inj h), fun h => congrArg _ (Option.some.inj h)⟩

lemma alignUp_eq_ok {n align m : Nat} :
    alignUp n align = .ok m ↔ 0 < align ∧ roundUp n align < 0x100000000 ∧ roundUp n align = m := by
  rw [alignUp]
  split
  · next h => simp only [reduceCtorEq, h, Nat.lt_irrefl, false_and]
  · next h => rw [fit32_eq_ok]; simp only [Nat.pos_of_ne_zero h, true_and]

/-- A doubling reaches its goal and is a multiple of what was doubled. -/
lemma doubleTo_spec {goal value m : Nat} {pos : 0 < value} (h : doubleTo goal value pos = .ok m) :
    goal ≤ m ∧ value ≤ m ∧ value ∣ m ∧ (m = value ∨ m < 0x100000000) := by
  induction value, pos using doubleTo.induct goal with
  | case1 value pos hle =>
      rw [doubleTo, if_pos hle] at h
      cases h
      exact ⟨hle, Nat.le_refl _, Nat.dvd_refl _, .inl rfl⟩
  | case2 value pos hlt hfit ih =>
      rw [doubleTo, if_neg hlt, dif_pos hfit] at h
      obtain ⟨hgoal, hle, hdvd, hsize⟩ := ih h
      exact ⟨hgoal, by omega, Nat.dvd_trans (Nat.dvd_mul_left value 2) hdvd,
        .inr (hsize.elim (fun he => he ▸ hfit) id)⟩
  | case3 value pos hlt hfit =>
      rw [doubleTo, if_neg hlt, dif_neg hfit] at h
      cases h

lemma Tile.of_eq_ok {device : Device} {tiling : Tiling} {bpp : Nat} {tile : Tile} :
    Tile.of device tiling bpp = .ok tile ↔ Tile.of? device tiling bpp = some tile := by
  rw [Tile.of]
  cases Tile.of? device tiling bpp with
  | none => exact ⟨nofun, nofun⟩
  | some t =>
      exact ⟨fun h => congrArg some (Except.ok.inj h), fun h => congrArg _ (Option.some.inj h)⟩

lemma Plane.rowBytes_eq_ok {f : PixelFormat} {w plane row : Nat} :
    Plane.rowBytes f w plane = .ok row ↔
      ∃ bpp, f.planeBpp? plane = some bpp ∧ Plane.width f w plane * (bpp / 8) < 0x100000000 ∧
        Plane.width f w plane * (bpp / 8) = row := by
  simp only [Plane.rowBytes, Checked.bind_eq_ok, Checked.need_eq_ok, fit32_eq_ok]

namespace Layout

variable {device : Device} {tiling : Tiling} {f : PixelFormat} {w height n plane stride s : Nat}
  {L L' : Layout}

/-- The planes of an image lie apart from each other and inside the buffer. -/
structure Sound (L : Layout) (f : PixelFormat) (w height : Nat) : Prop where
  row : ∀ plane < f.numPlanes, ∃ row, Plane.rowBytes f w plane = .ok row ∧ row ≤ L.stride
  first : L.offset 0 = 0
  inside : ∀ plane < f.numPlanes, L.offset plane + Plane.height f height plane * L.stride ≤ L.size
  apart : ∀ p q, p < q → q < f.numPlanes →
    L.offset p + Plane.height f height p * L.stride ≤ L.offset q
  size : L.size < 0x100000000
  planes : f.numPlanes ≤ maxPlanes

/-- There is room for the beginnings of four planes. -/
lemma getElem?_offsets (hp : plane < maxPlanes) : L.offsets[plane]? = some (L.offset plane) := by
  rw [offset, Vector.getElem?_eq_getElem hp, Option.getD_some]

/-- In place of the beginnings of planes that do not exist there are zeros. -/
lemma offset_replicate {size : Nat} : offset ⟨stride, size, Vector.replicate _ 0⟩ plane = 0 := by
  rw [offset]
  by_cases hp : plane < maxPlanes
  · rw [Vector.getElem?_eq_getElem hp, Vector.getElem_replicate, Option.getD_some]
  · rw [Vector.getElem?_eq_none (Nat.le_of_not_lt hp), Option.getD_none]

lemma planeStride_eq_ok : planeStride device tiling f w plane = .ok s ↔
    ∃ bpp, f.planeBpp? plane = some bpp ∧ ∃ tile, Tile.of device tiling bpp = .ok tile ∧
      ∃ row, Plane.rowBytes f w plane = .ok row ∧ alignUp row tile.width = .ok s := by
  simp only [planeStride, Checked.bind_eq_ok, Checked.need_eq_ok]

lemma planeRows_eq_ok {rows : Nat} : planeRows device tiling f height plane = .ok rows ↔
    ∃ bpp, f.planeBpp? plane = some bpp ∧ ∃ tile, Tile.of device tiling bpp = .ok tile ∧
      alignUp (Plane.height f height plane) tile.height = .ok rows := by
  simp only [planeRows, Checked.bind_eq_ok, Checked.need_eq_ok]

/-- A plane takes up at least its own rows. -/
lemma height_le_planeRows {rows : Nat} (h : planeRows device tiling f height plane = .ok rows) :
    Plane.height f height plane ≤ rows := by
  obtain ⟨bpp, -, tile, -, h⟩ := planeRows_eq_ok.1 h
  obtain ⟨hpos, -, rfl⟩ := alignUp_eq_ok.1 h
  exact le_roundUp hpos _

/-- The stride of a plane holds its row. -/
lemma row_le_planeStride (h : planeStride device tiling f w plane = .ok s) :
    ∃ row, Plane.rowBytes f w plane = .ok row ∧ row ≤ s := by
  obtain ⟨bpp, -, tile, -, row, hrow, h⟩ := planeStride_eq_ok.1 h
  obtain ⟨hpos, -, rfl⟩ := alignUp_eq_ok.1 h
  exact ⟨row, hrow, le_roundUp hpos _⟩

/-- The widest stride is at least that of every plane. -/
lemma widestStride_spec (h : widestStride device tiling f w n plane stride = .ok s) :
    stride ≤ s ∧ ∀ p, plane ≤ p → p < plane + n →
      ∃ own, planeStride device tiling f w p = .ok own ∧ own ≤ s := by
  induction n generalizing plane stride with
  | zero =>
      cases h
      exact ⟨Nat.le_refl _, fun p hp hlt => by omega⟩
  | succ n ih =>
      obtain ⟨own, hown, h⟩ := Checked.bind_eq_ok.1 h
      obtain ⟨hmax, hrest⟩ := ih h
      refine ⟨by omega, fun p hp hlt => ?_⟩
      by_cases heq : p = plane
      · subst heq
        exact ⟨own, hown, by omega⟩
      · exact hrest p (by omega) (by omega)

/-- Planes are put behind what is there already, and behind each other. -/
lemma stack_spec (hf : f.isPlanar) (h : stack device tiling f height n plane L = .ok L') :
    L'.stride = L.stride ∧ L.size ≤ L'.size ∧ (n = 0 ∨ L'.size < 0x100000000) ∧
      (∀ p < plane, L'.offset p = L.offset p) ∧ (0 < n → L'.offset plane = L.size) ∧
      (0 < n → plane + n ≤ maxPlanes) ∧
      ∀ p, plane ≤ p → p < plane + n → L.size ≤ L'.offset p ∧
        L'.offset p + Plane.height f height p * L.stride ≤ L'.size ∧
        ∀ q, p < q → q < plane + n →
          L'.offset p + Plane.height f height p * L.stride ≤ L'.offset q := by
  -- by induction on the planes that are left, each put behind all of those before
  induction n generalizing plane L with
  | zero =>
      cases h
      exact ⟨rfl, Nat.le_refl _, .inl rfl, fun _ _ => rfl, nofun, nofun,
        fun p hp hlt => by omega⟩
  | succ n ih =>
      obtain ⟨rows, hrows, h⟩ := Checked.bind_eq_ok.1 h
      obtain ⟨bytes, hbytes, h⟩ := Checked.bind_eq_ok.1 h
      obtain ⟨size, hsize, h⟩ := Checked.bind_eq_ok.1 h
      obtain ⟨-, rfl⟩ := fit32_eq_ok.1 hbytes
      obtain ⟨hlt, rfl⟩ := fit32_eq_ok.1 hsize
      have hroom : plane < maxPlanes := by
        obtain ⟨bpp, hbpp, -⟩ := planeRows_eq_ok.1 hrows
        rw [PixelFormat.planeBpp?, if_pos hf] at hbpp
        exact Nat.lt_of_not_le fun hle => by simp [Vector.getElem?_eq_none hle] at hbpp
      -- the plane that is put there fits before the next one
      have hown : Plane.height f height plane * L.stride ≤ L.stride * rows := by
        rw [Nat.mul_comm]
        exact Nat.mul_le_mul_left _ (height_le_planeRows hrows)
      obtain ⟨hstride, hle, hfits, hbefore, hhere, hplanes, hrest⟩ := ih h
      dsimp only at hstride hle hhere hrest
      have hself : L'.offset plane = L.size := by
        rw [hbefore plane (Nat.lt_succ_self _), offset,
          Vector.getElem?_setIfInBounds_self_of_lt hroom, Option.getD_some]
      refine ⟨hstride, by omega, .inr ?_, fun p hp => ?_, fun _ => hself, fun _ => ?_,
        fun p hp hlt => ?_⟩
      · rcases hfits with rfl | hfits
        · cases h
          exact hlt
        · exact hfits
      · rw [hbefore p (by omega), offset, offset,
          Vector.getElem?_setIfInBounds_ne (Nat.ne_of_gt hp)]
      · cases n with
        | zero => exact hroom
        | succ n => have := hplanes (Nat.succ_pos n); omega
      · -- the plane that was just put there, and those after it
        by_cases heq : p = plane
        · subst heq
          rw [hself]
          refine ⟨Nat.le_refl _, by omega, fun q hq hqn => ?_⟩
          have := (hrest q (by omega) (by omega)).1
          omega
        · obtain ⟨h₁, h₂, h₃⟩ := hrest p (by omega) (by omega)
          exact ⟨by omega, h₂, fun q hq hqn => h₃ q hq (by omega)⟩

/-- The planes of several lie apart and inside. -/
lemma sound_planar (hf : f.isPlanar) (h : planar device tiling f w height = .ok L) :
    L.Sound f w height := by
  obtain ⟨stride, hstride, h⟩ := Checked.bind_eq_ok.1 h
  have hn : 0 < f.numPlanes := Nat.lt_of_lt_of_le Nat.one_pos (Nat.le_max_right ..)
  obtain ⟨-, hwide⟩ := widestStride_spec hstride
  obtain ⟨hsame, -, hfits, -, hfirst, hplanes, hrest⟩ := stack_spec hf h
  dsimp only at hsame hfirst hrest
  refine ⟨fun p hp => ?_, hfirst hn, fun p hp => ?_, fun p q hpq hq => ?_, ?_, ?_⟩
  · obtain ⟨own, hown, hle⟩ := hwide p (Nat.zero_le _) (by omega)
    obtain ⟨row, hrow, hrowle⟩ := row_le_planeStride hown
    exact ⟨row, hrow, by omega⟩
  · rw [hsame]
    exact (hrest p (Nat.zero_le _) (by omega)).2.1
  · rw [hsame]
    exact (hrest p (Nat.zero_le _) (by omega)).2.2 q hpq (by omega)
  · exact hfits.resolve_left (by omega)
  · have := hplanes hn
    omega

/-- Packed pixels lie in one plane. -/
lemma numPlanes_of_packed (hf : ¬f.isPlanar) : f.numPlanes = 1 := by
  rw [PixelFormat.isPlanar, decide_eq_true_eq] at hf
  rw [PixelFormat.numPlanes]
  omega

lemma rowBytes_of_packed {row : Nat} (hf : ¬f.isPlanar) :
    Plane.rowBytes f w 0 = .ok row ↔ fit32 (w * (f.bpp / 8)) = .ok row := by
  rw [Plane.rowBytes, PixelFormat.planeBpp?, if_neg hf, Plane.width, Plane.isHalved,
    Bool.eq_false_iff.2 hf]
  rfl

lemma height_of_packed (hf : ¬f.isPlanar) : Plane.height f height plane = height := by
  simp [Plane.height, Plane.isHalved, Bool.eq_false_iff.2 hf]

/-- A plane that is alone begins at zero and only has to fit. -/
lemma sound_of_packed {row size : Nat} (hf : ¬f.isPlanar)
    (hrow : fit32 (w * (f.bpp / 8)) = .ok row) (hle : row ≤ stride) (hin : height * stride ≤ size)
    (hsize : size < 0x100000000) : Sound ⟨stride, size, Vector.replicate _ 0⟩ f w height := by
  have hn := numPlanes_of_packed hf
  have only : ∀ p < f.numPlanes, p = 0 := fun p hp => by omega
  refine ⟨fun p hp => ?_, offset_replicate, fun p hp => ?_, fun p q hpq hq => by omega, hsize, ?_⟩
  · rw [only p hp]
    exact ⟨row, (rowBytes_of_packed hf).2 hrow, hle⟩
  · rw [offset_replicate, height_of_packed hf, Nat.zero_add]
    exact hin
  · rw [hn]
    decide

/-- What packed pixels are laid out in: whole tiles, or powers of two. -/
lemma packed_eq_ok : packed device tiling f w height = .ok L ↔
    ∃ tile, Tile.of device tiling f.bpp = .ok tile ∧
      ∃ row, fit32 (w * (f.bpp / 8)) = .ok row ∧
        ∃ stride size, L = ⟨stride, size, Vector.replicate _ 0⟩ ∧
          if tiling ≠ .linear ∧ device.hasLegacyFences then
            doubleTo row legacyStrideFloor (by decide) = .ok stride ∧
              ∃ least, fit32 (stride * height) = .ok least ∧
                doubleTo least legacySizeFloor (by decide) = .ok size
          else
            alignUp row tile.width = .ok stride ∧
              ∃ rows, alignUp height tile.height = .ok rows ∧ fit32 (rows * stride) = .ok size := by
  rw [packed]
  -- either branch finds a stride and a size, in its own way
  split
  · next hl =>
    simp only [Checked.bind_eq_ok, pure, Except.pure, Except.ok.injEq]
    constructor
    · rintro ⟨tile, htile, row, hrow, stride, hs, least, hleast, size, hsize, rfl⟩
      exact ⟨tile, htile, row, hrow, stride, size, rfl, hs, least, hleast, hsize⟩
    · rintro ⟨tile, htile, row, hrow, stride, size, rfl, hs, least, hleast, hsize⟩
      exact ⟨tile, htile, row, hrow, stride, hs, least, hleast, size, hsize, rfl⟩
  · next hl =>
    simp only [Checked.bind_eq_ok, pure, Except.pure, Except.ok.injEq]
    constructor
    · rintro ⟨tile, htile, row, hrow, stride, hs, rows, hrows, size, hsize, rfl⟩
      exact ⟨tile, htile, row, hrow, stride, size, rfl, hs, rows, hrows, hsize⟩
    · rintro ⟨tile, htile, row, hrow, stride, size, rfl, hs, rows, hrows, hsize⟩
      exact ⟨tile, htile, row, hrow, stride, hs, rows, hrows, size, hsize, rfl⟩

lemma sound_packed (hf : ¬f.isPlanar) (h : packed device tiling f w height = .ok L) :
    L.Sound f w height := by
  obtain ⟨tile, -, row, hrow, stride, size, rfl, hsizes⟩ := packed_eq_ok.1 h
  split at hsizes
  · obtain ⟨hstride, least, hleast, hsize⟩ := hsizes
    obtain ⟨hle, -, -, -⟩ := doubleTo_spec hstride
    obtain ⟨-, rfl⟩ := fit32_eq_ok.1 hleast
    obtain ⟨hin, -, -, hfits⟩ := doubleTo_spec hsize
    refine sound_of_packed hf hrow hle (Nat.mul_comm stride height ▸ hin) ?_
    rcases hfits with rfl | hfits
    · decide
    · exact hfits
  · obtain ⟨hstride, rows, hrows, hsize⟩ := hsizes
    obtain ⟨hw, -, rfl⟩ := alignUp_eq_ok.1 hstride
    obtain ⟨hh, -, rfl⟩ := alignUp_eq_ok.1 hrows
    obtain ⟨hfits, rfl⟩ := fit32_eq_ok.1 hsize
    exact sound_of_packed hf hrow (le_roundUp hw _) (Nat.mul_le_mul_right _ (le_roundUp hh _)) hfits

/-- An image that is laid out is not empty, and its layout is that of its pixels. -/
lemma compute_eq_ok : compute device w height f tiling = .ok L ↔
    0 < w ∧ 0 < height ∧
      if f.isPlanar then planar device tiling f w height = .ok L
      else packed device tiling f w height = .ok L := by
  rw [compute]
  split
  · next h => simp only [Checked.fail, reduceCtorEq, false_iff]; omega
  · next h =>
    have : 0 < w ∧ 0 < height := by omega
    simp only [this, true_and]
    split <;> rfl

/-- **Every layout that is computed is sound**: whatever the device, the tiling and the format, the
planes lie apart and inside the buffer. -/
theorem sound_of_compute (h : compute device w height f tiling = .ok L) : L.Sound f w height := by
  obtain ⟨-, -, h⟩ := compute_eq_ok.1 h
  split at h
  · next hf => exact sound_planar hf h
  · next hf => exact sound_packed hf h

/-- A plane of an image that is not empty has a row. -/
lemma height_pos (hh : 0 < height) : 0 < Plane.height f height plane := by
  rw [Plane.height, halfUp]
  split <;> omega

/-- What is put behind the last row of a plane lies behind the whole plane. -/
lemma last_row_le {rows row start next : Nat} (hrows : 0 < rows) (hrow : row ≤ stride)
    (h : start + rows * stride ≤ next) : start + (rows - 1) * stride + row ≤ next := by
  obtain ⟨rows, rfl⟩ := Nat.exists_eq_add_one_of_ne_zero (Nat.ne_of_gt hrows)
  rw [Nat.add_mul, Nat.one_mul] at h
  rw [Nat.add_sub_cancel]
  omega

/-- **Planes lie one behind the other and inside the buffer.** The first begins at zero; the row of
every plane has a length, which the stride covers; and the last row of each ends before the next
plane begins, or before the buffer ends when it is the last. -/
theorem planes_inside (h : compute device w height f tiling = .ok L) :
    L.offset 0 = 0 ∧ L.size < 0x100000000 ∧ f.numPlanes ≤ maxPlanes ∧
      ∀ plane < f.numPlanes, 0 < Plane.height f height plane ∧
        ∃ row, Plane.rowBytes f w plane = .ok row ∧ row ≤ L.stride ∧
          L.offset plane + (Plane.height f height plane - 1) * L.stride + row ≤
            if plane + 1 < f.numPlanes then L.offset (plane + 1) else L.size := by
  have sound := sound_of_compute h
  obtain ⟨-, hh, -⟩ := compute_eq_ok.1 h
  refine ⟨sound.first, sound.size, sound.planes, fun plane hp => ?_⟩
  have hrows : 0 < Plane.height f height plane := height_pos hh
  obtain ⟨row, hrow, hle⟩ := sound.row plane hp
  refine ⟨hrows, row, hrow, hle, last_row_le hrows hle ?_⟩
  split
  · next hnext => exact sound.apart plane (plane + 1) (Nat.lt_succ_self plane) hnext
  · next hlast => exact sound.inside plane hp

/-- The Yf tiles of luma and chroma have different shapes, and nine rows of each fit. -/
theorem planes_inside_nine :
    compute .standard 9 9 .nv12 .yf = .ok ⟨128, 12288, #v[0, 8192, 0, 0]⟩ ∧
      ∃ row, Plane.rowBytes .nv12 9 1 = .ok row ∧ row ≤ 128 ∧ 8192 + (5 - 1) * 128 + row ≤ 12288 :=
  have computed : compute .standard 9 9 .nv12 .yf = .ok ⟨128, 12288, #v[0, 8192, 0, 0]⟩ := rfl
  have ⟨_, row, hrow, hle, hin⟩ := (planes_inside computed).2.2.2 1 (by decide)
  ⟨computed, row, hrow, hle, hin⟩

end Layout

end Scanout
