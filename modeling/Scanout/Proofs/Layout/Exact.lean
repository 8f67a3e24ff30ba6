/-
Layouts are exact: what is computed in thirty-two bits is what unbounded numbers give.

* `leastDoubling`: the least doubling of a number that reaches a goal, without a limit, and
  `doubleTo_eq`: the search in thirty-two bits ends and finds it wherever it fits;
* `Layout.inTiles`, `Layout.behindFences`, `Layout.inPlanes`: the three ways of laying out an image
  in unbounded numbers, and `Layout.unbounded?`, which chooses between them;
* `Layout.orOverflow`: what a layout in unbounded numbers is in thirty-two bits, and
  `Layout.fit32_bind`: a step that is no larger than the whole never overflows by itself;
* `Layout.compute_exact`: **a registered format is laid out exactly, an empty image is refused, and
  an overflow is reported where the buffer does not fit and nowhere else**.
-/
import Scanout.Proofs.Layout.Planes
import Mathlib.Algebra.Group.Nat.Defs
import Mathlib.Data.Nat.Find

namespace Scanout

/-! ### Doubling without a limit -/

/-- Doubled often enough, a number reaches every goal. -/
lemma exists_le_doubling {floor : Nat} (pos : 0 < floor) (goal : Nat) :
    ∃ k, goal ≤ floor * 2 ^ k :=
  ⟨goal, Nat.le_trans (Nat.le_of_lt Nat.lt_two_pow_self) (Nat.le_mul_of_pos_left _ pos)⟩

/-- The least of `floor`, twice `floor`, four times `floor` and so on that reaches `goal`. -/
def leastDoubling (goal floor : Nat) (pos : 0 < floor) : Nat :=
  floor * 2 ^ Nat.find (exists_le_doubling pos goal)

section Doubling

variable {goal floor k : Nat} {pos : 0 < floor}

lemma le_leastDoubling (goal : Nat) (pos : 0 < floor) : goal ≤ leastDoubling goal floor pos :=
  Nat.find_spec (exists_le_doubling pos goal)

lemma leastDoubling_le {m : Nat} (hm : m = floor * 2 ^ k) (h : goal ≤ m) :
    leastDoubling goal floor pos ≤ m := by
  subst hm
  exact Nat.mul_le_mul_left _ (Nat.pow_le_pow_right (by decide) (Nat.find_min' _ h))

lemma floor_le_leastDoubling : floor ≤ leastDoubling goal floor pos :=
  Nat.le_mul_of_pos_right _ (Nat.two_pow_pos _)

lemma leastDoubling_of_le (h : goal ≤ floor) : leastDoubling goal floor pos = floor :=
  Nat.le_antisymm (leastDoubling_le (k := 0) (Nat.mul_one floor).symm h) floor_le_leastDoubling

/-- Short of the goal, the search goes on from the double. -/
lemma leastDoubling_of_lt (h : floor < goal) :
    leastDoubling goal floor pos =
      leastDoubling goal (2 * floor) (Nat.mul_pos Nat.two_pos pos) := by
  have shift (k : Nat) : 2 * floor * 2 ^ k = floor * 2 ^ (k + 1) := by
    rw [Nat.pow_succ, Nat.mul_comm 2 floor, Nat.mul_assoc, Nat.mul_comm 2]
  refine Nat.le_antisymm (leastDoubling_le (shift _) (le_leastDoubling _ _)) ?_
  have hgoal := le_leastDoubling goal pos
  obtain ⟨k, hk⟩ : ∃ k, leastDoubling goal floor pos = floor * 2 ^ k := ⟨_, rfl⟩
  cases k with
  | zero => omega
  | succ k => exact leastDoubling_le (hk.trans (shift k).symm) hgoal

/-- **The search ends and is exact**: it finds the least doubling that reaches the goal, or reports
that it does not fit. -/
lemma doubleTo_eq (hfits : floor < 0x100000000) :
    doubleTo goal floor pos = fit32 (leastDoubling goal floor pos) := by
  induction floor, pos using doubleTo.induct goal with
  | case1 value pos hle =>
      rw [doubleTo, if_pos hle, leastDoubling_of_le hle, fit32, if_pos hfits]
  | case2 value pos hlt hdouble ih =>
      rw [doubleTo, if_neg hlt, dif_pos hdouble, ih hdouble,
        ← leastDoubling_of_lt (Nat.lt_of_not_le hlt)]
  | case3 value pos hlt hdouble =>
      have : 2 * value ≤ leastDoubling goal value pos := by
        rw [leastDoubling_of_lt (Nat.lt_of_not_le hlt)]
        exact floor_le_leastDoubling
      rw [doubleTo, if_neg hlt, dif_neg hdouble, fit32, if_neg (by omega)]

end Doubling

namespace Layout

variable {device : Device} {tiling : Tiling} {f : PixelFormat} {w height plane a : Nat}
  {L : Layout} {k : Nat → Checked Layout}

/-! ### Layouts in unbounded numbers -/

/-- Rows filled up to whole tiles, and as many of them as fill up whole tiles. -/
def inTiles (tile : Tile) (row height : Nat) : Layout where
  stride := roundUp row tile.width
  size := roundUp row tile.width * roundUp height tile.height
  offsets := Vector.replicate _ 0

/-- Powers of two: the least stride from 512 on for the row, the least size from a mebibyte on for
all rows. -/
def behindFences (row height : Nat) : Layout where
  stride := leastDoubling row 512 (by decide)
  size := leastDoubling (leastDoubling row 512 (by decide) * height) 0x100000 (by decide)
  offsets := Vector.replicate _ 0

/-- A plane with a byte for each pixel and behind it a plane with two bytes for each block of two by
two: one stride for both, each plane filled up to whole tiles of its own. -/
def inPlanes (luma chroma : Tile) (w height : Nat) : Layout :=
  let stride := max (roundUp w luma.width) (roundUp (2 * halfUp w) chroma.width)
  let second := stride * roundUp height luma.height
  { stride
    size := second + stride * roundUp (halfUp height) chroma.height
    offsets := #v[0, second, 0, 0] }

/-- The layout of an image in unbounded numbers. There is none where a tile has no shape. -/
def unbounded? (device : Device) (tiling : Tiling) (f : PixelFormat) (w height : Nat) :
    Option Layout :=
  if f.isPlanar then do
    let luma ← Tile.of? device tiling 8
    let chroma ← Tile.of? device tiling 16
    return inPlanes luma chroma w height
  else do
    let tile ← Tile.of? device tiling f.bpp
    return if tiling ≠ .linear ∧ device.gen ≤ 3 then behindFences (w * f.bpp / 8) height
      else inTiles tile (w * f.bpp / 8) height

/-- A layout in unbounded numbers, where its buffer fits in thirty-two bits; an overflow where it
does not. -/
def orOverflow (L : Layout) : Checked Layout :=
  if L.size < 0x100000000 then .ok L else Checked.fail .overflow

/-! ### One step after the other -/

lemma ok_bind {α β : Type} {a : α} {k : α → Checked β} :
    ((Except.ok a : Checked α) >>= k) = k a :=
  rfl

/-- A step that is no larger than the whole buffer does not overflow by itself. -/
lemma fit32_bind (hle : a ≤ L.size) (h : a < 0x100000000 → k a = L.orOverflow) :
    (fit32 a >>= k) = L.orOverflow := by
  rw [fit32]
  split
  · next hlt => exact h hlt
  · next hlt => rw [orOverflow, if_neg (by omega)]; rfl

lemma orOverflow_of_lt (h : L.size < 0x100000000) : L.orOverflow = .ok L :=
  if_pos h

lemma alignUp_eq {n align : Nat} (h : 0 < align) : alignUp n align = fit32 (roundUp n align) :=
  if_neg (Nat.ne_of_gt h)

lemma roundUp_pos {n align : Nat} (h : 0 < align) (hn : 0 < n) : 0 < roundUp n align :=
  Nat.lt_of_lt_of_le hn (le_roundUp h n)

/-- Packed pixels of whole bytes are laid out exactly. -/
lemma packed_exact {tile : Tile} (htile : Tile.of? device tiling f.bpp = some tile)
    (hbpp : 8 ∣ f.bpp) (hpos : 0 < f.bpp) (hw : 0 < w) (hh : 0 < height) :
    packed device tiling f w height =
      (if tiling ≠ .linear ∧ device.gen ≤ 3 then behindFences (w * f.bpp / 8) height
        else inTiles tile (w * f.bpp / 8) height).orOverflow := by
  have hrow : 0 < w * f.bpp / 8 := by
    rw [Nat.mul_div_assoc w hbpp]
    exact Nat.mul_pos hw (Nat.div_pos (Nat.le_of_dvd hpos hbpp) (by decide))
  obtain ⟨hwidth, hheight⟩ := Tile.pos_of_of? htile
  have hlegacy : device.hasLegacyFences = true ↔ device.gen ≤ 3 := decide_eq_true_iff
  rw [packed, Tile.of_eq_ok.2 htile, ← Nat.mul_div_assoc w hbpp]
  show (fit32 (w * f.bpp / 8) >>= fun row => _) = _
  generalize w * f.bpp / 8 = row at hrow
  by_cases hl : tiling ≠ .linear ∧ device.gen ≤ 3
  · simp only [hlegacy, if_pos hl]
    have hin : leastDoubling row 512 (by decide) * height ≤ (behindFences row height).size :=
      le_leastDoubling _ (by decide)
    have hstride : leastDoubling row 512 (by decide) ≤ (behindFences row height).size :=
      Nat.le_trans (Nat.le_mul_of_pos_right _ hh) hin
    -- every number on the way is at most the size, so that only the size decides
    refine fit32_bind (Nat.le_trans (le_leastDoubling _ _) hstride) fun _ => ?_
    rw [doubleTo_eq (by decide)]
    refine fit32_bind hstride fun _ => fit32_bind hin fun _ => ?_
    rw [doubleTo_eq (by decide)]
    exact fit32_bind (Nat.le_refl _) fun hfits => (orOverflow_of_lt hfits).symm
  · simp only [hlegacy, if_neg hl]
    have hrows := roundUp_pos hheight hh
    have hstride := roundUp_pos hwidth hrow
    -- the same for whole tiles
    have hsize : (inTiles tile row height).size =
      roundUp row tile.width * roundUp height tile.height := rfl
    refine fit32_bind ?_ fun _ => ?_
    · rw [hsize]
      exact Nat.le_trans (le_roundUp hwidth row) (Nat.le_mul_of_pos_right _ hrows)
    rw [alignUp_eq hwidth]
    refine fit32_bind (hsize ▸ Nat.le_mul_of_pos_right _ hrows) fun _ => ?_
    rw [alignUp_eq hheight]
    refine fit32_bind (hsize ▸ Nat.le_mul_of_pos_left _ hstride) fun _ => ?_
    rw [Nat.mul_comm]
    exact fit32_bind (Nat.le_refl _) fun hfits => (orOverflow_of_lt hfits).symm

/-- What one plane adds to the stride, in one step. -/
lemma planeStride_bind {bpp s : Nat} {tile : Tile} (hbpp : f.planeBpp? plane = some bpp)
    (htile : Tile.of? device tiling bpp = some tile)
    (hs : roundUp (Plane.width f w plane * (bpp / 8)) tile.width = s) (hle : s ≤ L.size)
    (h : s < 0x100000000 → k s = L.orOverflow) :
    (planeStride device tiling f w plane >>= k) = L.orOverflow := by
  obtain ⟨hwidth, -⟩ := Tile.pos_of_of? htile
  subst hs
  simp only [planeStride, Plane.rowBytes, Checked.need_eq_ok.2 hbpp, Tile.of_eq_ok.2 htile,
    bind_assoc, ok_bind]
  refine fit32_bind (Nat.le_trans (le_roundUp hwidth _) hle) fun _ => ?_
  rw [alignUp_eq hwidth]
  exact fit32_bind hle h

/-- The rows of one plane, in one step. -/
lemma planeRows_bind {bpp rows : Nat} {tile : Tile} (hbpp : f.planeBpp? plane = some bpp)
    (htile : Tile.of? device tiling bpp = some tile)
    (hrows : roundUp (Plane.height f height plane) tile.height = rows) (hle : rows ≤ L.size)
    (h : rows < 0x100000000 → k rows = L.orOverflow) :
    (planeRows device tiling f height plane >>= k) = L.orOverflow := by
  obtain ⟨-, hheight⟩ := Tile.pos_of_of? htile
  subst hrows
  simp only [planeRows, Checked.need_eq_ok.2 hbpp, Tile.of_eq_ok.2 htile, ok_bind,
    alignUp_eq hheight]
  exact fit32_bind hle h

/-- Luma and chroma are laid out exactly. -/
lemma planar_exact {luma chroma : Tile} (hl : Tile.of? device tiling 8 = some luma)
    (hc : Tile.of? device tiling 16 = some chroma) (hw : 0 < w) (hh : 0 < height) :
    planar device tiling .nv12 w height = (inPlanes luma chroma w height).orOverflow := by
  obtain ⟨hlw, hlh⟩ := Tile.pos_of_of? hl
  obtain ⟨hcw, hch⟩ := Tile.pos_of_of? hc
  have hrows := roundUp_pos hlh hh
  have hrows' : 0 < roundUp (halfUp height) chroma.height := roundUp_pos hch (by rw [halfUp]; omega)
  obtain ⟨L, hL⟩ : ∃ L, inPlanes luma chroma w height = L := ⟨_, rfl⟩
  have hstride : max (roundUp w luma.width) (roundUp (2 * halfUp w) chroma.width) = L.stride :=
    hL ▸ rfl
  have hsize : L.stride * roundUp height luma.height +
      L.stride * roundUp (halfUp height) chroma.height = L.size :=
    hL ▸ rfl
  have hpos : 0 < L.stride :=
    Nat.lt_of_lt_of_le (roundUp_pos hlw hw) (hstride ▸ Nat.le_max_left _ _)
  -- every number on the way is at most the size
  have hrowsle := Nat.le_mul_of_pos_left (roundUp height luma.height) hpos
  have hrowsle' := Nat.le_mul_of_pos_left (roundUp (halfUp height) chroma.height) hpos
  have hstridele := Nat.le_mul_of_pos_right L.stride hrows
  simp only [hL, planar, show PixelFormat.nv12.numPlanes = 2 from rfl, widestStride, stack,
    bind_assoc]
  -- first the widest row of both planes
  refine planeStride_bind rfl hl (congrArg (roundUp · luma.width) (Nat.mul_one w)) (by omega)
    fun _ => ?_
  refine planeStride_bind rfl hc
    (congrArg (roundUp · chroma.width) (Nat.mul_comm (halfUp w) 2)) (by omega) fun _ => ?_
  rw [Nat.zero_max, hstride]
  -- then luma, and chroma behind it
  refine planeRows_bind rfl hl (rfl : _ = roundUp height luma.height) (by omega) fun _ => ?_
  refine fit32_bind (by omega) fun _ => ?_
  rw [Nat.zero_add]
  refine fit32_bind (by omega) fun _ => ?_
  refine planeRows_bind rfl hc (rfl : _ = roundUp (halfUp height) chroma.height) (by omega)
    fun _ => ?_
  refine fit32_bind (by omega) fun _ => fit32_bind (Nat.le_of_eq hsize) fun hfits => ?_
  rw [orOverflow_of_lt (hsize ▸ hfits), ← hL]
  rfl

/-! ### Every registered format -/

/-- Where the Yf tiling knows a pixel size, every tiling has a tile for it. -/
lemma exists_tile (device : Device) (tiling : Tiling) {bpp : Nat} {c : BppClass}
    (h : BppClass.of? bpp = some c) : ∃ tile, Tile.of? device tiling bpp = some tile := by
  cases tiling <;> simp only [Tile.of?]
  case linear => exact ⟨_, rfl⟩
  case x => split <;> exact ⟨_, rfl⟩
  case y => split <;> exact ⟨_, rfl⟩
  case yf => rw [h]; exact ⟨_, rfl⟩

/-- The packed pixels of the registry take sixteen or thirty-two bits. -/
lemma bpp_of_packed (hf : f ∈ PixelFormat.registry) (hp : ¬f.isPlanar) :
    8 ∣ f.bpp ∧ 0 < f.bpp ∧ BppClass.of? f.bpp = some .bpp16To32 := by
  simp only [PixelFormat.registry, List.mem_cons, List.not_mem_nil, or_false] at hf
  rcases hf with rfl | rfl | rfl | rfl | rfl
  case inr.inr.inr.inr => exact absurd rfl hp
  all_goals exact ⟨by decide, by decide, rfl⟩

/-- The only registered format with several planes is that of luma and chroma. -/
lemma eq_nv12_of_planar (hf : f ∈ PixelFormat.registry) (hp : f.isPlanar) : f = .nv12 := by
  simp only [PixelFormat.registry, List.mem_cons, List.not_mem_nil, or_false] at hf
  rcases hf with rfl | rfl | rfl | rfl | rfl
  case inr.inr.inr.inr => rfl
  all_goals exact absurd hp (by decide)

/-- An image that is not empty has a layout in unbounded numbers, and gets it or overflows. -/
lemma compute_of_pos (device : Device) (tiling : Tiling) (hf : f ∈ PixelFormat.registry)
    (hw : 0 < w) (hh : 0 < height) :
    ∃ L, unbounded? device tiling f w height = some L ∧
      compute device w height f tiling = L.orOverflow := by
  rw [compute, if_neg (by omega), unbounded?]
  by_cases hp : f.isPlanar
  · obtain rfl := eq_nv12_of_planar hf hp
    obtain ⟨luma, hl⟩ := exists_tile device tiling (rfl : BppClass.of? 8 = some .bpp8)
    obtain ⟨chroma, hc⟩ := exists_tile device tiling (rfl : BppClass.of? 16 = some .bpp16To32)
    rw [if_pos hp, if_pos hp, hl, hc]
    exact ⟨_, rfl, planar_exact hl hc hw hh⟩
  · obtain ⟨hbpp, hpos, hclass⟩ := bpp_of_packed hf hp
    obtain ⟨tile, htile⟩ := exists_tile device tiling hclass
    rw [if_neg hp, if_neg hp, htile]
    exact ⟨_, rfl, packed_exact htile hbpp hpos hw hh⟩

/-- No layout of a registered format crashes. -/
lemma compute_ne_crash (device : Device) (tiling : Tiling) (hf : f ∈ PixelFormat.registry) :
    compute device w height f tiling ≠ .error .crash := by
  by_cases hempty : w = 0 ∨ height = 0
  · rw [compute, if_pos hempty]
    rintro ⟨⟩
  · obtain ⟨L, -, hL⟩ := compute_of_pos device tiling hf (show 0 < w by omega)
      (show 0 < height by omega)
    rw [hL, orOverflow]
    split
    · rintro ⟨⟩
    · rintro ⟨⟩

/-- **Layouts are exact.** An image of a registered format is refused for its dimensions exactly
when it is empty. Every other image has a layout in unbounded numbers, and that very layout is
computed when its buffer fits in thirty-two bits, and an overflow is reported when it does not. -/
theorem compute_exact (device : Device) (tiling : Tiling) (hf : f ∈ PixelFormat.registry) :
    (compute device w height f tiling = Checked.fail (.invalidDimensions w height) ↔
      w = 0 ∨ height = 0) ∧
    (0 < w → 0 < height → ∃ L, unbounded? device tiling f w height = some L ∧
      compute device w height f tiling =
        if L.size < 0x100000000 then .ok L else Checked.fail .overflow) := by
  refine ⟨⟨fun h => ?_, fun h => if_pos h⟩, compute_of_pos device tiling hf⟩
  by_contra hne
  obtain ⟨L, -, hL⟩ := compute_of_pos device tiling hf (show 0 < w by omega)
    (show 0 < height by omega)
  rw [h, orOverflow] at hL
  split at hL <;> cases hL

/-- With rows of 64 kibibytes there is room for 65535 of them, and not for one more. -/
theorem compute_exact_brim :
    .xrgb8888 ∈ PixelFormat.registry ∧
      compute .standard 16384 65535 .xrgb8888 .linear =
        .ok ⟨65536, 4294901760, #v[0, 0, 0, 0]⟩ ∧
      compute .standard 16384 65536 .xrgb8888 .linear = Checked.fail .overflow := by
  have registered : .xrgb8888 ∈ PixelFormat.registry := by decide
  obtain ⟨L, hL, h⟩ := (compute_exact .standard .linear registered).2 (by decide : 0 < 16384)
    (by decide : 0 < 65535)
  obtain ⟨M, hM, h'⟩ := (compute_exact .standard .linear registered).2 (by decide : 0 < 16384)
    (by decide : 0 < 65536)
  obtain rfl : ⟨65536, 4294901760, #v[0, 0, 0, 0]⟩ = L := Option.some.inj hL
  obtain rfl : ⟨65536, 4294967296, #v[0, 0, 0, 0]⟩ = M := Option.some.inj hM
  exact ⟨registered, h.trans (if_pos (by decide)), h'.trans (if_neg (by decide))⟩

end Layout

end Scanout
