/-
Framebuffers with planes and a stride of their own.

A stride that is asked for takes the place of the computed one, and the planes begin where they
began with that. Where they come to lie then, and what is in them when the framebuffer has been
made, is told by the beginning of the second plane alone.

* `Layout.Parted`: no byte is a sample of both planes, and `Layout.parted_iff`: when that is so;
* `Layout.offset_one_of_compute`: where the second plane begins;
* `Framebuffer.Stretched`: how a framebuffer with a stride of its own comes out;
* `Framebuffer.create_stretched`: **every one that is made does so**.
-/
import Scanout.Proofs.Framebuffer.Transparency
import Scanout.Proofs.Samples.Nv12

namespace Scanout

namespace Layout

variable {L : Layout} {device : Device} {tiling : Tiling} {w h rows : Nat}

/-- No byte is a sample of luma and of chroma. -/
def Parted (L : Layout) (w h : Nat) : Prop :=
  ∀ r < h, ∀ c < w, ∀ r' < halfUp h, ∀ c' < 2 * halfUp w,
    L.offset 0 + r * L.stride + c ≠ L.offset 1 + r' * L.stride + c'

/-- A place has one row and one column. -/
lemma row_column_unique {stride r c r' c' : Nat} (hc : c < stride) (hc' : c' < stride)
    (heq : r * stride + c = r' * stride + c') : r = r' ∧ c = c' := by
  let places : Places (OnRows (max r r' + 1) stride) := Places.rows (Nat.le_refl stride)
  exact Prod.mk.inj (places.apart (r, c) (r', c') ⟨by omega, hc⟩ ⟨by omega, hc'⟩ heq)

/-- **The planes share no byte exactly when neither part of the first row of chroma lies in the
columns of luma**: what is left of the row that it begins in, and what reaches into the next. -/
lemma parted_iff (hfirst : L.offset 0 = 0) (hw : 0 < w) (hh : 0 < h) (hluma : w ≤ L.stride)
    (hchroma : 2 * halfUp w ≤ L.stride) :
    L.Parted w h ↔
      (h ≤ L.offset 1 / L.stride ∨ w ≤ L.offset 1 % L.stride) ∧
        (h ≤ L.offset 1 / L.stride + 1 ∨ L.offset 1 % L.stride + 2 * halfUp w ≤ L.stride) := by
  have pos : 0 < L.stride := Nat.lt_of_lt_of_le hw hluma
  have second : L.offset 1 = L.offset 1 / L.stride * L.stride + L.offset 1 % L.stride :=
    (Nat.div_add_mod' ..).symm
  have inside := Nat.mod_lt (L.offset 1) pos
  -- the second plane begins in column `m` of row `q`
  generalize L.offset 1 / L.stride = q at second ⊢
  generalize L.offset 1 % L.stride = m at second inside ⊢
  have halves : 0 < halfUp h ∧ 0 < halfUp w := by rw [halfUp, halfUp]; omega
  rw [Parted, hfirst, second]
  constructor
  · intro apart
    refine ⟨?_, ?_⟩
    · by_cases hq : q < h
      · refine .inr (Nat.le_of_not_lt fun hm => apart q hq m hm 0 halves.1 0 (by omega) ?_)
        omega
      · exact .inl (Nat.le_of_not_lt hq)
    · by_cases hq : q + 1 < h
      · refine .inr (Nat.le_of_not_lt fun hm =>
          apart (q + 1) hq 0 hw 0 halves.1 (L.stride - m) (by omega) ?_)
        rw [Nat.succ_mul]
        omega
      · exact .inl (Nat.le_of_not_lt hq)
  · rintro ⟨left, right⟩ r hr c hc r' - c' hc' heq
    by_cases hrow : m + c' < L.stride
    · -- the sample lies in the row that the plane begins in, or as many rows below
      obtain ⟨rfl, rfl⟩ := @row_column_unique L.stride r c (q + r') (m + c') (by omega) hrow
        (by rw [Nat.add_mul]; omega)
      omega
    · -- it reaches into the row after that
      obtain ⟨rfl, rfl⟩ := @row_column_unique L.stride r c (q + r' + 1) (m + c' - L.stride)
        (by omega) (by omega) (by rw [Nat.succ_mul, Nat.add_mul]; omega)
      omega

/-- The second plane begins behind the rows of the first. -/
lemma offset_one_of_compute (hL : compute device w h .nv12 tiling = .ok L)
    (hrows : planeRows device tiling .nv12 h 0 = .ok rows) : L.offset 1 = L.stride * rows := by
  have planar : planar device tiling .nv12 w h = .ok L := (compute_eq_ok.1 hL).2.2
  obtain ⟨stride, -, hstack⟩ := Checked.bind_eq_ok.1 planar
  rw [show PixelFormat.nv12.numPlanes = 1 + 1 from rfl, stack] at hstack
  obtain ⟨rows', hrows', hstack⟩ := Checked.bind_eq_ok.1 hstack
  cases hrows.symm.trans hrows'
  obtain ⟨bytes, hbytes, hstack⟩ := Checked.bind_eq_ok.1 hstack
  obtain ⟨size, hsize, hstack⟩ := Checked.bind_eq_ok.1 hstack
  obtain ⟨-, rfl⟩ := fit32_eq_ok.1 hbytes
  obtain ⟨-, rfl⟩ := fit32_eq_ok.1 hsize
  obtain ⟨hsame, -, -, -, second, -⟩ := stack_spec (by rfl) hstack
  rw [second Nat.one_pos, hsame, Nat.zero_add]

end Layout

namespace Framebuffer

/-- How a framebuffer of luma and chroma with a stride of its own comes out, whose layout was to be
`L`. -/
structure Stretched (g : Geometry) (L : Layout) (fb : Framebuffer) (bytes : Bytes) : Prop where
  stride : fb.layout.stride = g.stride
  /-- The planes begin where they did with the stride that was computed. -/
  offsets : fb.layout.offsets = L.offsets
  /-- No sample lies outside the buffer, and every sample of chroma is neutral. -/
  chroma : ∀ r < halfUp g.height, ∀ c < 2 * halfUp g.width,
    bytes[fb.layout.offset 1 + r * fb.layout.stride + c]? = some neutralChroma
  /-- A sample of luma is black if it comes before the second plane, and is what is there
  otherwise. -/
  luma : ∀ r < g.height, ∀ c < g.width,
    bytes[fb.layout.offset 0 + r * fb.layout.stride + c]? =
      some (if r * g.stride + c < L.offset 1 then blackLuma
        else if r * g.stride + c < L.offset 1 + halfUp g.height * g.stride then neutralChroma
        else 0)
  parted : fb.layout.Parted g.width g.height ↔
    (g.height ≤ L.offset 1 / g.stride ∨ g.width ≤ L.offset 1 % g.stride) ∧
      (g.height ≤ L.offset 1 / g.stride + 1 ∨
        L.offset 1 % g.stride + 2 * halfUp g.width ≤ g.stride)
  /-- The planes are apart and black together exactly if all of luma comes before the second
  plane. -/
  whole : (fb.layout.Parted g.width g.height ∧
      ∀ r < g.height, ∀ c < g.width,
        bytes[fb.layout.offset 0 + r * fb.layout.stride + c]? = some blackLuma) ↔
    (g.height - 1) * g.stride + g.width ≤ L.offset 1

variable {g : Geometry} {L : Layout} {fb : Framebuffer} {s s' : Store} {lumaRows chromaRows : Nat}

/-- A stride and a size that are asked for take the place of those that are computed. -/
lemma layout_of_chosen {format : PixelFormat}
    (hL : Layout.compute g.device g.width g.height format g.tiling = .ok L)
    (hstride : 0 < g.stride) (hsize : 0 < g.size) :
    g.layout format = .ok { L with stride := g.stride, size := g.size } := by
  rw [Geometry.layout, hL]
  simp only [Nat.ne_of_gt hstride, Nat.ne_of_gt hsize, ↓reduceIte]
  rfl

/-- Luma comes before the second plane when its last sample does. -/
lemma luma_before_iff {S w h second : Nat} (hw : 0 < w) (hh : 0 < h) :
    (∀ r < h, ∀ c < w, r * S + c < second) ↔ (h - 1) * S + w ≤ second := by
  constructor
  · intro all
    have := all (h - 1) (by omega) (w - 1) (by omega)
    omega
  · intro last r hr c hc
    have : r * S ≤ (h - 1) * S := Nat.mul_le_mul_right S (by omega)
    omega

/-- The byte at a place of a buffer with a stride of its own that has been prepared. -/
def stretchedByte (g : Geometry) (L : Layout) (i : Nat) : UInt8 :=
  if i < L.offset 1 then blackLuma
  else if i < L.offset 1 + halfUp g.height * g.stride then neutralChroma
  else 0

/-- Only what comes before the second plane is black. -/
lemma stretchedByte_eq_black {i : Nat} : stretchedByte g L i = blackLuma ↔ i < L.offset 1 := by
  rw [stretchedByte]
  split
  · next before => exact iff_of_true rfl before
  · next behind =>
    refine iff_of_false ?_ behind
    split <;> decide

/-- The rows of luma lie in the buffer, and so do those of chroma, which begin where they would
have with the stride that was computed. -/
lemma rows_le_size (hL : Layout.compute g.device g.width g.height .nv12 g.tiling = .ok L)
    (hluma : Layout.planeRows g.device g.tiling .nv12 g.height 0 = .ok lumaRows)
    (hchroma : Layout.planeRows g.device g.tiling .nv12 g.height 1 = .ok chromaRows)
    (hstride : L.stride ≤ g.stride) (hsize : g.stride * (lumaRows + chromaRows) ≤ g.size) :
    g.height * g.stride ≤ g.size ∧ L.offset 1 + halfUp g.height * g.stride ≤ g.size := by
  have second : L.offset 1 ≤ lumaRows * g.stride := by
    rw [Layout.offset_one_of_compute hL hluma, Nat.mul_comm]
    exact Nat.mul_le_mul_left _ hstride
  have lumaEnd : g.height * g.stride ≤ lumaRows * g.stride :=
    Nat.mul_le_mul_right _ (Layout.height_le_planeRows hluma)
  have chromaEnd : halfUp g.height * g.stride ≤ chromaRows * g.stride :=
    Nat.mul_le_mul_right _ (Layout.height_le_planeRows hchroma)
  have room : lumaRows * g.stride + chromaRows * g.stride ≤ g.size := by
    rwa [← Nat.add_mul, Nat.mul_comm]
  omega

/-- A framebuffer that has been made with a stride and a size of its own has the layout that was
computed but for these, and its buffer is prepared by that layout. -/
lemma Made.chosen (hm : Made PixelFormat.nv12.code g s fb s')
    (hL : Layout.compute g.device g.width g.height .nv12 g.tiling = .ok L)
    (hstride : 0 < g.stride) (hsize : 0 < g.size) :
    fb.layout = { L with stride := g.stride, size := g.size } ∧
      ∃ b, s'.buffer? fb.buffer = some b ∧
        ∀ i < g.size, b.bytes[i]? = some (stretchedByte g L i) := by
  have format : fb.format = .nv12 := hm.format_eq (by decide)
  have layout : fb.layout = { L with stride := g.stride, size := g.size } := by
    have asked := hm.layout
    rw [format, layout_of_chosen hL hstride hsize] at asked
    exact (Except.ok.inj asked).symm
  obtain ⟨b, hb, -, hbytes⟩ := hm.buffer
  refine ⟨layout, b, hb.self, fun i hi => ?_⟩
  rw [hbytes, format, hm.geometry.2.1, layout]
  exact getElem?_prepared_zeros (by rfl) hi

/-- A framebuffer that has been made with a stride of its own. -/
lemma Made.stretched (hm : Made PixelFormat.nv12.code g s fb s')
    (hL : Layout.compute g.device g.width g.height .nv12 g.tiling = .ok L)
    (hluma : Layout.planeRows g.device g.tiling .nv12 g.height 0 = .ok lumaRows)
    (hchroma : Layout.planeRows g.device g.tiling .nv12 g.height 1 = .ok chromaRows)
    (hstride : L.stride ≤ g.stride) (hsize : g.stride * (lumaRows + chromaRows) ≤ g.size) :
    ∃ b, s'.buffer? fb.buffer = some b ∧ Stretched g L fb b.bytes := by
  have sound := Layout.sound_of_compute hL
  obtain ⟨hw, hh, -⟩ := Layout.compute_eq_ok.1 hL
  obtain ⟨hrow, hpair⟩ := Nv12.row_le_stride sound
  obtain ⟨lumaEnd, chromaEnd⟩ := rows_le_size hL hluma hchroma hstride hsize
  have pos : 0 < g.stride := by omega
  have full : 0 < g.height * g.stride := Nat.mul_pos hh pos
  obtain ⟨layout, b, hb, bytes⟩ := hm.chosen hL pos (by omega)
  have first : fb.layout.offset 0 = 0 := layout ▸ sound.first
  have second : fb.layout.offset 1 = L.offset 1 := layout ▸ rfl
  have wide : fb.layout.stride = g.stride := layout ▸ rfl
  -- luma begins with the buffer, and so its samples are told by their places
  have luma : ∀ r < g.height, ∀ c < g.width,
      b.bytes[fb.layout.offset 0 + r * fb.layout.stride + c]? =
        some (stretchedByte g L (r * g.stride + c)) := by
    intro r hr c hc
    have inside := row_end_le hr (Nat.le_trans hrow hstride)
    rw [first, wide, Nat.zero_add]
    exact bytes _ (by omega)
  have black_iff : ∀ r < g.height, ∀ c < g.width,
      (b.bytes[fb.layout.offset 0 + r * fb.layout.stride + c]? = some blackLuma ↔
        r * g.stride + c < L.offset 1) := by
    intro r hr c hc
    rw [luma r hr c hc, Option.some_inj, stretchedByte_eq_black]
  refine ⟨b, hb, wide, layout ▸ rfl, fun r hr c hc => ?_, luma, ?_, ?_⟩
  · have inside := row_end_le hr (Nat.le_trans hpair hstride)
    rw [second, wide, bytes _ (by omega), stretchedByte, if_neg (by omega), if_pos (by omega)]
  · rw [Layout.parted_iff first hw hh (by omega) (by omega), second, wide]
  · rw [← luma_before_iff hw hh]
    constructor
    · intro black r hr c hc
      exact (black_iff r hr c hc).1 (black.2 r hr c hc)
    · intro before
      refine ⟨fun r hr c hc r' _ c' _ => ?_, fun r hr c hc =>
        (black_iff r hr c hc).2 (before r hr c hc)⟩
      -- a sample before the second plane is none of its samples
      have := before r hr c hc
      rw [first, second, wide]
      omega

variable {σ : Type} [Backend σ] [StoreHost σ]

/-- **A framebuffer with a stride of its own keeps the beginnings of its planes.** The stride is at
least what luma and chroma ask for, and the buffer has room for the rows of both. Then every sample
of chroma is neutral when the framebuffer has been made, and all of luma is black and apart from it
exactly if luma ends before the second plane begins; otherwise the samples of luma from there on are
neutral chroma, or zero. -/
theorem create_stretched {r r' : Run σ}
    (hL : Layout.compute g.device g.width g.height .nv12 g.tiling = .ok L)
    (hluma : Layout.planeRows g.device g.tiling .nv12 g.height 0 = .ok lumaRows)
    (hchroma : Layout.planeRows g.device g.tiling .nv12 g.height 1 = .ok chromaRows)
    (hstride : L.stride ≤ g.stride) (hsize : g.stride * (lumaRows + chromaRows) ≤ g.size)
    (hcreate : create PixelFormat.nv12.code g r = .ok fb r') :
    ∃ b, (StoreHost.store r'.host).buffer? fb.buffer = some b ∧ Stretched g L fb b.bytes := by
  have made : Made PixelFormat.nv12.code g (StoreHost.store r.host) fb (StoreHost.store r'.host) :=
    does_create.ends.of_ok hcreate
  exact made.stretched hL hluma hchroma hstride hsize

/-- Four pixels with twice the stride that they ask for. -/
def stretchedSquare : Geometry :=
  { device := .standard, width := 2, height := 2, tiling := .linear, size := 384, stride := 128 }

lemma exists_square : ∃ fb r,
    create PixelFormat.nv12.code stretchedSquare nowhere = .ok fb r :=
  exists_create rfl rfl (by decide)

/-- The second row of luma begins where chroma does. -/
theorem create_square_stretched : ∃ (L : Layout) (fb : Framebuffer) (r : Run Store),
    Layout.compute .standard 2 2 .nv12 .linear = .ok L ∧
      Layout.planeRows .standard .linear .nv12 2 0 = .ok 2 ∧
      Layout.planeRows .standard .linear .nv12 2 1 = .ok 1 ∧
      L.stride ≤ 128 ∧ 128 * (2 + 1) ≤ 384 ∧
      create PixelFormat.nv12.code stretchedSquare nowhere = .ok fb r ∧
      ∃ b, r.host.buffer? fb.buffer = some b ∧ Stretched stretchedSquare L fb b.bytes := by
  obtain ⟨fb, r, hcreate⟩ := exists_square
  refine ⟨⟨64, 192, #v[0, 128, 0, 0]⟩, fb, r, rfl, rfl, rfl, by decide, by decide, hcreate, ?_⟩
  exact create_stretched (g := stretchedSquare) rfl rfl rfl (by decide) (by decide) hcreate

/-- A byte of luma is one of chroma, and not black. -/
theorem create_square_merges : ∃ (fb : Framebuffer) (r : Run Store) (b : Buffer),
    create PixelFormat.nv12.code stretchedSquare nowhere = .ok fb r ∧
      r.host.buffer? fb.buffer = some b ∧ ¬fb.layout.Parted 2 2 ∧
      b.bytes[fb.layout.offset 0 + 1 * fb.layout.stride + 0]? = some neutralChroma := by
  obtain ⟨fb, r, hcreate⟩ := exists_square
  obtain ⟨b, hb, stretched⟩ := @Made.stretched stretchedSquare ⟨64, 192, #v[0, 128, 0, 0]⟩ fb _ _
    2 1 (made_of_create hcreate) rfl rfl rfl (by decide) (by decide)
  refine ⟨fb, r, b, hcreate, hb, fun parted => ?_, ?_⟩
  · exact absurd (stretched.parted.1 parted) (by decide)
  · exact stretched.luma 1 (by decide) 0 (by decide)

end Framebuffer

end Scanout
