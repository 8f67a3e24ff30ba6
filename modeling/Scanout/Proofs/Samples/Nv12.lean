/-
The conversion between planes and packed pixels does not depend on where the planes lie.

* `Layout.placement`: where the two planes of an image lie in a layout;
* `Nv12.fits_placement`: a buffer with a layout that is sound holds both planes;
* `Nv12.unpack_same`: **the same packed pixels come from the same samples**;
* `Nv12.encode_both`: **the same samples come from the same packed pixels**, and the conversion
  succeeds.
-/
import Scanout.Proofs.Nv12.Room
import Scanout.Proofs.Samples.Planes

namespace Scanout

/-- Where the two planes of an image lie in a layout. -/
def Layout.placement (L : Layout) : Nv12.Placement :=
  ⟨L.stride, L.offset 0, L.offset 1⟩

namespace Nv12

variable {w h : Nat} {L M : Layout} {m n row column i : Nat} {d e src dst : Bytes}

/-! ### The samples of the two planes -/

/-- A luma byte for every pixel. -/
lemma sample_luma (hL : L.Sound .nv12 w h) (hrow : row < h) (hcol : column < w) :
    Sample.Of .nv12 w h ⟨0, row, column⟩ := by
  refine ⟨Nat.two_pos, hrow, ?_⟩
  obtain ⟨bytes, hbytes, -⟩ := hL.row 0 Nat.two_pos
  obtain ⟨bpp, hbpp, -, rfl⟩ := Plane.rowBytes_eq_ok.1 hbytes
  cases hbpp
  refine ⟨_, hbytes, ?_⟩
  show column < w * (8 / 8)
  omega

/-- Two chroma bytes for every block. -/
lemma sample_chroma (hL : L.Sound .nv12 w h) (hrow : row < halfUp h) (hi : i < 2 * halfUp w) :
    Sample.Of .nv12 w h ⟨1, row, i⟩ := by
  refine ⟨Nat.one_lt_two, hrow, ?_⟩
  obtain ⟨bytes, hbytes, -⟩ := hL.row 1 Nat.one_lt_two
  obtain ⟨bpp, hbpp, -, rfl⟩ := Plane.rowBytes_eq_ok.1 hbytes
  cases hbpp
  refine ⟨_, hbytes, ?_⟩
  show i < halfUp w * (16 / 8)
  omega

lemma row_le_stride (hL : L.Sound .nv12 w h) : w ≤ L.stride ∧ 2 * halfUp w ≤ L.stride := by
  constructor
  · obtain ⟨bytes, hbytes, hle⟩ := hL.row 0 Nat.two_pos
    obtain ⟨bpp, hbpp, -, rfl⟩ := Plane.rowBytes_eq_ok.1 hbytes
    cases hbpp
    have : w * (8 / 8) ≤ L.stride := hle
    omega
  · obtain ⟨bytes, hbytes, hle⟩ := hL.row 1 Nat.one_lt_two
    obtain ⟨bpp, hbpp, -, rfl⟩ := Plane.rowBytes_eq_ok.1 hbytes
    cases hbpp
    have : halfUp w * (16 / 8) ≤ L.stride := hle
    omega

/-- A buffer with a layout that is sound holds both planes. -/
lemma fits_placement (hL : L.Sound .nv12 w h) (hh : 0 < h) (hsize : L.size ≤ m) :
    L.placement.Fits w h m := by
  obtain ⟨hluma, hchroma⟩ := row_le_stride hL
  have hin₀ : L.offset 0 + h * L.stride ≤ L.size := hL.inside 0 Nat.two_pos
  have hin₁ : L.offset 1 + halfUp h * L.stride ≤ L.size := hL.inside 1 Nat.one_lt_two
  have hend₀ := row_end_le (show h - 1 < h by omega) hluma
  have hblocks : 0 < halfUp h := half_lt_halfUp hh
  have hend₁ := row_end_le (show halfUp h - 1 < halfUp h by omega) hchroma
  constructor
  · simp only [Placement.lumaEnd, Placement.lumaAt, Layout.placement]
    omega
  · simp only [Placement.chromaEnd, Placement.chromaAt, Layout.placement]
    omega

/-! ### From planes to packed pixels -/

lemma chroma?_eq {b : Bytes} {pos : Nat} {cb cr : UInt8} (hcb : b[pos]? = some cb)
    (hcr : b[pos + 1]? = some cr) : chroma? b pos = some ⟨cb, cr⟩ := by
  simp [chroma?, hcb, hcr]

variable {hL : L.Sound .nv12 w h} {hM : M.Sound .nv12 w h}

/-- A pixel of the same samples has the same colours. -/
lemma decodePixel_eq {stride : Nat}
    (hde : Places.Same (Layout.places hL) (Layout.places hM) m n d e) (hrow : row < h)
    (hcol : column < w) : ∃ color, ∀ dst,
      decodePixel d L.placement stride row column dst =
          putBgr? dst (packedAt stride row column) color ∧
        decodePixel e M.placement stride row column dst =
          putBgr? dst (packedAt stride row column) color := by
  obtain ⟨luma, hd, he⟩ := hde.sample _ (sample_luma hL hrow hcol)
  have hr : row / 2 < halfUp h := half_lt_halfUp hrow
  have hblock : column / 2 < halfUp w := half_lt_halfUp hcol
  have hc : 2 * (column / 2) + 1 < 2 * halfUp w := by omega
  obtain ⟨cb, hcbd, hcbe⟩ := hde.sample _ (sample_chroma hL hr (Nat.lt_of_succ_lt hc))
  obtain ⟨cr, hcrd, hcre⟩ := hde.sample _ (sample_chroma hL hr hc)
  have hd : d[L.placement.lumaAt row column]? = some luma := hd
  have he : e[M.placement.lumaAt row column]? = some luma := he
  have hchd : chroma? d (L.placement.chromaAt (row / 2) (column / 2)) = some ⟨cb, cr⟩ :=
    chroma?_eq hcbd hcrd
  have hche : chroma? e (M.placement.chromaAt (row / 2) (column / 2)) = some ⟨cb, cr⟩ :=
    chroma?_eq hcbe hcre
  -- a pixel is made from three samples, and they are the same in both layouts
  refine ⟨toBgr luma ⟨cb, cr⟩, fun dst => ⟨?_, ?_⟩⟩
  · simp [decodePixel, hd, hchd]
  · simp [decodePixel, he, hche]

/-- **The same packed pixels come from the same samples.** -/
lemma unpack_same {size stride : Nat} (hh : 0 < h)
    (hde : Places.Same (Layout.places hL) (Layout.places hM) m n d e)
    (hm : L.size ≤ m) (hn : M.size ≤ n) :
    unpack w h d L.placement size stride = unpack w h e M.placement size stride := by
  have hd := (fits_placement hL hh (hde.left ▸ hm)).checkPlanes
  have he := (fits_placement hM hh (hde.right ▸ hn)).checkPlanes
  rw [unpack_eq_decode, unpack_eq_decode]
  simp only [decode]
  rw [hd, he]
  have hrows : ∀ blockRow, 0 ≤ blockRow → blockRow < 0 + halfUp h → ∀ dst,
      decodeBlockRow w h d L.placement stride blockRow dst =
        decodeBlockRow w h e M.placement stride blockRow dst := fun blockRow _ hb dst =>
    sweep_congr fun column _ hc dst => sweep_congr fun i _ hi dst => by
      obtain ⟨color, hcolor⟩ := decodePixel_eq hde (show 2 * blockRow + i < h by omega)
        (show column < w by omega)
      exact (hcolor dst).1.trans (hcolor dst).2.symm
  rw [sweep_congr hrows]

/-- Packed pixels come from all planes that are there, if there is room for them. -/
lemma unpack_ok {size stride : Nat} (hh : 0 < h) (hL : L.Sound .nv12 w h) (hd : d.size = L.size)
    (hsize : packedAt stride (h - 1) w ≤ size) :
    ∃ data, unpack w h d L.placement size stride = .ok data ∧ data.size = size := by
  have hroom : packedAt stride (h - 1) w ≤ (Bytes.zeros size).size :=
    (Bytes.size_zeros size).symm ▸ hsize
  obtain ⟨data, hdata, hs⟩ :=
    decode_ok (fits_placement hL hh (Nat.le_of_eq hd.symm)) hroom
  exact ⟨data, (unpack_eq_decode ..).trans hdata, hs.trans (Bytes.size_zeros size)⟩

/-! ### From packed pixels to planes -/

/-- The same luma is stored. -/
lemma encodeLuma_both {stride : Nat} (hsrc : packedAt stride (h - 1) w ≤ src.size)
    (hde : Places.Same (Layout.places hL) (Layout.places hM) m n d e) :
    Both (Places.Same (Layout.places hL) (Layout.places hM) m n)
      (encodeLuma w h src stride L.placement d) (encodeLuma w h src stride M.placement e) := by
  refine sweepArea_both (fun column _ hcol row _ hrow d e hde => ?_) hde
  rw [Nat.zero_add] at hcol hrow
  obtain ⟨color, hcolor⟩ := bgr?_isSome hsrc hrow hcol
  rw [hcolor]
  exact hde.put (sample_luma hL hrow hcol)

/-- The same chroma is stored. -/
lemma encodeChroma_both {stride : Nat} (hsrc : packedAt stride (h - 1) w ≤ src.size)
    (hde : Places.Same (Layout.places hL) (Layout.places hM) m n d e) :
    Both (Places.Same (Layout.places hL) (Layout.places hM) m n)
      (encodeChroma w h src stride L.placement d) (encodeChroma w h src stride M.placement e) := by
  refine sweepArea_both (fun column _ hcol row _ hrow d e hde => ?_) hde
  rw [Nat.zero_add] at hcol hrow
  obtain ⟨chroma, hchroma⟩ := blockChroma?_isSome hsrc hrow hcol
  rw [hchroma]
  have hi : 2 * column + 1 < 2 * halfUp w := by omega
  refine (hde.put (sample_chroma hL hrow (Nat.lt_of_succ_lt hi))).bind ?_
  intro d e hde
  exact hde.put (sample_chroma hL hrow hi)

/-- **The same samples come from the same packed pixels**, and the conversion succeeds. -/
lemma encode_both {stride : Nat} (hh : 0 < h) (hsrc : packedAt stride (h - 1) w ≤ src.size)
    (hde : Places.Same (Layout.places hL) (Layout.places hM) m n d e)
    (hm : L.size ≤ m) (hn : M.size ≤ n) :
    ∃ d' e', encode w h src stride d L.placement = .ok d' ∧
      encode w h src stride e M.placement = .ok e' ∧
      Places.Same (Layout.places hL) (Layout.places hM) m n d' e' := by
  have hd := (fits_placement hL hh (hde.left ▸ hm)).checkPlanes
  have he := (fits_placement hM hh (hde.right ▸ hn)).checkPlanes
  simp only [encode]
  by_cases hempty : w = 0 ∨ h = 0
  · simp only [hempty, ↓reduceIte]
    exact ⟨d, e, rfl, rfl, hde⟩
  · simp only [hempty, ↓reduceIte, checkPacked, requireLength_ok hsrc, hd, he]
    obtain ⟨d', e', hd', he', h'⟩ :=
      (encodeLuma_both hsrc hde).bind fun d e hde => encodeChroma_both hsrc hde
    exact ⟨d', e', congrArg Checked.need hd', congrArg Checked.need he', h'⟩

end Nv12

end Scanout
