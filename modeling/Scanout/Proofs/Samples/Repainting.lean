/-
What painting makes of an image does not depend on its layout.

* `Layout.repainted`: the bytes of an image after painting operations, whatever host they are on;
* `Layout.repainted_packed`, `Layout.repainted_planar`: packed pixels are painted in place, and
  planes by way of packed pixels;
* `Layout.repainted_same`: **the same image is painted the same**, whatever its layouts are;
* `Layout.exists_repainted`: an image can be painted unless its packed pixels are too wide.
-/
import Scanout.Proofs.Samples.Nv12
import Scanout.Proofs.Samples.Painting
import Scanout.View.Acquire

namespace Scanout

/-- The bytes of an image after painting operations: packed pixels are painted in place, and planes
are converted to packed pixels and back. -/
def Layout.repainted [Machine] (L : Layout) (f : PixelFormat) (w h : Nat) (l : List Stroke)
    (d : Bytes) : Checked Bytes :=
  if f.isPlanar then do
    let stride ← View.scratchStride w
    let data ← Nv12.unpack w h d L.placement (roundUp (stride * h) Machine.pageSize) stride
    let c ← Canvas.make data w h stride f.packing
    let c ← Checked.need (c.strokes? l)
    Nv12.encode w h c.data stride d L.placement
  else do
    let c ← Canvas.make d w h L.stride f.packing
    let c ← Checked.need (c.strokes? l)
    return c.data

variable {f : PixelFormat} {w h stride : Nat} {l : List Stroke} {L M : Layout} {d e : Bytes}

/-- Formats with packed pixels are painted in pixels of their own size, and there is one other. -/
lemma PixelFormat.of_registry (hf : f ∈ registry) :
    if f.isPlanar then f = nv12 else f.bpp / 8 = f.packing.bytesPerPixel := by
  simp only [registry, List.mem_cons, List.not_mem_nil, or_false] at hf
  rcases hf with rfl | rfl | rfl | rfl | rfl <;> rfl

lemma Canvas.make_eq_ok {p : Packing} (hrow : w * p.bytesPerPixel ≤ stride)
    (hd : (h - 1) * stride + w * p.bytesPerPixel ≤ d.size) :
    Canvas.make d w h stride p = .ok ⟨d, w, h, stride, p⟩ := by
  rw [make, if_neg (Nat.not_lt.2 hrow), if_neg fun hs => Nat.not_lt.2 hd hs.2]

namespace Layout

/-! ### Packed pixels -/

section Packed

variable (hf : ¬f.isPlanar) (hbpp : f.bpp / 8 = f.packing.bytesPerPixel)
include hf hbpp

/-- The bytes of packed pixels are those of the rows of one plane. -/
lemma sample_packed {p y i : Nat} (hL : L.Sound f w h) :
    Sample.Of f w h ⟨p, y, i⟩ ↔ p = 0 ∧ OnRows h (w * f.packing.bytesPerPixel) (y, i) := by
  have hn := numPlanes_of_packed hf
  obtain ⟨row, hrow, -⟩ := hL.row 0 (by omega)
  obtain ⟨-, heq⟩ := fit32_eq_ok.1 ((rowBytes_of_packed hf).1 hrow)
  rw [hbpp] at heq
  simp only [Sample.Of, OnRows, hn, Nat.lt_one_iff, height_of_packed hf]
  constructor
  · rintro ⟨rfl, hy, row', hrow', hi⟩
    cases hrow.symm.trans hrow'
    exact ⟨rfl, hy, heq ▸ hi⟩
  · rintro ⟨rfl, hy, hi⟩
    exact ⟨rfl, hy, row, hrow, heq ▸ hi⟩

lemma packed_le_stride (hL : L.Sound f w h) : w * f.packing.bytesPerPixel ≤ L.stride := by
  obtain ⟨row, hrow, hle⟩ := hL.row 0 (numPlanes_of_packed hf ▸ Nat.one_pos)
  obtain ⟨-, heq⟩ := fit32_eq_ok.1 ((rowBytes_of_packed hf).1 hrow)
  rw [← hbpp, heq]
  exact hle

lemma packed_le_size (hL : L.Sound f w h) (hh : 0 < h) :
    (h - 1) * L.stride + w * f.packing.bytesPerPixel ≤ L.size := by
  have hin := hL.inside 0 (numPlanes_of_packed hf ▸ Nat.one_pos)
  rw [height_of_packed hf, hL.first, Nat.zero_add] at hin
  calc
    _ ≤ h * L.stride := row_end_le (by omega) (packed_le_stride hf hbpp hL)
    _ ≤ L.size := hin

/-- Packed pixels are the same when their rows are. -/
lemma same_packed {m n : Nat} (hL : L.Sound f w h) (hM : M.Sound f w h) :
    Places.Same (places hL) (places hM) m n d e ↔
      Places.Same (.rows (packed_le_stride hf hbpp hL) : Places (OnRows h _))
        (.rows (packed_le_stride hf hbpp hM)) m n d e := by
  have hplace : ∀ {N : Layout} (b : Bytes), N.Sound f w h → ∀ y i,
      b[N.place ⟨0, y, i⟩]? = b[y * N.stride + i]? := by
    intro N b hN y i
    rw [place, hN.first, Nat.zero_add]
  constructor
  · rintro ⟨hd, he, hs⟩
    refine ⟨hd, he, fun ⟨y, i⟩ hi => ?_⟩
    obtain ⟨x, hx, hx'⟩ := hs ⟨0, y, i⟩ ((sample_packed hf hbpp hL).2 ⟨rfl, hi⟩)
    exact ⟨x, (hplace d hL y i).symm.trans hx, (hplace e hM y i).symm.trans hx'⟩
  · rintro ⟨hd, he, hs⟩
    refine ⟨hd, he, fun ⟨p, y, i⟩ hi => ?_⟩
    obtain ⟨rfl, hrows⟩ := (sample_packed hf hbpp hL).1 hi
    obtain ⟨x, hx, hx'⟩ := hs (y, i) hrows
    exact ⟨x, (hplace d hL y i).trans hx, (hplace e hM y i).trans hx'⟩

variable [Machine]

/-- Packed pixels are painted in place. -/
lemma repainted_of_packed (hh : 0 < h) (hL : L.Sound f w h) (hd : d.size = L.size) :
    L.repainted f w h l d = do
      let c ← Checked.need ((⟨d, w, h, L.stride, f.packing⟩ : Canvas).strokes? l)
      return c.data := by
  rw [repainted, if_neg hf, Canvas.make_eq_ok (packed_le_stride hf hbpp hL)]
  · rfl
  · rw [hd]
    exact packed_le_size hf hbpp hL hh

/-- The same packed pixels are painted the same. -/
lemma repainted_packed (hh : 0 < h) {hL : L.Sound f w h} {hM : M.Sound f w h}
    (hde : Places.Same (places hL) (places hM) L.size M.size d e) :
    ∃ d' e', L.repainted f w h l d = .ok d' ∧ M.repainted f w h l e = .ok e' ∧
      Places.Same (places hL) (places hM) L.size M.size d' e' := by
  have pair : (⟨L.size, w, h, L.stride, f.packing⟩ : Canvas.Shape).Pair
      ⟨M.size, w, h, M.stride, f.packing⟩ :=
    ⟨rfl, rfl, rfl, packed_le_stride hf hbpp hL, packed_le_stride hf hbpp hM⟩
  have twins : Canvas.Twins pair ⟨d, w, h, L.stride, f.packing⟩ ⟨e, w, h, M.stride, f.packing⟩ :=
    ⟨by rw [Canvas.shape, hde.left], by rw [Canvas.shape, hde.right],
      (same_packed hf hbpp hL hM).1 hde⟩
  obtain ⟨c, c', hc, hc', htwins⟩ := twins.strokes (l := l)
  refine ⟨c.data, c'.data, ?_, ?_, (same_packed hf hbpp hL hM).2 htwins.same⟩
  · rw [repainted_of_packed hf hbpp hh hL hde.left, hc]
    rfl
  · rw [repainted_of_packed hf hbpp hh hM hde.right, hc']
    rfl

end Packed

/-! ### Planes -/

/-- A row of a converted image holds its pixels. -/
lemma le_scratchStride (hs : View.scratchStride w = .ok stride) : 4 * w ≤ stride := by
  obtain ⟨row, hrow, hs⟩ := Checked.bind_eq_ok.1 hs
  obtain ⟨-, rfl⟩ := fit32_eq_ok.1 hrow
  obtain ⟨hpos, -, rfl⟩ := alignUp_eq_ok.1 hs
  have := le_roundUp hpos (w * 4)
  omega

/-- A converted image holds all its rows. -/
lemma le_scratchSize [Machine] (hs : View.scratchStride w = .ok stride) (hh : 0 < h) :
    (h - 1) * stride + 4 * w ≤ roundUp (stride * h) Machine.pageSize := by
  calc
    _ ≤ h * stride := row_end_le (by omega) (le_scratchStride hs)
    _ = stride * h := Nat.mul_comm h stride
    _ ≤ roundUp (stride * h) Machine.pageSize := le_roundUp Machine.pageSize_pos (stride * h)

/-- A canvas that holds all its pixels can be painted, and stays as large as it was. -/
lemma exists_painted {p : Packing} (hrow : w * p.bytesPerPixel ≤ stride)
    (hd : (h - 1) * stride + w * p.bytesPerPixel ≤ d.size) :
    ∃ c, (⟨d, w, h, stride, p⟩ : Canvas).strokes? l = some c ∧ c.data.size = d.size := by
  have pair : (⟨d.size, w, h, stride, p⟩ : Canvas.Shape).Pair ⟨d.size, w, h, stride, p⟩ :=
    ⟨rfl, rfl, rfl, hrow, hrow⟩
  have twins : Canvas.Twins pair ⟨d, w, h, stride, p⟩ ⟨d, w, h, stride, p⟩ := by
    refine ⟨rfl, rfl, rfl, rfl, fun ⟨y, i⟩ ⟨hy, hi⟩ => ?_⟩
    have hle : y ≤ h - 1 := Nat.le_sub_one_of_lt hy
    have hlt : y * stride + i < d.size := by
      calc
        _ < y * stride + w * p.bytesPerPixel := Nat.add_lt_add_left hi _
        _ ≤ (h - 1) * stride + w * p.bytesPerPixel :=
            Nat.add_le_add_right (Nat.mul_le_mul_right _ hle) _
        _ ≤ d.size := hd
    exact ⟨_, getElem?_pos d _ hlt, getElem?_pos d _ hlt⟩
  obtain ⟨c, _, hc, _, htwins⟩ := twins.strokes (l := l)
  exact ⟨c, hc, htwins.same.left⟩

variable [Machine]

/-- Planes whose packed pixels are too wide are not painted. -/
lemma repainted_wide {x : Failure} (hplanar : f.isPlanar)
    (hstride : View.scratchStride w = .error x) : L.repainted f w h l d = .error x := by
  rw [repainted, if_pos hplanar, hstride]
  rfl

/-- Planes are decoded into packed pixels, painted there and encoded again. -/
lemma repainted_of_planar {data d' : Bytes} {c c' : Canvas} (hplanar : f.isPlanar)
    (hstride : View.scratchStride w = .ok stride)
    (hdata : Nv12.unpack w h d L.placement (roundUp (stride * h) Machine.pageSize) stride =
      .ok data)
    (hmake : Canvas.make data w h stride f.packing = .ok c) (hc : c.strokes? l = some c')
    (hencode : Nv12.encode w h c'.data stride d L.placement = .ok d') :
    L.repainted f w h l d = .ok d' := by
  rw [repainted, if_pos hplanar, hstride]
  refine Checked.bind_eq_ok.2 ⟨stride, rfl, Checked.bind_eq_ok.2 ⟨data, hdata, ?_⟩⟩
  exact Checked.bind_eq_ok.2 ⟨c, hmake, Checked.bind_eq_ok.2 ⟨c', Checked.need_eq_ok.2 hc, hencode⟩⟩

/-- The same planes are painted the same, unless their packed pixels are too wide. -/
lemma repainted_planar (hh : 0 < h) {hL : L.Sound .nv12 w h} {hM : M.Sound .nv12 w h}
    (hde : Places.Same (places hL) (places hM) L.size M.size d e) :
    match View.scratchStride w with
    | .error x => L.repainted .nv12 w h l d = .error x ∧ M.repainted .nv12 w h l e = .error x
    | .ok _ => ∃ d' e', L.repainted .nv12 w h l d = .ok d' ∧ M.repainted .nv12 w h l e = .ok e' ∧
        Places.Same (places hL) (places hM) L.size M.size d' e' := by
  have planar : PixelFormat.nv12.isPlanar := rfl
  cases hstride : View.scratchStride w with
  | error x => exact ⟨repainted_wide planar hstride, repainted_wide planar hstride⟩
  | ok stride =>
      have hrow : w * 4 ≤ stride := Nat.mul_comm 4 w ▸ le_scratchStride hstride
      have hsize := le_scratchSize hstride hh
      -- both are decoded to the same packed pixels, which are painted and encoded once for both
      obtain ⟨data, hdata, hs⟩ := Nv12.unpack_ok hh hL hde.left hsize
      have hdata' := (Nv12.unpack_same hh hde (Nat.le_refl _) (Nat.le_refl _)).symm.trans hdata
      rw [Nat.mul_comm 4 w, ← hs] at hsize
      obtain ⟨c, hc, hcs⟩ := exists_painted (p := .xrgb8888) (l := l) hrow hsize
      have hmake : Canvas.make data w h stride PixelFormat.nv12.packing = .ok _ :=
        Canvas.make_eq_ok hrow hsize
      have hsrc : Nv12.packedAt stride (h - 1) w ≤ c.data.size := by
        rw [hcs, Nv12.packedAt, Nat.mul_comm 4]
        exact hsize
      obtain ⟨d', e', hd', he', hde'⟩ :=
        Nv12.encode_both hh hsrc hde (Nat.le_refl _) (Nat.le_refl _)
      exact ⟨d', e', repainted_of_planar planar hstride hdata hmake hc hd',
        repainted_of_planar planar hstride hdata' hmake hc he', hde'⟩

/-- **The same image is painted the same**, whatever its layouts are, or not at all where its packed
pixels are too wide. -/
lemma repainted_same (hf : f ∈ PixelFormat.registry) (hh : 0 < h) (hde : Same f w h L M d e) :
    (∃ x, f.isPlanar ∧ View.scratchStride w = .error x ∧ L.repainted f w h l d = .error x ∧
        M.repainted f w h l e = .error x) ∨
      ∃ d' e', L.repainted f w h l d = .ok d' ∧ M.repainted f w h l e = .ok e' ∧
        Same f w h L M d' e' := by
  obtain ⟨hL, hM, hde⟩ := hde
  have hformat := PixelFormat.of_registry hf
  by_cases hplanar : f.isPlanar
  · rw [if_pos hplanar] at hformat
    subst hformat
    have h' := repainted_planar (l := l) hh hde
    cases hstride : View.scratchStride w with
    | error x =>
        rw [hstride] at h'
        exact .inl ⟨x, hplanar, rfl, h'⟩
    | ok stride =>
        rw [hstride] at h'
        obtain ⟨d', e', hd', he', hde'⟩ := h'
        exact .inr ⟨d', e', hd', he', hL, hM, hde'⟩
  · rw [if_neg hplanar] at hformat
    obtain ⟨d', e', hd', he', hde'⟩ := repainted_packed (l := l) hplanar hformat hh hde
    exact .inr ⟨d', e', hd', he', hL, hM, hde'⟩

/-- An image can be painted, and stays as large as it was, unless its packed pixels are too wide. -/
lemma exists_repainted (hf : f ∈ PixelFormat.registry) (hh : 0 < h) (hL : L.Sound f w h)
    (hd : d.size = L.size) (hstride : f.isPlanar → ∃ stride, View.scratchStride w = .ok stride) :
    ∃ d', L.repainted f w h l d = .ok d' ∧ d'.size = L.size := by
  rcases repainted_same (l := l) hf hh ⟨hL, hL, same_self hL hd⟩ with
    ⟨x, hplanar, hwide, -⟩ | ⟨d', _, hd', -, _, _, hsame⟩
  · obtain ⟨stride, hstride⟩ := hstride hplanar
    cases hwide.symm.trans hstride
  · exact ⟨d', hd', hsame.left⟩

end Layout

end Scanout
