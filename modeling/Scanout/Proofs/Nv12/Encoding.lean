/-
Planes from packed pixels, sample by sample.

* `Nv12.Placement.Apart`: no luma byte of an image is a chroma byte as well, and rows of either do
  not reach into each other;
* `Nv12.Placement.Spares`: a place is outside the rows of both planes;
* `Nv12.Encoded`: every luma byte is that of its pixel, and every chroma pair that of the left
  pixels of its block, of one row or of two;
* `Nv12.encode_encoded`: **what has been encoded is the luma and chroma of the packed pixels**;
* `Nv12.encode_spares`: **every byte outside the rows of both planes stays**;
* `Nv12.Encoded.chroma?_eq`: only left pixels make chroma;
* `Nv12.encode_exact`: where there is room for the image it is encoded, sample by sample, and
  nothing else is stored.
-/
import Scanout.Nv12.Encode
import Scanout.Proofs.Nv12.Decoding

namespace Scanout.Nv12

variable {w h stride pos q row column row' column' blockRow blockColumn j : Nat} {p : Placement}
  {src dst dst' b b' : Bytes} {chroma : Chroma}

/-! ### One chroma pair -/

lemma getElem?_putChroma? {i : Nat} (hput : putChroma? b pos chroma = some b') :
    b'[i]? = if i = pos + 1 then some chroma.cr else if i = pos then some chroma.cb else b[i]? := by
  obtain ⟨b₁, h₁, h₂⟩ := Option.bind_eq_some_iff.1 hput
  rw [Bytes.getElem?_put? h₂, Bytes.getElem?_put? h₁]

/-- The pair that was put is read back. -/
lemma chroma?_putChroma?_self (hput : putChroma? b pos chroma = some b') :
    chroma? b' pos = some chroma := by
  simp [chroma?, getElem?_putChroma? hput]

/-- A pair that lies apart stays. -/
lemma chroma?_putChroma?_of_apart (hput : putChroma? b pos chroma = some b')
    (hq : q + 2 ≤ pos ∨ pos + 2 ≤ q) : chroma? b' q = chroma? b q := by
  have same : ∀ k < 2, b'[q + k]? = b[q + k]? := by
    intro k hk
    rw [getElem?_putChroma? hput, if_neg (by omega), if_neg (by omega)]
  rw [chroma?, chroma?, same 1 (by decide), show b'[q]? = b[q]? from same 0 (by decide)]

/-! ### Where samples lie -/

namespace Placement

/-- No luma byte of an image is a chroma byte as well, and rows of either plane do not reach into
each other. -/
structure Apart (p : Placement) (w h : Nat) : Prop where
  wide : 2 * halfUp w ≤ p.stride
  planes : ∀ row < h, ∀ column < w, ∀ blockRow < halfUp h, ∀ i < 2 * halfUp w,
    p.lumaAt row column ≠ p.chromaAt blockRow 0 + i

/-- A place is outside the rows of both planes. -/
structure Spares (p : Placement) (w h j : Nat) : Prop where
  luma : ∀ row < h, j < p.lumaAt row 0 ∨ p.lumaAt row w ≤ j
  chroma : ∀ blockRow < halfUp h, j < p.chromaAt blockRow 0 ∨ p.chromaAt blockRow (halfUp w) ≤ j

/-- Luma bytes lie apart from each other. -/
lemma Apart.luma_ne (hp : p.Apart w h) (hcol : column < w) (hcol' : column' < w)
    (hne : ¬(column' = column ∧ row' = row)) : p.lumaAt row column ≠ p.lumaAt row' column' := by
  intro heq
  have hw : w ≤ p.stride := Nat.le_trans (by rw [halfUp]; omega) hp.wide
  obtain ⟨rfl, rfl⟩ := row_column_inj hw hcol hcol'
    (show row * p.stride + column = row' * p.stride + column' by simp only [lumaAt] at heq; omega)
  exact hne ⟨rfl, rfl⟩

/-- Chroma pairs lie apart from each other. -/
lemma Apart.chroma_apart {blockRow' blockColumn' : Nat} (hp : p.Apart w h)
    (hcol : blockColumn < halfUp w) (hcol' : blockColumn' < halfUp w)
    (hne : ¬(blockColumn' = blockColumn ∧ blockRow' = blockRow)) :
    p.chromaAt blockRow blockColumn + 2 ≤ p.chromaAt blockRow' blockColumn' ∨
      p.chromaAt blockRow' blockColumn' + 2 ≤ p.chromaAt blockRow blockColumn := by
  have apart := cells_apart hp.wide hcol hcol' fun heq => hne ⟨heq.2, heq.1⟩
  simp only [chromaAt]
  omega

/-- A luma byte is neither byte of a chroma pair. -/
lemma Apart.luma_chroma (hp : p.Apart w h) (hrow : row < h) (hcol : column < w)
    (hblock : blockRow < halfUp h) (hpair : blockColumn < halfUp w) :
    p.lumaAt row column ≠ p.chromaAt blockRow blockColumn ∧
      p.lumaAt row column ≠ p.chromaAt blockRow blockColumn + 1 := by
  have apart := hp.planes row hrow column hcol blockRow hblock
  have first := apart (2 * blockColumn) (by omega)
  have second := apart (2 * blockColumn + 1) (by omega)
  simp only [chromaAt] at first second ⊢
  omega

end Placement

/-! ### The steps -/

/-- What the chroma of a block is made of. -/
lemma blockChroma?_eq_some (hblock : blockChroma? h src stride blockRow blockColumn = some chroma) :
    ∃ top, bgr? src (packedAt stride (2 * blockRow) (2 * blockColumn)) = some top ∧
      if 2 * blockRow + 1 < h then ∃ bottom,
        bgr? src (packedAt stride (2 * blockRow + 1) (2 * blockColumn)) = some bottom ∧
          chroma = pairChroma top bottom
      else chroma = singleChroma top := by
  obtain ⟨top, htop, hblock⟩ := Option.bind_eq_some_iff.1 hblock
  refine ⟨top, htop, ?_⟩
  split at hblock
  · next hpair =>
    obtain ⟨bottom, hbottom, hblock⟩ := Option.bind_eq_some_iff.1 hblock
    rw [if_pos hpair]
    exact ⟨bottom, hbottom, (Option.some.inj hblock).symm⟩
  · next hsingle =>
    rw [if_neg hsingle]
    exact (Option.some.inj hblock).symm

/-- A luma byte is that of its pixel. -/
def HasLuma (src : Bytes) (stride : Nat) (dst : Bytes) (p : Placement) (row column : Nat) : Prop :=
  ∃ color, bgr? src (packedAt stride row column) = some color ∧
    dst[p.lumaAt row column]? = some (luma color)

/-- A chroma pair is that of its block. -/
def HasChroma (h : Nat) (src : Bytes) (stride : Nat) (dst : Bytes) (p : Placement)
    (blockRow blockColumn : Nat) : Prop :=
  ∃ chroma, blockChroma? h src stride blockRow blockColumn = some chroma ∧
    chroma? dst (p.chromaAt blockRow blockColumn) = some chroma

/-- Every luma byte is stored, and those that are stored later lie apart. -/
lemma hasLuma_of_encodeLuma (hp : p.Apart w h) (hrow : row < h) (hcol : column < w)
    (hluma : encodeLuma w h src stride p dst = some dst') :
    HasLuma src stride dst' p row column := by
  refine sweepArea_establishes (P := fun dst => HasLuma src stride dst p row column)
    (Nat.zero_le column) (by omega) (Nat.zero_le row) (by omega) (fun _ _ hstep => ?_)
    (fun column' row' _ _ _ hlt _ _ hne hstep hs => ?_) hluma
  · obtain ⟨color, hcolor, hput⟩ := Option.bind_eq_some_iff.1 hstep
    exact ⟨color, hcolor, by rw [Bytes.getElem?_put? hput, if_pos rfl]⟩
  · obtain ⟨color, hcolor, hbyte⟩ := hs
    obtain ⟨_, -, hput⟩ := Option.bind_eq_some_iff.1 hstep
    have apart : p.lumaAt row column ≠ p.lumaAt row' column' := hp.luma_ne hcol (by omega) hne
    exact ⟨color, hcolor, by rw [Bytes.getElem?_put? hput, if_neg apart, hbyte]⟩

/-- No luma byte is lost to chroma. -/
lemma HasLuma.encodeChroma (hs : HasLuma src stride dst p row column) (hp : p.Apart w h)
    (hrow : row < h) (hcol : column < w)
    (hchroma : Nv12.encodeChroma w h src stride p dst = some dst') :
    HasLuma src stride dst' p row column := by
  refine sweepArea_invariant (P := fun dst => HasLuma src stride dst p row column)
    (fun blockColumn blockRow _ _ _ hcol' _ hrow' hstep hs => ?_) hchroma hs
  obtain ⟨color, hcolor, hbyte⟩ := hs
  obtain ⟨_, -, hput⟩ := Option.bind_eq_some_iff.1 hstep
  obtain ⟨hfirst, hsecond⟩ := hp.luma_chroma hrow hcol (show blockRow < halfUp h by omega)
    (show blockColumn < halfUp w by omega)
  exact ⟨color, hcolor, by rw [getElem?_putChroma? hput, if_neg hsecond, if_neg hfirst, hbyte]⟩

/-- Every chroma pair is stored, and those that are stored later lie apart. -/
lemma hasChroma_of_encodeChroma (hp : p.Apart w h) (hrow : blockRow < halfUp h)
    (hcol : blockColumn < halfUp w)
    (hchroma : encodeChroma w h src stride p dst = some dst') :
    HasChroma h src stride dst' p blockRow blockColumn := by
  refine sweepArea_establishes (P := fun dst => HasChroma h src stride dst p blockRow blockColumn)
    (Nat.zero_le blockColumn) (by omega) (Nat.zero_le blockRow) (by omega) (fun _ _ hstep => ?_)
    (fun column' row' _ _ _ hlt _ _ hne hstep hs => ?_) hchroma
  · obtain ⟨chroma, hblock, hput⟩ := Option.bind_eq_some_iff.1 hstep
    exact ⟨chroma, hblock, chroma?_putChroma?_self hput⟩
  · obtain ⟨chroma, hblock, hpair⟩ := hs
    obtain ⟨_, -, hput⟩ := Option.bind_eq_some_iff.1 hstep
    refine ⟨chroma, hblock, ?_⟩
    rw [chroma?_putChroma?_of_apart hput (hp.chroma_apart hcol (by omega) hne), hpair]

/-! ### The image -/

/-- Every luma byte is that of its pixel. Every chroma pair is that of the left pixels of its block:
of both rows, or of the one row that is left at the bottom. -/
structure Encoded (w h : Nat) (src : Bytes) (stride : Nat) (dst : Bytes) (p : Placement) :
    Prop where
  pixels : ∀ row < h, ∀ column < w, ∃ color, bgr? src (packedAt stride row column) = some color ∧
    dst[p.lumaAt row column]? = some (luma color)
  pairs : ∀ blockRow, 2 * blockRow + 1 < h → ∀ blockColumn < halfUp w, ∃ top bottom,
    bgr? src (packedAt stride (2 * blockRow) (2 * blockColumn)) = some top ∧
    bgr? src (packedAt stride (2 * blockRow + 1) (2 * blockColumn)) = some bottom ∧
    chroma? dst (p.chromaAt blockRow blockColumn) = some (pairChroma top bottom)
  singles : ∀ blockRow, 2 * blockRow + 1 = h → ∀ blockColumn < halfUp w, ∃ top,
    bgr? src (packedAt stride (2 * blockRow) (2 * blockColumn)) = some top ∧
    chroma? dst (p.chromaAt blockRow blockColumn) = some (singleChroma top)

/-- **What has been encoded is the luma and chroma of the packed pixels.** -/
theorem encode_encoded (hp : p.Apart w h) (hencode : encode w h src stride dst p = .ok dst') :
    Encoded w h src stride dst' p := by
  -- an empty image has neither pixels nor blocks
  by_cases hempty : w = 0 ∨ h = 0
  · refine ⟨fun row hrow column hcol => by omega, fun blockRow hrow blockColumn hcol => ?_,
      fun blockRow hrow blockColumn hcol => ?_⟩
    all_goals
      rw [halfUp] at hcol
      omega
  rw [encode, if_neg hempty] at hencode
  obtain ⟨_, -, hencode⟩ := Checked.bind_eq_ok.1 hencode
  obtain ⟨_, -, hencode⟩ := Checked.bind_eq_ok.1 hencode
  obtain ⟨between, hluma, hchroma⟩ := Option.bind_eq_some_iff.1 (Checked.need_eq_ok.1 hencode)
  -- what has been written to the chroma plane, for a block of two rows or of the last one alone
  have block : ∀ blockRow, 2 * blockRow < h → ∀ blockColumn < halfUp w,
      HasChroma h src stride dst' p blockRow blockColumn := fun blockRow hrow blockColumn hcol =>
    hasChroma_of_encodeChroma hp (by rw [halfUp]; omega) hcol hchroma
  refine ⟨fun row hrow column hcol => ?_, fun blockRow hrow blockColumn hcol => ?_,
    fun blockRow hrow blockColumn hcol => ?_⟩
  · -- the chroma comes after the luma, and spares it
    exact (hasLuma_of_encodeLuma hp hrow hcol hluma).encodeChroma hp hrow hcol hchroma
  · obtain ⟨chroma, hblock, hpair⟩ := block blockRow (by omega) blockColumn hcol
    obtain ⟨top, htop, hmade⟩ := blockChroma?_eq_some hblock
    rw [if_pos hrow] at hmade
    obtain ⟨bottom, hbottom, rfl⟩ := hmade
    exact ⟨top, bottom, htop, hbottom, hpair⟩
  · obtain ⟨chroma, hblock, hpair⟩ := block blockRow (by omega) blockColumn hcol
    obtain ⟨top, htop, hmade⟩ := blockChroma?_eq_some hblock
    rw [if_neg (by omega)] at hmade
    exact ⟨top, htop, hmade ▸ hpair⟩

/-- **Every byte outside the rows of both planes stays.** -/
theorem encode_spares (hj : p.Spares w h j) (hencode : encode w h src stride dst p = .ok dst') :
    dst'[j]? = dst[j]? := by
  rw [encode] at hencode
  split at hencode
  · cases hencode
    rfl
  obtain ⟨_, -, hencode⟩ := Checked.bind_eq_ok.1 hencode
  obtain ⟨_, -, hencode⟩ := Checked.bind_eq_ok.1 hencode
  obtain ⟨between, hluma, hchroma⟩ := Option.bind_eq_some_iff.1 (Checked.need_eq_ok.1 hencode)
  -- in both sweeps every byte that is written lies in a row of its plane
  have afterLuma : between[j]? = dst[j]? := by
    refine sweepArea_invariant (P := fun b => b[j]? = dst[j]?)
      (fun column row _ _ _ hcol _ hrow hstep hs => ?_) hluma rfl
    obtain ⟨_, -, hput⟩ := Option.bind_eq_some_iff.1 hstep
    have := hj.luma row (by omega)
    simp only [Placement.lumaAt] at this
    rw [Bytes.getElem?_put? hput, if_neg (by simp only [Placement.lumaAt]; omega), hs]
  refine sweepArea_invariant (P := fun b => b[j]? = dst[j]?)
    (fun blockColumn blockRow _ _ _ hcol _ hrow hstep hs => ?_) hchroma afterLuma
  obtain ⟨_, -, hput⟩ := Option.bind_eq_some_iff.1 hstep
  have := hj.chroma blockRow (by omega)
  simp only [Placement.chromaAt] at this
  rw [getElem?_putChroma? hput, if_neg (by simp only [Placement.chromaAt]; omega),
    if_neg (by simp only [Placement.chromaAt]; omega), hs]

/-- Only left pixels make chroma: whatever the pixels of odd columns, and the fourth bytes of
pixels, it is the same. -/
lemma Encoded.chroma?_eq {src' : Bytes} (hs : Encoded w h src stride dst p)
    (hs' : Encoded w h src' stride dst' p)
    (hleft : ∀ row < h, ∀ blockColumn < halfUp w,
      bgr? src' (packedAt stride row (2 * blockColumn)) =
        bgr? src (packedAt stride row (2 * blockColumn)))
    (hrow : blockRow < halfUp h) (hcol : blockColumn < halfUp w) :
    chroma? dst' (p.chromaAt blockRow blockColumn) =
      chroma? dst (p.chromaAt blockRow blockColumn) := by
  have hfirst : 2 * blockRow < h := double_lt_of_lt_halfUp hrow
  -- a block of two rows takes the first pixel of either one, and the block of a last odd row
  -- that of this row
  rcases Nat.lt_or_eq_of_le (Nat.succ_le_of_lt hfirst) with hpair | hsingle
  · obtain ⟨top, bottom, htop, hbottom, hmade⟩ := hs.pairs blockRow hpair blockColumn hcol
    obtain ⟨top', bottom', htop', hbottom', hmade'⟩ := hs'.pairs blockRow hpair blockColumn hcol
    obtain rfl : top' = top :=
      Option.some.inj (htop'.symm.trans ((hleft _ hfirst _ hcol).trans htop))
    obtain rfl : bottom' = bottom :=
      Option.some.inj (hbottom'.symm.trans ((hleft _ hpair _ hcol).trans hbottom))
    rw [hmade', hmade]
  · obtain ⟨top, htop, hmade⟩ := hs.singles blockRow hsingle blockColumn hcol
    obtain ⟨top', htop', hmade'⟩ := hs'.singles blockRow hsingle blockColumn hcol
    obtain rfl : top' = top :=
      Option.some.inj (htop'.symm.trans ((hleft _ hfirst _ hcol).trans htop))
    rw [hmade', hmade]

/-- **An image is encoded sample by sample.** The planes begin anywhere and have any stride that
holds a row of chroma, none of their bytes is both luma and chroma, and there is room for the last
row of each and for the last packed row. Then the image is encoded. Every luma byte is that of its
pixel, and every chroma pair that of the left pixels of its block: averaged over two rows, or of the
one row that is left at the bottom of an odd height. Other packed pixels whose left pixels have the
same colours make the same chroma. No byte outside the rows of both planes changes. -/
theorem encode_exact (hsrc : (h - 1) * stride + 4 * w ≤ src.size)
    (hluma : p.lumaStart + (h - 1) * p.stride + w ≤ dst.size)
    (hchroma : p.chromaStart + (halfUp h - 1) * p.stride + 2 * halfUp w ≤ dst.size)
    (hwide : 2 * halfUp w ≤ p.stride)
    (hapart : ∀ y < h, ∀ x < w, ∀ i < halfUp h, ∀ k < 2 * halfUp w,
      p.lumaStart + y * p.stride + x ≠ p.chromaStart + i * p.stride + k) :
    ∃ dst', encode w h src stride dst p = .ok dst' ∧ dst'.size = dst.size ∧
      (∀ y < h, ∀ x < w, ∃ color, bgr? src (y * stride + 4 * x) = some color ∧
        dst'[p.lumaStart + y * p.stride + x]? = some (luma color)) ∧
      (∀ i, 2 * i + 1 < h → ∀ j < halfUp w, ∃ top bottom,
        bgr? src (2 * i * stride + 4 * (2 * j)) = some top ∧
        bgr? src ((2 * i + 1) * stride + 4 * (2 * j)) = some bottom ∧
        chroma? dst' (p.chromaStart + i * p.stride + 2 * j) = some (pairChroma top bottom)) ∧
      (∀ i, 2 * i + 1 = h → ∀ j < halfUp w, ∃ top,
        bgr? src (2 * i * stride + 4 * (2 * j)) = some top ∧
        chroma? dst' (p.chromaStart + i * p.stride + 2 * j) = some (singleChroma top)) ∧
      (∀ src' : Bytes, (h - 1) * stride + 4 * w ≤ src'.size →
        (∀ y < h, ∀ j < halfUp w,
          bgr? src' (y * stride + 4 * (2 * j)) = bgr? src (y * stride + 4 * (2 * j))) →
        ∃ dst'', encode w h src' stride dst p = .ok dst'' ∧
          ∀ i < halfUp h, ∀ j < halfUp w,
            chroma? dst'' (p.chromaStart + i * p.stride + 2 * j) =
              chroma? dst' (p.chromaStart + i * p.stride + 2 * j)) ∧
      ∀ place,
        (∀ y < h, place < p.lumaStart + y * p.stride ∨ p.lumaStart + y * p.stride + w ≤ place) →
        (∀ i < halfUp h, place < p.chromaStart + i * p.stride ∨
          p.chromaStart + i * p.stride + 2 * halfUp w ≤ place) →
        dst'[place]? = dst[place]? := by
  have fits : p.Fits w h dst.size := ⟨hluma, hchroma⟩
  have apart : p.Apart w h := ⟨hwide, hapart⟩
  obtain ⟨dst', hencode, hsize⟩ := encode_ok hsrc fits
  have encoded : Encoded w h src stride dst' p := encode_encoded apart hencode
  refine ⟨dst', hencode, hsize, encoded.pixels, encoded.pairs, encoded.singles,
    fun src' hsrc' hleft => ?_, fun place hl hc => encode_spares ⟨hl, hc⟩ hencode⟩
  -- the chroma is made of the same pixels, whatever the others are
  obtain ⟨dst'', hencode', -⟩ := encode_ok hsrc' fits
  exact ⟨dst'', hencode', fun i hi j hj =>
    encoded.chroma?_eq (encode_encoded apart hencode') hleft hi hj⟩

/-- Nine pixels with packed rows of thirteen bytes, into planes with rows of four, chroma first. -/
theorem encode_nine_exact :
    let src : Bytes := ⟨#[0, 0, 255, 0, 0, 255, 0, 0, 255, 0, 0, 0, 9,
      255, 255, 255, 0, 10, 20, 30, 0, 0, 0, 0, 0, 9,
      90, 80, 70, 0, 1, 2, 3, 0, 200, 100, 50, 0]⟩
    let dst := Bytes.replicate 24 0xaa
    let p : Placement := ⟨4, 10, 1⟩
    (3 - 1) * 13 + 4 * 3 ≤ src.size ∧
      p.lumaStart + (3 - 1) * p.stride + 3 ≤ dst.size ∧
      p.chromaStart + (halfUp 3 - 1) * p.stride + 2 * halfUp 3 ≤ dst.size ∧
      2 * halfUp 3 ≤ p.stride ∧
      (∀ y < 3, ∀ x < 3, ∀ i < halfUp 3, ∀ k < 2 * halfUp 3,
        p.lumaStart + y * p.stride + x ≠ p.chromaStart + i * p.stride + k) ∧
      ∃ dst', encode 3 3 src 13 dst p = .ok dst' ∧ dst'.size = dst.size ∧
        (∀ y < 3, ∀ x < 3, ∃ color, bgr? src (y * 13 + 4 * x) = some color ∧
          dst'[p.lumaStart + y * p.stride + x]? = some (luma color)) ∧
        ∀ i, 2 * i + 1 = 3 → ∀ j < halfUp 3, ∃ top,
          bgr? src (2 * i * 13 + 4 * (2 * j)) = some top ∧
          chroma? dst' (p.chromaStart + i * p.stride + 2 * j) = some (singleChroma top) := by
  intro src dst p
  have dstSize : dst.size = 24 := Bytes.size_replicate ..
  have hluma : p.lumaStart + (3 - 1) * p.stride + 3 ≤ dst.size := by
    rw [dstSize]
    decide
  have hchroma : p.chromaStart + (halfUp 3 - 1) * p.stride + 2 * halfUp 3 ≤ dst.size := by
    rw [dstSize]
    decide
  have apart : ∀ y < 3, ∀ x < 3, ∀ i < halfUp 3, ∀ k < 2 * halfUp 3,
      p.lumaStart + y * p.stride + x ≠ p.chromaStart + i * p.stride + k := by decide
  have hsrc : (3 - 1) * 13 + 4 * 3 ≤ src.size := by decide
  obtain ⟨dst', hencode, hsize, pixels, -, singles, -⟩ :=
    encode_exact hsrc hluma hchroma (by decide) apart
  exact ⟨hsrc, hluma, hchroma, by decide, apart, dst', hencode, hsize, pixels, singles⟩

end Scanout.Nv12
