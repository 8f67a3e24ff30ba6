/-
Packed pixels from planes, one by one.

* `Nv12.Shows`: every packed pixel has the colours of its own luma and of the chroma of its block;
* `Nv12.decode_shows`: **what has been decoded shows what lies in the planes**, wherever they lie
  and whatever the packed buffer held;
* `Nv12.decode_spares`: **every byte that is no colour of a pixel stays**;
* `Nv12.decode_exact`: where there is room for the image it is decoded, pixel by pixel, and nothing
  else is stored.
-/
import Scanout.Proofs.Layout.Planes
import Scanout.Proofs.Nv12.Room

namespace Scanout.Nv12

variable {w h stride pos q row column row' column' : Nat} {p : Placement}
  {src dst dst' b b' : Bytes} {color : Bgr} {chroma : Chroma}

/-! ### One pixel -/

lemma getElem?_putBgr? {i : Nat} (hput : putBgr? b pos color = some b') :
    b'[i]? = if i = pos + 2 then some color.red else if i = pos + 1 then some color.green
      else if i = pos then some color.blue else b[i]? := by
  obtain ⟨b₁, h₁, hput⟩ := Option.bind_eq_some_iff.1 hput
  obtain ⟨b₂, h₂, h₃⟩ := Option.bind_eq_some_iff.1 hput
  rw [Bytes.getElem?_put? h₃, Bytes.getElem?_put? h₂, Bytes.getElem?_put? h₁]

/-- The colours that were put are read back. -/
lemma bgr?_putBgr?_self (hput : putBgr? b pos color = some b') : bgr? b' pos = some color := by
  simp [bgr?, getElem?_putBgr? hput]

/-- The colours of a pixel that lies apart stay. -/
lemma bgr?_putBgr?_of_apart (hput : putBgr? b pos color = some b')
    (hq : q + 3 ≤ pos ∨ pos + 3 ≤ q) : bgr? b' q = bgr? b q := by
  have same : ∀ k < 3, b'[q + k]? = b[q + k]? := by
    intro k hk
    rw [getElem?_putBgr? hput, if_neg (by omega), if_neg (by omega), if_neg (by omega)]
  rw [bgr?, bgr?, same 1 (by decide), same 2 (by decide),
    show b'[q]? = b[q]? from same 0 (by decide)]

/-! ### The image -/

/-- A packed pixel has the colours of its own luma and of the chroma of its block. -/
def ShowsPixel (src : Bytes) (p : Placement) (dst : Bytes) (stride row column : Nat) : Prop :=
  ∃ luma chroma, src[p.lumaAt row column]? = some luma ∧
    chroma? src (p.chromaAt (row / 2) (column / 2)) = some chroma ∧
    bgr? dst (packedAt stride row column) = some (toBgr luma chroma)

/-- Every packed pixel has the colours of its own luma and of the chroma of its block. -/
def Shows (w h : Nat) (src : Bytes) (p : Placement) (dst : Bytes) (stride : Nat) : Prop :=
  ∀ row < h, ∀ column < w, ShowsPixel src p dst stride row column

/-- The pixel that is stored is shown. -/
lemma showsPixel_of_decodePixel (hpixel : decodePixel src p stride row column dst = some dst') :
    ShowsPixel src p dst' stride row column := by
  obtain ⟨chroma, hchroma, hpixel⟩ := Option.bind_eq_some_iff.1 hpixel
  obtain ⟨luma, hluma, hput⟩ := Option.bind_eq_some_iff.1 hpixel
  exact ⟨luma, chroma, hluma, hchroma, bgr?_putBgr?_self hput⟩

/-- A pixel is shown as long as others are stored. -/
lemma ShowsPixel.keep (hs : ShowsPixel src p dst stride row column) (hstride : 4 * w ≤ stride)
    (hcol : column < w) (hcol' : column' < w) (hne : ¬(row' = row ∧ column' = column))
    (hpixel : decodePixel src p stride row' column' dst = some dst') :
    ShowsPixel src p dst' stride row column := by
  obtain ⟨luma, chroma, hluma, hchroma, hbgr⟩ := hs
  obtain ⟨_, -, hpixel⟩ := Option.bind_eq_some_iff.1 hpixel
  obtain ⟨_, -, hput⟩ := Option.bind_eq_some_iff.1 hpixel
  have apart := cells_apart hstride hcol hcol' hne
  refine ⟨luma, chroma, hluma, hchroma, ?_⟩
  rw [bgr?_putBgr?_of_apart hput (by simp only [packedAt]; omega), hbgr]

/-- The pixels of a column in a block row. -/
abbrev decodeColumn (h : Nat) (src : Bytes) (p : Placement) (stride blockRow column : Nat) :
    Bytes → Option Bytes :=
  sweep (fun i => decodePixel src p stride (2 * blockRow + i) column) 0 (min 2 (h - 2 * blockRow))

/-- The other columns, and the other block rows, store other pixels. -/
lemma ShowsPixel.keepColumn {blockRow : Nat} (hs : ShowsPixel src p dst stride row column)
    (hstride : 4 * w ≤ stride) (hcol : column < w) (hcol' : column' < w)
    (hne : ¬(blockRow = row / 2 ∧ column' = column))
    (hpixels : decodeColumn h src p stride blockRow column' dst = some dst') :
    ShowsPixel src p dst' stride row column :=
  sweep_invariant (P := fun dst => ShowsPixel src p dst stride row column)
    (fun _ _ _ _ _ hpixel hs => hs.keep hstride hcol hcol' (by omega) hpixel) hpixels hs

/-- The pixel is one of those of its column in its block row. -/
lemma showsPixel_of_decodeColumn (hstride : 4 * w ≤ stride) (hrow : row < h) (hcol : column < w)
    (hpixels : decodeColumn h src p stride (row / 2) column dst = some dst') :
    ShowsPixel src p dst' stride row column := by
  refine sweep_establishes (P := fun dst => ShowsPixel src p dst stride row column)
    (Nat.zero_le (row % 2)) (by omega) (fun _ _ hpixel => ?_) (fun i _ _ _ _ hne hpixel hs => ?_)
    hpixels
  · rw [show 2 * (row / 2) + row % 2 = row from Nat.div_add_mod row 2] at hpixel
    exact showsPixel_of_decodePixel hpixel
  · exact hs.keep hstride hcol hcol (by omega) hpixel

/-- **What has been decoded shows what lies in the planes.** -/
theorem decode_shows (hstride : 4 * w ≤ stride)
    (hdecode : decode w h src p dst stride = .ok dst') : Shows w h src p dst' stride := by
  intro row hrow column hcol
  rw [decode, if_neg (by omega)] at hdecode
  obtain ⟨_, -, hdecode⟩ := Checked.bind_eq_ok.1 hdecode
  obtain ⟨_, -, hdecode⟩ := Checked.bind_eq_ok.1 hdecode
  have hblock : row / 2 < 0 + halfUp h := by
    rw [halfUp]
    omega
  -- the block row of the pixel shows it, and the block rows after it keep it shown
  refine sweep_establishes (P := fun dst => ShowsPixel src p dst stride row column)
    (Nat.zero_le (row / 2)) hblock (fun _ _ hcolumns => ?_) (fun i _ _ _ _ hne hcolumns hs => ?_)
    (Checked.need_eq_ok.1 hdecode)
  · -- the columns of the block row, of which that of the pixel is one
    exact sweep_establishes (P := fun dst => ShowsPixel src p dst stride row column)
      (Nat.zero_le column) (by omega) (fun _ _ => showsPixel_of_decodeColumn hstride hrow hcol)
      (fun _ _ _ _ hlt hne hpixels hs =>
        hs.keepColumn hstride hcol (by omega) (fun heq => hne heq.2) hpixels) hcolumns
  · exact sweep_invariant (P := fun dst => ShowsPixel src p dst stride row column)
      (fun _ _ _ _ hlt hpixels hs =>
        hs.keepColumn hstride hcol (by omega) (fun heq => hne heq.1) hpixels) hcolumns hs

/-- What is kept whenever a pixel is stored is kept by the image. -/
lemma decode_keeps {P : Bytes → Prop}
    (keeps : ∀ row < h, ∀ column < w, ∀ b b',
      decodePixel src p stride row column b = some b' → P b → P b')
    (hdecode : decode w h src p dst stride = .ok dst') (hdst : P dst) : P dst' := by
  rw [decode] at hdecode
  split at hdecode
  · cases hdecode
    exact hdst
  obtain ⟨_, -, hdecode⟩ := Checked.bind_eq_ok.1 hdecode
  obtain ⟨_, -, hdecode⟩ := Checked.bind_eq_ok.1 hdecode
  exact sweep_invariant (fun blockRow _ _ _ _ hcolumns => sweep_invariant
    (fun column _ _ _ hcol hpixels => sweep_invariant
      (fun i b b' _ hi => keeps (2 * blockRow + i) (by omega) column (by omega) b b') hpixels)
    hcolumns) (Checked.need_eq_ok.1 hdecode) hdst

/-- **Every byte that is no colour of a pixel stays**: the fourth byte of a pixel, what fills up a
row, and what lies before and behind the image. -/
lemma decode_spares {i : Nat}
    (hi : ∀ row < h, ∀ column < w, ∀ k < 3, i ≠ packedAt stride row column + k)
    (hdecode : decode w h src p dst stride = .ok dst') : dst'[i]? = dst[i]? := by
  refine decode_keeps (P := fun b => b[i]? = dst[i]?)
    (fun row hrow column hcol b b' hpixel hb => ?_) hdecode rfl
  obtain ⟨_, -, hpixel⟩ := Option.bind_eq_some_iff.1 hpixel
  obtain ⟨_, -, hput⟩ := Option.bind_eq_some_iff.1 hpixel
  have apart := hi row hrow column hcol
  have first : i ≠ packedAt stride row column := apart 0 (by decide)
  rw [getElem?_putBgr? hput, if_neg (apart 2 (by decide)), if_neg (apart 1 (by decide)),
    if_neg first, hb]

/-- **An image is decoded pixel by pixel.** The planes begin anywhere and have any stride, and there
is room for the last row of each and for the last packed row; packed rows do not reach into each
other. Then the image is decoded. Every pixel has the colours of its own luma and of the chroma pair
that stands for its block of two rows and two columns, and no other byte changes. -/
theorem decode_exact (hluma : p.lumaStart + (h - 1) * p.stride + w ≤ src.size)
    (hchroma : p.chromaStart + (halfUp h - 1) * p.stride + 2 * halfUp w ≤ src.size)
    (hdst : (h - 1) * stride + 4 * w ≤ dst.size) (hstride : 4 * w ≤ stride) :
    ∃ dst', decode w h src p dst stride = .ok dst' ∧ dst'.size = dst.size ∧
      (∀ y < h, ∀ x < w, ∃ luma cb cr,
        src[p.lumaStart + y * p.stride + x]? = some luma ∧
        src[p.chromaStart + y / 2 * p.stride + 2 * (x / 2)]? = some cb ∧
        src[p.chromaStart + y / 2 * p.stride + 2 * (x / 2) + 1]? = some cr ∧
        bgr? dst' (y * stride + 4 * x) = some (toBgr luma ⟨cb, cr⟩)) ∧
      ∀ i, (∀ y < h, ∀ x < w, ∀ k < 3, i ≠ y * stride + 4 * x + k) → dst'[i]? = dst[i]? := by
  have fits : p.Fits w h src.size := ⟨hluma, hchroma⟩
  obtain ⟨dst', hdecode, hsize⟩ := decode_ok fits hdst
  refine ⟨dst', hdecode, hsize, fun y hy x hx => ?_, fun i hi => decode_spares hi hdecode⟩
  obtain ⟨luma, chroma, hl, hc, hbgr⟩ := decode_shows hstride hdecode y hy x hx
  obtain ⟨cb, hcb, hc⟩ := Option.bind_eq_some_iff.1 hc
  obtain ⟨cr, hcr, hc⟩ := Option.bind_eq_some_iff.1 hc
  cases hc
  exact ⟨luma, cb, cr, hl, hcb, hcr, hbgr⟩

/-- Nine pixels whose planes have rows of five bytes, chroma first, and whose packed rows have
thirteen. -/
theorem decode_nine_exact :
    let src : Bytes := ⟨#[128, 128, 90, 240, 0, 110, 54, 128, 128, 0,
      16, 235, 81, 0, 0, 145, 41, 16, 0, 0, 210, 170, 106]⟩
    let dst := Bytes.replicate 40 0xaa
    let p : Placement := ⟨5, 10, 0⟩
    p.lumaStart + (3 - 1) * p.stride + 3 ≤ src.size ∧
      p.chromaStart + (halfUp 3 - 1) * p.stride + 2 * halfUp 3 ≤ src.size ∧
      (3 - 1) * 13 + 4 * 3 ≤ dst.size ∧ 4 * 3 ≤ 13 ∧
      ∃ dst', decode 3 3 src p dst 13 = .ok dst' ∧ dst'.size = dst.size ∧
        (∀ y < 3, ∀ x < 3, ∃ luma cb cr,
          src[p.lumaStart + y * p.stride + x]? = some luma ∧
          src[p.chromaStart + y / 2 * p.stride + 2 * (x / 2)]? = some cb ∧
          src[p.chromaStart + y / 2 * p.stride + 2 * (x / 2) + 1]? = some cr ∧
          bgr? dst' (y * 13 + 4 * x) = some (toBgr luma ⟨cb, cr⟩)) ∧
        ∀ i, (∀ y < 3, ∀ x < 3, ∀ k < 3, i ≠ y * 13 + 4 * x + k) → dst'[i]? = dst[i]? := by
  intro src dst p
  have room : (3 - 1) * 13 + 4 * 3 ≤ dst.size := by
    rw [Bytes.size_replicate]
    decide
  exact ⟨by decide, by decide, room, by decide,
    decode_exact (by decide) (by decide) room (by decide)⟩

end Scanout.Nv12
