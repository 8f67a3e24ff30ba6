/-
Room for an image.

A conversion looks at the lengths of both buffers before it stores anything. What it reads and
stores then lies inside them, however far apart rows are and even where planes lie on top of each
other.

* `Nv12.Placement.Fits`: a buffer of a size holds both planes of an image;
* `Nv12.Placement.Fits.lumaAt_lt`, `Nv12.Placement.Fits.chromaAt_lt`, `Nv12.packed_lt`: where there
  is room for the last row, there is room for every sample and every packed pixel;
* `Nv12.Demand`, `Nv12.demand`: the lengths that a conversion asks for, and its failure at the first
  one that there is too little of;
* `Nv12.decode_eq`, `Nv12.encode_eq`: all lengths are asked for before anything is stored;
* `Nv12.decode_ok`: **the pixels of planes are stored wherever there is room for them**;
* `Nv12.encode_ok`: **the samples of pixels are stored wherever there is room for them**.
-/
import Scanout.Nv12.Decode
import Scanout.Nv12.Encode
import Scanout.Proofs.Samples.Both

namespace Scanout.Nv12

variable {w h m n stride pos size row column blockRow blockColumn : Nat} {p : Placement}
  {src dst b : Bytes}

/-! ### Lengths -/

/-- The block of a pixel. -/
lemma half_lt_halfUp (hn : n < m) : n / 2 < halfUp m := by
  rw [halfUp]
  omega

/-- The first pixel of a block. -/
lemma double_lt_of_lt_halfUp (hn : n < halfUp m) : 2 * n < m := by
  rw [halfUp] at hn
  omega

lemma requireLength_ok {needed : Nat} (h : needed ≤ b.size) : requireLength b needed = .ok () :=
  if_neg (Nat.not_lt.2 h)

lemma requireLength_eq_ok {needed : Nat} : requireLength b needed = .ok () ↔ needed ≤ b.size := by
  refine ⟨fun h => ?_, requireLength_ok⟩
  rw [requireLength] at h
  split at h
  · cases h
  · next hle => exact Nat.le_of_not_lt hle

/-- A length that is needed, and what there is of it. -/
structure Demand where
  needed : Nat
  actual : Nat
  deriving DecidableEq

/-- Goes on where there is enough of everything, and fails with the first length that there is too
little of. -/
def demand {α : Type} : List Demand → Checked α → Checked α
  | [], x => x
  | d :: needs, x =>
    if d.actual < d.needed then Checked.fail (.bufferTooSmall d.needed d.actual)
    else demand needs x

lemma requireLength_bind {α : Type} {needed : Nat} {f : Unit → Checked α} {needs : List Demand}
    {x : Checked α} (h : f () = demand needs x) :
    (requireLength b needed >>= f) = demand (⟨needed, b.size⟩ :: needs) x := by
  rw [requireLength, demand]
  split
  · rfl
  · exact h

/-- A demand is refused at the first length that there is too little of, or there is enough of
everything. -/
lemma demand_cases {α : Type} (needs : List Demand) (x : Checked α) :
    (∃ d, needs.find? (fun d => d.actual < d.needed) = some d ∧
        demand needs x = Checked.fail (.bufferTooSmall d.needed d.actual)) ∨
      (∀ d ∈ needs, d.needed ≤ d.actual) ∧ demand needs x = x := by
  induction needs with
  | nil => exact .inr ⟨nofun, rfl⟩
  | cons d needs ih =>
      rw [demand, List.find?_cons]
      by_cases hd : d.actual < d.needed
      · rw [if_pos hd, decide_eq_true hd]
        exact .inl ⟨d, rfl, rfl⟩
      · rw [if_neg hd, decide_eq_false hd, List.forall_mem_cons]
        exact ih.imp_right fun ⟨hall, heq⟩ => ⟨⟨Nat.le_of_not_lt hd, hall⟩, heq⟩

/-- A buffer of a size holds both planes of an image. -/
structure Placement.Fits (p : Placement) (w h size : Nat) : Prop where
  luma : p.lumaEnd w h ≤ size
  chroma : p.chromaEnd w h ≤ size

namespace Placement.Fits

lemma checkPlanes (hp : p.Fits w h b.size) : Nv12.checkPlanes w h b p = .ok () := by
  rw [Nv12.checkPlanes, requireLength_ok hp.luma]
  exact requireLength_ok hp.chroma

lemma of_checkPlanes (h₀ : Nv12.checkPlanes w h b p = .ok ()) : p.Fits w h b.size := by
  rw [Nv12.checkPlanes] at h₀
  cases hl : requireLength b (p.lumaEnd w h) with
  | ok u =>
      rw [hl] at h₀
      exact ⟨requireLength_eq_ok.1 hl, requireLength_eq_ok.1 h₀⟩
  | error f =>
      rw [hl] at h₀
      cases h₀

/-- There is a place for every luma byte. -/
lemma lumaAt_lt (hp : p.Fits w h size) (hrow : row < h) (hcol : column < w) :
    p.lumaAt row column < size := by
  have hlast : row * p.stride ≤ (h - 1) * p.stride := Nat.mul_le_mul_right _ (by omega)
  have hend := hp.luma
  simp only [lumaEnd, lumaAt] at hend ⊢
  omega

/-- There is a place for both bytes of every chroma pair. -/
lemma chromaAt_lt (hp : p.Fits w h size) (hrow : blockRow < halfUp h)
    (hcol : blockColumn < halfUp w) : p.chromaAt blockRow blockColumn + 1 < size := by
  have hlast : blockRow * p.stride ≤ (halfUp h - 1) * p.stride :=
    Nat.mul_le_mul_right _ (by omega)
  have hend := hp.chroma
  simp only [chromaEnd, chromaAt] at hend ⊢
  omega

end Placement.Fits

/-- There is a place for every packed pixel. -/
lemma packed_lt {k : Nat} (hdst : packedAt stride (h - 1) w ≤ dst.size) (hrow : row < h)
    (hcol : column < w) (hk : k < 4) : packedAt stride row column + k < dst.size := by
  have hlast : row * stride ≤ (h - 1) * stride := Nat.mul_le_mul_right _ (by omega)
  simp only [packedAt] at hdst ⊢
  omega

/-! ### From planes to packed pixels -/

lemma putBgr?_isSome {color : Bgr} (hpos : ∀ k < 3, pos + k < dst.size) :
    ∃ dst', putBgr? dst pos color = some dst' ∧ dst'.size = dst.size := by
  obtain ⟨b₁, h₁, hs₁⟩ := Bytes.exists_put? color.blue (hpos 0 (by decide))
  obtain ⟨b₂, h₂, hs₂⟩ := Bytes.exists_put? color.green (hs₁ ▸ hpos 1 (by decide))
  obtain ⟨b₃, h₃, hs₃⟩ := Bytes.exists_put? color.red (hs₂ ▸ hs₁ ▸ hpos 2 (by decide))
  rw [Nat.add_zero] at h₁
  refine ⟨b₃, ?_, hs₃.trans (hs₂.trans hs₁)⟩
  rw [putBgr?, h₁]
  show ((b₁.put? (pos + 1) color.green).bind fun b => b.put? (pos + 2) color.red) = some b₃
  rw [h₂, Option.bind_some, h₃]

/-- There is a chroma pair where there is room for one. -/
lemma chroma?_isSome (hpos : pos + 1 < b.size) : ∃ chroma, chroma? b pos = some chroma := by
  rw [chroma?]
  rw [getElem?_pos b pos (by omega), getElem?_pos b (pos + 1) hpos]
  exact ⟨_, rfl⟩

/-- A pixel is stored where there is room for all of them. -/
lemma decodePixel_ok (hp : p.Fits w h src.size) (hdst : packedAt stride (h - 1) w ≤ dst.size)
    (hrow : row < h) (hcol : column < w) :
    ∃ dst', decodePixel src p stride row column dst = some dst' ∧ dst'.size = dst.size := by
  obtain ⟨chroma, hchroma⟩ :=
    chroma?_isSome (hp.chromaAt_lt (half_lt_halfUp hrow) (half_lt_halfUp hcol))
  rw [decodePixel, hchroma, getElem?_pos src _ (hp.lumaAt_lt hrow hcol)]
  exact putBgr?_isSome fun k hk => packed_lt hdst hrow hcol (by omega)

/-- All pixels are stored where there is room for them. -/
lemma decodeRows_ok (hp : p.Fits w h src.size) (hdst : packedAt stride (h - 1) w ≤ dst.size) :
    ∃ dst', sweep (decodeBlockRow w h src p stride) 0 (halfUp h) dst = some dst' ∧
      dst'.size = dst.size :=
  -- every pixel lies inside, and no store makes the buffer shorter
  sweep_keeps (P := fun b : Bytes => b.size = dst.size) (f := decodeBlockRow w h src p stride)
    (fun blockRow _ _ _ hs => sweep_keeps (fun column _ hcol _ hs =>
      sweep_keeps (fun i _ hi b hs => by
        obtain ⟨b', hb', hsame⟩ := decodePixel_ok hp (hs ▸ hdst)
          (show 2 * blockRow + i < h by omega) (show column < w by omega)
        exact ⟨b', hb', hsame.trans hs⟩) hs) hs) rfl

/-- The planes, and then the packed image, are looked at before anything is stored. -/
lemma decode_eq (h₀ : ¬(w = 0 ∨ h = 0)) :
    decode w h src p dst stride =
      demand [⟨p.lumaEnd w h, src.size⟩, ⟨p.chromaEnd w h, src.size⟩,
          ⟨packedAt stride (h - 1) w, dst.size⟩]
        (Checked.need (sweep (decodeBlockRow w h src p stride) 0 (halfUp h) dst)) := by
  rw [decode, if_neg h₀, checkPlanes, bind_assoc]
  exact requireLength_bind (requireLength_bind (requireLength_bind rfl))

/-- **The pixels of planes are stored wherever there is room for them.** -/
lemma decode_ok (hp : p.Fits w h src.size) (hdst : packedAt stride (h - 1) w ≤ dst.size) :
    ∃ dst', decode w h src p dst stride = .ok dst' ∧ dst'.size = dst.size := by
  by_cases hempty : w = 0 ∨ h = 0
  · rw [decode, if_pos hempty]
    exact ⟨dst, rfl, rfl⟩
  obtain ⟨dst', hdst', hs⟩ := decodeRows_ok hp hdst
  refine ⟨dst', ?_, hs⟩
  rw [decode, if_neg hempty, hp.checkPlanes, checkPacked, requireLength_ok hdst, hdst']
  rfl

/-! ### From packed pixels to planes -/

/-- There are packed pixels for all places of an image. -/
lemma bgr?_isSome (hsrc : packedAt stride (h - 1) w ≤ src.size) (hrow : row < h)
    (hcol : column < w) : ∃ color, bgr? src (packedAt stride row column) = some color := by
  have hin : ∀ k < 3, packedAt stride row column + k < src.size := fun k hk =>
    packed_lt hsrc hrow hcol (by omega)
  rw [bgr?]
  rw [getElem?_pos src _ (hin 0 (by decide)), getElem?_pos src _ (hin 1 (by decide)),
    getElem?_pos src _ (hin 2 (by decide))]
  exact ⟨_, rfl⟩

/-- The chroma of every block is to be had. -/
lemma blockChroma?_isSome (hsrc : packedAt stride (h - 1) w ≤ src.size)
    (hrow : row < halfUp h) (hcol : column < halfUp w) :
    ∃ chroma, blockChroma? h src stride row column = some chroma := by
  have hr : 2 * row < h := double_lt_of_lt_halfUp hrow
  have hc : 2 * column < w := double_lt_of_lt_halfUp hcol
  obtain ⟨top, htop⟩ := bgr?_isSome hsrc hr hc
  rw [blockChroma?, htop]
  by_cases hlast : 2 * row + 1 < h
  · obtain ⟨bottom, hbottom⟩ := bgr?_isSome hsrc hlast hc
    simp only [hlast, hbottom, ↓reduceIte]
    exact ⟨_, rfl⟩
  · simp only [hlast, ↓reduceIte]
    exact ⟨_, rfl⟩

lemma putChroma?_isSome (chroma : Chroma) (hpos : pos + 1 < dst.size) :
    ∃ dst', putChroma? dst pos chroma = some dst' ∧ dst'.size = dst.size := by
  have hfirst : pos < dst.size := by omega
  obtain ⟨b₁, h₁, hs₁⟩ := Bytes.exists_put? chroma.cb hfirst
  obtain ⟨b₂, h₂, hs₂⟩ := Bytes.exists_put? chroma.cr (hs₁ ▸ hpos)
  refine ⟨b₂, ?_, hs₂.trans hs₁⟩
  rw [putChroma?, h₁]
  exact h₂

/-- Luma is stored where there is room for all of it. -/
lemma encodeLuma_ok (hsrc : packedAt stride (h - 1) w ≤ src.size) (hp : p.Fits w h dst.size) :
    ∃ dst', encodeLuma w h src stride p dst = some dst' ∧ dst'.size = dst.size := by
  rw [encodeLuma, sweepArea_eq]
  refine sweep_keeps (P := fun b : Bytes => b.size = dst.size)
    (fun row _ hrow _ hs => sweep_keeps (fun column _ hcol b hs => ?_) hs) rfl
  rw [Nat.zero_add] at hrow hcol
  obtain ⟨color, hcolor⟩ := bgr?_isSome hsrc hrow hcol
  obtain ⟨b', hb', hsame⟩ := Bytes.exists_put? (luma color) (hs.symm ▸ hp.lumaAt_lt hrow hcol)
  rw [hcolor]
  exact ⟨b', hb', hsame.trans hs⟩

/-- Chroma is stored where there is room for all of it. -/
lemma encodeChroma_ok (hsrc : packedAt stride (h - 1) w ≤ src.size) (hp : p.Fits w h dst.size) :
    ∃ dst', encodeChroma w h src stride p dst = some dst' ∧ dst'.size = dst.size := by
  rw [encodeChroma, sweepArea_eq]
  refine sweep_keeps (P := fun b : Bytes => b.size = dst.size)
    (fun blockRow _ hrow _ hs => sweep_keeps (fun blockColumn _ hcol b hs => ?_) hs) rfl
  rw [Nat.zero_add] at hrow hcol
  obtain ⟨chroma, hchroma⟩ := blockChroma?_isSome hsrc hrow hcol
  obtain ⟨b', hb', hsame⟩ := putChroma?_isSome chroma
    (hs.symm ▸ hp.chromaAt_lt hrow hcol)
  rw [hchroma]
  exact ⟨b', hb', hsame.trans hs⟩

/-- All samples are stored where there is room for them. -/
lemma encodePlanes_ok (hsrc : packedAt stride (h - 1) w ≤ src.size) (hp : p.Fits w h dst.size) :
    ∃ between dst', encodeLuma w h src stride p dst = some between ∧
      encodeChroma w h src stride p between = some dst' ∧ dst'.size = dst.size := by
  obtain ⟨between, hluma, hbetween⟩ := encodeLuma_ok hsrc hp
  obtain ⟨dst', hchroma, hs⟩ := encodeChroma_ok hsrc (hbetween.symm ▸ hp)
  exact ⟨between, dst', hluma, hchroma, hs.trans hbetween⟩

/-- The packed image, and then the planes, are looked at before anything is stored. -/
lemma encode_eq (h₀ : ¬(w = 0 ∨ h = 0)) :
    encode w h src stride dst p =
      demand [⟨packedAt stride (h - 1) w, src.size⟩, ⟨p.lumaEnd w h, dst.size⟩,
          ⟨p.chromaEnd w h, dst.size⟩]
        (Checked.need (encodeLuma w h src stride p dst >>= encodeChroma w h src stride p)) := by
  rw [encode, if_neg h₀, checkPlanes, bind_assoc]
  exact requireLength_bind (requireLength_bind (requireLength_bind rfl))

/-- **The samples of pixels are stored wherever there is room for them.** -/
lemma encode_ok (hsrc : packedAt stride (h - 1) w ≤ src.size) (hp : p.Fits w h dst.size) :
    ∃ dst', encode w h src stride dst p = .ok dst' ∧ dst'.size = dst.size := by
  by_cases hempty : w = 0 ∨ h = 0
  · rw [encode, if_pos hempty]
    exact ⟨dst, rfl, rfl⟩
  obtain ⟨between, dst', hluma, hchroma, hs⟩ := encodePlanes_ok hsrc hp
  refine ⟨dst', ?_, hs⟩
  rw [encode, if_neg hempty, hp.checkPlanes, checkPacked, requireLength_ok hsrc, hluma]
  exact congrArg Checked.need hchroma

/-- Pixels for which there is no room are an error, and no crash. -/
lemma encode_ne_crash (w h : Nat) (src : Bytes) (stride : Nat) (dst : Bytes) (p : Placement) :
    encode w h src stride dst p ≠ .error .crash := by
  by_cases hempty : w = 0 ∨ h = 0
  · rw [encode, if_pos hempty]
    exact nofun
  rw [encode_eq hempty]
  rcases demand_cases _ _ with ⟨d, -, hd⟩ | ⟨hroom, -⟩
  · rw [hd]
    exact nofun
  · simp only [List.forall_mem_cons] at hroom
    obtain ⟨hsrc, hluma, hchroma, -⟩ := hroom
    obtain ⟨dst', hencode, -⟩ := encode_ok hsrc ⟨hluma, hchroma⟩
    rw [← encode_eq hempty, hencode]
    exact nofun

end Scanout.Nv12
