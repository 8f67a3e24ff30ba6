/-
Planes seen through a view as packed pixels.

* `Layout.placement_apart`: luma and chroma lie apart in every layout that is sound;
* `Layout.Same.shows`, `Layout.Same.encoded`: what is decoded from, and encoded to, one layout of an
  image is decoded from and encoded to every other;
* `Framebuffer.Spares`, `View.does_closing_spares`: the end of a view keeps what lies in no row of a
  plane;
* `View.acquire_converts`: **a view of luma and chroma planes shows the colours of their samples,
  and leaves in them the samples of the pixels that were painted, and everything else as it was**.
-/
import Scanout.Proofs.Framebuffer.Transparency
import Scanout.Proofs.Nv12.Encoding

namespace Scanout

variable {w h row column blockRow blockColumn j stride : Nat} {L M : Layout} {d e src dst : Bytes}

/-! ### One image in two layouts -/

namespace Layout

/-- Luma and chroma lie apart in every layout that is sound. -/
lemma placement_apart (hL : L.Sound .nv12 w h) : L.placement.Apart w h := by
  refine ⟨(Nv12.row_le_stride hL).2, fun row hrow column hcol blockRow hblock i hi heq => ?_⟩
  have luma := Nv12.sample_luma hL hrow hcol
  have chroma := Nv12.sample_chroma hL hblock hi
  have := (places hL).apart _ _ luma chroma heq
  exact absurd (congrArg Sample.plane this) Nat.zero_ne_one

/-- Both layouts have the luma of every pixel. -/
lemma Same.luma (hde : Same .nv12 w h L M d e) (hrow : row < h) (hcol : column < w) :
    d[L.placement.lumaAt row column]? = e[M.placement.lumaAt row column]? := by
  obtain ⟨hL, hM, hde⟩ := hde
  obtain ⟨x, hd, he⟩ := hde.sample _ (Nv12.sample_luma hL hrow hcol)
  exact hd.trans he.symm

/-- Both layouts have the chroma of every block. -/
lemma Same.chroma (hde : Same .nv12 w h L M d e) (hrow : blockRow < halfUp h)
    (hcol : blockColumn < halfUp w) :
    Nv12.chroma? d (L.placement.chromaAt blockRow blockColumn) =
      Nv12.chroma? e (M.placement.chromaAt blockRow blockColumn) := by
  obtain ⟨hL, hM, hde⟩ := hde
  have hi : 2 * blockColumn + 1 < 2 * halfUp w := by omega
  obtain ⟨cb, hdb, heb⟩ := hde.sample _ (Nv12.sample_chroma hL hrow (Nat.lt_of_succ_lt hi))
  obtain ⟨cr, hdr, her⟩ := hde.sample _ (Nv12.sample_chroma hL hrow hi)
  exact (Nv12.chroma?_eq hdb hdr).trans (Nv12.chroma?_eq heb her).symm

/-- Packed pixels that show the one show the other. -/
lemma Same.shows (hde : Same .nv12 w h L M d e) (hs : Nv12.Shows w h e M.placement dst stride) :
    Nv12.Shows w h d L.placement dst stride := by
  intro row hrow column hcol
  obtain ⟨luma, chroma, hluma, hchroma, hbgr⟩ := hs row hrow column hcol
  refine ⟨luma, chroma, (hde.luma hrow hcol).trans hluma, ?_, hbgr⟩
  exact (hde.chroma (Nv12.half_lt_halfUp hrow) (Nv12.half_lt_halfUp hcol)).trans hchroma

/-- What the packed pixels are encoded to in the one they are in the other. -/
lemma Same.encoded (hde : Same .nv12 w h L M d e)
    (he : Nv12.Encoded w h src stride e M.placement) :
    Nv12.Encoded w h src stride d L.placement := by
  refine ⟨fun row hrow column hcol => ?_, fun blockRow hrow blockColumn hcol => ?_,
    fun blockRow hrow blockColumn hcol => ?_⟩
  · rw [hde.luma hrow hcol]
    exact he.pixels row hrow column hcol
  · rw [hde.chroma (by rw [halfUp]; omega) hcol]
    exact he.pairs blockRow hrow blockColumn hcol
  · rw [hde.chroma (by rw [halfUp]; omega) hcol]
    exact he.singles blockRow hrow blockColumn hcol

end Layout

/-! ### What lies in no row -/

/-- A place of the buffer lies in no row of a plane. -/
def Framebuffer.Spares (fb : Framebuffer) (j : Nat) : Prop :=
  ∀ plane area, fb.area? plane = some area → ∀ row < area.height,
    j < fb.layout.offset plane + row * fb.layout.stride ∨
      fb.layout.offset plane + row * fb.layout.stride + area.rowBytes ≤ j

/-- The rows of luma and chroma are all that there are. -/
lemma Nv12.Placement.Spares.framebuffer {fb : Framebuffer} (hformat : fb.format = .nv12)
    (hj : fb.layout.placement.Spares fb.width fb.height j) : fb.Spares j := by
  intro plane area ha row hrow
  rw [Framebuffer.area?, Framebuffer.numPlanes, hformat] at ha
  -- luma, chroma, and the planes that there are not
  rcases plane with _ | _ | plane
  case zero =>
      obtain rfl : ⟨fb.width, fb.height, 8⟩ = area := Option.some.inj ha
      have := hj.luma row hrow
      simp only [Nv12.Placement.lumaAt, Layout.placement] at this
      have hbytes : Area.rowBytes ⟨fb.width, fb.height, 8⟩ = fb.width := by
        simp [Area.rowBytes]
      rw [hbytes]
      omega
  case succ.zero =>
      obtain rfl : ⟨halfUp fb.width, halfUp fb.height, 16⟩ = area := Option.some.inj ha
      have := hj.chroma row hrow
      simp only [Nv12.Placement.chromaAt, Layout.placement] at this
      have hbytes :
          Area.rowBytes ⟨halfUp fb.width, halfUp fb.height, 16⟩ = 2 * halfUp fb.width := by
        simp [Area.rowBytes, Nat.mul_comm]
      rw [hbytes]
      omega
  case succ.succ =>
      split at ha
      · cases ha
      · cases ha
        cases hrow

variable {σ : Type} [Backend σ] [StoreHost σ] {lets : CallKind → Prop} {s s₀ : Store}
  {fb : Framebuffer} {b c : Buffer} {e' : Bytes}

namespace View

variable {v : View}

/-- A linear copy that is copied back changes bytes in the rows of planes. -/
lemma restores_spares (hj : v.framebuffer.Spares j) :
    v.Restores b s₀ fun x y => y[j]? = x[j]? := by
  refine fun sh _ c _ => ⟨rfl, fun plane ss ds area _ hds ha bytes hbytes => ?_⟩
  obtain ⟨offset, hoffset, rfl⟩ := Option.map_eq_some_iff.1 hds
  rw [← hbytes]
  refine Store.getElem?_copied_outside fun row hrow => ?_
  have := hj plane area ha row hrow
  rw [Layout.offset, hoffset] at this
  exact this

/-- The end of a view keeps what lies in no row of a plane, if the conversion back keeps it. -/
lemma does_closing_spares (hv : Shown fb s₀ v M e s) (hsize : e'.size = M.size)
    (henc : v.Encodes M e e') (hc : s₀.buffer? fb.buffer = some c) (hj : fb.Spares j)
    (hd : v.shadow = none → e'[j]? = c.bytes[j]?) :
    Does (σ := σ) lets (Act.attemptAll v.closing) s fun _ s' =>
      ∃ b, s'.buffer? fb.buffer = some b ∧ b.bytes[j]? = c.bytes[j]? := by
  rw [closing_eq]
  refine does_attemptAll_cons_any (P := fun s' => Shown fb s₀ v M e' s')
    ((does_encode_all hv hsize henc).mono fun _ _ hend => hend.2) fun s₁ hv₁ => ?_
  obtain ⟨b, m, hheld, rfl, -, -, -⟩ := hv₁.held
  obtain rfl := hv₁.framebuffer
  refine (does_giveBack hheld (restores_spares hj) fun hs b₀ hb₀ => ?_).mono fun _ s' hend => ?_
  · rw [target, hs, hc] at hb₀
    cases hb₀
    exact hd hs
  · obtain ⟨b', hb', -, hsame⟩ := hend.self c hc
    exact ⟨b', hb', hsame⟩

/-! ### The converted image -/

/-- The converted image shows the planes that are mapped, and there is room in it for every pixel.
-/
lemma Images.shows [Machine] (himages : v.Images e) (hformat : v.framebuffer.format = .nv12)
    (hh : 0 < v.framebuffer.height) (hlin : v.linearLayout = M)
    (hM : M.Sound .nv12 v.framebuffer.width v.framebuffer.height) (hsize : e.size = M.size) :
    ∃ sc, v.scratch = some sc ∧
      Nv12.Shows v.framebuffer.width v.framebuffer.height e M.placement sc.data sc.stride ∧
      Nv12.packedAt sc.stride (v.framebuffer.height - 1) v.framebuffer.width ≤ sc.data.size := by
  have planar : PixelFormat.nv12.isPlanar := rfl
  rw [Images, hformat, if_pos planar] at himages
  obtain ⟨sc, hsc, hdecoded⟩ := himages
  obtain ⟨stride, hstride, hdecoded⟩ := Checked.bind_eq_ok.1 hdecoded
  obtain ⟨data, hdata, hdecoded⟩ := Checked.bind_eq_ok.1 hdecoded
  cases hdecoded
  have hplace : v.placement = M.placement := hlin ▸ rfl
  have hroom := Layout.le_scratchSize hstride hh
  obtain ⟨data', hdata', hs⟩ := Nv12.unpack_ok hh hM hsize hroom
  rw [hplace] at hdata
  cases hdata'.symm.trans hdata
  rw [Nv12.unpack_eq_decode] at hdata
  exact ⟨_, hsc, Nv12.decode_shows (Layout.le_scratchStride hstride) hdata, hs.symm ▸ hroom⟩

end View

/-- Packed pixels that are all there can be encoded to planes that are all there. -/
lemma Nv12.exists_encode (hh : 0 < h) (hM : M.Sound .nv12 w h) (hsize : e.size = M.size)
    (hsrc : packedAt stride (h - 1) w ≤ src.size) :
    ∃ e', encode w h src stride e M.placement = .ok e' ∧ e'.size = M.size := by
  obtain ⟨e', he', hs⟩ := encode_ok hsrc (fits_placement hM hh (Nat.le_of_eq hsize.symm))
  exact ⟨e', he', hs.trans hsize⟩

namespace View

variable {v : View} {u u' : Run Store}

/-- What is left of the planes when pixels have been painted on a converted image: their samples,
and all else as it was. -/
structure Leaves (fb : Framebuffer) (c : Buffer) (edited : Bytes) (stride : Nat) (d : Bytes) :
    Prop where
  size : d.size = c.bytes.size
  samples : Nv12.Encoded fb.width fb.height edited stride d fb.layout.placement
  rest : ∀ j, fb.layout.placement.Spares fb.width fb.height j → d[j]? = c.bytes[j]?

/-- A view whose converted image has been painted ends well, and leaves the samples of its pixels.
-/
lemma Shown.finish_converted (hw : fb.Whole s₀ c) (hformat : fb.format = .nv12)
    (hv : Shown fb s₀ v M e u'.host) (hholds : fb.Holds M c.bytes e) {sc : Scratch}
    (hsc : v.scratch = some sc)
    (hroom : Nv12.packedAt sc.stride (fb.height - 1) fb.width ≤ sc.data.size)
    (hdirect : v.shadow = none → e = c.bytes) :
    ∃ r' d, v.finish u' = .ok () r' ∧ r'.host.buffer? fb.buffer = some { c with bytes := d } ∧
      Leaves fb c sc.data sc.stride d := by
  have hM := Layout.Same.sound_right hholds
  have hM' : M.Sound .nv12 fb.width fb.height := hformat ▸ hM
  obtain ⟨e', hencode, hsize⟩ := Nv12.exists_encode hw.height_pos hM' hv.size hroom
  have henc : v.Encodes M e e' := by
    rw [Encodes, hsc]
    exact hv.framebuffer ▸ hencode
  -- leaving encodes the scratch image and carries the planes back
  obtain ⟨r', hr', d, hd, hde⟩ := (does_finish_ok hv.unreleased (does_closing_all (fun _ => trivial)
    hv hsize henc hw.live hw.free hw.size hw.sound hM)).exists_ok
  have hsame : Layout.Same .nv12 fb.width fb.height fb.layout M d e' := hformat ▸ hde
  refine ⟨r', d, hr', hd, ⟨?_, ?_, fun j hj => ?_⟩⟩
  · rw [hsame.size_left, hw.size]
  · exact hsame.encoded (Nv12.encode_encoded (Layout.placement_apart hM') hencode)
  · -- without a linear copy the planes that are encoded are those of the framebuffer
    have kept : v.shadow = none → e'[j]? = c.bytes[j]? := by
      intro hs
      have hlin : fb.layout = M := by
        rw [← hv.linear, linearLayout, hs, hv.framebuffer]
      rw [← hdirect hs]
      exact Nv12.encode_spares (hlin ▸ hj) hencode
    -- the byte is looked at along the same run, once more
    have hfinish : Does (σ := Store) (fun _ => True) v.finish u'.host fun _ s' =>
        ∃ b, s'.buffer? fb.buffer = some b ∧ b.bytes[j]? = c.bytes[j]? := by
      refine does_finish hv.unreleased ((does_closing_spares hv hsize henc hw.live
        (hj.framebuffer hformat) kept).mono fun o _ hb => ?_)
      cases o <;> exact hb
    obtain ⟨-, b, hb, hbyte⟩ := (hfinish u' rfl fun _ _ => trivial).of_ok hr'
    cases hd.symm.trans hb
    exact hbyte

/-- **Planes seen and painted through a view.** A framebuffer of luma and chroma planes is asked for
with a size and a stride as computed, whatever its tiling and its device; its buffer holds whatever
it holds, and a view of it opens. Then every pixel that is shown has the colours of its own luma and
of the chroma of its block; and whatever is painted, the view ends well, and leaves in the planes
the luma and the chroma of the painted pixels, and every other byte of the buffer as it was. -/
theorem acquire_converts [Machine] {g : Framebuffer.Geometry} {r t : Run Store} (hsize : g.size = 0)
    (hstride : g.stride = 0)
    (hcreate : Framebuffer.create PixelFormat.nv12.code g r = .ok fb t)
    (hlive : u.host.buffer? fb.buffer = some c) (hfree : c.mapping = none)
    (hwhole : c.bytes.size = fb.layout.size) (hacquire : acquire fb u = .ok v u') :
    Nv12.Shows fb.width fb.height c.bytes fb.layout.placement (v.pixels u'.host) v.stride ∧
      ∀ edited : Bytes, edited.size = (v.pixels u'.host).size → ∃ v' t' r' d,
        v.setPixels edited u' = .ok v' t' ∧ v'.finish t' = .ok () r' ∧
          r'.host.buffer? fb.buffer = some { c with bytes := d } ∧
          Leaves fb c edited v.stride d := by
  have hmade := Framebuffer.made_of_create hcreate
  have hformat : fb.format = .nv12 := (Except.ok.inj hmade.format).symm
  obtain ⟨c₀, hw₀, -⟩ := hmade.whole hstride hsize
  have hw : fb.Whole u.host c := ⟨hw₀.format, hw₀.layout, hlive, hfree, hwhole⟩
  have hopens : Does (σ := Store) (fun _ => True) (acquire fb) u.host _ :=
    does_acquire_all (fun _ => trivial) hw
  obtain ⟨-, b, m, hshows, hopen⟩ := (hopens u rfl fun _ _ => trivial).of_ok hacquire
  obtain ⟨M, hshown, hholds⟩ := hopen.shown hw.live hw.size hw.sound
  obtain rfl := hshown.framebuffer
  have hM : M.Sound .nv12 v.framebuffer.width v.framebuffer.height :=
    hformat ▸ Layout.Same.sound_right hholds
  -- what is shown is the converted image of the planes of the linear layout `M`
  obtain ⟨sc, hsc, himage, hroom⟩ := (hopen.images hshown hshows).shows hformat hw.height_pos
    hshown.linear hM hshown.size
  have hpixels : v.pixels u'.host = sc.data := by simp only [pixels, hsc]
  have hrows : v.stride = sc.stride := by simp only [stride, hsc]
  have hsame : Layout.Same .nv12 v.framebuffer.width v.framebuffer.height v.framebuffer.layout M
      c.bytes b.bytes := hformat ▸ hholds
  rw [hpixels, hrows]
  refine ⟨hsame.shows himage, fun edited hedited => ?_⟩
  -- the edit only changes the scratch image
  have hpainted : Shown v.framebuffer u.host { v with scratch := some { sc with data := edited } } M
      b.bytes u'.host := hshown.withScratch
  obtain ⟨r', d, hfinish, hd, hleaves⟩ := hpainted.finish_converted hw hformat hholds rfl
    (show _ ≤ edited.size from hedited ▸ hroom) fun hs => hopen.loaded.direct hs c hw.live
  refine ⟨_, u', r', d, ?_, hfinish, hd, hleaves⟩
  simp only [setPixels, hsc]
  rfl

/-- Where packed rows are not too wide, a view of a framebuffer on a store opens. -/
lemma exists_acquire [Machine] (hw : fb.Whole u.host c)
    (hstride : ∃ row, scratchStride fb.width = .ok row) : ∃ v u', acquire fb u = .ok v u' := by
  have hopens : Does (σ := Store) (fun _ => True) (acquire fb) u.host _ :=
    does_acquire_all (fun _ => trivial) hw
  rcases hopens.exists_end with ⟨v, u', hv, -⟩ | ⟨f, u', -, -, hwide, -⟩
  · exact ⟨v, u', hv⟩
  · obtain ⟨row, hrow⟩ := hstride
    cases hwide.symm.trans hrow

/-- An image whose last row and last column have no partner. -/
def oddImage : Framebuffer.Geometry :=
  { device := .standard, width := 3, height := 3, tiling := .linear }

theorem acquire_odd_converts : ∃ (fb : Framebuffer) (t u' : Run Store) (c : Buffer) (v : View),
    Framebuffer.create PixelFormat.nv12.code oddImage Framebuffer.nowhere = .ok fb t ∧
      t.host.buffer? fb.buffer = some c ∧ acquire fb t = .ok v u' ∧
      Nv12.Shows fb.width fb.height c.bytes fb.layout.placement (v.pixels u'.host) v.stride ∧
      ∀ edited : Bytes, edited.size = (v.pixels u'.host).size → ∃ v' t' r' d,
        v.setPixels edited u' = .ok v' t' ∧ v'.finish t' = .ok () r' ∧
          r'.host.buffer? fb.buffer = some { c with bytes := d } ∧
          Leaves fb c edited v.stride d := by
  obtain ⟨fb, t, hcreate⟩ : ∃ fb t,
      Framebuffer.create PixelFormat.nv12.code oddImage Framebuffer.nowhere = .ok fb t :=
    Framebuffer.exists_create rfl rfl (by decide)
  have hmade := Framebuffer.made_of_create hcreate
  obtain ⟨c, hw, -⟩ := hmade.whole rfl rfl
  have hwidth : fb.width = 3 := hmade.geometry.1
  obtain ⟨v, u', hv⟩ := exists_acquire hw ⟨16, by rw [hwidth]; rfl⟩
  exact ⟨fb, t, u', c, v, hcreate, hw.live, hv,
    acquire_converts rfl rfl hcreate hw.live hw.free hw.size hv⟩

end View

end Scanout
