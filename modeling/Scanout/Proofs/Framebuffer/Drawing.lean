/-
Drawing on a host that refuses nothing.

* `Framebuffer.Whole`: a framebuffer stands in a buffer as it was laid out;
* `View.does_acquire_all`: a view of it opens, or its planes are too wide to be converted;
* `View.Shown.exists_painted`: the image of an open view is painted as its bytes in rows are;
* `Framebuffer.does_draw_all`: **drawing makes of the samples of a framebuffer what painting makes
  of them in rows**, whatever the way to them is.
-/
import Scanout.Framebuffer.Draw
import Scanout.Proofs.Layout.Linear
import Scanout.Proofs.Samples.Repainting
import Scanout.Proofs.View.Unhindered

namespace Scanout

variable {σ : Type} [Backend σ] [StoreHost σ] {lets : CallKind → Prop} {s s₀ s' : Store}
  {fb : Framebuffer} {b c : Buffer} {M : Layout} {e e' : Bytes} {l : List Stroke}

/-- A framebuffer of a registered format stands in a buffer as it was laid out. -/
structure Framebuffer.Whole (fb : Framebuffer) (s : Store) (c : Buffer) : Prop where
  format : fb.format ∈ PixelFormat.registry
  layout : Layout.compute fb.device fb.width fb.height fb.format fb.tiling = .ok fb.layout
  live : s.buffer? fb.buffer = some c
  free : c.mapping = none
  size : c.bytes.size = fb.layout.size

namespace Framebuffer.Whole

lemma sound (hw : fb.Whole s c) : fb.layout.Sound fb.format fb.width fb.height :=
  Layout.sound_of_compute hw.layout

lemma height_pos (hw : fb.Whole s c) : 0 < fb.height :=
  (Layout.compute_eq_ok.1 hw.layout).2.1

/-- Nothing stands in the way of a view. -/
lemma viewable (hw : fb.Whole s c) (hall : ∀ k, lets k) : fb.Viewable lets s c := by
  obtain ⟨L, hL⟩ := Layout.exists_linear hw.layout
  refine ⟨hall, hw.live, ⟨hw.free, Nat.le_of_eq hw.size.symm, ?_⟩, L, hL⟩
  intro plane hp area ha row hrow
  rw [hw.size]
  exact Layout.place_le_size hw.sound hp ha hrow

/-- Every registered format is packed or can be converted. -/
lemma convertible (hw : fb.Whole s c) :
    (if Route.of fb = .convert then fb.format.ensureConvertible else .ok ()) = .ok () := by
  have hformat := PixelFormat.of_registry hw.format
  rw [Route.of]
  cases hf : fb.format.isPlanar with
  | true =>
      rw [if_pos hf] at hformat
      rw [hformat]
      rfl
  | false =>
      cases fb.tiling.needsBlit <;> rfl

/-- Only the format that can be converted has several planes. -/
lemma nv12 (hw : fb.Whole s c) (hroute : Route.of fb = .convert) : fb.format = .nv12 := by
  have hformat := PixelFormat.of_registry hw.format
  rwa [if_pos (Route.of_eq_convert.1 hroute)] at hformat

end Framebuffer.Whole

namespace View

variable {v : View} {m : Mapping} {f : Failure}

/-! ### The view -/

/-- Whole planes are converted, unless their packed pixels are too wide. -/
lemma scratchOf_error [Machine] (hformat : v.framebuffer.format = .nv12)
    (hh : 0 < v.framebuffer.height) (hlin : v.linearLayout = M)
    (hM : M.Sound v.framebuffer.format v.framebuffer.width v.framebuffer.height)
    (hsize : e.size = M.size) (hsc : v.scratchOf e = .error f) :
    scratchStride v.framebuffer.width = .error f := by
  rw [hformat] at hM
  rw [scratchOf] at hsc
  cases hstride : scratchStride v.framebuffer.width with
  | error f' =>
      rw [hstride] at hsc
      cases hsc
      rfl
  | ok stride =>
      obtain ⟨data, hdata, -⟩ := Nv12.unpack_ok hh hM hsize (Layout.le_scratchSize hstride hh)
      have hplace : v.placement = M.placement := by
        rw [← hlin]
        rfl
      rw [hstride, hplace] at hsc
      simp only [bind, Except.bind, hdata] at hsc
      cases hsc

/-- What is mapped of an opened view is the whole image. -/
lemma Opened.slice (hv : Opened fb s₀ v b m s) (hshown : Shown fb s₀ v M b.bytes s) :
    b.bytes.slice 0 m.len = b.bytes := by
  rw [hv.len, hshown.linear]
  exact Bytes.slice_whole hshown.size

/-- A view of a framebuffer opens, or its planes are too wide to be converted. -/
lemma does_acquire_all [Machine] (hall : ∀ k, lets k) (hw : fb.Whole s₀ c) :
    Does (σ := σ) lets (acquire fb) s₀ fun o s =>
      match o with
      | .ok v => ∃ b m, v.Shows b m ∧ Opened fb s₀ v b m s
      | .error f => fb.format = .nv12 ∧ scratchStride fb.width = .error f ∧
          ∃ M e d, fb.Holds M c.bytes e ∧ s.buffer? fb.buffer = some { c with bytes := d } ∧
            fb.Holds M d e := by
  rintro r rfl hl
  rw [ends_acquire, hw.convertible]
  refine (ends_opening (r := started fb r) hl).mono ?_
  intro o p hend
  obtain ⟨hl₁, ho⟩ := hend
  obtain ⟨r₁, v⟩ := p
  cases o with
  | ok _ => exact ⟨hl₁, ho⟩
  | error f =>
      -- nothing is refused, so that it was the conversion, before anything was painted
      obtain ⟨hstop, hfailed⟩ := ho
      obtain ⟨hroute, b, m, hsc, hopen⟩ := hfailed c (hw.viewable hall)
      obtain ⟨M, hshown, hholds⟩ := hopen.shown hw.live hw.size hw.sound
      have hM := Layout.Same.sound_right hholds
      have hunconverted : v.Encodes M b.bytes b.bytes := by
        rw [Encodes, hstop.scratch_none]
      have hclosed := does_dispose_ok (σ := σ) hshown.unreleased (does_closing_all hall hshown
        hshown.size hunconverted hw.live hw.free hw.size hw.sound hM)
      refine (hclosed r₁ rfl hl₁).mono ?_
      intro o r₂ hend
      obtain ⟨hl₂, rfl, d, hd, hde⟩ := hend
      have hformat := hw.nv12 hroute
      rw [hopen.slice hshown] at hsc
      obtain rfl := hshown.framebuffer
      have hwide := scratchOf_error hformat hw.height_pos hshown.linear hM hshown.size hsc
      exact ⟨hl₂, hformat, hwide, M, b.bytes, d, hholds, hd, hde⟩

/-! ### The pixels -/

/-- The pixels of a view are the converted image of planes, or the bytes that are mapped. -/
def Images [Machine] (v : View) (e : Bytes) : Prop :=
  if v.framebuffer.format.isPlanar then ∃ sc, v.scratch = some sc ∧ v.scratchOf e = .ok sc
  else v.scratch = none

lemma Opened.images [Machine] (hv : Opened fb s₀ v b m s) (hshown : Shown fb s₀ v M b.bytes s)
    (hshows : v.Shows b m) : v.Images b.bytes := by
  rw [Shows] at hshows
  rw [Images]
  simp only [Route.of_eq_convert, hv.slice hshown] at hshows
  exact hshows

/-- What has been converted was not too wide. -/
lemma Images.narrow [Machine] (hv : v.Images e) (hplanar : v.framebuffer.format.isPlanar) :
    ∃ stride, scratchStride v.framebuffer.width = .ok stride := by
  rw [Images, if_pos hplanar] at hv
  obtain ⟨sc, -, hdecoded⟩ := hv
  obtain ⟨stride, hstride, -⟩ := Checked.bind_eq_ok.1 hdecoded
  exact ⟨stride, hstride⟩

/-- A converted image takes nothing from what is seen. -/
lemma Shown.withScratch {sc : Option Scratch} (hv : Shown fb s₀ v M e s) :
    Shown fb s₀ { v with scratch := sc } M e s := by
  obtain ⟨hfb, hr, hlin, hsize, b, m, hheld, hrest⟩ := hv
  exact ⟨hfb, hr, hlin, hsize, b, m,
    ⟨hheld.sets, hheld.mapped, hheld.own, hheld.fresh, hheld.kept⟩, hrest⟩

/-- The image of an open view is painted as its bytes in rows are. -/
lemma Shown.exists_painted [Machine] (hv : Shown fb s₀ v M e s)
    (himages : v.Images e) (hsize : e'.size = M.size)
    (hpaint : M.repainted fb.format fb.width fb.height l e = .ok e') :
    ∃ c c' e₁, v.canvas s = .ok c ∧ c.strokes? l = some c' ∧
      Shown fb s₀ (v.painted c'.data) M e₁ (v.paintedStore c'.data s) ∧
      (v.painted c'.data).Encodes M e₁ e' := by
  obtain rfl := hv.framebuffer
  rw [Layout.repainted] at hpaint
  rw [Images] at himages
  split at himages
  · next hplanar =>
    -- painted is the converted image, which is not stored before the end
    obtain ⟨sc, hsc, hdecoded⟩ := himages
    have hplace : v.placement = M.placement := by
      rw [← hv.linear]
      rfl
    rw [if_pos hplanar] at hpaint
    obtain ⟨stride, hstride, hpaint⟩ := Checked.bind_eq_ok.1 hpaint
    obtain ⟨data, hdata, hpaint⟩ := Checked.bind_eq_ok.1 hpaint
    obtain ⟨c, hc, hpaint⟩ := Checked.bind_eq_ok.1 hpaint
    obtain ⟨c', hc', henc⟩ := Checked.bind_eq_ok.1 hpaint
    obtain ⟨stride', hstride', hdecoded⟩ := Checked.bind_eq_ok.1 hdecoded
    cases hstride.symm.trans hstride'
    obtain ⟨data', hdata', hdecoded⟩ := Checked.bind_eq_ok.1 hdecoded
    rw [hplace] at hdata'
    cases hdata.symm.trans hdata'
    cases hdecoded
    refine ⟨c, c', e, ?_, Checked.need_eq_ok.1 hc', ?_, ?_⟩
    · simp only [canvas, pixels, View.stride, hsc]
      exact hc
    · simp only [painted, paintedStore, hsc]
      exact hv.withScratch
    · simp only [painted, Encodes, hsc]
      exact henc
  · next hplanar =>
    -- painted is what is mapped, and there is nothing to convert back
    obtain ⟨b, m, -, -, hm, -, -⟩ := hv.held
    rw [if_neg hplanar] at hpaint
    obtain ⟨c, hc, hpaint⟩ := Checked.bind_eq_ok.1 hpaint
    obtain ⟨c', hc', hpaint⟩ := Checked.bind_eq_ok.1 hpaint
    cases hpaint
    refine ⟨c, c', c'.data, ?_, Checked.need_eq_ok.1 hc', ?_, ?_⟩
    · simp only [canvas, hv.pixels_mapped himages, View.stride, himages, hv.linear]
      exact hc
    · simp only [painted, paintedStore, himages, hm]
      exact hv.setWindow hm hsize
    · simp only [painted, Encodes, himages]

end View

/-! ### The whole of it -/

namespace Framebuffer

/-- What drawing leaves: the image that a framebuffer held is painted as its bytes in rows are, or
is what it was where they cannot be painted. -/
def Drawn [Machine] (fb : Framebuffer) (l : List Stroke) (c : Buffer) (o : Checked Unit)
    (s : Store) : Prop :=
  ∃ M e d, fb.Holds M c.bytes e ∧ s.buffer? fb.buffer = some { c with bytes := d } ∧
    match M.repainted fb.format fb.width fb.height l e with
    | .ok e' => o = .ok () ∧ fb.Holds M d e'
    | .error f => o = .error f ∧ fb.Holds M d e

/-- **Drawing makes of the samples of a framebuffer what painting makes of them in rows**, whatever
the way to them is. -/
theorem does_draw_all [Machine] (hall : ∀ k, lets k) (hw : fb.Whole s c) :
    Does (σ := σ) lets (fb.draw l) s (fb.Drawn l c) := by
  rw [draw]
  refine does_bind ((View.does_acquire_all hall hw).mono fun o s₁ ho => ?_)
  cases o with
  | error f =>
      obtain ⟨hformat, hstride, M, e, d, hholds, hd, hde⟩ := ho
      refine ⟨M, e, d, hholds, hd, ?_⟩
      -- planes too wide to be converted are repainted nowhere
      rw [Layout.repainted_wide (hformat ▸ rfl) hstride]
      exact ⟨rfl, hde⟩
  | ok v =>
      obtain ⟨b, m, hshows, hopen⟩ := ho
      obtain ⟨M, hshown, hholds⟩ := hopen.shown hw.live hw.size hw.sound
      have hM := Layout.Same.sound_right hholds
      have himages := hopen.images hshown hshows
      obtain rfl := hshown.framebuffer
      obtain ⟨e', hpaint, hsize⟩ :=
        Layout.exists_repainted (l := l) hw.format hw.height_pos hM hshown.size himages.narrow
      obtain ⟨a, a', e₁, hcanvas, hstrokes, hpainted, henc⟩ :=
        hshown.exists_painted himages hsize hpaint
      refine does_bind (does_attempt (View.does_edit ?_))
      rw [hcanvas]
      dsimp only
      rw [hstrokes]
      -- the painted image is what is encoded in the end
      have hclosed := View.does_closing_all (σ := σ) hall hpainted hsize henc hw.live hw.free
        hw.size hw.sound hM
      refine (View.does_finish_ok hpainted.unreleased hclosed).mono ?_
      intro o s₂ hend
      obtain ⟨ho, d, hd, hde⟩ := hend
      refine ⟨M, b.bytes, d, hholds, hd, ?_⟩
      rw [hpaint]
      exact ⟨ho, hde⟩

end Framebuffer

end Scanout
