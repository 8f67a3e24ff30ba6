/-
Every framebuffer that can be made can be painted on.

* `View.scratchStride_eq`: the stride of a converted image, or an overflow;
* `View.Workable`: there is a canvas over the pixels of a view, and they can be written back;
* `View.Workable.painted`, `View.Workable.finish`: it stays so whatever is painted, and such a view
  ends well;
* `View.Workable.paintAll`: nor does it matter how often;
* `View.acquire_usable`: **a view of what has been made opens, has a canvas over its pixels
  and ends well whatever was painted**, but for planes whose packed pixels are too wide.
-/
import Scanout.Proofs.Framebuffer.Converting

namespace Scanout

/-- Whether there is a canvas over a buffer depends on no more of it than its size. -/
lemma Canvas.exists_make {data data' : Bytes} {width height stride : Nat} {p : Packing} {a : Canvas}
    (ha : make data width height stride p = .ok a) (hsize : data'.size = data.size) :
    ∃ a', make data' width height stride p = .ok a' := by
  rw [make] at ha ⊢
  rw [hsize]
  split at ha
  · cases ha
  · next hrow =>
    rw [if_neg hrow]
    split at ha
    · cases ha
    · next hroom =>
      rw [if_neg hroom]
      exact ⟨_, rfl⟩

namespace View

/-- The stride of a converted image is a whole number of units, if that fits. -/
lemma scratchStride_eq (w : Nat) : scratchStride w =
    if roundUp (4 * w) scratchStrideAlign < 0x100000000 then
      .ok (roundUp (4 * w) scratchStrideAlign)
    else Checked.fail .overflow := by
  have hle : 4 * w ≤ roundUp (4 * w) scratchStrideAlign := le_roundUp (by decide) _
  rw [scratchStride, Nat.mul_comm w]
  by_cases hrow : 4 * w < 0x100000000
  · have hfits : fit32 (4 * w) = .ok (4 * w) := fit32_eq_ok.2 ⟨hrow, rfl⟩
    rw [hfits]
    rfl
  · have hwide : fit32 (4 * w) = Checked.fail .overflow := if_neg hrow
    rw [hwide, if_neg (by omega)]
    rfl

variable {fb : Framebuffer} {s s₀ : Store} {v : View} {b c : Buffer} {m : Mapping} {M : Layout}
  {e bytes : Bytes} {u : Run Store}

/-- What is painted on the pixels of a view is what they are, and the view is still open. -/
lemma Shown.painted (hv : Shown fb s₀ v M e s) (hsize : bytes.size = (v.pixels s).size) :
    (v.painted bytes).pixels (v.paintedStore bytes s) = bytes ∧
      ∃ e', Shown fb s₀ (v.painted bytes) M e' (v.paintedStore bytes s) := by
  cases hsc : v.scratch with
  | some sc =>
      simp only [View.painted, paintedStore, pixels, hsc]
      exact ⟨trivial, e, hv.withScratch⟩
  | none =>
      obtain ⟨_, m, -, -, hm, -, -⟩ := hv.held
      rw [hv.pixels_mapped hsc, hv.size] at hsize
      have hv' := hv.setWindow hm hsize
      simp only [View.painted, paintedStore, hsc, hm]
      exact ⟨hv'.pixels_mapped hsc, bytes, hv'⟩

/-- A view is open, there is a canvas over its pixels, and they can be written back. -/
structure Workable (fb : Framebuffer) (s₀ : Store) (M : Layout) (v : View) (s : Store) : Prop where
  shown : ∃ e, Shown fb s₀ v M e s
  canvas : ∃ a, v.canvas s = .ok a
  room : ∀ sc, v.scratch = some sc → fb.format = .nv12 ∧
    Nv12.packedAt sc.stride (fb.height - 1) fb.width ≤ sc.data.size

/-- Planes that were opened are not too wide. -/
lemma Opened.narrow [Machine] (hv : Opened fb s₀ v b m s) (hw : fb.Whole s₀ c)
    (hshows : v.Shows b m) (hformat : fb.format = .nv12) :
    roundUp (4 * fb.width) 16 ≤ 0xffffffff := by
  obtain ⟨M, hshown, -⟩ := hv.shown hw.live hw.size hw.sound
  have himages := hv.images hshown hshows
  obtain rfl := hshown.framebuffer
  obtain ⟨stride, hstride⟩ := himages.narrow (hformat ▸ rfl)
  rw [scratchStride_eq, scratchStrideAlign] at hstride
  split at hstride
  · omega
  · cases hstride

/-- What is opened of a framebuffer can be worked on. -/
lemma Opened.workable [Machine] (hv : Opened fb s₀ v b m s) (hw : fb.Whole s₀ c)
    (hshows : v.Shows b m) :
    ∃ M, Workable fb s₀ M v s ∧ M.Sound fb.format fb.width fb.height := by
  obtain ⟨M, hshown, hholds⟩ := hv.shown hw.live hw.size hw.sound
  have hM := Layout.Same.sound_right hholds
  have himages := hv.images hshown hshows
  obtain rfl := hshown.framebuffer
  refine ⟨M, ⟨⟨_, hshown⟩, ?_, fun sc hsc => ?_⟩, hM⟩
  · -- there is a canvas to do nothing on
    obtain ⟨e', hpaint, hsize⟩ :=
      Layout.exists_repainted (l := []) hw.format hw.height_pos hM hshown.size himages.narrow
    obtain ⟨a, -, -, ha, -⟩ := hshown.exists_painted himages hsize hpaint
    exact ⟨a, ha⟩
  · have hplanar : v.framebuffer.format.isPlanar := by
      rw [Images] at himages
      split at himages
      · assumption
      · cases himages.symm.trans hsc
    have hformat := hw.nv12 (Route.of_eq_convert.2 hplanar)
    obtain ⟨sc', hsc', -, hroom⟩ :=
      himages.shows hformat hw.height_pos hshown.linear (hformat ▸ hM) hshown.size
    cases hsc.symm.trans hsc'
    exact ⟨hformat, hroom⟩

namespace Workable

/-- Whatever is painted on a view, it can be worked on further. -/
lemma painted (hv : Workable fb s₀ M v s) (hsize : bytes.size = (v.pixels s).size) :
    Workable fb s₀ M (v.painted bytes) (v.paintedStore bytes s) := by
  obtain ⟨⟨e, hshown⟩, ⟨a, ha⟩, hroom⟩ := hv
  obtain ⟨hpixels, hshown'⟩ := hshown.painted hsize
  refine ⟨hshown', ?_, ?_⟩
  · rw [View.canvas, hpixels]
    rw [View.canvas] at ha
    obtain ⟨a', ha'⟩ := Canvas.exists_make ha hsize
    refine ⟨a', ?_⟩
    rw [View.painted]
    -- the rows of a converted image stay as far apart as they were
    cases hsc : v.scratch with
    | some sc =>
        rw [View.stride, hsc] at ha'
        exact ha'
    | none => exact ha'
  · intro sc' hsc'
    cases hsc : v.scratch with
    | some sc =>
        obtain ⟨hformat, hfits⟩ := hroom sc hsc
        have hlarge : bytes.size = sc.data.size := by rw [hsize, pixels, hsc]
        simp only [View.painted, hsc] at hsc'
        cases hsc'
        exact ⟨hformat, hlarge ▸ hfits⟩
    | none =>
        simp only [View.painted, hsc] at hsc'
        cases hsc'

/-- A view that can be worked on ends well. -/
lemma finish (hv : Workable fb s₀ M v u.host) (hw : fb.Whole s₀ c)
    (hM : M.Sound fb.format fb.width fb.height) : ∃ r', v.finish u = .ok () r' := by
  obtain ⟨⟨e, hshown⟩, -, hroom⟩ := hv
  obtain ⟨e', hsize, henc⟩ : ∃ e', e'.size = M.size ∧ v.Encodes M e e' := by
    simp only [Encodes]
    cases hsc : v.scratch with
    | none => exact ⟨e, hshown.size, rfl⟩
    | some sc =>
        obtain ⟨hformat, hfits⟩ := hroom sc hsc
        obtain ⟨e', henc, hsize⟩ :=
          Nv12.exists_encode hw.height_pos (hformat ▸ hM) hshown.size hfits
        exact ⟨e', hsize, hshown.framebuffer ▸ henc⟩
  obtain ⟨r', hr', -⟩ := (does_finish_ok hshown.unreleased (does_closing_all (fun _ => trivial)
    hshown hsize henc hw.live hw.free hw.size hw.sound hM)).exists_ok
  exact ⟨r', hr'⟩

end Workable

/-! ### Any number of changes -/

/-- On a store the pixels of a view are changed, and nothing else is done. -/
lemma setPixels_eq (v : View) (bytes : Bytes) (u : Run Store) :
    v.setPixels bytes u = .ok (v.painted bytes) ⟨v.paintedStore bytes u.host, u.log⟩ := by
  rw [setPixels, View.painted, paintedStore]
  cases v.scratch with
  | some sc => rfl
  | none => cases v.mapping <;> rfl

/-- However often the pixels are changed, the view can be worked on further. -/
lemma Workable.paintAll {edits : List Bytes} (hv : Workable fb s₀ M v u.host)
    (hedits : ∀ bytes ∈ edits, bytes.size = (v.pixels u.host).size) :
    ∃ v' t', v.paintAll edits u = .ok v' t' ∧ Workable fb s₀ M v' t'.host := by
  induction edits generalizing v u with
  | nil => exact ⟨v, u, rfl, hv⟩
  | cons bytes edits ih =>
      have hsize := hedits bytes List.mem_cons_self
      obtain ⟨e, hshown⟩ := hv.shown
      obtain ⟨v', t', ht', hv'⟩ := @ih (v.painted bytes) ⟨v.paintedStore bytes u.host, u.log⟩
        (hv.painted hsize) fun bytes' hbytes' => by
          rw [(hshown.painted hsize).1, hsize]
          exact hedits bytes' (List.mem_cons_of_mem _ hbytes')
      refine ⟨v', t', ?_, hv'⟩
      rw [View.paintAll, List.foldlM_cons]
      simp only [bind, EStateM.bind, setPixels_eq]
      exact ht'

/-! ### What has been made -/

variable {g : Framebuffer.Geometry} {code : FourCC} {r t : Run Store}

/-- **Every framebuffer that can be made can be painted on.** A framebuffer was made with a size and
a stride as computed, and its buffer is there, holds whatever it holds and is not mapped. Then a
view of it opens, and however often its pixels are changed there is a canvas over them and the view
ends well. Only planes whose packed rows need more than thirty-two bits cannot be seen; a view of
them fails for an overflow. -/
theorem acquire_usable [Machine] (hsize : g.size = 0) (hstride : g.stride = 0)
    (hcreate : Framebuffer.create code g r = .ok fb t) (hlive : u.host.buffer? fb.buffer = some c)
    (hfree : c.mapping = none) (hwhole : c.bytes.size = fb.layout.size) :
    if fb.format = .nv12 ∧ 0xffffffff < roundUp (4 * fb.width) 16 then
      ∃ u', acquire fb u = .error (.error .overflow) u'
    else ∃ v u', acquire fb u = .ok v u' ∧ ∀ edits : List Bytes,
      (∀ bytes ∈ edits, bytes.size = (v.pixels u'.host).size) → ∃ v' t' a r',
        v.paintAll edits u' = .ok v' t' ∧ v'.canvas t'.host = .ok a ∧ v'.finish t' = .ok () r' := by
  obtain ⟨c₀, hw₀, -⟩ := (Framebuffer.made_of_create hcreate).whole hstride hsize
  have hw : fb.Whole u.host c := ⟨hw₀.format, hw₀.layout, hlive, hfree, hwhole⟩
  have hopens : Does (σ := Store) (fun _ => True) (acquire fb) u.host _ :=
    does_acquire_all (fun _ => trivial) hw
  rcases hopens.exists_end with ⟨v, u', hv, b, m, hshows, hopen⟩ | ⟨f, u', hf, hformat, hwide, -⟩
  · -- a view that has opened has found a stride for the converted image
    have narrow : ¬(fb.format = .nv12 ∧ 0xffffffff < roundUp (4 * fb.width) 16) :=
      fun h => Nat.not_lt.2 (hopen.narrow hw hshows h.1) h.2
    obtain ⟨M, hwork, hM⟩ := hopen.workable hw hshows
    rw [if_neg narrow]
    refine ⟨v, u', hv, fun edits hedits => ?_⟩
    obtain ⟨v', t', ht', hwork'⟩ := hwork.paintAll hedits
    obtain ⟨a, ha⟩ := hwork'.canvas
    obtain ⟨r', hr'⟩ := hwork'.finish hw hM
    exact ⟨v', t', a, r', ht', ha, hr'⟩
  · -- a view that has not opened is one whose converted rows are too long
    rw [scratchStride_eq, scratchStrideAlign] at hwide
    split at hwide
    · cases hwide
    · next hover =>
      cases hwide
      rw [if_pos ⟨hformat, by omega⟩]
      exact ⟨u', hf⟩

theorem acquire_dot_usable : ∃ (fb : Framebuffer) (t : Run Store) (c : Buffer),
    Framebuffer.create (PixelFormat.codeOf 'X' 'R' '2' '4') Framebuffer.copiedDot
        Framebuffer.nowhere = .ok fb t ∧
      t.host.buffer? fb.buffer = some c ∧ c.mapping = none ∧ c.bytes.size = fb.layout.size ∧
      ∃ v u', acquire fb t = .ok v u' ∧ ∀ edits : List Bytes,
        (∀ bytes ∈ edits, bytes.size = (v.pixels u'.host).size) → ∃ v' t' a r',
          v.paintAll edits u' = .ok v' t' ∧ v'.canvas t'.host = .ok a ∧
            v'.finish t' = .ok () r' := by
  obtain ⟨fb, t, hcreate⟩ : ∃ fb t, Framebuffer.create (PixelFormat.codeOf 'X' 'R' '2' '4')
      Framebuffer.copiedDot Framebuffer.nowhere = .ok fb t := ⟨_, _, rfl⟩
  have hmade := Framebuffer.made_of_create hcreate
  obtain ⟨c, hw, -⟩ := hmade.whole rfl rfl
  have hwidth : fb.width = 1 := hmade.geometry.1
  have husable := acquire_usable (u := t) rfl rfl hcreate hw.live hw.free hw.size
  rw [hwidth, if_neg fun h => absurd h.2 (by decide)] at husable
  exact ⟨fb, t, c, hcreate, hw.live, hw.free, hw.size, husable⟩

end View

end Scanout
