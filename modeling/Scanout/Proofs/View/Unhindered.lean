/-
Views on a host that refuses nothing.

* `Framebuffer.Holds`: a framebuffer has in its own layout the image that some bytes have in rows;
* `Framebuffer.does_copyPlane_back`, `Framebuffer.does_copyBack`: a linear copy is copied back,
  plane by plane;
* `View.Shown`: a view is open on an image, whose bytes lie in rows;
* `View.Opened.shown`: what is opened shows what the framebuffer holds;
* `View.Returns`, `View.does_closing_returns`: what the end of a view makes of the framebuffer, if
  the linear copy is copied back;
* `View.does_closing_all`: **the end of a view succeeds and leaves the framebuffer with the image**.
-/
import Scanout.Proofs.Samples.Nv12
import Scanout.Proofs.View.Editing

namespace Scanout

variable {σ : Type} [Backend σ] [StoreHost σ] {lets : CallKind → Prop} {s s₀ s' : Store}
  {fb : Framebuffer} {sh : Shadow} {b c : Buffer} {M : Layout} {e e' : Bytes}

/-- A framebuffer has in its own layout the image that some bytes have in rows. -/
def Framebuffer.Holds (fb : Framebuffer) (M : Layout) (d e : Bytes) : Prop :=
  Layout.Same fb.format fb.width fb.height fb.layout M d e

namespace Framebuffer

/-- A plane of a linear copy is copied back where there is room for its rows. -/
lemma does_copyPlane_back {p : Nat} {area : Area} (hall : ∀ k, lets k) (hp : p < fb.numPlanes)
    (ha : fb.area? p = some area) (hM : sh.layout.Sound fb.format fb.width fb.height)
    (hb : s.buffer? sh.buffer = some b) (hbfree : b.mapping = none)
    (hbsize : b.bytes.size = sh.layout.size) (hc : s.buffer? fb.buffer = some c)
    (hcfree : c.mapping = none) (hroom : ∀ row < area.height,
      (fb.layout.surface fb.buffer fb.tiling p).place row area.rowBytes ≤ c.bytes.size) :
    Does (σ := σ) lets (fb.copyPlane sh.surface? fb.surface? p) s fun o s' => o = .ok () ∧
      s.Sets fb.buffer (some { c with
        bytes := (Store.copied (sh.layout.surface sh.buffer .linear p)
          (fb.layout.surface fb.buffer fb.tiling p) area b.bytes c.bytes).1 }) s' := by
  have hlt : p < maxPlanes := Nat.lt_of_lt_of_le hp hM.planes
  -- the plane has rows on both sides, and they are the ones that are copied
  refine does_copyPlane (fun hnone => ?_) fun ss ds area' hss hds ha' => ?_
  · rw [fb.surface?_eq hlt, sh.surface?_eq hlt, ha] at hnone
    simp at hnone
  cases (sh.surface?_eq hlt).symm.trans hss
  cases (fb.surface?_eq hlt).symm.trans hds
  cases ha.symm.trans ha'
  refine does_copy (fun hk _ => absurd (hall _) hk) (fun hmiss _ => ?_)
    fun a d s' hready hsets => ?_
  · refine absurd ⟨hb, hbfree, Layout.area_lt hM hp ha, fun row hrow => ?_, hc, hcfree⟩ (hmiss b c)
    rw [hbsize]
    exact Layout.place_le_size hM hp ha hrow
  · cases hb.symm.trans hready.source
    cases hc.symm.trans hready.target
    exact ⟨Store.copied_ok hroom, hsets⟩

/-- A linear copy is copied back whole. -/
lemma does_copyBack (hall : ∀ k, lets k) (hb : s.buffer? sh.buffer = some b)
    (hbfree : b.mapping = none) (hbsize : b.bytes.size = sh.layout.size)
    (hc : s.buffer? fb.buffer = some c) (hcfree : c.mapping = none)
    (hcsize : c.bytes.size = fb.layout.size) (hne : sh.buffer ≠ fb.buffer)
    (hL : fb.layout.Sound fb.format fb.width fb.height)
    (hM : sh.layout.Sound fb.format fb.width fb.height) :
    Does (σ := σ) lets (fb.copyPlanes sh.surface? fb.surface?) s fun o s' =>
      o = .ok () ∧ ∃ d, s.Sets fb.buffer (some { c with bytes := d }) s' ∧
        fb.Holds sh.layout d b.bytes := by
  rw [copyPlanes_eq]
  -- the invariant: the samples of all planes so far are those of the copy
  refine Does.forM_range (fun p s' => ∃ d, s.Sets fb.buffer (some { c with bytes := d }) s' ∧
    d.size = fb.layout.size ∧ ∀ t : Sample, t.Of fb.format fb.width fb.height → t.plane < p →
      d[fb.layout.place t]? = b.bytes[sh.layout.place t]?)
    ⟨c.bytes, Store.sets_self hc rfl, hcsize, fun t _ ht => absurd ht (Nat.not_lt_zero _)⟩ ?_ ?_
  · rintro p hp s' ⟨d, hsets, hsize, hsame⟩
    obtain ⟨area, ha, -⟩ := exists_area hL hp
    have hsource : s'.buffer? sh.buffer = some b := (hsets.other hne).trans hb
    refine (does_copyPlane_back hall hp ha hM hsource hbfree hbsize hsets.self hcfree
      fun row hrow => hsize ▸ Layout.place_le_size hL hp ha hrow).mono ?_
    rintro o s'' ⟨rfl, hsets'⟩
    refine ⟨_, hsets.trans hsets', Store.size_copied.trans hsize, fun t ht htp => ?_⟩
    obtain ⟨hin, hout⟩ := Layout.copied_sample (a := sh.buffer) (b := fb.buffer) (t := .linear)
      (u := fb.tiling) hM hL (Nat.le_of_eq hbsize.symm) (Nat.le_of_eq hsize.symm) hp ha ht
    -- the plane of this round has been copied, and the copy of it spares the others
    by_cases heq : t.plane = p
    · exact hin heq
    · exact (hout heq).trans (hsame t ht (by omega))
  · rintro s' ⟨d, hsets, hsize, hsame⟩
    refine ⟨rfl, d, hsets, hL, hM, hsize, hbsize, fun t ht => ?_⟩
    obtain ⟨x, hx⟩ := Layout.exists_sample hM (Nat.le_of_eq hbsize.symm) ht
    exact ⟨x, (hsame t ht ht.1).trans hx, hx⟩

end Framebuffer

namespace View

variable {v : View} {m : Mapping}

/-- A view is open on an image, whose bytes lie in rows. -/
structure Shown (fb : Framebuffer) (s₀ : Store) (v : View) (M : Layout) (e : Bytes) (s : Store) :
    Prop where
  framebuffer : v.framebuffer = fb
  unreleased : v.released = false
  linear : v.linearLayout = M
  size : e.size = M.size
  held : ∃ b m, v.Held s₀ b s ∧ b.bytes = e ∧ v.mapping = some m ∧ m.offset = 0 ∧ m.len = M.size

/-- What is opened is an image in what is mapped. -/
lemma Opened.shown_linear (hv : Opened fb s₀ v b m s) (hc : s₀.buffer? fb.buffer = some c)
    (hsize : c.bytes.size = fb.layout.size) : Shown fb s₀ v v.linearLayout b.bytes s := by
  obtain ⟨rfl, hr, hload, hm, hoff, hlen, -, -⟩ := hv
  refine ⟨rfl, hr, rfl, ?_, b, m, hload.held, rfl, hm, hoff, hlen⟩
  cases hs : v.shadow with
  | none =>
      rw [linearLayout, hs, hload.direct hs c hc]
      exact hsize
  | some sh =>
      rw [linearLayout, hs]
      exact ((hload.linear sh hs).2 c hc).size

/-- What is opened shows what the framebuffer holds. -/
lemma Opened.shown (hv : Opened fb s₀ v b m s) (hc : s₀.buffer? fb.buffer = some c)
    (hsize : c.bytes.size = fb.layout.size) (hL : fb.layout.Sound fb.format fb.width fb.height) :
    ∃ M, Shown fb s₀ v M b.bytes s ∧ fb.Holds M c.bytes b.bytes := by
  refine ⟨_, hv.shown_linear hc hsize, ?_⟩
  obtain ⟨rfl, -, hload, -⟩ := hv
  cases hs : v.shadow with
  | none =>
      rw [linearLayout, hs, hload.direct hs c hc]
      exact ⟨hL, hL, Layout.same_self hL hsize⟩
  | some sh =>
      obtain ⟨hM, hfill⟩ := hload.linear sh hs
      have hM := Layout.sound_of_compute hM
      rw [linearLayout, hs]
      exact ⟨hL, hM, (hfill c hc).same hL hM hsize⟩

/-- What is seen through the mapping is the image. -/
lemma Shown.window (hv : Shown fb s₀ v M e s) (hm : v.mapping = some m) : s.window m = e := by
  obtain ⟨b, m', hheld, rfl, hm', hoff, hlen⟩ := hv.held
  cases hm.symm.trans hm'
  rw [hheld.window hm, hoff, hlen]
  exact Bytes.slice_whole hv.size

/-- Pixels that were not converted are those that are mapped. -/
lemma Shown.pixels_mapped (hv : Shown fb s₀ v M e s) (hsc : v.scratch = none) : v.pixels s = e := by
  obtain ⟨_, m, -, -, hm, -, -⟩ := hv.held
  simp only [pixels, hsc, hm]
  exact hv.window hm

/-- The image may change. -/
lemma Shown.setWindow (hv : Shown fb s₀ v M e s) (hm : v.mapping = some m)
    (hsize : e'.size = M.size) : Shown fb s₀ v M e' (s.setWindow m e') := by
  obtain ⟨b, m', hheld, rfl, hm', hoff, hlen⟩ := hv.held
  cases hm.symm.trans hm'
  refine ⟨hv.framebuffer, hv.unreleased, hv.linear, hsize, _, m, hheld.setWindow hm e', ?_, hm,
    hoff, hlen⟩
  dsimp only
  rw [hoff, hlen]
  exact Bytes.overwrite_whole hv.size hsize

/-- What the conversion back makes of the image, if there is one. -/
def Encodes (v : View) (M : Layout) (e e' : Bytes) : Prop :=
  match v.scratch with
  | none => e' = e
  | some sc =>
    Nv12.encode v.framebuffer.width v.framebuffer.height sc.data sc.stride e M.placement = .ok e'

lemma does_encode_all (hv : Shown fb s₀ v M e s) (hsize : e'.size = M.size)
    (henc : v.Encodes M e e') :
    Does (σ := σ) lets v.encode s fun o s' => o = .ok () ∧ Shown fb s₀ v M e' s' := by
  obtain ⟨b, m, -, -, hm, -, -⟩ := hv.held
  rw [encode]
  rw [Encodes] at henc
  split
  · next sc m' hsc hm' =>
    cases hm.symm.trans hm'
    rw [hsc] at henc
    refine does_host_bind fun host hhost => does_bind (does_ofChecked ?_)
    -- the planes that are converted into are those that are mapped
    have hwin : Backend.window host m = e := by
      rw [StoreHost.window, hhost, hv.window hm]
    have hplace : v.placement = M.placement := by
      rw [← hv.linear]
      rfl
    rw [hwin, hplace, henc]
    exact does_setWindow fun _ _ => ⟨rfl, hv.setWindow hm hsize⟩
  · next hnone =>
    have hsc : v.scratch = none := by
      cases hsc : v.scratch with
      | none => rfl
      | some sc => exact absurd hm (hnone sc m hsc)
    rw [hsc] at henc
    exact does_pure ⟨rfl, henc ▸ hv⟩

/-- What becomes of the bytes of the framebuffer when the image is given back: those that are mapped
are left, and a linear copy is copied back without a failure. -/
structure Returns (v : View) (lets : CallKind → Prop) (σ : Type) [Backend σ] [StoreHost σ]
    (c : Buffer) (e : Bytes) (P : Bytes → Prop) : Prop where
  direct : v.shadow = none → P e
  copied : ∀ sh, v.shadow = some sh → ∀ s b, s.buffer? sh.buffer = some b → b.mapping = none →
    b.bytes = e → s.buffer? v.framebuffer.buffer = some c → sh.buffer ≠ v.framebuffer.buffer →
    Does (σ := σ) lets (v.framebuffer.copyPlanes sh.surface? v.framebuffer.surface?) s fun o s' =>
      o = .ok () ∧ ∃ d, s.Sets v.framebuffer.buffer (some { c with bytes := d }) s' ∧ P d

variable {P : Bytes → Prop}

/-- What is not mapped any more is copied back, if it is a copy, and the copy is freed. -/
lemma does_giveBack_returns (hall : ∀ k, lets k) (hv : v.Held s₀ b s) (hm : v.mapping = none)
    (hc : s₀.buffer? v.framebuffer.buffer = some c) (hback : v.Returns lets σ c b.bytes P) :
    Does (σ := σ) lets (Act.attemptAll v.giveBack) s fun o s' => o = .ok (.ok ()) ∧
      ∃ d, s'.buffer? v.framebuffer.buffer = some { c with bytes := d } ∧ P d := by
  cases hs : v.shadow with
  | none =>
      have ht : v.target = v.framebuffer.buffer := by rw [target, hs]
      obtain ⟨c', hc', hshape⟩ := hv.kept hs
      rw [ht, hc] at hc'
      cases hc'
      have hself := hv.self
      rw [ht] at hself
      simp only [giveBack, hm, hs, List.nil_append]
      -- it is the buffer of the framebuffer itself, and nothing but its bytes has changed
      have hunmapped : b = { b with mapping := none } := by rw [← hv.mapped.trans hm]
      refine does_attemptAll_nil ⟨rfl, b.bytes, hself.trans ?_, hback.direct hs⟩
      exact congrArg some (hunmapped.trans (Buffer.eq_of_shape hshape))
  | some sh =>
      have hself : s.buffer? sh.buffer = some b := (hv.copy hs).self
      obtain ⟨hne, hc'⟩ := hv.old hs hc
      have hbfree := hv.mapped.trans hm
      simp only [giveBack, hm, hs, List.nil_append]
      refine does_attemptAll_cons_ok (hback.copied sh hs s b hself hbfree rfl hc' hne.symm)
        fun s₁ hcopied => ?_
      obtain ⟨d, hsets, hP⟩ := hcopied
      -- the copies back spare the buffer of the copy, and freeing it spares the framebuffer
      have hself₁ : s₁.buffer? sh.buffer = some b := (hsets.other hne.symm).trans hself
      refine does_attemptAll_cons_ok (P := fun s₂ =>
        s₂.buffer? v.framebuffer.buffer = some { c with bytes := d }) (does_free ?_ ?_ ?_ ?_)
        fun s₂ hs₂ => does_attemptAll_nil ⟨rfl, d, hs₂, hP⟩
      · exact fun hk => absurd (hall _) hk
      · exact fun hn => by simp [hself₁] at hn
      · intro b' hb' hmap
        cases hself₁.symm.trans hb'
        exact absurd hbfree hmap
      · intro _ s₂ _ _ hsets₂
        exact ⟨rfl, (hsets₂.other hne).trans hsets.self⟩

/-- The end of a view succeeds and gives its image back to the framebuffer, whose buffer is
otherwise as it was. -/
lemma does_closing_returns (hall : ∀ k, lets k) (hv : Shown fb s₀ v M e s)
    (hsize : e'.size = M.size) (henc : v.Encodes M e e') (hc : s₀.buffer? fb.buffer = some c)
    (hback : v.Returns lets σ c e' P) :
    Does (σ := σ) lets (Act.attemptAll v.closing) s fun o s' => o = .ok (.ok ()) ∧
      ∃ d, s'.buffer? fb.buffer = some { c with bytes := d } ∧ P d := by
  rw [closing_eq]
  -- encoding first, then the mapping, and then what is done without one
  refine does_attemptAll_cons_ok (does_encode_all hv hsize henc) ?_
  intro s₁ hv₁
  obtain ⟨b, m, hheld, rfl, hm, -, -⟩ := hv₁.held
  obtain rfl := hv₁.framebuffer
  have ht := hheld.own m hm
  rw [giveBack_mapped hm]
  refine does_attemptAll_cons_ok
    (P := fun s₂ => ({ v with mapping := none } : View).Held s₀ { b with mapping := none } s₂)
    (does_unmap (ht ▸ hheld.self) (hheld.mapped.trans hm) (fun hk => absurd (hall _) hk)
      fun s₂ hs₂ => ⟨rfl, hheld.unmap (ht ▸ hs₂)⟩) fun s₂ hv₂ => ?_
  refine does_attemptAll_cons_ok
    (P := fun s₃ => ({ v with mapping := none } : View).Held s₀ { b with mapping := none } s₃)
    (does_syncGpu (fun hk => absurd (hall _) hk) (fun hn => ?_)
      fun _ s₃ _ same => ⟨rfl, hv₂.congr same⟩) fun s₃ hv₃ => ?_
  · rw [ht] at hn
    exact absurd (hv₂.self.symm.trans hn) nofun
  · exact does_giveBack_returns (v := { v with mapping := none })
      (b := { b with mapping := none }) hall hv₃ rfl hc ⟨hback.direct, hback.copied⟩

/-- An image in rows is given back whole. -/
lemma Shown.returns (hall : ∀ k, lets k) (hv : Shown fb s₀ v M e s) (hsize : e'.size = M.size)
    (hfree : c.mapping = none) (hcsize : c.bytes.size = fb.layout.size)
    (hL : fb.layout.Sound fb.format fb.width fb.height)
    (hM : M.Sound fb.format fb.width fb.height) :
    v.Returns lets σ c e' fun d => fb.Holds M d e' := by
  obtain rfl := hv.framebuffer
  refine ⟨fun hs => ?_, fun sh hs s b hb hbfree hbytes hc' hne => ?_⟩
  · have hlin : M = v.framebuffer.layout := by rw [← hv.linear, linearLayout, hs]
    subst hlin
    exact ⟨hL, hL, Layout.same_self hL hsize⟩
  · have hlin : M = sh.layout := by rw [← hv.linear, linearLayout, hs]
    subst hlin hbytes
    exact Framebuffer.does_copyBack hall hb hbfree hsize hc' hfree hcsize hne hL hM

/-- **The end of a view succeeds and leaves the framebuffer with the image**, in its own buffer,
which is otherwise as it was. -/
lemma does_closing_all (hall : ∀ k, lets k) (hv : Shown fb s₀ v M e s) (hsize : e'.size = M.size)
    (henc : v.Encodes M e e') (hc : s₀.buffer? fb.buffer = some c) (hfree : c.mapping = none)
    (hcsize : c.bytes.size = fb.layout.size) (hL : fb.layout.Sound fb.format fb.width fb.height)
    (hM : M.Sound fb.format fb.width fb.height) :
    Does (σ := σ) lets (Act.attemptAll v.closing) s fun o s' => o = .ok (.ok ()) ∧
      ∃ d, s'.buffer? fb.buffer = some { c with bytes := d } ∧ fb.Holds M d e' :=
  does_closing_returns hall hv hsize henc hc (hv.returns hall hsize hfree hcsize hL hM)

lemma does_dispose_ok {R : Store → Prop} (hr : v.released = false)
    (h : Does (σ := σ) lets (Act.attemptAll v.closing) s fun o s => o = .ok (.ok ()) ∧ R s) :
    Does (σ := σ) lets v.dispose s fun o s => o = .ok () ∧ R s := by
  rw [dispose]
  refine does_bind (does_release hr (h.mono fun o s hend => ?_))
  obtain ⟨rfl, hs⟩ := hend
  exact fun v' _ => does_pure ⟨rfl, hs⟩

lemma does_finish_ok {R : Store → Prop} (hr : v.released = false)
    (h : Does (σ := σ) lets (Act.attemptAll v.closing) s fun o s => o = .ok (.ok ()) ∧ R s) :
    Does (σ := σ) lets v.finish s fun o s => o = .ok () ∧ R s := by
  refine does_finish hr (h.mono fun o s hend => ?_)
  obtain ⟨rfl, hs⟩ := hend
  exact ⟨rfl, hs⟩

end View

end Scanout
