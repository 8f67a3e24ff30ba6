/-
How far the opening of a view gets.

* `View.Loaded`: what a view has acquired holds the framebuffer as it was;
* `View.Opened`, `View.Stopped`: what an opening leaves when it succeeds, and when it fails;
* `View.does_dispose`, `View.does_finish`: the two ways in which a view ends;
* `View.scratchOf`: the converted image of planes;
* `View.ends_opening`: **every opening ends in one of these ways**;
* `View.ends_acquire`: what an opening that fails has acquired is given back.
-/
import Scanout.Proofs.View.Copying

namespace Scanout

variable {σ : Type} [Backend σ] [StoreHost σ] {lets : CallKind → Prop} {s s₀ s' : Store}
  {fb : Framebuffer} {sh : Shadow}

lemma Route.of_eq_convert : Route.of fb = .convert ↔ fb.format.isPlanar := by
  rw [Route.of]
  cases fb.format.isPlanar with
  | true => simp
  | false => cases fb.tiling.needsBlit <;> simp

namespace View

/-! ### The mapping -/

/-- A range of a buffer is mapped, or nothing changes. -/
lemma opens_openMapping {t : Handle} {size : Nat} {v : View}
    {Q : Checked Unit → Store → View → Prop}
    (failed : ∀ f s', s'.buffer? = s.buffer? →
      ((∀ k, lets k) → ∀ b, s.buffer? t = some b → b.mapping = none → b.bytes.size < size) →
      Q (.error f) s' v)
    (done : ∀ b m s', s.buffer? t = some b → b.mapping = none → size ≤ b.bytes.size →
      m.buffer = t → m.offset = 0 → m.len = size →
      s.Sets t (some { b with mapping := some m }) s' →
      Q (.ok ()) s' { v with mapping := some m }) :
    Opens (σ := σ) lets (openMapping t size) s v Q := by
  rw [openMapping]
  refine opens_bind (opens_act (does_syncCpu ?_ ?_ ?_))
  · exact fun hk _ => failed _ _ rfl fun hall => absurd (hall _) hk
  · exact fun hn => failed _ _ rfl fun _ b hb => by simp [hn] at hb
  intro b s₁ hb same
  -- the sync has found the buffer and changed nothing, so that a mapping fails for what it is
  refine opens_bind (opens_act (does_map ?_ ?_ ?_ ?_ ?_))
  · exact fun hk _ => failed _ _ same fun hall => absurd (hall _) hk
  · exact fun hn => by simp [same, hb] at hn
  · intro b' hb' hm'
    rw [same] at hb'
    exact failed _ _ same fun _ b'' hb'' hm => by
      cases hb'.symm.trans hb''
      exact absurd hm hm'
  · intro b' hb' hsize
    rw [same] at hb'
    rw [Nat.zero_add] at hsize
    exact failed _ _ same fun _ b'' hb'' _ => by
      cases hb'.symm.trans hb''
      exact hsize
  · intro b' m s₂ hb' hfree hsize hbuf hoff hlen hsets
    rw [same] at hb'
    rw [Nat.zero_add] at hsize
    refine opens_acquired (done b' m s₂ hb' hfree hsize hbuf hoff hlen fun k => ?_)
    rw [hsets k, same]

/-- What a view has acquired holds the framebuffer as it was, which was not mapped. -/
structure Loaded (v : View) (s₀ : Store) (b : Buffer) (s : Store) : Prop where
  held : v.Held s₀ b s
  free : ∀ c, s₀.buffer? v.framebuffer.buffer = some c → c.mapping = none
  direct : v.shadow = none → ∀ c, s₀.buffer? v.framebuffer.buffer = some c → b.bytes = c.bytes
  linear : ∀ sh, v.shadow = some sh →
    Layout.compute v.framebuffer.device v.framebuffer.width v.framebuffer.height
      v.framebuffer.format .linear = .ok sh.layout ∧
    ∀ c, s₀.buffer? v.framebuffer.buffer = some c →
      sh.Fills v.framebuffer v.framebuffer.numPlanes c.bytes b.bytes

variable {v : View} {b : Buffer} {m : Mapping}

/-- A copy that holds all planes holds the framebuffer. -/
lemma Copied.loaded (hc : Copied fb s₀ sh fb.numPlanes s) :
    ∃ b, (shadowed fb sh).Loaded s₀ b s := by
  obtain ⟨b, hv, hfill⟩ := hc.held
  have planes : 0 < fb.numPlanes := Nat.lt_of_lt_of_le Nat.one_pos (Nat.le_max_right ..)
  refine ⟨b, hv, hc.free planes, nofun, fun sh' hsh' => ?_⟩
  cases hsh'
  exact ⟨hc.layout, hfill⟩

/-- What is loaded may be mapped. -/
lemma Loaded.map (hv : v.Loaded s₀ b s) (ht : m.buffer = v.target)
    (hsets : s.Sets v.target (some { b with mapping := some m }) s') :
    ({ v with mapping := some m } : View).Loaded s₀ { b with mapping := some m } s' where
  held := {
    sets := hv.held.sets.trans hsets
    mapped := rfl
    own := fun _ h => Option.some.inj h ▸ ht
    fresh := hv.held.fresh
    kept := hv.held.kept }
  free := hv.free
  direct := hv.direct
  linear := hv.linear

/-- A view that maps what it has acquired, from its beginning on. -/
structure Opened (fb : Framebuffer) (s₀ : Store) (v : View) (b : Buffer) (m : Mapping) (s : Store) :
    Prop where
  framebuffer : v.framebuffer = fb
  unreleased : v.released = false
  loaded : v.Loaded s₀ b s
  mapping : v.mapping = some m
  offset : m.offset = 0
  len : m.len = v.linearLayout.size
  fits : m.len ≤ b.bytes.size
  blit : v.shadow = none ↔ ¬fb.tiling.needsBlit

/-- How an opening is left when it fails: with nothing, with the framebuffer as it was, or with a
linear copy that has not been filled. -/
inductive Stopped (fb : Framebuffer) (r : Run σ) (v : View) (r' : Run σ) : Prop where
  | nothing (hv : v = unopened fb) (hfill : fb.tiling.needsBlit → fillStop fb r = none)
      (same : (StoreHost.store r'.host).buffer? = (StoreHost.store r.host).buffer?)
  | loaded (b : Buffer) (hfb : v.framebuffer = fb) (hr : v.released = false)
      (hsc : v.scratch = none) (hfill : fb.tiling.needsBlit → fillStop fb r = none)
      (hv : v.Loaded (StoreHost.store r.host) b (StoreHost.store r'.host))
  | unfilled (sh : Shadow) (n : Nat) (hv : v = shadowed fb sh) (hb : fb.tiling.needsBlit)
      (hstop : fillStop fb r = some (sh, n, r')) (hn : n < fb.numPlanes)
      (hc : Copied fb (StoreHost.store r.host) sh n (StoreHost.store r'.host))

/-- What is loaded is mapped, or stays as it is. -/
lemma opens_mapLoaded (hfb : v.framebuffer = fb) (hr : v.released = false) (hsc : v.scratch = none)
    (hm : v.mapping = none) (hblit : v.shadow = none ↔ ¬fb.tiling.needsBlit)
    (hv : v.Loaded s₀ b s) :
    Opens (σ := σ) lets (openMapping v.target v.linearLayout.size) s v fun o s' v' =>
      match o with
      | .ok _ => v'.scratch = none ∧ ∃ b m, Opened fb s₀ v' b m s'
      | .error _ => (∀ c, ¬fb.Viewable lets s₀ c) ∧ v' = v ∧ v.Loaded s₀ b s' := by
  have hself := hv.held.self
  refine opens_openMapping (fun f s' same hfits => ⟨fun c hview => ?_, rfl, ?_⟩)
    (fun b' m s' hb' _ hsize hbuf hoff hlen hsets => ?_)
  · -- only a range beyond the buffer is refused, and what is loaded is as large as its layout
    have hsmall := hfits hview.lets b hself (hv.held.mapped.trans hm)
    cases hs : v.shadow with
    | some sh =>
        have hfill := (hv.linear sh hs).2 c (hfb ▸ hview.live)
        rw [linearLayout, hs, hfill.size] at hsmall
        exact Nat.lt_irrefl _ hsmall
    | none =>
        have hsame := hv.direct hs c (hfb ▸ hview.live)
        rw [linearLayout, hs, hsame, hfb] at hsmall
        exact Nat.lt_irrefl _ (Nat.lt_of_lt_of_le hsmall hview.sits.whole)
  · exact ⟨hv.held.congr same, hv.free, hv.direct, hv.linear⟩
  · cases hself.symm.trans hb'
    exact ⟨hsc, { b with mapping := some m }, m, hfb, hr, hv.map hbuf hsets, rfl, hoff, hlen,
      hlen ▸ hsize, hblit⟩

/-- A buffer that is there and not mapped is loaded as it is. -/
lemma loaded_unopened {c : Buffer} (hc : s.buffer? fb.buffer = some c) (hfree : c.mapping = none) :
    (unopened fb).Loaded s c s where
  held := {
    sets := fun k => by
      split
      · next hk => rw [hk]; exact hc
      · rfl
    mapped := hfree
    own := nofun
    fresh := fun h => absurd rfl h
    kept := fun _ => ⟨c, hc, by simp only [Buffer.shape, hfree]⟩ }
  free := fun c' hc' => by cases hc.symm.trans hc'; exact hfree
  direct := fun _ c' hc' => by cases hc.symm.trans hc'; rfl
  linear := nofun

/-- How the opening of a mapping ends: a framebuffer that can be viewed is mapped, in a linear copy
where no mapping can undo its tiling, and otherwise the opening has stopped. -/
def OpensLinear (lets : CallKind → Prop) (fb : Framebuffer) (r : Run σ) (o : Checked Unit)
    (p : Run σ × View) : Prop :=
  StoreHost.LetsAll lets p.1.host ∧
    match o with
    | .ok _ => p.2.scratch = none ∧ (fb.tiling.needsBlit → fillStop fb r = none) ∧
        ∃ b m, Opened fb (StoreHost.store r.host) p.2 b m (StoreHost.store p.1.host)
    | .error _ => (∀ c, ¬fb.Viewable lets (StoreHost.store r.host) c) ∧ Stopped fb r p.2 p.1

/-- A linear copy is filled and mapped. -/
lemma ends_openCopied {r : Run σ} (hl : StoreHost.LetsAll lets r.host)
    (hblit : fb.tiling.needsBlit) :
    Ends (openShadow fb >>= fun sh => openMapping sh.buffer sh.layout.size) (r, unopened fb)
      (OpensLinear lets fb r) := by
  rw [ends_bind]
  refine (ends_openShadow hl).mono ?_
  intro o p hend
  obtain ⟨hl₁, ho⟩ := hend
  obtain ⟨r₁, v₁⟩ := p
  cases o with
  | error f =>
      -- no buffer for the copy, or one that was not filled to the end
      obtain ⟨hview, ⟨hv, hfill, same⟩ | ⟨sh, n, hv, hstop, hn, hc⟩⟩ := ho
      · exact ⟨hl₁, hview, .nothing hv (fun _ => hfill) same⟩
      · exact ⟨hl₁, hview, .unfilled sh n hv hblit hstop hn hc⟩
  | ok sh =>
      obtain ⟨rfl, hfill, hc⟩ := ho
      obtain ⟨b, hload⟩ := hc.loaded
      have blit : (shadowed fb sh).shadow = none ↔ ¬fb.tiling.needsBlit :=
        ⟨fun h => (nomatch h), fun h => absurd hblit h⟩
      refine (opens_mapLoaded rfl rfl rfl rfl blit hload r₁ rfl hl₁).mono fun o p h => ⟨h.1, ?_⟩
      cases o with
      | ok _ => exact ⟨h.2.1, fun _ => hfill, h.2.2⟩
      | error f =>
          obtain ⟨-, hview, hv, hload'⟩ := h
          rw [← hv] at hload'
          exact ⟨hview, .loaded b (hv ▸ rfl) (hv ▸ rfl) (hv ▸ rfl) (fun _ => hfill) hload'⟩

/-- The framebuffer itself is mapped. -/
lemma ends_openDirect {r : Run σ} (hl : StoreHost.LetsAll lets r.host)
    (hblit : ¬fb.tiling.needsBlit) :
    Ends (openMapping fb.buffer fb.layout.size) (r, unopened fb) (OpensLinear lets fb r) := by
  have direct : (unopened fb).shadow = none ↔ ¬fb.tiling.needsBlit :=
    ⟨fun _ => hblit, fun _ => rfl⟩
  have unfilled : fb.tiling.needsBlit → fillStop fb r = none := fun hb => absurd hb hblit
  by_cases hfree : ∃ c, (StoreHost.store r.host).buffer? fb.buffer = some c ∧ c.mapping = none
  · obtain ⟨c, hc, hfree⟩ := hfree
    refine (opens_mapLoaded rfl rfl rfl rfl direct (loaded_unopened hc hfree) r rfl hl).mono
      fun o p h => ⟨h.1, ?_⟩
    cases o with
    | ok _ => exact ⟨h.2.1, unfilled, h.2.2⟩
    | error f =>
        obtain ⟨-, hview, hv, hload⟩ := h
        rw [← hv] at hload
        exact ⟨hview, .loaded c (hv ▸ rfl) (hv ▸ rfl) (hv ▸ rfl) unfilled hload⟩
  · -- nothing is there to be mapped, and nothing is acquired
    refine (opens_openMapping (Q := fun o s' v' => ∃ f, o = .error f ∧ v' = unopened fb ∧
      s'.buffer? = (StoreHost.store r.host).buffer?) (fun f s' same _ => ⟨f, rfl, rfl, same⟩)
      (fun b _ _ hb hm => absurd ⟨b, hb, hm⟩ hfree) r rfl hl).mono fun o p h => ⟨h.1, ?_⟩
    obtain ⟨-, f, rfl, hv, same⟩ := h
    exact ⟨fun c hview => hfree ⟨c, hview.live, hview.sits.free⟩, .nothing hv unfilled same⟩

/-- A mapping is opened, or the opening has stopped. -/
lemma ends_openLinear {r : Run σ} (hl : StoreHost.LetsAll lets r.host) :
    Ends openLinear (r, unopened fb) (OpensLinear lets fb r) := by
  rw [openLinear]
  rw [ends_bind, ends_view]
  show Ends (if fb.tiling.needsBlit then _ else _) _ _
  split
  · next hblit => exact ends_openCopied hl hblit
  · next hblit => exact ends_openDirect hl hblit

namespace Opened

lemma window (hv : Opened fb s₀ v b m s) : s.window m = b.bytes.slice 0 m.len := by
  rw [hv.loaded.held.window hv.mapping, hv.offset]

/-- A converted image takes nothing from what is held. -/
lemma withScratch {sc : Option Scratch} (hv : Opened fb s₀ v b m s) :
    Opened fb s₀ { v with scratch := sc } b m s where
  framebuffer := hv.framebuffer
  unreleased := hv.unreleased
  loaded := {
    held := ⟨hv.loaded.held.sets, hv.loaded.held.mapped, hv.loaded.held.own, hv.loaded.held.fresh,
      hv.loaded.held.kept⟩
    free := hv.loaded.free
    direct := hv.loaded.direct
    linear := hv.loaded.linear }
  mapping := hv.mapping
  offset := hv.offset
  len := hv.len
  fits := hv.fits
  blit := hv.blit

end Opened

/-- What is loaded is the framebuffer as it was, and so it is when it is given back. -/
lemma Loaded.does_closing (hv : v.Loaded s₀ b s) (hsc : v.scratch = none) :
    Does (σ := σ) lets (Act.attemptAll v.closing) s fun _ s' =>
      s₀.Settles (lets .free) v.framebuffer.buffer (fun c d => d = c) s' := by
  refine does_closing_undrawn hv.held hsc (fun sh hsh c hc => ⟨rfl, ?_⟩) fun hs c hc => ?_
  · intro plane ss ds area hss hds ha bytes hbytes
    subst hbytes
    obtain ⟨hL, hfill⟩ := hv.linear sh hsh
    have hplane : plane < maxPlanes := by
      by_cases hle : maxPlanes ≤ plane
      · simp [Framebuffer.area?, if_pos hle] at ha
      · exact Nat.lt_of_not_le hle
    cases (sh.surface?_eq hplane).symm.trans hss
    cases (v.framebuffer.surface?_eq hplane).symm.trans hds
    by_cases hp : plane < v.framebuffer.numPlanes
    · exact (hfill c hc).restores hp ha
    · -- a plane that the format does not have is empty
      rw [Framebuffer.area?, if_neg (Nat.not_le.2 hplane), if_neg hp] at ha
      cases ha
      exact Store.copied_same fun row hrow => absurd hrow (Nat.not_lt_zero row)
  · rw [target, hs] at hc
    exact hv.direct hs c hc

/-- An opening that has stopped has acquired something or nothing. -/
lemma Stopped.acquired {r r' : Run σ} (hv : Stopped fb r v r') :
    v.framebuffer = fb ∧ v.released = false ∧
      v.Acquired (StoreHost.store r.host) (StoreHost.store r'.host) := by
  cases hv with
  | nothing hv _ same =>
      subst hv
      exact ⟨rfl, rfl, .nothing rfl rfl same⟩
  | loaded b hfb hr _ _ hv => exact ⟨hfb, hr, .held b hv.held⟩
  | unfilled sh n hv _ _ _ hc =>
      subst hv
      obtain ⟨b, hv, -⟩ := hc.held
      exact ⟨rfl, rfl, .held b hv⟩

/-- Nothing has been converted by an opening that has stopped. -/
lemma Stopped.scratch_none {r r' : Run σ} (hv : Stopped fb r v r') : v.scratch = none := by
  cases hv with
  | nothing hv => rw [hv]; rfl
  | loaded _ _ _ hsc => exact hsc
  | unfilled _ _ hv => rw [hv]; rfl

/-! ### The end of a view -/

lemma does_release {Q : Checked (Checked Unit × View) → Store → Prop} (hr : v.released = false)
    (h : Does (σ := σ) lets (Act.attemptAll v.closing) s fun o s =>
      match o with
      | .ok outcome => ∀ v', v'.released = true → Q (.ok (outcome, v')) s
      | .error f => Q (.error f) s) : Does (σ := σ) lets v.release s Q := by
  rw [release]
  rw [if_neg (by rw [hr]; nofun)]
  refine does_bind (does_emit (does_bind (h.mono fun o s ho => ?_)))
  cases o with
  | ok outcome => exact does_pure (ho _ rfl)
  | error f => exact ho

/-- A host after the end of a view was announced. -/
def ended (v : View) (r : Run σ) : Run σ :=
  ⟨r.host, r.log.push (.closing v.route v.framebuffer.buffer)⟩

omit [StoreHost σ] in
/-- What is left behind when a view is given up is what its end leaves behind. -/
lemma ends_dispose {r : Run σ} {R : σ → Prop} (hr : v.released = false)
    (h : Ends (Act.attemptAll v.closing) (v.ended r) fun _ r => R r.host) :
    Ends v.dispose r fun _ r => R r.host := by
  rw [dispose, release]
  rw [if_neg (by rw [hr]; nofun), ends_bind, ends_bind, ends_emit]
  dsimp only
  rw [ends_bind]
  refine h.mono ?_
  intro o r' hR
  rcases o with f | (e | _) | _
  · exact hR
  · exact hR
  · exact hR
  · exact hR

omit [StoreHost σ] in
/-- What is left behind when a view is finished is the same: nothing is done a second time. -/
lemma ends_finish {r : Run σ} {R : σ → Prop} (hr : v.released = false)
    (h : Ends (Act.attemptAll v.closing) (v.ended r) fun _ r => R r.host) :
    Ends v.finish r fun _ r => R r.host := by
  rw [finish, release]
  rw [if_neg (by rw [hr]; nofun), ends_bind, ends_bind, ends_emit]
  dsimp only
  rw [ends_bind]
  refine h.mono ?_
  intro o r' hR
  cases o with
  | error f => exact hR
  | ok outcome =>
      cases outcome with
      | ok _ => exact hR
      | error f => exact hR

omit [StoreHost σ] in
/-- Both ways to leave a view leave behind what its end does. -/
lemma ends_leave {r : Run σ} {R : σ → Prop} {leave : View → Act σ Unit} (hr : v.released = false)
    (hleave : leave ∈ [finish, View.dispose])
    (h : Ends (Act.attemptAll v.closing) (v.ended r) fun _ r => R r.host) :
    Ends (leave v) r fun _ r => R r.host := by
  simp only [List.mem_cons, List.not_mem_nil, or_false] at hleave
  rcases hleave with rfl | rfl
  · exact ends_finish hr h
  · exact ends_dispose hr h

/-- What is left behind when a view is given up is what its end leaves behind. -/
lemma does_dispose {R : Store → Prop} (hr : v.released = false)
    (h : Does (σ := σ) lets (Act.attemptAll v.closing) s fun _ s => R s) :
    Does (σ := σ) lets v.dispose s fun _ s => R s := by
  rintro r rfl hl
  exact ends_dispose (R := fun host => StoreHost.LetsAll lets host ∧ R (StoreHost.store host)) hr
    (h (v.ended r) rfl hl)

/-- The first failure of the end is that of the whole, and nothing is done a second time. -/
lemma does_finish {Q : Checked Unit → Store → Prop} (hr : v.released = false)
    (h : Does (σ := σ) lets (Act.attemptAll v.closing) s fun o s =>
      match o with
      | .ok outcome => Q outcome s
      | .error f => Q (.error f) s) : Does (σ := σ) lets v.finish s Q := by
  rw [finish]
  refine does_bind (does_release hr (h.mono fun o s hs => ?_))
  cases o with
  | error f => exact hs
  | ok outcome =>
      intro v' hv'
      refine does_bind ?_
      rw [dispose, release]
      rw [if_pos hv']
      exact does_bind (does_pure (does_pure (does_ofChecked hs)))

/-! ### The conversion -/

variable [Machine]

/-- The converted image of planes. -/
def scratchOf (v : View) (planes : Bytes) : Checked Scratch := do
  let stride ← scratchStride v.framebuffer.width
  let data ← Nv12.unpack v.framebuffer.width v.framebuffer.height planes v.placement
    (roundUp (stride * v.framebuffer.height) Machine.pageSize) stride
  return ⟨data, stride⟩

lemma opens_decode {Q : Checked Unit → Store → View → Prop} (hm : v.mapping = some m)
    (h : match v.scratchOf (s.window m) with
      | .ok sc => Q (.ok ()) s { v with scratch := some sc }
      | .error f => Q (.error f) s v) : Opens (σ := σ) lets decode s v Q := by
  rw [decode]
  rw [scratchOf] at h
  refine opens_bind (opens_view (opens_bind (opens_act (does_ofChecked ?_))))
  cases hstride : scratchStride v.framebuffer.width with
  | error f =>
      rw [hstride] at h
      exact h
  | ok stride =>
      refine opens_host_bind fun host hhost => opens_bind (opens_act (does_ofChecked ?_))
      -- what is decoded is what the mapping shows
      have hw : Backend.window host m = s.window m := by rw [StoreHost.window, hhost]
      simp only [hm, hw]
      rw [hstride] at h
      cases hdata : Nv12.unpack v.framebuffer.width v.framebuffer.height (s.window m) v.placement
          (roundUp (stride * v.framebuffer.height) Machine.pageSize) stride with
      | error f =>
          simp only [bind, Except.bind, hdata] at h
          exact h
      | ok data =>
          simp only [bind, Except.bind, hdata] at h
          exact opens_acquired h

/-- The opening of a view. -/
def opening (fb : Framebuffer) : Opening σ Unit := do
  openLinear
  if Route.of fb = .convert then
    decode

/-- A host after the opening of a view was announced. -/
def started (fb : Framebuffer) (r : Run σ) : Run σ :=
  ⟨r.host, r.log.push
    (.opening (Route.of fb) fb.buffer fb.width fb.height fb.format.name fb.tiling)⟩

/-- The pixels of a view are the converted image of what is loaded, where the framebuffer has
several planes, and otherwise what is mapped. -/
def Shows (v : View) (b : Buffer) (m : Mapping) : Prop :=
  if Route.of v.framebuffer = .convert then
    ∃ sc, v.scratch = some sc ∧ v.scratchOf (b.bytes.slice 0 m.len) = .ok sc
  else v.scratch = none

/-- Packed pixels are what is mapped. -/
lemma Shows.scratch_none (hv : v.Shows b m) (hpacked : ¬v.framebuffer.format.isPlanar) :
    v.scratch = none := by
  rwa [Shows, if_neg (mt Route.of_eq_convert.1 hpacked)] at hv

/-- **Every opening succeeds or has stopped.** Where nothing stands in the way of a view, it is the
conversion that fails. -/
lemma ends_opening {r : Run σ} (hl : StoreHost.LetsAll lets r.host) :
    Ends (opening fb) (r, unopened fb) fun o p =>
      StoreHost.LetsAll lets p.1.host ∧
      match o with
      | .ok _ => ∃ b m, p.2.Shows b m ∧
          Opened fb (StoreHost.store r.host) p.2 b m (StoreHost.store p.1.host)
      | .error f => Stopped fb r p.2 p.1 ∧ ∀ c, fb.Viewable lets (StoreHost.store r.host) c →
          Route.of fb = .convert ∧ ∃ b m, p.2.scratchOf (b.bytes.slice 0 m.len) = .error f ∧
            Opened fb (StoreHost.store r.host) p.2 b m (StoreHost.store p.1.host) := by
  rw [opening]
  rw [ends_bind]
  refine (ends_openLinear hl).mono ?_
  intro o p hend
  obtain ⟨hl₁, ho⟩ := hend
  obtain ⟨r₁, v₁⟩ := p
  cases o with
  | error f => exact ⟨hl₁, ho.2, fun c hview => absurd hview (ho.1 c)⟩
  | ok _ =>
      obtain ⟨hsc, hfill, b, m, hv⟩ := ho
      dsimp only at hl₁ hsc hfill hv ⊢
      by_cases hroute : Route.of fb = .convert
      · rw [if_pos hroute]
        -- the conversion reads what is mapped and acquires nothing of the host
        refine (opens_decode (Q := fun o s' v' => s' = StoreHost.store r₁.host ∧
          match o with
          | .ok _ => v'.Shows b m ∧ Opened fb (StoreHost.store r.host) v' b m s'
          | .error f => v' = v₁ ∧ v₁.scratchOf (b.bytes.slice 0 m.len) = .error f) hv.mapping ?_
          r₁ rfl hl₁).mono fun o p h => ⟨h.1, ?_⟩
        · rw [hv.window]
          cases hdec : v₁.scratchOf (b.bytes.slice 0 m.len) with
          | error f => exact ⟨rfl, rfl, rfl⟩
          | ok sc =>
              refine ⟨rfl, ?_, hv.withScratch⟩
              rw [Shows, if_pos (hv.framebuffer ▸ hroute)]
              exact ⟨sc, rfl, hdec⟩
        · obtain ⟨-, hs, ho⟩ := h
          cases o with
          | ok _ => exact ⟨b, m, ho⟩
          | error f =>
              obtain ⟨rfl, hdec⟩ := ho
              rw [← hs] at hv
              exact ⟨.loaded b hv.framebuffer hv.unreleased hsc hfill hv.loaded,
                fun _ _ => ⟨hroute, b, m, hdec, hv⟩⟩
      · rw [if_neg hroute]
        refine ⟨hl₁, b, m, ?_, hv⟩
        rw [Shows, if_neg (hv.framebuffer ▸ hroute)]
        exact hsc

/-! ### The whole of it -/

/-- The opening of a view once it has been announced: when it fails, everything is given back. -/
def openOrDispose (fb : Framebuffer) : Act σ View := do
  let (outcome, v) ← (opening fb).run (unopened fb)
  match outcome with
  | .ok _ => return v
  | .error f =>
    v.dispose
    throw f

omit [StoreHost σ] in
lemma acquire_eq (fb : Framebuffer) :
    acquire (σ := σ) fb = (do
      if Route.of fb = .convert then
        Act.ofChecked fb.format.ensureConvertible
      Act.emit (.opening (Route.of fb) fb.buffer fb.width fb.height fb.format.name fb.tiling)
      openOrDispose fb) :=
  rfl

omit [StoreHost σ] in
lemma ends_openOrDispose {r : Run σ} {Q : Checked View → Run σ → Prop} :
    Ends (openOrDispose fb) r Q ↔ Ends (opening fb) (r, unopened fb) fun o p =>
      match o with
      | .ok _ => Q (.ok p.2) p.1
      | .error f => Ends p.2.dispose p.1 fun o r' =>
        match o with
        | .ok _ => Q (.error f) r'
        | .error f' => Q (.error f') r' := by
  rw [openOrDispose]
  rw [ends_bind, ends_run]
  refine iff_of_eq (congrArg _ (funext fun o => funext fun p => ?_))
  cases o with
  | ok _ => rfl
  | error f =>
      dsimp only
      rw [ends_bind]
      rfl

omit [StoreHost σ] in
/-- What an opening that fails has acquired is given back, before its failure is told. -/
lemma ends_acquire {r : Run σ} {Q : Checked View → Run σ → Prop} :
    Ends (acquire fb) r Q ↔
      match if Route.of fb = .convert then fb.format.ensureConvertible else .ok () with
      | .error f => Q (.error f) r
      | .ok _ => Ends (opening fb) (started fb r, unopened fb) fun o p =>
        match o with
        | .ok _ => Q (.ok p.2) p.1
        | .error f => Ends p.2.dispose p.1 fun o r' =>
          match o with
          | .ok _ => Q (.error f) r'
          | .error f' => Q (.error f') r' := by
  rw [acquire_eq]
  by_cases hroute : Route.of fb = .convert
  · rw [if_pos hroute, if_pos hroute, ends_bind, ends_ofChecked]
    cases fb.format.ensureConvertible with
    | error f => rfl
    | ok _ => exact ends_openOrDispose (r := started fb r)
  · rw [if_neg hroute, if_neg hroute]
    exact ends_openOrDispose (r := started fb r)

/-- **A view is opened, or everything is given back**, but for a linear copy whose return is
refused. -/
lemma does_acquire :
    Does (σ := σ) lets (acquire fb) s₀ fun o s =>
      match o with
      | .ok v => ∃ b m, v.Shows b m ∧ Opened fb s₀ v b m s
      | .error _ => s₀.Settles (lets .free) fb.buffer (fun _ _ => True) s := by
  rintro r rfl hl
  rw [ends_acquire]
  split
  · exact ⟨hl, .of_same (fun _ _ => trivial) rfl⟩
  refine (ends_opening (r := started fb r) hl).mono ?_
  intro o p hend
  obtain ⟨hl₁, ho⟩ := hend
  cases o with
  | ok _ => exact ⟨hl₁, ho⟩
  | error f =>
      -- what has stopped holds something or nothing, and either is given back
      obtain ⟨hfb, hr, hv⟩ := ho.1.acquired
      refine (does_dispose hr (does_closing hv) p.1 rfl hl₁).mono ?_
      intro o r' h
      rw [hfb] at h
      cases o with
      | ok _ => exact h
      | error _ => exact h

/-- A view that opens has acquired what it asked for, whatever is refused. -/
lemma opened_of_acquire {r r' : Run σ} (hv : acquire fb r = .ok v r') : ∃ b m, v.Shows b m ∧
    Opened fb (StoreHost.store r.host) v b m (StoreHost.store r'.host) :=
  does_acquire.ends.of_ok hv

/-- Where nothing stands in the way of a view of packed pixels it is opened. -/
lemma exists_acquire_packed {c : Buffer} {r : Run σ} (hpacked : ¬fb.format.isPlanar)
    (hview : fb.Viewable (StoreHost.Lets r.host) (StoreHost.store r.host) c) : ∃ v r',
      acquire fb r = .ok v r' ∧ v.scratch = none ∧
        ∃ b m, Opened fb (StoreHost.store r.host) v b m (StoreHost.store r'.host) := by
  have hroute : Route.of fb ≠ .convert := mt Route.of_eq_convert.1 hpacked
  have hends : Ends (acquire fb) r fun o r' => ∃ v, o = .ok v ∧ v.scratch = none ∧
      ∃ b m, Opened fb (StoreHost.store r.host) v b m (StoreHost.store r'.host) := by
    rw [ends_acquire]
    rw [if_neg hroute]
    have hl : StoreHost.LetsAll (StoreHost.Lets r.host) (started fb r).host := fun _ => id
    refine (ends_opening hl).mono ?_
    intro o p hend
    obtain ⟨-, ho⟩ := hend
    cases o with
    | ok _ =>
        obtain ⟨b, m, hshows, hopen⟩ := ho
        exact ⟨p.2, rfl, hshows.scratch_none (hopen.framebuffer ▸ hpacked), b, m, hopen⟩
    | error f => exact absurd (ho.2 c hview).1 hroute
  -- nothing fails here, so that what ends is a view
  rcases hends.ok_or_error with ⟨v, r', hv, v', hv', hsc, hopen⟩ | ⟨f, r', -, v', hf, -⟩
  · cases hv'
    exact ⟨v, r', hv, hsc, hopen⟩
  · cases hf

end View

end Scanout
