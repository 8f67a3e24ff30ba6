/-
The filling of a linear copy.

* `Framebuffer.Viewable`: nothing stands in the way of a view;
* `View.Copied`: a linear copy has been made, and holds the first planes of the framebuffer;
* `View.fillStop`: **where the filling of a linear copy stops**, if it does;
* `View.ends_fill`, `View.ends_openShadow`: the copy is filled plane by plane, and a failure leaves
  it with the planes that it got.
-/
import Scanout.Proofs.View.Filling
import Scanout.Proofs.View.Held

namespace Scanout

variable {σ : Type} [Backend σ] [StoreHost σ] {lets : CallKind → Prop} {s s₀ s' : Store}
  {fb : Framebuffer} {sh : Shadow}

namespace Framebuffer

/-- The framebuffer lies in a buffer that is not mapped. -/
structure Sits (fb : Framebuffer) (c : Buffer) : Prop where
  free : c.mapping = none
  whole : fb.layout.size ≤ c.bytes.size
  inside : ∀ plane < fb.numPlanes, ∀ area, fb.area? plane = some area → ∀ row < area.height,
    (fb.layout.surface fb.buffer fb.tiling plane).place row area.rowBytes ≤ c.bytes.size

/-- Nothing stands in the way of a view: no request is refused, the framebuffer lies in its buffer,
and it has a linear layout. -/
structure Viewable (fb : Framebuffer) (lets : CallKind → Prop) (s : Store) (c : Buffer) : Prop where
  lets : ∀ k, lets k
  live : s.buffer? fb.buffer = some c
  sits : fb.Sits c
  linear : ∃ L, Layout.compute fb.device fb.width fb.height fb.format .linear = .ok L

end Framebuffer

namespace View

/-- A view for which a linear copy has been made. -/
def shadowed (fb : Framebuffer) (sh : Shadow) : View :=
  { unopened fb with shadow := some sh }

/-- A linear copy has been made, and holds the first planes of the framebuffer, which is not mapped
if they are any. -/
structure Copied (fb : Framebuffer) (s₀ : Store) (sh : Shadow) (n : Nat) (s : Store) : Prop where
  layout : Layout.compute fb.device fb.width fb.height fb.format .linear = .ok sh.layout
  free : 0 < n → ∀ c, s₀.buffer? fb.buffer = some c → c.mapping = none
  held : ∃ b, (shadowed fb sh).Held s₀ b s ∧
    ∀ c, s₀.buffer? fb.buffer = some c → sh.Fills fb n c.bytes b.bytes

namespace Copied

variable {n : Nat}

lemma sound (hc : Copied fb s₀ sh n s) : sh.layout.Sound fb.format fb.width fb.height :=
  Layout.sound_of_compute hc.layout

/-- A buffer that there was before is not that of the copy, and is as it was. -/
lemma old {k : Handle} {c : Buffer} (hc : Copied fb s₀ sh n s) (hk : s₀.buffer? k = some c) :
    k ≠ sh.buffer ∧ s.buffer? k = some c := by
  obtain ⟨b, hv, -⟩ := hc.held
  have hne : k ≠ sh.buffer := by
    rintro rfl
    simp [show s₀.buffer? sh.buffer = none from hv.fresh nofun] at hk
  exact ⟨hne, (hv.sets.other hne).trans hk⟩

/-- Where nothing stands in the way, a plane can be copied. -/
lemma ready {area : Area} {c : Buffer} (hc : Copied fb s₀ sh n s) (hn : n < fb.numPlanes)
    (ha : fb.area? n = some area) (hview : fb.Viewable lets s₀ c) :
    ∃ b, s.Ready (fb.layout.surface fb.buffer fb.tiling n)
      (sh.layout.surface sh.buffer .linear n) area c b := by
  obtain ⟨b, hv, -⟩ := hc.held
  exact ⟨b, (hc.old hview.live).2, hview.sits.free, Layout.area_lt hc.sound hn ha,
    hview.sits.inside n hn area ha, hv.self, hv.mapped⟩

/-- The copy of one more plane. -/
lemma next {area : Area} {a b : Buffer} (hc : Copied fb s₀ sh n s) (hn : n < fb.numPlanes)
    (ha : fb.area? n = some area)
    (hready : s.Ready (fb.layout.surface fb.buffer fb.tiling n)
      (sh.layout.surface sh.buffer .linear n) area a b)
    (hsets : s.Sets sh.buffer (some { b with
      bytes := (Store.copied (fb.layout.surface fb.buffer fb.tiling n)
        (sh.layout.surface sh.buffer .linear n) area a.bytes b.bytes).1 }) s') :
    (∀ c, s₀.buffer? fb.buffer = some c →
      (Store.copied (fb.layout.surface fb.buffer fb.tiling n)
        (sh.layout.surface sh.buffer .linear n) area a.bytes b.bytes).2 = .ok ()) ∧
      Copied fb s₀ sh (n + 1) s' := by
  obtain ⟨b', hv, hfill⟩ := hc.held
  cases hv.self.symm.trans hready.target
  -- where the buffer of the framebuffer is there, it is the source
  have same : ∀ c, s₀.buffer? fb.buffer = some c → a = c := fun c hlive =>
    Option.some.inj (hready.source.symm.trans (hc.old hlive).2)
  refine ⟨fun c hlive => ?_, hc.layout, fun _ c hlive => same c hlive ▸ hready.sourceFree, _,
    hv.paint Store.size_copied hsets, fun c hlive => ?_⟩
  · cases same c hlive
    exact ((hfill a hlive).next hn hc.sound ha hready.inside).1
  · cases same c hlive
    exact ((hfill a hlive).next hn hc.sound ha hready.inside).2

end Copied

/-- The copy of a plane into the linear copy. -/
lemma does_fill {n : Nat} (hc : Copied fb s₀ sh n s) (hn : n < fb.numPlanes) :
    Does (σ := σ) lets (fb.copyPlane fb.surface? sh.surface? n) s fun o s' =>
      match o with
      | .ok _ => Copied fb s₀ sh (n + 1) s'
      | .error _ => Copied fb s₀ sh n s' ∧ ∀ c, ¬fb.Viewable lets s₀ c := by
  have hlt : n < maxPlanes := Nat.lt_of_lt_of_le hn hc.sound.planes
  obtain ⟨area, ha, -⟩ := Framebuffer.exists_area hc.sound hn
  refine Framebuffer.does_copyPlane (fun hnone => ?_) fun ss ds area' hss hds ha' => ?_
  · rw [fb.surface?_eq hlt, sh.surface?_eq hlt, ha] at hnone
    simp at hnone
  · cases (fb.surface?_eq hlt).symm.trans hss
    cases (sh.surface?_eq hlt).symm.trans hds
    cases ha.symm.trans ha'
    refine does_copy (fun hk _ => ⟨hc, fun c hview => hk (hview.lets _)⟩)
      (fun hmiss _ => ⟨hc, fun c hview => ?_⟩) fun a b s' hready hsets => ?_
    · obtain ⟨b, hb⟩ := hc.ready hn ha hview
      exact hmiss c b hb
    · obtain ⟨hok, hnext⟩ := hc.next hn ha hready hsets
      split
      · exact hnext
      · next f hf =>
        -- a copy of a source that is there fits, so that none was there
        have hdead : ∀ c, s₀.buffer? fb.buffer ≠ some c := fun c hlive => by
          simp [hok c hlive] at hf
        obtain ⟨b', hv, -⟩ := hnext.held
        exact ⟨⟨hc.layout, hc.free, b', hv, fun c hlive => absurd hlive (hdead c)⟩,
          fun c hview => hdead c hview.live⟩

/-- The linear copy is filled plane by plane. -/
lemma ends_fill {r : Run σ} (hl : StoreHost.LetsAll lets r.host)
    (hc : Copied fb s₀ sh 0 (StoreHost.store r.host)) :
    Ends (fb.copyPlanes fb.surface? sh.surface?) r fun o r' =>
      match o with
      | .ok _ => (StoreHost.LetsAll lets r'.host ∧
          Copied fb s₀ sh fb.numPlanes (StoreHost.store r'.host)) ∧
          stop (fb.copyPlane fb.surface? sh.surface?) fb.numPlanes 0 r = none
      | .error _ => ∃ n < fb.numPlanes, (StoreHost.LetsAll lets r'.host ∧
          Copied fb s₀ sh n (StoreHost.store r'.host) ∧ ∀ c, ¬fb.Viewable lets s₀ c) ∧
          stop (fb.copyPlane fb.surface? sh.surface?) fb.numPlanes 0 r = some (n, r') := by
  rw [Framebuffer.copyPlanes_eq]
  -- the invariant: after `n` rounds `n` planes are filled
  refine Ends.forM_range_stop
    (fun n (r' : Run σ) => StoreHost.LetsAll lets r'.host ∧
      Copied fb s₀ sh n (StoreHost.store r'.host))
    (fun n _ (r' : Run σ) => StoreHost.LetsAll lets r'.host ∧
      Copied fb s₀ sh n (StoreHost.store r'.host) ∧ ∀ c, ¬fb.Viewable lets s₀ c) ⟨hl, hc⟩ ?_
  rintro n hn r' ⟨hl', hc'⟩
  refine (does_fill hc' hn r' rfl hl').mono ?_
  intro o r'' ho
  cases o with
  | ok _ => exact ho
  | error _ => exact ho

/-- Where the filling of a linear copy stops: the copy, the number of planes that it holds, and what
is left. -/
def fillStop (fb : Framebuffer) (r : Run σ) : Option (Shadow × Nat × Run σ) :=
  match Layout.compute fb.device fb.width fb.height fb.format .linear with
  | .error _ => none
  | .ok layout =>
    match Backend.allocate layout.size r with
    | .error _ _ => none
    | .ok buffer r =>
      let sh : Shadow := ⟨buffer, layout⟩
      match Backend.setTiling buffer .linear layout.stride r with
      | .error _ r => some (sh, 0, r)
      | .ok _ r => (stop (fb.copyPlane fb.surface? sh.surface?) fb.numPlanes 0 r).map (sh, ·)

/-- A buffer for the copy, if it is to be had. -/
lemma does_allocateShadow {L : Layout}
    (hL : Layout.compute fb.device fb.width fb.height fb.format .linear = .ok L) :
    Does (σ := σ) lets (Backend.allocate L.size) s₀ fun o s =>
      match o with
      | .ok h => Copied fb s₀ ⟨h, L⟩ 0 s
      | .error _ => s.buffer? = s₀.buffer? ∧ ∀ c, ¬fb.Viewable lets s₀ c := by
  have hsound := Layout.sound_of_compute hL
  refine does_allocate (fun hk _ => ⟨rfl, fun c hview => hk (hview.lets _)⟩)
    (fun hbig => absurd hsound.size (by omega))
    fun h s hnew hsets => ⟨hL, nofun, Buffer.fresh L.size, ?_, ?_⟩
  · exact ⟨hsets, rfl, nofun, fun _ => hnew, nofun⟩
  · intro c _
    show (⟨h, L⟩ : Shadow).Fills fb 0 c.bytes (Bytes.zeros L.size)
    exact Shadow.fills_zero hsound

/-- The copy is declared to be linear. -/
lemma does_declareShadow (hc : Copied fb s₀ sh 0 s) :
    Does (σ := σ) lets (Backend.setTiling sh.buffer .linear sh.layout.stride) s fun o s =>
      match o with
      | .ok _ => Copied fb s₀ sh 0 s
      | .error _ => Copied fb s₀ sh 0 s ∧ ∀ c, ¬fb.Viewable lets s₀ c := by
  obtain ⟨b, hv, hfill⟩ := hc.held
  have hself : s.buffer? sh.buffer = some b := hv.self
  refine does_setTiling (fun hk _ => ⟨hc, fun c hview => hk (hview.lets _)⟩) (fun hn => ?_)
    fun b' s' hb' hsets => ?_
  · simp [hn] at hself
  · cases hself.symm.trans hb'
    exact ⟨hc.layout, nofun, _, ⟨hv.sets.trans hsets, hv.mapped, hv.own, hv.fresh, nofun⟩, hfill⟩

/-- A linear copy is made whole, or not at all, or it stops being filled. -/
lemma ends_openShadow {r : Run σ} (hl : StoreHost.LetsAll lets r.host) :
    Ends (openShadow fb) (r, unopened fb) fun o p =>
      StoreHost.LetsAll lets p.1.host ∧
      match o with
      | .ok sh => p.2 = shadowed fb sh ∧ fillStop fb r = none ∧
          Copied fb (StoreHost.store r.host) sh fb.numPlanes (StoreHost.store p.1.host)
      | .error _ => (∀ c, ¬fb.Viewable lets (StoreHost.store r.host) c) ∧
          (p.2 = unopened fb ∧ fillStop fb r = none ∧
              (StoreHost.store p.1.host).buffer? = (StoreHost.store r.host).buffer? ∨
            ∃ sh n, p.2 = shadowed fb sh ∧ fillStop fb r = some (sh, n, p.1) ∧ n < fb.numPlanes ∧
              Copied fb (StoreHost.store r.host) sh n (StoreHost.store p.1.host)) := by
  rw [openShadow]
  rw [ends_bind, ends_act, ends_ofChecked]
  -- each request has one way to fail, and `fillStop` says whether it is one of the copies
  cases hL : Layout.compute fb.device fb.width fb.height fb.format .linear with
  | error f =>
      refine ⟨hl, fun c hview => ?_, .inl ⟨rfl, by simp only [fillStop, hL], rfl⟩⟩
      obtain ⟨L, hL'⟩ := hview.linear
      simp [hL] at hL'
  | ok L =>
      dsimp only
      rw [ends_bind, ends_act]
      refine ((does_allocateShadow hL r rfl hl).and ends_self).mono ?_
      intro o r₁ hend
      obtain ⟨⟨hl₁, ho⟩, heq₁⟩ := hend
      cases o with
      | error f => exact ⟨hl₁, ho.2, .inl ⟨rfl, by simp only [fillStop, hL, heq₁], ho.1⟩⟩
      | ok h =>
          dsimp only at ho heq₁ ⊢
          -- from here on the copy is on record in the view
          rw [ends_bind, ends_acquired]
          dsimp only
          rw [ends_bind, ends_act]
          refine ((does_declareShadow ho r₁ rfl hl₁).and ends_self).mono
            fun o r₂ hend => ?_
          obtain ⟨⟨hl₂, ho₂⟩, heq₂⟩ := hend
          cases o with
          | error f =>
              refine ⟨hl₂, ho₂.2, .inr ⟨⟨h, L⟩, 0, rfl, ?_, Nat.lt_of_lt_of_le Nat.one_pos
                (Nat.le_max_right ..), ho₂.1⟩⟩
              dsimp only at heq₂
              simp only [fillStop, hL, heq₁, heq₂]
          | ok _ =>
              dsimp only
              rw [ends_bind, ends_act]
              refine (ends_fill hl₂ ho₂).mono ?_
              intro o r₃ ho₃
              cases o with
              | ok _ =>
                  obtain ⟨⟨hl₃, hc⟩, hstop⟩ := ho₃
                  refine ⟨hl₃, rfl, ?_, hc⟩
                  dsimp only at heq₂
                  simp only [fillStop, hL, heq₁, heq₂, hstop, Option.map_none]
              | error f =>
                  obtain ⟨n, hn, ⟨hl₃, hc, hview⟩, hstop⟩ := ho₃
                  refine ⟨hl₃, hview, .inr ⟨⟨h, L⟩, n, rfl, ?_, hn, hc⟩⟩
                  dsimp only at heq₂
                  simp only [fillStop, hL, heq₁, heq₂, hstop, Option.map_some]

end View

end Scanout
