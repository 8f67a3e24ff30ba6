/-
A framebuffer is made as it was asked for, or nothing of it is left.

* `Framebuffer.Prepares`: the requests by which a new buffer is prepared, and what they come to,
  with a lemma for a request that is done and one for the request that fails;
* `Framebuffer.recorded_prepare`: **they follow a plan up to the first that fails**, and no mapping
  is left however they end;
* `Framebuffer.Creation`: the ways in which the making of a framebuffer ends;
* `Framebuffer.create_all_or_nothing`: **there is no other way**, whatever is asked for and whatever
  the host refuses.
-/
import Scanout.Proofs.Framebuffer.Creating
import Scanout.Proofs.Layout.Exact
import Scanout.Proofs.Record

namespace Scanout.Framebuffer

variable {σ : Type} [Backend σ] [StoreHost σ] {s s₁ s' : Store} {h : Handle} {b b₁ : Buffer}
  {held held' : Option Mapping} {plan : List CallKind} {d : Deed} {ds : List Deed}
  {o : Checked Unit} {code : FourCC} {g : Geometry} {format : PixelFormat} {tiling : Tiling}
  {layout : Layout} {height : Nat}

/-! ### The preparation of a buffer -/

/-- What requests for a buffer come to, of which a mapping may be held: they follow a plan up to the
first that fails, every mapping is handed back, and the buffer is there without a mapping in the
end; if none fails, it is as it was meant to be. -/
structure Prepares (held : Option Mapping) (plan : List CallKind) (h : Handle) (b : Buffer)
    (s : Store) (o : Checked Unit) (ds : List Deed) (s' : Store) : Prop where
  straight : Straight ds o
  planned : ds.map Deed.kind <+: plan
  mappings : ds.filterMap Deed.unmapped? = held.toList ++ ds.filterMap Deed.mapped?
  kept : ∃ b', s.Sets h (some b') s' ∧ b'.mapping = none
  done : o = .ok () → ds.map Deed.kind = plan ∧ s.Sets h (some b) s'
  noCrash : o ≠ .error .crash

namespace Prepares

/-- Nothing is left to be asked for. -/
lemma nil (hs : s.Sets h (some b) s') (hfree : b.mapping = none) :
    Prepares none [] h b s (.ok ()) [] s' where
  straight := .nil
  planned := List.prefix_refl _
  mappings := rfl
  kept := ⟨b, hs, hfree⟩
  done _ := ⟨rfl, hs⟩
  noCrash := nofun

/-- A request that fails is the last one. -/
lemma stop (d : Deed) {e : Error} (hd : d.outcome = .error (.error e))
    (hm : d.unmapped?.toList = held.toList ++ d.mapped?.toList) (hs : s.Sets h (some b₁) s')
    (hfree : b₁.mapping = none) :
    Prepares held (d.kind :: plan) h b s (.error (.error e)) [d] s' where
  straight := .last hd
  planned := List.cons_prefix_cons.2 ⟨rfl, List.nil_prefix⟩
  mappings := by
    rw [filterMap_cons_toList, filterMap_cons_toList, hm]
    exact List.append_assoc ..
  kept := ⟨b₁, hs, hfree⟩
  done := nofun
  noCrash := nofun

/-- A request that is done comes before the others. -/
lemma next (d : Deed) (hd : d.outcome = .ok ())
    (hm : d.unmapped?.toList ++ held'.toList = held.toList ++ d.mapped?.toList)
    (hs : s.Sets h (some b₁) s₁) (hp : Prepares held' plan h b s₁ o ds s') :
    Prepares held (d.kind :: plan) h b s o (d :: ds) s' where
  straight := .cons hd hp.straight
  planned := List.cons_prefix_cons.2 ⟨rfl, hp.planned⟩
  mappings := by
    rw [filterMap_cons_toList, filterMap_cons_toList, hp.mappings, ← List.append_assoc, hm,
      List.append_assoc]
  kept := by
    obtain ⟨b', hs', hfree⟩ := hp.kept
    exact ⟨b', hs.trans hs', hfree⟩
  done ho := by
    obtain ⟨hplan, hs'⟩ := hp.done ho
    exact ⟨congrArg (d.kind :: ·) hplan, hs.trans hs'⟩
  noCrash := hp.noCrash

end Prepares

variable {m : Mapping}

/-- A mapping is handed back, and then its buffer goes to the display. -/
lemma recorded_handBack (hb : s.buffer? m.buffer = some b) (hm : b.mapping = some m) :
    Recorded (σ := σ) (do Backend.unmap m; Backend.syncGpu m.buffer) s
      (Prepares (some m) [.unmap, .syncGpu] m.buffer { b with mapping := none } s) := by
  refine recorded_bind (recorded_request (does_unmap hb hm (fun _ e s₁ hs₁ => ?_) fun s₁ hs₁ => ?_))
  · exact .stop (.unmap m _) rfl rfl hs₁ rfl
  have same : ∀ {s'}, s'.buffer? = s₁.buffer? → s₁.Sets m.buffer _ s' := Store.sets_self hs₁.self
  refine recorded_request (does_syncGpu (fun _ e => ?_) (fun hn => ?_) fun _ s₂ _ h₂ => ?_)
  · exact .next (.unmap m (.ok ())) rfl rfl hs₁ (.stop (.syncGpu m.buffer _) rfl rfl (same rfl) rfl)
  · simp [hs₁.self] at hn
  · exact .next (.unmap m (.ok ())) rfl rfl hs₁
      (.next (.syncGpu m.buffer (.ok ())) rfl rfl (same h₂)
        (.nil (Store.sets_self (same h₂).self rfl) rfl))

/-- The image of a new buffer is made black, or the request that fails is the last one. -/
lemma recorded_makeBlack (hb : s.buffer? h = some b) (hfree : b.mapping = none)
    (hsize : b.bytes.size = layout.size) :
    Recorded (σ := σ) (makeBlack h layout height) s
      (Prepares none [.syncCpu, .map, .unmap, .syncGpu] h
        { b with bytes := blacken layout height b.bytes } s) := by
  rw [makeBlack]
  refine recorded_bind (recorded_request (does_syncCpu (fun _ e => ?_) (fun hn => ?_)
    fun _ s₁ _ h₁ => ?_))
  · exact .stop (.syncCpu h _) rfl rfl (Store.sets_self hb rfl) hfree
  · simp [hn] at hb
  have hs₁ : s.Sets h (some b) s₁ := Store.sets_self hb h₁
  refine recorded_bind (recorded_request (does_map (fun _ e => ?_) (fun hn => ?_)
    (fun b' hb' hm => ?_) (fun b' hb' hout => ?_) fun b' m s₂ hb' _ _ hbuf hoff hlen hs₂ => ?_))
  · exact .next (.syncCpu h (.ok ())) rfl rfl hs₁
      (.stop (.map h 0 layout.size .write _) rfl rfl (Store.sets_self hs₁.self rfl) hfree)
  · simp [hs₁.self] at hn
  · cases hs₁.self.symm.trans hb'
    exact absurd hfree hm
  · cases hs₁.self.symm.trans hb'
    omega
  -- the whole buffer is mapped, so that what is seen and stored are all of its bytes
  cases hs₁.self.symm.trans hb'
  subst hbuf
  refine recorded_host_bind fun t ht => ?_
  have hwin : Backend.window t m = b.bytes := by
    show Backend.window t.host m = b.bytes
    rw [StoreHost.window, ht, Store.window_whole hs₂.self rfl hoff (hsize.trans hlen.symm)]
  rw [hwin, blacken?_eq hsize]
  refine recorded_bind (recorded_ofChecked (recorded_bind (recorded_setWindow ?_)))
  have hblack : (blacken layout height b.bytes).size = b.bytes.size := size_blacken
  have hs₃ := Store.sets_setWindow_whole hs₂.self rfl hoff (hsize.trans hlen.symm) hblack
  refine (recorded_handBack hs₃.self rfl).mono fun o ds s' hp => ?_
  rw [hfree]
  exact .next (.syncCpu m.buffer (.ok ())) rfl rfl hs₁
    (.next (.map m.buffer 0 layout.size .write (.ok m)) rfl rfl (hs₂.trans hs₃) hp)

/-- The requests by which a new buffer is prepared, in order. -/
def preparation (format : PixelFormat) : List CallKind :=
  .setTiling :: if format.isNv12 then [.syncCpu, .map, .unmap, .syncGpu] else []

/-- **A new buffer is prepared**, or the request that fails is the last one. -/
lemma recorded_prepare (hb : s.buffer? h = some b) (hfree : b.mapping = none)
    (hsize : b.bytes.size = layout.size) :
    Recorded (σ := σ) (prepare h format tiling layout height) s
      (Prepares none (preparation format) h
        ⟨prepared format layout height b.bytes, tiling, layout.stride, none⟩ s) := by
  rw [prepare_eq, preparation, prepared]
  refine recorded_bind (recorded_request (does_setTiling (fun _ e => ?_) (fun hn => ?_)
    fun b' s₁ hb' hs₁ => ?_))
  · exact .stop (.setTiling h tiling layout.stride _) rfl rfl (Store.sets_self hb rfl) hfree
  · simp [hn] at hb
  cases hb.symm.trans hb'
  rw [hfree] at hs₁
  cases format.isNv12 with
  | false =>
      exact recorded_pure (.next (.setTiling h tiling layout.stride (.ok ())) rfl rfl hs₁
        (.nil (Store.sets_self hs₁.self rfl) rfl))
  | true =>
      exact (recorded_makeBlack hs₁.self rfl hsize).mono fun o ds s' hp =>
        .next (.setTiling h tiling layout.stride (.ok ())) rfl rfl hs₁ hp

/-! ### The making of a framebuffer -/

/-- The format that is meant and the layout that is computed for it. -/
def Geometry.computed (g : Geometry) (code : FourCC) : Checked (PixelFormat × Layout) := do
  let format ← PixelFormat.ofCode code
  let layout ← Layout.compute g.device g.width g.height format g.tiling
  return (format, layout)

/-- The bytes that are asked for, in place of those that were computed. -/
def Geometry.sizeOf (g : Geometry) (computed : Layout) : Nat :=
  if g.size = 0 then computed.size else g.size

/-- The stride that is asked for, in place of the one that was computed. -/
def Geometry.strideOf (g : Geometry) (computed : Layout) : Nat :=
  if g.stride = 0 then computed.stride else g.stride

/-- The ways in which the making of a framebuffer ends, with the requests that are made and the
store that is left. -/
inductive Creation (code : FourCC) (g : Geometry) (s : Store) :
    Checked Framebuffer → List Deed → Store → Prop where
  /-- There is no such format, or no such layout of it, and nothing is asked for. -/
  | unfit {e : Error} (computed : g.computed code = Checked.fail e) :
      Creation code g s (Checked.fail e) [] s
  /-- There is no buffer to be had, and nothing else is asked for. -/
  | unallocated {format : PixelFormat} {layout : Layout} {f : Failure} {s' : Store}
      (computed : g.computed code = .ok (format, layout))
      (crashed : f = .crash → 0x8000000000000000 ≤ g.sizeOf layout)
      (same : s'.buffer? = s.buffer?) :
      Creation code g s (.error f) [.allocate (g.sizeOf layout) (.error f)] s'
  /-- The buffer cannot be prepared and is given up: every mapping of it has been handed back, the
  error is that of the first request that failed, and the buffers are those that there were. -/
  | undone {format : PixelFormat} {layout : Layout} {h : Handle} {steps : List Deed} {e : Error}
      {s' : Store} (computed : g.computed code = .ok (format, layout))
      (fresh : s.buffer? h = none) (straight : Straight steps (Checked.fail e))
      (planned : steps.map Deed.kind <+: preparation format)
      (mappings : steps.filterMap Deed.unmapped? = steps.filterMap Deed.mapped?)
      (same : s'.buffer? = s.buffer?) :
      Creation code g s (Checked.fail e)
        (.allocate (g.sizeOf layout) (.ok h) :: (steps ++ [.free h (.ok ())])) s'
  /-- The buffer cannot be prepared, nor can it be given up: the error is that of the latter, and
  the buffer is there besides those that there were, and not mapped. -/
  | abandoned {format : PixelFormat} {layout : Layout} {h : Handle} {steps : List Deed}
      {e e' : Error} {b : Buffer} {s' : Store} (computed : g.computed code = .ok (format, layout))
      (fresh : s.buffer? h = none) (straight : Straight steps (Checked.fail e'))
      (planned : steps.map Deed.kind <+: preparation format)
      (mappings : steps.filterMap Deed.unmapped? = steps.filterMap Deed.mapped?)
      (kept : s.Sets h (some b) s') (unmapped : b.mapping = none) :
      Creation code g s (Checked.fail e)
        (.allocate (g.sizeOf layout) (.ok h) :: (steps ++ [.free h (Checked.fail e)])) s'
  /-- The framebuffer is there, in a buffer besides those that there were, which is not mapped and
  has the size, the tiling and the stride that were asked for. -/
  | made {fb : Framebuffer} {layout : Layout} {steps : List Deed} {b : Buffer} {s' : Store}
      (computed : g.computed code = .ok (fb.format, layout))
      (laidOut : fb.layout = ⟨g.strideOf layout, g.sizeOf layout, layout.offsets⟩)
      (asked : fb.width = g.width ∧ fb.height = g.height ∧ fb.tiling = g.tiling ∧
        fb.device = g.device)
      (fresh : s.buffer? fb.buffer = none) (straight : Straight steps (.ok ()))
      (planned : steps.map Deed.kind = preparation fb.format)
      (mappings : steps.filterMap Deed.unmapped? = steps.filterMap Deed.mapped?)
      (kept : s.Sets fb.buffer (some b) s') (unmapped : b.mapping = none)
      (size : b.bytes.size = g.sizeOf layout) (tiling : b.tiling = g.tiling)
      (stride : b.stride = g.strideOf layout) :
      Creation code g s (.ok fb) (.allocate (g.sizeOf layout) (.ok fb.buffer) :: steps) s'

/-- Where there is a format, what is computed is its layout. -/
lemma Geometry.computed_eq (g : Geometry) (hformat : PixelFormat.ofCode code = .ok format) :
    g.computed code =
      (Layout.compute g.device g.width g.height format g.tiling).map fun layout =>
        (format, layout) := by
  rw [Geometry.computed, hformat]
  show (Layout.compute g.device g.width g.height format g.tiling >>= _) = _
  cases Layout.compute g.device g.width g.height format g.tiling <;> rfl

/-- Without a format or a layout there is an error, and no crash. -/
lemma Geometry.computed_ne_crash (g : Geometry) (code : FourCC) :
    g.computed code ≠ .error .crash := by
  cases hformat : PixelFormat.ofCode code with
  | error f =>
      rw [Geometry.computed, hformat]
      rintro ⟨⟩
      rw [PixelFormat.ofCode] at hformat
      split at hformat <;> cases hformat
  | ok format =>
      have crashless : Layout.compute g.device g.width g.height format g.tiling ≠ .error .crash :=
        Layout.compute_ne_crash g.device g.tiling (PixelFormat.mem_registry hformat)
      rw [g.computed_eq hformat]
      cases hlayout : Layout.compute g.device g.width g.height format g.tiling with
      | error f =>
          rintro ⟨⟩
          exact crashless hlayout
      | ok layout => rintro ⟨⟩

/-- A buffer that could not be prepared is given up. -/
lemma recorded_giveUp {f : Failure} {prepared : Buffer}
    (computed : g.computed code = .ok (format, layout)) (fresh : s.buffer? h = none)
    (hs₁ : s.Sets h (some b₁) s₁)
    (hp : Prepares none (preparation format) h prepared s₁ (.error f) ds s') :
    Recorded (σ := σ) (do Backend.free h; throw f) s' fun o ds' s'' =>
      Creation code g s o (.allocate (g.sizeOf layout) (.ok h) :: (ds ++ ds')) s'' := by
  -- the buffer is still there without a mapping, and so it can be freed but for a refusal
  obtain ⟨b, hs₂, hfree⟩ := hp.kept
  obtain ⟨e, rfl⟩ : ∃ e, f = .error e := by
    cases f with
    | error e => exact ⟨e, rfl⟩
    | crash => exact absurd rfl hp.noCrash
  have kept : s.Sets h (some b) s' := hs₁.trans hs₂
  refine recorded_bind (recorded_request (does_free (fun _ e' => ?_) (fun hn => ?_)
    (fun b' hb' hm => ?_) fun b' s₃ _ _ hs₃ => recorded_throw ?_))
  · exact .abandoned computed fresh hp.straight hp.planned hp.mappings kept hfree
  · simp [kept.self] at hn
  · cases kept.self.symm.trans hb'
    exact absurd hfree hm
  · refine .undone computed fresh hp.straight hp.planned hp.mappings (funext fun k => ?_)
    rw [kept.trans hs₃ k]
    split
    · next hk => rw [hk, fresh]
    · rfl

/-- A framebuffer is made in one of the ways that there are. -/
lemma recorded_create : Recorded (σ := σ) (create code g) s (Creation code g s) := by
  -- nothing is asked of the host for a format or a layout that there is not
  have unfit : ∀ {f}, g.computed code = .error f → Creation code g s (.error f) [] s := by
    intro f hf
    cases f with
    | error e => exact .unfit hf
    | crash => exact absurd hf (g.computed_ne_crash code)
  rw [create]
  refine recorded_bind (recorded_ofChecked ?_)
  cases hformat : PixelFormat.ofCode code with
  | error f =>
      refine unfit ?_
      rw [Geometry.computed, hformat]
      rfl
  | ok format =>
  refine recorded_bind (recorded_ofChecked ?_)
  rw [Geometry.layout]
  cases hlayout : Layout.compute g.device g.width g.height format g.tiling with
  | error f =>
      refine unfit ?_
      rw [g.computed_eq hformat, hlayout]
      rfl
  | ok layout =>
  have computed : g.computed code = .ok (format, layout) := by
    rw [g.computed_eq hformat, hlayout]
    rfl
  -- the one request for a buffer, after which all that fails is undone
  refine recorded_bind (recorded_emit (recorded_bind (recorded_request
    (does_allocate (fun _ e => ?_) (fun hlarge => ?_) fun h s₁ fresh hs₁ => ?_))))
  · exact .unallocated computed (by rintro ⟨⟩) rfl
  · exact .unallocated computed (fun _ => hlarge) rfl
  refine recorded_bind (recorded_attempt ((recorded_prepare hs₁.self rfl
    (Bytes.size_zeros _)).mono fun o ds s₂ hp => ?_))
  cases o with
  | ok _ =>
      obtain ⟨planned, hs₂⟩ := hp.done rfl
      refine recorded_bind (recorded_emit (recorded_pure ?_))
      show Creation code g s _ (.allocate (g.sizeOf layout) (.ok h) :: (ds ++ [])) s₂
      rw [List.append_nil]
      exact .made computed rfl ⟨rfl, rfl, rfl, rfl⟩ fresh hp.straight planned hp.mappings
        (hs₁.trans hs₂) rfl (size_prepared.trans (Bytes.size_zeros _)) rfl rfl
  | error f => exact recorded_giveUp computed fresh hs₁ hp

/-- Layouts that are computed have a size of thirty-two bits. -/
lemma Geometry.size_computed_lt (h : g.computed code = .ok (format, layout)) :
    layout.size < 0x100000000 := by
  obtain ⟨_, -, h⟩ := Checked.bind_eq_ok.1 h
  obtain ⟨_, hlayout, h⟩ := Checked.bind_eq_ok.1 h
  cases h
  exact (Layout.sound_of_compute hlayout).size

/-- There is memory for whatever size of thirty-two bits is asked for. -/
lemma Creation.ne_crash {o : Checked Framebuffer} (hc : Creation code g s o ds s')
    (hsize : g.size < 0x100000000) : o ≠ .error .crash := by
  cases hc with
  | unallocated computed crashed same =>
      rintro ⟨⟩
      have hlarge := crashed rfl
      have hcomputed := Geometry.size_computed_lt computed
      rw [Geometry.sizeOf] at hlarge
      split at hlarge
      · omega
      · omega
  | _ => exact nofun

/-- **A framebuffer is made as it was asked for, or nothing of it is left.** Whatever is asked for,
whatever buffers there are and whatever requests the host refuses, the making ends in one of these
ways; and no size and no stride of thirty-two bits makes it crash. -/
theorem create_all_or_nothing (code : FourCC) (g : Geometry) (r : Run σ) :
    Ends (create code g) (Traced.watch r) fun o t =>
      Creation code g (StoreHost.store r.host) o t.host.deeds (StoreHost.store t.host.host) ∧
        (g.size < 0x100000000 → o ≠ .error .crash) := by
  refine (recorded_create (Traced.watch r) rfl).mono ?_
  rintro o t ⟨ds, hds, hc⟩
  rw [show t.host.deeds = ds from hds]
  exact ⟨hc, hc.ne_crash⟩

/-- A pixel in a buffer that ends before its second plane begins. -/
def cramped : Geometry :=
  { device := .standard, width := 1, height := 1, tiling := .linear, size := 3, stride := 1 }

/-- A host that refuses to map a buffer, once. -/
def shut : Run (Monitor Store) :=
  ⟨⟨Store.empty 0, [⟨.map, 0, 1⟩], #[]⟩, #[]⟩

theorem create_cramped_undone : ∃ t : Run (Traced (Monitor Store)),
    create PixelFormat.nv12.code cramped (Traced.watch shut) =
        .error (.error (.host (.injected .map))) t ∧
      t.host.deeds.map Deed.kind = [.allocate, .setTiling, .syncCpu, .map, .free] ∧
      Creation PixelFormat.nv12.code cramped shut.host.host
        (Checked.fail (.host (.injected .map))) t.host.deeds t.host.host.host := by
  obtain ⟨t, ht, hkinds⟩ : ∃ t : Run (Traced (Monitor Store)),
      create PixelFormat.nv12.code cramped (Traced.watch shut) =
          .error (.error (.host (.injected .map))) t ∧
        t.host.deeds.map Deed.kind = [.allocate, .setTiling, .syncCpu, .map, .free] :=
    ⟨_, rfl, rfl⟩
  have hends := create_all_or_nothing PixelFormat.nv12.code cramped shut
  exact ⟨t, ht, hkinds, (hends.of_error ht).1⟩

end Scanout.Framebuffer
