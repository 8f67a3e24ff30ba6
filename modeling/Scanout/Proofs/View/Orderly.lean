/-
The requests of a view, from its opening to its end.

* `MapsAsked`: mappings are of the buffer that was asked for, as those of a store are;
* `View.Accounted`: what a view holds is what its record comes to;
* `View.ends_opening_accounted`: it does, however far the opening gets;
* `View.Closes`, `View.ends_closing_closes`: the requests by which a view ends, whatever becomes of
  them;
* `View.acquire_orderly`: **the record of a view is in order**, on every host and whatever it
  refuses.
-/
import Scanout.Framebuffer.Create
import Scanout.Proofs.Trace
import Scanout.Proofs.View.Editing

namespace Scanout

/-- A host maps the buffer that is asked for. -/
def MapsAsked (σ : Type) [Backend σ] : Prop :=
  ∀ (h : Handle) (offset size : Nat) (access : Access) (r : Run σ),
    Ends (Backend.map h offset size access) r fun o _ => ∀ m, o = .ok m → m.buffer = h

variable {σ : Type} [Backend σ] {r : Run (Traced σ)} {fb : Framebuffer} {ds cs : List Deed}

/-- On such a host, what is mapped is what was asked for. -/
lemma ends_map_asked {h : Handle} {offset size : Nat} {access : Access} {r : Run σ} :
    Ends (Backend.map h offset size access) r fun o _ =>
      MapsAsked σ → ∀ m, o = .ok m → m.buffer = h := by
  by_cases honest : MapsAsked σ
  · exact (honest h offset size access r).mono fun _ _ hm _ => hm
  · exact ends_self.mono fun _ _ _ h => absurd h honest

/-! ### Copies of all planes -/

namespace Framebuffer

/-- What is copied of a plane. -/
def planeCopy? (fb : Framebuffer) (src dst : Nat → Option Surface) (plane : Nat) :
    Option (Surface × Surface × Area) := do
  let src ← src plane
  let dst ← dst plane
  let area ← fb.area? plane
  return (src, dst, area)

/-- Copies of the first planes, one after the other. -/
structure Copies (fb : Framebuffer) (src dst : Nat → Option Surface) (n : Nat) (cs : List Deed) :
    Prop where
  copies : ∀ c ∈ cs, c.copied? ≠ none
  planes : cs.filterMap Deed.copied? = (List.range n).filterMap (fb.planeCopy? src dst)

variable {src dst : Nat → Option Surface} {n : Nat}

lemma Copies.zero : fb.Copies src dst 0 [] :=
  ⟨fun _ hc => absurd hc List.not_mem_nil, rfl⟩

/-- The copy of one more plane. -/
lemma Copies.next {ss ds : Surface} {area : Area} {o : Checked Unit} (hc : fb.Copies src dst n cs)
    (hp : fb.planeCopy? src dst n = some (ss, ds, area)) :
    fb.Copies src dst (n + 1) (cs ++ [.copy ss ds area o]) where
  copies := by
    intro c hc'
    rcases List.mem_append.1 hc' with hc' | hc'
    · exact hc.copies c hc'
    · cases List.mem_singleton.1 hc'
      exact nofun
  planes := by
    rw [List.filterMap_append, hc.planes, List.range_succ, List.filterMap_append,
      List.filterMap_cons_some hp]
    rfl

/-- The copy of one plane is one request, or none where there is no such plane. -/
lemma ends_copyPlane_copies (hc : fb.Copies src dst n cs) (hr : r.host.deeds = ds ++ cs) :
    Ends (fb.copyPlane src dst n) r fun o r' => ∃ cs', r'.host.deeds = ds ++ cs' ∧
      match o with
      | .ok _ => fb.Copies src dst (n + 1) cs'
      | .error _ => ∃ n' ≤ n + 1, fb.Copies src dst n' cs' := by
  have missing : ∃ cs', r.host.deeds = ds ++ cs' ∧ ∃ n' ≤ n + 1, fb.Copies src dst n' cs' :=
    ⟨cs, hr, n, Nat.le_succ n, hc⟩
  rw [copyPlane, ends_bind, ends_ofChecked]
  cases hs : src n with
  | none => exact missing
  | some ss =>
  show Ends (Act.ofChecked _ >>= _) r _
  rw [ends_bind, ends_ofChecked]
  cases hd : dst n with
  | none => exact missing
  | some dd =>
  show Ends (Act.ofChecked _ >>= _) r _
  rw [ends_bind, ends_ofChecked]
  cases ha : fb.area? n with
  | none => exact missing
  | some area =>
  have hp : fb.planeCopy? src dst n = some (ss, dd, area) := by
    simp only [planeCopy?, hs, hd, ha]
    rfl
  -- whatever becomes of the copy, it is on record
  refine Traced.ends_record_any fun o host log => ⟨cs ++ [.copy ss dd area o], ?_, ?_⟩
  · rw [hr, List.append_assoc]
  · cases o with
    | ok _ => exact hc.next hp
    | error f => exact ⟨n + 1, Nat.le_refl _, hc.next hp⟩

/-- The copy of all planes is that of the first ones, in their order. -/
lemma ends_copyPlanes_copies : Ends (fb.copyPlanes src dst) r fun _ r' => ∃ n ≤ fb.numPlanes,
    ∃ cs, r'.host.deeds = r.host.deeds ++ cs ∧ fb.Copies src dst n cs := by
  rw [copyPlanes_eq]
  refine Ends.forM_range (fun n r' => ∃ cs, r'.host.deeds = r.host.deeds ++ cs ∧
    fb.Copies src dst n cs) ⟨[], (List.append_nil _).symm, .zero⟩ ?_
    fun r' h => ⟨_, Nat.le_refl _, h⟩
  rintro n hn r' ⟨cs, hr', hc⟩
  refine (ends_copyPlane_copies hc hr').mono ?_
  rintro o r'' ⟨cs', hr'', ho⟩
  cases o with
  | ok _ => exact ⟨cs', hr'', ho⟩
  | error f =>
      obtain ⟨n', hn', hc'⟩ := ho
      exact ⟨n', Nat.le_trans hn' hn, cs', hr'', hc'⟩

end Framebuffer

namespace View

variable {v : View} {h : Handle} {size : Nat} {allocated : Option Handle}

/-! ### The opening -/

variable (σ) in
/-- What a view holds is what its record comes to, and what is mapped is its linear copy, if it has
one. -/
structure Accounted (fb : Framebuffer) (v : View) (ds : List Deed) : Prop where
  framebuffer : v.framebuffer = fb
  unreleased : v.released = false
  tally : Tally v.mapping none (v.shadow.map (·.buffer)) none ds
  own : ∀ m sh, v.mapping = some m → v.shadow = some sh → (MapsAsked σ → m.buffer = sh.buffer) ∧
    ∃ offset size access, .map sh.buffer offset size access (.ok m) ∈ ds

/-- A buffer is mapped once it is with the CPU. -/
lemma ends_openMapping_tally (ht : Tally none none allocated none r.host.deeds) :
    Ends (openMapping h size) (r, v) fun o p =>
      match o with
      | .ok _ => ∃ m, p.2 = { v with mapping := some m } ∧ (MapsAsked σ → m.buffer = h) ∧
          (∃ offset size access, .map h offset size access (.ok m) ∈ p.1.host.deeds) ∧
          Tally (some m) none allocated none p.1.host.deeds
      | .error _ => p.2 = v ∧ Tally none none allocated none p.1.host.deeds := by
  rw [openMapping, ends_bind, ends_act]
  refine Traced.ends_record_any fun o host log => ?_
  have hsync : Tally none none allocated none (r.host.deeds ++ [.syncCpu h o]) :=
    ht.quiet trivial ⟨rfl, rfl, rfl, rfl⟩
  cases o with
  | error f => exact ⟨rfl, hsync⟩
  | ok _ =>
  -- a buffer is mapped right after it was handed to the CPU
  have handed : Deed.Handed (r.host.deeds ++ [.syncCpu h (.ok ())]) h :=
    ⟨r.host.deeds, [], rfl, rfl⟩
  rw [ends_bind, ends_act]
  refine Traced.ends_record.2 (ends_map_asked.mono fun o t hm => ?_)
  cases o with
  | error f =>
      exact ⟨rfl, hsync.quiet (d := .map h 0 size .readWrite (.error f)) handed
        ⟨rfl, rfl, rfl, rfl⟩⟩
  | ok m =>
      exact ⟨m, rfl, fun honest => hm honest m rfl,
        ⟨0, size, .readWrite, List.mem_append_right _ List.mem_cons_self⟩, hsync.map handed⟩

/-- A buffer for a linear copy is obtained, and then copied to. -/
lemma ends_openShadow_tally (ht : Tally none none none none r.host.deeds) :
    Ends (openShadow fb) (r, unopened fb) fun o p =>
      match o with
      | .ok sh => p.2 = shadowed fb sh ∧ Tally none none (some sh.buffer) none p.1.host.deeds
      | .error _ => p.2 = unopened fb ∧ Tally none none none none p.1.host.deeds ∨
          ∃ sh, p.2 = shadowed fb sh ∧ Tally none none (some sh.buffer) none p.1.host.deeds := by
  rw [openShadow, ends_bind, ends_act, ends_ofChecked]
  cases Layout.compute fb.device fb.width fb.height fb.format .linear with
  | error f => exact .inl ⟨rfl, ht⟩
  | ok L =>
  dsimp only
  rw [ends_bind, ends_act]
  refine Traced.ends_record_any fun o host log => ?_
  cases o with
  | error f =>
      exact .inl ⟨rfl, ht.quiet (d := .allocate L.size (.error f)) trivial ⟨rfl, rfl, rfl, rfl⟩⟩
  | ok h =>
  -- once there is a buffer it is on the books, and every request after it leaves it there
  have hshadow : Tally none none (some h) none (r.host.deeds ++ [.allocate L.size (.ok h)]) :=
    ht.allocate
  dsimp only
  rw [ends_bind, ends_acquired]
  dsimp only
  rw [ends_bind, ends_act]
  refine Traced.ends_record_any fun o host log => ?_
  have htiled := hshadow.quiet (d := .setTiling h .linear L.stride o) trivial
    ⟨rfl, rfl, rfl, rfl⟩
  cases o with
  | error f => exact .inr ⟨⟨h, L⟩, rfl, htiled⟩
  | ok _ =>
  dsimp only
  rw [ends_bind, ends_act]
  refine Framebuffer.ends_copyPlanes_copies.mono ?_
  rintro o r' ⟨n, -, cs, hr', hcs⟩
  have hfilled := htiled.copies hcs.copies
  rw [← hr'] at hfilled
  cases o with
  | error f => exact .inr ⟨⟨h, L⟩, rfl, hfilled⟩
  | ok _ => exact ⟨rfl, hfilled⟩

/-- What is mapped is the framebuffer or the linear copy of it. -/
lemma ends_openLinear_accounted (ht : Tally none none none none r.host.deeds) :
    Ends openLinear (r, unopened fb) fun o p => Accounted σ fb p.2 p.1.host.deeds ∧
      ((∃ a, o = .ok a) → p.2.mapping ≠ none) := by
  rw [openLinear, ends_bind, ends_view]
  show Ends (if fb.tiling.needsBlit then _ else _) _ _
  split
  · rw [ends_bind]
    refine (ends_openShadow_tally ht).mono ?_
    rintro o ⟨r', v'⟩ ho
    cases o with
    | error f =>
        refine ⟨?_, by rintro ⟨_, ⟨⟩⟩⟩
        -- without a mapping there is nothing to be its own
        rcases ho with ⟨rfl, ht'⟩ | ⟨sh, rfl, ht'⟩
        · exact ⟨rfl, rfl, ht', by rintro _ _ ⟨⟩⟩
        · exact ⟨rfl, rfl, ht', by rintro _ _ ⟨⟩⟩
    | ok sh =>
        obtain ⟨rfl, ht'⟩ := ho
        refine (ends_openMapping_tally ht').mono ?_
        rintro o ⟨r'', v''⟩ ho
        cases o with
        | error f =>
            obtain ⟨rfl, ht''⟩ := ho
            exact ⟨⟨rfl, rfl, ht'', by rintro _ _ ⟨⟩⟩, by rintro ⟨_, ⟨⟩⟩⟩
        | ok _ =>
            obtain ⟨m, rfl, hown, hmap, ht''⟩ := ho
            refine ⟨⟨rfl, rfl, ht'', ?_⟩, fun _ => Option.some_ne_none m⟩
            rintro _ _ ⟨⟩ ⟨⟩
            exact ⟨hown, hmap⟩
  · refine (ends_openMapping_tally ht).mono ?_
    rintro o ⟨r', v'⟩ ho
    cases o with
    | error f =>
        obtain ⟨rfl, ht'⟩ := ho
        exact ⟨⟨rfl, rfl, ht', by rintro _ _ ⟨⟩⟩, by rintro ⟨_, ⟨⟩⟩⟩
    | ok _ =>
        obtain ⟨m, rfl, -, -, ht'⟩ := ho
        exact ⟨⟨rfl, rfl, ht', by rintro _ _ _ ⟨⟩⟩, fun _ => Option.some_ne_none m⟩

/-- Nothing is asked of the host for a conversion. -/
lemma ends_decode_deeds [Machine] : Ends decode (r, v) fun _ p => p.1.host.deeds = r.host.deeds ∧
    ∃ sc, p.2 = { v with scratch := sc } := by
  have kept : ∃ sc, v = { v with scratch := sc } := ⟨v.scratch, rfl⟩
  rw [decode, ends_bind, ends_view]
  dsimp only
  rw [ends_bind, ends_act, ends_ofChecked]
  cases scratchStride v.framebuffer.width with
  | error f => exact ⟨rfl, kept⟩
  | ok stride =>
  dsimp only
  rw [ends_bind, ends_act, ends_host]
  dsimp only
  rw [ends_bind, ends_act, ends_ofChecked]
  split
  · exact ⟨rfl, _, rfl⟩
  · exact ⟨rfl, kept⟩

/-- However far an opening gets, what the view holds is what its record comes to. -/
lemma ends_opening_accounted [Machine] (ht : Tally none none none none r.host.deeds) :
    Ends (opening fb) (r, unopened fb) fun o p => Accounted σ fb p.2 p.1.host.deeds ∧
      ((∃ a, o = .ok a) → p.2.mapping ≠ none) := by
  rw [opening, ends_bind]
  refine (ends_openLinear_accounted ht).mono ?_
  rintro o ⟨r', v'⟩ ⟨hv, hm⟩
  cases o with
  | error f => exact ⟨hv, by rintro ⟨_, ⟨⟩⟩⟩
  | ok a =>
  have hm := hm ⟨a, rfl⟩
  dsimp only
  split
  · refine ends_decode_deeds.mono ?_
    rintro o ⟨r'', v''⟩ ⟨hdeeds, sc, rfl⟩
    rw [hdeeds]
    exact ⟨⟨hv.framebuffer, hv.unreleased, hv.tally, hv.own⟩, fun _ => hm⟩
  · exact ⟨hv, fun _ => hm⟩

/-! ### The end -/

/-- The requests by which a view ends: a mapping is handed back and its buffer goes to the display,
and a linear copy is copied back and given up. -/
structure Closes (v : View) (mapped copied freed : List Deed) : Prop where
  mapped : match v.mapping with
    | some m => ∃ o o', mapped = [.unmap m o, .syncGpu m.buffer o']
    | none => mapped = []
  copied : match v.shadow with
    | some sh => ∃ n ≤ v.framebuffer.numPlanes,
        v.framebuffer.Copies sh.surface? v.framebuffer.surface? n copied
    | none => copied = []
  freed : match v.shadow with
    | some sh => ∃ o, freed = [.free sh.buffer o]
    | none => freed = []

/-- Nothing is asked of the host for a conversion back. -/
lemma ends_encode_deeds : Ends v.encode r fun _ r' => r'.host.deeds = r.host.deeds := by
  rw [encode]
  split
  · rw [ends_bind, ends_host]
    dsimp only
    rw [ends_bind, ends_ofChecked]
    split
    · rfl
    · rfl
  · rfl

/-- A linear copy is copied back and given up. -/
lemma ends_giveBack_unmapped (hm : v.mapping = none) :
    Ends (Act.attemptAll v.giveBack) r fun _ r' => ∃ copied freed,
      r'.host.deeds = r.host.deeds ++ (copied ++ freed) ∧ v.Closes [] copied freed := by
  have mapped : match v.mapping with
      | some m => ∃ o o', ([] : List Deed) = [.unmap m o, .syncGpu m.buffer o']
      | none => ([] : List Deed) = [] := by rw [hm]
  cases hs : v.shadow with
  | none =>
      simp only [giveBack, hm, hs, List.nil_append]
      exact ⟨[], [], (List.append_nil _).symm, mapped, by rw [hs], by rw [hs]⟩
  | some sh =>
      simp only [giveBack, hm, hs, List.nil_append]
      -- copies up to the first that fails, and then the buffer is freed in any case
      refine ends_attemptAll_cons_any Framebuffer.ends_copyPlanes_copies ?_
      rintro r₁ ⟨n, hn, cs, hr₁, hcs⟩
      refine ends_attemptAll_cons_any (P := fun r₂ =>
        ∃ o, r₂.host.deeds = r₁.host.deeds ++ [.free sh.buffer o])
        (Traced.ends_record_any fun o _ _ => ⟨o, rfl⟩) ?_
      rintro r₂ ⟨o, hr₂⟩
      refine ⟨cs, [.free sh.buffer o], ?_, mapped, ?_, ?_⟩
      · rw [hr₂, hr₁, List.append_assoc]
      · rw [hs]
        exact ⟨n, hn, hcs⟩
      · rw [hs]
        exact ⟨o, rfl⟩

/-- Whatever becomes of the requests by which a view ends, all of them are made. -/
lemma ends_closing_closes : Ends (Act.attemptAll v.closing) r fun _ r' =>
    ∃ mapped copied freed, r'.host.deeds = r.host.deeds ++ (mapped ++ (copied ++ freed)) ∧
      v.Closes mapped copied freed := by
  rw [closing_eq]
  refine ends_attemptAll_cons_any ends_encode_deeds fun r₁ hr₁ => ?_
  rw [← hr₁]
  -- encoding makes no call; a mapping is given back with two, and the rest follows
  cases hm : v.mapping with
  | none =>
      refine (ends_giveBack_unmapped hm).mono ?_
      rintro o r₂ ⟨copied, freed, hr₂, hcloses⟩
      exact ⟨[], copied, freed, hr₂, hcloses⟩
  | some m =>
      rw [giveBack_mapped hm]
      refine ends_attemptAll_cons_any (P := fun r₂ =>
        ∃ o, r₂.host.deeds = r₁.host.deeds ++ [.unmap m o])
        (Traced.ends_record_any fun o _ _ => ⟨o, rfl⟩) ?_
      rintro r₂ ⟨o, hr₂⟩
      refine ends_attemptAll_cons_any (P := fun r₃ =>
        ∃ o', r₃.host.deeds = r₂.host.deeds ++ [.syncGpu m.buffer o'])
        (Traced.ends_record_any fun o' _ _ => ⟨o', rfl⟩) ?_
      rintro r₃ ⟨o', hr₃⟩
      refine (ends_giveBack_unmapped (v := { v with mapping := none }) rfl).mono ?_
      rintro _ r₄ ⟨copied, freed, hr₄, hcloses⟩
      refine ⟨[.unmap m o, .syncGpu m.buffer o'], copied, freed, ?_, ?_, hcloses.copied,
        hcloses.freed⟩
      · rw [hr₄, hr₃, hr₂]
        simp only [List.append_assoc, List.cons_append, List.nil_append]
      · rw [hm]
        exact ⟨o, o', rfl⟩

/-! ### The whole of it -/

variable {mapped copied freed : List Deed}

/-- What a view holds is given back by the requests by which it ends, and the record is in order. -/
lemma Accounted.orderly (hv : Accounted σ fb v ds) (hc : v.Closes mapped copied freed) :
    Orderly (ds ++ (mapped ++ (copied ++ freed))) := by
  -- the mapping is handed back, if there is one, and its buffer goes to the display
  have hunmapped : Tally v.mapping v.mapping (v.shadow.map (·.buffer)) none (ds ++ mapped) := by
    have ht := hv.tally
    have hback := hc.mapped
    cases hm : v.mapping with
    | none =>
        rw [hm] at ht hback
        rw [hback, List.append_nil]
        exact ht
    | some m =>
        rw [hm] at ht hback
        obtain ⟨o, o', rfl⟩ := hback
        have hback := (ht.unmap (o := o)).quiet (d := .syncGpu m.buffer o') trivial
          ⟨rfl, rfl, rfl, rfl⟩
        rwa [List.append_assoc] at hback
  rw [← List.append_assoc, ← List.append_assoc]
  -- the copies come after that, and the buffer that they are made from is freed last
  have hcopied := hc.copied
  have hfreed := hc.freed
  cases hs : v.shadow with
  | none =>
      rw [hs] at hcopied hfreed hunmapped
      rw [hcopied, hfreed, List.append_nil, List.append_nil]
      exact hunmapped.orderly
  | some sh =>
      rw [hs] at hcopied hfreed hunmapped
      obtain ⟨n, -, hcs⟩ := hcopied
      obtain ⟨o, rfl⟩ := hfreed
      exact (hunmapped.copies hcs.copies).free.orderly

variable (σ) in
/-- How a view writes back: it has the linear copy whose buffer was obtained when the view was
opened, if one was; it copies from that after its mapping was handed back, and the buffer of the
mapping to the display, which is that of the copy where the host maps what it is asked for; and it
copies one plane after the other. -/
structure WritesBack (v : View) (opening closing : List Deed) : Prop where
  shadow : opening.filterMap Deed.allocated? = (v.shadow.map (·.buffer)).toList
  after : Throughout (fun past d => d.copied? ≠ none → ∃ sh offset size access m,
    v.shadow = some sh ∧ .map sh.buffer offset size access (.ok m) ∈ opening ∧
      (∃ o, .unmap m o ∈ past) ∧ (∃ o, .syncGpu m.buffer o ∈ past) ∧
        (MapsAsked σ → m.buffer = sh.buffer)) [] closing
  planes : match v.shadow with
    | some sh => ∃ n ≤ v.framebuffer.numPlanes, closing.filterMap Deed.copied? =
        (List.range n).filterMap (v.framebuffer.planeCopy? sh.surface? v.framebuffer.surface?)
    | none => closing.filterMap Deed.copied? = []

/-- What was opened writes back in order. -/
lemma Accounted.writesBack (hv : Accounted σ fb v ds) (hopen : v.mapping ≠ none)
    (hc : v.Closes mapped copied freed) : v.WritesBack σ ds (mapped ++ (copied ++ freed)) := by
  obtain ⟨m, hm⟩ := Option.ne_none_iff_exists'.1 hopen
  have hmapped := hc.mapped
  have hcopied := hc.copied
  have hfreed := hc.freed
  rw [hm] at hmapped
  obtain ⟨o, o', rfl⟩ := hmapped
  refine ⟨hv.tally.allocated, ?_, ?_⟩
  · cases hs : v.shadow with
    | none =>
        rw [hs] at hcopied hfreed
        subst hcopied hfreed
        exact ⟨fun h => absurd rfl h, fun h => absurd rfl h, trivial⟩
    | some sh =>
        rw [hs] at hcopied hfreed
        obtain ⟨o'', rfl⟩ := hfreed
        obtain ⟨hown, offset, size, access, hmap⟩ := hv.own m sh hm hs
        -- only copies are asked about, and the mapping was handed back before the first of them
        refine throughout_append.2 ⟨⟨fun h => absurd rfl h, fun h => absurd rfl h, trivial⟩,
          throughout_append.2 ⟨throughout_of_forall fun past hpast d _ _ => ?_,
            fun h => absurd rfl h, trivial⟩⟩
        refine ⟨sh, offset, size, access, m, rfl, hmap, ⟨o, hpast.subset ?_⟩,
          ⟨o', hpast.subset ?_⟩, hown⟩
        · exact List.mem_cons_self
        · exact List.mem_cons_of_mem _ List.mem_cons_self
  · cases hs : v.shadow with
    | none =>
        rw [hs] at hcopied hfreed
        subst hcopied hfreed
        rfl
    | some sh =>
        rw [hs] at hcopied hfreed
        obtain ⟨n, hn, hcs⟩ := hcopied
        obtain ⟨o'', rfl⟩ := hfreed
        refine ⟨n, hn, ?_⟩
        rw [← hcs.planes, List.filterMap_append, List.filterMap_append]
        exact List.append_nil _

/-- Nothing is asked of the host when pixels are changed. -/
lemma ends_setPixels_deeds {bytes : Bytes} : Ends (v.setPixels bytes) r fun o r' =>
    r'.host.deeds = r.host.deeds ∧ ∃ sc, o = .ok { v with scratch := sc } := by
  rw [setPixels]
  split
  · exact ⟨rfl, _, rfl⟩
  · exact ⟨rfl, v.scratch, rfl⟩
  · exact ⟨rfl, v.scratch, rfl⟩

lemma ends_paintAll_deeds {edits : List Bytes} : Ends (v.paintAll edits) r fun o r' =>
    r'.host.deeds = r.host.deeds ∧ ∃ sc, o = .ok { v with scratch := sc } := by
  induction edits generalizing v r with
  | nil => exact ⟨rfl, v.scratch, rfl⟩
  | cons bytes edits ih =>
      rw [paintAll, List.foldlM_cons, ends_bind]
      refine ends_setPixels_deeds.mono ?_
      rintro o r' ⟨hr', sc, rfl⟩
      refine (ih (v := { v with scratch := sc })).mono ?_
      rintro o r'' ⟨hr'', sc', rfl⟩
      exact ⟨hr''.trans hr', sc', rfl⟩

/-- However a view is left, the same requests are made, and all that it holds is given back. -/
lemma Accounted.exists_closing (hv : Accounted σ fb v r.host.deeds) (hopen : v.mapping ≠ none) :
    ∃ closing, (∀ leave ∈ [finish, dispose],
        Ends (leave v) r fun _ r' => r'.host.deeds = r.host.deeds ++ closing) ∧
      Orderly (r.host.deeds ++ closing) ∧ v.WritesBack σ r.host.deeds closing := by
  have hends : Ends (Act.attemptAll v.closing) (v.ended r) _ := ends_self.and ends_closing_closes
  obtain ⟨o, r', hself, mapped, copied, freed, hr', hc⟩ := hends.exists_end
  have hclosing : Ends (Act.attemptAll v.closing) (v.ended r) fun _ r'' =>
      r''.host.deeds = r.host.deeds ++ (mapped ++ (copied ++ freed)) := by
    rw [Ends, hself]
    cases o <;> exact hr'
  let R : Traced σ → Prop := fun t => t.deeds = r.host.deeds ++ (mapped ++ (copied ++ freed))
  exact ⟨_, fun leave hleave => ends_leave (R := R) hv.unreleased hleave hclosing, hv.orderly hc,
    hv.writesBack hopen hc⟩

/-- **The requests of a view are in order**, on every host and whichever of them it refuses. Where
the view does not open, the record of the opening is in order. Where it does, and whatever is
painted, a view that is finished makes the same requests as one that is only dropped; with those the
whole record is in order, and the view writes back in order. -/
theorem acquire_orderly [Machine] (fb : Framebuffer) (edits : List Bytes) (r : Run σ) :
    Ends (acquire fb) (Traced.watch r) fun o t =>
      match o with
      | .error _ => Orderly t.host.deeds
      | .ok v => v.framebuffer = fb ∧ ∃ closing,
          (∀ leave ∈ [finish, dispose], Ends (v.paintAll edits >>= leave) t fun _ t' =>
            t'.host.deeds = t.host.deeds ++ closing) ∧
          Orderly (t.host.deeds ++ closing) ∧ v.WritesBack σ t.host.deeds closing := by
  rw [ends_acquire]
  split
  · exact Tally.nil.orderly
  refine (ends_opening_accounted (r := started fb (Traced.watch r)) .nil).mono ?_
  rintro o ⟨t, v⟩ ⟨hv, hopen⟩
  cases o with
  | error f =>
      refine (ends_dispose (R := fun t => Orderly t.deeds) hv.unreleased ?_).mono ?_
      · refine ends_closing_closes.mono ?_
        rintro _ t' ⟨mapped, copied, freed, ht', hc⟩
        rw [ht']
        exact hv.orderly hc
      · intro o t' horderly
        cases o <;> exact horderly
  | ok a =>
      -- painting makes no request, so that the view is accounted for as it was
      obtain ⟨o, t', hself, hdeeds, sc, rfl⟩ :=
        ((ends_self (x := v.paintAll edits) (s := t)).and ends_paintAll_deeds).exists_end
      have hv' : Accounted σ fb { v with scratch := sc } t'.host.deeds := by
        rw [hdeeds]
        exact ⟨hv.framebuffer, hv.unreleased, hv.tally, hv.own⟩
      obtain ⟨closing, hleave, horderly, hwrites⟩ := hv'.exists_closing (hopen ⟨a, rfl⟩)
      rw [hdeeds] at horderly hwrites
      refine ⟨hv.framebuffer, closing, fun leave hmem => ?_, horderly,
        ⟨hwrites.shadow, hwrites.after, hwrites.planes⟩⟩
      rw [ends_bind, Ends, hself, ← hdeeds]
      exact hleave leave hmem

/-- A host that is a store maps what it is asked for, whatever it refuses. -/
lemma mapsAsked_of_store [StoreHost σ] : MapsAsked σ := by
  intro h offset size access r
  have hmap : Does (σ := σ) (fun _ => False) (Backend.map h offset size access)
      (StoreHost.store r.host) fun o _ => ∀ m, o = .ok m → m.buffer = h :=
    does_map (fun _ _ => nofun) (fun _ => nofun) (fun _ _ _ => nofun) (fun _ _ _ => nofun)
      fun b m s _ _ _ hbuf _ _ _ m' hm' => Except.ok.inj hm' ▸ hbuf
  exact hmap.ends

/-- A store without buffers, which is watched, and will neither take the first mapping back nor make
the second copy. -/
def refusing : Run (Monitor Store) :=
  ⟨⟨Store.empty 0, [⟨.unmap, 0, 1⟩, ⟨.copy, 1, 1⟩], #[]⟩, #[]⟩

/-- One pixel in a tile that no mapping can undo, in as many bytes as it needs. -/
def tiledPixel : Framebuffer.Geometry :=
  { device := .standard, width := 1, height := 1, tiling := .yf, size := 4, stride := 4 }

/-- The pixel is copied when it is seen, and the copy is freed although it cannot be copied back. -/
theorem acquire_dot_orderly : ∃ (fb : Framebuffer) (t : Run (Monitor Store)) (v : View)
    (u : Run (Traced (Monitor Store))),
    MapsAsked (Monitor Store) ∧
      Framebuffer.create (PixelFormat.codeOf 'X' 'R' '2' '4') tiledPixel refusing = .ok fb t ∧
      acquire fb (Traced.watch t) = .ok v u ∧ v.framebuffer = fb ∧
      ∃ closing, (∀ leave ∈ [finish, dispose], Ends (v.paintAll [.empty] >>= leave) u
          fun _ u' => u'.host.deeds = u.host.deeds ++ closing) ∧
        Orderly (u.host.deeds ++ closing) ∧ v.WritesBack (Monitor Store) u.host.deeds closing ∧
        closing.map (fun d => (d.kind, d.outcome.isOk)) =
          [(.unmap, false), (.syncGpu, true), (.copy, false), (.free, true)] := by
  obtain ⟨fb, t, hcreate, v, u, hv, hfinish⟩ : ∃ fb t,
      Framebuffer.create (PixelFormat.codeOf 'X' 'R' '2' '4') tiledPixel refusing = .ok fb t ∧
        ∃ v u, acquire fb (Traced.watch t) = .ok v u ∧
          Ends (v.paintAll [.empty] >>= finish) u fun _ u' =>
            (u'.host.deeds.drop u.host.deeds.length).map (fun d => (d.kind, d.outcome.isOk)) =
              [(.unmap, false), (.syncGpu, true), (.copy, false), (.free, true)] := by
    decide +kernel
  obtain ⟨hfb, closing, hleave, horderly, hwrites⟩ := (acquire_orderly fb [.empty] t).of_ok hv
  obtain ⟨-, u', hdeeds, hkinds⟩ := ((hleave finish List.mem_cons_self).and hfinish).exists_end
  rw [hdeeds, List.drop_left] at hkinds
  exact ⟨fb, t, v, u, mapsAsked_of_store, hcreate, hv, hfb, closing, hleave, horderly, hwrites,
    hkinds⟩

end View

end Scanout
