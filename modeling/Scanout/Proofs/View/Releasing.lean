/-
The end of a view, whatever fails in it.

* `View.Complete`: all that a view holds once it is open, and `View.complete_of_acquire`;
* `Framebuffer.CopiesOut`: the planes are copied one after the other, up to the first that fails;
* `View.GivesBack`: the requests by which a view ends, in order;
* `View.reencode`: the planes that are mapped with the pixels converted back;
* `View.Ending`: how a view ends, with its first failure;
* `View.release_complete`: **every view ends so, whatever fails**: when it is finished the first
  failure is told, and when it is only dropped the first failure is logged.
-/
import Scanout.Proofs.Alarms
import Scanout.Proofs.Nv12.Room
import Scanout.Proofs.View.Orderly

namespace Scanout

variable {σ α β : Type} [Backend σ] {r r' : Run σ} {fb : Framebuffer} {v : View} {m : Mapping}

/-! ### What a view holds -/

/-- Where a step of an opening succeeds, the view meets a condition. -/
def Opening.Acquires (x : Opening σ α) (v : View) (P : α → View → Prop) : Prop :=
  ∀ r, Ends x (r, v) fun o p => ∀ a, o = .ok a → P a p.2

namespace Opening

variable {P : α → View → Prop} {Q : β → View → Prop}

omit [Backend σ] in
lemma Acquires.bind {x : Opening σ β} {f : β → Opening σ α} (hx : Acquires x v Q)
    (hf : ∀ b v', Q b v' → Acquires (f b) v' P) : Acquires (x >>= f) v P := by
  refine fun r => ends_bind.2 ((hx r).mono ?_)
  rintro o ⟨r', v'⟩ ho
  cases o with
  | ok b => exact hf b v' (ho b rfl) r'
  | error f => exact nofun

omit [Backend σ] in
/-- A step on the host leaves the view as it is. -/
lemma acquires_act_bind {x : Act σ β} {f : β → Opening σ α} (hf : ∀ b, Acquires (f b) v P) :
    Acquires (act x >>= f) v P := by
  have kept : Acquires (act x) v fun _ v' => v' = v :=
    fun r => ends_act.2 (ends_self.mono fun _ _ _ _ _ => rfl)
  refine kept.bind ?_
  rintro b v' rfl
  exact hf b

omit [Backend σ] in
lemma acquires_view_bind {f : View → Opening σ α} (hf : Acquires (f v) v P) :
    Acquires (view >>= f) v P :=
  fun r => ends_bind.2 (hf r)

omit [Backend σ] in
lemma acquires_acquired {f : View → View} {P : Unit → View → Prop} (h : P () (f v)) :
    Acquires (σ := σ) (acquired f) v P :=
  fun _ _ _ => h

end Opening

namespace View

open Opening

/-- All that a view on a framebuffer holds: a mapping, a linear copy where no mapping can undo the
tiling, and a converted image where there are several planes. -/
structure Complete (fb : Framebuffer) (m : Mapping) (v : View) : Prop where
  framebuffer : v.framebuffer = fb
  route : v.route = Route.of fb
  unreleased : v.released = false
  mapping : v.mapping = some m
  shadow : v.shadow ≠ none ↔ fb.tiling.needsBlit
  scratch : v.scratch ≠ none ↔ Route.of fb = .convert

lemma acquires_openMapping {h : Handle} {size : Nat} :
    Acquires (σ := σ) (openMapping h size) v fun _ v' => ∃ m, v' = { v with mapping := some m } :=
  acquires_act_bind fun _ => acquires_act_bind fun m => acquires_acquired ⟨m, rfl⟩

lemma acquires_openShadow :
    Acquires (σ := σ) (openShadow fb) v fun sh v' => v' = { v with shadow := some sh } := by
  refine acquires_act_bind fun layout => acquires_act_bind fun buffer => ?_
  refine (acquires_acquired (P := fun _ v' => v' = { v with shadow := some ⟨buffer, layout⟩ })
    rfl).bind ?_
  rintro - v' rfl
  refine acquires_act_bind fun _ => acquires_act_bind fun _ => ?_
  rintro r sh ⟨⟩
  rfl

lemma acquires_decode [Machine] :
    Acquires (σ := σ) decode v fun _ v' => ∃ sc, v' = { v with scratch := some sc } :=
  acquires_view_bind (acquires_act_bind fun _ => acquires_act_bind fun _ =>
    acquires_act_bind fun _ => acquires_acquired ⟨_, rfl⟩)

lemma acquires_openLinear : Acquires (σ := σ) openLinear (unopened fb) fun _ v' =>
    ∃ m sh, v' = { unopened fb with mapping := some m, shadow := sh } ∧
      (sh ≠ none ↔ fb.tiling.needsBlit) := by
  refine acquires_view_bind ?_
  show Acquires (if fb.tiling.needsBlit then _ else _) _ _
  split
  · next hblit =>
    refine acquires_openShadow.bind ?_
    rintro sh v' rfl
    refine fun r => (acquires_openMapping r).mono fun o p ho a ha => ?_
    obtain ⟨m, hm⟩ := ho a ha
    exact ⟨m, some sh, hm, iff_of_true nofun hblit⟩
  · next hblit =>
    refine fun r => (acquires_openMapping r).mono fun o p ho a ha => ?_
    obtain ⟨m, hm⟩ := ho a ha
    exact ⟨m, none, hm, iff_of_false (fun h => h rfl) hblit⟩

lemma acquires_opening [Machine] :
    Acquires (σ := σ) (opening fb) (unopened fb) fun _ v' => ∃ m, v'.Complete fb m := by
  refine acquires_openLinear.bind ?_
  rintro - v' ⟨m, sh, rfl, hshadow⟩
  split
  · next hroute =>
    refine fun r => (acquires_decode r).mono fun o p ho a ha => ?_
    obtain ⟨sc, hsc⟩ := ho a ha
    rw [hsc]
    exact ⟨m, rfl, rfl, rfl, rfl, hshadow, iff_of_true nofun hroute⟩
  · next hroute =>
    exact fun r _ _ => ⟨m, rfl, rfl, rfl, rfl, hshadow, iff_of_false (fun h => h rfl) hroute⟩

/-- A view that was opened is complete, on whatever host. -/
lemma complete_of_acquire [Machine] (h : acquire fb r = .ok v r') : ∃ m, v.Complete fb m := by
  have hends : Ends (acquire fb) r fun o _ =>
      match o with
      | .ok v => ∃ m, v.Complete fb m
      | .error _ => True := by
    rw [ends_acquire]
    split
    · trivial
    refine (acquires_opening (started fb r)).mono ?_
    rintro o ⟨r', v'⟩ ho
    cases o with
    | ok a => exact ho a rfl
    | error f =>
        refine ends_self.mono fun o r'' _ => ?_
        cases o <;> trivial
  exact hends.of_ok h

/-- The pixels of a view can be changed. -/
lemma exists_setPixels (v : View) (bytes : Bytes) (r : Run σ) :
    ∃ r', v.setPixels bytes r = .ok (v.painted bytes) r' := by
  rw [setPixels, View.painted]
  cases v.scratch with
  | some sc => exact ⟨r, rfl⟩
  | none =>
      cases v.mapping with
      | some m => exact ⟨_, rfl⟩
      | none => exact ⟨r, rfl⟩

/-- A view whose converted image has changed is as complete. -/
lemma Complete.painted (hv : v.Complete fb m) (bytes : Bytes) :
    (v.painted bytes).Complete fb m := by
  rw [View.painted]
  cases hsc : v.scratch with
  | none => exact hv
  | some sc =>
      have converted : Route.of fb = .convert := hv.scratch.1 (hsc ▸ Option.some_ne_none sc)
      exact ⟨hv.framebuffer, hv.route, hv.unreleased, hv.mapping, hv.shadow,
        iff_of_true (Option.some_ne_none _) converted⟩

/-- Whatever is painted, and however often, a view stays complete. -/
lemma Complete.exists_paintAll (hv : v.Complete fb m) (edits : List Bytes) (r : Run σ) :
    ∃ v' r', v.paintAll edits r = .ok v' r' ∧ v'.Complete fb m := by
  induction edits generalizing v r with
  | nil => exact ⟨v, r, rfl, hv⟩
  | cons bytes edits ih =>
      obtain ⟨r₁, hset⟩ := v.exists_setPixels bytes r
      obtain ⟨v', r', hpaint, hv'⟩ := ih (hv.painted bytes) r₁
      refine ⟨v', r', ?_, hv'⟩
      rw [← hpaint, paintAll, List.foldlM_cons]
      show EStateM.bind _ _ r = _
      rw [EStateM.bind, hset]
      rfl

end View

/-! ### Copies of the planes -/

namespace Framebuffer

variable {src dst : Nat → Option Surface} {plane : Nat}

/-- Copies of the planes, one after the other, of all of them or up to the first that fails. -/
def CopiesOut (fb : Framebuffer) (src dst : Nat → Option Surface) (cs : List Deed) : Prop :=
  ∃ n ≤ fb.numPlanes, ∃ o, fb.Copies src dst n cs ∧ Straight cs o ∧
    (o = .ok () → n = fb.numPlanes)

lemma copyPlane_eq {ss ds : Surface} {area : Area}
    (hp : fb.planeCopy? src dst plane = some (ss, ds, area)) :
    fb.copyPlane (σ := σ) src dst plane = Backend.copy ss ds area := by
  obtain ⟨_, hs, hp⟩ := Option.bind_eq_some_iff.1 hp
  obtain ⟨_, hd, hp⟩ := Option.bind_eq_some_iff.1 hp
  obtain ⟨_, ha, hp⟩ := Option.bind_eq_some_iff.1 hp
  cases hp
  rw [copyPlane, hs, hd, ha]
  rfl

/-- Where there are surfaces for all planes, their copies are requests. -/
lemma amounts_copyPlanes (hplanes : ∀ plane < fb.numPlanes, fb.planeCopy? src dst plane ≠ none) :
    Amounts (σ := σ) (fb.copyPlanes src dst) (fb.CopiesOut src dst) := by
  intro r
  rw [copyPlanes_eq]
  -- the invariant: one copy for each plane so far, and all of them were made
  refine Ends.forM_range (fun n r' => ∃ cs, fb.Copies src dst n cs ∧ Straight cs (.ok ()) ∧
    Traced.Follows r cs r') ⟨[], .zero, .nil, .refl r⟩ ?_ ?_
  · rintro n hn r₁ ⟨cs, hcs, straight, follows⟩
    obtain ⟨⟨ss, ds, area⟩, hp⟩ := Option.ne_none_iff_exists'.1 (hplanes n hn)
    rw [copyPlane_eq hp]
    refine Traced.ends_record.2 (Act.ends_yields.mono fun o t hy => ?_)
    have next : Traced.Follows r₁ [.copy ss ds area o]
        ⟨⟨t.host, r₁.host.deeds ++ [.copy ss ds area o]⟩, t.log⟩ := ⟨rfl, t, hy, rfl⟩
    cases o with
    | ok _ =>
        exact ⟨_, hcs.next hp, straight.append (.cons rfl .nil), follows.trans next⟩
    | error f =>
        -- the loop ends here, and what has failed is the last copy on record
        have stopped : Straight (cs ++ [.copy ss ds area (.error f)]) (.error f) :=
          straight.append (.last rfl)
        exact ⟨_, ⟨n + 1, hn, _, hcs.next hp, stopped, nofun⟩, stopped.first.symm,
          follows.trans next⟩
  · rintro r' ⟨cs, hcs, straight, follows⟩
    exact ⟨cs, ⟨_, Nat.le_refl _, _, hcs, straight, fun _ => rfl⟩, straight.first.symm, follows⟩

/-- A registered format has room for its planes. -/
lemma numPlanes_le (hf : fb.format ∈ PixelFormat.registry) : fb.numPlanes ≤ maxPlanes := by
  have all : ∀ f ∈ PixelFormat.registry, f.numPlanes ≤ maxPlanes := by decide
  exact all fb.format hf

/-- Every plane of a registered format has samples. -/
lemma area?_ne_none (hf : fb.format ∈ PixelFormat.registry) (hp : plane < fb.numPlanes) :
    fb.area? plane ≠ none := by
  have all : ∀ f ∈ PixelFormat.registry, ∀ plane < f.numPlanes, f.planeBpp? plane ≠ none := by
    decide
  obtain ⟨bpp, hbpp⟩ := Option.ne_none_iff_exists'.1 (all fb.format hf plane hp)
  have hroom := numPlanes_le hf
  rw [area?, if_neg (by omega), if_pos hp, hbpp]
  exact Option.some_ne_none _

/-- Every plane of a registered format can be copied back. -/
lemma planeCopy?_ne_none {sh : Shadow} (hf : fb.format ∈ PixelFormat.registry)
    (hp : plane < fb.numPlanes) : fb.planeCopy? sh.surface? fb.surface? plane ≠ none := by
  have hroom : plane < maxPlanes := Nat.lt_of_lt_of_le hp (numPlanes_le hf)
  obtain ⟨area, harea⟩ := Option.ne_none_iff_exists'.1 (area?_ne_none hf hp)
  rw [planeCopy?, sh.surface?_eq hroom, fb.surface?_eq hroom, harea]
  exact Option.some_ne_none _

end Framebuffer

/-! ### The end -/

namespace View

/-- The requests by which a view ends: its mapping is handed back, and then its buffer to the
display; a linear copy is copied back and given up. -/
def GivesBack (v : View) (m : Mapping) (ds : List Deed) : Prop :=
  ∃ o o' copied freed, ds = .unmap m o :: .syncGpu m.buffer o' :: (copied ++ freed) ∧
    match v.shadow with
    | some sh => v.framebuffer.CopiesOut sh.surface? v.framebuffer.surface? copied ∧
        ∃ o'', freed = [.free sh.buffer o'']
    | none => copied = [] ∧ freed = []

/-- They are made whatever becomes of those before. -/
lemma amountsAll_giveBack (hm : v.mapping = some m)
    (hf : v.framebuffer.format ∈ PixelFormat.registry) :
    AmountsAll (σ := σ) v.giveBack (v.GivesBack m) := by
  have unmaps : Amounts (σ := σ) (Backend.unmap m) fun ds => ∃ o, ds = [.unmap m o] :=
    amounts_record (fun _ => rfl) fun _ _ _ => id
  have syncs : Amounts (σ := σ) (Backend.syncGpu m.buffer) fun ds =>
      ∃ o, ds = [.syncGpu m.buffer o] :=
    amounts_record (fun _ => rfl) fun _ _ _ => id
  rw [giveBack_mapped hm]
  cases hs : v.shadow with
  | none =>
      simp only [giveBack, List.nil_append]
      refine (amountsAll_cons unmaps (amountsAll_cons syncs amountsAll_nil)).mono ?_
      -- what is on record is one entry for each call, in the order of the calls
      rintro _ ⟨_, _, rfl, ⟨o, rfl⟩, _, _, rfl, ⟨o', rfl⟩, rfl⟩
      exact ⟨o, o', [], [], rfl, by rw [hs]; exact ⟨rfl, rfl⟩⟩
  | some sh =>
      have frees : Amounts (σ := σ) (Backend.free sh.buffer)
          fun ds => ∃ o, ds = [.free sh.buffer o] :=
        amounts_record (fun _ => rfl) fun _ _ _ => id
      have copies : Amounts (σ := σ)
          (v.framebuffer.copyPlanes sh.surface? v.framebuffer.surface?) _ :=
        Framebuffer.amounts_copyPlanes fun _ hp => Framebuffer.planeCopy?_ne_none hf hp
      simp only [giveBack, List.nil_append]
      refine (amountsAll_cons unmaps (amountsAll_cons syncs (amountsAll_cons copies
        (amountsAll_cons frees amountsAll_nil)))).mono ?_
      rintro _ ⟨_, _, rfl, ⟨o, rfl⟩, _, _, rfl, ⟨o', rfl⟩, copied, _, rfl, hcopied, freed, _, rfl,
        ⟨o'', rfl⟩, rfl⟩
      exact ⟨o, o', copied, _, rfl, by rw [hs]; exact ⟨hcopied, o'', rfl⟩⟩

/-- The host with the pixels converted back to the planes that are mapped, where they were
converted; or the reason why they cannot be. -/
def reencode (v : View) (m : Mapping) (host : σ) : Checked σ :=
  match v.scratch with
  | some sc => (Nv12.encode v.framebuffer.width v.framebuffer.height sc.data sc.stride
      (Backend.window host m) v.placement).map fun planes => Backend.setWindow m planes host
  | none => .ok host

/-- The host as it is left by that. -/
def reencoded (v : View) (m : Mapping) (host : σ) : σ :=
  match v.reencode m host with
  | .ok host => host
  | .error _ => host

/-- Whether the pixels were converted back. -/
def encoding (v : View) (m : Mapping) (host : σ) : Checked Unit :=
  (v.reencode m host).map fun _ => ()

lemma encoding_ne_crash {host : σ} : v.encoding m host ≠ .error .crash := by
  rw [encoding, reencode]
  split
  · next sc _ =>
    have crashless := Nv12.encode_ne_crash v.framebuffer.width v.framebuffer.height sc.data
      sc.stride (Backend.window host m) v.placement
    cases h : Nv12.encode v.framebuffer.width v.framebuffer.height sc.data sc.stride
        (Backend.window host m) v.placement with
    | ok planes => exact nofun
    | error f =>
        rintro ⟨⟩
        exact crashless h
  · exact nofun

/-- Nothing is asked of the host for a conversion back. -/
lemma ends_encode_reencoded {r : Run (Traced σ)} (hm : v.mapping = some m) :
    Ends v.encode r fun o r' => o = v.encoding m r.host.host ∧
      r' = ⟨⟨v.reencoded m r.host.host, r.host.deeds⟩, r.log⟩ := by
  rw [encode, encoding, reencoded, reencode, hm]
  cases v.scratch with
  | none => exact ⟨rfl, rfl⟩
  | some sc =>
      show Ends (Act.host >>= _) r _
      rw [ends_bind, ends_host]
      dsimp only
      have seen : Backend.window r.host m = Backend.window r.host.host m := rfl
      rw [ends_bind, ends_ofChecked, seen]
      cases Nv12.encode v.framebuffer.width v.framebuffer.height sc.data sc.stride
          (Backend.window r.host.host m) v.placement with
      | ok planes => exact ⟨rfl, rfl⟩
      | error f => exact ⟨rfl, rfl⟩

/-- How a view ends, from a host on: the pixels are converted back; then the requests by which it
ends are met, whatever became of that and of each other; and the first failure among all these is
what the end comes to. -/
structure Ending (v : View) (m : Mapping) (r : Run σ) (ds : List Deed) (o : Checked Unit)
    (r' : Run σ) : Prop where
  encodes : v.encoding m r.host ≠ .error .crash
  requests : v.GivesBack m ds
  met : Replays ds ⟨v.reencoded m r.host, r.log⟩ r'
  first : o = Checked.first (v.encoding m r.host :: ds.map Deed.outcome)

/-- The steps by which a view ends are made to the end. -/
lemma ends_closing_ending {r : Run (Traced σ)} (hm : v.mapping = some m)
    (hf : v.framebuffer.format ∈ PixelFormat.registry) :
    Ends (Act.attemptAll v.closing) r fun o r' => ∃ ds first, o = .ok first ∧
      r'.host.deeds = r.host.deeds ++ ds ∧
      v.Ending m (Traced.unwatched r) ds first (Traced.unwatched r') := by
  rw [closing_eq, ends_attemptAll_cons]
  refine (ends_encode_reencoded hm).mono ?_
  rintro _ _ ⟨rfl, rfl⟩
  refine (amountsAll_giveBack hm hf _).mono ?_
  rintro _ r' ⟨ds, hds, rfl, follows⟩
  refine ⟨ds, _, rfl, follows.deeds, encoding_ne_crash, hds, follows.ran, ?_⟩
  show _ = Checked.first (v.encoding m r.host.host :: _)
  cases v.encoding m r.host.host <;> rfl

section Leaving

variable {r r' : Run σ} {o : Checked Unit}

/-- What giving a view up comes to, by the first failure of its end and what that leaves: an error
is logged and goes no further. -/
def GivesUp (v : View) (r : Run σ) (first : Checked Unit) (r' : Run σ) : Prop :=
  match first with
  | .ok _ => v.dispose.Yields r (.ok ()) r'
  | .error (.error e) => v.dispose.Yields r (.ok ())
      ⟨r'.host, r'.log.push (.closingFailed v.framebuffer.buffer e)⟩
  | .error .crash => v.dispose.Yields r (.error .crash) r'

/-- A view is released by its end, and nothing is left to do. -/
lemma ends_release (hr : v.released = false)
    (h : Act.attemptAll v.closing (v.ended r) = .ok o r')
    {Q : Checked (Checked Unit × View) → Run σ → Prop}
    (hQ : ∀ v', v'.released = true → Q (.ok (o, v')) r') : Ends v.release r Q := by
  rw [release]
  rw [if_neg (hr ▸ Bool.false_ne_true), ends_bind, ends_emit]
  show Ends (Act.attemptAll v.closing >>= _) (v.ended r) Q
  rw [ends_bind, Ends, h]
  exact hQ _ rfl

/-- When a view is finished its end is made, and the first failure is told. -/
lemma finish_yields (hr : v.released = false)
    (h : Act.attemptAll v.closing (v.ended r) = .ok o r') : v.finish.Yields r o r' := by
  refine Act.yields_of_ends (ends_bind.2 (ends_release hr h fun v' hv' => ?_))
  show Ends (v'.dispose >>= fun _ => Act.ofChecked o) r' _
  rw [dispose, release]
  rw [if_pos hv']
  cases o <;> exact ⟨rfl, rfl⟩

/-- When a view is given up its end is made, and the first failure is logged. -/
lemma givesUp (hr : v.released = false)
    (h : Act.attemptAll v.closing (v.ended r) = .ok o r') : v.GivesUp r o r' := by
  rcases o with (e | _) | _
  · show v.dispose.Yields r (.ok ()) _
    exact Act.yields_of_ends (ends_bind.2 (ends_release hr h fun _ _ => ⟨rfl, rfl⟩))
  · show v.dispose.Yields r (.error .crash) r'
    exact Act.yields_of_ends (ends_bind.2 (ends_release hr h fun _ _ => ⟨rfl, rfl⟩))
  · show v.dispose.Yields r (.ok ()) r'
    exact Act.yields_of_ends (ends_bind.2 (ends_release hr h fun _ _ => ⟨rfl, rfl⟩))

/-- The error that is logged for the first failure of an end. -/
def raised (buffer : Handle) : Checked Unit → List Event
  | .error (.error e) => [.closingFailed buffer e]
  | _ => []

/-- Where the end itself logs no error, there is one for its first failure when a view is given up.
-/
lemma GivesUp.alarms (h : v.GivesUp r o r') (same : alarms r'.log = alarms r.log) :
    Ends v.dispose r fun _ r'' =>
      alarms r''.log = Scanout.alarms r.log ++ raised v.framebuffer.buffer o := by
  rcases o with (e | _) | _
  · have hd : v.dispose.Yields r (.ok ()) _ := h
    refine hd.ends ?_
    rw [alarms_push_error rfl, same]
    rfl
  · have hd : v.dispose.Yields r (.error .crash) r' := h
    exact hd.ends (same.trans (List.append_nil _).symm)
  · have hd : v.dispose.Yields r (.ok ()) r' := h
    exact hd.ends (same.trans (List.append_nil _).symm)

end Leaving

/-- **A view ends to the end.** A view opens on a framebuffer of a registered format, which every
framebuffer has that was made, on whatever host; and whatever is painted it can be ended. When it is
finished its pixels are converted back and then its requests are made, all of them in order and
whatever becomes of any, and the first failure among all these is told. When it is only given up the
host is left the same, with the same requests on record, and the first failure is logged. On a host
whose requests log no error, none is logged when the view is finished, and one, for the first
failure, when it is given up. -/
theorem release_complete [Machine] (hformat : fb.format ∈ PixelFormat.registry) {u : Run σ}
    {t : Run (Traced σ)} (hacquire : acquire fb (Traced.watch u) = .ok v t) (edits : List Bytes) :
    ∃ v' t' m ds first w, v.paintAll edits t = .ok v' t' ∧ v'.Complete fb m ∧
      v'.Ending m ⟨t'.host.host, t'.log.push (.closing (Route.of fb) fb.buffer)⟩ ds first
        ⟨w.host.host, w.log⟩ ∧
      w.host.deeds = t'.host.deeds ++ ds ∧ v'.finish.Yields t' first w ∧ v'.GivesUp t' first w ∧
      (Hushed σ → alarms w.log = alarms t'.log ∧ Ends v'.dispose t' fun _ w' =>
        alarms w'.log = alarms t'.log ++ raised fb.buffer first) := by
  -- all that the view holds is known from its opening, and painting changes none of it
  obtain ⟨m, hv⟩ := complete_of_acquire hacquire
  obtain ⟨v', t', hpaint, hv'⟩ := hv.exists_paintAll edits t
  have hends : Ends (Act.attemptAll v'.closing) (v'.ended t') _ :=
    Act.ends_yields.and (ends_closing_ending hv'.mapping (hv'.framebuffer ▸ hformat))
  obtain ⟨_, w, hclosing, ds, first, rfl, hdeeds, hending⟩ := hends.exists_end
  have hlog : v'.ended t' =
      ⟨t'.host, t'.log.push (.closing (Route.of fb) fb.buffer)⟩ := by
    rw [ended, hv'.route, hv'.framebuffer]
  rw [hlog] at hending hdeeds
  -- both ways out of the view make that one end
  have hgiven : v'.GivesUp t' first w := givesUp hv'.unreleased hclosing
  refine ⟨v', t', m, ds, first, w, hpaint, hv', hending, hdeeds,
    finish_yields hv'.unreleased hclosing, hgiven, fun hushed => ?_⟩
  have same : alarms w.log = alarms t'.log :=
    (hushed.replays hending.met).trans (alarms_push_other (by simp [Event.level]))
  exact ⟨same, hv'.framebuffer ▸ hgiven.alarms same⟩

/-- Neither the mapping nor the copy of a tiled pixel is given back as it should be, and the rest of
the end is made all the same; that of the mapping is the first failure. -/
theorem release_dot_complete : ∃ (fb : Framebuffer) (u : Run (Monitor Store)) (v : View)
    (t : Run (Traced (Monitor Store))),
    Framebuffer.create (PixelFormat.codeOf 'X' 'R' '2' '4') tiledPixel refusing = .ok fb u ∧
      fb.format ∈ PixelFormat.registry ∧ acquire fb (Traced.watch u) = .ok v t ∧
      ∃ v' t' m ds first w, v.paintAll [⟨#[0, 0, 255, 0]⟩] t = .ok v' t' ∧ v'.Complete fb m ∧
        v'.Ending m ⟨t'.host.host, t'.log.push (.closing (Route.of fb) fb.buffer)⟩ ds first
          ⟨w.host.host, w.log⟩ ∧
        w.host.deeds = t'.host.deeds ++ ds ∧ v'.finish.Yields t' first w ∧ v'.GivesUp t' first w ∧
        (alarms w.log = alarms t'.log ∧ Ends v'.dispose t' fun _ w' =>
          alarms w'.log = alarms t'.log ++ raised fb.buffer first) ∧
        ds.map (fun d => (d.kind, d.outcome.isOk)) =
          [(.unmap, false), (.syncGpu, true), (.copy, false), (.free, true)] := by
  obtain ⟨fb, u, hcreate, hformat, v, t, hv, v', t', hpaint, hfinish⟩ : ∃ fb u,
      Framebuffer.create (PixelFormat.codeOf 'X' 'R' '2' '4') tiledPixel refusing = .ok fb u ∧
        fb.format ∈ PixelFormat.registry ∧ ∃ v t, acquire fb (Traced.watch u) = .ok v t ∧
          ∃ v' t', v.paintAll [⟨#[0, 0, 255, 0]⟩] t = .ok v' t' ∧ Ends v'.finish t' fun _ w =>
            (w.host.deeds.drop t'.host.deeds.length).map (fun d => (d.kind, d.outcome.isOk)) =
              [(.unmap, false), (.syncGpu, true), (.copy, false), (.free, true)] := by
    -- the run itself; its kinds and outcomes are then those of the calls that are spoken of
    decide +kernel
  obtain ⟨_, _, m, ds, first, w, hpaint', hv', hending, hdeeds, hyields, hgiven, hushed⟩ :=
    release_complete hformat hv [⟨#[0, 0, 255, 0]⟩]
  cases hpaint.symm.trans hpaint'
  have hkinds := hfinish.of_yields hyields
  rw [hdeeds, List.drop_left] at hkinds
  exact ⟨fb, u, v, t, hcreate, hformat, hv, v', t', m, ds, first, w, hpaint, hv', hending, hdeeds,
    hyields, hgiven, hushed (hushed_monitor hushed_store), hkinds⟩

end View

end Scanout
