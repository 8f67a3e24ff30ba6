/-
What a view has acquired, and how it is given back.

* `Store.Settles`: what is left of a store when a view on one of its buffers has ended;
* `View.Held`: a store with what a view has acquired over it, in one buffer: the framebuffer's own,
  mapped, or a linear copy, mapped or not;
* `Framebuffer.does_copyPlanes`: copies of all planes change the bytes of one buffer at most;
* `View.does_giveBack`, `View.does_closing`: **whatever a view has acquired, and whatever requests
  are refused, the end of the view gives everything back**, but for a copy whose return is refused.
-/
import Scanout.Proofs.Store.Requests
import Scanout.Proofs.Store.Rows

namespace Scanout

/-- All of a buffer but its bytes, of which the number counts. -/
def Buffer.shape (b : Buffer) : Nat × Tiling × Nat × Option Mapping :=
  (b.bytes.size, b.tiling, b.stride, b.mapping)

/-- Buffers of one shape differ in their bytes at most. -/
lemma Buffer.eq_of_shape {b b' : Buffer} (hshape : b'.shape = b.shape) :
    b' = { b with bytes := b'.bytes } := by
  obtain ⟨bytes, tiling, stride, mapping⟩ := b'
  simp only [Buffer.shape, Prod.mk.injEq] at hshape
  obtain ⟨-, rfl, rfl, rfl⟩ := hshape
  rfl

/-- What is left of a store when a view on one of its buffers has ended: the other buffers are as
before, no buffer is new where every return was let through, and the one buffer has changed in its
bytes at most, of which a condition tells how. -/
structure Store.Settles (freed : Prop) (h : Handle) (P : Bytes → Bytes → Prop) (s s' : Store) :
    Prop where
  other : ∀ k ≠ h, ∀ b, s.buffer? k = some b → s'.buffer? k = some b
  gone : freed → ∀ k, s.buffer? k = none → s'.buffer? k = none
  self : ∀ b, s.buffer? h = some b →
    ∃ b', s'.buffer? h = some b' ∧ b'.shape = b.shape ∧ P b.bytes b'.bytes

variable {σ : Type} [Backend σ] [StoreHost σ] {lets : CallKind → Prop} {s s₀ s' s'' : Store}
  {h : Handle} {P : Bytes → Bytes → Prop} {freed : Prop}

namespace Store.Settles

/-- A store that is the same is settled. -/
lemma of_same (hP : ∀ b, s.buffer? h = some b → P b.bytes b.bytes)
    (same : s'.buffer? = s.buffer?) : s.Settles freed h P s' := by
  refine ⟨fun k _ b hb => ?_, fun _ k hk => ?_, fun b hb => ⟨b, ?_, rfl, hP b hb⟩⟩
  all_goals rw [same]; assumption

/-- Where no byte has changed the buffer is as it was. -/
lemma unchanged {b : Buffer} (hs : s.Settles freed h (fun c d => d = c) s')
    (hb : s.buffer? h = some b) : s'.buffer? h = some b := by
  obtain ⟨b', hb', hshape, hbytes⟩ := hs.self b hb
  rw [hb', Buffer.eq_of_shape hshape, hbytes]

/-- A further change of the bytes. -/
lemma sets {b : Buffer} {bytes : Bytes} (hs : s.Settles freed h P s') (hb : s'.buffer? h = some b)
    (hsets : s'.Sets h (some { b with bytes }) s'') (hsize : bytes.size = b.bytes.size)
    (hP : ∀ c, s.buffer? h = some c → P c.bytes b.bytes → P c.bytes bytes) :
    s.Settles freed h P s'' := by
  refine ⟨fun k hk c hc => ?_, fun hf k hk => ?_, fun c hc => ?_⟩
  · rw [hsets.other hk]
    exact hs.other k hk c hc
  · have hne : k ≠ h := by
      rintro rfl
      simp [hs.gone hf k hk] at hb
    rw [hsets.other hne]
    exact hs.gone hf k hk
  · obtain ⟨c', hc', hshape, hPc⟩ := hs.self c hc
    cases hc'.symm.trans hb
    refine ⟨_, hsets.self, ?_, hP c hc hPc⟩
    rw [← hshape]
    simp only [Buffer.shape, hsize]

end Store.Settles

/-! ### Copies of all planes -/

namespace Framebuffer

/-- The copy of one plane. -/
def copyPlane (fb : Framebuffer) (src dst : Nat → Option Surface) (plane : Nat) : Act σ Unit := do
  let src ← Act.ofChecked (Checked.need (src plane))
  let dst ← Act.ofChecked (Checked.need (dst plane))
  let area ← Act.ofChecked (Checked.need (fb.area? plane))
  Backend.copy src dst area

omit [StoreHost σ] in
lemma copyPlanes_eq (fb : Framebuffer) (src dst : Nat → Option Surface) :
    fb.copyPlanes (σ := σ) src dst = (List.range fb.numPlanes).forM (fb.copyPlane src dst) :=
  rfl

variable {fb : Framebuffer} {src dst : Nat → Option Surface}

lemma does_copyPlane {plane : Nat} {Q : Checked Unit → Store → Prop}
    (crashed : src plane = none ∨ dst plane = none ∨ fb.area? plane = none → Q (.error .crash) s)
    (copies : ∀ ss ds area, src plane = some ss → dst plane = some ds → fb.area? plane = some area →
      Does (σ := σ) lets (Backend.copy ss ds area) s Q) :
    Does (σ := σ) lets (fb.copyPlane src dst plane) s Q := by
  rw [copyPlane]
  refine does_bind (does_ofChecked ?_)
  cases hs : src plane with
  | none => exact crashed (.inl hs)
  | some ss =>
      refine does_bind (does_ofChecked ?_)
      cases hd : dst plane with
      | none => exact crashed (.inr (.inl hd))
      | some ds =>
          refine does_bind (does_ofChecked ?_)
          cases ha : fb.area? plane with
          | none => exact crashed (.inr (.inr ha))
          | some area => exact copies ss ds area hs hd ha

/-- Copies of all planes into one buffer change its bytes at most, in a way that the copy of every
plane keeps to. -/
lemma does_copyPlanes (hdst : ∀ plane ds, dst plane = some ds → ds.buffer = h)
    (start : ∀ c, s.buffer? h = some c → P c.bytes c.bytes)
    (keeps : ∀ c, s.buffer? h = some c → ∀ plane ss ds area, src plane = some ss →
      dst plane = some ds → fb.area? plane = some area →
      ∀ a bytes, (ss.buffer ≠ h → s.buffer? ss.buffer = some a) → P c.bytes bytes →
        P c.bytes (Store.copied ss ds area a.bytes bytes).1) :
    Does (σ := σ) lets (fb.copyPlanes src dst) s fun _ s' => s.Settles True h P s' := by
  rw [copyPlanes_eq]
  refine Does.forM_range (fun _ s' => s.Settles True h P s') (.of_same start rfl) ?_
    fun s' hs' => hs'
  intro plane _ s' hs'
  -- a copy that is not made leaves the store as it is, and one that is made changes bytes
  suffices hone : Does (σ := σ) lets (fb.copyPlane src dst plane) s' fun _ s'' =>
      s.Settles True h P s'' from hone.mono fun o s'' ho => by cases o <;> exact ho
  refine does_copyPlane (fun _ => hs') ?_
  intro ss ds area hss hds ha
  refine does_copy (fun _ _ => hs') (fun _ _ => hs') ?_
  intro a b s'' ready hsets
  rw [hdst plane ds hds] at hsets
  have hb : s'.buffer? h = some b := hdst plane ds hds ▸ ready.target
  refine hs'.sets hb hsets Store.size_scatter ?_
  intro c hc hP
  refine keeps c hc plane ss ds area hss hds ha a b.bytes (fun hne => ?_) hP
  -- a source is one of the buffers that there were, none of which has changed
  cases hold : s.buffer? ss.buffer with
  | none => exact absurd (hs'.gone trivial _ hold) (ready.source ▸ nofun)
  | some a' => exact (hs'.other _ hne a' hold).symm.trans ready.source

end Framebuffer

/-! ### What a view has acquired -/

namespace View

/-- The handle of the buffer that a view works on: that of the linear copy, if there is one. -/
def target (v : View) : Handle :=
  match v.shadow with
  | some s => s.buffer
  | none => v.framebuffer.buffer

/-- A store is another one with what a view has acquired over it, in the buffer that the view works
on. A linear copy is new; the buffer of the framebuffer has been mapped at most, and its bytes may
have changed since. -/
structure Held (v : View) (s₀ : Store) (b : Buffer) (s : Store) : Prop where
  sets : s₀.Sets v.target (some b) s
  mapped : b.mapping = v.mapping
  own : ∀ m, v.mapping = some m → m.buffer = v.target
  fresh : v.shadow ≠ none → s₀.buffer? v.target = none
  kept : v.shadow = none → ∃ b₀, s₀.buffer? v.target = some b₀ ∧
    ({ b with mapping := none } : Buffer).shape = b₀.shape

/-- What a view has acquired, if anything. -/
inductive Acquired (v : View) (s₀ s : Store) : Prop where
  | nothing (hm : v.mapping = none) (hs : v.shadow = none) (same : s.buffer? = s₀.buffer?)
  | held (b : Buffer) (hv : v.Held s₀ b s)

variable {v : View} {b : Buffer}

namespace Held

lemma self (hv : v.Held s₀ b s) : s.buffer? v.target = some b :=
  hv.sets.self

lemma congr (hv : v.Held s₀ b s) (same : s'.buffer? = s.buffer?) : v.Held s₀ b s' :=
  { hv with sets := fun k => same ▸ hv.sets k }

/-- The bytes may change. -/
lemma paint {bytes : Bytes} (hv : v.Held s₀ b s) (hsize : bytes.size = b.bytes.size)
    (hsets : s.Sets v.target (some { b with bytes }) s') : v.Held s₀ { b with bytes } s' where
  sets := hv.sets.trans hsets
  mapped := hv.mapped
  own := hv.own
  fresh := hv.fresh
  kept hn := by
    obtain ⟨b₀, hb₀, hshape⟩ := hv.kept hn
    refine ⟨b₀, hb₀, ?_⟩
    rw [← hshape]
    simp only [Buffer.shape, hsize]

/-- The mapping may end. -/
lemma unmap (hv : v.Held s₀ b s) (hsets : s.Sets v.target (some { b with mapping := none }) s') :
    ({ v with mapping := none } : View).Held s₀ { b with mapping := none } s' where
  sets := hv.sets.trans hsets
  mapped := rfl
  own := nofun
  fresh := hv.fresh
  kept := hv.kept

/-- What is seen through the mapping. -/
lemma window {m : Mapping} (hv : v.Held s₀ b s) (hm : v.mapping = some m) :
    s.window m = b.bytes.slice m.offset m.len :=
  Store.window_of_mapped (hv.own m hm ▸ hv.self) (hv.mapped.trans hm)

/-- What is seen through the mapping may change. -/
lemma setWindow {m : Mapping} (hv : v.Held s₀ b s) (hm : v.mapping = some m) (bytes : Bytes) :
    v.Held s₀ { b with bytes := b.bytes.overwrite m.offset (bytes.slice 0 m.len) }
      (s.setWindow m bytes) := by
  have ht := hv.own m hm
  refine hv.paint (Bytes.size_overwrite ..) (ht ▸ Store.sets_setWindow ?_ (hv.mapped.trans hm))
  rw [ht]
  exact hv.self

/-- When nothing but bytes is left of what was acquired, the store is settled. -/
lemma settles (hv : v.Held s₀ b s) (hm : v.mapping = none) (hs : v.shadow = none)
    (hP : ∀ b₀, s₀.buffer? v.target = some b₀ → P b₀.bytes b.bytes) :
    s₀.Settles freed v.framebuffer.buffer P s := by
  obtain ⟨b₀, hb₀, hshape⟩ := hv.kept hs
  have ht : v.target = v.framebuffer.buffer := by rw [target, hs]
  have hsets := hv.sets
  rw [ht] at hb₀ hsets
  refine ⟨fun k hk c hc => by rw [hsets.other hk]; exact hc, fun _ k hk => ?_, fun c hc => ?_⟩
  · have hne : k ≠ v.framebuffer.buffer := by
      rintro rfl
      simp [hb₀] at hk
    rw [hsets.other hne]
    exact hk
  · cases hb₀.symm.trans hc
    refine ⟨b, hsets.self, ?_, hP _ (ht ▸ hb₀)⟩
    rw [← hshape]
    simp only [Buffer.shape, hv.mapped, hm]

end Held

/-- The conversion back changes bytes at most, and none where there is no converted image. -/
lemma does_encode (hv : v.Held s₀ b s) :
    Does (σ := σ) lets v.encode s fun _ s' =>
      ∃ b', v.Held s₀ b' s' ∧ (v.scratch = none → b' = b) := by
  rw [encode]
  split
  · next sc m hsc hm =>
    refine does_host_bind fun host _ => does_bind (does_ofChecked ?_)
    split
    · next planes _ =>
      exact does_setWindow fun _ _ => ⟨_, hv.setWindow hm planes, fun hn => by simp [hn] at hsc⟩
    · exact ⟨b, hv, fun _ => rfl⟩
  · exact does_pure ⟨b, hv, fun _ => rfl⟩

/-! ### How it is given back -/

/-- The steps by which a view ends, but for the conversion of its pixels. -/
def giveBack (v : View) : List (Act σ Unit) :=
  let mapped : List (Act σ Unit) :=
    match v.mapping with
    | some m => [Backend.unmap m, Backend.syncGpu m.buffer]
    | none => []
  let shadowed : List (Act σ Unit) :=
    match v.shadow with
    | some s => [v.framebuffer.copyPlanes s.surface? v.framebuffer.surface?, Backend.free s.buffer]
    | none => []
  mapped ++ shadowed

omit [StoreHost σ] in
lemma closing_eq (v : View) : v.closing (σ := σ) = v.encode :: v.giveBack :=
  rfl

omit [StoreHost σ] in
/-- A mapping is given back first, and then all else. -/
lemma giveBack_mapped {m : Mapping} (hm : v.mapping = some m) :
    v.giveBack (σ := σ) = Backend.unmap m :: Backend.syncGpu m.buffer ::
      ({ v with mapping := none } : View).giveBack := by
  simp only [giveBack, hm, List.cons_append, List.nil_append]

/-- How a linear copy may change the bytes of the framebuffer: in a way that the copy of every plane
keeps to. -/
def Restores (v : View) (b : Buffer) (s₀ : Store) (P : Bytes → Bytes → Prop) : Prop :=
  ∀ sh, v.shadow = some sh → ∀ c, s₀.buffer? v.framebuffer.buffer = some c → P c.bytes c.bytes ∧
    ∀ plane ss ds area, sh.surface? plane = some ss → v.framebuffer.surface? plane = some ds →
      v.framebuffer.area? plane = some area → ∀ bytes, P c.bytes bytes →
        P c.bytes (Store.copied ss ds area b.bytes bytes).1

namespace Held

variable {sh : Shadow}

/-- Where there is a linear copy, its buffer is the one that is held. -/
lemma copy (hv : v.Held s₀ b s) (hs : v.shadow = some sh) : s₀.Sets sh.buffer (some b) s := by
  have ht : v.target = sh.buffer := by rw [target, hs]
  exact ht ▸ hv.sets

/-- A buffer that there was before is not that of a linear copy, and has not changed. -/
lemma old (hv : v.Held s₀ b s) (hs : v.shadow = some sh) {k : Handle} {c : Buffer}
    (hc : s₀.buffer? k = some c) : k ≠ sh.buffer ∧ s.buffer? k = some c := by
  have ht : v.target = sh.buffer := by rw [target, hs]
  have hnew : s₀.buffer? sh.buffer = none := ht ▸ hv.fresh (hs ▸ nofun)
  have hne : k ≠ sh.buffer := by
    rintro rfl
    simp [hnew] at hc
  exact ⟨hne, ((hv.copy hs).other hne).trans hc⟩

/-- The copies back change the bytes of the framebuffer at most, if there was one: a framebuffer
whose handle nobody had is the copy itself. -/
lemma does_copyBack (hv : v.Held s₀ b s) (hs : v.shadow = some sh) (hP : v.Restores b s₀ P) :
    Does (σ := σ) lets (v.framebuffer.copyPlanes sh.surface? v.framebuffer.surface?) s fun _ s' =>
      s.Settles True v.framebuffer.buffer
        (fun x y => s₀.buffer? v.framebuffer.buffer ≠ none → P x y) s' := by
  refine Framebuffer.does_copyPlanes ?_ ?_ ?_
  · intro plane ds hds
    obtain ⟨offset, -, rfl⟩ := Option.map_eq_some_iff.1 hds
    rfl
  · intro c hc hlive
    obtain ⟨c₀, hc₀⟩ := Option.ne_none_iff_exists'.1 hlive
    cases (hv.old hs hc₀).2.symm.trans hc
    exact (hP sh hs c hc₀).1
  · intro c hc plane ss ds area hss hds ha a bytes hsource hbytes hlive
    obtain ⟨c₀, hc₀⟩ := Option.ne_none_iff_exists'.1 hlive
    obtain ⟨hne, hc₁⟩ := hv.old hs hc₀
    cases hc₁.symm.trans hc
    -- every source is the copy, and the copy is not the framebuffer
    have hsrc : ss.buffer = sh.buffer := by
      obtain ⟨offset, -, rfl⟩ := Option.map_eq_some_iff.1 hss
      rfl
    rw [hsrc] at hsource
    cases (hsource hne.symm).symm.trans (hv.copy hs).self
    exact (hP sh hs c hc₀).2 plane ss ds area hss hds ha bytes (hbytes hlive)

/-- A linear copy that was copied back is freed, unless that is refused. -/
lemma does_free (hv : v.Held s₀ b s) (hm : v.mapping = none) (hs : v.shadow = some sh)
    (hs' : s.Settles True v.framebuffer.buffer
      (fun x y => s₀.buffer? v.framebuffer.buffer ≠ none → P x y) s') :
    Does (σ := σ) lets (Backend.free sh.buffer) s' fun _ s'' =>
      s₀.Settles (lets .free) v.framebuffer.buffer P s'' := by
  have hsets := hv.copy hs
  -- the buffer of the copy is still there and not mapped
  obtain ⟨b', hb', hfree⟩ : ∃ b', s'.buffer? sh.buffer = some b' ∧ b'.mapping = none := by
    have hfree : b.mapping = none := hv.mapped.trans hm
    by_cases hne : sh.buffer = v.framebuffer.buffer
    · obtain ⟨b', hb', hshape, -⟩ := hs'.self b (hne ▸ hsets.self)
      exact ⟨b', hne ▸ hb', (congrArg (·.2.2.2) hshape).trans hfree⟩
    · exact ⟨b, hs'.other _ hne b hsets.self, hfree⟩
  have hself : ∀ c, s₀.buffer? v.framebuffer.buffer = some c → ∃ c',
      s'.buffer? v.framebuffer.buffer = some c' ∧ c'.shape = c.shape ∧ P c.bytes c'.bytes := by
    intro c hc
    obtain ⟨c', hc', hshape, hPc⟩ := hs'.self c (hv.old hs hc).2
    exact ⟨c', hc', hshape, hPc (hc ▸ nofun)⟩
  refine Scanout.does_free ?_ ?_ ?_ ?_
  · intro hf _
    exact ⟨fun k hk c hc => hs'.other k hk c (hv.old hs hc).2, fun h => absurd h hf, hself⟩
  · intro hn
    cases hn.symm.trans hb'
  · intro b'' hb'' hm'
    cases hb''.symm.trans hb'
    exact absurd hfree hm'
  · intro _ s'' _ _ hsets'
    refine ⟨fun k hk c hc => ?_, fun _ k hk => ?_, fun c hc => ?_⟩
    · rw [hsets'.other (hv.old hs hc).1]
      exact hs'.other k hk c (hv.old hs hc).2
    · by_cases hne : k = sh.buffer
      · rw [hne]
        exact hsets'.self
      · rw [hsets'.other hne]
        exact hs'.gone trivial k ((hsets.other hne).trans hk)
    · obtain ⟨c', hc', hrest⟩ := hself c hc
      exact ⟨c', (hsets'.other (hv.old hs hc).1).trans hc', hrest⟩

/-- A linear copy is copied back and freed. -/
lemma does_giveBack_shadow (hv : v.Held s₀ b s) (hm : v.mapping = none) (hs : v.shadow = some sh)
    (hP : v.Restores b s₀ P) :
    Does (σ := σ) lets (Act.attemptAll v.giveBack) s fun _ s' =>
      s₀.Settles (lets .free) v.framebuffer.buffer P s' := by
  simp only [giveBack, hm, hs, List.nil_append]
  refine does_attemptAll_cons_any (hv.does_copyBack hs hP) fun s' hs' => ?_
  exact does_attemptAll_cons_any (hv.does_free hm hs hs') fun s'' hs'' => does_attemptAll_nil hs''

end Held

/-- Everything but the pixels is given back. -/
lemma does_giveBack (hv : v.Held s₀ b s) (hP : v.Restores b s₀ P)
    (hd : v.shadow = none → ∀ b₀, s₀.buffer? v.target = some b₀ → P b₀.bytes b.bytes) :
    Does (σ := σ) lets (Act.attemptAll v.giveBack) s fun _ s' =>
      s₀.Settles (lets .free) v.framebuffer.buffer P s' := by
  -- what is not mapped, or not any more
  have unmapped : ∀ {v : View} {b s}, v.Held s₀ b s → v.Restores b s₀ P → v.mapping = none →
      (v.shadow = none → ∀ b₀, s₀.buffer? v.target = some b₀ → P b₀.bytes b.bytes) →
      Does (σ := σ) lets (Act.attemptAll v.giveBack) s fun _ s' =>
        s₀.Settles (lets .free) v.framebuffer.buffer P s' := by
    intro v b s hv hP hm hd
    cases hs : v.shadow with
    | some sh => exact hv.does_giveBack_shadow hm hs hP
    | none =>
        simp only [giveBack, hm, hs, List.nil_append]
        exact does_attemptAll_nil (hv.settles hm hs (hd hs))
  cases hm : v.mapping with
  | none => exact unmapped hv hP hm hd
  | some m =>
      have ht := hv.own m hm
      -- the mapping goes first, and whether that is refused or not it is gone
      rw [giveBack_mapped hm]
      refine does_attemptAll_cons_any
        (P := fun s' => ({ v with mapping := none } : View).Held s₀ { b with mapping := none } s')
        (does_unmap (ht ▸ hv.self) (hv.mapped.trans hm) (fun _ _ s' hs => hv.unmap (ht ▸ hs))
          fun s' hs => hv.unmap (ht ▸ hs)) fun s' hv' => ?_
      refine does_attemptAll_cons_any
        (P := fun s' => ({ v with mapping := none } : View).Held s₀ { b with mapping := none } s')
        (does_syncGpu (fun _ _ => hv') (fun _ => hv') fun _ s'' _ same => hv'.congr same)
        fun s'' hv'' => ?_
      exact unmapped hv'' hP rfl hd

/-- Where nothing has been acquired, nothing is left to do. -/
lemma does_closing_nothing (hm : v.mapping = none) (hs : v.shadow = none)
    (same : s.buffer? = s₀.buffer?) (hP : ∀ b, s₀.buffer? h = some b → P b.bytes b.bytes) :
    Does (σ := σ) lets (Act.attemptAll v.closing) s fun _ s' => s₀.Settles freed h P s' := by
  simp only [closing_eq, giveBack, encode, hm, hs, List.nil_append]
  refine does_attemptAll_cons_any (P := fun s' => s'.buffer? = s₀.buffer?) ?_
    fun s' hs' => does_attemptAll_nil (.of_same hP hs')
  split
  · next h => cases h
  · exact does_pure same

/-- **The end of a view gives everything back**, whatever the view has acquired. -/
lemma does_closing (hv : v.Acquired s₀ s) :
    Does (σ := σ) lets (Act.attemptAll v.closing) s fun _ s' =>
      s₀.Settles (lets .free) v.framebuffer.buffer (fun _ _ => True) s' := by
  cases hv with
  | nothing hm hs same => exact does_closing_nothing hm hs same fun _ _ => trivial
  | held b hv =>
      rw [closing_eq]
      refine does_attemptAll_cons_any (P := fun s' => ∃ b', v.Held s₀ b' s')
        ((does_encode hv).mono ?_) fun s' hend => ?_
      · rintro _ _ ⟨b', hv', -⟩
        exact ⟨b', hv'⟩
      obtain ⟨b', hv'⟩ := hend
      exact does_giveBack hv' (fun _ _ _ _ => ⟨trivial, fun _ _ _ _ _ _ _ _ _ => trivial⟩)
        fun _ _ _ => trivial

/-- A view on which nothing was painted, and that has no converted image, leaves behind what its
linear copy restores, if it has one. -/
lemma does_closing_undrawn (hv : v.Held s₀ b s) (hsc : v.scratch = none) (hP : v.Restores b s₀ P)
    (hd : v.shadow = none → ∀ b₀, s₀.buffer? v.target = some b₀ → P b₀.bytes b.bytes) :
    Does (σ := σ) lets (Act.attemptAll v.closing) s fun _ s' =>
      s₀.Settles (lets .free) v.framebuffer.buffer P s' := by
  rw [closing_eq]
  refine does_attemptAll_cons_any (P := fun s' => v.Held s₀ b s')
    ((does_encode hv).mono ?_) fun s' hv' => ?_
  · rintro _ _ ⟨b', hv', hb'⟩
    exact hb' hsc ▸ hv'
  exact does_giveBack hv' hP hd

end View

end Scanout
