/-
Painting on framebuffers, and the buffers that it leaves behind.

* `Framebuffer.does_draw`: painting gives back all that it acquires, whatever is refused;
* `Store.IsLive`: there is a buffer under a handle;
* `Framebuffer.createPainted_live_iff`: **a framebuffer that is made but cannot be painted is not
  given back**: its buffer, and no other one, is left behind.
-/
import Scanout.Framebuffer.Draw
import Scanout.Proofs.Framebuffer.Creating
import Scanout.Proofs.View.Editing

namespace Scanout

/-- There is a buffer under a handle. -/
def Store.IsLive (s : Store) (h : Handle) : Prop :=
  (s.buffer? h).isSome

instance (s : Store) (h : Handle) : Decidable (s.IsLive h) :=
  inferInstanceAs (Decidable ((s.buffer? h).isSome = true))

variable {s s' : Store} {h k : Handle}

lemma Store.not_isLive : ¬s.IsLive h ↔ s.buffer? h = none := by
  rw [Store.IsLive, Option.not_isSome_iff_eq_none]

lemma Store.IsLive.exists (hl : s.IsLive h) : ∃ b, s.buffer? h = some b :=
  Option.isSome_iff_exists.1 hl

/-- The buffers that there were are all that there are. -/
lemma Store.Keeps.isLive_iff {freed : Prop} (hs : s.Keeps freed s') (hf : freed) :
    s'.IsLive k ↔ s.IsLive k := by
  constructor
  · intro hl
    cases hb : s.buffer? k with
    | none =>
        simp [Store.IsLive, hs.gone hf k hb] at hl
    | some b =>
        simp [Store.IsLive, hb]
  · intro hl
    obtain ⟨b, hb⟩ := hl.exists
    simp [Store.IsLive, hs.old k b hb]

/-- The buffers that there were are all that there are. -/
lemma Store.Settles.isLive_iff {freed : Prop} {P : Bytes → Bytes → Prop}
    (hs : s.Settles freed h P s') (hf : freed) : s'.IsLive k ↔ s.IsLive k := by
  constructor
  · intro hl
    cases hb : s.buffer? k with
    | none =>
        simp [Store.IsLive, hs.gone hf k hb] at hl
    | some b =>
        simp [Store.IsLive, hb]
  · intro hl
    obtain ⟨b, hb⟩ := hl.exists
    by_cases hk : k = h
    · subst hk
      obtain ⟨b', hb', -⟩ := hs.self b hb
      simp [Store.IsLive, hb']
    · simp [Store.IsLive, hs.other k hk b hb]

namespace Framebuffer

variable {σ : Type} [Backend σ] [StoreHost σ] {lets : CallKind → Prop} {code : FourCC}
  {g : Geometry} {fb : Framebuffer} {strokes : List Stroke}

/-- Painting gives back all that it acquires, whatever becomes of it. -/
lemma does_draw [Machine] :
    Does (σ := σ) lets (fb.draw strokes) s fun _ s' =>
      s.Settles (lets .free) fb.buffer (fun _ _ => True) s' := by
  rw [draw]
  refine does_bind (View.does_acquire.mono fun o s₁ ho => ?_)
  cases o with
  | error f => exact ho
  | ok v =>
      obtain ⟨b, m, -, hv⟩ := ho
      refine does_bind (does_attempt ((View.does_edit_alive hv.alive).mono fun o s₂ ho => ?_))
      rcases o with f | ⟨drawn, v'⟩
      · refine does_bind (ho.does_dispose.mono fun o s₃ hs => ?_)
        cases o with
        | ok _ => exact does_throw hs
        | error _ => exact hs
      · cases drawn with
        | true => exact ho.does_finish
        | false =>
            refine does_bind (ho.does_dispose.mono fun o s₃ hs => ?_)
            cases o with
            | ok _ => exact does_throw hs
            | error _ => exact hs

/-- And so it is when it is painted on as well. -/
lemma does_createPainted_keeps [Machine] :
    Does (σ := σ) lets (createPainted code g strokes) s fun _ s' => s.Keeps False s' := by
  rw [createPainted]
  refine does_bind (does_create.mono fun o s₁ ho => ?_)
  cases o with
  | error f => exact ⟨ho.old, nofun⟩
  | ok fb =>
      refine does_bind (does_draw.mono fun o s₂ hs₂ => ?_)
      have keeps : s.Keeps False s₂ :=
        ⟨fun k c hc => hs₂.other k (ho.old hc).1 c (ho.old hc).2, nofun⟩
      cases o with
      | error f => exact keeps
      | ok _ => exact does_pure keeps

omit [StoreHost σ] in
/-- A framebuffer that is painted after it was made fails with the making or with the painting. -/
lemma createPainted_eq_error [Machine] {r r' : Run σ} {f : Failure}
    (h : createPainted code g strokes r = .error f r') :
    create code g r = .error f r' ∨
      ∃ fb r₁, create code g r = .ok fb r₁ ∧ fb.draw strokes r₁ = .error f r' := by
  rw [createPainted] at h
  cases hc : create code g r with
  | error f₁ r₁ =>
      simp only [bind, EStateM.bind, hc] at h
      cases h
      exact .inl rfl
  | ok fb r₁ =>
      simp only [bind, EStateM.bind, hc] at h
      cases hd : fb.draw strokes r₁ with
      | error f₂ r₂ =>
          rw [hd] at h
          cases h
          exact .inr ⟨fb, r₁, rfl, hd⟩
      | ok a r₂ =>
          rw [hd] at h
          cases h

/-- **A framebuffer that is made but cannot be painted is not given back.** Where no buffer is
refused to be freed, a failure leaves the buffers that there were exactly when it was the making
that failed, and otherwise the new buffer as well. -/
theorem createPainted_live_iff [Machine] {r r' : Run (Monitor Store)} {f : Failure}
    (hfree : Fault.Lets r.host.faults .free) (h : createPainted code g strokes r = .error f r') :
    ((∀ k, r'.host.host.IsLive k ↔ r.host.host.IsLive k) ↔ ∀ fb r₁, create code g r ≠ .ok fb r₁) ∧
      ∀ fb r₁, create code g r = .ok fb r₁ → ¬r.host.host.IsLive fb.buffer ∧
        ∀ k, r'.host.host.IsLive k ↔ r.host.host.IsLive k ∨ k = fb.buffer := by
  have hlets : StoreHost.LetsAll (· = .free) r.host := fun k hk => hk ▸ hfree
  have hmade : Ends (create code g) r _ := does_create r rfl hlets
  -- the creation failed, and cleaned up, or the drawing did
  rcases createPainted_eq_error h with hc | ⟨fb, r₁, hc, hd⟩
  · have hkeeps := (hmade.of_error hc).2
    refine ⟨⟨fun _ fb r₁ hok => ?_, fun _ k => hkeeps.isLive_iff rfl⟩, fun fb r₁ hok => ?_⟩
    · simp [hc] at hok
    · simp [hc] at hok
  · obtain ⟨hlets₁, hnew⟩ := hmade.of_ok hc
    obtain ⟨b, hsets, -, -⟩ := hnew.buffer
    have hsettled := (does_draw r₁ rfl hlets₁).of_error hd
    have hfresh : ¬r.host.host.IsLive fb.buffer := Store.not_isLive.2 hnew.fresh
    -- the new buffer is still there, and it is the only one that was not there before
    have hlive : ∀ k, r'.host.host.IsLive k ↔ r.host.host.IsLive k ∨ k = fb.buffer := by
      intro k
      refine (hsettled.2.isLive_iff rfl).trans ?_
      by_cases hk : k = fb.buffer
      · subst hk
        simp only [or_true, iff_true]
        simp [Store.IsLive, hsets.self]
      · simp only [hk, or_false]
        rw [Store.IsLive, hsets.other hk]
        rfl
    refine ⟨⟨fun hsame => absurd ((hsame fb.buffer).1 ((hlive _).2 (.inr rfl))) hfresh,
      fun hnone => absurd hc (hnone fb r₁)⟩, fun fb' r₂ hok => ?_⟩
    cases hc.symm.trans hok
    exact ⟨hfresh, hlive⟩

/-- A store without buffers, the first of which cannot be handed to the CPU. -/
def stuck : Run (Monitor Store) :=
  ⟨{ Monitor.ofHost (Store.empty 0) with faults := [⟨.syncCpu, 0, 1⟩] }, #[]⟩

/-- A framebuffer of one pixel. -/
def speck : Geometry :=
  { device := .standard, width := 1, height := 1, tiling := .linear }

lemma stuck_free : Fault.Lets stuck.host.faults .free := by
  intro fault hfault
  rw [List.mem_singleton.1 hfault]
  decide

/-- The speck is made, but cannot be painted. -/
lemma createPattern_stuck : ∃ f r',
    createPainted (PixelFormat.codeOf 'X' 'R' '2' '4') speck [.pattern] stuck = .error f r' ∧
      r'.host.host.IsLive ⟨1⟩ :=
  ⟨_, _, rfl, rfl⟩

theorem createPattern_leaks : ∃ f r',
    createPattern (PixelFormat.codeOf 'X' 'R' '2' '4') speck stuck = .error f r' ∧
      Fault.Lets stuck.host.faults .free ∧
      ¬∀ k, r'.host.host.IsLive k ↔ stuck.host.host.IsLive k := by
  obtain ⟨f, r', h, hlive⟩ := createPattern_stuck
  refine ⟨f, r', h, stuck_free, fun hsame => ?_⟩
  exact absurd ((hsame ⟨1⟩).1 hlive) (by decide)

theorem createPattern_speck_live : ∃ f r',
    createPattern (PixelFormat.codeOf 'X' 'R' '2' '4') speck stuck = .error f r' ∧
      ((∀ k, r'.host.host.IsLive k ↔ stuck.host.host.IsLive k) ↔
        ∀ fb r₁, create (PixelFormat.codeOf 'X' 'R' '2' '4') speck stuck ≠ .ok fb r₁) ∧
      ∀ fb r₁, create (PixelFormat.codeOf 'X' 'R' '2' '4') speck stuck = .ok fb r₁ →
        ¬stuck.host.host.IsLive fb.buffer ∧
          ∀ k, r'.host.host.IsLive k ↔ stuck.host.host.IsLive k ∨ k = fb.buffer := by
  obtain ⟨f, r', h, -⟩ := createPattern_stuck
  exact ⟨f, r', h, createPainted_live_iff stuck_free h⟩

end Framebuffer

end Scanout
