/-
What a step does to the store behind its host.

`Does lets x s Q` says that the condition `Q` is met by what the step `x` ends with and by the store
that it leaves, from the store `s`, on every host with that store and whatever requests the host
refuses, but for those of the kinds in `lets`.

* `Does`, with `does_bind` and its companions: the rules of sequencing;
* `does_request`: **the rule of a request**, by which what a store does carries over to every host;
* `Does.ends`: what a step does whatever is refused;
* `Does.exists_end`: how a step ends on the store itself;
* `does_attemptAll_cons`, `Does.forM_range`: steps that are all made, and loops;
* `Opens`: the same for the steps by which a view is opened.
-/
import Scanout.Proofs.Host

namespace Scanout

variable {σ α β : Type} [Backend σ] [StoreHost σ]

/-- Whether no request of some kinds is refused from now on. -/
def StoreHost.LetsAll (lets : CallKind → Prop) (host : σ) : Prop :=
  ∀ k, lets k → StoreHost.Lets host k

/-- What a step ends with, and the store that it leaves, meet a condition on every host that lets
requests of some kinds through. -/
def Does (lets : CallKind → Prop) (x : Act σ α) (s : Store) (Q : Checked α → Store → Prop) : Prop :=
  ∀ r : Run σ, StoreHost.store r.host = s → StoreHost.LetsAll lets r.host →
    Ends x r fun o r => StoreHost.LetsAll lets r.host ∧ Q o (StoreHost.store r.host)

section Steps

variable {lets : CallKind → Prop} {s : Store} {Q R : Checked α → Store → Prop}

lemma Does.mono {x : Act σ α} (h : Does lets x s Q) (hQ : ∀ o s, Q o s → R o s) :
    Does lets x s R :=
  fun r hs hl => (h r hs hl).mono fun o _ hq => ⟨hq.1, hQ o _ hq.2⟩

/-! ### The rules of sequencing -/

lemma does_pure {a : α} (h : Q (.ok a) s) : Does (σ := σ) lets (pure a) s Q := by
  rintro r rfl hl
  exact ⟨hl, h⟩

lemma does_throw {f : Failure} (h : Q (.error f) s) : Does (σ := σ) lets (throw f) s Q := by
  rintro r rfl hl
  exact ⟨hl, h⟩

lemma does_ofChecked {c : Checked α} (h : Q c s) : Does (σ := σ) lets (Act.ofChecked c) s Q := by
  rintro r rfl hl
  exact ends_ofChecked.2 ⟨hl, h⟩

lemma does_emit {e : Event} {Q : Checked Unit → Store → Prop} (h : Q (.ok ()) s) :
    Does (σ := σ) lets (Act.emit e) s Q := by
  rintro r rfl hl
  exact ⟨hl, h⟩

/-- What follows is made from the store that is left, and not after a failure. -/
lemma does_bind {x : Act σ β} {f : β → Act σ α}
    (h : Does lets x s fun o s =>
      match o with
      | .ok b => Does lets (f b) s Q
      | .error e => Q (.error e) s) : Does lets (x >>= f) s Q := by
  intro r hs hl
  rw [ends_bind]
  refine (h r hs hl).mono ?_
  intro o r' ho
  cases o with
  | ok b => exact ho.2 r' rfl ho.1
  | error e => exact ho

/-- What is made of the host does not depend on more of it than its store. -/
lemma does_host_bind {f : σ → Act σ α}
    (h : ∀ host : σ, StoreHost.store host = s → Does lets (f host) s Q) :
    Does lets (Act.host >>= f) s Q := by
  intro r hs hl
  rw [ends_bind]
  exact h r.host hs r hs hl

lemma does_attempt {x : Act σ β} {Q : Checked (Checked β) → Store → Prop}
    (h : Does lets x s fun o s => Q (.ok o) s) : Does lets (Act.attempt x) s Q :=
  fun r hs hl => ends_attempt.2 (h r hs hl)

/-- The bytes seen through a mapping change as they do in the store. -/
lemma does_setWindow {m : Mapping} {bytes : σ → Bytes} {Q : Checked Unit → Store → Prop}
    (h : ∀ host : σ, StoreHost.store host = s → Q (.ok ()) (s.setWindow m (bytes host))) :
    Does lets (Act.update fun host => Backend.setWindow m (bytes host) host) s Q := by
  rintro r rfl hl
  refine ⟨fun k hk => StoreHost.lets_setWindow m _ _ k (hl k hk), ?_⟩
  rw [StoreHost.store_setWindow]
  exact h r.host rfl

/-- **The rule of a request.** It is refused, unless its kind is let through, or is what the store
does. -/
lemma does_request {kind : CallKind} {refusal : Store → Store} {x : Act σ α} {y : Act Store α}
    (hx : Passes StoreHost.store StoreHost.Lets kind refusal x y)
    (refused : ¬lets kind → ∀ e, Q (.error (.error e)) (refusal s))
    (passed : ∀ log, Ends y ⟨s, log⟩ fun o r => Q o r.host) : Does lets x s Q := by
  rintro r rfl hl
  refine hx r _ (fun hk e r' hs hm => ?_) ?_
  · refine ⟨fun k hlet => hm k (hl k hlet), ?_⟩
    rw [hs]
    exact refused (fun hlet => hk (hl kind hlet)) e
  · refine (passed r.log).mono ?_
    intro o s' ho r' hs hm
    refine ⟨fun k hlet => hm k (hl k hlet), ?_⟩
    rw [hs]
    exact ho

/-- What a step does whatever is refused. -/
lemma Does.ends {x : Act σ α} {r : Run σ}
    (hx : Does (fun _ => False) x (StoreHost.store r.host) Q) :
    Ends x r fun o r => Q o (StoreHost.store r.host) :=
  (hx r rfl nofun).mono fun _ _ h => h.2

lemma Does.leaves {x : Act σ α} {P : Store → Prop} {r : Run σ}
    (hx : Does (fun _ => False) x (StoreHost.store r.host) fun _ s => P s) :
    P (StoreHost.store (x.leaves r).host) :=
  hx.ends.leaves

/-- A step on a store ends somehow. -/
lemma Does.exists_end {x : Act Store α} {Q : Checked α → Store → Prop} {r : Run Store}
    (hx : Does (fun _ => True) x r.host Q) :
    (∃ a r', x r = .ok a r' ∧ Q (.ok a) r'.host) ∨
      ∃ f r', x r = .error f r' ∧ Q (.error f) r'.host :=
  ((hx r rfl fun _ _ => trivial).mono fun _ _ h => h.2).ok_or_error

/-- A step on a store that succeeds does so from every run with that store. -/
lemma Does.exists_ok {x : Act Store α} {a : α} {R : Store → Prop} {r : Run Store}
    (hx : Does (fun _ => True) x r.host fun o s => o = .ok a ∧ R s) :
    ∃ r', x r = .ok a r' ∧ R r'.host := by
  rcases hx.exists_end with ⟨a', r', hr, ha, hR⟩ | ⟨f, r', -, hf, -⟩
  · cases ha
    exact ⟨r', hr, hR⟩
  · cases hf

/-! ### Steps that are all made -/

lemma does_attemptAll_nil {Q : Checked (Checked Unit) → Store → Prop} (h : Q (.ok (.ok ())) s) :
    Does (σ := σ) lets (Act.attemptAll []) s Q :=
  does_pure h

/-- The steps after the first are made whatever it ended with, and its failure comes before theirs.
-/
lemma does_attemptAll_cons {x : Act σ Unit} {xs : List (Act σ Unit)}
    {Q : Checked (Checked Unit) → Store → Prop}
    (h : Does lets x s fun first s => Does lets (Act.attemptAll xs) s fun rest s =>
      match rest with
      | .ok rest => Q (.ok (match first with | .ok _ => rest | .error f => .error f)) s
      | .error f => Q (.error f) s) : Does lets (Act.attemptAll (x :: xs)) s Q := by
  intro r hs hl
  rw [ends_attemptAll_cons]
  refine (h r hs hl).mono ?_
  intro first r' hfirst
  refine (hfirst.2 r' rfl hfirst.1).mono ?_
  intro rest r'' hrest
  cases rest with
  | ok rest => exact hrest
  | error f => exact hrest

/-- What is left behind does not depend on what the steps ended with. -/
lemma does_attemptAll_cons_any {x : Act σ Unit} {xs : List (Act σ Unit)} {P R : Store → Prop}
    (hx : Does lets x s fun _ s => P s)
    (hxs : ∀ s, P s → Does lets (Act.attemptAll xs) s fun _ s => R s) :
    Does lets (Act.attemptAll (x :: xs)) s fun _ s => R s := by
  refine does_attemptAll_cons (hx.mono fun _ s hs => (hxs s hs).mono fun rest s hr => ?_)
  cases rest with
  | ok _ => exact hr
  | error _ => exact hr

/-- Steps of which none fails have no failure to tell. -/
lemma does_attemptAll_cons_ok {x : Act σ Unit} {xs : List (Act σ Unit)} {P R : Store → Prop}
    (hx : Does lets x s fun o s => o = .ok () ∧ P s)
    (hxs : ∀ s, P s → Does lets (Act.attemptAll xs) s fun o s => o = .ok (.ok ()) ∧ R s) :
    Does lets (Act.attemptAll (x :: xs)) s fun o s => o = .ok (.ok ()) ∧ R s := by
  refine does_attemptAll_cons (hx.mono fun o s hend => ?_)
  obtain ⟨rfl, hs⟩ := hend
  refine (hxs s hs).mono ?_
  intro rest s hr
  obtain ⟨rfl, hr⟩ := hr
  exact ⟨rfl, hr⟩

/-- The loop rule, for an invariant of the store. -/
lemma Does.forM_range {Q : Checked PUnit → Store → Prop} {n : Nat} {f : Nat → Act σ PUnit}
    (I : Nat → Store → Prop) (h₀ : I 0 s)
    (step : ∀ i < n, ∀ s, I i s → Does lets (f i) s fun o s =>
      match o with
      | .ok _ => I (i + 1) s
      | .error e => Q (.error e) s)
    (last : ∀ s, I n s → Q (.ok ⟨⟩) s) : Does lets ((List.range n).forM f) s Q := by
  rintro r rfl hl
  refine Ends.forM_range
    (fun i r => StoreHost.LetsAll lets r.host ∧ I i (StoreHost.store r.host)) ⟨hl, h₀⟩ ?_
    fun r hr => ⟨hr.1, last _ hr.2⟩
  intro i hi r hr
  refine (step i hi _ hr.2 r rfl hr.1).mono ?_
  intro o r' ho
  cases o with
  | ok _ => exact ho
  | error e => exact ho

end Steps

/-! ### Steps by which a view is opened -/

/-- What a step of an opening ends with, the store that it leaves and what it has acquired meet a
condition. -/
def Opens (lets : CallKind → Prop) (x : Opening σ α) (s : Store) (v : View)
    (Q : Checked α → Store → View → Prop) : Prop :=
  ∀ r : Run σ, StoreHost.store r.host = s → StoreHost.LetsAll lets r.host →
    Ends x (r, v) fun o p =>
      StoreHost.LetsAll lets p.1.host ∧ Q o (StoreHost.store p.1.host) p.2

section Openings

variable {lets : CallKind → Prop} {s : Store} {v : View} {Q : Checked α → Store → View → Prop}

lemma opens_bind {x : Opening σ β} {f : β → Opening σ α}
    (h : Opens lets x s v fun o s v =>
      match o with
      | .ok b => Opens lets (f b) s v Q
      | .error e => Q (.error e) s v) : Opens lets (x >>= f) s v Q := by
  intro r hs hl
  rw [ends_bind]
  refine (h r hs hl).mono ?_
  intro o p ho
  cases o with
  | ok b => exact ho.2 p.1 rfl ho.1
  | error e => exact ho

lemma opens_act {x : Act σ α} (h : Does lets x s fun o s => Q o s v) :
    Opens lets (Opening.act x) s v Q :=
  fun r hs hl => ends_act.2 (h r hs hl)

lemma opens_host_bind {f : σ → Opening σ α}
    (h : ∀ host : σ, StoreHost.store host = s → Opens lets (f host) s v Q) :
    Opens lets (Opening.act Act.host >>= f) s v Q := by
  intro r hs hl
  rw [ends_bind, ends_act]
  exact h r.host hs r hs hl

lemma opens_view {Q : Checked View → Store → View → Prop} (h : Q (.ok v) s v) :
    Opens (σ := σ) lets Opening.view s v Q := by
  rintro r rfl hl
  exact ⟨hl, h⟩

lemma opens_acquired {f : View → View} {Q : Checked Unit → Store → View → Prop}
    (h : Q (.ok ()) s (f v)) : Opens (σ := σ) lets (Opening.acquired f) s v Q := by
  rintro r rfl hl
  exact ⟨hl, h⟩

end Openings

end Scanout
