/-
What an opening that fails does to the image.

A linear copy is copied back at the end of every view, and so it is at the end of one that was never
opened, for want of a copy that could be filled.

* `Fault.letsNext`: the faults let the next requests of a kind through;
* `View.halted`: where the filling of a linear copy stops in the opening of a view, if it does;
* `Framebuffer.Wiped`: the bytes to which the empty planes of a linear copy are copied back;
* `View.ends_wipe`: what the copies back make of the image;
* `View.acquire_wipes`: **an opening that fails leaves zeros in the bytes that are wiped, and every
  other byte as it was**, so that the image is kept exactly when there were zeros already.
-/
import Scanout.Proofs.Store.Zeroing
import Scanout.Proofs.View.Opening

namespace Scanout

/-! ### Faults -/

namespace Fault

/-- The faults let the next requests of a kind through, so many of them. -/
def letsNext (kind : CallKind) : Nat → List Fault → Prop
  | 0, _ => True
  | n + 1, fs => (visit kind fs).2 = false ∧ letsNext kind n (visit kind fs).1

variable {kind : CallKind} {fs : List Fault} {m n : Nat}

lemma letsNext_mono (hmn : m ≤ n) (h : letsNext kind n fs) : letsNext kind m fs := by
  induction m generalizing n fs with
  | zero => trivial
  | succ m ih =>
      obtain ⟨n, rfl⟩ : ∃ k, n = k + 1 := ⟨n - 1, by omega⟩
      exact ⟨h.1, ih (by omega) h.2⟩

end Fault

/-! ### The bytes that are wiped -/

namespace Framebuffer

/-- All rows of a plane that hold bytes lie inside a buffer of some size. -/
def Fits (fb : Framebuffer) (size plane : Nat) : Prop :=
  ∀ area, fb.area? plane = some area → ∀ row < area.rows,
    (fb.layout.surface fb.buffer fb.tiling plane).place row area.rowBytes ≤ size

/-- The bytes of a plane in the rows up to the first that does not fit. -/
def Reaches (fb : Framebuffer) (size plane j : Nat) : Prop :=
  ∃ area, fb.area? plane = some area ∧ ∃ row < area.rows,
    ((fb.layout.surface fb.buffer fb.tiling plane).place row 0 ≤ j ∧
      j < (fb.layout.surface fb.buffer fb.tiling plane).place row area.rowBytes) ∧
    ∀ k ≤ row, (fb.layout.surface fb.buffer fb.tiling plane).place k area.rowBytes ≤ size

/-- The bytes to which the planes from `n` up to `m` are copied back: those of the planes whose copy
is let through, up to the first row that does not fit. -/
def Wiped (fb : Framebuffer) (faults : List Fault) (size n m j : Nat) : Prop :=
  ∃ plane, n ≤ plane ∧ plane < m ∧ Fault.letsNext .copy (plane + 1) faults ∧
    (∀ q, n ≤ q → q < plane → fb.Fits size q) ∧ fb.Reaches size plane j

variable {fb : Framebuffer} {faults : List Fault} {size n m p j : Nat}

/-- No plane before the empty ones is wiped. -/
lemma not_wiped (hm : m ≤ n) : ¬fb.Wiped faults size n m j := by
  rintro ⟨plane, hn, hlt, -⟩
  omega

/-- One more plane is wiped. -/
lemma wiped_succ (hn : n ≤ p) (hlets : Fault.letsNext .copy (p + 1) faults)
    (hfits : ∀ q, n ≤ q → q < p → fb.Fits size q) :
    fb.Wiped faults size n (p + 1) j ↔ fb.Wiped faults size n p j ∨ fb.Reaches size p j := by
  constructor
  · rintro ⟨plane, hnp, hlt, hl, hf, hr⟩
    by_cases heq : plane = p
    · subst heq
      exact .inr hr
    · exact .inl ⟨plane, hnp, by omega, hl, hf, hr⟩
  · rintro (⟨plane, hnp, hlt, h⟩ | hr)
    · exact ⟨plane, hnp, by omega, h⟩
    · exact ⟨p, hn, by omega, hlets, hfits, hr⟩

/-- Where a copy is refused, or a row does not fit, no plane is wiped after it. -/
lemma wiped_last (hpm : p ≤ m)
    (hstop : ∀ plane, p ≤ plane → n ≤ plane → Fault.letsNext .copy (plane + 1) faults →
      (∀ q, n ≤ q → q < plane → fb.Fits size q) → False) :
    fb.Wiped faults size n p j ↔ fb.Wiped faults size n m j := by
  constructor
  · rintro ⟨plane, hnp, hlt, h⟩
    exact ⟨plane, hnp, by omega, h⟩
  · rintro ⟨plane, hnp, hlt, hl, hf, hr⟩
    by_cases hp : plane < p
    · exact ⟨plane, hnp, hp, hl, hf, hr⟩
    · exact absurd (hstop plane (by omega) hnp hl hf) id

end Framebuffer

namespace View

variable {fb : Framebuffer} {sh : Shadow} {s₀ : Store} {b c : Buffer} {faults : List Fault}
  {n p : Nat}

/-! ### The copies back -/

/-- The framebuffer has been wiped up to a plane. -/
def WipedTo (fb : Framebuffer) (c : Buffer) (faults : List Fault) (n p : Nat) (s : Store) : Prop :=
  ∃ d, s.buffer? fb.buffer = some { c with bytes := d } ∧ d.size = c.bytes.size ∧
    Bytes.Zeroed (fun j => c.mapping = none ∧ fb.Wiped faults c.bytes.size n p j) c.bytes d

/-- The copies back have got to a plane. -/
structure Wiping (fb : Framebuffer) (sh : Shadow) (b c : Buffer) (faults : List Fault) (n p : Nat)
    (m : Monitor Store) : Prop where
  target : WipedTo fb c faults n p m.host
  source : m.host.buffer? sh.buffer = some b
  lets : ∀ k, Fault.letsNext .copy (p + k) faults ↔ Fault.letsNext .copy k m.faults
  fits : ∀ q, n ≤ q → q < p → fb.Fits c.bytes.size q

lemma WipedTo.congr {q : Nat} {s : Store} (h : WipedTo fb c faults n p s)
    (hq : ∀ j, c.mapping = none → (fb.Wiped faults c.bytes.size n p j ↔
      fb.Wiped faults c.bytes.size n q j)) : WipedTo fb c faults n q s := by
  obtain ⟨d, hd, hsize, hz⟩ := h
  exact ⟨d, hd, hsize, hz.congr fun j => and_congr_right (hq j)⟩

/-- The copy of a plane back. -/
lemma WipedTo.copied {area : Area} {s s' : Store} {d : Bytes} (hp : p < fb.numPlanes)
    (ha : fb.area? p = some area) (hfill : sh.Fills fb n c.bytes b.bytes) (hfree : c.mapping = none)
    (hlets : Fault.letsNext .copy (p + 1) faults)
    (hfits : ∀ q, n ≤ q → q < p → fb.Fits c.bytes.size q)
    (hsize : d.size = c.bytes.size)
    (hz : Bytes.Zeroed (fun j => c.mapping = none ∧ fb.Wiped faults c.bytes.size n p j) c.bytes d)
    (hsets : s.Sets fb.buffer (some { c with
      bytes := (Store.copied (sh.layout.surface sh.buffer .linear p)
        (fb.layout.surface fb.buffer fb.tiling p) area b.bytes d).1 }) s') :
    WipedTo fb c faults n (p + 1) s' := by
  refine ⟨_, hsets.self, Store.size_copied.trans hsize, ?_⟩
  by_cases hn : p < n
  · -- a plane that is held is what the framebuffer has
    cases hz.eq fun j hj => Framebuffer.not_wiped (Nat.le_of_lt hn) hj.2
    rw [hfill.restores hn ha]
    exact Bytes.zeroed_self fun j hj => Framebuffer.not_wiped hn hj.2
  · have hn : n ≤ p := Nat.le_of_not_lt hn
    -- one that is not held is still blank in the copy, and its zeros are stored
    refine Bytes.Zeroed.congr (hz.trans (Store.zeroed_copied fun row hrow i hi =>
      hfill.blank p hp hn area ha row hrow i hi)) fun j => ?_
    simp only [hfree, true_and]
    rw [Framebuffer.wiped_succ hn hlets hfits, hsize]
    refine or_congr_right ⟨fun h => ⟨area, ha, h⟩, ?_⟩
    rintro ⟨area', ha', h⟩
    cases ha.symm.trans ha'
    exact h

/-- A copy on a host that is watched fails, or stores what it can. -/
lemma ends_copy {src dst : Surface} {area : Area} {r : Run (Monitor Store)}
    {Q : Checked Unit → Monitor Store → Prop}
    (failed : ∀ f m, m.host = r.host.host →
      ((Fault.visit .copy r.host.faults).2 = true ∨ ∀ a b, ¬r.host.host.Ready src dst area a b) →
      Q (.error f) m)
    (stored : ∀ a b m, (Fault.visit .copy r.host.faults).2 = false →
      m.faults = (Fault.visit .copy r.host.faults).1 → r.host.host.Ready src dst area a b →
      r.host.host.Sets dst.buffer
        (some { b with bytes := (Store.copied src dst area a.bytes b.bytes).1 }) m.host →
      Q (Store.copied src dst area a.bytes b.bytes).2 m) :
    Ends (Backend.copy src dst area) r fun o r' => Q o r'.host := by
  show Ends (Monitor.request (.copy src dst area) (Backend.copy src dst area)) r _
  rw [Monitor.ends_request]
  split
  · next hf => exact failed _ _ rfl (.inl hf)
  · next hf =>
    -- a request that is passed on is one of the store, which lets everything through
    have hcopy : Does (σ := Store) (fun _ => True) (Backend.copy src dst area) r.host.host
        fun o s => Q o { r.host.noted (.copy src dst area) with host := s } := by
      refine does_copy (fun hk => absurd trivial hk) (fun hmiss f => failed f _ rfl (.inr hmiss))
        fun a b s' hready hsets => ?_
      exact stored a b _ (Bool.eq_false_iff.2 hf) rfl hready hsets
    exact (hcopy ⟨r.host.host, r.log⟩ rfl fun _ _ => trivial).mono fun o s h => h.2

/-- What the copy of one more plane back leaves: the copies go on, or that was the last. -/
def WipedNext (fb : Framebuffer) (sh : Shadow) (b c : Buffer) (faults : List Fault) (n p : Nat)
    (o : Checked Unit) (m : Monitor Store) : Prop :=
  match o with
  | .ok _ => Wiping fb sh b c faults n (p + 1) m
  | .error _ => WipedTo fb c faults n fb.numPlanes m.host

/-- A copy back that is refused wipes nothing, and no plane after it is copied. -/
lemma Wiping.refused {area : Area} {m m' : Monitor Store} (hw : Wiping fb sh b c faults n p m)
    (hp : p < fb.numPlanes) (hL : sh.layout.Sound fb.format fb.width fb.height)
    (hfree : b.mapping = none) (hfill : sh.Fills fb n c.bytes b.bytes)
    (ha : fb.area? p = some area) (same : m'.host = m.host)
    (hfail : (Fault.visit .copy m.faults).2 = true ∨ ∀ a b, ¬m.host.Ready
      (sh.layout.surface sh.buffer .linear p) (fb.layout.surface fb.buffer fb.tiling p) area a b) :
    WipedTo fb c faults n fb.numPlanes m'.host := by
  obtain ⟨d, hd, -, -⟩ := hw.target
  have hw' : WipedTo fb c faults n p m'.host := same ▸ hw.target
  refine hw'.congr fun j hc => Framebuffer.wiped_last (Nat.le_of_lt hp) ?_
  intro plane hle _ hl _
  rcases hfail with hf | hmiss
  · -- for a later plane to be wiped its copy has to be let through, and this one before it
    have := ((hw.lets 1).1 (Fault.letsNext_mono (by omega) hl)).1
    simp [hf] at this
  · refine hmiss b _ ⟨hw.source, hfree, Layout.area_lt hL hp ha, fun row hrow => ?_, hd, hc⟩
    rw [hfill.size]
    exact Layout.place_le_size hL hp ha hrow

/-- A copy back that is made wipes its plane as far as that fits, and the next copy is made only if
all of it did. -/
lemma Wiping.stored {area : Area} {a d : Buffer} {m m' : Monitor Store}
    (hw : Wiping fb sh b c faults n p m) (hp : p < fb.numPlanes) (hne : sh.buffer ≠ fb.buffer)
    (hfill : sh.Fills fb n c.bytes b.bytes) (ha : fb.area? p = some area)
    (hpass : (Fault.visit .copy m.faults).2 = false)
    (hfaults : m'.faults = (Fault.visit .copy m.faults).1)
    (hready : m.host.Ready (sh.layout.surface sh.buffer .linear p)
      (fb.layout.surface fb.buffer fb.tiling p) area a d)
    (hsets : m.host.Sets fb.buffer (some { d with
      bytes := (Store.copied (sh.layout.surface sh.buffer .linear p)
        (fb.layout.surface fb.buffer fb.tiling p) area a.bytes d.bytes).1 }) m'.host) :
    WipedNext fb sh b c faults n p
      (Store.copied (sh.layout.surface sh.buffer .linear p)
        (fb.layout.surface fb.buffer fb.tiling p) area a.bytes d.bytes).2 m' := by
  obtain ⟨bytes, hd, hsize, hz⟩ := hw.target
  cases hw.source.symm.trans hready.source
  cases hd.symm.trans hready.target
  have hlets : Fault.letsNext .copy (p + 1) faults := (hw.lets 1).2 ⟨hpass, trivial⟩
  have hw' : WipedTo fb c faults n (p + 1) m'.host :=
    .copied hp ha hfill hready.targetFree hlets hw.fits hsize hz hsets
  have hfit : (Store.copied (sh.layout.surface sh.buffer .linear p)
      (fb.layout.surface fb.buffer fb.tiling p) area b.bytes bytes).2 = .ok () ↔
      ∀ row < area.rows,
        (fb.layout.surface fb.buffer fb.tiling p).place row area.rowBytes ≤ c.bytes.size := by
    rw [← hsize]
    exact Store.copied_eq_ok
  simp only [WipedNext]
  split
  · next hok =>
    refine ⟨hw', (hsets.other hne).trans hw.source, fun k => ?_, fun q hnq hq => ?_⟩
    · -- one fewer of the requests that are let through is to come
      rw [hfaults, Nat.add_assoc, hw.lets, Nat.add_comm]
      exact ⟨fun h => h.2, fun h => ⟨hpass, h⟩⟩
    · by_cases hqp : q = p
      · subst hqp
        intro area' ha'
        cases ha.symm.trans ha'
        exact hfit.1 hok
      · exact hw.fits q hnq (by omega)
  · next f hf =>
    -- a plane that does not fit is one of those that were not filled, and the last to be wiped
    refine hw'.congr fun j _ => Framebuffer.wiped_last hp ?_
    intro plane hle hn _ hf'
    have hall : fb.Fits c.bytes.size p := by
      by_cases hnp : n ≤ p
      · exact hf' p hnp (by omega)
      · exact fun area' ha' row hrow =>
          hfill.inside p (by omega) area' ha' row (Store.lt_height_of_lt_rows hrow)
    simp [hfit.2 (hall area ha)] at hf

/-- The copy of one more plane back: it is refused, or a row does not fit, and nothing is wiped
after that, or it succeeds. -/
lemma Wiping.next {r : Run (Monitor Store)} (hw : Wiping fb sh b c faults n p r.host)
    (hp : p < fb.numPlanes) (hL : sh.layout.Sound fb.format fb.width fb.height)
    (hne : sh.buffer ≠ fb.buffer) (hfree : b.mapping = none)
    (hfill : sh.Fills fb n c.bytes b.bytes) :
    Ends (fb.copyPlane sh.surface? fb.surface? p) r fun o r' =>
      WipedNext fb sh b c faults n p o r'.host := by
  have hlt : p < maxPlanes := Nat.lt_of_lt_of_le hp hL.planes
  obtain ⟨area, ha, -⟩ := Framebuffer.exists_area hL hp
  rw [Framebuffer.copyPlane]
  simp only [ends_bind, ends_ofChecked, sh.surface?_eq hlt, fb.surface?_eq hlt, ha, Checked.need]
  refine ends_copy (Q := WipedNext fb sh b c faults n p) (fun f m same hfail => ?_)
    fun a d m hpass hfaults hready hsets => ?_
  · exact hw.refused hp hL hfree hfill ha same hfail
  · exact hw.stored hp hne hfill ha hpass hfaults hready hsets

/-- **What the copies back make of the image**, up to the first that fails. -/
lemma ends_wipe {r : Run (Monitor Store)} (hc : Copied fb s₀ sh n r.host.host)
    (hlive : s₀.buffer? fb.buffer = some c) :
    Ends (fb.copyPlanes sh.surface? fb.surface?) r fun _ r' =>
      WipedTo fb c r.host.faults n fb.numPlanes r'.host.host := by
  obtain ⟨b, hv, hfill⟩ := hc.held
  obtain ⟨hne, hlive'⟩ := hc.old hlive
  rw [Framebuffer.copyPlanes_eq]
  refine Ends.forM_range (fun p r' => Wiping fb sh b c r.host.faults n p r'.host) ?_
    (fun p hp r' hw => ?_) fun r' hw => hw.target
  · refine ⟨⟨c.bytes, hlive', rfl, Bytes.zeroed_self fun j hj => ?_⟩, hv.self, fun k => ?_, ?_⟩
    · exact Framebuffer.not_wiped (Nat.zero_le n) hj.2
    · rw [Nat.zero_add]
    · intro q _ hq
      cases hq
  · refine (hw.next hp hc.sound hne.symm hv.mapped (hfill c hlive)).mono ?_
    intro o r'' ho
    cases o with
    | ok _ => exact ho
    | error _ => exact ho

/-! ### The opening of a view -/

/-- Where the filling of a linear copy stops in the opening of a view, if it does: the copy, the
number of planes that it holds, and what is left. -/
def halted {σ : Type} [Backend σ] (fb : Framebuffer) (r : Run σ) : Option (Shadow × Nat × Run σ) :=
  match if Route.of fb = .convert then fb.format.ensureConvertible else .ok () with
  | .error _ => none
  | .ok _ => if fb.tiling.needsBlit then fillStop fb (started fb r) else none

/-- The bytes of the framebuffer's buffer that an opening that fails leaves zero. -/
def Wipes (fb : Framebuffer) (r : Run (Monitor Store)) (c : Buffer) (j : Nat) : Prop :=
  c.mapping = none ∧ ∃ sh n r₁, halted fb r = some (sh, n, r₁) ∧
    fb.Wiped r₁.host.faults c.bytes.size n fb.numPlanes j

/-- What is left of the image when a view is given up that was never opened, for want of a copy that
could be filled. -/
lemma ends_dispose_unfilled {r : Run (Monitor Store)} (hc : Copied fb s₀ sh n r.host.host)
    (hlive : s₀.buffer? fb.buffer = some c) :
    Ends (shadowed fb sh).dispose r fun _ r' =>
      WipedTo fb c r.host.faults n fb.numPlanes r'.host.host := by
  have hne : fb.buffer ≠ sh.buffer := (hc.old hlive).1
  have steps : (shadowed fb sh).closing (σ := Monitor Store) =
      [pure (), fb.copyPlanes sh.surface? fb.surface?, Backend.free sh.buffer] := rfl
  -- the buffer of the copy is another one than that of the framebuffer
  have freed : ∀ s, Does (σ := Monitor Store) (fun _ => False) (Backend.free sh.buffer) s
      fun _ s' => s'.buffer? fb.buffer = s.buffer? fb.buffer := fun s =>
    does_free (fun _ _ => rfl) (fun _ => rfl) (fun _ _ _ => rfl)
      fun _ _ _ _ hsets => hsets.other hne
  refine ends_dispose (R := fun m : Monitor Store =>
    WipedTo fb c r.host.faults n fb.numPlanes m.host) rfl ?_
  -- nothing is mapped, so that the copies back come first
  rw [steps, ends_attemptAll_cons, ends_pure, ends_attemptAll_cons]
  refine (ends_wipe (r := (shadowed fb sh).ended r) hc hlive).mono ?_
  intro o r' hw
  rw [ends_attemptAll_cons]
  refine (freed r'.host.host r' rfl nofun).mono ?_
  intro o r'' h
  obtain ⟨d, hd, hz⟩ := hw
  exact ⟨d, h.2.trans hd, hz⟩

/-- An opening that does not halt while a copy is filled wipes nothing. -/
lemma not_wipes {r : Run (Monitor Store)} {j : Nat} (h : halted fb r = none) : ¬Wipes fb r c j := by
  rintro ⟨-, sh, n, r₁, hsome, -⟩
  simp [h] at hsome

/-- The image is as an opening that fails leaves it: with zeros in the bytes that are wiped. -/
def Spoilt (fb : Framebuffer) (r : Run (Monitor Store)) (c : Buffer) (s : Store) : Prop :=
  ∃ d, s.buffer? fb.buffer = some { c with bytes := d } ∧ d.size = c.bytes.size ∧
    Bytes.Zeroed (Wipes fb r c) c.bytes d

/-- What is settled with the bytes as they were has not been wiped. -/
lemma spoilt_of_settles {freed : Prop} {r : Run (Monitor Store)} {s : Store}
    (hlive : r.host.host.buffer? fb.buffer = some c) (hnone : halted fb r = none)
    (hs : r.host.host.Settles freed fb.buffer (fun c d => d = c) s) : Spoilt fb r c s :=
  ⟨c.bytes, hs.unchanged hlive, rfl, Bytes.zeroed_self fun _ => not_wipes hnone⟩

/-- A copy that could not be filled wipes what it is copied back over. -/
lemma spoilt_of_halted {r r₁ : Run (Monitor Store)} {s : Store}
    (h : halted fb r = some (sh, n, r₁))
    (hwiped : WipedTo fb c r₁.host.faults n fb.numPlanes s) : Spoilt fb r c s := by
  obtain ⟨d, hd, hsize, hz⟩ := hwiped
  refine ⟨d, hd, hsize, hz.congr fun j => and_congr_right fun _ => ?_⟩
  refine ⟨fun hw => ⟨sh, n, r₁, h, hw⟩, ?_⟩
  rintro ⟨sh', n', r₂, h', hw⟩
  cases h.symm.trans h'
  exact hw

/-- What an opening that has stopped makes of the image when it is given up. -/
lemma Stopped.ends_dispose_spoilt {r r₁ : Run (Monitor Store)} {v : View}
    (hv : Stopped fb (started fb r) v r₁) (hlive : r.host.host.buffer? fb.buffer = some c)
    (halts : halted fb r = if fb.tiling.needsBlit then fillStop fb (started fb r) else none) :
    Ends v.dispose r₁ fun _ r' => Spoilt fb r c r'.host.host := by
  -- no request has to succeed for what follows
  have hl : StoreHost.LetsAll (fun _ => False) r₁.host := fun k hk => hk.elim
  have filled (hfill : fb.tiling.needsBlit → fillStop fb (started fb r) = none) :
      halted fb r = none := by
    rw [halts]
    split
    · next hb => exact hfill hb
    · rfl
  cases hv with
  | nothing hv hfill same =>
      subst hv
      have hclosed : Does (σ := Monitor Store) (fun _ => False)
          (Act.attemptAll (unopened fb).closing) r₁.host.host
          fun _ s => r.host.host.Settles True fb.buffer (fun c d => d = c) s :=
        does_closing_nothing rfl rfl same fun _ _ => rfl
      exact (does_dispose rfl hclosed r₁ rfl hl).mono fun _ _ h =>
        spoilt_of_settles hlive (filled hfill) h.2
  | loaded b hfb hr hsc hfill hv =>
      subst hfb
      have hclosed : Does (σ := Monitor Store) (fun _ => False) (Act.attemptAll v.closing)
          r₁.host.host _ := hv.does_closing hsc
      exact (does_dispose hr hclosed r₁ rfl hl).mono fun _ _ h =>
        spoilt_of_settles hlive (filled hfill) h.2
  | unfilled sh n hv hb hfill _ hc =>
      subst hv
      rw [if_pos hb, hfill] at halts
      exact (ends_dispose_unfilled hc hlive).mono fun _ _ => spoilt_of_halted halts

/-- What an opening that fails makes of the image. -/
lemma ends_acquire_spoilt [Machine] {r : Run (Monitor Store)}
    (hlive : r.host.host.buffer? fb.buffer = some c) :
    Ends (acquire fb) r fun o r' => ∀ f, o = .error f → Spoilt fb r c r'.host.host := by
  rw [ends_acquire]
  split
  · next f hf =>
    -- nothing has been asked of the host yet
    intro _ _
    have same : r.host.host.Settles True fb.buffer (fun c d => d = c) r.host.host :=
      .of_same (fun _ _ => rfl) rfl
    exact spoilt_of_settles hlive (by rw [halted, hf]) same
  · next u hu =>
    have hl : StoreHost.LetsAll (fun _ => False) (started fb r).host := fun k hk => hk.elim
    refine (ends_opening hl).mono ?_
    intro o p hp
    obtain ⟨-, ho⟩ := hp
    cases o with
    | ok _ =>
        intro f hf
        cases hf
    | error f =>
        refine (ho.1.ends_dispose_spoilt hlive (by rw [halted, hu])).mono ?_
        intro o r' h
        cases o <;> exact fun _ _ => h

/-- **An opening that fails leaves zeros in the bytes that are wiped**, and every other byte as it
was. The image is kept exactly when there were zeros already, and other buffers are kept in any
case. -/
theorem acquire_wipes [Machine] {r r' : Run (Monitor Store)} {f : Failure}
    (h : acquire fb r = .error f r') :
    (∀ k ≠ fb.buffer, ∀ b, r.host.host.buffer? k = some b → r'.host.host.buffer? k = some b) ∧
      ∀ c, r.host.host.buffer? fb.buffer = some c → ∃ d,
        r'.host.host.buffer? fb.buffer = some { c with bytes := d } ∧ d.size = c.bytes.size ∧
          (∀ j, (Wipes fb r c j → d[j]? = some 0) ∧ (¬Wipes fb r c j → d[j]? = c.bytes[j]?)) ∧
          (d = c.bytes ↔ ∀ j, Wipes fb r c j → c.bytes[j]? = some 0) := by
  have hsettled : Ends (acquire fb) r _ := does_acquire r rfl fun k (hk : False) => hk.elim
  refine ⟨(hsettled.of_error h).2.other, fun c hlive => ?_⟩
  obtain ⟨d, hd, hsize, hz⟩ := (ends_acquire_spoilt hlive).of_error h f rfl
  exact ⟨d, hd, hsize, hz, hz.eq_iff⟩

/-- A framebuffer of one pixel in a buffer of four bytes, whose tiling no mapping can undo. -/
def dot : Framebuffer :=
  ⟨⟨1⟩, 1, 1, .xrgb8888, .yf, .standard, ⟨4, 4, Vector.replicate maxPlanes 0⟩⟩

/-- A store with the dot, in which no tiling can be declared the next time. -/
def dotted : Run (Monitor Store) :=
  ⟨⟨⟨0, #[none, some ⟨⟨#[1, 2, 3, 4]⟩, .yf, 4, none⟩], {}⟩, [⟨.setTiling, 0, 1⟩], #[]⟩, #[]⟩

/-- The dot is gone. -/
lemma acquire_dot : ∃ f r', acquire dot dotted = .error f r' ∧
    r'.host.host.buffer? ⟨1⟩ = some ⟨⟨#[0, 0, 0, 0]⟩, .yf, 4, none⟩ :=
  ⟨_, _, rfl, rfl⟩

theorem acquire_spoils : ∃ f r' b b', acquire dot dotted = .error f r' ∧
    dotted.host.host.buffer? dot.buffer = some b ∧ r'.host.host.buffer? dot.buffer = some b' ∧
      b'.bytes ≠ b.bytes := by
  obtain ⟨f, r', h, hb⟩ := acquire_dot
  exact ⟨f, r', _, _, h, rfl, hb, by decide⟩

theorem acquire_dot_wipes : ∃ f r', acquire dot dotted = .error f r' ∧
    (∀ k ≠ dot.buffer, ∀ b, dotted.host.host.buffer? k = some b →
      r'.host.host.buffer? k = some b) ∧
    ∀ c, dotted.host.host.buffer? dot.buffer = some c → ∃ d,
      r'.host.host.buffer? dot.buffer = some { c with bytes := d } ∧ d.size = c.bytes.size ∧
        (∀ j, (Wipes dot dotted c j → d[j]? = some 0) ∧
          (¬Wipes dot dotted c j → d[j]? = c.bytes[j]?)) ∧
        (d = c.bytes ↔ ∀ j, Wipes dot dotted c j → c.bytes[j]? = some 0) := by
  obtain ⟨f, r', h, -⟩ := acquire_dot
  exact ⟨f, r', h, acquire_wipes h⟩

end View

end Scanout
