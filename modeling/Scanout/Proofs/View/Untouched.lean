/-
A view that is opened and closed with nothing done in between.

* `Store.Settles.keeps`: a store that is settled with no byte changed has kept its buffers;
* `View.Opened.does_closing`: what has been opened and not painted is given back as it was;
* `View.leave_untouched`: **a view of packed pixels that is not painted leaves every buffer as it
  was**, whichever requests of its end are refused.
-/
import Scanout.Proofs.Framebuffer.Creating
import Scanout.Proofs.View.Opening

namespace Scanout

/-- A store that is settled with no byte changed has kept its buffers. -/
lemma Store.Settles.keeps {freed : Prop} {h : Handle} {s s' : Store}
    (hs : s.Settles freed h (fun c d => d = c) s') : s.Keeps freed s' := by
  refine ⟨fun k b hb => ?_, hs.gone⟩
  by_cases hk : k = h
  · subst hk
    exact hs.unchanged hb
  · exact hs.other k hk b hb

namespace View

variable {σ : Type} [Backend σ] [StoreHost σ] {lets : CallKind → Prop} {fb : Framebuffer}
  {v : View} {b : Buffer} {m : Mapping} {s₀ s : Store}

/-- What has been opened and not painted is given back as it was. -/
lemma Opened.does_closing (hv : Opened fb s₀ v b m s) (hsc : v.scratch = none) :
    Does (σ := σ) lets (Act.attemptAll v.closing) s fun _ s' => s₀.Keeps (lets .free) s' :=
  (hv.loaded.does_closing hsc).mono fun _ _ hs => hs.keeps

/-- **A view of packed pixels that is not painted leaves every buffer as it was**, that of the
framebuffer with all its bytes among them. The framebuffer may have any size and stride, so that its
rows may share bytes: what the linear copy puts back into a row is what it took from there. Any
requests may be refused when the view ends, and none but the return of the linear copy leaves a
buffer behind that was not there. -/
theorem leave_untouched [Machine] {u u' r : Run σ} (hpacked : ¬fb.format.isPlanar)
    (hacquire : acquire fb u = .ok v u')
    (hr : StoreHost.store r.host = StoreHost.store u'.host) :
    ∀ leave ∈ [finish, dispose], Ends (leave v) r fun _ t =>
      (StoreHost.store u.host).Keeps (StoreHost.Lets r.host .free) (StoreHost.store t.host) := by
  obtain ⟨b, m, hshows, hv⟩ := opened_of_acquire hacquire
  have hsc : v.scratch = none := hshows.scratch_none (hv.framebuffer ▸ hpacked)
  have hclosing : Does (StoreHost.Lets r.host) (Act.attemptAll v.closing)
      (StoreHost.store u'.host) _ := hv.does_closing (σ := σ) hsc
  let R : σ → Prop := fun host =>
    (StoreHost.store u.host).Keeps (StoreHost.Lets r.host .free) (StoreHost.store host)
  intro leave hleave
  refine ends_leave (R := R) hv.unreleased hleave ?_
  exact (hclosing (v.ended r) hr fun _ => id).mono fun _ _ ht => ht.2

/-- Two rows of two pixels, of which the second begins in the middle of the first, in tiles that no
mapping can undo. -/
def overlapping : Framebuffer :=
  ⟨⟨1⟩, 2, 2, .xrgb8888, .yf, .standard, ⟨4, 12, Vector.replicate maxPlanes 0⟩⟩

/-- A buffer with the overlapping rows. -/
def shared : Buffer :=
  ⟨⟨#[1, 2, 3, 4, 5, 6, 7, 8, 9, 10, 11, 12]⟩, .yf, 4, none⟩

/-- A store with that buffer. -/
def sharing : Run (Monitor Store) :=
  ⟨⟨⟨0, #[none, some shared], {}⟩, [], #[]⟩, #[]⟩

lemma overlapping_viewable :
    overlapping.Viewable (Fault.Lets sharing.host.faults) sharing.host.host shared := by
  refine ⟨fun _ _ hf => (nomatch hf), rfl, ⟨rfl, by decide, ?_⟩, _, rfl⟩
  intro plane hplane area ha row hrow
  obtain rfl : plane = 0 := Nat.lt_one_iff.1 hplane
  cases ha
  have : row < 2 := hrow
  show 0 + row * 4 + 8 ≤ 12
  omega

/-- Rows that share bytes are put back whatever is refused from then on. -/
theorem leave_overlapping_untouched : ∃ v u', acquire overlapping sharing = .ok v u' ∧
    ∀ faults, ∀ leave ∈ [finish, dispose],
      Ends (leave v) ⟨{ u'.host with faults }, u'.log⟩ fun _ t =>
        t.host.host.buffer? overlapping.buffer = some shared := by
  have hpacked : ¬overlapping.format.isPlanar := by decide
  obtain ⟨v, u', hacquire, -⟩ := exists_acquire_packed (r := sharing) hpacked overlapping_viewable
  refine ⟨v, u', hacquire, fun faults leave hleave => ?_⟩
  have kept := leave_untouched (r := ⟨{ u'.host with faults }, u'.log⟩) hpacked hacquire rfl
    leave hleave
  exact kept.mono fun _ _ ht => ht.old overlapping.buffer shared rfl

end View

end Scanout
