/-
Work on the pixels of a view.

* `View.Alive`: a view is open on a framebuffer, over a store, and `View.Alive.other` leaves all
  other buffers as they were;
* `View.does_setPixels`, `View.does_edit`: changes of the pixels, and work on a canvas over them;
* `View.paintAll`: pixels that are changed any number of times;
* `View.Alive.setPixels`, `View.does_edit_alive`: **a view stays open whatever is painted**;
* `View.Alive.does_dispose`, `View.Alive.does_finish`: however a view ends, everything is given
  back.
-/
import Scanout.Proofs.View.Opening

namespace Scanout.View

variable {σ α : Type} [Backend σ] [StoreHost σ] {lets : CallKind → Prop} {s s₀ s' : Store}
  {fb : Framebuffer} {v : View} {b : Buffer}

/-- A view is open on a framebuffer, over a store. -/
structure Alive (fb : Framebuffer) (s₀ : Store) (v : View) (s : Store) : Prop where
  framebuffer : v.framebuffer = fb
  unreleased : v.released = false
  held : ∃ b, v.Held s₀ b s

lemma Opened.alive {m : Mapping} (hv : Opened fb s₀ v b m s) : Alive fb s₀ v s :=
  ⟨hv.framebuffer, hv.unreleased, b, hv.loaded.held⟩

/-- Changes the bytes of the pixels time and again. -/
def paintAll {σ : Type} [Backend σ] (v : View) (edits : List Bytes) : Act σ View :=
  edits.foldlM setPixels v

/-- A view whose pixels have changed: those of the converted image, or those that are mapped. -/
def painted (v : View) (bytes : Bytes) : View :=
  match v.scratch with
  | some sc => { v with scratch := some { sc with data := bytes } }
  | none => v

/-- A store in which the pixels of a view have changed. -/
def paintedStore (v : View) (bytes : Bytes) (s : Store) : Store :=
  match v.scratch, v.mapping with
  | none, some m => s.setWindow m bytes
  | _, _ => s

lemma does_setPixels {bytes : Bytes} {Q : Checked View → Store → Prop}
    (h : Q (.ok (v.painted bytes)) (v.paintedStore bytes s)) :
    Does (σ := σ) lets (v.setPixels bytes) s Q := by
  rw [setPixels]
  rw [painted, paintedStore] at h
  split
  · next sc _ hsc =>
    rw [hsc] at h
    exact does_pure h
  · next m hsc hm =>
    rw [hsc, hm] at h
    exact does_bind (does_setWindow fun _ _ => does_pure h)
  · next hsc hm =>
    rw [hsc, hm] at h
    exact does_pure h

/-- The pixels of a view are those that a host shows of the same store. -/
lemma pixels_eq {host : σ} (hs : StoreHost.store host = s) : v.pixels host = v.pixels s := by
  simp only [pixels]
  split
  · rfl
  · rw [StoreHost.window, hs]
    rfl
  · rfl

/-- Work on a canvas is done on the pixels as they are, and changes no more than them. -/
lemma does_edit {work : Canvas → α × Canvas} {Q : Checked (α × View) → Store → Prop}
    (h : match v.canvas s with
      | .ok c => Q (.ok ((work c).1, v.painted (work c).2.data)) (v.paintedStore (work c).2.data s)
      | .error f => Q (.error f) s) : Does (σ := σ) lets (v.edit work) s Q := by
  rw [edit]
  refine does_host_bind fun host hhost => does_bind (does_ofChecked ?_)
  have hcanvas : v.canvas host = v.canvas s := by
    simp only [canvas]
    rw [pixels_eq hhost]
  rw [hcanvas]
  cases hc : v.canvas s with
  | error f => simpa only [hc] using h
  | ok c =>
      rw [hc] at h
      exact does_bind (does_setPixels (does_pure h))

/-- A view stays open when its pixels change. -/
lemma Alive.setPixels (hv : Alive fb s₀ v s) (bytes : Bytes) :
    Alive fb s₀ (v.painted bytes) (v.paintedStore bytes s) := by
  obtain ⟨hfb, hr, b, hheld⟩ := hv
  rw [painted, paintedStore]
  cases hsc : v.scratch with
  | some sc =>
      exact ⟨hfb, hr, b, hheld.sets, hheld.mapped, hheld.own, hheld.fresh, hheld.kept⟩
  | none =>
      cases hm : v.mapping with
      | none => exact ⟨hfb, hr, b, hheld⟩
      | some m => exact ⟨hfb, hr, _, hheld.setWindow hm bytes⟩

/-- A buffer that there was when a view was opened on another one is as it was. -/
lemma Alive.other {k : Handle} (hv : Alive fb s₀ v s) (hk : k ≠ fb.buffer)
    (hb : s₀.buffer? k = some b) : s.buffer? k = some b := by
  obtain ⟨rfl, -, _, hheld⟩ := hv
  have hne : k ≠ v.target := by
    rintro rfl
    cases hs : v.shadow with
    | none =>
        rw [target, hs] at hk
        exact hk rfl
    | some sh => simp [hheld.fresh (hs ▸ Option.some_ne_none sh)] at hb
  exact (hheld.sets.other hne).trans hb

/-- A view stays open when its pixels are changed. -/
lemma does_setPixels_alive {bytes : Bytes} (hv : Alive fb s₀ v s) :
    Does (σ := σ) lets (v.setPixels bytes) s fun o s' =>
      match o with
      | .ok v' => Alive fb s₀ v' s'
      | .error _ => Alive fb s₀ v s' :=
  does_setPixels (hv.setPixels bytes)

/-- **A view stays open whatever is painted**, and as it was when there is no canvas over it. -/
lemma does_edit_alive {work : Canvas → α × Canvas} (hv : Alive fb s₀ v s) :
    Does (σ := σ) lets (v.edit work) s fun o s' =>
      match o with
      | .ok (_, v') => Alive fb s₀ v' s'
      | .error _ => Alive fb s₀ v s' := by
  refine does_edit ?_
  split
  · exact hv.setPixels _
  · exact hv

/-- Everything is given back when a view that is open is given up. -/
lemma Alive.does_dispose (hv : Alive fb s₀ v s) :
    Does (σ := σ) lets v.dispose s fun _ s' =>
      s₀.Settles (lets .free) fb.buffer (fun _ _ => True) s' := by
  obtain ⟨rfl, hr, b, hheld⟩ := hv
  exact View.does_dispose hr (does_closing (.held b hheld))

/-- Everything is given back at the end of a view that is open. -/
lemma Alive.does_finish (hv : Alive fb s₀ v s) :
    Does (σ := σ) lets v.finish s fun _ s' =>
      s₀.Settles (lets .free) fb.buffer (fun _ _ => True) s' := by
  obtain ⟨rfl, hr, b, hheld⟩ := hv
  refine View.does_finish hr ((does_closing (.held b hheld)).mono fun o s' hs => ?_)
  cases o <;> exact hs

end Scanout.View
