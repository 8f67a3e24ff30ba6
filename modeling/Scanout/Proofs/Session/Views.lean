/-
What the actions of a session that work on a framebuffer leave behind.

* `Session.does_viewOp`, `Session.does_viewOps`: a view stays open whatever is done with it;
* `Session.does_view`, `Session.does_draw`: **what an action acquires it gives back**.
-/
import Scanout.Proofs.View.Editing
import Scanout.Session.Step

namespace Scanout.Session

variable {σ : Type} [Backend σ] [StoreHost σ] {lets : CallKind → Prop} {s s₀ : Store}
  {fb : Framebuffer} {v : View}

/-- A view stays open whatever is done with it, and as it was when that fails. -/
lemma does_viewOp (op : ViewOp) (hv : View.Alive fb s₀ v s) :
    Does (σ := σ) lets (viewOp v op) s fun o s' =>
      match o with
      | .ok (_, v') => View.Alive fb s₀ v' s'
      | .error _ => View.Alive fb s₀ v s' := by
  -- what is only read leaves the view, and writing and drawing keep it alive
  cases op with
  | info => exact does_pure hv
  | len => exact does_host_bind fun _ _ => does_pure hv
  | read pos len =>
      refine does_host_bind fun _ _ => does_bind (does_ofChecked ?_)
      split
      · exact does_pure hv
      · exact hv
  | write pos new =>
      refine does_host_bind fun _ _ => does_bind (does_ofChecked ?_)
      split
      · exact does_bind (View.does_setPixels (does_pure (hv.setPixels _)))
      · exact hv
  | canvas steps =>
      refine does_bind ((View.does_edit_alive hv).mono fun o s' ho => ?_)
      cases o with
      | ok p => exact does_pure ho
      | error f => exact ho

/-- What is left to do with a view once one thing has been answered. -/
def viewRest (ops : List ViewOp) (reply : Checked ViewReply) (v : View) :
    Act σ (List (Checked ViewReply) × View) :=
  if ViewReply.crashed reply then
    return ([reply], v)
  else do
    let (replies, v) ← viewOps ops v
    return (reply :: replies, v)

/-- A view stays open whatever is done with it one after the other, and none of it fails the whole.
-/
lemma does_viewOps (ops : List ViewOp) (hv : View.Alive fb s₀ v s) :
    Does (σ := σ) lets (viewOps ops v) s fun o s' =>
      ∃ replies v', o = .ok (replies, v') ∧ View.Alive fb s₀ v' s' := by
  induction ops generalizing v s with
  | nil => exact does_pure ⟨[], v, rfl, hv⟩
  | cons op ops ih =>
      have rest : ∀ (reply : Checked ViewReply) (v' : View) (s' : Store), View.Alive fb s₀ v' s' →
          Does (σ := σ) lets (viewRest ops reply v') s' fun o s' =>
            ∃ replies v', o = .ok (replies, v') ∧ View.Alive fb s₀ v' s' := by
        intro reply v' s' hv'
        rw [viewRest]
        split
        · exact does_pure ⟨[reply], v', rfl, hv'⟩
        · refine does_bind ((ih hv').mono fun o s'' ho => ?_)
          obtain ⟨replies, v'', rfl, hv''⟩ := ho
          exact does_pure ⟨reply :: replies, v'', rfl, hv''⟩
      refine does_bind (does_attempt ((does_viewOp op hv).mono fun o s' ho => ?_))
      rcases o with f | ⟨reply, v'⟩
      · exact does_bind (does_pure (rest _ _ _ ho))
      · exact does_bind (does_pure (rest _ _ _ ho))

/-- **What is acquired for a view is given back**, whatever is done with it and however it ends. -/
lemma does_view [Machine] {ops : List ViewOp} {ending : ViewEnd} :
    Does (σ := σ) lets (view fb ops ending) s fun _ s' =>
      s.Settles (lets .free) fb.buffer (fun _ _ => True) s' := by
  rw [view]
  refine does_bind (View.does_acquire.mono fun o s₁ ho => ?_)
  cases o with
  | error f => exact ho
  | ok v =>
      obtain ⟨b, m, -, hv⟩ := ho
      refine does_bind ((does_viewOps ops hv.alive).mono fun o s₂ ho => ?_)
      obtain ⟨replies, v', rfl, hv'⟩ := ho
      cases ending with
      | finish =>
          refine does_bind (does_attempt (hv'.does_finish.mono fun o s₃ hs => ?_))
          exact does_pure hs
      | drop =>
          refine does_bind (hv'.does_dispose.mono fun o s₃ hs => ?_)
          cases o with
          | ok _ => exact does_pure hs
          | error _ => exact hs

/-- **What is acquired to run a script is given back**, whatever becomes of it. -/
lemma does_draw [Machine] {steps : List CanvasStep} :
    Does (σ := σ) lets (draw fb steps) s fun _ s' =>
      s.Settles (lets .free) fb.buffer (fun _ _ => True) s' := by
  rw [draw]
  refine does_bind (does_attempt (View.does_acquire.mono fun o s₁ ho => ?_))
  cases o with
  | error f => exact does_pure ho
  | ok v =>
      obtain ⟨b, m, -, hv⟩ := ho
      refine does_bind (does_attempt ((View.does_edit_alive hv.alive).mono fun o s₂ ho => ?_))
      rcases o with f | ⟨readings, v'⟩
      · refine does_bind (ho.does_dispose.mono fun o s₃ hs => ?_)
        cases o with
        | ok _ => exact does_pure hs
        | error _ => exact hs
      · exact does_bind (does_attempt (ho.does_finish.mono fun o s₃ hs => does_pure hs))

end Scanout.Session
