/-
Framebuffers do not interfere with each other.

* `Bench.Operation`: what is done with the framebuffers of a host, one thing after the other;
* `Bench`, `Bench.perform`: a host with the view that is open on it, and what an operation leaves of
  both;
* `Bench.Operation.Spares`: an operation is not on the framebuffer with some buffer;
* `Bench.Spared`: a buffer is as it was, and so it was when the view was opened;
* `Bench.Spared.perform`, `Bench.Spared.performAll`: it stays so;
* `Bench.performAll_spares`: **whatever is done with framebuffers, and whatever requests are
  refused, leaves all other buffers as they were**.
-/
import Scanout.Proofs.Framebuffer.Painting

namespace Scanout

/-- What is done with the framebuffers of a host, one thing after the other. -/
inductive Bench.Operation where
  /-- A view is opened. -/
  | acquire (fb : Framebuffer)
  /-- The pixels of the view are changed. -/
  | setPixels (bytes : Bytes)
  /-- Work is done on a canvas over them. -/
  | edit (work : Canvas → Canvas)
  | finish
  | dispose
  | draw (fb : Framebuffer) (strokes : List Stroke)
  | remove (fb : Framebuffer)
  | create (code : FourCC) (g : Framebuffer.Geometry)
  | createPainted (code : FourCC) (g : Framebuffer.Geometry) (strokes : List Stroke)
  /-- Other requests are made to fail from now on. -/
  | setFaults (faults : List Fault)

/-- A host that is watched, with the view that is open on it. As long as one is, nothing else is
done with framebuffers. -/
structure Bench where
  run : Run (Monitor Store)
  view : Option View

namespace Bench

/-- What an operation leaves of a host and of the view on it. One that there is no occasion for
leaves everything. -/
def perform [Machine] : Bench → Operation → Bench
  | ⟨r, view⟩, .setFaults faults => ⟨⟨{ r.host with faults }, r.log⟩, view⟩
  | ⟨r, none⟩, .acquire fb =>
    match View.acquire fb r with
    | .ok v r => ⟨r, some v⟩
    | .error _ r => ⟨r, none⟩
  | ⟨r, none⟩, .draw fb strokes => ⟨(fb.draw strokes).leaves r, none⟩
  | ⟨r, none⟩, .remove fb => ⟨fb.remove.leaves r, none⟩
  | ⟨r, none⟩, .create code g => ⟨(Framebuffer.create code g).leaves r, none⟩
  | ⟨r, none⟩, .createPainted code g strokes =>
    ⟨(Framebuffer.createPainted code g strokes).leaves r, none⟩
  | ⟨r, some v⟩, .setPixels bytes =>
    match v.setPixels bytes r with
    | .ok v r => ⟨r, some v⟩
    | .error _ r => ⟨r, some v⟩
  | ⟨r, some v⟩, .edit work =>
    match v.edit (fun c => ((), work c)) r with
    | .ok (_, v) r => ⟨r, some v⟩
    | .error _ r => ⟨r, some v⟩
  | ⟨r, some v⟩, .finish => ⟨v.finish.leaves r, none⟩
  | ⟨r, some v⟩, .dispose => ⟨v.dispose.leaves r, none⟩
  | bench, _ => bench

/-- What operations leave, one after the other. -/
def performAll [Machine] (bench : Bench) (ops : List Operation) : Bench :=
  ops.foldl perform bench

/-- An operation is not on the framebuffer with a buffer. -/
def Operation.Spares (k : Handle) : Operation → Prop
  | acquire fb | draw fb _ | remove fb => fb.buffer ≠ k
  | _ => True

/-- The buffers of the host. -/
def store (bench : Bench) : Store :=
  bench.run.host.host

/-- A buffer is as it was. Where a view is open, it is on another one, and the buffer is as it was
when the view was opened. -/
inductive Spared (k : Handle) (c : Buffer) : Bench → Prop where
  | closed {r : Run (Monitor Store)} (hc : (StoreHost.store r.host).buffer? k = some c) :
      Spared k c ⟨r, none⟩
  | viewed {r : Run (Monitor Store)} {fb : Framebuffer} {v : View} {s₀ : Store}
      (hv : View.Alive fb s₀ v (StoreHost.store r.host)) (hk : fb.buffer ≠ k)
      (hc : s₀.buffer? k = some c) : Spared k c ⟨r, some v⟩

variable {bench : Bench} {op : Operation} {ops : List Operation} {k : Handle} {c : Buffer}

namespace Spared

lemma buffer? (hb : bench.Spared k c) : bench.store.buffer? k = some c := by
  cases hb with
  | closed hc => exact hc
  | viewed hv hk hc => exact hv.other hk.symm hc

/-- It stays spared by an operation that is not on its framebuffer. -/
lemma perform [Machine] (hb : bench.Spared k c) (hop : op.Spares k) :
    (bench.perform op).Spared k c := by
  -- without a view an operation is one on a framebuffer; with a view it is one on the view, or none
  cases hb with
  | @closed r hc =>
      cases op with
      | acquire fb =>
          rw [Bench.perform]
          split
          · next v r' hr =>
            obtain ⟨b, m, -, hv⟩ := View.opened_of_acquire hr
            exact .viewed hv.alive hop hc
          · next f r' hr =>
            exact .closed ((View.does_acquire.ends.of_error hr).other k hop.symm c hc)
      | draw fb strokes => exact .closed (Framebuffer.does_draw.leaves.other k hop.symm c hc)
      | remove fb => exact .closed ((Framebuffer.does_remove.leaves k hop.symm).trans hc)
      | create code g => exact .closed (Framebuffer.does_create_keeps.leaves.old k c hc)
      | createPainted code g strokes =>
          exact .closed (Framebuffer.does_createPainted_keeps.leaves.old k c hc)
      | _ => exact .closed hc
  | @viewed r fb v s₀ hv hk hc =>
      cases op with
      | setPixels bytes =>
          rw [Bench.perform]
          split
          · next v' r' hr => exact .viewed ((View.does_setPixels_alive hv).ends.of_ok hr) hk hc
          · next f r' hr => exact .viewed ((View.does_setPixels_alive hv).ends.of_error hr) hk hc
      | edit work =>
          rw [Bench.perform]
          split
          · next v' r' hr => exact .viewed ((View.does_edit_alive hv).ends.of_ok hr) hk hc
          · next f r' hr => exact .viewed ((View.does_edit_alive hv).ends.of_error hr) hk hc
      | finish => exact .closed (hv.does_finish.leaves.other k hk.symm c hc)
      | dispose => exact .closed (hv.does_dispose.leaves.other k hk.symm c hc)
      | _ => exact .viewed hv hk hc

/-- It stays spared by operations that are not on its framebuffer. -/
lemma performAll [Machine] (hb : bench.Spared k c) (hops : ∀ op ∈ ops, op.Spares k) :
    (bench.performAll ops).Spared k c := by
  induction ops generalizing bench with
  | nil => exact hb
  | cons op ops ih =>
      exact ih (hb.perform (hops op List.mem_cons_self)) fun op' hop' =>
        hops op' (List.mem_cons_of_mem _ hop')

end Spared

/-- **Framebuffers do not interfere with each other.** Operations are done one after the other, none
of them on the framebuffer with some buffer, and requests are refused as the faults say that are set
at first and on the way. Then the buffer holds the bytes that it held, with the tiling and the
stride that were declared for it. -/
theorem performAll_spares [Machine] {r : Run (Monitor Store)} (hc : r.host.host.buffer? k = some c)
    (hops : ∀ op ∈ ops, op.Spares k) :
    (performAll ⟨r, none⟩ ops).store.buffer? k = some c :=
  ((Spared.closed hc).performAll hops).buffer?

/-- A framebuffer of one pixel that is drawn on in a linear copy, in as many bytes as it needs. -/
def tightDot : Framebuffer.Geometry :=
  { device := .standard, width := 1, height := 1, tiling := .yf, size := 4, stride := 4 }

theorem performAll_dots_spares : ∃ (fb fb' : Framebuffer) (r r' : Run (Monitor Store)) (c : Buffer),
    Framebuffer.create (PixelFormat.codeOf 'X' 'R' '2' '4') tightDot
        ⟨Monitor.ofHost (Store.empty 0), #[]⟩ = .ok fb r ∧
      Framebuffer.create (PixelFormat.codeOf 'X' 'R' '2' '4') tightDot r = .ok fb' r' ∧
      r'.host.host.buffer? fb.buffer = some c ∧
      (performAll ⟨r', none⟩
        [.setFaults [⟨.copy, 1, 1⟩], .acquire fb', .setPixels (Bytes.zeros 4), .finish,
          .createPainted (PixelFormat.codeOf 'X' 'R' '2' '4') tightDot [.pattern],
          .remove fb']).store.buffer? fb.buffer = some c := by
  obtain ⟨fb, r, fb', r', c, hfb, hfb', hc, hne⟩ : ∃ fb r fb' r' c,
      Framebuffer.create (PixelFormat.codeOf 'X' 'R' '2' '4') tightDot
          (⟨Monitor.ofHost (Store.empty 0), #[]⟩ : Run (Monitor Store)) = .ok fb r ∧
        Framebuffer.create (PixelFormat.codeOf 'X' 'R' '2' '4') tightDot r = .ok fb' r' ∧
        r'.host.host.buffer? fb.buffer = some c ∧ fb'.buffer ≠ fb.buffer :=
    ⟨_, _, _, _, _, rfl, rfl, rfl, by decide⟩
  refine ⟨fb, fb', r, r', c, hfb, hfb', hc, performAll_spares hc fun op hop => ?_⟩
  simp only [List.mem_cons, List.not_mem_nil, or_false] at hop
  rcases hop with rfl | rfl | rfl | rfl | rfl | rfl
  all_goals first | exact hne | trivial

end Bench

end Scanout
