/-
The making of a framebuffer.

* `Framebuffer.prepared`: the bytes of a new buffer once it has been prepared;
* `Framebuffer.does_prepare`: a buffer that is prepared is changed in its bytes and declarations,
  and not mapped in the end, whatever is refused;
* `Framebuffer.Made`: a framebuffer in a new buffer;
* `Framebuffer.does_create`: **a framebuffer is made, or the store keeps what it had**;
* `Framebuffer.does_create_keeps`, `Framebuffer.does_remove`: no other buffer is touched when one is
  made, or when it goes away.
-/
import Scanout.Framebuffer.Create
import Scanout.Proofs.Store.Requests

namespace Scanout

variable {σ : Type} [Backend σ] [StoreHost σ] {lets : CallKind → Prop} {s s' : Store} {h : Handle}

/-- The buffers of a store are all there as they were, and none is new where every return was let
through. -/
structure Store.Keeps (freed : Prop) (s s' : Store) : Prop where
  old : ∀ k b, s.buffer? k = some b → s'.buffer? k = some b
  gone : freed → ∀ k, s.buffer? k = none → s'.buffer? k = none

lemma Store.Keeps.refl {freed : Prop} (s : Store) : s.Keeps freed s :=
  ⟨fun _ _ => id, fun _ _ => id⟩

namespace Framebuffer

variable {code : FourCC} {g : Geometry} {format : PixelFormat} {tiling : Tiling} {layout : Layout}
  {height : Nat} {b : Buffer}

/-- The planes of an image made black: luma up to the second plane, and chroma for the rows of that
plane. -/
def blacken (layout : Layout) (height : Nat) (bytes : Bytes) : Bytes :=
  let chromaStart := min (layout.offset 1) layout.size
  let chromaStop := min (chromaStart + halfUp height * layout.stride) layout.size
  (bytes.fill 0 chromaStart blackLuma).fill chromaStart chromaStop neutralChroma

/-- The bytes of a new buffer once it has been prepared. -/
def prepared (format : PixelFormat) (layout : Layout) (height : Nat) (bytes : Bytes) : Bytes :=
  if format.isNv12 then blacken layout height bytes else bytes

lemma size_blacken {bytes : Bytes} : (blacken layout height bytes).size = bytes.size := by
  rw [blacken, Bytes.size_fill, Bytes.size_fill]

lemma size_prepared {bytes : Bytes} :
    (prepared format layout height bytes).size = bytes.size := by
  rw [prepared]
  split
  · exact size_blacken
  · rfl

/-- Whatever the layout, no byte of it that is made black is outside a buffer of its size. -/
lemma blacken?_eq {bytes : Bytes} (hsize : bytes.size = layout.size) :
    blacken? layout height bytes = some (blacken layout height bytes) := by
  have hstart : min (layout.offset 1) layout.size ≤ bytes.size := hsize ▸ Nat.min_le_right ..
  rw [blacken?, Bytes.fill?, if_pos ⟨Nat.zero_le _, hstart⟩]
  refine if_pos ⟨?_, ?_⟩
  · exact Nat.le_min.2 ⟨Nat.le_add_right .., Nat.min_le_right ..⟩
  · rw [Bytes.size_fill, hsize]
    exact Nat.min_le_right ..

/-- The bytes before the second plane are black luma, and those of its rows neutral chroma. -/
lemma getElem?_blacken {bytes : Bytes} {i : Nat} (hsize : bytes.size = layout.size)
    (hi : i < layout.size) : (blacken layout height bytes)[i]? =
      if i < layout.offset 1 then some blackLuma
      else if i < layout.offset 1 + halfUp height * layout.stride then some neutralChroma
      else bytes[i]? := by
  rw [blacken, Bytes.getElem?_fill, Bytes.getElem?_fill, Bytes.size_fill, hsize]
  by_cases hluma : i < layout.offset 1
  · rw [if_neg (by omega), if_pos (by omega), if_pos hluma]
  · rw [if_neg hluma, Nat.min_eq_left (by omega : layout.offset 1 ≤ layout.size)]
    by_cases hchroma : i < layout.offset 1 + halfUp height * layout.stride
    · rw [if_pos (by omega), if_pos hchroma]
    · rw [if_neg (by omega), if_neg (by omega), if_neg hchroma]

/-- What is in a new buffer whose image was made black. -/
lemma getElem?_prepared_zeros {i : Nat} (hnv12 : format.isNv12) (hi : i < layout.size) :
    (prepared format layout height (Bytes.zeros layout.size))[i]? =
      some (if i < layout.offset 1 then blackLuma
        else if i < layout.offset 1 + halfUp height * layout.stride then neutralChroma
        else 0) := by
  rw [prepared, if_pos hnv12, getElem?_blacken (Bytes.size_zeros _) hi, Bytes.getElem?_zeros,
    if_pos hi]
  split
  · rfl
  · split <;> rfl

/-- Makes the image of a new buffer black, through a mapping of all of it. -/
def makeBlack (buffer : Handle) (layout : Layout) (height : Nat) : Act σ Unit := do
  Backend.syncCpu buffer
  let m ← Backend.map buffer 0 layout.size .write
  let host ← Act.host
  let black ← Act.ofChecked (Checked.need (blacken? layout height (Backend.window host m)))
  Act.update (Backend.setWindow m black)
  Backend.unmap m
  Backend.syncGpu buffer

/-- The image becomes black if nothing is refused, and the mapping ends in any case. -/
lemma does_makeBlack (hb : s.buffer? h = some b) (hfree : b.mapping = none)
    (hsize : b.bytes.size = layout.size) :
    Does (σ := σ) lets (makeBlack h layout height) s fun o s' =>
      match o with
      | .ok _ => s.Sets h (some { b with bytes := blacken layout height b.bytes }) s'
      | .error _ => (¬∀ k, lets k) ∧
          ∃ bytes, s.Sets h (some { b with bytes }) s' := by
  have refused : ∀ {k s'}, ¬lets k → s'.buffer? = s.buffer? →
      (¬∀ k, lets k) ∧ ∃ bytes, s.Sets h (some { b with bytes }) s' :=
    fun hk same => ⟨fun hall => hk (hall _), b.bytes, Store.sets_self hb same⟩
  rw [makeBlack]
  refine does_bind (does_syncCpu (fun hk _ => refused hk rfl) (fun hn => ?_) fun _ s₁ _ same => ?_)
  · simp [hn] at hb
  refine does_bind (does_map (fun hk _ => refused hk same) ?_ ?_ ?_
    fun b' m s₂ hb' _ _ hbuf hoff hlen hs₂ => ?_)
  · exact fun hn => by simp [same, hb] at hn
  · intro b' hb' hm
    rw [same] at hb'
    cases hb.symm.trans hb'
    exact absurd hfree hm
  · intro b' hb' hout
    rw [same] at hb'
    cases hb.symm.trans hb'
    omega
  -- the whole buffer is mapped, so that what is seen and stored are all of its bytes
  rw [same] at hb'
  cases hb.symm.trans hb'
  subst hbuf
  have hs₂ : s.Sets m.buffer (some { b with mapping := some m }) s₂ := fun k => by
    rw [hs₂ k, same]
  refine does_host_bind fun host hhost => ?_
  rw [StoreHost.window, hhost, Store.window_whole hs₂.self rfl hoff (hsize.trans hlen.symm),
    blacken?_eq hsize]
  refine does_bind (does_ofChecked ?_)
  refine does_bind (does_setWindow fun _ _ => ?_)
  have hblack : (blacken layout height b.bytes).size = b.bytes.size := size_blacken
  have hs₃ := Store.sets_setWindow_whole hs₂.self rfl hoff (hsize.trans hlen.symm) hblack
  -- from here on the mapping ends, and the bytes stay
  have ended : ∀ s₄, (s₂.setWindow m (blacken layout height b.bytes)).Sets m.buffer
      (some ⟨blacken layout height b.bytes, b.tiling, b.stride, none⟩) s₄ →
      s.Sets m.buffer (some { b with bytes := blacken layout height b.bytes }) s₄ := by
    intro s₄ hs₄
    rw [hfree]
    exact hs₂.trans (hs₃.trans hs₄)
  refine does_bind (does_unmap hs₃.self rfl
    (fun hk _ s₄ hs₄ => ⟨fun hall => hk (hall _), _, ended s₄ hs₄⟩) fun s₄ hs₄ => ?_)
  refine does_syncGpu (fun hk _ => ⟨fun hall => hk (hall _), _, ended s₄ hs₄⟩) (fun hn => ?_)
    fun _ s₅ _ same₅ => fun k => (congrFun same₅ k).trans (ended s₄ hs₄ k)
  simp [hs₄.self] at hn

omit [StoreHost σ] in
lemma prepare_eq (buffer : Handle) :
    prepare (σ := σ) buffer format tiling layout height = (do
      Backend.setTiling buffer tiling layout.stride
      if format.isNv12 then
        makeBlack buffer layout height) :=
  rfl

/-- A buffer that is prepared is not mapped in the end, and what is refused leaves nothing else
behind than what is let through. -/
lemma does_prepare (hb : s.buffer? h = some b) (hfree : b.mapping = none)
    (hsize : b.bytes.size = layout.size) :
    Does (σ := σ) lets (prepare h format tiling layout height) s fun o s' =>
      ∃ b', s.Sets h (some b') s' ∧ b'.mapping = none ∧
        match o with
        | .ok _ => b'.bytes = prepared format layout height b.bytes
        | .error _ => ¬∀ k, lets k := by
  rw [prepare_eq]
  refine does_bind (does_setTiling
    (fun hk _ => ⟨b, Store.sets_self hb rfl, hfree, fun hall => hk (hall _)⟩) (fun hn => ?_)
    fun b' s₁ hb' hs₁ => ?_)
  · simp [hn] at hb
  cases hb.symm.trans hb'
  rw [prepared]
  -- other formats keep the zeros of a new buffer
  cases format.isNv12 with
  | false => exact does_pure ⟨_, hs₁, hfree, rfl⟩
  | true =>
      refine (does_makeBlack hs₁.self hfree hsize).mono ?_
      intro o s₂ ho
      cases o with
      | ok _ => exact ⟨_, hs₁.trans ho, hfree, by simp only [↓reduceIte]⟩
      | error f =>
          obtain ⟨hall, bytes, hs₂⟩ := ho
          exact ⟨_, hs₁.trans hs₂, hfree, hall⟩

/-- A framebuffer has been made as it was asked for, in a buffer that is new and not mapped. -/
structure Made (code : FourCC) (g : Geometry) (s : Store) (fb : Framebuffer) (s' : Store) :
    Prop where
  format : PixelFormat.ofCode code = .ok fb.format
  layout : g.layout fb.format = .ok fb.layout
  geometry : fb.width = g.width ∧ fb.height = g.height ∧ fb.tiling = g.tiling ∧ fb.device = g.device
  fresh : s.buffer? fb.buffer = none
  buffer : ∃ b, s.Sets fb.buffer (some b) s' ∧ b.mapping = none ∧
    b.bytes = prepared fb.format fb.layout fb.height (Bytes.zeros fb.layout.size)

/-- A framebuffer that was made with the code of a format has that format. -/
lemma Made.format_eq {fb : Framebuffer} (hm : Made format.code g s fb s')
    (hf : format ∈ PixelFormat.registry) : fb.format = format :=
  Except.ok.inj (hm.format.symm.trans (PixelFormat.ofCode_code hf))

/-- The buffer of a framebuffer that has been made is as large as it was laid out. -/
lemma Made.size_eq {fb : Framebuffer} (hm : Made code g s fb s')
    (hb : s'.buffer? fb.buffer = some b) : b.bytes.size = fb.layout.size := by
  obtain ⟨b', hb', -, hbytes⟩ := hm.buffer
  cases hb'.self.symm.trans hb
  rw [hbytes, size_prepared, Bytes.size_zeros]

/-- A buffer that there was when a framebuffer was made is another one, and as it was. -/
lemma Made.old {fb : Framebuffer} {k : Handle} (hm : Made code g s fb s')
    (hc : s.buffer? k = some b) : k ≠ fb.buffer ∧ s'.buffer? k = some b := by
  have hk : k ≠ fb.buffer := by
    rintro rfl
    simp [hm.fresh] at hc
  obtain ⟨_, hsets, -⟩ := hm.buffer
  exact ⟨hk, (hsets.other hk).trans hc⟩

/-- **A framebuffer is made, or the store keeps what it had.** -/
lemma does_create :
    Does (σ := σ) lets (create code g) s fun o s' =>
      match o with
      | .ok fb => Made code g s fb s'
      | .error _ => s.Keeps (lets .free) s' := by
  rw [create]
  refine does_bind (does_ofChecked ?_)
  cases hformat : PixelFormat.ofCode code with
  | error f => exact .refl s
  | ok format =>
  refine does_bind (does_ofChecked ?_)
  cases hlayout : g.layout format with
  | error f => exact .refl s
  | ok layout =>
  refine does_bind (does_emit ?_)
  refine does_bind (does_allocate (fun _ _ => .refl s) (fun _ => .refl s) fun h s₁ hnew hs₁ => ?_)
  refine does_bind (does_attempt ((does_prepare hs₁.self rfl (Bytes.size_zeros _)).mono ?_))
  rintro o s₂ ⟨b, hs₂, hfree, ho⟩
  have hs₂ := hs₁.trans hs₂
  cases o with
  | ok _ =>
      refine does_bind (does_emit (does_pure ?_))
      exact ⟨hformat, hlayout, ⟨rfl, rfl, rfl, rfl⟩, hnew, b, hs₂, hfree, ho⟩
  | error f =>
      -- the handle is new, so that no buffer there was before is touched
      have other : ∀ k c, s.buffer? k = some c → k ≠ h := by
        rintro k c hc rfl
        simp [hnew] at hc
      refine does_bind (does_free (fun hk _ => ?_) (fun hn => ?_) (fun b' hb' hm => ?_)
        fun b' s₃ hb' _ hs₃ => does_throw ?_)
      · exact ⟨fun k c hc => (hs₂.other (other k c hc)).trans hc, fun hl => absurd hl hk⟩
      · simp [hs₂.self] at hn
      · cases hs₂.self.symm.trans hb'
        exact absurd hfree hm
      · have hs₃ := hs₂.trans hs₃
        refine ⟨fun k c hc => (hs₃.other (other k c hc)).trans hc, fun _ k hk => ?_⟩
        rw [hs₃ k]
        split
        · rfl
        · exact hk

/-- What a host makes of a framebuffer is what was asked for. -/
lemma made_of_create {fb : Framebuffer} {r t : Run σ} (hc : create code g r = .ok fb t) :
    Made code g (StoreHost.store r.host) fb (StoreHost.store t.host) :=
  does_create.ends.of_ok hc

/-- Where nothing is refused and there is memory for the buffer, a framebuffer is made. -/
lemma does_create_all (all : ∀ k, lets k) (hformat : PixelFormat.ofCode code = .ok format)
    (hlayout : g.layout format = .ok layout) (hmemory : layout.size < 0x8000000000000000) :
    Does (σ := σ) lets (create code g) s fun o _ => ∃ fb, o = .ok fb := by
  rw [create, hformat]
  refine does_bind (does_ofChecked (does_bind (does_ofChecked ?_)))
  rw [hlayout]
  refine does_bind (does_emit ?_)
  refine does_bind (does_allocate (fun hk => absurd (all _) hk)
    (fun hlarge => absurd hmemory (Nat.not_lt_of_le hlarge)) fun h s₁ _ hs₁ => ?_)
  refine does_bind (does_attempt ((does_prepare hs₁.self rfl (Bytes.size_zeros _)).mono ?_))
  rintro o s₂ ⟨b, -, -, ho⟩
  cases o with
  | ok _ => exact does_bind (does_emit (does_pure ⟨_, rfl⟩))
  | error f => exact absurd all ho

/-- A store makes a framebuffer that has a layout and finds memory. -/
lemma exists_create {r : Run Store} (hformat : PixelFormat.ofCode code = .ok format)
    (hlayout : g.layout format = .ok layout) (hmemory : layout.size < 0x8000000000000000) :
    ∃ fb t, create code g r = .ok fb t := by
  have made : Does (σ := Store) (fun _ => True) (create code g) r.host _ :=
    does_create_all (fun _ => trivial) hformat hlayout hmemory
  rcases made.exists_end with ⟨fb, t, hcreate, -⟩ | ⟨f, t, -, fb, hf⟩
  · exact ⟨fb, t, hcreate⟩
  · cases hf

/-- A framebuffer is made with nothing done to the buffers that there were. -/
lemma does_create_keeps :
    Does (σ := σ) lets (create code g) s fun _ s' => s.Keeps False s' := by
  refine does_create.mono fun o s' ho => ⟨fun k c hc => ?_, nofun⟩
  cases o with
  | ok fb => exact (ho.old hc).2
  | error f => exact ho.old k c hc

/-- No other buffer goes away with a framebuffer. -/
lemma does_remove {fb : Framebuffer} :
    Does (σ := σ) lets fb.remove s fun _ s' => ∀ k ≠ fb.buffer, s'.buffer? k = s.buffer? k := by
  rw [remove]
  exact does_bind (does_emit (does_free (fun _ _ _ _ => rfl) (fun _ _ _ => rfl)
    (fun _ _ _ _ _ => rfl) fun _ _ _ _ hsets _ hk => hsets.other hk))

end Framebuffer

end Scanout
