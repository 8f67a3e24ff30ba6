/-
What requests do to a store.

A request changes what is under one handle, if anything at all: `Store.Sets` says what, and each
request has a rule with one premise for each of the ways in which it ends.

* `Store.Sets`: one store is another one but for what is under one handle;
* `does_allocate`, `does_setTiling`, `does_free`, `does_map`, `does_unmap`, `does_syncCpu`,
  `does_syncGpu`, `does_copy`: the rules;
* `Store.Ready`, `Store.Readable`: what a copy asks for before it stores anything, and of its source
  alone; `Store.Unread`: what refuses the source;
* `Store.ends_copy_cases`: the ways in which a copy ends, and the store that it leaves;
* `Store.window_of_mapped`, `Store.sets_setWindow`: the memory behind a mapping; `Store.window_whole`,
  `Store.sets_setWindow_whole`: the same for a mapping of a whole buffer.
-/
import Scanout.Proofs.Effect
import Scanout.Proofs.Store.Rows

namespace Scanout

namespace Store

/-- One store is another one but for what is under one handle. -/
def Sets (s : Store) (h : Handle) (o : Option Buffer) (s' : Store) : Prop :=
  ∀ k, s'.buffer? k = if k = h then o else s.buffer? k

variable {s s' s'' : Store} {h : Handle} {o o' : Option Buffer} {b : Buffer} {m : Mapping}

lemma Sets.self (hs : s.Sets h o s') : s'.buffer? h = o := by
  rw [hs, if_pos rfl]

lemma Sets.other {k : Handle} (hs : s.Sets h o s') (hk : k ≠ h) : s'.buffer? k = s.buffer? k := by
  rw [hs, if_neg hk]

/-- What is set last under a handle stays. -/
lemma Sets.trans (hs : s.Sets h o s') (hs' : s'.Sets h o' s'') : s.Sets h o' s'' := by
  intro k
  rw [hs' k]
  split
  · rfl
  · next hk => exact hs.other hk

/-- Nothing has been set where all that is set was there. -/
lemma sets_self (hb : s.buffer? h = some b) (same : s'.buffer? = s.buffer?) :
    s.Sets h (some b) s' := by
  intro k
  rw [same]
  split
  · next hk => rw [hk, hb]
  · rfl

lemma sets_modify {f : Buffer → Buffer} (hb : s.buffer? h = some b) :
    s.Sets h (some (f b)) (s.modify h f) := by
  intro k
  rw [buffer?_modify]
  split
  · next hk => rw [hk, hb, Option.map_some]
  · rfl

/-- The next handle is that of no buffer. -/
lemma buffer?_next (s : Store) : s.buffer? ⟨s.slots.size⟩ = none := by
  simp [buffer?]

/-! ### The memory behind a mapping -/

lemma window_of_mapped (hb : s.buffer? m.buffer = some b) (hm : b.mapping = some m) :
    s.window m = b.bytes.slice m.offset m.len := by
  simp only [window, hb, hm, ↓reduceIte]

lemma sets_setWindow {bytes : Bytes} (hb : s.buffer? m.buffer = some b)
    (hm : b.mapping = some m) :
    s.Sets m.buffer (some { b with bytes := b.bytes.overwrite m.offset (bytes.slice 0 m.len) })
      (s.setWindow m bytes) := by
  have := sets_modify (f := fun b =>
    if b.mapping = some m then
      { b with bytes := b.bytes.overwrite m.offset (bytes.slice 0 m.len) }
    else b) hb
  rwa [if_pos hm] at this

/-- Through a mapping of all of it a buffer shows its bytes. -/
lemma window_whole (hb : s.buffer? m.buffer = some b) (hm : b.mapping = some m)
    (hoff : m.offset = 0) (hlen : b.bytes.size = m.len) : s.window m = b.bytes := by
  rw [window_of_mapped hb hm, hoff]
  exact Bytes.slice_whole hlen

/-- Through a mapping of all of it a buffer takes other bytes. -/
lemma sets_setWindow_whole {bytes : Bytes} (hb : s.buffer? m.buffer = some b)
    (hm : b.mapping = some m) (hoff : m.offset = 0) (hlen : b.bytes.size = m.len)
    (hsize : bytes.size = b.bytes.size) :
    s.Sets m.buffer (some { b with bytes }) (s.setWindow m bytes) := by
  have stored : s.Sets m.buffer _ (s.setWindow m bytes) := sets_setWindow hb hm
  rwa [hoff, Bytes.overwrite_whole hlen (hsize.trans hlen)] at stored

lemma sets_discard (hb : s.buffer? m.buffer = some b) (hm : b.mapping = some m) :
    s.Sets m.buffer (some { b with mapping := none }) (s.discard m) := by
  have := sets_modify (f := fun b =>
    if b.mapping = some m then { b with mapping := none } else b) hb
  rwa [if_pos hm] at this

/-! ### Questions that come before a request -/

@[simp] lemma ends_find {r : Run Store} {Q : Checked Buffer → Run Store → Prop} :
    Ends (find h) r Q ↔
      match r.host.buffer? h with
      | some b => Q (.ok b) r
      | none => Q (.error (.error (.unknownBuffer h))) r := by
  rw [find, ends_bind, ends_host]
  dsimp only
  cases r.host.buffer? h <;> rfl

@[simp] lemma ends_refuseMapped {use : Use} {r : Run Store} {Q : Checked Unit → Run Store → Prop} :
    Ends (refuseMapped use h b) r Q ↔
      match b.mapping with
      | some _ => Q (.error (.error (.host (.mapped use h)))) ⟨r.host, r.log.push (.refused use h)⟩
      | none => Q (.ok ()) r := by
  rw [refuseMapped]
  cases b.mapping <;> rfl

variable {α : Type} {log : Array Event} {Q : Checked α → Run Store → Prop} {x : Buffer → Act Store α}

/-- A request about a buffer ends at once where there is no such buffer. -/
lemma ends_found
    (missed : s.buffer? h = none → Q (.error (.error (.unknownBuffer h))) ⟨s, log⟩)
    (found : ∀ b, s.buffer? h = some b → Ends (x b) ⟨s, log⟩ Q) :
    Ends (find h >>= x) ⟨s, log⟩ Q := by
  rw [ends_bind, ends_find]
  cases hb : s.buffer? h with
  | none => exact missed hb
  | some b => exact found b hb

/-- A request about a buffer that must not be mapped ends at once where it is, too. -/
lemma ends_found_unmapped {use : Use}
    (missed : s.buffer? h = none → Q (.error (.error (.unknownBuffer h))) ⟨s, log⟩)
    (mapped : ∀ b, s.buffer? h = some b → b.mapping ≠ none →
      Q (.error (.error (.host (.mapped use h)))) ⟨s, log.push (.refused use h)⟩)
    (found : ∀ b, s.buffer? h = some b → b.mapping = none → Ends (x b) ⟨s, log⟩ Q) :
    Ends (find h >>= fun b => refuseMapped use h b >>= fun _ => x b) ⟨s, log⟩ Q := by
  refine ends_found missed fun b hb => ?_
  rw [ends_bind, ends_refuseMapped]
  cases hm : b.mapping with
  | some m => exact mapped b hb (hm ▸ nofun)
  | none => exact found b hb hm

end Store

/-! ### The rules of requests -/

section Requests

variable {σ : Type} [Backend σ] [StoreHost σ] {lets : CallKind → Prop} {s : Store} {h : Handle}

lemma does_allocate {size : Nat} {Q : Checked Handle → Store → Prop}
    (refused : ¬lets .allocate → ∀ e, Q (.error (.error e)) s)
    (crashed : 0x8000000000000000 ≤ size → Q (.error .crash) s)
    (made : ∀ h s', s.buffer? h = none → s.Sets h (some (Buffer.fresh size)) s' → Q (.ok h) s') :
    Does (σ := σ) lets (Backend.allocate size) s Q := by
  refine does_request (StoreHost.allocate size) refused ?_
  intro log
  rw [Store.allocate, ends_bind, ends_ofChecked, Store.reserve]
  by_cases hsize : size < 0x8000000000000000
  · rw [if_pos hsize]
    refine made _ _ s.buffer?_next ?_
    intro k
    obtain ⟨i⟩ := k
    simp only [Store.buffer?, Array.getElem?_push, Handle.mk.injEq]
    split <;> rfl
  · rw [if_neg hsize]
    exact crashed (Nat.le_of_not_lt hsize)

variable {Q : Checked Unit → Store → Prop}

lemma does_setTiling {tiling : Tiling} {stride : Nat}
    (refused : ¬lets .setTiling → ∀ e, Q (.error (.error e)) s)
    (unknown : s.buffer? h = none → Q (.error (.error (.unknownBuffer h))) s)
    (declared : ∀ b s', s.buffer? h = some b → s.Sets h (some { b with tiling, stride }) s' →
      Q (.ok ()) s') :
    Does (σ := σ) lets (Backend.setTiling h tiling stride) s Q := by
  refine does_request (StoreHost.setTiling h tiling stride) refused ?_
  intro log
  rw [Store.setTiling]
  exact Store.ends_found unknown fun b hb => declared b _ hb (Store.sets_modify hb)

lemma does_free
    (refused : ¬lets .free → ∀ e, Q (.error (.error e)) s)
    (unknown : s.buffer? h = none → Q (.error (.error (.unknownBuffer h))) s)
    (mapped : ∀ b, s.buffer? h = some b → b.mapping ≠ none →
      Q (.error (.error (.host (.mapped .free h)))) s)
    (freed : ∀ b s', s.buffer? h = some b → b.mapping = none → s.Sets h none s' → Q (.ok ()) s') :
    Does (σ := σ) lets (Backend.free h) s Q := by
  refine does_request (StoreHost.free h) refused ?_
  intro log
  rw [Store.free]
  refine Store.ends_found_unmapped unknown mapped fun b hb hm => freed b _ hb hm ?_
  -- only the slot of this handle is emptied
  intro k
  obtain ⟨i⟩ := k
  obtain ⟨j⟩ := h
  have hj : s.slots[j]? = some (some b) := Option.join_eq_some_iff.1 hb
  simp only [Store.buffer?, Array.getElem?_modify, Handle.mk.injEq, eq_comm (a := i)]
  split
  · next hij => rw [← hij, hj]; rfl
  · rfl

lemma does_map {offset size : Nat} {access : Access} {Q : Checked Mapping → Store → Prop}
    (refused : ¬lets .map → ∀ e, Q (.error (.error e)) s)
    (unknown : s.buffer? h = none → Q (.error (.error (.unknownBuffer h))) s)
    (mapped : ∀ b, s.buffer? h = some b → b.mapping ≠ none →
      Q (.error (.error (.host (.mapped .map h)))) s)
    (outside : ∀ b, s.buffer? h = some b → b.bytes.size < offset + size →
      Q (.error (.error (.outOfBounds h offset size b.bytes.size))) s)
    (done : ∀ b m s', s.buffer? h = some b → b.mapping = none → offset + size ≤ b.bytes.size →
      m.buffer = h → m.offset = offset → m.len = size →
      s.Sets h (some { b with mapping := some m }) s' → Q (.ok m) s') :
    Does (σ := σ) lets (Backend.map h offset size access) s Q := by
  refine does_request (StoreHost.map h offset size access) refused ?_
  intro log
  rw [Store.map]
  refine Store.ends_found_unmapped unknown mapped fun b hb hm => ?_
  rw [ends_bind, ends_ofChecked, Store.checkRange]
  by_cases hsize : offset + size ≤ b.bytes.size
  · rw [if_pos hsize]
    -- the mapping carries the serial number of the store that made it
    exact done b ⟨h, offset, size, some s.serial⟩ _ hb hm hsize rfl rfl rfl (Store.sets_modify hb)
  · rw [if_neg hsize]
    exact outside b hb (Nat.lt_of_not_le hsize)

/-- A mapping that is held ends however its return ends. -/
lemma does_unmap {m : Mapping} {b : Buffer} (hb : s.buffer? m.buffer = some b)
    (hm : b.mapping = some m)
    (refused : ¬lets .unmap → ∀ e s', s.Sets m.buffer (some { b with mapping := none }) s' →
      Q (.error (.error e)) s')
    (done : ∀ s', s.Sets m.buffer (some { b with mapping := none }) s' → Q (.ok ()) s') :
    Does (σ := σ) lets (Backend.unmap m) s Q := by
  refine does_request (StoreHost.unmap m) (fun hk e => refused hk e _ (Store.sets_discard hb hm))
    fun log => ?_
  rw [Store.unmap, ends_bind, Store.ends_find]
  simp only [hb, hm, ↓reduceIte]
  exact done _ (Store.sets_modify hb)

lemma does_syncCpu
    (refused : ¬lets .syncCpu → ∀ e, Q (.error (.error e)) s)
    (unknown : s.buffer? h = none → Q (.error (.error (.unknownBuffer h))) s)
    (done : ∀ b s', s.buffer? h = some b → s'.buffer? = s.buffer? → Q (.ok ()) s') :
    Does (σ := σ) lets (Backend.syncCpu h) s Q := by
  refine does_request (StoreHost.syncCpu h) refused ?_
  intro log
  rw [Store.syncCpu]
  exact Store.ends_found unknown fun b hb => done b _ hb rfl

lemma does_syncGpu
    (refused : ¬lets .syncGpu → ∀ e, Q (.error (.error e)) s)
    (unknown : s.buffer? h = none → Q (.error (.error (.unknownBuffer h))) s)
    (done : ∀ b s', s.buffer? h = some b → s'.buffer? = s.buffer? → Q (.ok ()) s') :
    Does (σ := σ) lets (Backend.syncGpu h) s Q := by
  refine does_request (StoreHost.syncGpu h) refused ?_
  intro log
  rw [Store.syncGpu]
  exact Store.ends_found unknown fun b hb => done b _ hb rfl

/-- What a copy asks for before it stores anything: two buffers that are not mapped, memory for the
rectangle, and its rows inside the source. -/
structure Store.Ready (s : Store) (src dst : Surface) (area : Area) (a b : Buffer) : Prop where
  source : s.buffer? src.buffer = some a
  sourceFree : a.mapping = none
  memory : area.rowBytes * area.height < 0x8000000000000000
  inside : ∀ row < area.height, src.place row area.rowBytes ≤ a.bytes.size
  target : s.buffer? dst.buffer = some b
  targetFree : b.mapping = none

/-- What a copy asks of its source before its target is looked at. -/
structure Store.Readable (s : Store) (src : Surface) (area : Area) (a : Buffer) : Prop where
  source : s.buffer? src.buffer = some a
  free : a.mapping = none
  memory : area.rowBytes * area.height < 0x8000000000000000
  inside : ∀ row < area.height, src.place row area.rowBytes ≤ a.bytes.size

/-- What refuses the source of a copy. -/
inductive Store.Unread (s : Store) (src : Surface) (area : Area) : Failure → Prop where
  | unknown (missing : s.buffer? src.buffer = none) : Unread s src area
      (.error (.unknownBuffer src.buffer))
  | mapped (a : Buffer) (source : s.buffer? src.buffer = some a) (mapped : a.mapping ≠ none) :
      Unread s src area (.error (.host (.mapped .blit src.buffer)))
  | memory (a : Buffer) (source : s.buffer? src.buffer = some a)
      (large : 0x8000000000000000 ≤ area.rowBytes * area.height) : Unread s src area .crash
  | outside (a : Buffer) (row : Nat) (source : s.buffer? src.buffer = some a)
      (inside : row < area.height) (outside : a.bytes.size < src.place row area.rowBytes) :
      Unread s src area
        (.error (.outOfBounds src.buffer (src.place row 0) area.rowBytes a.bytes.size))

namespace Store

variable {src dst : Surface} {area : Area} {a b : Buffer} {f : Failure}

/-- A source that is refused cannot be read. -/
lemma Unread.not_readable (h : s.Unread src area f) : ¬s.Readable src area a := by
  intro hr
  cases h with
  | unknown missing => simp [hr.source] at missing
  | mapped a' source mapped =>
      cases hr.source.symm.trans source
      exact mapped hr.free
  | memory a' source large => exact absurd hr.memory (Nat.not_lt_of_le large)
  | outside a' row source hrow outside =>
      cases hr.source.symm.trans source
      exact absurd (hr.inside row hrow) (Nat.not_le_of_lt outside)

/-- A source that is not there is refused for that. -/
lemma Unread.eq_unknown (h : s.Unread src area f) (missing : s.buffer? src.buffer = none) :
    f = .error (.unknownBuffer src.buffer) := by
  cases h with
  | unknown _ => rfl
  | mapped a source => simp [missing] at source
  | memory a source => simp [missing] at source
  | outside a row source => simp [missing] at source

lemma Ready.readable (h : s.Ready src dst area a b) : s.Readable src area a :=
  ⟨h.source, h.sourceFree, h.memory, h.inside⟩

lemma Readable.ready (h : s.Readable src area a) (hb : s.buffer? dst.buffer = some b)
    (hm : b.mapping = none) : s.Ready src dst area a b :=
  ⟨h.source, h.free, h.memory, h.inside, hb, hm⟩

/-- The bytes that a copy leaves in its target. -/
def storing (s : Store) (src dst : Surface) (area : Area) (a b : Buffer) : Store :=
  s.modify dst.buffer fun b' => { b' with bytes := (copied src dst area a.bytes b.bytes).1 }

lemma Ready.sets (h : s.Ready src dst area a b) :
    s.Sets dst.buffer (some { b with bytes := (copied src dst area a.bytes b.bytes).1 })
      (s.storing src dst area a b) :=
  sets_modify h.target

/-- The source of a copy is read, or refused before anything is stored. -/
lemma ends_read {log : Array Event} {Q : Checked Unit → Run Store → Prop}
    {x : Buffer → Act Store Unit} (unread : ∀ f log, s.Unread src area f → Q (.error f) ⟨s, log⟩)
    (read : ∀ a, s.Readable src area a → Ends (x a) ⟨s, log⟩ Q) :
    Ends (do
      let a ← find src.buffer
      refuseMapped .blit src.buffer a
      Act.ofChecked (reserve (area.rowBytes * area.height))
      Act.ofChecked (checkSource src.buffer src.stride area.rowBytes a.bytes.size area.height
        src.offset)
      x a) ⟨s, log⟩ Q := by
  refine ends_found_unmapped (fun hn => unread _ _ (.unknown hn))
    (fun a ha hm => unread _ _ (.mapped a ha hm)) fun a ha hm => ?_
  rw [ends_bind, ends_ofChecked, reserve]
  by_cases hmem : area.rowBytes * area.height < 0x8000000000000000
  case neg =>
    rw [if_neg hmem]
    exact unread _ _ (.memory a ha (Nat.le_of_not_lt hmem))
  rw [if_pos hmem]
  dsimp only
  rw [ends_bind, ends_ofChecked]
  cases hin : checkSource src.buffer src.stride area.rowBytes a.bytes.size area.height
      src.offset with
  | error f =>
      obtain ⟨row, hrow, outside, rfl⟩ := checkSource_eq_error hin
      exact unread _ _ (.outside a row ha hrow outside)
  | ok _ => exact read a ⟨ha, hm, hmem, checkSource_eq_ok.1 hin⟩

/-- **The ways in which a copy ends**: the source is refused, the target is refused, the rows stop
fitting, or all of them are stored. -/
lemma ends_copy_cases {log : Array Event} {Q : Checked Unit → Run Store → Prop}
    (unread : ∀ f log, s.Unread src area f → Q (.error f) ⟨s, log⟩)
    (refused : ∀ a f log, s.Readable src area a →
      (∀ b, s.buffer? dst.buffer = some b → b.mapping ≠ none) →
      (s.buffer? dst.buffer = none → f = .error (.unknownBuffer dst.buffer)) →
      Q (.error f) ⟨s, log⟩)
    (stopped : ∀ a b f log, s.Ready src dst area a b →
      (copied src dst area a.bytes b.bytes).2 = .error f →
      Q (.error f) ⟨s.storing src dst area a b, log⟩)
    (done : ∀ a b log, s.Ready src dst area a b →
      (copied src dst area a.bytes b.bytes).2 = .ok () →
      Q (.ok ()) ⟨(s.storing src dst area a b).count fun c => { c with blits := c.blits + 1 },
        log⟩) :
    Ends (copy src dst area) ⟨s, log⟩ Q := by
  rw [copy, ends_bind, ends_emit]
  dsimp only
  -- the source comes first, and only then is the target looked at
  refine ends_read unread fun a readable => ends_found_unmapped (fun hn => ?_)
    (fun b hb hm => ?_) fun b hb hmb => ?_
  · exact refused a _ _ readable (by simp [hn]) fun _ => rfl
  · exact refused a _ _ readable (fun b' hb' => Option.some.inj (hb.symm.trans hb') ▸ hm)
      (by simp [hb])
  have ready := readable.ready hb hmb
  replace stopped := fun f log => stopped a b f log ready
  replace done := fun log => done a b log ready
  rw [storing, copied, Area.rows] at stopped done
  -- what has been stored stays, whether the rows stop fitting or not
  show Ends (Act.update _ >>= _) _ _
  rw [ends_bind, ends_update]
  dsimp only
  rw [ends_bind, ends_ofChecked]
  generalize scatter dst.buffer a.bytes _ _ _ _ _ _ b.bytes = out at stopped done ⊢
  obtain ⟨bytes, outcome⟩ := out
  cases outcome with
  | ok _ => exact done _ rfl
  | error f => exact stopped f _ rfl

end Store

/-- A copy that is not ready stores nothing; one that is stores what it can. -/
lemma does_copy {src dst : Surface} {area : Area}
    (refused : ¬lets .copy → ∀ e, Q (.error (.error e)) s)
    (missed : (∀ a b, ¬s.Ready src dst area a b) → ∀ f, Q (.error f) s)
    (stored : ∀ a b s', s.Ready src dst area a b →
      s.Sets dst.buffer
        (some { b with bytes := (Store.copied src dst area a.bytes b.bytes).1 }) s' →
      Q (Store.copied src dst area a.bytes b.bytes).2 s') :
    Does (σ := σ) lets (Backend.copy src dst area) s Q := by
  refine does_request (StoreHost.copy src dst area) refused fun log => ?_
  refine Store.ends_copy_cases (fun f _ unread => ?_) (fun a f _ _ hmapped _ => ?_)
    (fun a b f _ ready hf => ?_) fun a b _ ready hok => ?_
  · exact missed (fun a b h => unread.not_readable h.readable) f
  · exact missed (fun a b h => hmapped b h.target h.targetFree) f
  · exact hf ▸ stored a b _ ready ready.sets
  · exact hok ▸ stored a b _ ready ready.sets

end Requests

end Scanout
