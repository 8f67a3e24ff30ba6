/-
The books of a store.

* `Store.Balanced`: what a store counts agrees with the buffers that it has, and none of them is
  larger than what can be asked for;
* `Store.Gone`: a handle that was given out and whose buffer is there no more;
* `Store.Follows`: one store may come after another: **books stay balanced, handles are never given
  out again, and what is gone stays gone**;
* `Store.Steady`: it does so without a mapping that is made or taken back;
* `Store.Served`: what a request about a buffer comes to;
* `Store.ends_booked_allocate` and its companions: **what each request does to the books**.
-/
import Scanout.Proofs.Store.Requests

namespace Scanout

/-! ### Counting the slots of an array -/

section Slots

variable {α : Type} {p : α → Bool} {xs : Array α} {i : Nat} {a b : α} {f : α → α}

/-- What is counted when a slot is filled anew. -/
lemma countP_setIfInBounds (hi : xs[i]? = some a) :
    (xs.setIfInBounds i b).countP p + (p a).toNat = xs.countP p + (p b).toNat := by
  obtain ⟨hlt, rfl⟩ := Array.getElem?_eq_some_iff.1 hi
  have least : (if p xs[i] then 1 else 0) ≤ xs.countP p := Array.boole_getElem_le_countP hlt
  rw [Array.setIfInBounds, dif_pos hlt, Array.countP_set hlt]
  cases ha : p xs[i] <;> cases hb : p b <;>
    simp only [ha, ↓reduceIte, Bool.false_eq_true, Bool.toNat_true, Bool.toNat_false] at least ⊢ <;>
    omega

lemma modify_eq_setIfInBounds (hi : xs[i]? = some a) :
    xs.modify i f = xs.setIfInBounds i (f a) := by
  obtain ⟨hlt, -⟩ := Array.getElem?_eq_some_iff.1 hi
  refine Array.ext_getElem? fun j => ?_
  rw [Array.getElem?_modify, Array.getElem?_setIfInBounds]
  split
  · next hj =>
    subst hj
    rw [hi, Option.map_some]
  · rfl

/-- A slot that counts as before makes no difference. -/
lemma countP_modify (hf : ∀ a, p (f a) = p a) : (xs.modify i f).countP p = xs.countP p := by
  cases hi : xs[i]? with
  | none =>
      have same : xs.modify i f = xs := by
        refine Array.ext_getElem? fun j => ?_
        rw [Array.getElem?_modify]
        split
        · next hj => rw [← hj, hi, Option.map_none]
        · rfl
      rw [same]
  | some a =>
      have count := countP_setIfInBounds (p := p) (b := f a) hi
      rw [hf a] at count
      rw [modify_eq_setIfInBounds hi]
      omega

end Slots

namespace Store

/-- What a store counts agrees with the buffers that it has. -/
structure Balanced (s : Store) : Prop where
  /-- As many handles were given out as buffers were allocated. -/
  handles : s.slots.size = s.counters.allocations + 1
  /-- What was allocated is live or was freed. -/
  live : s.counters.allocations = s.counters.frees + s.liveBuffers
  /-- No buffer is larger than what can be asked for. -/
  room : ∀ h b, s.buffer? h = some b → b.bytes.size < 0x8000000000000000

/-- A handle was given out, and its buffer is there no more. -/
structure Gone (s : Store) (h : Handle) : Prop where
  given : h.number < s.slots.size
  missing : s.buffer? h = none

/-- One store may come after another. -/
structure Follows (s s' : Store) : Prop where
  balanced : s.Balanced → s'.Balanced
  grows : s.slots.size ≤ s'.slots.size
  gone : ∀ h, s.Gone h → s'.Gone h

/-- One store may come after another without a mapping that is made or taken back. -/
structure Steady (s s' : Store) : Prop extends s.Follows s' where
  maps : s'.counters.maps = s.counters.maps
  unmaps : s'.counters.unmaps = s.counters.unmaps

variable {s s' s'' : Store} {h : Handle}

lemma Follows.refl (s : Store) : s.Follows s :=
  ⟨id, Nat.le_refl _, fun _ => id⟩

lemma Follows.trans (h : s.Follows s') (h' : s'.Follows s'') : s.Follows s'' :=
  ⟨fun hs => h'.balanced (h.balanced hs), Nat.le_trans h.grows h'.grows,
    fun k hk => h'.gone k (h.gone k hk)⟩

lemma Steady.refl (s : Store) : s.Steady s :=
  ⟨.refl s, rfl, rfl⟩

lemma balanced_empty (serial : Nat) : (empty serial).Balanced :=
  ⟨rfl, rfl, fun h b hb => by simp [buffer?_empty] at hb⟩

/-- No buffer has a handle beyond those that were given out. -/
lemma Balanced.number_le {b : Buffer} (hs : s.Balanced) (hb : s.buffer? h = some b) :
    h.number ≤ s.counters.allocations := by
  rw [buffer?, Option.join_eq_some_iff] at hb
  obtain ⟨given, -⟩ := Array.getElem?_eq_some_iff.1 hb
  rw [hs.handles] at given
  exact Nat.le_of_lt_succ given

/-! ### What may be done to a store -/

/-- A buffer may change as long as it keeps its size. -/
lemma steady_modify (f : Buffer → Buffer)
    (hf : ∀ b, s.buffer? h = some b → (f b).bytes.size = b.bytes.size) :
    s.Steady (s.modify h f) where
  balanced := by
    intro hs
    refine ⟨Array.size_modify.trans hs.handles, ?_, fun k b hb => ?_⟩
    · -- a slot that held a buffer still holds one
      rw [liveBuffers, modify, countP_modify fun o => by cases o <;> rfl]
      exact hs.live
    · rw [buffer?_modify] at hb
      split at hb
      · next hk =>
        obtain ⟨b', hb', rfl⟩ := Option.map_eq_some_iff.1 hb
        rw [hf b' (hk ▸ hb')]
        exact hs.room k b' hb'
      · exact hs.room k b hb
  grows := Nat.le_of_eq Array.size_modify.symm
  gone := by
    rintro k ⟨given, missing⟩
    refine ⟨Nat.lt_of_lt_of_eq given Array.size_modify.symm, ?_⟩
    rw [buffer?_modify, missing]
    split <;> rfl
  maps := rfl
  unmaps := rfl

/-- What is done with buffers that are there may be counted. -/
lemma follows_count (c : Counters → Counters) (ha : ∀ n, (c n).allocations = n.allocations)
    (hf : ∀ n, (c n).frees = n.frees) : s.Follows (s.count c) where
  balanced := fun hs => ⟨hs.handles.trans (congrArg (· + 1) (ha _).symm),
    (ha _).trans (hs.live.trans (congrArg (· + s.liveBuffers) (hf _).symm)), hs.room⟩
  grows := Nat.le_refl _
  gone := fun _ hk => ⟨hk.given, hk.missing⟩

/-- A new buffer is live under the next handle. -/
lemma steady_allocate {size : Nat} (hsize : size < 0x8000000000000000) :
    s.Steady { s with
      slots := s.slots.push (some (Buffer.fresh size))
      counters := { s.counters with allocations := s.counters.allocations + 1 } } where
  balanced := by
    intro hs
    refine ⟨?_, ?_, fun k b hb => ?_⟩
    · rw [Array.size_push, hs.handles]
    · rw [liveBuffers, Array.countP_push, hs.live, liveBuffers]
      exact Nat.add_assoc ..
    · rw [buffer?, Array.getElem?_push] at hb
      split at hb
      · cases hb
        rwa [Buffer.fresh, Bytes.size_zeros]
      · exact hs.room k b hb
  grows := Nat.le_of_lt (Nat.lt_of_lt_of_eq (Nat.lt_succ_self _) (Array.size_push _).symm)
  gone := by
    rintro k ⟨given, missing⟩
    refine ⟨Nat.lt_of_lt_of_eq (Nat.lt_succ_of_lt given) (Array.size_push _).symm, ?_⟩
    -- an old handle is not the new one, and stays without a buffer
    rw [buffer?, Array.getElem?_push, if_neg (Nat.ne_of_lt given)]
    exact missing
  maps := rfl
  unmaps := rfl

/-- A buffer that is there may be freed. -/
lemma steady_free {b : Buffer} (hb : s.buffer? h = some b) :
    s.Steady { s with
      slots := s.slots.modify h.number fun _ => none
      counters := { s.counters with frees := s.counters.frees + 1 } } where
  balanced := by
    intro hs
    have slot : s.slots[h.number]? = some (some b) := Option.join_eq_some_iff.1 hb
    refine ⟨Array.size_modify.trans hs.handles, ?_, fun k b' hb' => ?_⟩
    · -- one buffer fewer is counted, as one more is freed
      have count := countP_setIfInBounds (p := (·.isSome)) (b := none) slot
      have live := hs.live
      rw [liveBuffers, modify_eq_setIfInBounds slot]
      rw [liveBuffers] at live
      simp only [Option.isSome_some, Option.isSome_none, Bool.toNat_true, Bool.toNat_false] at count
      dsimp only
      omega
    · rw [buffer?, Array.getElem?_modify] at hb'
      split at hb'
      · next hk => simp [← hk, slot] at hb'
      · exact hs.room k b' hb'
  grows := Nat.le_of_eq Array.size_modify.symm
  gone := by
    rintro k ⟨given, missing⟩
    refine ⟨Nat.lt_of_lt_of_eq given Array.size_modify.symm, ?_⟩
    rw [buffer?, Array.getElem?_modify]
    split
    · cases s.slots[k.number]? <;> rfl
    · exact missing
  maps := rfl
  unmaps := rfl

/-! ### Requests about a buffer -/

/-- A request about a buffer has been served: it has failed and left everything as it was, as it
does where there is no such buffer, or it has succeeded and counts some mappings that were made and
some that were taken back. -/
structure Served {α : Type} (s : Store) (h : Handle) (made taken : Nat) (o : Checked α)
    (s' : Store) : Prop where
  follows : s.Follows s'
  unknown : s.buffer? h = none → o = .error (.error (.unknownBuffer h))
  failed : ∀ f, o = .error f → s' = s
  counted : ∀ y, o = .ok y → s'.counters.maps = s.counters.maps + made ∧
    s'.counters.unmaps = s.counters.unmaps + taken

section Requests

variable {α : Type} {made taken : Nat} {b : Buffer} {log : Array Event} {m : Mapping}

/-- A request without a mapping that is made or taken back keeps the books steady. -/
lemma Served.steady {o : Checked α} (h : Served s h 0 0 o s') : s.Steady s' := by
  cases o with
  | ok y => exact ⟨h.follows, (h.counted y rfl).1, (h.counted y rfl).2⟩
  | error f => exact h.failed f rfl ▸ .refl s

lemma served_error {f : Failure} (hb : s.buffer? h = some b) :
    Served s h made taken (.error f : Checked α) s :=
  ⟨.refl s, by simp [hb], fun _ _ => rfl, nofun⟩

lemma served_ok {y : α} (hb : s.buffer? h = some b) (follows : s.Follows s')
    (maps : s'.counters.maps = s.counters.maps + made)
    (unmaps : s'.counters.unmaps = s.counters.unmaps + taken) :
    Served s h made taken (.ok y) s' :=
  ⟨follows, by simp [hb], nofun, fun _ _ => ⟨maps, unmaps⟩⟩

lemma served_missed :
    Served s h made taken (.error (.error (.unknownBuffer h)) : Checked α) s :=
  ⟨.refl s, fun _ => rfl, fun _ _ => rfl, nofun⟩

/-- A request asks for its buffer first. -/
lemma ends_served_find {x : Buffer → Act Store α}
    (found : ∀ b, s.buffer? h = some b →
      Ends (x b) ⟨s, log⟩ fun o r => Served s h made taken o r.host) :
    Ends (find h >>= x) ⟨s, log⟩ fun o r => Served s h made taken o r.host :=
  ends_found (fun _ => served_missed) found

/-- Some ask next that it is not mapped. -/
lemma ends_served_unmapped {use : Use} {x : Buffer → Act Store α}
    (found : ∀ b, s.buffer? h = some b →
      Ends (x b) ⟨s, log⟩ fun o r => Served s h made taken o r.host) :
    Ends (find h >>= fun b => refuseMapped use h b >>= fun _ => x b) ⟨s, log⟩ fun o r =>
      Served s h made taken o r.host :=
  ends_found_unmapped (fun _ => served_missed) (fun _ hb _ => served_error hb)
    fun b hb _ => found b hb

lemma ends_served_setTiling (tiling : Tiling) (stride : Nat) :
    Ends (setTiling h tiling stride) ⟨s, log⟩ fun o r => Served s h 0 0 o r.host :=
  ends_served_find fun _ hb =>
    served_ok hb (steady_modify (fun b => { b with tiling, stride }) fun _ _ => rfl).toFollows rfl
      rfl

lemma ends_served_syncCpu :
    Ends (syncCpu h) ⟨s, log⟩ fun o r => Served s h 0 0 o r.host :=
  ends_served_find fun _ hb =>
    served_ok hb (follows_count (fun c => { c with cpuSyncs := c.cpuSyncs + 1 }) (fun _ => rfl)
      fun _ => rfl) rfl rfl

lemma ends_served_syncGpu :
    Ends (syncGpu h) ⟨s, log⟩ fun o r => Served s h 0 0 o r.host :=
  ends_served_find fun _ hb =>
    served_ok hb (follows_count (fun c => { c with gpuSyncs := c.gpuSyncs + 1 }) (fun _ => rfl)
      fun _ => rfl) rfl rfl

lemma ends_served_tiling :
    Ends (Store.tiling h) ⟨s, log⟩ fun o r => Served s h 0 0 o r.host :=
  ends_served_find fun _ hb => served_ok hb (.refl s) rfl rfl

lemma ends_served_contents :
    Ends (contents h) ⟨s, log⟩ fun o r => Served s h 0 0 o r.host :=
  ends_served_unmapped fun _ hb => served_ok hb (.refl s) rfl rfl

lemma ends_served_free : Ends (free h) ⟨s, log⟩ fun o r => Served s h 0 0 o r.host :=
  ends_served_unmapped fun _ hb => served_ok hb (steady_free hb).toFollows rfl rfl

lemma ends_served_map (offset size : Nat) (access : Access) :
    Ends (map h offset size access) ⟨s, log⟩ fun o r => Served s h 1 0 o r.host := by
  refine ends_served_unmapped fun b hb => ?_
  rw [ends_bind, ends_ofChecked]
  cases checkRange h offset size b.bytes.size with
  | error f => exact served_error hb
  | ok _ =>
      refine served_ok hb ?_ rfl rfl
      exact (steady_modify (fun b => { b with mapping := some _ }) fun _ _ => rfl).toFollows.trans
        (follows_count (fun c => { c with maps := c.maps + 1 }) (fun _ => rfl) fun _ => rfl)

lemma ends_served_unmap :
    Ends (unmap m) ⟨s, log⟩ fun o r => Served s m.buffer 0 1 o r.host := by
  refine ends_served_find fun b hb => ?_
  split
  · refine served_ok hb ?_ rfl rfl
    exact (steady_modify (fun b => { b with mapping := none }) fun _ _ => rfl).toFollows.trans
      (follows_count (fun c => { c with unmaps := c.unmaps + 1 }) (fun _ => rfl) fun _ => rfl)
  · exact served_error hb

/-- A mapping that is taken back is that of its buffer. -/
lemma ends_unmap_ok : Ends (unmap m) ⟨s, log⟩ fun o _ => ∀ y, o = .ok y →
    ∃ b, s.buffer? m.buffer = some b ∧ b.mapping = some m := by
  rw [unmap]
  refine ends_found (fun _ => by rintro _ ⟨⟩) fun b hb => ?_
  split
  · next hm => exact fun _ _ => ⟨b, hb, hm⟩
  · rintro _ ⟨⟩

/-- **A buffer that is asked for is made**: it is under the next handle, and its bytes are zero. -/
lemma ends_booked_allocate (size : Nat) :
    Ends (allocate size) ⟨s, log⟩ fun o r => s.Steady r.host ∧
      (size < 0x8000000000000000 → o = .ok ⟨s.slots.size⟩) ∧
      ∀ k, o = .ok k → k = ⟨s.slots.size⟩ ∧ k.number < r.host.slots.size ∧
        r.host.buffer? k = some (Buffer.fresh size) := by
  rw [allocate, ends_bind, ends_ofChecked, reserve]
  by_cases hsize : size < 0x8000000000000000
  · rw [if_pos hsize]
    refine ⟨steady_allocate hsize, fun _ => rfl, ?_⟩
    rintro _ ⟨⟩
    refine ⟨rfl, Nat.lt_of_lt_of_eq (Nat.lt_succ_self _) (Array.size_push _).symm, ?_⟩
    exact congrArg Option.join Array.getElem?_push_size
  · rw [if_neg hsize]
    exact ⟨.refl s, fun h => absurd h hsize, by rintro _ ⟨⟩⟩

/-- A copy keeps the books steady, from and to whatever buffers it is made, and fails where one of
them is gone: for the source in the first place. -/
lemma ends_booked_copy (src dst : Surface) (area : Area) :
    Ends (copy src dst area) ⟨s, log⟩ fun o r => s.Steady r.host ∧
      (s.buffer? src.buffer = none → o = .error (.error (.unknownBuffer src.buffer))) ∧
      (s.buffer? dst.buffer = none →
        (∃ a, s.Readable src area a) ∧ o = .error (.error (.unknownBuffer dst.buffer)) ∨
          ∃ f, s.Unread src area f ∧ o = .error f) := by
  have stores : ∀ {a b}, s.Ready src dst area a b → s.Steady (s.storing src dst area a b) := by
    intro a b ready
    refine steady_modify _ fun b' hb' => ?_
    cases hb'.symm.trans ready.target
    exact size_copied
  refine ends_copy_cases (fun f _ unread => ?_) (fun a f _ readable _ unknown => ?_)
    (fun a b f _ ready _ => ?_) fun a b _ ready _ => ?_
  · exact ⟨.refl s, fun hn => congrArg Except.error (unread.eq_unknown hn),
      fun _ => .inr ⟨f, unread, rfl⟩⟩
  · exact ⟨.refl s, by simp [readable.source],
      fun hn => .inl ⟨⟨a, readable⟩, congrArg Except.error (unknown hn)⟩⟩
  · exact ⟨stores ready, by simp [ready.source], by simp [ready.target]⟩
  · refine ⟨⟨(stores ready).toFollows.trans ?_, rfl, rfl⟩, by simp [ready.source],
      by simp [ready.target]⟩
    exact follows_count (fun c => { c with blits := c.blits + 1 }) (fun _ => rfl) fun _ => rfl

/-! ### The memory behind a mapping -/

lemma steady_setWindow {bytes : Bytes} : s.Steady (s.setWindow m bytes) := by
  refine steady_modify _ fun b _ => ?_
  split
  · exact Bytes.size_overwrite ..
  · rfl

lemma steady_discard : s.Steady (s.discard m) := by
  refine steady_modify _ fun b _ => ?_
  split <;> rfl

end Requests

end Store

end Scanout
