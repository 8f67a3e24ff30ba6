/-
What a copy does to a store.

* `Bytes.HoldsRows`: some bytes are others with the first rows of a rectangle stored in them, which
  may reach into each other;
* `Bytes.HoldsRows.eq_iff`: when the rows were there already;
* `Store.copy_ok_iff`, `Store.copy_stores`: **when a copy succeeds, and what it leaves**, also where
  source and target are parts of one buffer;
* `Store.BrokenOff`: a copy has stored some rows, and the next one does not fit;
* `Store.copy_breaks_off`: **what a copy that fails leaves**.
-/
import Scanout.Proofs.Store.Requests

namespace Scanout

namespace Bytes

/-- Some bytes are others with the first `n` rows of a rectangle stored in them. Of a row into which
the next one reaches, no more is there than the stride leaves. -/
structure HoldsRows (src dst : Surface) (len n : Nat) (source before after : Bytes) : Prop where
  size : after.size = before.size
  inside : ∀ row < n, ∀ i < len, (row + 1 = n ∨ i < dst.stride) →
    after[dst.place row i]? = source[src.place row i]?
  outside : ∀ j : Nat, (∀ row < n, j < dst.place row 0 ∨ dst.place row len ≤ j) →
    after[j]? = before[j]?

variable {src dst : Surface} {len n row j : Nat} {source before after : Bytes}

/-- A place in some row is in the last row that reaches there. -/
lemma exists_last_row (hrow : row < n) (hfirst : dst.place row 0 ≤ j)
    (hlast : j < dst.place row len) :
    ∃ r < n, ∃ i < len, (r + 1 = n ∨ i < dst.stride) ∧ j = dst.place r i := by
  induction h : n - row generalizing row with
  | zero => omega
  | succ k ih =>
      obtain ⟨i, rfl⟩ := Nat.exists_eq_add_of_le hfirst
      rw [dst.place_eq row len] at hlast
      by_cases hnext : row + 1 = n ∨ i < dst.stride
      · exact ⟨row, hrow, i, by omega, hnext, dst.place_eq row i⟩
      -- the row after this one reaches there too
      · have next := dst.place_succ row
        refine @ih (row + 1) (by omega) (by omega) ?_ (by omega)
        rw [dst.place_eq (row + 1) len]
        omega

/-- Nothing changes exactly when the rows were there already. -/
lemma HoldsRows.eq_iff (h : HoldsRows src dst len n source before after) :
    after = before ↔ ∀ row < n, ∀ i < len, (row + 1 = n ∨ i < dst.stride) →
      before[dst.place row i]? = source[src.place row i]? := by
  refine ⟨fun heq => heq ▸ h.inside, fun there => ext_getElem? fun j => ?_⟩
  by_cases hj : ∃ row < n, dst.place row 0 ≤ j ∧ j < dst.place row len
  · obtain ⟨row, hrow, hfirst, hlast⟩ := hj
    obtain ⟨r, hr, i, hi, hri, rfl⟩ := exists_last_row hrow hfirst hlast
    exact (h.inside r hr i hi hri).trans (there r hr i hi hri).symm
  · refine h.outside j fun row hrow => ?_
    rcases Nat.lt_or_ge j (dst.place row 0) with hlt | hge
    · exact .inl hlt
    · exact .inr (Nat.le_of_not_lt fun hlt => hj ⟨row, hrow, hge, hlt⟩)

end Bytes

namespace Store

variable {s s' : Store} {src dst : Surface} {area : Area} {a b : Buffer} {log : Array Event}
  {source target : Bytes} {len n : Nat}

/-- Rows that all fit are stored. -/
lemma holdsRows_scatter (hs : ∀ row < n, src.place row len ≤ source.size)
    (ht : ∀ row < n, dst.place row len ≤ target.size) :
    Bytes.HoldsRows src dst len n source target
      (scatter dst.buffer source src.stride dst.stride len n src.offset dst.offset target).1 where
  size := size_scatter
  inside := fun _ hrow _ hi hlast => getElem?_scatter_last hlast hs ht hrow hi
  outside := fun _ hj => getElem?_scatter_outside hj

/-! ### Copies that succeed -/

/-- A rectangle that fits into its target is not too large to be held in memory for a while. -/
lemma memory_of_fits (hrows : area.rowBytes ≤ dst.stride ∨ area.height ≤ 1)
    (hfit : ∀ row < area.height, dst.place row area.rowBytes ≤ target.size) :
    area.rowBytes * area.height ≤ target.size := by
  cases hh : area.height with
  | zero => omega
  | succ k =>
      have last := hfit k (by omega)
      rw [Surface.place] at last
      rw [Nat.mul_succ]
      rcases hrows with hle | hone
      · have : area.rowBytes * k ≤ dst.stride * k := Nat.mul_le_mul_right k hle
        rw [Nat.mul_comm dst.stride] at this
        omega
      · have : k = 0 := by omega
        subst this
        omega

/-- **A copy succeeds exactly when both buffers are there, neither is mapped, and every row of both
lies inside its buffer.** -/
lemma copy_ok_iff (hlen : 0 < area.rowBytes)
    (hrows : area.rowBytes ≤ dst.stride ∨ area.height ≤ 1)
    (hroom : ∀ b, s.buffer? dst.buffer = some b → b.bytes.size < 0x8000000000000000) :
    (∃ r, copy src dst area ⟨s, log⟩ = .ok () r) ↔
      ∃ a b, s.buffer? src.buffer = some a ∧ a.mapping = none ∧
        s.buffer? dst.buffer = some b ∧ b.mapping = none ∧
        ∀ row < area.height, src.place row area.rowBytes ≤ a.bytes.size ∧
          dst.place row area.rowBytes ≤ b.bytes.size := by
  have rows : area.rows = area.height := if_neg (Nat.ne_of_gt hlen)
  -- each of the ways in which the copy can end, against the condition
  have ends : Ends (copy src dst area) ⟨s, log⟩ fun o _ => o = .ok () ↔
      ∃ a b, s.Ready src dst area a b ∧
        ∀ row < area.height, dst.place row area.rowBytes ≤ b.bytes.size := by
    refine ends_copy_cases (fun f _ unread => ?_) (fun a f _ _ hmapped _ => ?_)
      (fun a b f _ ready hf => ?_) fun a b _ ready hok => ?_
    · exact iff_of_false nofun fun ⟨a, b, h, _⟩ => unread.not_readable h.readable
    · exact iff_of_false nofun fun ⟨_, b, h, _⟩ => hmapped b h.target h.targetFree
    · refine iff_of_false nofun fun ⟨a', b', h, fits⟩ => ?_
      cases h.source.symm.trans ready.source
      cases h.target.symm.trans ready.target
      simp [copied_ok fits] at hf
    · exact iff_of_true rfl ⟨a, b, ready, rows ▸ scatter_eq_ok.1 hok⟩
  have outcome : (∃ r, copy src dst area ⟨s, log⟩ = .ok () r) ↔
      ∃ a b, s.Ready src dst area a b ∧
        ∀ row < area.height, dst.place row area.rowBytes ≤ b.bytes.size := by
    rw [Ends] at ends
    cases h : copy src dst area ⟨s, log⟩ with
    | ok y r => simpa [h] using ends
    | error f r => simpa [h] using ends
  rw [outcome]
  constructor
  · rintro ⟨a, b, h, fits⟩
    exact ⟨a, b, h.source, h.sourceFree, h.target, h.targetFree,
      fun row hrow => ⟨h.inside row hrow, fits row hrow⟩⟩
  · rintro ⟨a, b, ha, hma, hb, hmb, inside⟩
    refine ⟨a, b, ⟨ha, hma, ?_, fun row hrow => (inside row hrow).1, hb, hmb⟩,
      fun row hrow => (inside row hrow).2⟩
    -- rows that fit into the target ask for no more memory than it takes up
    exact Nat.lt_of_le_of_lt (memory_of_fits hrows fun row hrow => (inside row hrow).2)
      (hroom b hb)

/-- What a copy that succeeds leaves: all of its rows, and nothing else that is new but the count of
copies. -/
lemma copy_stores {r : Run Store} (hcopy : copy src dst area ⟨s, log⟩ = .ok () r) :
    ∃ a b, s.Ready src dst area a b ∧ ∃ bytes,
      s.Sets dst.buffer (some { b with bytes }) r.host ∧
      Bytes.HoldsRows src dst area.rowBytes area.rows a.bytes b.bytes bytes ∧
      r.host.counters = { s.counters with blits := s.counters.blits + 1 } ∧
      r.host.serial = s.serial := by
  have ends : Ends (copy src dst area) ⟨s, log⟩ fun o r => o = .ok () →
      ∃ a b, s.Ready src dst area a b ∧ ∃ bytes,
        s.Sets dst.buffer (some { b with bytes }) r.host ∧
        Bytes.HoldsRows src dst area.rowBytes area.rows a.bytes b.bytes bytes ∧
        r.host.counters = { s.counters with blits := s.counters.blits + 1 } ∧
        r.host.serial = s.serial := by
    refine ends_copy_cases (fun _ _ _ => nofun) (fun _ _ _ _ _ _ => nofun)
      (fun _ _ _ _ _ _ => nofun) fun a b _ ready hok _ => ?_
    refine ⟨a, b, ready, _, ready.sets, ?_, rfl, rfl⟩
    exact holdsRows_scatter (fun row hrow => ready.inside row (lt_height_of_lt_rows hrow))
      (scatter_eq_ok.1 hok)
  exact ends.of_ok hcopy rfl

/-- **A copy moves a rectangle, and nothing else.** It succeeds exactly when both buffers are there,
neither is mapped, and every row of both lies inside its buffer. Then every row of the target holds
what the row of the source held before, even where both are parts of one buffer; every other byte of
the target is as it was, and so is every other buffer; and one more copy is counted. The target is
no larger than what can be asked for, as is every buffer that was ever given out. -/
theorem copy_exact (hlen : 0 < area.rowBytes)
    (hrows : area.rowBytes ≤ dst.stride ∨ area.height ≤ 1)
    (hroom : ∀ b, s.buffer? dst.buffer = some b → b.bytes.size < 0x8000000000000000) :
    ((∃ r, copy src dst area ⟨s, log⟩ = .ok () r) ↔
      ∃ a b, s.buffer? src.buffer = some a ∧ a.mapping = none ∧
        s.buffer? dst.buffer = some b ∧ b.mapping = none ∧
        ∀ row < area.height, src.place row area.rowBytes ≤ a.bytes.size ∧
          dst.place row area.rowBytes ≤ b.bytes.size) ∧
    ∀ r a b, copy src dst area ⟨s, log⟩ = .ok () r → s.buffer? src.buffer = some a →
      s.buffer? dst.buffer = some b → ∃ bytes : Bytes,
        r.host.buffer? dst.buffer = some { b with bytes } ∧ bytes.size = b.bytes.size ∧
        (∀ row < area.height, ∀ i < area.rowBytes,
          bytes[dst.place row i]? = a.bytes[src.place row i]?) ∧
        (∀ j : Nat, (∀ row < area.height, j < dst.place row 0 ∨ dst.place row area.rowBytes ≤ j) →
          bytes[j]? = b.bytes[j]?) ∧
        (∀ k ≠ dst.buffer, r.host.buffer? k = s.buffer? k) ∧
        r.host.counters = { s.counters with blits := s.counters.blits + 1 } := by
  refine ⟨copy_ok_iff hlen hrows hroom, fun r a b hcopy ha hb => ?_⟩
  -- what is stored is a fact about the buffers that were found
  obtain ⟨a', b', ready, bytes, sets, rows, counters, -⟩ := copy_stores hcopy
  cases ready.source.symm.trans ha
  cases ready.target.symm.trans hb
  rw [Area.rows, if_neg (Nat.ne_of_gt hlen)] at rows
  refine ⟨bytes, sets.self, rows.size, fun row hrow i hi => ?_, rows.outside,
    fun k hk => sets.other hk, counters⟩
  exact rows.inside row hrow i hi (by omega)

/-- A store with a buffer of nine bytes and one of four, neither mapped. -/
def couple : Store :=
  ⟨0, #[none, some ⟨⟨#[1, 2, 3, 4, 5, 6, 7, 8, 9]⟩, .linear, 0, none⟩,
    some ⟨⟨#[0, 0, 0, 0]⟩, .y, 4, none⟩], {}⟩

/-- Two rows of four bytes that overlap are pulled apart within their buffer. -/
theorem copy_couple_exact :
    ∃ r, copy ⟨⟨1⟩, 0, 3, .linear⟩ ⟨⟨1⟩, 1, 4, .linear⟩ ⟨1, 2, 32⟩ ⟨couple, #[]⟩ = .ok () r ∧
      ∃ bytes : Bytes, r.host.buffer? ⟨1⟩ = some ⟨bytes, .linear, 0, none⟩ ∧
        ∀ row < 2, ∀ i < 4, bytes[1 + row * 4 + i]? =
          (⟨#[1, 2, 3, 4, 5, 6, 7, 8, 9]⟩ : Bytes)[0 + row * 3 + i]? := by
  obtain ⟨succeeds, leaves⟩ := @copy_exact couple ⟨⟨1⟩, 0, 3, .linear⟩ ⟨⟨1⟩, 1, 4, .linear⟩
    ⟨1, 2, 32⟩ #[] (by decide) (by decide) (by rintro b ⟨⟩; decide)
  obtain ⟨r, hr⟩ := succeeds.2 ⟨_, _, rfl, rfl, rfl, rfl, by decide⟩
  obtain ⟨bytes, hb, -, rows, -⟩ := leaves r _ _ hr rfl rfl
  exact ⟨r, hr, bytes, hb, rows⟩

/-! ### Copies that fail -/

/-- A copy has broken off after `n` rows: they are stored, the next one does not fit, and nothing
else has changed. -/
structure BrokenOff (s : Store) (src dst : Surface) (area : Area) (n : Nat) (s' : Store) :
    Prop where
  /-- Nothing is stored unless all is well with both buffers and with the rows of the source. -/
  unready : (∀ a b, ¬s.Ready src dst area a b) → n = 0
  counters : s'.counters = s.counters
  other : ∀ k ≠ dst.buffer, s'.buffer? k = s.buffer? k
  stored : ∀ a b, s.Ready src dst area a b → n < area.height ∧
    (∀ row < n, dst.place row area.rowBytes ≤ b.bytes.size) ∧
    b.bytes.size < dst.place n area.rowBytes ∧
    ∃ bytes, s'.buffer? dst.buffer = some { b with bytes } ∧
      Bytes.HoldsRows src dst area.rowBytes n a.bytes b.bytes bytes
  /-- Nothing has changed exactly if what was stored was there already. -/
  same : s' = s ↔ ∀ a b, s.Ready src dst area a b → ∀ row < n, ∀ i < area.rowBytes,
    (row + 1 = n ∨ i < dst.stride) → b.bytes[dst.place row i]? = a.bytes[src.place row i]?

/-- A buffer that is changed to what it is leaves the store as it is. -/
lemma modify_eq_self {f : Buffer → Buffer} {h : Handle} (hf : ∀ b, s.buffer? h = some b → f b = b) :
    s.modify h f = s := by
  have slots : s.slots.modify h.number (Option.map f) = s.slots := by
    refine Array.ext_getElem? fun i => ?_
    rw [Array.getElem?_modify]
    split
    · next hi =>
      cases hs : s.slots[i]? with
      | none => rfl
      | some o =>
          cases o with
          | none => rfl
          | some b => rw [Option.map_some, Option.map_some, hf b (by rw [buffer?, hi, hs]; rfl)]
    · rfl
  rw [modify, slots]

/-- **What a copy that fails leaves**: as many rows as come before the first that does not fit, none
where something else is amiss, and everything else as it was. -/
theorem copy_breaks_off {f : Failure} {r : Run Store}
    (hcopy : copy src dst area ⟨s, log⟩ = .error f r) :
    ∃ n, s.BrokenOff src dst area n r.host := by
  have ends : Ends (copy src dst area) ⟨s, log⟩ fun o r => ∀ f, o = .error f →
      ∃ n, s.BrokenOff src dst area n r.host := by
    -- nothing is stored before everything has been looked at
    have nothing : (∀ a b, ¬s.Ready src dst area a b) → ∃ n, s.BrokenOff src dst area n s :=
      fun hmiss => ⟨0, fun _ => rfl, rfl, fun _ _ => rfl, fun a b h => absurd h (hmiss a b),
        iff_of_true rfl fun a b h => absurd h (hmiss a b)⟩
    refine ends_copy_cases (fun f _ unread _ _ => ?_) (fun a f _ _ hmapped _ _ _ => ?_)
      (fun a b f _ ready hf _ _ => ?_) fun _ _ _ _ _ _ => nofun
    · exact nothing fun a b h => unread.not_readable h.readable
    · exact nothing fun a b h => hmapped b h.target h.targetFree
    · obtain ⟨n, hn, fits, stops, same⟩ := scatter_eq_error hf
      have hheight := lt_height_of_lt_rows hn
      have rows : Bytes.HoldsRows src dst area.rowBytes n a.bytes b.bytes _ :=
        holdsRows_scatter (fun row hrow => ready.inside row (Nat.lt_trans hrow hheight)) fits
      rw [← same] at rows
      -- the two buffers are the only ones that this can be about
      have only : ∀ {a' b'}, s.Ready src dst area a' b' → a' = a ∧ b' = b := fun h =>
        ⟨Option.some.inj (h.source.symm.trans ready.source),
          Option.some.inj (h.target.symm.trans ready.target)⟩
      refine ⟨n, fun hmiss => absurd ready (hmiss a b), rfl, fun k hk => ready.sets.other hk,
        fun a' b' h => ?_, ?_⟩
      · obtain ⟨rfl, rfl⟩ := only h
        exact ⟨hheight, fits, stops, _, ready.sets.self, rows⟩
      · -- nothing changed exactly where the bytes were there already
        constructor
        · intro heq a' b' h
          obtain ⟨rfl, rfl⟩ := only h
          have kept := h.target.symm.trans
            ((congrArg (·.buffer? dst.buffer) heq).symm.trans ready.sets.self)
          exact rows.eq_iff.1 (congrArg Buffer.bytes (Option.some.inj kept)).symm
        · intro there
          refine modify_eq_self fun b' hb' => ?_
          cases hb'.symm.trans ready.target
          exact congrArg (fun bytes => { b with bytes }) (rows.eq_iff.2 (there a b ready))
  exact ends.of_error hcopy f rfl

/-- A copy that fails may have stored rows: of two rows only the first fits, and it stays. -/
theorem copy_tears :
    ∃ r, copy ⟨⟨1⟩, 0, 4, .linear⟩ ⟨⟨2⟩, 0, 4, .y⟩ ⟨1, 2, 32⟩ ⟨couple, #[]⟩ =
        .error (.error (.outOfBounds ⟨2⟩ 4 4 4)) r ∧
      couple.buffer? ⟨2⟩ = some ⟨⟨#[0, 0, 0, 0]⟩, .y, 4, none⟩ ∧
      r.host.buffer? ⟨2⟩ = some ⟨⟨#[1, 2, 3, 4]⟩, .y, 4, none⟩ :=
  ⟨_, rfl, rfl, rfl⟩

/-- What is left is the one row that fits. -/
theorem copy_couple_breaks_off :
    ∃ f r, copy ⟨⟨1⟩, 0, 4, .linear⟩ ⟨⟨2⟩, 0, 4, .y⟩ ⟨1, 2, 32⟩ ⟨couple, #[]⟩ = .error f r ∧
      ∃ n, couple.BrokenOff ⟨⟨1⟩, 0, 4, .linear⟩ ⟨⟨2⟩, 0, 4, .y⟩ ⟨1, 2, 32⟩ n r.host :=
  ⟨_, _, rfl, copy_breaks_off rfl⟩

end Store

end Scanout
