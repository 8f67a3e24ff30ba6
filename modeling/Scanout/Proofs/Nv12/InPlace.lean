/-
Conversions in place.

The buffer that a conversion stores into is its caller's, who sees what has been stored in it even
when the conversion fails later on. So the two conversions are followed store by store here, and
compared with those that give a new buffer or none.

* `InPlace`: work on a buffer that keeps what has been stored, however it ends;
* `Nv12.decodeInPlace`, `Nv12.encodeInPlace`: the conversions between planes and packed pixels, on
  the buffer that they store into;
* `Nv12.decodeInPlace_eq`, `Nv12.encodeInPlace_eq`: **in place a conversion does the same**, and
  leaves the buffer alone where there is no result;
* `Nv12.Guarded`: work that looks at lengths first and stores where all are sufficient;
* `Nv12.conversions_guarded`: **no conversion of any image goes outside its buffers**, and what is
  too short is found before anything is stored.
-/
import Scanout.Proofs.Nv12.Room

namespace Scanout

/-- Work on a buffer. What has been stored stays stored when a later step fails. -/
abbrev InPlace := EStateM Failure Bytes Unit

namespace InPlace

variable {b b' : Bytes} {first count : Nat}

/-- A look at the buffer, which stores nothing. -/
def check (f : Bytes → Checked Unit) : InPlace := fun b =>
  match f b with
  | .ok _ => .ok () b
  | .error e => .error e b

/-- A store. Where there is no result, it crashes and stores nothing. -/
def store (f : Bytes → Option Bytes) : InPlace := fun b =>
  match f b with
  | some b' => .ok () b'
  | none => .error .crash b

/-- The steps `step first`, `step (first + 1)` and so on, `count` of them in that order. -/
def sweep (step : Nat → InPlace) : (first count : Nat) → InPlace
  | _, 0 => pure ()
  | first, count + 1 => do
    step first
    sweep step (first + 1) count

/-- What becomes of a buffer when there is a new one to take its place, or none. -/
def leaving (b : Bytes) : Checked Bytes → EStateM.Result Failure Bytes Unit
  | .ok b' => .ok () b'
  | .error e => .error e b

variable {f : Bytes → Checked Unit} {g : Bytes → Option Bytes} {x : InPlace} {y : Checked Bytes}

lemma bind_of_ok {x₁ x₂ : InPlace} (h : x₁ b = .ok () b') : (x₁ >>= fun _ => x₂) b = x₂ b' := by
  show EStateM.bind x₁ (fun _ => x₂) b = _
  rw [EStateM.bind, h]

/-- A look that fails leaves the buffer alone, and one that does not leaves it to what follows. -/
lemma check_bind (h : f b = .ok () → x b = leaving b y) :
    (check f >>= fun _ => x) b = leaving b (f b >>= fun _ => y) := by
  show EStateM.bind (check f) (fun _ => x) b = _
  rw [EStateM.bind, check]
  cases hf : f b with
  | ok u => exact h hf
  | error e => rfl

lemma store_eq_ok (h : g b = some b') : store g b = .ok () b' := by
  rw [store, h]

/-- A sweep over stores that succeed does what they do. -/
lemma sweep_eq_ok {g : Nat → Bytes → Option Bytes} {x : Nat → InPlace}
    (step : ∀ i b b', g i b = some b' → x i b = .ok () b')
    (h : Scanout.sweep g first count b = some b') : sweep x first count b = .ok () b' := by
  induction count generalizing first b with
  | zero =>
      cases h
      rfl
  | succ count ih =>
      rw [Scanout.sweep] at h
      split at h
      · next b₁ hb₁ =>
        exact (bind_of_ok (step first b b₁ hb₁)).trans (ih h)
      · cases h

end InPlace

namespace Nv12

variable {w h stride : Nat} {p : Placement} {src dst : Bytes}

/-! ### The conversions -/

/-- Stores the colours of an image into a packed buffer. -/
def decodeInPlace (width height : Nat) (src : Bytes) (p : Placement) (stride : Nat) : InPlace := do
  if width = 0 ∨ height = 0 then
    return
  InPlace.check fun _ => checkPlanes width height src p
  InPlace.check fun dst => checkPacked width height dst stride
  InPlace.sweep (fun blockRow => InPlace.sweep (fun column => InPlace.sweep (fun i =>
      InPlace.store (decodePixel src p stride (2 * blockRow + i) column))
    0 (min 2 (height - 2 * blockRow))) 0 width) 0 (halfUp height)

/-- Stores the luma and chroma of a packed image into the planes of a buffer. -/
def encodeInPlace (width height : Nat) (src : Bytes) (stride : Nat) (p : Placement) : InPlace := do
  if width = 0 ∨ height = 0 then
    return
  InPlace.check fun _ => checkPacked width height src stride
  InPlace.check fun dst => checkPlanes width height dst p
  InPlace.sweep (fun row => InPlace.sweep (fun column => InPlace.store fun dst => do
      let color ← bgr? src (packedAt stride row column)
      dst.put? (p.lumaAt row column) (luma color)) 0 width) 0 height
  InPlace.sweep (fun blockRow => InPlace.sweep (fun blockColumn => InPlace.store fun dst => do
      let chroma ← blockChroma? height src stride blockRow blockColumn
      putChroma? dst (p.chromaAt blockRow blockColumn) chroma) 0 (halfUp width)) 0 (halfUp height)

/-- **In place an image is decoded as into a new buffer**, and where it is not, the buffer is left
alone. -/
lemma decodeInPlace_eq (w h : Nat) (src : Bytes) (p : Placement) (stride : Nat) (dst : Bytes) :
    decodeInPlace w h src p stride dst = InPlace.leaving dst (decode w h src p dst stride) := by
  rw [decodeInPlace, decode]
  by_cases hempty : w = 0 ∨ h = 0
  · rw [if_pos hempty, if_pos hempty]
    rfl
  rw [if_neg hempty, if_neg hempty]
  refine InPlace.check_bind fun hplanes => InPlace.check_bind fun hpacked => ?_
  obtain ⟨dst', hrows, -⟩ :=
    decodeRows_ok (.of_checkPlanes hplanes) (requireLength_eq_ok.1 hpacked)
  rw [hrows]
  exact InPlace.sweep_eq_ok (fun _ _ _ => InPlace.sweep_eq_ok fun _ _ _ =>
    InPlace.sweep_eq_ok fun _ _ _ => InPlace.store_eq_ok) hrows

/-- **In place an image is encoded as into a new buffer**, and where it is not, the buffer is left
alone. -/
lemma encodeInPlace_eq (w h : Nat) (src : Bytes) (stride : Nat) (p : Placement) (dst : Bytes) :
    encodeInPlace w h src stride p dst = InPlace.leaving dst (encode w h src stride dst p) := by
  rw [encodeInPlace, encode]
  by_cases hempty : w = 0 ∨ h = 0
  · rw [if_pos hempty, if_pos hempty]
    rfl
  rw [if_neg hempty, if_neg hempty]
  refine InPlace.check_bind fun hpacked => InPlace.check_bind fun hplanes => ?_
  obtain ⟨between, dst', hluma, hchroma, -⟩ :=
    encodePlanes_ok (requireLength_eq_ok.1 hpacked) (.of_checkPlanes hplanes)
  rw [hluma]
  show _ = InPlace.leaving dst (Checked.need (encodeChroma w h src stride p between))
  rw [hchroma]
  rw [encodeLuma, sweepArea_eq] at hluma
  rw [encodeChroma, sweepArea_eq] at hchroma
  have stores : ∀ {g : Nat → Nat → Bytes → Option Bytes} {columns rows : Nat} {b b' : Bytes},
      sweep (fun y => sweep (g y) 0 columns) 0 rows b = some b' →
        InPlace.sweep (fun y => InPlace.sweep (fun x => InPlace.store (g y x)) 0 columns) 0 rows b =
          .ok () b' :=
    InPlace.sweep_eq_ok fun _ _ _ => InPlace.sweep_eq_ok fun _ _ _ => InPlace.store_eq_ok
  exact (InPlace.bind_of_ok (stores hluma)).trans (stores hchroma)

/-! ### What is looked at first -/

/-- Work for an image that looks at lengths before it stores anything. For an image without pixels
there is nothing to do. The work never goes outside its buffers; it fails exactly where there is too
little of some length, and with the first such length; and where it fails it has stored nothing. -/
structure Guarded (x : InPlace) (empty : Prop) (needs : List Demand) (b : Bytes) : Prop where
  idle : empty → x b = .ok () b
  crashless : ∀ b', x b ≠ .error .crash b'
  refuses : (∃ needed actual b', x b = .error (.error (.bufferTooSmall needed actual)) b') ↔
    ¬empty ∧ ∃ d ∈ needs, d.actual < d.needed
  first : ∀ f b', x b = .error f b' → ∃ d, needs.find? (fun d => d.actual < d.needed) = some d ∧
    f = .error (.bufferTooSmall d.needed d.actual)
  untouched : ∀ f b', x b = .error f b' → b' = b
  size : ∀ b', x b = .ok () b' → b'.size = b.size

namespace Guarded

variable {x : InPlace} {empty : Prop} {needs : List Demand} {b b' : Bytes} {d : Demand}

/-- Work that succeeds is guarded if it does so for want of pixels, or of nothing. -/
lemma of_ok (h₀ : x b = .ok () b') (hsize : b'.size = b.size) (hidle : empty → b' = b)
    (hroom : ¬empty → ∀ d ∈ needs, d.needed ≤ d.actual) : Guarded x empty needs b where
  idle he := hidle he ▸ h₀
  crashless := by simp [h₀]
  refuses := by
    simp only [h₀, reduceCtorEq, exists_false, false_iff, not_and, not_exists]
    exact fun he d hd => Nat.not_lt.2 (hroom he d hd)
  first := by simp [h₀]
  untouched := by simp [h₀]
  size _ h := by
    cases h₀.symm.trans h
    exact hsize

/-- Work that fails is guarded if it does so for the first length that is lacking. -/
lemma of_error (h₀ : x b = .error (.error (.bufferTooSmall d.needed d.actual)) b)
    (hpixels : ¬empty) (hd : needs.find? (fun d => d.actual < d.needed) = some d) :
    Guarded x empty needs b where
  idle he := absurd he hpixels
  crashless := by simp [h₀]
  refuses := by
    refine ⟨fun _ => ⟨hpixels, d, List.mem_of_find?_eq_some hd, ?_⟩, fun _ => ⟨_, _, _, h₀⟩⟩
    simpa using List.find?_some hd
  first _ _ h := by
    cases h₀.symm.trans h
    exact ⟨d, hd, rfl⟩
  untouched _ _ h := by
    cases h₀.symm.trans h
    rfl
  size := by simp [h₀]

/-- Work that does as a computation that asks for lengths first, and that has a result of the same
size where there is enough of everything, is guarded. -/
lemma of_leaving {y z : Checked Bytes} (hx : x b = InPlace.leaving b y) (hidle : empty → y = .ok b)
    (hdemand : ¬empty → y = demand needs z)
    (hroom : (∀ d ∈ needs, d.needed ≤ d.actual) → ∃ b', y = .ok b' ∧ b'.size = b.size) :
    Guarded x empty needs b := by
  by_cases he : empty
  · rw [hidle he] at hx
    exact of_ok hx rfl (fun _ => rfl) fun hpixels => absurd he hpixels
  · rcases demand_cases needs z with ⟨d, hd, hy⟩ | ⟨hall, -⟩
    · rw [hdemand he, hy] at hx
      exact of_error hx he hd
    · obtain ⟨b', hb', hs⟩ := hroom hall
      rw [hb'] at hx
      exact of_ok hx hs (fun hempty => absurd hempty he) fun _ => hall

end Guarded

/-- **No conversion goes outside its buffers.** Whatever the image, the buffers and the places of
its rows, even where planes overlap and rows reach into each other: the three lengths, up to the
last row of luma, of chroma and of packed pixels, are looked at first, and a conversion fails
exactly where an image with pixels lacks one of them. Where it fails, or has no pixels to convert,
the buffer that it was to store into is as it was; and the result is that of the conversion into a
new buffer. -/
theorem conversions_guarded (w h stride : Nat) (p : Placement) (src dst : Bytes) :
    (Guarded (decodeInPlace w h src p stride) (w = 0 ∨ h = 0)
        [⟨p.lumaStart + (h - 1) * p.stride + w, src.size⟩,
          ⟨p.chromaStart + (halfUp h - 1) * p.stride + 2 * halfUp w, src.size⟩,
          ⟨(h - 1) * stride + 4 * w, dst.size⟩] dst ∧
      decodeInPlace w h src p stride dst = InPlace.leaving dst (decode w h src p dst stride)) ∧
    Guarded (encodeInPlace w h src stride p) (w = 0 ∨ h = 0)
        [⟨(h - 1) * stride + 4 * w, src.size⟩,
          ⟨p.lumaStart + (h - 1) * p.stride + w, dst.size⟩,
          ⟨p.chromaStart + (halfUp h - 1) * p.stride + 2 * halfUp w, dst.size⟩] dst ∧
      encodeInPlace w h src stride p dst = InPlace.leaving dst (encode w h src stride dst p) := by
  have decoded := decodeInPlace_eq w h src p stride dst
  have encoded := encodeInPlace_eq w h src stride p dst
  refine ⟨⟨.of_leaving decoded (fun hempty => if_pos hempty) (fun hpixels => decode_eq hpixels)
      fun hall => ?_, decoded⟩,
    .of_leaving encoded (fun hempty => if_pos hempty) (fun hpixels => encode_eq hpixels)
      fun hall => ?_, encoded⟩
  · simp only [List.forall_mem_cons] at hall
    obtain ⟨hluma, hchroma, hdst, -⟩ := hall
    exact decode_ok ⟨hluma, hchroma⟩ hdst
  · simp only [List.forall_mem_cons] at hall
    obtain ⟨hsrc, hluma, hchroma, -⟩ := hall
    exact encode_ok hsrc ⟨hluma, hchroma⟩

/-- Three pixels take two pairs of chroma, for the second of which a byte is missing here. -/
example : encodeInPlace 3 1 (.zeros 12) 12 ⟨3, 0, 3⟩ (.zeros 6) =
    .error (.error (.bufferTooSmall 7 6)) (.zeros 6) := by
  rfl

end Nv12

end Scanout
