/-
The samples of an image in its layouts.

* `Sample`, `Sample.Of`: the bytes of the rows of an image's planes;
* `Layout.places`: where they lie in a layout that is sound, each in a place of its own;
* `Framebuffer.sample_iff`: they are those of the rectangles of the planes;
* `Shadow.Fills.same`: a linear copy that is full holds the samples of the framebuffer;
* `Layout.copied_sample`: what the copy of a plane makes of the samples of all planes;
* `Layout.Same`: two buffers hold the same image, each in a layout of its own.
-/
import Scanout.Proofs.View.Filling

namespace Scanout

/-- A byte of an image: its plane, its row there, and its number in the row. -/
structure Sample where
  plane : Nat
  row : Nat
  column : Nat

/-- The bytes of an image of a size in a format. -/
def Sample.Of (f : PixelFormat) (w h : Nat) (s : Sample) : Prop :=
  s.plane < f.numPlanes ∧ s.row < Plane.height f h s.plane ∧
    ∃ row, Plane.rowBytes f w s.plane = .ok row ∧ s.column < row

variable {f : PixelFormat} {w h : Nat} {L M : Layout} {s : Sample} {fb : Framebuffer}

namespace Layout

/-- The place of a sample in a layout. -/
def place (L : Layout) (s : Sample) : Nat :=
  L.offset s.plane + s.row * L.stride + s.column

/-- A sample lies in its plane. -/
lemma place_lt (hL : L.Sound f w h) (hs : s.Of f w h) :
    L.place s < L.offset s.plane + Plane.height f h s.plane * L.stride := by
  obtain ⟨hp, hrow, row, hbytes, hcol⟩ := hs
  obtain ⟨row', hbytes', hle⟩ := hL.row s.plane hp
  cases hbytes.symm.trans hbytes'
  calc
    _ < L.offset s.plane + s.row * L.stride + row := Nat.add_lt_add_left hcol _
    _ = L.offset s.plane + (s.row * L.stride + row) := Nat.add_assoc ..
    _ ≤ L.offset s.plane + Plane.height f h s.plane * L.stride :=
        Nat.add_le_add_left (row_end_le hrow hle) _

/-- Where the samples of an image lie, each in a place of its own. -/
def places (hL : L.Sound f w h) : Places (Sample.Of f w h) where
  place := L.place
  apart := by
    intro s t hs ht heq
    have hplane : s.plane = t.plane := by
      have hs' := place_lt hL hs
      have ht' := place_lt hL ht
      rcases Nat.lt_trichotomy s.plane t.plane with hlt | heq' | hlt
      · have := hL.apart _ _ hlt ht.1
        simp only [place] at heq hs' ht'
        omega
      · exact heq'
      · have := hL.apart _ _ hlt hs.1
        simp only [place] at heq hs' ht'
        omega
    obtain ⟨p, y, i⟩ := s
    obtain ⟨q, y', i'⟩ := t
    obtain ⟨hp, -, row, hbytes, hi⟩ := hs
    obtain ⟨-, -, row', hbytes', hi'⟩ := ht
    dsimp only at hplane hp hbytes hbytes' hi hi'
    subst hplane
    cases hbytes.symm.trans hbytes'
    obtain ⟨row', hbytes', hle⟩ := hL.row p hp
    cases hbytes.symm.trans hbytes'
    simp only [place, Nat.add_assoc] at heq
    obtain ⟨rfl, rfl⟩ := row_column_inj hle hi hi' (Nat.add_left_cancel heq)
    rfl

/-- Every sample lies inside the buffer. -/
lemma place_lt_size (hL : L.Sound f w h) (hs : s.Of f w h) : L.place s < L.size :=
  Nat.lt_of_lt_of_le (place_lt hL hs) (hL.inside s.plane hs.1)

/-- A buffer that is large enough holds a byte for every sample. -/
lemma exists_sample {d : Bytes} (hL : L.Sound f w h) (hsize : L.size ≤ d.size) (hs : s.Of f w h) :
    ∃ x, d[L.place s]? = some x :=
  ⟨_, getElem?_pos d _ (Nat.lt_of_lt_of_le (place_lt_size hL hs) hsize)⟩

lemma same_self {d : Bytes} (hL : L.Sound f w h) (hsize : d.size = L.size) :
    Places.Same (places hL) (places hL) L.size L.size d d := by
  refine ⟨hsize, hsize, fun s hs => ?_⟩
  obtain ⟨x, hx⟩ := exists_sample hL (Nat.le_of_eq hsize.symm) hs
  exact ⟨x, hx, hx⟩

end Layout

/-- The bytes of an image are those of the rectangles of its planes. -/
lemma Framebuffer.sample_iff {plane row i : Nat} (hL : L.Sound fb.format fb.width fb.height) :
    Sample.Of fb.format fb.width fb.height ⟨plane, row, i⟩ ↔
      plane < fb.numPlanes ∧
        ∃ area, fb.area? plane = some area ∧ row < area.height ∧ i < area.rowBytes := by
  refine and_congr_right fun (hp : plane < fb.numPlanes) => ?_
  obtain ⟨bytes, hbytes, -⟩ := hL.row plane hp
  obtain ⟨bpp, hbpp, -, rfl⟩ := Plane.rowBytes_eq_ok.1 hbytes
  have hlt : plane < maxPlanes := Nat.lt_of_lt_of_le hp hL.planes
  rw [area?, if_neg (Nat.not_le.2 hlt), if_pos hp, hbpp, Option.map_some]
  dsimp only at hbytes ⊢
  rw [hbytes]
  constructor
  · rintro ⟨hrow, _, hb, hi⟩
    cases hb
    exact ⟨_, rfl, hrow, hi⟩
  · rintro ⟨_, ha, hrow, hi⟩
    cases ha
    exact ⟨hrow, _, rfl, hi⟩

variable {sh : Shadow} {d e : Bytes}

/-- A linear copy that is full holds the samples of the framebuffer. -/
lemma Shadow.Fills.same (hf : sh.Fills fb fb.numPlanes d e)
    (hL : fb.layout.Sound fb.format fb.width fb.height)
    (hM : sh.layout.Sound fb.format fb.width fb.height) (hc : d.size = fb.layout.size) :
    Places.Same (Layout.places hL) (Layout.places hM) fb.layout.size sh.layout.size d e := by
  refine ⟨hc, hf.size, fun ⟨plane, row, i⟩ hs => ?_⟩
  obtain ⟨x, hx⟩ := Layout.exists_sample (d := d) hL (Nat.le_of_eq hc.symm) hs
  obtain ⟨hp, area, ha, hrow, hi⟩ := (Framebuffer.sample_iff hL).1 hs
  exact ⟨x, hx, (hf.copied plane hp area ha row hrow i hi).trans hx⟩

namespace Layout

/-- What the copy of a plane makes of the samples: those of the plane come from the source, and all
others stay. -/
lemma copied_sample {a b : Handle} {t u : Tiling} {plane : Nat} {area : Area}
    (hL : L.Sound fb.format fb.width fb.height) (hM : M.Sound fb.format fb.width fb.height)
    (hc : L.size ≤ d.size) (hd : M.size ≤ e.size) (hp : plane < fb.numPlanes)
    (ha : fb.area? plane = some area) (hs : s.Of fb.format fb.width fb.height) :
    (s.plane = plane →
        (Store.copied (L.surface a t plane) (M.surface b u plane) area d e).1[M.place s]? =
          d[L.place s]?) ∧
      (s.plane ≠ plane →
        (Store.copied (L.surface a t plane) (M.surface b u plane) area d e).1[M.place s]? =
          e[M.place s]?) := by
  obtain ⟨p, row, i⟩ := s
  obtain ⟨hp', area', ha', hrow, hi⟩ := (Framebuffer.sample_iff hM).1 hs
  -- a sample of the plane that is copied lies in its rows, and any other outside them
  refine ⟨fun (heq : p = plane) => ?_, fun (hne : p ≠ plane) => ?_⟩
  · subst heq
    cases ha.symm.trans ha'
    exact Store.getElem?_copied_inside (Framebuffer.area_spec hM hp ha).1
      (fun row hrow => Nat.le_trans (place_le_size hL hp ha hrow) hc)
      (fun row hrow => Nat.le_trans (place_le_size hM hp ha hrow) hd) hrow hi
  · exact Store.getElem?_copied_outside (place_apart (h := b) (t := u) hM hp' hp hne ha' ha hrow hi)

/-- Two buffers hold the same image, each in a layout of its own. -/
def Same (f : PixelFormat) (w h : Nat) (L M : Layout) (d e : Bytes) : Prop :=
  ∃ (hL : L.Sound f w h) (hM : M.Sound f w h),
    Places.Same (places hL) (places hM) L.size M.size d e

variable {N : Layout} {c : Bytes}

lemma Same.sound_right (hde : Same f w h L M d e) : M.Sound f w h :=
  let ⟨_, hM, _⟩ := hde
  hM

lemma Same.size_left (hde : Same f w h L M d e) : d.size = L.size :=
  let ⟨_, _, hde⟩ := hde
  hde.left

lemma Same.symm (hde : Same f w h L M d e) : Same f w h M L e d :=
  let ⟨hL, hM, hde⟩ := hde
  ⟨hM, hL, hde.symm⟩

lemma Same.trans (hcd : Same f w h L M c d) (hde : Same f w h M N d e) : Same f w h L N c e :=
  let ⟨hL, _, hcd⟩ := hcd
  let ⟨_, hN, hde⟩ := hde
  ⟨hL, hN, hcd.trans hde⟩

end Layout

end Scanout
