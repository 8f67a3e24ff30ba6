/-
How much of a framebuffer a linear copy of it holds.

* `Framebuffer.exists_area`, `Layout.place_le_size`, `Layout.place_apart`: the rows of the planes in
  a layout that is sound;
* `Shadow.Fills`: a linear copy holds the first planes of the framebuffer, and zeros for the others;
* `Shadow.Fills.next`: **the copy of one more plane**;
* `Shadow.Fills.restores`: planes that are held change nothing when they are copied back.
-/
import Scanout.Proofs.Layout.Planes
import Scanout.Proofs.Samples.Both
import Scanout.Proofs.Store.Rows
import Scanout.View

namespace Scanout

variable {fb : Framebuffer} {L : Layout} {area : Area} {plane : Nat}

/-- Every plane of a layout that is sound has a rectangle, whose rows fit into the stride. -/
lemma Framebuffer.exists_area (hL : L.Sound fb.format fb.width fb.height)
    (hp : plane < fb.numPlanes) :
    ∃ area, fb.area? plane = some area ∧ area.rowBytes ≤ L.stride ∧
      area.height = Plane.height fb.format fb.height plane := by
  obtain ⟨row, hrow, hle⟩ := hL.row plane hp
  obtain ⟨bpp, hbpp, -, rfl⟩ := Plane.rowBytes_eq_ok.1 hrow
  have hlt : plane < maxPlanes := Nat.lt_of_lt_of_le hp hL.planes
  refine ⟨⟨Plane.width fb.format fb.width plane, Plane.height fb.format fb.height plane, bpp⟩, ?_,
    hle, rfl⟩
  rw [area?, if_neg (Nat.not_le.2 hlt), if_pos hp, hbpp, Option.map_some]

/-- The rectangle of a plane has the rows of the plane, and they fit into the stride. -/
lemma Framebuffer.area_spec (hL : L.Sound fb.format fb.width fb.height) (hp : plane < fb.numPlanes)
    (ha : fb.area? plane = some area) :
    area.rowBytes ≤ L.stride ∧ area.height = Plane.height fb.format fb.height plane := by
  obtain ⟨area', ha', h⟩ := exists_area hL hp
  cases ha'.symm.trans ha
  exact h

namespace Layout

/-- The surface of a plane. -/
def surface (L : Layout) (buffer : Handle) (tiling : Tiling) (plane : Nat) : Surface :=
  ⟨buffer, L.offset plane, L.stride, tiling⟩

variable {h h' : Handle} {t t' : Tiling} {row i : Nat}

/-- A row of a plane lies inside the buffer. -/
lemma place_le_size (hL : L.Sound fb.format fb.width fb.height) (hp : plane < fb.numPlanes)
    (ha : fb.area? plane = some area) (hrow : row < area.height) :
    (L.surface h t plane).place row area.rowBytes ≤ L.size := by
  obtain ⟨hle, hheight⟩ := Framebuffer.area_spec hL hp ha
  have hend := row_end_le hrow hle
  have hin := hL.inside plane hp
  rw [← hheight] at hin
  simp only [Surface.place, surface]
  omega

/-- There is memory for the samples of a plane. -/
lemma area_lt (hL : L.Sound fb.format fb.width fb.height) (hp : plane < fb.numPlanes)
    (ha : fb.area? plane = some area) : area.rowBytes * area.height < 0x8000000000000000 := by
  obtain ⟨hle, hheight⟩ := Framebuffer.area_spec hL hp ha
  have hin := hL.inside plane hp
  have hsize := hL.size
  rw [← hheight] at hin
  calc area.rowBytes * area.height ≤ L.stride * area.height := Nat.mul_le_mul_right _ hle
    _ ≤ L.size := by rw [Nat.mul_comm]; omega
    _ < 0x8000000000000000 := by omega

/-- Rows of different planes do not touch. -/
lemma place_apart (hL : L.Sound fb.format fb.width fb.height) {p q : Nat} {a b : Area}
    (hp : p < fb.numPlanes) (hq : q < fb.numPlanes) (hne : p ≠ q) (ha : fb.area? p = some a)
    (hb : fb.area? q = some b) (hrow : row < a.height) (hi : i < a.rowBytes) :
    ∀ r < b.height, (L.surface h t p).place row i < (L.surface h' t' q).place r 0 ∨
      (L.surface h' t' q).place r b.rowBytes ≤ (L.surface h t p).place row i := by
  intro r hr
  obtain ⟨hla, hha⟩ := Framebuffer.area_spec hL hp ha
  obtain ⟨hlb, hhb⟩ := Framebuffer.area_spec hL hq hb
  have hea := row_end_le hrow hla
  have heb := row_end_le hr hlb
  simp only [Surface.place, surface]
  rcases Nat.lt_or_gt_of_ne hne with hlt | hlt
  · have := hL.apart p q hlt hq
    rw [← hha] at this
    omega
  · have := hL.apart q p hlt hp
    rw [← hhb] at this
    omega

end Layout

/-- There is a surface for each of four planes. -/
lemma Framebuffer.surface?_eq (fb : Framebuffer) (hp : plane < maxPlanes) :
    fb.surface? plane = some (fb.layout.surface fb.buffer fb.tiling plane) := by
  rw [surface?, Layout.getElem?_offsets hp]
  rfl

namespace Shadow

lemma surface?_eq (sh : Shadow) (hp : plane < maxPlanes) :
    sh.surface? plane = some (sh.layout.surface sh.buffer .linear plane) := by
  rw [surface?, Layout.getElem?_offsets hp]
  rfl

/-- A linear copy holds the first planes of a framebuffer, and zeros for the others. -/
structure Fills (sh : Shadow) (fb : Framebuffer) (n : Nat) (b d : Bytes) : Prop where
  size : d.size = sh.layout.size
  inside : ∀ plane < n, ∀ area, fb.area? plane = some area → ∀ row < area.height,
    (fb.layout.surface fb.buffer fb.tiling plane).place row area.rowBytes ≤ b.size
  copied : ∀ plane < n, ∀ area, fb.area? plane = some area →
    ∀ row < area.height, ∀ i < area.rowBytes,
      d[(sh.layout.surface sh.buffer .linear plane).place row i]? =
        b[(fb.layout.surface fb.buffer fb.tiling plane).place row i]?
  blank : ∀ plane < fb.numPlanes, n ≤ plane → ∀ area, fb.area? plane = some area →
    ∀ row < area.height, ∀ i < area.rowBytes,
      d[(sh.layout.surface sh.buffer .linear plane).place row i]? = some 0

variable {sh : Shadow} {n : Nat} {b d : Bytes}

/-- A fresh copy holds nothing but zeros. -/
lemma fills_zero (hL : sh.layout.Sound fb.format fb.width fb.height) :
    sh.Fills fb 0 b (Bytes.zeros sh.layout.size) where
  size := Bytes.size_zeros _
  inside _ h := nomatch h
  copied _ h := nomatch h
  blank plane hp _ area ha row hrow i hi := by
    have hle := Layout.place_le_size (h := sh.buffer) (t := .linear) hL hp ha hrow
    rw [Bytes.getElem?_zeros, if_pos]
    simp only [Surface.place, Layout.surface] at hle ⊢
    omega

/-- **The copy of one more plane**: it succeeds where the rows lie inside the framebuffer's buffer,
and leaves the planes before it and after it as they are. -/
lemma Fills.next (hf : sh.Fills fb n b d) (hn : n < fb.numPlanes)
    (hL : sh.layout.Sound fb.format fb.width fb.height) (ha : fb.area? n = some area)
    (hin : ∀ row < area.height,
      (fb.layout.surface fb.buffer fb.tiling n).place row area.rowBytes ≤ b.size) :
    let out := Store.copied (fb.layout.surface fb.buffer fb.tiling n)
      (sh.layout.surface sh.buffer .linear n) area b d
    out.2 = .ok () ∧ sh.Fills fb (n + 1) b out.1 := by
  obtain ⟨hle, -⟩ := Framebuffer.area_spec hL hn ha
  have ht : ∀ row < area.height,
      (sh.layout.surface sh.buffer .linear n).place row area.rowBytes ≤ d.size := fun row hrow =>
    hf.size ▸ Layout.place_le_size hL hn ha hrow
  -- the copy writes the rows of its own plane and no others
  refine ⟨Store.copied_ok ht, Store.size_copied.trans hf.size, fun p hp area' ha' => ?_,
    fun p hp area' ha' row hrow i hi => ?_, fun p hp hnp area' ha' row hrow i hi => ?_⟩
  · by_cases heq : p = n
    · subst heq
      cases ha.symm.trans ha'
      exact hin
    · exact hf.inside p (by omega) area' ha'
  · by_cases heq : p = n
    · subst heq
      cases ha.symm.trans ha'
      exact Store.getElem?_copied_inside hle hin ht hrow hi
    · rw [Store.getElem?_copied_outside
        (Layout.place_apart hL (by omega) hn heq ha' ha hrow hi)]
      exact hf.copied p (by omega) area' ha' row hrow i hi
  · rw [Store.getElem?_copied_outside
      (Layout.place_apart hL hp hn (by omega) ha' ha hrow hi)]
    exact hf.blank p hp (by omega) area' ha' row hrow i hi

/-- A plane that is held changes nothing when it is copied back. -/
lemma Fills.restores (hf : sh.Fills fb n b d) (hp : plane < n) (ha : fb.area? plane = some area) :
    (Store.copied (sh.layout.surface sh.buffer .linear plane)
      (fb.layout.surface fb.buffer fb.tiling plane) area d b).1 = b :=
  Store.copied_same fun row hrow i hi _ => hf.copied plane hp area ha row hrow i hi

end Shadow

end Scanout
