/-
Framebuffers that differ in their tiling and their device show the same.

* `Framebuffer.getElem?_prepared`: the samples of a new framebuffer, by its format and the plane;
* `Framebuffer.Mirrors`: two framebuffers hold the same image, each in a store of its own;
* `Framebuffer.Mirrors.attempt_draw`, `Framebuffer.Mirrors.drawAll`: one drawing and any number of
  them end alike on both and keep them the same;
* `Framebuffer.drawAll_transparent`: **framebuffers that are asked for alike but for tiling and
  device hold the same samples whatever is drawn on them**.
-/
import Scanout.Proofs.Framebuffer.Creating
import Scanout.Proofs.Framebuffer.Drawing

namespace Scanout

/-- Only the format with luma and chroma planes has its code. -/
lemma PixelFormat.isNv12_iff {f : PixelFormat} (hf : f ∈ registry) : f.isNv12 ↔ f = nv12 := by
  simp only [registry, List.mem_cons, List.not_mem_nil, or_false] at hf
  rcases hf with rfl | rfl | rfl | rfl | rfl <;> decide

namespace Framebuffer

variable {code : FourCC} {g g' : Geometry} {f : PixelFormat} {L : Layout} {w h : Nat}
  {fb fb' : Framebuffer} {s s' : Store} {c c' : Buffer} {l : List Stroke}

/-! ### New framebuffers -/

/-- The byte that the rows of a plane are filled with in a new framebuffer. -/
def blankByte (f : PixelFormat) (plane : Nat) : UInt8 :=
  if f.isNv12 then if plane = 0 then blackLuma else neutralChroma else 0

/-- The second plane made black is the whole of it, and the first ends before. -/
lemma getElem?_prepared {t : Sample} (hf : f ∈ PixelFormat.registry) (hL : L.Sound f w h)
    (ht : t.Of f w h) :
    (prepared f L h (Bytes.zeros L.size))[L.place t]? = some (blankByte f t.plane) := by
  have hlt := Layout.place_lt_size hL ht
  rw [blankByte]
  cases hnv12 : f.isNv12 with
  | false =>
      simp only [prepared, hnv12, Bool.false_eq_true, ↓reduceIte]
      rw [Bytes.getElem?_zeros, if_pos hlt]
  | true =>
      -- only NV12 is filled, plane by plane
      obtain rfl := (PixelFormat.isNv12_iff hf).1 hnv12
      have hplace := Layout.place_lt hL ht
      rw [getElem?_prepared_zeros hnv12 hlt, if_pos rfl]
      obtain ⟨plane, row, i⟩ := t
      have hp : plane < 2 := ht.1
      rcases (show plane = 0 ∨ plane = 1 by omega) with rfl | rfl
      · have hfirst : L.offset 0 + h * L.stride ≤ L.offset 1 :=
          hL.apart 0 1 Nat.one_pos Nat.one_lt_two
        have hplace : L.place ⟨0, row, i⟩ < L.offset 0 + h * L.stride := hplace
        rw [if_pos (by omega), if_pos rfl]
      · have hplace : L.place ⟨1, row, i⟩ < L.offset 1 + halfUp h * L.stride := hplace
        have hstart : L.offset 1 ≤ L.place ⟨1, row, i⟩ := by
          simp only [Layout.place]
          omega
        rw [if_neg (by omega), if_pos (by omega), if_neg Nat.one_ne_zero]

/-- A framebuffer that was asked for with a size and a stride as computed stands in its buffer as it
was laid out. -/
lemma Made.whole (hm : Made code g s fb s') (hstride : g.stride = 0) (hsize : g.size = 0) :
    ∃ c, fb.Whole s' c ∧
      c.bytes = prepared fb.format fb.layout fb.height (Bytes.zeros fb.layout.size) := by
  obtain ⟨c, hc, hfree, hbytes⟩ := hm.buffer
  obtain ⟨hw, hh, ht, hd⟩ := hm.geometry
  refine ⟨c, ⟨PixelFormat.mem_registry hm.format, ?_, hc.self, hfree, hm.size_eq hc.self⟩, hbytes⟩
  obtain ⟨L, hL, hlayout⟩ := Checked.bind_eq_ok.1 hm.layout
  rw [if_pos hstride, if_pos hsize] at hlayout
  have hlayout : L = fb.layout := Except.ok.inj hlayout
  rw [hw, hh, ht, hd, ← hlayout]
  exact hL

/-! ### The same image in two stores -/

/-- Two framebuffers of one size and format hold the same image, each in a store of its own. -/
structure Mirrors (fb fb' : Framebuffer) (s s' : Store) (c c' : Buffer) : Prop where
  left : fb.Whole s c
  right : fb'.Whole s' c'
  width : fb'.width = fb.width
  height : fb'.height = fb.height
  format : fb'.format = fb.format
  same : Layout.Same fb.format fb.width fb.height fb.layout fb'.layout c.bytes c'.bytes

/-- New framebuffers are black alike. -/
lemma Made.mirrors {t t' : Store} (hm : Made code g s fb t) (hm' : Made code g' s' fb' t')
    (hw : g'.width = g.width) (hh : g'.height = g.height) (hstride : g.stride = 0 ∧ g'.stride = 0)
    (hsize : g.size = 0 ∧ g'.size = 0) : ∃ c c', Mirrors fb fb' t t' c c' := by
  obtain ⟨c, hc, hbytes⟩ := hm.whole hstride.1 hsize.1
  obtain ⟨c', hc', hbytes'⟩ := hm'.whole hstride.2 hsize.2
  have hformat : fb'.format = fb.format := Except.ok.inj (hm'.format.symm.trans hm.format)
  have hwidth : fb'.width = fb.width := by
    rw [hm'.geometry.1, hw, hm.geometry.1]
  have hheight : fb'.height = fb.height := by
    rw [hm'.geometry.2.1, hh, hm.geometry.2.1]
  have hL' := hc'.sound
  rw [hformat, hwidth, hheight] at hL'
  refine ⟨c, c', hc, hc', hwidth, hheight, hformat, hc.sound, hL', hc.size, hc'.size, ?_⟩
  intro t ht
  rw [hbytes, hbytes', hformat, hheight]
  exact ⟨_, getElem?_prepared hc.format hc.sound ht, getElem?_prepared hc.format hL' ht⟩

namespace Mirrors

/-- What drawing has left of two framebuffers with the same image is the same image. -/
lemma drawn [Machine] {o o' : Checked Unit} {t t' : Store} (hm : Mirrors fb fb' s s' c c')
    (hd : fb.Drawn l c o t) (hd' : fb'.Drawn l c' o' t') :
    o' = o ∧ ∃ d d', Mirrors fb fb' t t' d d' := by
  obtain ⟨hl, hr, hwidth, hheight, hformat, hsame⟩ := hm
  obtain ⟨M, e, d, hbefore, hlive, hafter⟩ := hd
  obtain ⟨M', e', d', hbefore', hlive', hafter'⟩ := hd'
  simp only [Holds] at hbefore hafter hbefore' hafter'
  rw [hformat, hwidth, hheight] at hbefore' hafter'
  -- the two images in rows were the same, and so they are painted the same
  have hrows : Layout.Same fb.format fb.width fb.height M M' e e' :=
    hbefore.symm.trans (hsame.trans hbefore')
  -- what the planes take from the image in rows they take from either image
  have mirrors : ∀ {a a'}, Layout.Same fb.format fb.width fb.height fb.layout M d a →
      Layout.Same fb.format fb.width fb.height M M' a a' →
      Layout.Same fb.format fb.width fb.height fb'.layout M' d' a' →
      ∃ d d', Mirrors fb fb' t t' d d' := by
    intro a a' hda haa hda'
    exact ⟨{ c with bytes := d }, { c' with bytes := d' },
      ⟨hl.format, hl.layout, hlive, hl.free, hda.size_left⟩,
      ⟨hr.format, hr.layout, hlive', hr.free, hda'.size_left⟩, hwidth, hheight, hformat,
      hda.trans (haa.trans hda'.symm)⟩
  -- both are refused and nothing changes, or both take the same image
  rcases Layout.repainted_same (l := l) hl.format hl.height_pos hrows with
    ⟨f, -, -, hf, hf'⟩ | ⟨a, a', ha, ha', haa⟩
  · rw [hf] at hafter
    rw [hf'] at hafter'
    exact ⟨hafter'.1.trans hafter.1.symm, mirrors hafter.2 hrows hafter'.2⟩
  · rw [ha] at hafter
    rw [ha'] at hafter'
    exact ⟨hafter'.1.trans hafter.1.symm, mirrors hafter.2 haa hafter'.2⟩

end Mirrors

/-! ### Any number of drawings -/

/-- Draws time and again; a drawing that fails keeps none of the rest from being made. -/
def drawAll [Machine] {σ : Type} [Backend σ] (fb : Framebuffer) :
    List (List Stroke) → Act σ (List (Checked Unit))
  | [] => return []
  | l :: ls => do
    let outcome ← Act.attempt (fb.draw l)
    let outcomes ← drawAll fb ls
    return outcome :: outcomes

/-- What drawing on a store ends with and leaves. -/
lemma Whole.exists_attempt [Machine] {r : Run Store} (hw : fb.Whole r.host c) :
    ∃ o r', Act.attempt (fb.draw l) r = .ok o r' ∧ fb.Drawn l c o r'.host := by
  have hdoes : Does (σ := Store) (fun _ => True) (fb.draw l) r.host (fb.Drawn l c) :=
    does_draw_all (fun _ => trivial) hw
  rw [Act.attempt]
  rcases hdoes.exists_end with ⟨a, r', hr, hdraw⟩ | ⟨f, r', hr, hdraw⟩
  · rw [hr]
    exact ⟨_, r', rfl, hdraw⟩
  · rw [hr]
    exact ⟨_, r', rfl, hdraw⟩

/-- **Any number of drawings** end alike on two framebuffers with the same image, and leave the same
image. -/
lemma Mirrors.drawAll [Machine] {r r' : Run Store} (hm : Mirrors fb fb' r.host r'.host c c')
    (ls : List (List Stroke)) :
    ∃ outcomes t t' d d', fb.drawAll ls r = .ok outcomes t ∧ fb'.drawAll ls r' = .ok outcomes t' ∧
      Mirrors fb fb' t.host t'.host d d' := by
  induction ls generalizing r r' c c' with
  | nil => exact ⟨[], r, r', c, c', rfl, rfl, hm⟩
  | cons l ls ih =>
      obtain ⟨o, r₁, hr₁, hd⟩ := hm.left.exists_attempt (l := l)
      obtain ⟨o', r₁', hr₁', hd'⟩ := hm.right.exists_attempt (l := l)
      obtain ⟨rfl, d, d', hm₁⟩ := hm.drawn hd hd'
      obtain ⟨outcomes, t, t', e, e', ht, ht', hm'⟩ := ih hm₁
      refine ⟨o' :: outcomes, t, t', e, e', ?_, ?_, hm'⟩
      · simp only [Framebuffer.drawAll, bind, EStateM.bind, hr₁, ht]
        rfl
      · simp only [Framebuffer.drawAll, bind, EStateM.bind, hr₁', ht']
        rfl

/-- The planes of two framebuffers have the same rectangles, and every byte of them is the same. -/
def Alike (fb fb' : Framebuffer) (d d' : Bytes) : Prop :=
  fb'.numPlanes = fb.numPlanes ∧ ∀ plane < fb.numPlanes, ∃ area,
    fb.area? plane = some area ∧ fb'.area? plane = some area ∧
      ∀ row < area.height, ∀ i < area.rowBytes, ∃ x,
        d[fb.layout.offset plane + row * fb.layout.stride + i]? = some x ∧
          d'[fb'.layout.offset plane + row * fb'.layout.stride + i]? = some x

lemma Mirrors.alike (hm : Mirrors fb fb' s s' c c') : Alike fb fb' c.bytes c'.bytes := by
  have hL := hm.left.sound
  refine ⟨congrArg PixelFormat.numPlanes hm.format, fun plane hp => ?_⟩
  obtain ⟨area, ha, -⟩ := exists_area hL hp
  have ha' : fb'.area? plane = some area := by
    rw [← ha, area?, area?, numPlanes, numPlanes, hm.format, hm.width, hm.height]
  obtain ⟨_, _, -, -, hsame⟩ := hm.same
  exact ⟨area, ha, ha', fun row hrow i hi =>
    hsame ⟨plane, row, i⟩ ((sample_iff hL).2 ⟨hp, area, ha, hrow, hi⟩)⟩

/-- **Tiling and device do not show.** Two framebuffers that were asked for alike but for their
tiling and their device, with a size and a stride as computed, end every drawing alike, whatever is
painted and however often, and hold the same samples in the end. -/
theorem drawAll_transparent [Machine] {r r' t t' : Run Store} (ls : List (List Stroke))
    (hw : g'.width = g.width) (hh : g'.height = g.height) (hstride : g.stride = 0 ∧ g'.stride = 0)
    (hsize : g.size = 0 ∧ g'.size = 0) (hc : create code g r = .ok fb t)
    (hc' : create code g' r' = .ok fb' t') :
    ∃ outcomes u u' c c', fb.drawAll ls t = .ok outcomes u ∧ fb'.drawAll ls t' = .ok outcomes u' ∧
      u.host.buffer? fb.buffer = some c ∧ u'.host.buffer? fb'.buffer = some c' ∧
      c.mapping = none ∧ c'.mapping = none ∧ Alike fb fb' c.bytes c'.bytes := by
  obtain ⟨c, c', hm⟩ :=
    (made_of_create hc).mirrors (made_of_create hc') hw hh hstride hsize
  obtain ⟨outcomes, u, u', d, d', hu, hu', hm'⟩ := hm.drawAll ls
  exact ⟨outcomes, u, u', d, d', hu, hu', hm'.left.live, hm'.right.live, hm'.left.free,
    hm'.right.free, hm'.alike⟩

/-- A store without buffers. -/
def nowhere : Run Store :=
  ⟨Store.empty 0, #[]⟩

/-- A framebuffer of one pixel that is drawn on in a linear copy. -/
def copiedDot : Geometry :=
  { device := .standard, width := 1, height := 1, tiling := .yf }

/-- The same on another device, drawn on in place. -/
def mappedDot : Geometry :=
  { device := .i915, width := 1, height := 1, tiling := .linear }

theorem drawAll_dot_transparent : ∃ (fb fb' : Framebuffer) (t t' : Run Store),
    create (PixelFormat.codeOf 'X' 'R' '2' '4') copiedDot nowhere = .ok fb t ∧
      create (PixelFormat.codeOf 'X' 'R' '2' '4') mappedDot nowhere = .ok fb' t' ∧
      ∃ outcomes u u' c c', fb.drawAll [[.pattern], []] t = .ok outcomes u ∧
        fb'.drawAll [[.pattern], []] t' = .ok outcomes u' ∧
        u.host.buffer? fb.buffer = some c ∧ u'.host.buffer? fb'.buffer = some c' ∧
        c.mapping = none ∧ c'.mapping = none ∧ Alike fb fb' c.bytes c'.bytes := by
  obtain ⟨fb, t, hc⟩ : ∃ fb t,
      create (PixelFormat.codeOf 'X' 'R' '2' '4') copiedDot nowhere = .ok fb t := ⟨_, _, rfl⟩
  obtain ⟨fb', t', hc'⟩ : ∃ fb' t',
      create (PixelFormat.codeOf 'X' 'R' '2' '4') mappedDot nowhere = .ok fb' t' := ⟨_, _, rfl⟩
  refine ⟨fb, fb', t, t', hc, hc', drawAll_transparent _ ?_ ?_ ?_ ?_ hc hc'⟩
  all_goals decide

end Framebuffer

end Scanout
