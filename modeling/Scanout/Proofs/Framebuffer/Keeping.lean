/-
What is drawn on packed pixels is what is kept.

* `Framebuffer.SamePixels`: the same pixels, in rows of different lengths;
* `Framebuffer.Packs`: packed pixels stand in a buffer with all their rows, whatever size and stride
  were asked for;
* `Framebuffer.Packs.exists_acquire`: a view of them opens, and shows them;
* `Framebuffer.Packs.does_copyBack`: a linear copy is copied back into their rows and no further;
* `View.acquire_keeps`: **after the end of a view the framebuffer holds the pixels that the view
  held**, and a new view shows them.
-/
import Scanout.Proofs.Framebuffer.Usable

namespace Scanout

variable {σ : Type} [Backend σ] [StoreHost σ] {lets : CallKind → Prop} {fb : Framebuffer}
  {sh : Shadow} {s s₀ s' : Store} {b c : Buffer} {d d' e e' : Bytes} {n n' n'' : Nat}

/-- The rows of a plane that a buffer begins with. -/
lemma Layout.place_first {L : Layout} {h : Handle} {t : Tiling} {y i : Nat}
    (hL : L.offset 0 = 0) : (L.surface h t 0).place y i = y * L.stride + i := by
  simp only [Surface.place, surface, hL, Nat.zero_add]

namespace Framebuffer

/-- The bytes of a row of packed pixels. -/
def rowBytes (fb : Framebuffer) : Nat :=
  fb.width * fb.format.packing.bytesPerPixel

/-- Two buffers hold the same bytes for every pixel of a framebuffer, each in rows of a length of
its own. -/
def SamePixels (fb : Framebuffer) (d : Bytes) (n : Nat) (e : Bytes) (n' : Nat) : Prop :=
  ∀ y < fb.height, ∀ x < fb.width, ∀ i < fb.format.packing.bytesPerPixel, ∃ byte,
    d[y * n + x * fb.format.packing.bytesPerPixel + i]? = some byte ∧
      e[y * n' + x * fb.format.packing.bytesPerPixel + i]? = some byte

namespace SamePixels

lemma symm (hde : fb.SamePixels d n e n') : fb.SamePixels e n' d n := by
  intro y hy x hx i hi
  obtain ⟨byte, hd, he⟩ := hde y hy x hx i hi
  exact ⟨byte, he, hd⟩

lemma trans (hde : fb.SamePixels d n e n') (hed : fb.SamePixels e n' d' n'') :
    fb.SamePixels d n d' n'' := by
  intro y hy x hx i hi
  obtain ⟨byte, hd, he⟩ := hde y hy x hx i hi
  obtain ⟨byte', he', hd'⟩ := hed y hy x hx i hi
  cases he.symm.trans he'
  exact ⟨byte, hd, hd'⟩

/-- Rows that are the same, and are all there, hold the same pixels. -/
lemma of_rows (hd : (fb.height - 1) * n + fb.rowBytes ≤ d.size)
    (hrows : ∀ y < fb.height, ∀ i < fb.rowBytes, e[y * n' + i]? = d[y * n + i]?) :
    fb.SamePixels d n e n' := by
  intro y hy x hx i hi
  have hrow : x * fb.format.packing.bytesPerPixel + i < fb.rowBytes :=
    Nat.lt_of_lt_of_le (Nat.add_lt_add_left hi _) (row_end_le hx (Nat.le_refl _))
  have hlast : y * n ≤ (fb.height - 1) * n := Nat.mul_le_mul_right n (by omega)
  rw [Nat.add_assoc, Nat.add_assoc, hrows y hy _ hrow]
  have hin : y * n + (x * fb.format.packing.bytesPerPixel + i) < d.size := by omega
  exact ⟨_, getElem?_pos d _ hin, getElem?_pos d _ hin⟩

end SamePixels

/-- Packed pixels stand in a buffer with all their rows, whatever size and stride were asked for.
-/
structure Packs (fb : Framebuffer) (s : Store) (c : Buffer) : Prop where
  format : fb.format ∈ PixelFormat.registry
  packed : ¬fb.format.isPlanar
  linear : ∃ L, Layout.compute fb.device fb.width fb.height fb.format .linear = .ok L
  first : fb.layout.offset 0 = 0
  live : s.buffer? fb.buffer = some c
  free : c.mapping = none
  size : c.bytes.size = fb.layout.size
  row : fb.rowBytes ≤ fb.layout.stride
  rows : (fb.height - 1) * fb.layout.stride + fb.rowBytes ≤ fb.layout.size

/-- What the end of a view leaves of the bytes of a framebuffer: the pixels of the view, and, if
they are those of a linear copy, everything outside their rows as it was. -/
structure Keeps (fb : Framebuffer) (c : Buffer) (e : Bytes) (n : Nat) (d : Bytes) : Prop where
  size : d.size = c.bytes.size
  pixels : fb.SamePixels d fb.layout.stride e n
  padding : fb.tiling.needsBlit → ∀ j, (∀ y < fb.height, j < y * fb.layout.stride ∨
    y * fb.layout.stride + fb.rowBytes ≤ j) → d[j]? = c.bytes[j]?

namespace Packs

lemma bytesPerPixel (hp : fb.Packs s c) : fb.format.bpp / 8 = fb.format.packing.bytesPerPixel := by
  have hformat := PixelFormat.of_registry hp.format
  rwa [if_neg hp.packed] at hformat

/-- Packed pixels have one plane, and it is all of the image. -/
lemma numPlanes (hp : fb.Packs s c) : fb.numPlanes = 1 :=
  Layout.numPlanes_of_packed hp.packed

lemma exists_area (hp : fb.Packs s c) : ∃ area, fb.area? 0 = some area ∧
    area.height = fb.height ∧ area.rowBytes = fb.rowBytes := by
  refine ⟨⟨fb.width, fb.height, fb.format.bpp⟩, ?_, rfl, ?_⟩
  · have whole : Plane.isHalved fb.format 0 = false := Bool.and_false _
    rw [area?, if_neg (by decide), if_pos (hp.numPlanes ▸ Nat.one_pos), PixelFormat.planeBpp?,
      if_neg hp.packed, Option.map_some, Plane.width, Plane.height, whole]
    rfl
  · rw [Area.rowBytes, hp.bytesPerPixel, rowBytes]

/-- Every row lies inside the buffer. -/
lemma place_le (hp : fb.Packs s c) {y : Nat} (hy : y < fb.height) :
    (fb.layout.surface fb.buffer fb.tiling 0).place y fb.rowBytes ≤ c.bytes.size := by
  have hlast : y * fb.layout.stride ≤ (fb.height - 1) * fb.layout.stride :=
    Nat.mul_le_mul_right _ (by omega)
  have hrows := hp.rows
  rw [hp.size, Layout.place_first hp.first]
  omega

lemma viewable (hp : fb.Packs s c) (hall : ∀ k, lets k) : fb.Viewable lets s c := by
  refine ⟨hall, hp.live, ⟨hp.free, Nat.le_of_eq hp.size.symm, ?_⟩, hp.linear⟩
  intro plane hplane area ha row hrow
  obtain rfl : plane = 0 := by
    have := hp.numPlanes
    omega
  obtain ⟨area', ha', hheight, hbytes⟩ := hp.exists_area
  cases ha'.symm.trans ha
  rw [hbytes]
  exact hp.place_le (hheight ▸ hrow)

lemma route (hp : fb.Packs s c) : Route.of fb ≠ .convert := by
  rw [Ne, Route.of_eq_convert]
  exact hp.packed

/-- The pixels do not go away when their bytes change. -/
lemma paint (hp : fb.Packs s c) (hs : s'.buffer? fb.buffer = some { c with bytes := d })
    (hd : d.size = c.bytes.size) : fb.Packs s' { c with bytes := d } :=
  { hp with live := hs, size := hd.trans hp.size }

/-- A view of packed pixels opens, and its pixels are those that are mapped. -/
lemma exists_acquire [Machine] {u : Run Store} (hp : fb.Packs u.host c) : ∃ v u',
    View.acquire fb u = .ok v u' ∧ v.scratch = none ∧
      ∃ b m, View.Opened fb u.host v b m u'.host :=
  View.exists_acquire_packed hp.packed (hp.viewable fun _ => trivial)

/-- The rows of a linear copy are stored in those of the framebuffer and no further. -/
lemma keeps_copied {area : Area} (hp : fb.Packs s c) (ha : fb.area? 0 = some area)
    (hM : sh.layout.Sound fb.format fb.width fb.height) (he : e.size = sh.layout.size) :
    fb.Keeps c e sh.layout.stride (Store.copied (sh.layout.surface sh.buffer .linear 0)
      (fb.layout.surface fb.buffer fb.tiling 0) area e c.bytes).1 := by
  obtain ⟨area', ha', hheight, hbytes⟩ := hp.exists_area
  cases ha.symm.trans ha'
  have hsource : ∀ y < area.height, (sh.layout.surface sh.buffer .linear 0).place y area.rowBytes ≤
      e.size := fun y hy => he ▸ Layout.place_le_size hM (hp.numPlanes ▸ Nat.one_pos) ha hy
  have htarget : ∀ y < area.height,
      (fb.layout.surface fb.buffer fb.tiling 0).place y area.rowBytes ≤ c.bytes.size :=
    fun y hy => hbytes ▸ hp.place_le (hheight ▸ hy)
  refine ⟨Store.size_copied, .of_rows ?_ fun y hy i hi => ?_, fun _ j hj => ?_⟩
  · rw [Store.size_copied, hp.size]
    exact hp.rows
  · have hin := Store.getElem?_copied_inside (hbytes ▸ hp.row) hsource htarget (hheight ▸ hy)
      (hbytes ▸ hi)
    rw [Layout.place_first hp.first, Layout.place_first hM.first] at hin
    exact hin.symm
  · refine Store.getElem?_copied_outside fun y hy => ?_
    rw [Layout.place_first hp.first, Layout.place_first hp.first, hbytes]
    exact hj y (hheight ▸ hy)

/-- A linear copy is copied back into the rows of the framebuffer and no further. -/
lemma does_copyBack (hp : fb.Packs s c) (hall : ∀ k, lets k)
    (hb : s.buffer? sh.buffer = some b) (hbfree : b.mapping = none)
    (hbsize : b.bytes.size = sh.layout.size)
    (hM : sh.layout.Sound fb.format fb.width fb.height) :
    Does (σ := σ) lets (fb.copyPlanes sh.surface? fb.surface?) s fun o s' => o = .ok () ∧
      ∃ d, s.Sets fb.buffer (some { c with bytes := d }) s' ∧
        fb.Keeps c b.bytes sh.layout.stride d := by
  obtain ⟨area, ha, hheight, hbytes⟩ := hp.exists_area
  have hplane : 0 < fb.numPlanes := hp.numPlanes ▸ Nat.one_pos
  rw [copyPlanes_eq, hp.numPlanes]
  refine does_bind ((does_copyPlane_back hall hplane ha hM hb hbfree hbsize hp.live hp.free
    fun row hrow => hbytes ▸ hp.place_le (hheight ▸ hrow)).mono ?_)
  rintro o s' ⟨rfl, hsets⟩
  exact does_pure ⟨rfl, _, hsets, hp.keeps_copied ha hM hbsize⟩

end Packs

/-- A framebuffer of packed pixels was made with the size and the stride that were asked for. -/
lemma Made.packs {code : FourCC} {g : Geometry} (hm : Made code g s₀ fb s)
    (hpacked : ¬fb.format.isPlanar) (hrow : fb.rowBytes ≤ fb.layout.stride)
    (hrows : (fb.height - 1) * fb.layout.stride + fb.rowBytes ≤ fb.layout.size)
    (hlive : s'.buffer? fb.buffer = some c) (hfree : c.mapping = none)
    (hsize : c.bytes.size = fb.layout.size) : fb.Packs s' c := by
  obtain ⟨hw, hh, ht, hd⟩ := hm.geometry
  obtain ⟨L, hL, hlayout⟩ := Checked.bind_eq_ok.1 hm.layout
  have hlayout := Except.ok.inj hlayout
  obtain ⟨M, hM⟩ := Layout.exists_linear hL
  refine ⟨PixelFormat.mem_registry hm.format, hpacked, ⟨M, ?_⟩, ?_, hlive, hfree, hsize, hrow,
    hrows⟩
  · rw [hw, hh, hd]
    exact hM
  · rw [← hlayout]
    exact (Layout.sound_of_compute hL).first

end Framebuffer

namespace View

variable {v : View} {m : Mapping} {u : Run Store}

/-- What is opened shows the pixels of the framebuffer. -/
lemma Opened.same_pixels (hv : Opened fb s₀ v b m s) (hp : fb.Packs s₀ c) :
    fb.SamePixels c.bytes fb.layout.stride b.bytes v.linearLayout.stride := by
  have hend : (fb.height - 1) * fb.layout.stride + fb.rowBytes ≤ c.bytes.size := by
    rw [hp.size]
    exact hp.rows
  obtain ⟨rfl, -, hload, -⟩ := hv
  refine .of_rows hend fun y hy i hi => ?_
  cases hs : v.shadow with
  | none => rw [linearLayout, hs, hload.direct hs c hp.live]
  | some sh =>
      obtain ⟨hL, hfill⟩ := hload.linear sh hs
      obtain ⟨area, ha, hheight, hbytes⟩ := hp.exists_area
      have hcopied := (hfill c hp.live).copied 0 (hp.numPlanes ▸ Nat.one_pos) area ha y
        (hheight ▸ hy) i (hbytes ▸ hi)
      rw [Layout.place_first hp.first, Layout.place_first (Layout.sound_of_compute hL).first]
        at hcopied
      rw [linearLayout, hs]
      exact hcopied

/-- Pixels that are mapped are kept at the end of a view. -/
lemma Opened.returns (hall : ∀ k, lets k) (hv : Opened fb s₀ v b m s) (hp : fb.Packs s₀ c)
    (he : e.size = v.linearLayout.size) :
    v.Returns lets σ c e (fb.Keeps c e v.linearLayout.stride) := by
  have hblit := hv.blit
  obtain ⟨rfl, -, hload, -⟩ := hv
  refine ⟨fun hs => ?_, fun sh hs s b hb hbfree hbytes hc _ => ?_⟩
  · rw [linearLayout, hs] at he ⊢
    have hsize : e.size = c.bytes.size := he.trans hp.size.symm
    refine ⟨hsize, .of_rows ?_ fun _ _ _ _ => rfl, fun hneeds => absurd hneeds (hblit.1 hs)⟩
    rw [he]
    exact hp.rows
  · obtain ⟨hM, -⟩ := hload.linear sh hs
    rw [linearLayout, hs] at he ⊢
    subst hbytes
    have hp' : v.framebuffer.Packs s c := { hp with live := hc }
    exact hp'.does_copyBack hall hb hbfree he (Layout.sound_of_compute hM)

/-- Where pixels have been painted on a view, they are kept when it ends, and shown by a new one. -/
lemma Opened.does_leave (hv : Opened fb s₀ v b m s) (hp : fb.Packs s₀ c) (hsc : v.scratch = none)
    (he : e.size = v.linearLayout.size) :
    Does (σ := Store) (fun _ => True) (Act.attemptAll v.closing) (s.setWindow m e) fun o s' =>
      o = .ok (.ok ()) ∧ ∃ d, s'.buffer? fb.buffer = some { c with bytes := d } ∧
        fb.Keeps c e v.linearLayout.stride d := by
  have hshown := (hv.shown_linear hp.live hp.size).setWindow hv.mapping he
  refine does_closing_returns (fun _ => trivial) hshown he ?_ hp.live
    (hv.returns (fun _ => trivial) hp he)
  rw [Encodes, hsc]

variable {u' r t : Run Store} {g : Framebuffer.Geometry} {code : FourCC} {edited : Bytes}

/-- **What is drawn is what is kept.** A framebuffer of packed pixels was made with whatever size
and stride, if only its stride holds a row and its buffer all of them; a view of it opens and its
pixels are changed. However the view ends, it ends well, the buffer then holds for every pixel the
bytes that the view held, and a new view shows the same pixels. Where a linear copy was drawn on,
everything outside the rows is as it was. -/
theorem acquire_keeps [Machine] (hcreate : Framebuffer.create code g r = .ok fb t)
    (hpacked : ¬fb.format.isPlanar) (hrow : fb.rowBytes ≤ fb.layout.stride)
    (hrows : (fb.height - 1) * fb.layout.stride + fb.rowBytes ≤ fb.layout.size)
    (hlive : u.host.buffer? fb.buffer = some c) (hwhole : c.bytes.size = fb.layout.size)
    (hacquire : acquire fb u = .ok v u') (hedited : edited.size = (v.pixels u'.host).size) :
    ∃ v' t', v.setPixels edited u' = .ok v' t' ∧ ∀ leave ∈ [finish, dispose], ∃ r' d w w',
      leave v' t' = .ok () r' ∧ r'.host.buffer? fb.buffer = some { c with bytes := d } ∧
        fb.Keeps c edited v.stride d ∧ acquire fb r' = .ok w w' ∧
        fb.SamePixels (w.pixels w'.host) w.stride edited v.stride := by
  have hopens : Does (σ := Store) (fun _ => True) (acquire fb) u.host _ := does_acquire
  obtain ⟨-, b, m, hshows, hopen⟩ := (hopens u rfl fun _ _ => trivial).of_ok hacquire
  have hfree := hopen.loaded.free c (hopen.framebuffer ▸ hlive)
  -- packed and linear, the view shows its mapping itself: there is no scratch image
  have hp := (Framebuffer.made_of_create hcreate).packs hpacked hrow hrows hlive hfree hwhole
  have hsc : v.scratch = none := by
    rwa [Shows, hopen.framebuffer, if_neg hp.route] at hshows
  have hshown : Shown fb u.host v v.linearLayout b.bytes u'.host :=
    hopen.shown_linear hp.live hp.size
  have hstride : v.stride = v.linearLayout.stride := by rw [stride, hsc]
  rw [hshown.pixels_mapped hsc, hshown.size] at hedited
  -- the edit goes through the mapping
  have hpainted : v.painted edited = v := by rw [painted, hsc]
  have hstore : v.paintedStore edited u'.host = u'.host.setWindow m edited := by
    rw [paintedStore, hsc, hopen.mapping]
  refine ⟨v, ⟨u'.host.setWindow m edited, u'.log⟩, ?_, fun leave hleave => ?_⟩
  · rw [setPixels_eq, hpainted, hstore]
  have hclosing := hopen.does_leave hp hsc hedited
  have hends : Does (σ := Store) (fun _ => True) (leave v) (u'.host.setWindow m edited)
      fun o s' => o = .ok () ∧ ∃ d, s'.buffer? fb.buffer = some { c with bytes := d } ∧
        fb.Keeps c edited v.linearLayout.stride d := by
    simp only [List.mem_cons, List.not_mem_nil, or_false] at hleave
    rcases hleave with rfl | rfl
    · exact does_finish_ok hopen.unreleased hclosing
    · exact does_dispose_ok hopen.unreleased hclosing
  obtain ⟨r', hr', d, hd, hkeeps⟩ := hends.exists_ok (r := ⟨u'.host.setWindow m edited, u'.log⟩)
  -- a new view is opened on what has been kept
  have hp' := hp.paint hd hkeeps.size
  obtain ⟨w, w', hw, hwsc, b', m', hopen'⟩ := hp'.exists_acquire
  have hshown' := hopen'.shown_linear hp'.live hp'.size
  have hstride' : w.stride = w.linearLayout.stride := by rw [stride, hwsc]
  refine ⟨r', d, w, w', hr', hd, hstride ▸ hkeeps, hw, ?_⟩
  rw [hshown'.pixels_mapped hwsc, hstride, hstride']
  exact (hopen'.same_pixels hp').symm.trans hkeeps.pixels

/-- Two pixels, one above the other, in rows that are shorter than tiles and in a buffer that is
larger than both. -/
def looseDots : Framebuffer.Geometry :=
  { device := .standard, width := 1, height := 2, tiling := .yf, size := 20, stride := 12 }

theorem acquire_loose_keeps : ∃ (fb : Framebuffer) (t u' : Run Store) (c : Buffer) (v : View),
    Framebuffer.create (PixelFormat.codeOf 'X' 'R' '2' '4') looseDots Framebuffer.nowhere =
        .ok fb t ∧
      t.host.buffer? fb.buffer = some c ∧ acquire fb t = .ok v u' ∧
      ∀ edited : Bytes, edited.size = (v.pixels u'.host).size →
        ∃ v' t', v.setPixels edited u' = .ok v' t' ∧ ∀ leave ∈ [finish, dispose], ∃ r' d w w',
          leave v' t' = .ok () r' ∧ r'.host.buffer? fb.buffer = some { c with bytes := d } ∧
            fb.Keeps c edited v.stride d ∧ acquire fb r' = .ok w w' ∧
            fb.SamePixels (w.pixels w'.host) w.stride edited v.stride := by
  obtain ⟨fb, t, hcreate, hpacked, hrow, hrows⟩ : ∃ fb t,
      Framebuffer.create (PixelFormat.codeOf 'X' 'R' '2' '4') looseDots Framebuffer.nowhere =
          .ok fb t ∧ ¬fb.format.isPlanar ∧ fb.rowBytes ≤ fb.layout.stride ∧
        (fb.height - 1) * fb.layout.stride + fb.rowBytes ≤ fb.layout.size :=
    ⟨_, _, rfl, by decide, by decide, by decide⟩
  have hmade := Framebuffer.made_of_create hcreate
  obtain ⟨c, hc, hfree, hbytes⟩ := hmade.buffer
  have hsize : c.bytes.size = fb.layout.size := hmade.size_eq hc.self
  obtain ⟨v, u', hv, -⟩ := (hmade.packs hpacked hrow hrows hc.self hfree hsize).exists_acquire
  exact ⟨fb, t, u', c, v, hcreate, hc.self, hv, fun edited hedited =>
    acquire_keeps hcreate hpacked hrow hrows hc.self hsize hv hedited⟩

end View

end Scanout
