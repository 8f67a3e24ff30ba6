/-
New framebuffers with planes are black.

* `Framebuffer.Black`: black planes in a buffer, byte by byte and sample by sample;
* `Framebuffer.Made.black`: the filling that makes a new buffer black meets every sample, as the
  first plane ends where the second begins, or before, and the second where the buffer does;
* `Framebuffer.create_black`: **a framebuffer with planes that is made is black**.
-/
import Scanout.Proofs.Framebuffer.Transparency
import Scanout.Proofs.Samples.Nv12

namespace Scanout.Framebuffer

variable {code : FourCC} {g : Geometry} {fb : Framebuffer} {s s' : Store}

/-- The planes of a framebuffer are black in a buffer that is not mapped. -/
structure Black (fb : Framebuffer) (b : Buffer) : Prop where
  unmapped : b.mapping = none
  size : b.bytes.size = fb.layout.size
  /-- The rows of chroma are all there. -/
  inside : fb.layout.offset 1 + halfUp fb.height * fb.layout.stride ≤ fb.layout.size
  luma : ∀ i < fb.layout.offset 1, b.bytes[i]? = some 16
  chroma : ∀ i < halfUp fb.height * fb.layout.stride, b.bytes[fb.layout.offset 1 + i]? = some 0x80
  rest : ∀ i < fb.layout.size, fb.layout.offset 1 + halfUp fb.height * fb.layout.stride ≤ i →
    b.bytes[i]? = some 0
  lumaSample : ∀ y < fb.height, ∀ x < fb.width,
    b.bytes[fb.layout.offset 0 + y * fb.layout.stride + x]? = some 16
  chromaSample : ∀ y < halfUp fb.height, ∀ x < 2 * halfUp fb.width,
    b.bytes[fb.layout.offset 1 + y * fb.layout.stride + x]? = some 0x80

/-- A framebuffer with planes that was laid out as computed has been made black. -/
lemma Made.black (hm : Made code g s fb s') (hnv12 : fb.format = .nv12) (hstride : g.stride = 0)
    (hsize : g.size = 0) : ∃ b, fb.Whole s' b ∧ fb.Black b := by
  obtain ⟨b, hwhole, hbytes⟩ := hm.whole hstride hsize
  have sound : fb.layout.Sound .nv12 fb.width fb.height := hnv12 ▸ hwhole.sound
  obtain ⟨hrow, hpair⟩ := Nv12.row_le_stride sound
  have first := sound.first
  -- the luma plane ends before the chroma plane begins
  have apart : fb.layout.offset 0 + fb.height * fb.layout.stride ≤ fb.layout.offset 1 :=
    sound.apart 0 1 Nat.one_pos Nat.one_lt_two
  have inside : fb.layout.offset 1 + halfUp fb.height * fb.layout.stride ≤ fb.layout.size :=
    sound.inside 1 Nat.one_lt_two
  -- byte by byte: sixteen up to the chroma plane, 0x80 in it, and the zeros that are left behind it
  have filled : ∀ i < fb.layout.size, b.bytes[i]? = some (if i < fb.layout.offset 1 then 16
      else if i < fb.layout.offset 1 + halfUp fb.height * fb.layout.stride then 0x80 else 0) := by
    intro i hi
    rw [hbytes, hnv12]
    exact getElem?_prepared_zeros (by rfl) hi
  have luma : ∀ i < fb.layout.offset 1, b.bytes[i]? = some 16 := fun i hi => by
    rw [filled i (by omega), if_pos hi]
  have chroma : ∀ i < halfUp fb.height * fb.layout.stride,
      b.bytes[fb.layout.offset 1 + i]? = some 0x80 := fun i hi => by
    rw [filled _ (by omega), if_neg (by omega), if_pos (by omega)]
  refine ⟨b, hwhole, hwhole.free, hwhole.size, inside, luma, chroma, ?_, ?_, ?_⟩
  · intro i hi hbehind
    rw [filled i hi, if_neg (by omega), if_neg (by omega)]
  · intro y hy x hx
    have := row_end_le hy hrow
    exact luma _ (by omega)
  · intro y hy x hx
    have := row_end_le hy hpair
    rw [Nat.add_assoc]
    exact chroma _ (by omega)

variable {σ : Type} [Backend σ] [StoreHost σ]

/-- **A framebuffer with planes that is made is black.** Where neither a size nor a stride is asked
for it has the layout that is computed. In its buffer, which is not mapped, every byte before the
second plane is black luma, every byte of the rows of that plane neutral chroma and every byte
behind them zero, and so every sample of either plane is black. -/
theorem create_black {r r' : Run σ} (hsize : g.size = 0) (hstride : g.stride = 0)
    (hcreate : create PixelFormat.nv12.code g r = .ok fb r') :
    (fb.width = g.width ∧ fb.height = g.height) ∧
      Layout.compute g.device g.width g.height .nv12 g.tiling = .ok fb.layout ∧
      ∃ b, (StoreHost.store r'.host).buffer? fb.buffer = some b ∧ fb.Black b := by
  have made := made_of_create hcreate
  have nv12 : fb.format = .nv12 := made.format_eq (by decide)
  obtain ⟨hw, hh, htiling, hdevice⟩ := made.geometry
  obtain ⟨b, hwhole, black⟩ := made.black nv12 hstride hsize
  have layout := hwhole.layout
  rw [nv12, hw, hh, htiling, hdevice] at layout
  exact ⟨⟨hw, hh⟩, layout, b, hwhole.live, black⟩

/-- Nine rows in tiles: the last of the five rows of chroma belongs to one row of luma only. -/
theorem create_black_nine : ∃ (fb : Framebuffer) (r : Run Store),
    create PixelFormat.nv12.code
        { device := .standard, width := 9, height := 9, tiling := .yf } nowhere = .ok fb r ∧
      fb.layout = ⟨128, 12288, #v[0, 8192, 0, 0]⟩ ∧
      ∃ b, r.host.buffer? fb.buffer = some b ∧ fb.Black b := by
  obtain ⟨fb, r, hcreate⟩ : ∃ fb r, create PixelFormat.nv12.code
      { device := .standard, width := 9, height := 9, tiling := .yf } nowhere = .ok fb r :=
    exists_create rfl rfl (by decide)
  obtain ⟨-, layout, black⟩ := create_black rfl rfl hcreate
  exact ⟨fb, r, hcreate, (Except.ok.inj layout).symm, black⟩

end Scanout.Framebuffer
