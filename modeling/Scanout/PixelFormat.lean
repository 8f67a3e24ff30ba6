/-
Pixel formats and their registry.

* `Packing`: the packed pixel layouts that can be drawn on;
* `PixelFormat`: the description of a format, whose pixels lie in one plane or in several;
* `PixelFormat.registry`: the formats that exist, and the ways to find one:
  `PixelFormat.ofCode`, `PixelFormat.ofId`, `PixelFormat.ofBppDepth`;
* `PixelFormat.planeBpp?`: the bits that one pixel takes in a plane;
* `PixelFormat.ensureConvertible`: the formats with several planes that have a packed image.
-/
import Scanout.Error

namespace Scanout

/-- A packed pixel layout that can be drawn on. -/
inductive Packing where
  /-- Sixteen bits: five red, six green, five blue. -/
  | rgb565
  /-- Thirty-two bits: a byte unused, a byte each of red, green and blue. -/
  | xrgb8888
  /-- Thirty-two bits: two unused, ten each of red, green and blue. -/
  | xrgb2101010
  /-- Thirty-two bits: a byte each of alpha, red, green and blue, the colours multiplied by alpha.
  -/
  | argb8888
  deriving DecidableEq, Repr

/-- The number of bytes that one pixel takes. -/
def Packing.bytesPerPixel : Packing → Nat
  | rgb565 => 2
  | xrgb8888 | xrgb2101010 | argb8888 => 4

/-- The number of planes that a buffer description has room for. -/
def maxPlanes : Nat := 4

/-- The description of a pixel format. -/
structure PixelFormat where
  code : FourCC
  id : Nat
  name : String
  /-- The bits per pixel of the packed representation. -/
  bpp : Nat
  /-- The colour depth, of which formats that hold no red, green and blue have none. -/
  depth : Option Nat
  /-- The number of planes, zero when the pixels are packed. -/
  planes : Nat
  /-- The bits per pixel of each plane of a format with several. -/
  planeBits : Vector Nat maxPlanes
  /-- The layout in which the format is drawn on. -/
  packing : Packing
  deriving DecidableEq, Repr

namespace PixelFormat

/-- Whether the pixels are spread over several planes. -/
def isPlanar (f : PixelFormat) : Bool :=
  1 < f.planes

/-- The number of planes in memory: one when the pixels are packed. -/
def numPlanes (f : PixelFormat) : Nat :=
  max f.planes 1

/-- The bits per pixel of a plane. Packed pixels take the same number in whatever plane is asked
for; of several planes no more than `maxPlanes` are described. -/
def planeBpp? (f : PixelFormat) (plane : Nat) : Option Nat :=
  if f.isPlanar then f.planeBits[plane]? else some f.bpp

/-- The code of a format made of four characters. -/
def codeOf (a b c d : Char) : FourCC :=
  ⟨a.toUInt8, b.toUInt8, c.toUInt8, d.toUInt8⟩

/-- A format with packed pixels. -/
def packed (code : FourCC) (name : String) (bpp depth : Nat) (packing : Packing) : PixelFormat where
  code
  id := code.littleEndian
  name
  bpp
  depth := some depth
  planes := 0
  planeBits := #v[0, 0, 0, 0]
  packing

/-- Five red, six green and five blue bits. -/
def rgb565 : PixelFormat :=
  packed (codeOf 'R' 'G' '1' '6') "RGB565" 16 16 .rgb565

/-- A byte each of red, green and blue. -/
def xrgb8888 : PixelFormat :=
  packed (codeOf 'X' 'R' '2' '4') "XRGB8888" 32 24 .xrgb8888

/-- Ten bits each of red, green and blue. -/
def xrgb2101010 : PixelFormat :=
  packed (codeOf 'X' 'R' '3' '0') "XRGB2101010" 32 30 .xrgb2101010

/-- A byte each of alpha, red, green and blue. -/
def argb8888 : PixelFormat :=
  packed (codeOf 'A' 'R' '2' '4') "ARGB8888" 32 32 .argb8888

/-- A plane of luma bytes, and a plane of chroma pairs with half the columns and half the rows. -/
def nv12 : PixelFormat where
  code := codeOf 'N' 'V' '1' '2'
  id := (codeOf 'N' 'V' '1' '2').littleEndian
  name := "NV12"
  bpp := 32
  depth := none
  planes := 2
  planeBits := #v[8, 16, 0, 0]
  packing := .xrgb8888

/-- The formats that exist. -/
def registry : List PixelFormat :=
  [rgb565, xrgb8888, xrgb2101010, argb8888, nv12]

/-- The registered format with a four-character code. -/
def ofCode (code : FourCC) : Checked PixelFormat :=
  match registry.find? (·.code == code) with
  | some f => .ok f
  | none => Checked.fail (.unknownFourCC code)

/-- The registered format with an id. -/
def ofId (id : Nat) : Checked PixelFormat :=
  match registry.find? (·.id == id) with
  | some f => .ok f
  | none => Checked.fail (.unknownFormat id)

/-- The first registered format with a pixel size and a colour depth. -/
def ofBppDepth (bpp depth : Nat) : Checked PixelFormat :=
  match registry.find? fun f => f.bpp == bpp && f.depth == some depth with
  | some f => .ok f
  | none => Checked.fail (.bppDepthNotFound bpp depth)

/-- The bits per pixel of the registered format with an id. -/
def bppOfId (id : Nat) : Checked Nat :=
  (ofId id).map (·.bpp)

/-- The name of the registered format with an id, or `invalid`. -/
def nameOfId (id : Nat) : String :=
  match registry.find? (·.id == id) with
  | some f => f.name
  | none => "invalid"

/-- The ids of the formats that can be drawn on, which is all of them. -/
def drawable : List Nat :=
  registry.map (·.id)

/-- Whether the format is the one with luma and chroma planes. -/
def isNv12 (f : PixelFormat) : Bool :=
  f.id == nv12.id

/-- Fails unless the planes of the format can be converted to packed pixels and back. -/
def ensureConvertible (f : PixelFormat) : Checked Unit :=
  if f.isNv12 then .ok () else Checked.fail (.conversionNotImplemented f.name)

/-- A registered format is found by its code. -/
theorem ofCode_code {f : PixelFormat} (h : f ∈ registry) : ofCode f.code = .ok f := by
  simp only [registry, List.mem_cons, List.not_mem_nil, or_false] at h
  rcases h with rfl | rfl | rfl | rfl | rfl <;> rfl

/-- What is found under a code is registered. -/
theorem mem_registry {code : FourCC} {f : PixelFormat} (h : ofCode code = .ok f) :
    f ∈ registry := by
  rw [ofCode] at h
  split at h
  · next f' hfind =>
    cases h
    exact List.mem_of_find?_eq_some hfind
  · cases h

/-- A registered format is found by its id. -/
theorem ofId_id {f : PixelFormat} (h : f ∈ registry) : ofId f.id = .ok f := by
  simp only [registry, List.mem_cons, List.not_mem_nil, or_false] at h
  rcases h with rfl | rfl | rfl | rfl | rfl <;> rfl

end PixelFormat

end Scanout
