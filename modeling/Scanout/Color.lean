/-
Colours, and the numbers that stand for them in a pixel.

* `Color`: red, green and blue between zero and one;
* `Channel`: the bits of a pixel that hold one component;
* `Packing.encode`: the pixel of a colour with an alpha;
* `Packing.decode`: the colour and alpha of a pixel.

A component that is not between zero and one is held at the nearer end, and one that is no number
counts as zero.
-/
import Scanout.PixelFormat

namespace Scanout

/-- A colour by its red, green and blue, each between zero and one. -/
structure Color where
  red : Float
  green : Float
  blue : Float

namespace Color

/-- No light at all. -/
def black : Color := ⟨0.0, 0.0, 0.0⟩

/-- All three components in full. -/
def white : Color := ⟨1.0, 1.0, 1.0⟩

/-- Red alone. -/
def pureRed : Color := ⟨1.0, 0.0, 0.0⟩

/-- Green alone. -/
def pureGreen : Color := ⟨0.0, 1.0, 0.0⟩

/-- Blue alone. -/
def pureBlue : Color := ⟨0.0, 0.0, 1.0⟩

/-- The colour that lies the part `t` of the way from one colour to another. -/
def mix (start stop : Color) (t : Float) : Color :=
  ⟨start.red + (stop.red - start.red) * t,
   start.green + (stop.green - start.green) * t,
   start.blue + (stop.blue - start.blue) * t⟩

end Color

/-- A number held between zero and one; what is no number stays so. -/
def clampUnit (v : Float) : Float :=
  if v < 0.0 then 0.0 else if 1.0 < v then 1.0 else v

/-- The bits of a pixel that hold one component: their lowest place, and their largest value. -/
structure Channel where
  shift : UInt32
  top : UInt32
  deriving DecidableEq, Repr

namespace Channel

/-- The nearest value that a channel has for a component. -/
def quantize (c : Channel) (v : Float) : UInt32 :=
  (clampUnit v * c.top.toFloat + 0.5).toUInt32

/-- A component in its place. -/
def encode (c : Channel) (v : Float) : UInt32 :=
  c.quantize v <<< c.shift

/-- The component that a pixel holds. -/
def decode (c : Channel) (pixel : UInt32) : Float :=
  ((pixel >>> c.shift) &&& c.top).toFloat / c.top.toFloat

end Channel

namespace Packing

/-- The channel of red. -/
def red : Packing → Channel
  | rgb565 => ⟨11, 0x1f⟩
  | xrgb8888 | argb8888 => ⟨16, 0xff⟩
  | xrgb2101010 => ⟨20, 0x3ff⟩

/-- The channel of green. -/
def green : Packing → Channel
  | rgb565 => ⟨5, 0x3f⟩
  | xrgb8888 | argb8888 => ⟨8, 0xff⟩
  | xrgb2101010 => ⟨10, 0x3ff⟩

/-- The channel of blue. -/
def blue : Packing → Channel
  | rgb565 => ⟨0, 0x1f⟩
  | xrgb8888 | argb8888 => ⟨0, 0xff⟩
  | xrgb2101010 => ⟨0, 0x3ff⟩

/-- The channel of alpha, which one packing has. -/
def alpha : Channel :=
  ⟨24, 0xff⟩

/-- The bits that no component uses, which are all set when a pixel is stored. -/
def unused : Packing → UInt32
  | rgb565 | argb8888 => 0
  | xrgb8888 => 0xff000000
  | xrgb2101010 => 0xc0000000

/-- The pixel of a colour. Where alpha is kept, the components are multiplied by it, and elsewhere
it plays no part. -/
def encode (p : Packing) (color : Color) (a : Float) : UInt32 :=
  match p with
  | argb8888 =>
    alpha.encode a ||| p.red.encode (color.red * a) ||| p.green.encode (color.green * a)
      ||| p.blue.encode (color.blue * a)
  | rgb565 | xrgb8888 | xrgb2101010 =>
    p.unused ||| p.red.encode color.red ||| p.green.encode color.green
      ||| p.blue.encode color.blue

/-- The colour of a pixel and its alpha, the multiplication by alpha undone. Where alpha is not
kept it is one; where it is zero the colour is black. -/
def decode (p : Packing) (pixel : UInt32) : Color × Float :=
  let color : Color := ⟨p.red.decode pixel, p.green.decode pixel, p.blue.decode pixel⟩
  match p with
  | argb8888 =>
    let a := alpha.decode pixel
    let divided (v : Float) : Float :=
      if 0.0 < a then
        let q := v / a
        if q < 1.0 then q else 1.0
      else 0.0
    (⟨divided color.red, divided color.green, divided color.blue⟩, a)
  | rgb565 | xrgb8888 | xrgb2101010 => (color, 1.0)

end Packing

end Scanout
