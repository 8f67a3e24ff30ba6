/-
What is written to the log.

* `Level`: how much a message matters;
* `Event`: what happened;
* `Event.level`, `Event.text`: the message for it.
-/
import Scanout.Surface
import Scanout.Text.Quoted
import Scanout.View.Route

namespace Scanout

/-- How much a message matters. -/
inductive Level where
  | error
  | warn
  | debug
  | trace
  deriving DecidableEq, Repr

/-- Something that is written to the log. -/
inductive Event where
  /-- A setting of the generation is not a number and plays no part. -/
  | settingIgnored (value : String) (fault : Text.Numeral.Fault)
  | allocated (size : Nat) (buffer : Handle)
  | freed (buffer : Handle)
  | blitted (src dst : Surface) (area : Area)
  /-- A use of a buffer was refused because the CPU has it mapped. -/
  | refused (use : Use) (buffer : Handle)
  /-- A mapping was handed back that was not made for the buffer that it names. -/
  | foreignMapping (buffer : Handle)
  | creating (width height : Nat) (format : String) (tiling : Tiling) (size : Nat)
  | created (buffer : Handle) (stride : Nat)
  | removing (buffer : Handle)
  | opening (route : Route) (buffer : Handle) (width height : Nat) (format : String)
    (tiling : Tiling)
  | closing (route : Route) (buffer : Handle)
  /-- A view that was given up could not be closed without a failure. -/
  | closingFailed (buffer : Handle) (cause : Error)
  deriving DecidableEq, Repr

namespace Event

/-- How much an event matters. -/
def level : Event → Level
  | closingFailed .. => .error
  | settingIgnored .. | refused .. | foreignMapping .. => .warn
  | creating .. | created .. | removing .. => .debug
  | allocated .. | freed .. | blitted .. | opening .. | closing .. => .trace

/-- The message for an event. -/
def text : Event → String
  | settingIgnored value fault =>
    "ignoring KMS_FB_GEN=" ++ Text.quote value ++ ": " ++ fault.message
  | allocated size buffer => s!"allocate(size={size}) -> " ++ buffer.text
  | freed buffer => "free(" ++ buffer.text ++ ")"
  | blitted src dst area =>
    "blit " ++ toString area.width ++ "x" ++ toString area.height ++ "@" ++ toString area.bpp ++ " "
      ++ src.text ++ " -> " ++ dst.text
  | refused use buffer => use.name ++ " on buffer " ++ buffer.text ++ " while it is mapped"
  | foreignMapping buffer => "unmap of buffer " ++ buffer.text ++ " with a foreign mapping"
  | creating width height format tiling size =>
    s!"create_fb(width={width}, height={height}, format={format}, tiling=" ++ tiling.name
      ++ s!", size={size})"
  | created buffer stride => "create_fb(handle=" ++ buffer.text ++ s!", pitch={stride})"
  | removing buffer => "remove_fb(handle=" ++ buffer.text ++ ")"
  | opening route buffer width height format tiling =>
    "acquire " ++ route.name ++ " view of " ++ buffer.text ++ s!" ({width}x{height} {format}, "
      ++ tiling.name ++ " tiling)"
  | closing route buffer => "release " ++ route.name ++ " view of " ++ buffer.text
  | closingFailed buffer cause =>
    "failed to release CPU view of " ++ buffer.text ++ ": " ++ cause.message

end Event

end Scanout
