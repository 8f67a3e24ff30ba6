/-
The ways in which a request fails.

* `Error`: what a caller is told, each cause with the numbers that it speaks of;
* `HostError`: the part of it that the host reports;
* `Error.message`: the wording;
* `Failure`: an error, or a crash, which is an access outside a buffer, a division by zero or a
  request for more memory than there can be;
* `Checked`: a value or a failure.
-/
import Scanout.FourCC
import Scanout.Handle
import Scanout.Text.Numeral
import Scanout.Tiling

namespace Scanout

/-- The requests that a host answers, by which it names the one that it failed. -/
inductive CallKind where
  | allocate
  | setTiling
  | free
  | map
  | unmap
  | copy
  | syncCpu
  | syncGpu
  deriving DecidableEq, Repr

/-- The name of a request. -/
def CallKind.name : CallKind → String
  | allocate => "allocate"
  | setTiling => "set_tiling"
  | free => "free"
  | map => "map"
  | unmap => "unmap"
  | copy => "copy"
  | syncCpu => "sync_cpu"
  | syncGpu => "sync_gpu"

/-- The uses of a buffer that its owner refuses while the CPU has it mapped. -/
inductive Use where
  | map
  | free
  | blit
  | read
  deriving DecidableEq, Repr

/-- The name of a use. -/
def Use.name : Use → String
  | map => "map"
  | free => "free"
  | blit => "blit"
  | read => "read"

/-- The system errors that a host passes on. -/
inductive SystemError where
  | notPermitted
  | noEntry
  | outOfMemory
  | busy
  | invalidArgument
  deriving DecidableEq, Repr

namespace SystemError

/-- The number of a system error. -/
def number : SystemError → Nat
  | notPermitted => 1
  | noEntry => 2
  | outOfMemory => 12
  | busy => 16
  | invalidArgument => 22

/-- The system error with a given number. -/
def ofNumber? (n : Nat) : Option SystemError :=
  [notPermitted, noEntry, outOfMemory, busy, invalidArgument].find? (·.number == n)

/-- The symbol of a system error and its description. -/
def text : SystemError → String
  | notPermitted => "EPERM: Operation not permitted"
  | noEntry => "ENOENT: No such file or directory"
  | outOfMemory => "ENOMEM: Cannot allocate memory"
  | busy => "EBUSY: Device or resource busy"
  | invalidArgument => "EINVAL: Invalid argument"

end SystemError

/-- What a host reports when it refuses or fails a request. -/
inductive HostError where
  /-- The buffer is mapped, and the use is refused until it is unmapped. -/
  | mapped (use : Use) (buffer : Handle)
  /-- The mapping handed back was not made by this host for the buffer that it names. -/
  | foreignMapping (buffer : Handle)
  /-- A request that was told to fail. -/
  | injected (call : CallKind)
  | system (cause : SystemError)
  /-- Any other report, word for word. -/
  | report (text : String)
  deriving DecidableEq, Repr

/-- The wording of a report. -/
def HostError.text : HostError → String
  | mapped use buffer => use.name ++ " on mapped buffer " ++ buffer.text
  | foreignMapping buffer => "mapping was not issued for buffer " ++ buffer.text
  | injected call => "injected " ++ call.name
  | system cause => cause.text
  | report text => text

/-- What a caller is told when a request fails. -/
inductive Error where
  /-- The bytes spell no four-character code. -/
  | badCode (fault : FourCC.Fault)
  /-- No registered format has this id. -/
  | unknownFormat (id : Nat)
  /-- No registered format has this four-character code. -/
  | unknownFourCC (code : FourCC)
  /-- The number declares no tiling. -/
  | unknownModifier (number : Nat)
  /-- The tiling has no tile shape at this pixel size. -/
  | unsupportedBpp (tiling : Tiling) (bpp : Nat)
  /-- No registered format has this pixel size and colour depth. -/
  | bppDepthNotFound (bpp depth : Nat)
  /-- The format has no conversion to packed pixels. -/
  | conversionNotImplemented (format : String)
  | invalidDimensions (width height : Nat)
  /-- A stride, size or offset does not fit in thirty-two bits. -/
  | overflow
  | unknownBuffer (buffer : Handle)
  /-- The range of `len` bytes from `offset` on leaves the buffer of `size` bytes. -/
  | outOfBounds (buffer : Handle) (offset len size : Nat)
  /-- A pixel buffer is shorter than its layout. -/
  | bufferTooSmall (needed actual : Nat)
  | host (cause : HostError)
  | unsupportedStereoMode (flags : Nat)
  deriving DecidableEq, Repr

/-- The wording of an error. The end of a range is shown as far as sixty-four bits reach. -/
def Error.message : Error → String
  | badCode fault => fault.message
  | unknownFormat id => "DRM format " ++ Text.hex 8 id ++ " not found"
  | unknownFourCC code => "pixel format " ++ code.describe ++ " not found"
  | unknownModifier number => "unknown tiling modifier 0x" ++ Text.hex 1 number
  | unsupportedBpp tiling bpp => tiling.name ++ s!" tiling has no tile geometry for {bpp} bpp"
  | bppDepthNotFound bpp depth => s!"can't find drm format with bpp={bpp}, depth={depth}"
  | conversionNotImplemented format =>
    s!"conversion not implemented for planar format {format}"
  | invalidDimensions width height => s!"invalid framebuffer dimensions {width}x{height}"
  | overflow => "framebuffer layout overflows u32"
  | unknownBuffer buffer => "unknown buffer " ++ buffer.text
  | outOfBounds buffer offset len size =>
    let stop := min (offset + len) 0xffffffffffffffff
    s!"range {offset}..{stop} exceeds buffer " ++ buffer.text ++ s!" of {size} bytes"
  | bufferTooSmall needed actual =>
    s!"pixel buffer holds {actual} bytes, layout needs {needed}"
  | host cause => "backend failure: " ++ cause.text
  | unsupportedStereoMode flags => "unsupported stereo 3D mode flags 0x" ++ Text.hex 1 flags

/-- How a computation ends without a value: with an error for its caller, or with a crash, which is
an access outside a buffer, a division by zero or a request for more memory than there can be, and
leaves nothing to handle. -/
inductive Failure where
  | error (e : Error)
  | crash
  deriving DecidableEq, Repr

/-- A value or a failure. -/
abbrev Checked := Except Failure

namespace Checked

/-- Ends with an error. -/
def fail {α : Type} (e : Error) : Checked α :=
  .error (.error e)

/-- The value of an access, which crashes when there is none. -/
def need {α : Type} : Option α → Checked α
  | some a => .ok a
  | none => .error .crash

end Checked

/-- The code that some bytes spell, or the error that they spell none. -/
def FourCC.read (bs : List UInt8) : Checked FourCC :=
  match ofBytes? bs with
  | .ok code => .ok code
  | .error fault => Checked.fail (.badCode fault)

end Scanout
