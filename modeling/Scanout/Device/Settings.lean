/-
A device described by settings.

* `Device.Setting`: the bytes of a setting, and the text that they spell;
* `Device.ofSettings`: the device that two settings describe, and what is written to the log.
-/
import Scanout.Device
import Scanout.Event
import Scanout.Text.Blank

namespace Scanout.Device

/-- The text of a setting. Bytes that spell no text count as no setting at all. -/
def settingText (bytes : ByteArray) : Option String :=
  String.fromUTF8? bytes

/-- The characters of a setting without the blanks around them. -/
def trimmed (value : String) : List Char :=
  Text.trim value.toList

/-- The texts that say yes. -/
def affirmations : List String :=
  ["1", "true", "yes"]

/-- The device that is meant by a generation and by the word on whether it is of the 915 class,
either of which may be missing. A generation that is not a number is logged and ignored. -/
def ofSettings (gen is915 : Option String) : Device × List Event :=
  let base : Device := standard
  let (base, events) : Device × List Event :=
    match gen with
    | none => (base, [])
    | some value =>
      match Text.Numeral.read (trimmed value) with
      | .ok n => ({ base with gen := n }, [])
      | .error fault => (base, [.settingIgnored value fault])
  match is915 with
  | none => (base, events)
  | some value =>
    ({ base with is915 := affirmations.contains (String.ofList (trimmed value)) }, events)

end Scanout.Device
