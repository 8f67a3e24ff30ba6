/-
Four-character codes, the names of pixel formats.

* `FourCC`: four ASCII bytes;
* `FourCC.ofBytes?`: the code that four bytes spell, or the reason why they spell none;
* `FourCC.littleEndian`, `FourCC.bigEndian`: the two numbers that hold the bytes of a code;
* `FourCC.describe`: how a message shows a code.
-/
namespace Scanout

/-- The reasons why bytes are not a four-character code. -/
inductive FourCC.Fault where
  | tooLong
  | tooShort
  | badCharacter
  deriving DecidableEq, Repr

/-- The wording of a reason. -/
def FourCC.Fault.message : FourCC.Fault → String
  | tooLong => "four char code is too long"
  | tooShort => "four char code is too short"
  | badCharacter => "invalid char in four char code"

/-- A four-character code. -/
structure FourCC where
  first : UInt8
  second : UInt8
  third : UInt8
  fourth : UInt8
  deriving DecidableEq, Repr

namespace FourCC

/-- The four bytes in order. -/
def bytes (code : FourCC) : List UInt8 :=
  [code.first, code.second, code.third, code.fourth]

/-- A byte as it stands before others: a zero that nothing but zeros follows is a space. -/
def padByte (b : UInt8) (rest : List UInt8) : UInt8 :=
  if b = 0 ∧ rest.all (· == 0) then 0x20 else b

/-- The code that some bytes spell: four bytes up to `0x7f`, zeros at the end being spaces. -/
def ofBytes? : List UInt8 → Except Fault FourCC
  | [a, b, c, d] =>
    if [a, b, c, d].all (· ≤ 0x7f) then
      .ok ⟨padByte a [b, c, d], padByte b [c, d], padByte c [d], padByte d []⟩
    else .error .badCharacter
  | bs => .error (if bs.length < 4 then .tooShort else .tooLong)

/-- The bytes of a number, the high byte first. -/
def spelling (n : UInt32) : List UInt8 :=
  [(n >>> 24).toUInt8, (n >>> 16).toUInt8, (n >>> 8).toUInt8, n.toUInt8]

/-- The number that holds the bytes with the first byte highest. -/
def bigEndian (code : FourCC) : Nat :=
  code.bytes.foldl (fun n byte => 256 * n + byte.toNat) 0

/-- The number that holds the bytes with the first byte lowest, the id that buffer descriptions
carry. -/
def littleEndian (code : FourCC) : Nat :=
  code.bytes.foldr (fun byte n => 256 * n + byte.toNat) 0

/-- The four bytes as characters. -/
def text (code : FourCC) : String :=
  String.ofList (code.bytes.map fun byte => Char.ofNat byte.toNat)

/-- A byte as a message shows it: the quote is escaped, and a control byte is shown by the
replacement character. -/
def describeByte (byte : UInt8) : String :=
  if byte = 0x22 then "\\\""
  else if byte ≤ 0x1f ∨ 0x7f ≤ byte then "\uFFFD"
  else (Char.ofNat byte.toNat).toString

/-- A code as a message shows it. -/
def describe (code : FourCC) : String :=
  "FourCharCode(\"" ++ String.join (code.bytes.map describeByte) ++ "\")"

end FourCC

end Scanout
