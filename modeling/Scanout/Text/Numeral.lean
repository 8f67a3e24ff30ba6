/-
Numbers as text.

* `Text.Numeral.read`: a decimal number below `2 ^ 32`, with an optional plus sign;
* `Text.Numeral.Fault`: why a text is no such number, and the wording of each reason;
* `Text.hex`: the lower-case hexadecimal digits of a number, padded to a least width.
-/
namespace Scanout.Text

/-- The lower-case hexadecimal digits of `n`, with zeros in front up to `width` digits. -/
def hex (width n : Nat) : String :=
  let digits := Nat.toDigits 16 n
  String.ofList (List.replicate (width - digits.length) '0' ++ digits)

namespace Numeral

/-- The reasons why a text is not a number below `2 ^ 32`. -/
inductive Fault where
  | empty
  | badDigit
  | tooLarge
  deriving DecidableEq, Repr

/-- The wording of a reason. -/
def Fault.message : Fault → String
  | empty => "cannot parse integer from empty string"
  | badDigit => "invalid digit found in string"
  | tooLarge => "number too large to fit in target type"

/-- The value of an ASCII decimal digit. -/
def digit? (c : Char) : Option Nat :=
  if '0' ≤ c ∧ c ≤ '9' then some (c.toNat - '0'.toNat) else none

/-- The number whose digits are those of `value` followed by `cs`, read from the left: the first
character that is no digit, or whose digit takes the number to `2 ^ 32`, decides the reason. -/
def readDigits (value : Nat) : List Char → Except Fault Nat
  | [] => .ok value
  | c :: cs =>
    match digit? c with
    | none => .error .badDigit
    | some d =>
      if 10 * value + d < 0x100000000 then readDigits (10 * value + d) cs else .error .tooLarge

/-- The number that a text denotes. A plus sign may stand in front of at least one more character;
a minus sign is never a digit. -/
def read : List Char → Except Fault Nat
  | [] => .error .empty
  | ['+'] => .error .badDigit
  | '+' :: cs => readDigits 0 cs
  | cs => readDigits 0 cs

end Numeral

end Scanout.Text
