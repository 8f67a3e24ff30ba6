/-
Text between double quotes, as log messages show a setting.

* `Text.escape`: the written form of one character;
* `Text.quote`: the written form of a text.
-/
import Scanout.Text.Extending
import Scanout.Text.Ignorable
import Scanout.Text.Numeral
import Scanout.Text.Unprintable

namespace Scanout.Text

/-- The written form of a character between double quotes. The quote, the backslash and four control
characters have a short form; any other character that is unprintable or ignorable or that would
attach to the one before it is written by its code point; a character with a picture of its own
stands for itself, the single quote among them. -/
def escape (c : Char) : String :=
  if c = '"' then "\\\""
  else if c = '\\' then "\\\\"
  else if c = '\t' then "\\t"
  else if c = '\r' then "\\r"
  else if c = '\n' then "\\n"
  else if c = '\x00' then "\\0"
  else if isExtending c || isIgnorable c || isUnprintable c then
    "\\u\x7b" ++ hex 1 c.toNat ++ "\x7d"
  else c.toString

/-- A text between double quotes, each character in its written form. -/
def quote (text : String) : String :=
  "\"" ++ text.foldl (fun written c => written ++ escape c) "" ++ "\""

end Scanout.Text
