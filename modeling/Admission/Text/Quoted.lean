import Admission.Text.Hex
import Admission.Text.Invisible

/-!
# Quoted text

A text inside a message stands in double quotes.  Quotes and backslashes are escaped,
common controls have letters of their own, and what does not show is written as its code
point in braces.
-/

namespace Admission.Quoted

/-- The hexadecimal digits of a code point, without leading zeros. -/
def codePoint (number : Nat) : List Char :=
  if number < 16 then [Hex.digit number]
  else codePoint (number / 16) ++ [Hex.digit (number % 16)]
termination_by number

/-- How one character is written. -/
def escape (character : Char) : List Char :=
  if character = '"' then ['\\', '"']
  else if character = '\\' then ['\\', '\\']
  else if character = '\n' then ['\\', 'n']
  else if character = '\r' then ['\\', 'r']
  else if character = '\t' then ['\\', 't']
  else if character = '\x00' then ['\\', '0']
  else if Invisible.contains character then
    ['\\', 'u', '\x7b'] ++ codePoint character.toNat ++ ['\x7d']
  else [character]

/-- The text in quotes. -/
def quote (text : String) : String :=
  String.ofList ('"' :: text.toList.flatMap escape ++ ['"'])

end Admission.Quoted
