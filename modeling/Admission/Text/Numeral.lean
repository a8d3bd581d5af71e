/-!
# Decimal numerals

An unsigned number is read from ASCII digits, at least one of them, after an optional plus
sign, and must not be larger than the word it is read into.
-/

namespace Admission.Numeral

/-- The value of an ASCII digit. -/
def digit? (character : Char) : Option Nat :=
  if character.isDigit then some (character.toNat - 48) else none

/-- The number of a non-empty run of digits. -/
def ofDigits? (digits : List Char) : Option Nat :=
  if digits.isEmpty then none
  else (digits.mapM digit?).map fun values =>
    values.foldl (fun number digit => number * 10 + digit) 0

/-- The digits after an optional plus sign. -/
def unsigned (text : List Char) : List Char :=
  match text with
  | '+' :: digits => digits
  | digits => digits

/-- The number that `text` writes, if it is below `bound`. -/
def parseBelow? (bound : Nat) (text : String) : Option Nat :=
  match ofDigits? (unsigned text.toList) with
  | some number => if number < bound then some number else none
  | none => none

/-- The number of 64 bits that a text writes. -/
def parseUInt64? (text : String) : Option UInt64 :=
  (parseBelow? 18446744073709551616 text).map UInt64.ofNat

/-- The number of eight bits that a text writes. -/
def parseUInt8? (text : String) : Option UInt8 := (parseBelow? 256 text).map UInt8.ofNat

end Admission.Numeral
