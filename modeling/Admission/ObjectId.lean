import Admission.Digits
import Admission.Text.Hex

/-!
# Object identifiers

An identifier is a 128-bit number.  It is written as thirty-two hexadecimal digits in
groups of eight, four, four, four and twelve; it is also read without the hyphens, in
braces, or after `urn:uuid:`, in either case.
-/

namespace Admission

/-- The identifier of an object: 128 bits, whatever their version and variant. -/
structure ObjectId where
  bits : BitVec 128
  deriving DecidableEq

namespace ObjectId

/-- The identifier whose bits, read as a number, are this one modulo 2 to the 128. -/
def ofNat (number : Nat) : ObjectId := ⟨BitVec.ofNat 128 number⟩

/-- The bits of an identifier as a number. -/
def toNat (id : ObjectId) : Nat := id.bits.toNat

/-- The sixteen octets of an identifier, most significant first. -/
def octets (id : ObjectId) : List UInt8 := (Digits.lowDigits 256 16 id.toNat).map UInt8.ofNat

/-- The identifier of sixteen octets. -/
def ofOctets? (octets : List UInt8) : Option ObjectId :=
  if octets.length = 16 then some (ofNat (Digits.ofDigits 256 (octets.map UInt8.toNat)))
  else none

/-! ## Text -/

/-- Sizes of the groups of digits between hyphens. -/
def groups : List Nat := [8, 4, 4, 4, 12]

/-- Cuts digits into groups of the given sizes, joined by hyphens. -/
def group : List Nat → List Char → List Char
  | [], _ => []
  | [size], digits => digits.take size
  | size :: sizes, digits => digits.take size ++ '-' :: group sizes (digits.drop size)

/-- The digits of groups of exactly the given sizes. -/
def ungroup? : List Nat → List Char → Option (List Char)
  | [], _ => none
  | [size], text => if text.length = size then some text else none
  | size :: sizes, text =>
    match text.drop size with
    | '-' :: rest => (ungroup? sizes rest).map (text.take size ++ ·)
    | _ => none

/-- The thirty-two digits of an identifier. -/
def digits (id : ObjectId) : List Char := (Digits.lowDigits 16 32 id.toNat).map Hex.digit

/-- The lower-case digits of an identifier in five groups. -/
def text (id : ObjectId) : String := String.ofList (group groups id.digits)

instance : ToString ObjectId := ⟨text⟩

/-- The identifier of exactly thirty-two digits. -/
def ofDigits? (digits : List Char) : Option ObjectId :=
  if digits.length = 32 then
    (digits.mapM Hex.value?).map fun values => ofNat (Digits.ofDigits 16 values)
  else none

/-- The identifier written in groups. -/
def ofGroups? (text : List Char) : Option ObjectId := (ungroup? groups text).bind ofDigits?

/-- The text that may stand before the groups. -/
def urn : List Char := "urn:uuid:".toList

/-- What a text of this many characters must be for it to hold an identifier. -/
def ofChars? (text : List Char) : Option ObjectId :=
  match text.length with
  | 32 => ofDigits? text
  | 36 => ofGroups? text
  | 38 =>
    if text.head? = some '{' ∧ text.getLast? = some '}' then
      ofGroups? ((text.drop 1).take 36)
    else none
  | 45 => if (text.take 9).map Char.toLower = urn then ofGroups? (text.drop 9) else none
  | _ => none

/-- The identifier that a text writes, in any of the accepted forms. -/
def parse? (text : String) : Option ObjectId := ofChars? text.toList

end ObjectId

end Admission
