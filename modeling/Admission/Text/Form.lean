import Admission.Text.Hex
import Admission.Text.Utf8

/-!
# Form encoding

A form is a sequence of names with values, as a browser sends it: pairs are joined by
ampersands, a name and its value by an equals sign, a blank is written as a plus sign, and
any octet as a percent sign and two hexadecimal digits.
-/

namespace Admission.Form

/-- The pieces between separators. -/
def pieces (separator : UInt8) : List UInt8 → List (List UInt8)
  | [] => [[]]
  | octet :: rest =>
    if octet = separator then [] :: pieces separator rest
    else
      match pieces separator rest with
      | [] => [[octet]]
      | piece :: others => (octet :: piece) :: others

/-- The value of an octet that is a hexadecimal digit. -/
def hexValue? (octet : UInt8) : Option Nat := Hex.value? (Char.ofNat octet.toNat)

/-- Replaces every percent sign with two digits by the octet they write.  A percent sign
without them stands for itself. -/
def percentDecode : List UInt8 → List UInt8
  | 0x25 :: high :: low :: rest =>
    match hexValue? high, hexValue? low with
    | some high, some low => UInt8.ofNat (16 * high + low) :: percentDecode rest
    | _, _ => 0x25 :: percentDecode (high :: low :: rest)
  | octet :: rest => octet :: percentDecode rest
  | [] => []

/-- The text of a name or a value. -/
def decodeText (octets : List UInt8) : String :=
  Utf8.decodeLossy (percentDecode (octets.map fun octet => if octet = 0x2b then 0x20 else octet))

/-- The name and the value of a pair, cut at the first equals sign. -/
def decodePair (octets : List UInt8) : String × String :=
  (decodeText (octets.takeWhile (· ≠ 0x3d)), decodeText ((octets.dropWhile (· ≠ 0x3d)).drop 1))

/-- The pairs of a form.  Empty ones are skipped. -/
def decode (octets : List UInt8) : List (String × String) :=
  ((pieces 0x26 octets).filter fun piece => !piece.isEmpty).map decodePair

/-- The only value of a name, read by `parse`; `otherwise` if the name is missing.  A name
that is repeated, like a value that cannot be read, makes the form unreadable. -/
def field? {α : Type} (form : List (String × String)) (name : String) (otherwise : α)
    (parse : String → Option α) : Option α :=
  match form.filter fun (other, _) => other == name with
  | [] => some otherwise
  | [(_, value)] => parse value
  | _ => none

end Admission.Form
