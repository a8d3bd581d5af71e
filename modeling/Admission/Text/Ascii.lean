/-!
# ASCII characters among octets

What comes over a connection is read octet by octet.  The characters that matter to its
form are ASCII, so each of them is one octet.
-/

namespace Admission.Ascii

/-- Whether an octet is one of some characters. -/
def isOneOf (characters : String) (octet : UInt8) : Bool :=
  characters.toList.any fun character => octet.toNat = character.toNat

/-- Whether an octet is a letter or a digit. -/
def isAlphanumeric (octet : UInt8) : Bool := (Char.ofNat octet.toNat).isAlphanum

/-- Whether an octet is a space or a tab. -/
def isBlank (octet : UInt8) : Bool := octet = 0x20 || octet = 0x09

/-- Whether an octet is neither a space nor a control.  What is not ASCII counts as
visible. -/
def isVisible (octet : UInt8) : Bool := 0x20 < octet && octet ≠ 0x7f

/-- Whether an octet may stand in a line of text: anything but controls, tabs excepted. -/
def isPrintable (octet : UInt8) : Bool := isVisible octet || isBlank octet

/-- The lower-case letter of an upper-case one; other octets are left alone. -/
def lower (octet : UInt8) : UInt8 :=
  if 0x41 ≤ octet && octet ≤ 0x5a then octet + 0x20 else octet

/-- The text of octets that are all ASCII. -/
def text? (octets : List UInt8) : Option String :=
  if octets.all (· < 0x80) then
    some (.ofList (octets.map fun octet => Char.ofNat octet.toNat))
  else none

/-- Octets without the blanks before and after them. -/
def trim (octets : List UInt8) : List UInt8 :=
  ((octets.dropWhile isBlank).reverse.dropWhile isBlank).reverse

end Admission.Ascii
