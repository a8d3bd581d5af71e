/-!
# Reading UTF-8

Octets that come from outside may not be UTF-8.  A strict reader refuses them; a lenient
one puts the replacement character in place of each longest run of octets that could begin
a character but does not complete one, and of each octet that could not begin any.
-/

namespace Admission.Utf8

/-- The text that octets encode, if they are UTF-8. -/
def decode? (octets : List UInt8) : Option String := String.fromUTF8? ⟨octets.toArray⟩

/-- The octets of a text. -/
def encode (text : String) : List UInt8 := text.toUTF8.toList

/-- What the first octet of a character says: the bits it holds, the range of the octet
after it, and how many octets follow. -/
structure Lead where
  bits : Nat
  lowest : Nat
  highest : Nat
  following : Nat

/-- The ranges exclude overlong forms, surrogates and what is beyond the last code point. -/
def lead? (octet : UInt8) : Option Lead :=
  let number := octet.toNat
  if number < 0x80 then some ⟨number, 0x80, 0xbf, 0⟩
  else if number < 0xc2 then none
  else if number < 0xe0 then some ⟨number - 0xc0, 0x80, 0xbf, 1⟩
  else if number = 0xe0 then some ⟨0, 0xa0, 0xbf, 2⟩
  else if number = 0xed then some ⟨13, 0x80, 0x9f, 2⟩
  else if number < 0xf0 then some ⟨number - 0xe0, 0x80, 0xbf, 2⟩
  else if number = 0xf0 then some ⟨0, 0x90, 0xbf, 3⟩
  else if number < 0xf4 then some ⟨number - 0xf0, 0x80, 0xbf, 3⟩
  else if number = 0xf4 then some ⟨4, 0x80, 0x8f, 3⟩
  else none

/-- Reads the octets that follow the first one of a character.  The rest begins with the
octet that does not belong to it. -/
def readFollowing (bits lowest highest : Nat) : Nat → List UInt8 → Option Nat × List UInt8
  | 0, rest => (some bits, rest)
  | _ + 1, [] => (none, [])
  | count + 1, octet :: rest =>
    if lowest ≤ octet.toNat ∧ octet.toNat ≤ highest then
      readFollowing (bits * 64 + octet.toNat % 64) 0x80 0xbf count rest
    else (none, octet :: rest)

theorem length_readFollowing_le (bits lowest highest count : Nat) (octets : List UInt8) :
    (readFollowing bits lowest highest count octets).2.length ≤ octets.length := by
  induction octets generalizing bits lowest highest count with
  | nil => cases count <;> simp [readFollowing]
  | cons octet rest hypothesis =>
      cases count with
      | zero => simp [readFollowing]
      | succ count =>
          simp only [readFollowing]
          split
          · exact Nat.le_succ_of_le (hypothesis ..)
          · exact Nat.le_refl _

/-- The character in place of octets that are not UTF-8. -/
def replacement : Char := '\ufffd'

/-- Reads leniently, one character after the other. -/
def decodeCharacters : List UInt8 → List Char
  | [] => []
  | octet :: rest =>
    match lead? octet with
    | none => replacement :: decodeCharacters rest
    | some lead =>
      let read := readFollowing lead.bits lead.lowest lead.highest lead.following rest
      (read.1.map Char.ofNat).getD replacement :: decodeCharacters read.2
termination_by octets => octets.length
decreasing_by
  · simp
  · exact Nat.lt_succ_of_le (length_readFollowing_le ..)

/-- The text of octets, with replacement characters where they are not UTF-8. -/
def decodeLossy (octets : List UInt8) : String := String.ofList (decodeCharacters octets)

end Admission.Utf8
