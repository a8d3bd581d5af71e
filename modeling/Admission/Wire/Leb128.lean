import Admission.Wire.Error

/-!
# Little-endian base-128 numbers

On the wire a number is written least significant chunk first, seven bits to an octet,
every octet but the last with its high bit set.  A reader accepts padding, but no more
octets than the longest shortest form has, nor a last octet beyond the word.
-/

namespace Admission.Wire.Leb128

/-- The octets of a number. -/
def encode (number : Nat) : List UInt8 :=
  if number < 128 then [UInt8.ofNat number]
  else UInt8.ofNat (128 + number % 128) :: encode (number / 128)
termination_by number

/-- What limits the encodings of a word: the number of octets, and the value of the octet
at the last place. -/
structure Width where
  octets : Nat
  last : Nat

/-- A word of 32 bits takes five octets, the last of which has four bits. -/
def word32 : Width := ⟨5, 15⟩

/-- A word of 64 bits takes ten octets, the last of which has one bit. -/
def word64 : Width := ⟨10, 1⟩

/-- Reads a number of at most `places` octets, of which the one at the last place must not
exceed `last`. -/
def decodeFrom (last : Nat) : Nat → List UInt8 → Except DecodeError (Nat × List UInt8)
  | 0, _ => .error .badVarint
  | _ + 1, [] => .error .unexpectedEnd
  | places + 1, octet :: rest =>
    if octet.toNat < 128 then
      if places = 0 ∧ last < octet.toNat then .error .badVarint
      else .ok (octet.toNat, rest)
    else
      match decodeFrom last places rest with
      | .error error => .error error
      | .ok (number, rest) => .ok (octet.toNat - 128 + 128 * number, rest)

/-- The number at the start of `octets`, and the octets after it. -/
def decode (width : Width) (octets : List UInt8) : Except DecodeError (Nat × List UInt8) :=
  decodeFrom width.last width.octets octets

end Admission.Wire.Leb128
