/-!
# Self-delimiting numbers

A number is written in base 128, most significant chunk first, one octet for seven bits.
Every octet but the last has its high bit set, so a reader knows where the number ends.
`encode` writes the shortest form.  `decode` accepts any form of at most ten octets whose
value fits in 64 bits, leading zero chunks included, and ignores what follows the last
octet.

The arithmetic is that of natural numbers; the 64-bit type appears only at the edges.
-/

namespace Admission.Vlq

/-- Number of octets of the longest accepted form of a 64-bit number. -/
def maxLength : Nat := 10

/-- Why octets cannot be read as a number. -/
inductive DecodeError where
  | empty
  | truncated
  | tooLong
  | overflow
  deriving DecidableEq, Repr

/-- What is said of octets that cannot be read. -/
def DecodeError.message : DecodeError → String
  | empty => "missing value"
  | truncated => "value is not terminated"
  | tooLong => s!"value is longer than {maxLength} octets"
  | overflow => "value does not fit in 64 bits"

/-! ## Writing -/

/-- Number of significant bits. -/
def bitLength (number : Nat) : Nat := if number = 0 then 0 else number.log2 + 1

/-- Number of octets of the shortest form: one for every seven significant bits begun, and
one for zero. -/
def encodedLength (number : Nat) : Nat :=
  if number = 0 then 1 else (bitLength number + 6) / 7

/-- The seven bits of `number` at position `index`, counted from the least significant. -/
def chunk (number index : Nat) : Nat := (number >>> (7 * index)) % 128

/-- The octets of the chunks from position `index` down to position zero. -/
def octetsFrom (number : Nat) : Nat → List UInt8
  | 0 => [UInt8.ofNat (chunk number 0)]
  | index + 1 => UInt8.ofNat (128 + chunk number (index + 1)) :: octetsFrom number index

/-- The shortest form of a number. -/
def encode (number : UInt64) : List UInt8 :=
  octetsFrom number.toNat (encodedLength number.toNat - 1)

/-! ## Reading -/

/-- Whether another octet follows this one. -/
def continues (octet : UInt8) : Bool := 128 ≤ octet.toNat

/-- Reads on after `count` octets of value `number`.  Seven more bits are taken in only if
the seven highest bits of the word are still free. -/
def decodeFrom (number count : Nat) : List UInt8 → Except DecodeError (Nat × Nat)
  | [] => .error .truncated
  | octet :: rest =>
    if count = maxLength then .error .tooLong
    else if 144115188075855872 ≤ number then .error .overflow
    else
      let next := number * 128 + octet.toNat % 128
      if continues octet then decodeFrom next (count + 1) rest
      else .ok (next, count + 1)

/-- The number at the start of `octets`, and how many octets it takes. -/
def decode (octets : List UInt8) : Except DecodeError (UInt64 × Nat) :=
  if octets.isEmpty then .error .empty
  else (decodeFrom 0 0 octets).map fun (number, count) => (UInt64.ofNat number, count)

/-! ## Reading one number after another -/

/-- The number at the start of `octets`, and the octets after it. -/
def extract (octets : List UInt8) : Except DecodeError (UInt64 × List UInt8) :=
  (decode octets).map fun (number, count) => (number, octets.drop count)

/-- Like `extract`, keeping the lowest 32 bits of the number. -/
def extractSmall (octets : List UInt8) : Except DecodeError (UInt32 × List UInt8) :=
  (extract octets).map fun (number, rest) => (number.toUInt32, rest)

end Admission.Vlq
