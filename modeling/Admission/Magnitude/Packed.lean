import Admission.Magnitude
import Admission.Vlq

/-!
# Packed magnitudes

A stored magnitude is one self-delimiting number: the low part fills its last thirty bits
and the high part the thirty-one above them, sixty-one in all.  A reader measures the
width before it decodes, so that leading zero octets count toward it, but leading zero
bits of the first octet do not.
-/

namespace Admission.Magnitude

/-- Significant bits of the widest packed magnitude. -/
def maxPackedBits : Nat := 61

/-- Why a magnitude has no packed form. -/
inductive PackError where
  | invalid (magnitude : Magnitude)
  | tooWide (magnitude : Magnitude)
  deriving DecidableEq

/-- What is said of a magnitude that has no packed form. -/
def PackError.message : PackError → String
  | invalid magnitude => s!"cannot encode invalid magnitude {magnitude}"
  | tooWide magnitude => s!"magnitude {magnitude} is wider than {maxPackedBits} bits"

/-- Why octets are not a packed magnitude. -/
inductive UnpackError where
  | unreadable (error : Vlq.DecodeError)
  | tooWide
  | notCanonical (low : Nat)
  deriving DecidableEq, Repr

/-- What is said of octets that are not a packed magnitude. -/
def UnpackError.message : UnpackError → String
  | unreadable error => error.message
  | tooWide => s!"magnitude is wider than {maxPackedBits} bits"
  | notCanonical low => s!"magnitude low part {low} is not below 1000000000"

/-- The packed form of a magnitude. -/
def pack (magnitude : Magnitude) : Except PackError (List UInt8) :=
  if magnitude.high < 0 then .error (.invalid magnitude)
  else if 2147483648 ≤ magnitude.high then .error (.tooWide magnitude)
  else .ok (Vlq.encode (UInt64.ofNat (magnitude.high.toNat * 1073741824 + magnitude.low)))

/-- How many octets the self-delimiting number at the start takes, if it ends at all. -/
def recordLength? (octets : List UInt8) : Option Nat :=
  (octets.findIdx? fun octet => !Vlq.continues octet).map (· + 1)

/-- Bits of a record of `length` octets that begins with `first`. -/
def recordWidth (first : UInt8) (length : Nat) : Nat :=
  Vlq.bitLength (first.toNat % 128) + 7 * (length - 1)

theorem fitsWord_packed_high (packed : UInt64) : FitsWord (packed.toNat / 1073741824 : Nat) := by
  have small := packed.toNat_lt
  unfold FitsWord
  omega

/-- Splits a packed number into its parts. -/
def ofPacked (packed : UInt64) : Except UnpackError Magnitude :=
  if canonical : packed.toNat % 1073741824 < 1000000000 then
    .ok ⟨(packed.toNat / 1073741824 : Nat), packed.toNat % 1073741824,
      fitsWord_packed_high packed, canonical⟩
  else .error (.notCanonical (packed.toNat % 1073741824))

/-- The packed magnitude at the start of `octets`, and how many octets it takes. -/
def unpack : List UInt8 → Except UnpackError (Magnitude × Nat)
  | [] => .error (.unreadable .empty)
  | first :: rest =>
    match recordLength? (first :: rest) with
    | none => .error (.unreadable .truncated)
    | some length =>
      if maxPackedBits < recordWidth first length then .error .tooWide
      else
        match Vlq.decode ((first :: rest).take length) with
        | .error error => .error (.unreadable error)
        | .ok (packed, count) => (ofPacked packed).map fun magnitude => (magnitude, count)

end Admission.Magnitude
