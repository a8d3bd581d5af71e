import Admission.Wire.Leb128

/-!
# The wire format

Values are written one after another without names or types.  Octets stand for themselves;
wider numbers, lengths and the numbers of variants are base-128 numbers; a Boolean is zero
or one; an option is zero, or one and its value; texts, octet strings and lists begin with
their length; the fields of a structure follow each other in order.

A type that travels is an instance of `Wire`.  Writing fails only for a magnitude without
packed form.  Reading takes what it needs from the front and leaves the rest.
-/

namespace Admission

namespace Wire

/-- Takes a value from the front of the octets. -/
abbrev Reader (α : Type) : Type := StateT (List UInt8) (Except DecodeError) α

namespace Reader

/-- Reads nothing, for a reason. -/
def fail {α : Type} (error : DecodeError) : Reader α := fun _ => .error error

/-- The next octet. -/
def octet : Reader UInt8
  | [] => .error .unexpectedEnd
  | octet :: rest => .ok (octet, rest)

/-- The next base-128 number. -/
def number (width : Leb128.Width) : Reader Nat := Leb128.decode width

/-- The next `count` octets. -/
def octets (count : Nat) : Reader (List UInt8) := fun input =>
  if count ≤ input.length then .ok (input.splitAt count) else .error .unexpectedEnd

/-- The number of a variant. -/
def variant : Reader Nat := number Leb128.word32

/-- A length and as many octets. -/
def octetString : Reader (List UInt8) := do octets (← number Leb128.word64)

/-- `count` values in a row. -/
def times {α : Type} (reader : Reader α) : Nat → Reader (List α)
  | 0 => pure []
  | count + 1 => do
    let head ← reader
    let tail ← times reader count
    return head :: tail

end Reader

/-- A length and as many octets. -/
def octetString (octets : List UInt8) : List UInt8 := Leb128.encode octets.length ++ octets

end Wire

/-- The types whose values travel. -/
class Wire (α : Type) where
  write : α → Except Wire.EncodeError (List UInt8)
  read : Wire.Reader α

namespace Wire

/-- The value at the start of `octets`; what follows it is ignored. -/
def decode (α : Type) [Wire α] (octets : List UInt8) : Except DecodeError α :=
  ((read : Reader α) octets).map Prod.fst

/-- The octets of a value. -/
def encode {α : Type} [Wire α] (value : α) : Except EncodeError (List UInt8) := write value

instance : Wire UInt8 where
  write octet := .ok [octet]
  read := Reader.octet

instance : Wire UInt32 where
  write word := .ok (Leb128.encode word.toNat)
  read := do return UInt32.ofNat (← Reader.number Leb128.word32)

instance : Wire UInt64 where
  write word := .ok (Leb128.encode word.toNat)
  read := do return UInt64.ofNat (← Reader.number Leb128.word64)

instance : Wire Bool where
  write flag := .ok [if flag then 1 else 0]
  read := do
    match (← Reader.octet).toNat with
    | 0 => return false
    | 1 => return true
    | _ => Reader.fail .badBool

instance : Wire String where
  write text := .ok (octetString text.toUTF8.toList)
  read := do
    let octets ← Reader.octetString
    match String.fromUTF8? ⟨octets.toArray⟩ with
    | some text => return text
    | none => Reader.fail .badText

instance {α : Type} [Wire α] : Wire (Option α) where
  write
    | none => .ok [0]
    | some value => do return 1 :: (← write value)
  read := do
    match (← Reader.octet).toNat with
    | 0 => return none
    | 1 => return some (← read)
    | _ => Reader.fail .badOption

instance {α : Type} [Wire α] : Wire (List α) where
  write values := do
    let parts ← values.mapM write
    return Leb128.encode values.length ++ parts.flatten
  read := do Reader.times read (← Reader.number Leb128.word64)

end Wire

end Admission
