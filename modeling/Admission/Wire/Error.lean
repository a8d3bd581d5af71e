/-!
# Refusals of the wire format
-/

namespace Admission.Wire

/-- Why octets do not hold a value. -/
inductive DecodeError where
  | unexpectedEnd
  | badVarint
  | badBool
  | badOption
  | badText
  /-- The format was kept, but no value has this form. -/
  | noSuchValue
  deriving DecidableEq, Repr

/-- What is said of octets that do not hold a value. -/
def DecodeError.message : DecodeError → String
  | unexpectedEnd => "Hit the end of buffer, expected more data"
  | badVarint =>
    "Found a varint that didn't terminate. Is the usize too big for this platform?"
  | badBool => "Found a bool that wasn't 0 or 1"
  | badOption => "Found an Option discriminant that wasn't 0 or 1"
  | badText => "Tried to parse invalid utf-8"
  | noSuchValue => "Serde Deserialization Error"

/-- Why a value has no form: it holds a magnitude that cannot be packed. -/
inductive EncodeError where
  | unpackable
  deriving DecidableEq, Repr

/-- What is said of a value that has no form. -/
def EncodeError.message : EncodeError → String
  | unpackable => "Serde Serialization Error"

end Admission.Wire
