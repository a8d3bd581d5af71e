import Admission.ObjectId
import Admission.Space
import Admission.Store.Error

/-!
# Extents

An object is a sequence of runs of bytes, each on one medium.  `Extent.slice` cuts a range
out of such a sequence and `Extent.aggregate` totals it per medium.
-/

namespace Admission

/-- A contiguous run of an object on one medium. -/
structure Extent where
  medium : Medium
  length : UInt64
  deriving DecidableEq

namespace Extent

/-- The text of an extent in a log record. -/
def text (extent : Extent) : String := s!"({extent.medium.title}, {extent.length})"

/-- The text of a sequence of extents in a log record. -/
def listText (extents : List Extent) : String :=
  "[" ++ String.intercalate ", " (extents.map text) ++ "]"

/-- Adds the lengths of `extents` to `sum`, which must stay a 64-bit number. -/
def totalFrom (sum : UInt64) : List Extent → Except Overflow UInt64
  | [] => .ok sum
  | extent :: rest =>
    if sum.toNat + extent.length.toNat < 18446744073709551616 then
      totalFrom (sum + extent.length) rest
    else .error .add

/-- The number of bytes of a sequence of extents. -/
def total (extents : List Extent) : Except Overflow UInt64 := totalFrom 0 extents

/-- Leaves out the first `skip` bytes and keeps at most `remaining` of those after them. -/
def cut : List Extent → UInt64 → UInt64 → List Extent
  | [], _, _ => []
  | extent :: rest, skip, remaining =>
    if remaining = 0 then []
    else if extent.length ≤ skip then cut rest (skip - extent.length) remaining
    else
      let taken := if extent.length - skip ≤ remaining then extent.length - skip else remaining
      ⟨extent.medium, taken⟩ :: cut rest 0 (remaining - taken)

/-- The `length` bytes that begin at `offset`. -/
def slice (extents : List Extent) (offset length : UInt64) : Checked StoreError (List Extent) := do
  let total ← total extents
  if offset.toNat + length.toNat ≤ total.toNat then return cut extents offset length
  else Checked.refuse (.outOfRange offset length total)

/-- Adds the lengths of `extents` to `space`, each on its medium. -/
def aggregateFrom (space : Space) : List Extent → Except Overflow Space
  | [] => .ok space
  | extent :: rest => do
    let amount ← (space.get extent.medium).add (.ofUInt64 extent.length)
    aggregateFrom (space.set extent.medium amount) rest

/-- The space that `extents` take on each medium. -/
def aggregate (extents : List Extent) : Except Overflow Space := aggregateFrom .zero extents

end Extent

end Admission
