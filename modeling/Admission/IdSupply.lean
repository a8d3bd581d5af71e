import Admission.ObjectId

/-!
# Supplies of identifiers

A new object gets an identifier of version 7: a time, and chance after it.  A supply fixes
the time and what chance gives for a whole run, so that a run can be repeated, and counts
on from there.  Who does not know what chance gave cannot name an identifier before it is
issued.
-/

namespace Admission

/-- What chance gave for the identifiers of a run, and how far they were issued. -/
structure IdSupply where
  /-- What chance gave. -/
  chance : UInt64
  /-- How many identifiers were issued. -/
  issued : Nat
  deriving DecidableEq

namespace IdSupply

/-- A supply of which nothing was issued yet. -/
def start (chance : UInt64) : IdSupply := ⟨chance, 0⟩

/-- The identifier that is issued after `count` others.  The upper half holds the time, the
version and twelve bits of chance; the lower half the variant and a number of sixty-two
bits that begins at chance. -/
def nth (supply : IdSupply) (count : Nat) : ObjectId :=
  let upper := 0x019a5c20f3007000 + supply.chance.toNat / 0x10000000000000
  let lower := 0x8000000000000000 + (supply.chance.toNat + count) % 0x4000000000000000
  .ofNat (upper * 0x10000000000000000 + lower)

/-- The identifier that is issued next. -/
def next (supply : IdSupply) : ObjectId := supply.nth supply.issued

/-- The supply after one more was issued. -/
def advance (supply : IdSupply) : IdSupply := { supply with issued := supply.issued + 1 }

/-- The identifiers that were issued, in order. -/
def taken (supply : IdSupply) : List ObjectId := (List.range supply.issued).map supply.nth

/-- No identifier is issued twice as long as fewer than 2 to the 62 are. -/
theorem nth_injective (supply : IdSupply) {earlier later : Nat}
    (earlier_lt : earlier < 0x4000000000000000) (later_lt : later < 0x4000000000000000)
    (same : supply.nth earlier = supply.nth later) : earlier = later := by
  have chance_lt := supply.chance.toNat_lt
  simp only [nth, ObjectId.ofNat, ObjectId.mk.injEq, ← BitVec.toNat_inj,
    BitVec.toNat_ofNat] at same
  omega

end IdSupply

end Admission
