import Admission.Failure

/-!
# Magnitudes

A magnitude counts bytes exactly in two parts: whole billions, a signed 64-bit word, and
a rest below one billion.  A negative `high` marks a count that went below zero; such a
magnitude is invalid and keeps the exact deficit until somebody looks at it.

Every operation works on the parts, carrying and borrowing between them, and checks each
step of the word arithmetic.  `Magnitude.value` reads the parts back as one integer: it is
the view in which the operations are plain addition, subtraction and halving.
-/

namespace Admission

/-- The numbers a signed 64-bit word can hold. -/
def FitsWord (number : Int) : Prop :=
  -9223372036854775808 ≤ number ∧ number < 9223372036854775808

instance (number : Int) : Decidable (FitsWord number) :=
  inferInstanceAs (Decidable (_ ∧ _))

theorem fitsWord_ofNat_div (number : Nat) (small : number < 18446744073709551616) :
    FitsWord (number / 1000000000 : Nat) := by
  unfold FitsWord
  omega

/-- A count of bytes: `high` billions and `low` more. -/
structure Magnitude where
  high : Int
  low : Nat
  high_fits : FitsWord high
  low_lt : low < 1000000000
  deriving DecidableEq

namespace Magnitude

/-! ## Construction -/

/-- Nothing at all. -/
def zero : Magnitude := ⟨0, 0, by decide, by decide⟩

instance : Inhabited Magnitude := ⟨zero⟩

/-- The magnitude of an unsigned 64-bit number. -/
def ofUInt64 (number : UInt64) : Magnitude where
  high := (number.toNat / 1000000000 : Nat)
  low := number.toNat % 1000000000
  high_fits := fitsWord_ofNat_div _ number.toNat_lt
  low_lt := Nat.mod_lt _ (by decide)

theorem natAbs_toInt_lt (number : Int64) : number.toInt.natAbs < 18446744073709551616 := by
  have lower := number.le_toInt
  have upper := number.toInt_lt
  omega

/-- The magnitude of a signed 64-bit number, whose sign is discarded. -/
def ofInt64 (number : Int64) : Magnitude where
  high := (number.toInt.natAbs / 1000000000 : Nat)
  low := number.toInt.natAbs % 1000000000
  high_fits := fitsWord_ofNat_div _ (natAbs_toInt_lt number)
  low_lt := Nat.mod_lt _ (by decide)

/-! ## Views -/

/-- The exact integer a magnitude stands for, negative when it is invalid. -/
def value (magnitude : Magnitude) : Int := magnitude.high * 1000000000 + magnitude.low

/-- Whether the count survived every reduction applied to it. -/
def valid (magnitude : Magnitude) : Bool := 0 ≤ magnitude.high

/-- The count, if it is valid. -/
def toNat? (magnitude : Magnitude) : Option Nat :=
  if magnitude.valid then some magnitude.value.toNat else none

/-- The decimal count, or both parts of an invalid magnitude. -/
def text (magnitude : Magnitude) : String :=
  match magnitude.toNat? with
  | some count => toString count
  | none => s!"invalid({magnitude.high}, {magnitude.low})"

instance : ToString Magnitude := ⟨text⟩

/-! ## Order -/

/-- Billions are compared first, so every invalid magnitude lies below zero. -/
def order (left right : Magnitude) : Ordering :=
  if left.high < right.high then .lt
  else if right.high < left.high then .gt
  else if left.low < right.low then .lt
  else if right.low < left.low then .gt
  else .eq

instance : LE Magnitude where
  le left right := left.high < right.high ∨ left.high = right.high ∧ left.low ≤ right.low

instance (left right : Magnitude) : Decidable (left ≤ right) :=
  inferInstanceAs (Decidable (_ ∨ _))

/-- The magnitude itself, or zero in place of an invalid one. -/
def orZero (magnitude : Magnitude) : Magnitude := if magnitude.valid then magnitude else zero

/-! ## Checked arithmetic on the parts -/

/-- Adds whole billions. -/
def addHigh (magnitude : Magnitude) (billions : Int) : Except Overflow Magnitude :=
  if fits : FitsWord (magnitude.high + billions) then
    .ok { magnitude with high := magnitude.high + billions, high_fits := fits }
  else .error .add

/-- Subtracts whole billions. -/
def subHigh (magnitude : Magnitude) (billions : Int) : Except Overflow Magnitude :=
  if fits : FitsWord (magnitude.high - billions) then
    .ok { magnitude with high := magnitude.high - billions, high_fits := fits }
  else .error .subtract

/-- Joins two words into a magnitude, carrying what `low` has in excess, or lacks, into `high`. -/
def ofParts (high low : Int64) : Except Overflow Magnitude :=
  let carried := high.toInt + low.toInt / 1000000000
  if fits : FitsWord carried then
    .ok ⟨carried, (low.toInt % 1000000000).toNat, fits, by omega⟩
  else .error .add

/-- Adds an amount: its billions, then its rest, then the carry. -/
def increaseBy (magnitude : Magnitude) (amount : Nat) : Except Overflow Magnitude := do
  let raised ← magnitude.addHigh (amount / 1000000000 : Nat)
  if small : raised.low + amount % 1000000000 < 1000000000 then
    return { raised with low := raised.low + amount % 1000000000, low_lt := small }
  else
    let carried ← raised.addHigh 1
    return { carried with
      low := raised.low + amount % 1000000000 - 1000000000
      low_lt := by have := raised.low_lt; omega }

/-- Subtracts an amount: its billions, then one more to borrow from if the rest is too large. -/
def reduceBy (magnitude : Magnitude) (amount : Nat) : Except Overflow Magnitude := do
  let lowered ← magnitude.subHigh (amount / 1000000000 : Nat)
  if short : lowered.low < amount % 1000000000 then
    let borrowed ← lowered.subHigh 1
    return { borrowed with
      low := lowered.low + 1000000000 - amount % 1000000000
      low_lt := by omega }
  else
    return { lowered with
      low := lowered.low - amount % 1000000000
      low_lt := by have := lowered.low_lt; omega }

/-- Adds the absolute value of a signed number. -/
def increase (magnitude : Magnitude) (amount : Int64) : Except Overflow Magnitude :=
  magnitude.increaseBy amount.toInt.natAbs

/-- Subtracts the absolute value of a signed number. -/
def reduce (magnitude : Magnitude) (amount : Int64) : Except Overflow Magnitude :=
  magnitude.reduceBy amount.toInt.natAbs

/-- Adds another magnitude, its low part first. -/
def add (magnitude increment : Magnitude) : Except Overflow Magnitude := do
  let raised ← magnitude.increaseBy increment.low
  raised.addHigh increment.high

/-- Subtracts another magnitude, its low part first. -/
def sub (magnitude decrement : Magnitude) : Except Overflow Magnitude := do
  let lowered ← magnitude.reduceBy decrement.low
  lowered.subHigh decrement.high

/-- Half of the magnitude, rounded down.  An odd billion goes to the low part, so nothing
can overflow. -/
def halve (magnitude : Magnitude) : Magnitude where
  high := magnitude.high / 2
  low := ((magnitude.high % 2).toNat * 1000000000 + magnitude.low) / 2
  high_fits := by
    have fits := magnitude.high_fits
    unfold FitsWord at fits ⊢
    omega
  low_lt := by
    have small := magnitude.low_lt
    omega

end Magnitude

end Admission
