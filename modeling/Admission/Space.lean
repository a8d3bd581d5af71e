import Admission.Magnitude
import Admission.Medium

/-!
# Space

One magnitude for every medium.
-/

namespace Admission

/-- An amount on each medium. -/
structure Space where
  file : Magnitude
  bulk : Magnitude
  heap : Magnitude
  deriving DecidableEq

namespace Space

/-- No space on any medium. -/
def zero : Space := ⟨.zero, .zero, .zero⟩

instance : Inhabited Space := ⟨zero⟩

/-- The amount on a medium. -/
def get (space : Space) : Medium → Magnitude
  | .file => space.file
  | .bulk => space.bulk
  | .heap => space.heap

/-- The space with another amount on one medium. -/
def set (space : Space) (medium : Medium) (amount : Magnitude) : Space :=
  match medium with
  | .file => { space with file := amount }
  | .bulk => { space with bulk := amount }
  | .heap => { space with heap := amount }

/-- Space on a single medium. -/
def of (medium : Medium) (amount : Magnitude) : Space := zero.set medium amount

@[simp] theorem get_set_self (space : Space) (medium : Medium) (amount : Magnitude) :
    (space.set medium amount).get medium = amount := by
  cases medium <;> rfl

theorem get_set_of_ne (space : Space) {medium other : Medium} (amount : Magnitude)
    (different : other ≠ medium) : (space.set medium amount).get other = space.get other := by
  cases medium <;> cases other <;> simp_all [set, get]

/-- Whether every amount is valid. -/
def valid (space : Space) : Bool := Medium.all.all fun medium => (space.get medium).valid

/-- Whether every amount is at most what `budget` has, an invalid amount of which counts
as nothing. -/
def fitsWithin (needed budget : Space) : Bool :=
  Medium.all.all fun medium => needed.get medium ≤ (budget.get medium).orZero

/-- Subtracts medium by medium. -/
def sub (space decrement : Space) : Except Overflow Space := do
  let file ← space.file.sub decrement.file
  let bulk ← space.bulk.sub decrement.bulk
  let heap ← space.heap.sub decrement.heap
  return ⟨file, bulk, heap⟩

/-- Adds medium by medium. -/
def add (space increment : Space) : Except Overflow Space := do
  let file ← space.file.add increment.file
  let bulk ← space.bulk.add increment.bulk
  let heap ← space.heap.add increment.heap
  return ⟨file, bulk, heap⟩

/-- The media on which there is nothing. -/
def zeroMedia (space : Space) : List Medium :=
  Medium.all.filter fun medium => space.get medium = .zero

/-- The amounts with the names of their media. -/
def text (space : Space) : String :=
  s!"file={space.file}, bulk={space.bulk}, heap={space.heap}"

instance : ToString Space := ⟨text⟩

end Space

end Admission
