/-!
# Priorities

A priority has two levels of one octet each; the coarse one decides first.
-/

namespace Admission

/-- How urgent a request is; a greater one goes first. -/
structure Priority where
  coarse : UInt8
  fine : UInt8
  deriving DecidableEq, Repr

namespace Priority

/-- The coarse level is compared first. -/
def order (left right : Priority) : Ordering :=
  if left.coarse < right.coarse then .lt
  else if right.coarse < left.coarse then .gt
  else if left.fine < right.fine then .lt
  else if right.fine < left.fine then .gt
  else .eq

instance : LT Priority where
  lt left right := left.coarse < right.coarse ∨ left.coarse = right.coarse ∧ left.fine < right.fine

instance (left right : Priority) : Decidable (left < right) :=
  inferInstanceAs (Decidable (_ ∨ _))

/-- Both levels in brackets. -/
def text (priority : Priority) : String := s!"({priority.coarse}, {priority.fine})"

instance : ToString Priority := ⟨text⟩

end Priority

end Admission
