/-!
# Attendants

A requester that waits does so on an attendant: a binary signal that can also be ended.
Taking consumes the signal; an ended attendant cannot be taken from until it is resumed,
which clears a stale signal as well.

Attendants are kept in a table and named by their place in it.  One that was never made
behaves like one that nobody has touched.
-/

namespace Admission

/-- The two flags of an attendant. -/
structure Signal where
  given : Bool
  ended : Bool
  deriving DecidableEq, Repr

/-- Neither given nor ended. -/
def Signal.clear : Signal := ⟨false, false⟩

/-- The name of an attendant. -/
structure AttendantId where
  place : Nat
  deriving DecidableEq, Repr

/-- The flags of all attendants that were made, in the order in which they were. -/
structure Attendants where
  signals : List Signal
  deriving DecidableEq, Repr

namespace Attendants

/-- No attendant was made yet. -/
def empty : Attendants := ⟨[]⟩

/-- Adds an attendant that nobody has signaled. -/
def make (attendants : Attendants) : AttendantId × Attendants :=
  (⟨attendants.signals.length⟩, ⟨attendants.signals ++ [.clear]⟩)

/-- The flags of an attendant. -/
def get (attendants : Attendants) (id : AttendantId) : Signal :=
  (attendants.signals[id.place]?).getD .clear

/-- Changes the flags of an attendant that was made. -/
def modify (attendants : Attendants) (id : AttendantId) (change : Signal → Signal) : Attendants :=
  ⟨attendants.signals.modify id.place change⟩

/-- Signals the attendant; doing so twice is the same as once. -/
def give (attendants : Attendants) (id : AttendantId) : Attendants :=
  attendants.modify id fun signal => { signal with given := true }

/-- Discards a signal. -/
def reset (attendants : Attendants) (id : AttendantId) : Attendants :=
  attendants.modify id fun signal => { signal with given := false }

/-- Ends the attendant: nobody can take from it until it is resumed. -/
def pause (attendants : Attendants) (id : AttendantId) : Attendants :=
  attendants.modify id fun signal => { signal with ended := true }

/-- Clears the end and a stale signal. -/
def resume (attendants : Attendants) (id : AttendantId) : Attendants :=
  attendants.modify id fun _ => .clear

/-- Whether an attendant is ended, so that nobody can take from it. -/
def isEnded (attendants : Attendants) (id : AttendantId) : Bool := (attendants.get id).ended

end Attendants

/-- What came of an attempt to take a signal. -/
inductive Taking where
  | taken
  | ended
  | parked
  deriving DecidableEq, Repr

/-- An end is noticed before a signal, and a signal is consumed. -/
def Attendants.take (attendants : Attendants) (id : AttendantId) : Taking × Attendants :=
  let signal := attendants.get id
  if signal.ended then (.ended, attendants)
  else if signal.given then (.taken, attendants.reset id)
  else (.parked, attendants)

end Admission
