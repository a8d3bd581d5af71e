/-!
# How a computation can stop

Counters are signed 64-bit words, and arithmetic that leaves their range is never
wrapped: it stops the computation with an `Overflow`.  Everything that can be refused
for a reason of its own stops with that reason.  `Failure` keeps the two apart, because
a refusal is an answer and an overflow is the end of the run.
-/

namespace Admission

/-- The kind of arithmetic that left the range of its word. -/
inductive Overflow where
  | add
  | subtract
  deriving DecidableEq, Repr

namespace Overflow

/-- The text under which an overflow is reported. -/
def message : Overflow → String
  | add => "attempt to add with overflow"
  | subtract => "attempt to subtract with overflow"

end Overflow

/-- Why a computation did not finish: its arithmetic overflowed, or it was refused. -/
inductive Failure (ε : Type) where
  | overflow (overflow : Overflow)
  | refused (reason : ε)
  deriving DecidableEq, Repr

namespace Failure

/-- Changes the reason of a refusal and leaves an overflow alone. -/
def map {ε δ : Type} (change : ε → δ) : Failure ε → Failure δ
  | overflow kind => overflow kind
  | refused reason => refused (change reason)

end Failure

/-- A result that is either computed or missing because of a `Failure`. -/
abbrev Checked (ε α : Type) : Type := Except (Failure ε) α

namespace Checked

variable {ε δ α : Type}

/-- Gives up for a reason. -/
def refuse (reason : ε) : Checked ε α := .error (.refused reason)

/-- Arithmetic that may overflow, inside a computation that may also be refused. -/
def ofArithmetic : Except Overflow α → Checked ε α
  | .ok value => .ok value
  | .error kind => .error (.overflow kind)

/-- A computation without arithmetic, inside one that may also overflow. -/
def ofRefusal : Except ε α → Checked ε α
  | .ok value => .ok value
  | .error reason => .error (.refused reason)

/-- Restates the reason of a refusal in a wider vocabulary. -/
def mapRefusal (change : ε → δ) : Checked ε α → Checked δ α
  | .ok value => .ok value
  | .error failure => .error (failure.map change)

theorem bind_eq_ok_iff {ε α β : Type} {first : Except ε α} {next : α → Except ε β} {result : β} :
    (first >>= next) = .ok result ↔ ∃ value, first = .ok value ∧ next value = .ok result := by
  cases first <;> simp [bind, Except.bind]

/-- A computation that gives a value has come to it. -/
theorem eq_ok_of_toOption {ε α : Type} {computed : Except ε α} {value : α}
    (given : computed.toOption = some value) : computed = .ok value := by
  cases computed with
  | ok _ => exact congrArg Except.ok (Option.some.inj given)
  | error _ => cases given

theorem bind_eq_error_iff {ε α β : Type} {first : Except ε α} {next : α → Except ε β} {stop : ε} :
    (first >>= next) = .error stop ↔
      first = .error stop ∨ ∃ value, first = .ok value ∧ next value = .error stop := by
  cases first <;> simp [bind, Except.bind]

theorem ofArithmetic_ne_refused (computed : Except Overflow α) (reason : ε) :
    ofArithmetic computed ≠ .error (.refused reason) := by
  cases computed <;> simp [ofArithmetic]

theorem ofArithmetic_eq_ok_iff {computed : Except Overflow α} {value : α} :
    (ofArithmetic computed : Checked ε α) = .ok value ↔ computed = .ok value := by
  cases computed <;> simp [ofArithmetic]

end Checked

instance {ε : Type} : MonadLift (Except Overflow) (Except (Failure ε)) where
  monadLift := Checked.ofArithmetic

end Admission
