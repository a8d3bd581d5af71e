import Admission.Magnitude

/-!
# Scaling magnitudes

Products and quotients go through double-precision numbers and are exact only while the
count has no more digits than a double does.  The double is read back as billions and
rest, each truncated toward zero and held to the range of its word.
-/

namespace Admission

/-- Why a magnitude cannot be scaled. -/
inductive ScalingError where
  | divisionByZero
  deriving DecidableEq, Repr

/-- What is said of a magnitude that cannot be scaled. -/
def ScalingError.message : ScalingError → String
  | divisionByZero => "division by zero"

namespace Magnitude

/-- The nearest double of each part, joined in double arithmetic. -/
def toFloat (magnitude : Magnitude) : Float :=
  (Int64.ofInt magnitude.high).toFloat * 1000000000 + magnitude.low.toUInt64.toFloat

/-- The magnitude closest to a double. -/
def ofFloat (number : Float) : Except Overflow Magnitude :=
  let high := (number / 1000000000).toInt64
  let low := (number - high.toFloat * 1000000000).toInt64
  ofParts high low

/-- The absolute value of a signed number as a double. -/
def absFloat (number : Int64) : Float := number.toInt.natAbs.toUInt64.toFloat

/-- Multiplies by the absolute value of `factor`. -/
def multiply (magnitude : Magnitude) (factor : Int64) : Except Overflow Magnitude :=
  ofFloat (magnitude.toFloat * absFloat factor)

/-- Divides by the absolute value of `divisor`, which must not be zero. -/
def divide (magnitude : Magnitude) (divisor : Int64) : Checked ScalingError Magnitude :=
  if divisor = 0 then Checked.refuse .divisionByZero
  else Checked.ofArithmetic (ofFloat (magnitude.toFloat / absFloat divisor))

end Magnitude

end Admission
