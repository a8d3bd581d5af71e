import Admission.Magnitude

/-!
# Magnitudes as integers

The parts of a magnitude are the quotient and the remainder of its value by one billion.
Hence a value belongs to at most one magnitude (`value_injective`), the order of magnitudes
is the order of their values (`le_iff_value_le`), and each operation on the parts is known
by what it does to the value: it gives the magnitude of the sum or difference if there is
one, and overflows exactly if there is none.
-/

namespace Admission.Magnitude

theorem high_eq (magnitude : Magnitude) : magnitude.high = magnitude.value / 1000000000 := by
  have small := magnitude.low_lt
  unfold value
  omega

theorem low_eq (magnitude : Magnitude) :
    (magnitude.low : Int) = magnitude.value % 1000000000 := by
  have small := magnitude.low_lt
  unfold value
  omega

/-- The magnitudes of equal values are the same. -/
theorem value_injective {left right : Magnitude} (same : left.value = right.value) :
    left = right := by
  have highs : left.high = right.high := by rw [high_eq, high_eq, same]
  have lows : left.low = right.low := by
    have := low_eq left
    have := low_eq right
    omega
  cases left
  cases right
  simp_all

@[simp] theorem value_zero : zero.value = 0 := rfl

@[simp] theorem value_ofUInt64 (number : UInt64) :
    (ofUInt64 number).value = (number.toNat : Int) := by
  simp only [value, ofUInt64]
  omega

@[simp] theorem value_ofInt64 (number : Int64) :
    (ofInt64 number).value = (number.toInt.natAbs : Int) := by
  simp only [value, ofInt64]
  omega

theorem valid_iff (magnitude : Magnitude) : magnitude.valid = true ↔ 0 ≤ magnitude.value := by
  have small := magnitude.low_lt
  simp only [valid, value, decide_eq_true_eq]
  omega

theorem le_iff_value_le (left right : Magnitude) : left ≤ right ↔ left.value ≤ right.value := by
  have smallLeft := left.low_lt
  have smallRight := right.low_lt
  have unfolded : left ≤ right ↔
      left.high < right.high ∨ left.high = right.high ∧ left.low ≤ right.low := Iff.rfl
  rw [unfolded]
  unfold value
  omega

theorem value_orZero (magnitude : Magnitude) :
    magnitude.orZero.value = if 0 ≤ magnitude.value then magnitude.value else 0 := by
  have condition := valid_iff magnitude
  unfold orZero
  by_cases nonnegative : 0 ≤ magnitude.value
  · rw [if_pos (condition.mpr nonnegative), if_pos nonnegative]
  · rw [if_neg (fun holds => nonnegative (condition.mp holds)), if_neg nonnegative, value_zero]

/-- Halving rounds down, below zero as well. -/
theorem value_halve (magnitude : Magnitude) : magnitude.halve.value = magnitude.value / 2 := by
  simp only [value, halve]
  omega

/-! ## Checked steps -/

/-- Some magnitude has a given value exactly if its billions fit in a word. -/
theorem exists_value_iff (number : Int) :
    (∃ magnitude : Magnitude, magnitude.value = number) ↔ FitsWord (number / 1000000000) := by
  constructor
  · rintro ⟨magnitude, rfl⟩
    exact high_eq magnitude ▸ magnitude.high_fits
  · intro fits
    refine ⟨⟨number / 1000000000, (number % 1000000000).toNat, fits, by omega⟩, ?_⟩
    simp only [value]
    omega

theorem addHigh_eq_ok_iff {magnitude result : Magnitude} {billions : Int} :
    magnitude.addHigh billions = .ok result ↔
      result.value = magnitude.value + billions * 1000000000 := by
  unfold addHigh
  constructor
  · intro computed
    split at computed
    · cases computed
      simp only [value]
      omega
    · cases computed
  · intro sum
    have highs := high_eq result
    have lows := low_eq result
    have before := high_eq magnitude
    have beforeLow := low_eq magnitude
    have fits : FitsWord (magnitude.high + billions) := by
      have := result.high_fits
      have : result.high = magnitude.high + billions := by omega
      simp_all
    rw [dif_pos fits]
    congr 1
    apply value_injective
    simp only [value] at sum ⊢
    omega

theorem subHigh_eq_ok_iff {magnitude result : Magnitude} {billions : Int} :
    magnitude.subHigh billions = .ok result ↔
      result.value = magnitude.value - billions * 1000000000 := by
  unfold subHigh
  constructor
  · intro computed
    split at computed
    · cases computed
      simp only [value]
      omega
    · cases computed
  · intro difference
    have highs := high_eq result
    have before := high_eq magnitude
    have fits : FitsWord (magnitude.high - billions) := by
      have := result.high_fits
      have : result.high = magnitude.high - billions := by omega
      simp_all
    rw [dif_pos fits]
    congr 1
    apply value_injective
    simp only [value] at difference ⊢
    omega

theorem addHigh_error {magnitude : Magnitude} {billions : Int} {kind : Overflow}
    (stopped : magnitude.addHigh billions = .error kind) :
    kind = .add ∧ ¬ FitsWord (magnitude.high + billions) := by
  unfold addHigh at stopped
  split at stopped
  · cases stopped
  · next outside =>
      cases stopped
      exact ⟨rfl, outside⟩

theorem subHigh_error {magnitude : Magnitude} {billions : Int} {kind : Overflow}
    (stopped : magnitude.subHigh billions = .error kind) :
    kind = .subtract ∧ ¬ FitsWord (magnitude.high - billions) := by
  unfold subHigh at stopped
  split at stopped
  · cases stopped
  · next outside =>
      cases stopped
      exact ⟨rfl, outside⟩

/-! ## Sums and differences -/

/-- A sum that was computed is exact. -/
theorem value_of_increaseBy {magnitude result : Magnitude} {amount : Nat}
    (computed : magnitude.increaseBy amount = .ok result) :
    result.value = magnitude.value + amount := by
  unfold increaseBy at computed
  cases first : magnitude.addHigh (amount / 1000000000 : Nat) with
  | error kind =>
      simp only [first, bind, Except.bind] at computed
      cases computed
  | ok raised =>
      have billions := addHigh_eq_ok_iff.mp first
      simp only [first, bind, Except.bind] at computed
      split at computed
      · cases computed
        simp only [value] at billions ⊢
        omega
      · cases second : raised.addHigh 1 with
        | error kind => simp [second] at computed
        | ok carried =>
            have carry := addHigh_eq_ok_iff.mp second
            have sameLow : carried.low = raised.low := by
              have := low_eq carried
              have := low_eq raised
              omega
            simp only [second] at computed
            cases computed
            simp only [value] at billions carry ⊢
            omega

/-- A sum that overflowed has no magnitude. -/
theorem increaseBy_error {magnitude : Magnitude} {amount : Nat} {kind : Overflow}
    (stopped : magnitude.increaseBy amount = .error kind) :
    kind = .add ∧ ¬ FitsWord ((magnitude.value + amount) / 1000000000) := by
  have fits := magnitude.high_fits
  have small := magnitude.low_lt
  unfold increaseBy at stopped
  cases first : magnitude.addHigh (amount / 1000000000 : Nat) with
  | error found =>
      simp only [first, bind, Except.bind] at stopped
      cases stopped
      refine ⟨(addHigh_error first).1, fun inside => (addHigh_error first).2 ?_⟩
      simp only [FitsWord, value] at *
      omega
  | ok raised =>
      have billions := addHigh_eq_ok_iff.mp first
      have highs := high_eq raised
      simp only [first, bind, Except.bind] at stopped
      split at stopped
      · cases stopped
      · next large =>
          cases second : raised.addHigh 1 with
          | ok carried =>
              simp only [second] at stopped
              cases stopped
          | error found =>
              simp only [second] at stopped
              cases stopped
              refine ⟨(addHigh_error second).1, fun inside => (addHigh_error second).2 ?_⟩
              have smallRaised := raised.low_lt
              simp only [FitsWord, value] at *
              omega

/-- Adding an amount gives the magnitude of the sum, if there is one. -/
theorem increaseBy_eq_ok_iff {magnitude result : Magnitude} {amount : Nat} :
    magnitude.increaseBy amount = .ok result ↔ result.value = magnitude.value + amount := by
  refine ⟨value_of_increaseBy, fun sum => ?_⟩
  cases outcome : magnitude.increaseBy amount with
  | ok found =>
      rw [value_injective ((value_of_increaseBy outcome).trans sum.symm)]
  | error kind =>
      exact absurd ((exists_value_iff _).mp ⟨result, sum⟩) (increaseBy_error outcome).2

/-- A difference that was computed is exact. -/
theorem value_of_reduceBy {magnitude result : Magnitude} {amount : Nat}
    (computed : magnitude.reduceBy amount = .ok result) :
    result.value = magnitude.value - amount := by
  unfold reduceBy at computed
  cases first : magnitude.subHigh (amount / 1000000000 : Nat) with
  | error kind =>
      simp only [first, bind, Except.bind] at computed
      cases computed
  | ok lowered =>
      have billions := subHigh_eq_ok_iff.mp first
      simp only [first, bind, Except.bind] at computed
      split at computed
      · cases second : lowered.subHigh 1 with
        | error kind => simp [second] at computed
        | ok borrowed =>
            have borrow := subHigh_eq_ok_iff.mp second
            have sameLow : borrowed.low = lowered.low := by
              have := low_eq borrowed
              have := low_eq lowered
              omega
            simp only [second] at computed
            cases computed
            simp only [value] at billions borrow ⊢
            omega
      · cases computed
        simp only [value] at billions ⊢
        omega

/-- A difference that overflowed has no magnitude. -/
theorem reduceBy_error {magnitude : Magnitude} {amount : Nat} {kind : Overflow}
    (stopped : magnitude.reduceBy amount = .error kind) :
    kind = .subtract ∧ ¬ FitsWord ((magnitude.value - amount) / 1000000000) := by
  have fits := magnitude.high_fits
  have small := magnitude.low_lt
  unfold reduceBy at stopped
  cases first : magnitude.subHigh (amount / 1000000000 : Nat) with
  | error found =>
      simp only [first, bind, Except.bind] at stopped
      cases stopped
      refine ⟨(subHigh_error first).1, fun inside => (subHigh_error first).2 ?_⟩
      simp only [FitsWord, value] at *
      omega
  | ok lowered =>
      have billions := subHigh_eq_ok_iff.mp first
      simp only [first, bind, Except.bind] at stopped
      split at stopped
      · next short =>
          cases second : lowered.subHigh 1 with
          | ok borrowed =>
              simp only [second] at stopped
              cases stopped
          | error found =>
              simp only [second] at stopped
              cases stopped
              refine ⟨(subHigh_error second).1, fun inside => (subHigh_error second).2 ?_⟩
              have smallLowered := lowered.low_lt
              simp only [FitsWord, value] at *
              omega
      · cases stopped

/-- Subtracting an amount gives the magnitude of the difference, if there is one. -/
theorem reduceBy_eq_ok_iff {magnitude result : Magnitude} {amount : Nat} :
    magnitude.reduceBy amount = .ok result ↔ result.value = magnitude.value - amount := by
  refine ⟨value_of_reduceBy, fun difference => ?_⟩
  cases outcome : magnitude.reduceBy amount with
  | ok found =>
      rw [value_injective ((value_of_reduceBy outcome).trans difference.symm)]
  | error kind =>
      exact absurd ((exists_value_iff _).mp ⟨result, difference⟩) (reduceBy_error outcome).2

/-- A sum of magnitudes that was computed is exact. -/
theorem value_of_add {magnitude increment result : Magnitude}
    (computed : magnitude.add increment = .ok result) :
    result.value = magnitude.value + increment.value := by
  unfold add at computed
  cases first : magnitude.increaseBy increment.low with
  | error kind =>
      simp only [first, bind, Except.bind] at computed
      cases computed
  | ok raised =>
      simp only [first, bind, Except.bind] at computed
      have lows := increaseBy_eq_ok_iff.mp first
      have highs := addHigh_eq_ok_iff.mp computed
      simp only [value] at lows highs ⊢
      omega

/-- A difference of magnitudes that was computed is exact. -/
theorem value_of_sub {magnitude decrement result : Magnitude}
    (computed : magnitude.sub decrement = .ok result) :
    result.value = magnitude.value - decrement.value := by
  unfold sub at computed
  cases first : magnitude.reduceBy decrement.low with
  | error kind =>
      simp only [first, bind, Except.bind] at computed
      cases computed
  | ok lowered =>
      simp only [first, bind, Except.bind] at computed
      have lows := reduceBy_eq_ok_iff.mp first
      have highs := subHigh_eq_ok_iff.mp computed
      simp only [value] at lows highs ⊢
      omega

end Admission.Magnitude
