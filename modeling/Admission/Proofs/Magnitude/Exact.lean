import Admission.Magnitude.Scaling
import Admission.Proofs.Store.Computed

/-!
# Arithmetic on magnitudes is exact

A magnitude is made of words (`Origin`) and then goes through operations one after the other
(`Operation`, `results`).  `Origin.exact` and `Operation.exact` are the same in integers: sums,
differences, and halves that are rounded down.  The two operations that scale go through doubles
and have no exact counterpart.

*Steps.*  What is computed is the magnitude of the exact result, and there is an overflow exactly
if there is no such magnitude (`Operation.value_apply`).

*Views.*  The parts, the validity, the count and the order of magnitudes are those of their
values (`Tells`), whatever they came from.

`arithmetic_exact` is the main statement.
-/

namespace Admission.Magnitude

/-! ## Views -/

/-- What is read off a magnitude is read off its value. -/
structure Tells (magnitude : Magnitude) : Prop where
  high : magnitude.high = magnitude.value / 1000000000
  low : (magnitude.low : Int) = magnitude.value % 1000000000
  low_lt : magnitude.low < 1000000000
  valid : magnitude.valid = true ↔ 0 ≤ magnitude.value
  count : magnitude.toNat? =
    if 0 ≤ magnitude.value then some magnitude.value.toNat else none
  order : ∀ other : Magnitude, magnitude.order other = compare magnitude.value other.value

theorem toNat?_eq (magnitude : Magnitude) :
    magnitude.toNat? = if 0 ≤ magnitude.value then some magnitude.value.toNat else none := by
  simp only [toNat?, valid_iff]

/-- Billions are compared first, which is to compare the values. -/
theorem order_eq (left right : Magnitude) : left.order right = compare left.value right.value := by
  have leftSmall := left.low_lt
  have rightSmall := right.low_lt
  have parts : ∀ magnitude : Magnitude,
      magnitude.value = magnitude.high * 1000000000 + magnitude.low := fun _ => rfl
  have leftParts := parts left
  have rightParts := parts right
  unfold order
  split
  · exact (compare_lt_iff_lt.mpr (by omega)).symm
  · split
    · exact (compare_gt_iff_gt.mpr (by omega)).symm
    · split
      · exact (compare_lt_iff_lt.mpr (by omega)).symm
      · split
        · exact (compare_gt_iff_gt.mpr (by omega)).symm
        · exact (compare_eq_iff_eq.mpr (by omega)).symm

theorem tells (magnitude : Magnitude) : magnitude.Tells where
  high := magnitude.high_eq
  low := magnitude.low_eq
  low_lt := magnitude.low_lt
  valid := magnitude.valid_iff
  count := magnitude.toNat?_eq
  order := magnitude.order_eq

/-! ## Differences -/

/-- Subtracting what is not negative gives the magnitude of the difference, if there is one. -/
theorem sub_eq_ok {magnitude decrement rest : Magnitude} (nonneg : 0 ≤ decrement.value)
    (difference : rest.value = magnitude.value - decrement.value) :
    magnitude.sub decrement = .ok rest := by
  have parts : decrement.value = decrement.high * 1000000000 + decrement.low := rfl
  have high := high_eq decrement
  obtain ⟨lowered, isLowered⟩ : ∃ lowered : Magnitude,
      lowered.value = magnitude.value - decrement.low := by
    refine exists_between rest magnitude ?_ ?_ <;> omega
  unfold sub
  rw [reduceBy_eq_ok_iff.mpr isLowered]
  refine subHigh_eq_ok_iff.mpr ?_
  omega

end Magnitude

/-- Subtracting a space in which nothing is negative gives the space of the differences, if there is
one. -/
theorem Space.sub_eq_ok {space decrement rest : Space}
    (nonneg : ∀ medium, 0 ≤ (decrement.get medium).value)
    (differences : ∀ medium, (rest.get medium).value =
      (space.get medium).value - (decrement.get medium).value) :
    space.sub decrement = .ok rest := by
  have file : space.file.sub decrement.file = .ok rest.file :=
    Magnitude.sub_eq_ok (nonneg .file) (differences .file)
  have bulk : space.bulk.sub decrement.bulk = .ok rest.bulk :=
    Magnitude.sub_eq_ok (nonneg .bulk) (differences .bulk)
  have heap : space.heap.sub decrement.heap = .ok rest.heap :=
    Magnitude.sub_eq_ok (nonneg .heap) (differences .heap)
  rw [sub, file, bulk, heap]
  rfl

namespace Magnitude

/-! ## What is computed exactly -/

/-- A computation gives the magnitude of a number, and overflows if there is none. -/
def Computes (computed : Except Overflow Magnitude) (number : Int) : Prop :=
  ∀ result, computed = .ok result ↔ result.value = number

theorem Computes.value {computed : Except Overflow Magnitude} {number : Int}
    (computes : Computes computed number) :
    computed.toOption.map Magnitude.value =
      if FitsWord (number / 1000000000) then some number else none := by
  split
  · next fits =>
      obtain ⟨magnitude, isNumber⟩ := (exists_value_iff number).mpr fits
      rw [(computes magnitude).mpr isNumber, Except.toOption, Option.map_some, isNumber]
  · next outside =>
      cases outcome : computed with
      | error kind => rfl
      | ok magnitude =>
          have isNumber := (computes magnitude).mp outcome
          exact absurd ((exists_value_iff number).mp ⟨magnitude, isNumber⟩) outside

theorem computes_ok (magnitude : Magnitude) : Computes (.ok magnitude) magnitude.value := by
  intro result
  constructor
  · rintro ⟨⟩
    rfl
  · intro same
    rw [value_injective same]

theorem computes_ofParts (high low : Int64) :
    Computes (ofParts high low) (high.toInt * 1000000000 + low.toInt) := by
  intro result
  have known := result.high_eq
  simp only [ofParts]
  constructor
  · intro computed
    split at computed
    · cases computed
      simp only [value]
      omega
    · cases computed
  · intro sum
    have fits : FitsWord (high.toInt + low.toInt / 1000000000) := by
      have carried : result.high = high.toInt + low.toInt / 1000000000 := by omega
      exact carried ▸ result.high_fits
    rw [dif_pos fits]
    congr 1
    apply value_injective
    rw [sum]
    simp only [value]
    omega

theorem computes_add {increment : Magnitude} (nonneg : 0 ≤ increment.value)
    (magnitude : Magnitude) :
    Computes (magnitude.add increment) (magnitude.value + increment.value) :=
  fun _ => ⟨value_of_add, add_eq_ok nonneg⟩

theorem computes_sub {decrement : Magnitude} (nonneg : 0 ≤ decrement.value)
    (magnitude : Magnitude) :
    Computes (magnitude.sub decrement) (magnitude.value - decrement.value) :=
  fun _ => ⟨value_of_sub, sub_eq_ok nonneg⟩

/-! ## Where magnitudes come from -/

/-- The words that a magnitude is made of. -/
inductive Origin where
  | zero
  | signed (number : Int64)
  | unsigned (number : UInt64)
  | parts (high low : Int64)

namespace Origin

/-- The magnitude that is made of the words, unless it overflows. -/
def make : Origin → Except Overflow Magnitude
  | zero => .ok .zero
  | signed number => .ok (.ofInt64 number)
  | unsigned number => .ok (.ofUInt64 number)
  | parts high low => ofParts high low

/-- The number that is counted; the sign of a signed word is discarded. -/
def exact : Origin → Int
  | zero => 0
  | signed number => number.toInt.natAbs
  | unsigned number => number.toNat
  | parts high low => high.toInt * 1000000000 + low.toInt

theorem computes (origin : Origin) : Computes origin.make origin.exact := by
  cases origin with
  | zero => exact computes_ok .zero
  | signed number =>
      rw [exact, ← value_ofInt64]
      exact computes_ok (.ofInt64 number)
  | unsigned number =>
      rw [exact, ← value_ofUInt64]
      exact computes_ok (.ofUInt64 number)
  | parts high low => exact computes_ofParts high low

end Origin

/-! ## What is done to them -/

/-- What can be done to a magnitude, with the other operand. -/
inductive Operation where
  | increase (amount : Int64)
  | reduce (amount : Int64)
  | add (increment : Magnitude)
  | subtract (decrement : Magnitude)
  | halve
  | orZero
  | multiply (factor : Int64)
  | divide (divisor : Int64)

namespace Operation

/-- The operand of a sum or difference is valid. -/
def ValidOperand : Operation → Prop
  | add operand | subtract operand => operand.valid = true
  | increase _ | reduce _ | halve | orZero | multiply _ | divide _ => True

/-- The magnitude after an operation.  A division by zero is refused and leaves it as it was. -/
def apply (magnitude : Magnitude) : Operation → Except Overflow Magnitude
  | increase amount => magnitude.increase amount
  | reduce amount => magnitude.reduce amount
  | add increment => magnitude.add increment
  | subtract decrement => magnitude.sub decrement
  | halve => .ok magnitude.halve
  | orZero => .ok magnitude.orZero
  | multiply factor => magnitude.multiply factor
  | divide divisor =>
    match magnitude.divide divisor with
    | .ok result => .ok result
    | .error (.overflow kind) => .error kind
    | .error (.refused _) => .ok magnitude

/-- What an operation makes of a number, unless it scales. -/
def exact (number : Int) : Operation → Option Int
  | increase amount => some (number + amount.toInt.natAbs)
  | reduce amount => some (number - amount.toInt.natAbs)
  | add increment => some (number + increment.value)
  | subtract decrement => some (number - decrement.value)
  | halve => some (number / 2)
  | orZero => some (max 0 number)
  | multiply _ | divide _ => none

variable {magnitude : Magnitude} {operation : Operation} {number : Int}

theorem computes (operand : operation.ValidOperand)
    (isExact : operation.exact magnitude.value = some number) :
    Computes (operation.apply magnitude) number := by
  cases operation with
  | increase amount =>
      cases isExact
      exact fun _ => increaseBy_eq_ok_iff
  | reduce amount =>
      cases isExact
      exact fun _ => reduceBy_eq_ok_iff
  | add increment =>
      cases isExact
      exact computes_add ((valid_iff increment).mp operand) magnitude
  | subtract decrement =>
      cases isExact
      exact computes_sub ((valid_iff decrement).mp operand) magnitude
  | halve =>
      cases isExact
      rw [← value_halve]
      exact computes_ok magnitude.halve
  | orZero =>
      cases isExact
      have clamped : magnitude.orZero.value = max 0 magnitude.value := by
        rw [value_orZero]
        split <;> omega
      rw [← clamped]
      exact computes_ok magnitude.orZero
  | multiply factor => cases isExact
  | divide divisor => cases isExact

/-- An operation gives the magnitude of the exact result if its billions fit in a word, and
overflows otherwise. -/
theorem value_apply (operand : operation.ValidOperand)
    (isExact : operation.exact magnitude.value = some number) :
    (operation.apply magnitude).toOption.map value =
      if FitsWord (number / 1000000000) then some number else none :=
  (computes operand isExact).value

end Operation

/-- What a magnitude comes to: the magnitude itself and those after each operation, up to the
first that overflows. -/
def results (magnitude : Magnitude) : List Operation → List Magnitude
  | [] => [magnitude]
  | operation :: rest =>
    magnitude :: match operation.apply magnitude with
      | .ok next => next.results rest
      | .error _ => []

theorem results_zero (magnitude : Magnitude) (operations : List Operation) :
    (magnitude.results operations)[0]? = some magnitude := by
  cases operations <;> rfl

/-- Each result is that of its operation on the one before. -/
theorem results_next {start magnitude : Magnitude} {operations : List Operation} {place : Nat}
    {operation : Operation} (found : (start.results operations)[place]? = some magnitude)
    (isNext : operations[place]? = some operation) :
    (start.results operations)[place + 1]? = (operation.apply magnitude).toOption := by
  induction operations generalizing start place with
  | nil => cases isNext
  | cons first rest induction =>
      rw [results, List.getElem?_cons_succ]
      cases place with
      | zero =>
          obtain rfl : start = magnitude := Option.some.inj found
          obtain rfl : first = operation := Option.some.inj isNext
          cases first.apply start with
          | error kind => rfl
          | ok next => exact next.results_zero rest
      | succ place =>
          rw [results, List.getElem?_cons_succ] at found
          cases outcome : first.apply start with
          | error kind =>
              rw [outcome] at found
              cases found
          | ok next =>
              rw [outcome] at found
              exact induction found isNext

/-- Arithmetic on magnitudes is exact.  What is made of words counts their number, if its
billions fit in a word, and overflows otherwise.  Whatever operations follow, each result is
known by its value, and the next one has the exact value, if its billions fit in a word; if they
do not, there is an overflow and no next one. -/
theorem arithmetic_exact (origin : Origin) (operations : List Operation)
    (operands : ∀ operation ∈ operations, operation.ValidOperand) :
    origin.make.toOption.map value =
      (if FitsWord (origin.exact / 1000000000) then some origin.exact else none) ∧
    ∀ start, origin.make = .ok start →
      ∀ place magnitude, (start.results operations)[place]? = some magnitude →
        magnitude.Tells ∧
        ∀ operation number, operations[place]? = some operation →
          operation.exact magnitude.value = some number →
          ((start.results operations)[place + 1]?).map value =
            if FitsWord (number / 1000000000) then some number else none := by
  refine ⟨origin.computes.value, fun start made place magnitude found => ?_⟩
  refine ⟨magnitude.tells, fun operation number isNext isExact => ?_⟩
  have operand := operands operation (List.mem_of_getElem? isNext)
  rw [results_next found isNext]
  exact Operation.value_apply operand isExact

/-- One byte is reduced by the least signed word and halved below zero, where half is rounded
down.  The largest count there is overflows when it is increased by one byte. -/
theorem arithmetic_exact_at_the_limits :
    (∃ one, Origin.make (.unsigned 1) = .ok one ∧
      ((one.results [.reduce Int64.minValue, .halve])[1]?).map value =
        some (-9223372036854775807) ∧
      ((one.results [.reduce Int64.minValue, .halve])[2]?).map value =
        some (-4611686018427387904)) ∧
    ∃ most, Origin.make (.parts Int64.maxValue 999999999) = .ok most ∧
      ((most.results [.increase 1])[1]?).map value = none := by
  constructor
  · obtain ⟨-, steps⟩ := arithmetic_exact (.unsigned 1) [.reduce Int64.minValue, .halve]
      (by simp [Operation.ValidOperand])
    have first := (steps (.ofUInt64 1) rfl 0 _ (results_zero _ _)).2 _ _ rfl rfl
    have deficit : (ofUInt64 1).value - (Int64.minValue.toInt.natAbs : Nat) =
        -9223372036854775807 := by decide
    rw [deficit, if_pos (by decide)] at first
    obtain ⟨reduced, isReduced, isValue⟩ := Option.map_eq_some_iff.mp first
    have second := (steps (.ofUInt64 1) rfl 1 reduced isReduced).2 _ _ rfl rfl
    rw [isValue, if_pos (by decide)] at second
    exact ⟨.ofUInt64 1, rfl, first, second⟩
  · obtain ⟨most, made⟩ : ∃ most, Origin.make (.parts Int64.maxValue 999999999) = .ok most :=
      ⟨_, rfl⟩
    have counted := (Origin.computes (.parts Int64.maxValue 999999999) most).mp made
    obtain ⟨-, steps⟩ := arithmetic_exact (.parts Int64.maxValue 999999999) [.increase 1]
      (by simp [Operation.ValidOperand])
    have next := (steps most made 0 most (results_zero _ _)).2 _ _ rfl rfl
    rw [counted, if_neg (by decide)] at next
    exact ⟨most, made, next⟩

end Admission.Magnitude
