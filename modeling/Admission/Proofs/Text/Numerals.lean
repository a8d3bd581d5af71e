import Admission.Text.Hex
import Admission.Text.Numeral
import Mathlib.Data.List.Forall2
import Mathlib.Data.Nat.Digits.Defs

/-!
# Which texts are digits and numbers

*Digits.*  A text is read character by character, and fails with the first character that is no
digit (`mapM_eq_some_iff`).  Decimal digits are those of ASCII (`Numeral.mapM_digit?_iff`);
hexadecimal digits are written in lower case and read in either (`Hex.mapM_value?_iff`).

*Numbers.*  A text writes a number by decimal digits, at least one of them, after an optional plus
sign (`Numeral.Writes`).  Zeros may lead, so that a number has many texts, but a text has one number
at most.  Words are read from exactly the texts that write them (`Numeral.parseUInt64?_iff`), and
the decimal text of a word is one of these (`Numeral.writes_toString`).
-/

namespace Admission

/-- A list is read item by item. -/
theorem mapM_eq_some_iff {α β : Type} {read : α → Option β} {items : List α} {values : List β} :
    items.mapM read = some values ↔
      List.Forall₂ (fun item value => read item = some value) items values := by
  induction items generalizing values with
  | nil =>
      rw [List.mapM_nil, List.forall₂_nil_left_iff]
      exact ⟨fun same => (Option.some.inj same).symm, fun isNil => isNil ▸ rfl⟩
  | cons item rest induction =>
      simp only [List.mapM_cons, Option.bind_eq_bind, Option.pure_def, Option.bind_eq_some_iff,
        Option.some.injEq, induction, List.forall₂_cons_left_iff, @eq_comm _ values,
        exists_and_left]

end Admission

namespace Admission.Hex

variable {digits : List Char} {numbers : List Nat} {character : Char} {number : Nat}

theorem toNat_toLower (character : Char) : character.toLower.toNat =
    if 65 ≤ character.toNat ∧ character.toNat ≤ 90 then character.toNat + 32
    else character.toNat := by
  unfold Char.toLower
  split
  · next upper =>
      have least : 65 ≤ character.toNat := upper.1
      have most : character.toNat ≤ 90 := upper.2
      rw [if_pos ⟨least, most⟩]
      change (character.val + 32).toNat = character.val.toNat + 32
      rw [UInt32.toNat_add]
      exact Nat.mod_eq_of_lt (by change character.toNat + 32 < 4294967296; omega)
  · next other => exact (if_neg fun upper => other upper).symm

theorem toNat_digit (small : number < 16) :
    (digit number).toNat = if number < 10 then 48 + number else 87 + number := by
  have every : ∀ n : Fin 16, (digit n.val).toNat =
      if n.val < 10 then 48 + n.val else 87 + n.val := by decide
  exact every ⟨number, small⟩

/-- A character has a value if its lower case is the digit of it. -/
theorem value?_eq_some_iff :
    value? character = some number ↔ number < 16 ∧ digit number = character.toLower := by
  constructor
  · intro read
    have small : number < 16 := by
      grind [value?]
    refine ⟨small, ?_⟩
    rw [← Char.toNat_inj, toNat_toLower, toNat_digit small]
    grind [value?]
  · rintro ⟨small, same⟩
    rw [← Char.toNat_inj, toNat_toLower, toNat_digit small] at same
    grind [value?]

/-- Hexadecimal digits are read in either case. -/
theorem mapM_value?_iff : digits.mapM value? = some numbers ↔
    (∀ number ∈ numbers, number < 16) ∧ numbers.map digit = digits.map Char.toLower := by
  have turned : List.Forall₂ (fun character number => value? character = some number) digits
      numbers ↔ List.Forall₂ (fun number character => value? character = some number) numbers
        digits := ⟨fun read => read.flip, fun read => read.flip⟩
  rw [mapM_eq_some_iff, turned]
  simp only [value?_eq_some_iff, List.forall₂_and_left]
  rw [← List.forall₂_eq_eq_eq, List.forall₂_map_left_iff, List.forall₂_map_right_iff]

end Admission.Hex

namespace Admission.Numeral

variable {digits : List Char} {text : String} {number : Nat}

/-- A text writes a number: decimal digits, at least one of them, after an optional plus sign. -/
def Writes (text : String) (number : Nat) : Prop :=
  ∃ digits : List Char, (text.toList = digits ∨ text.toList = '+' :: digits) ∧ digits ≠ [] ∧
    (∀ character ∈ digits, character.isDigit = true) ∧ Nat.ofDigitChars 10 digits 0 = number

/-! ## Digits -/

theorem digit?_eq_some_iff {character : Char} : digit? character = some number ↔
    character.isDigit = true ∧ character.toNat - 48 = number := by
  rw [digit?, Option.ite_none_right_eq_some, Option.some.injEq]

theorem mapM_digit?_iff {values : List Nat} : digits.mapM digit? = some values ↔
    (∀ character ∈ digits, character.isDigit = true) ∧
      (digits.map fun character => character.toNat - 48) = values := by
  simp only [mapM_eq_some_iff, digit?_eq_some_iff, List.forall₂_and_left]
  rw [← List.forall₂_eq_eq_eq, List.forall₂_map_left_iff]

theorem ofDigits?_eq_some_iff : ofDigits? digits = some number ↔
    digits ≠ [] ∧ (∀ character ∈ digits, character.isDigit = true) ∧
      Nat.ofDigitChars 10 digits 0 = number := by
  have folded : (digits.map fun character => character.toNat - 48).foldl
      (fun number digit => number * 10 + digit) 0 = Nat.ofDigitChars 10 digits 0 := by
    rw [Nat.ofDigitChars_eq_foldl, List.foldl_map]
    simp only [Nat.mul_comm]
    rfl
  simp only [ofDigits?, List.isEmpty_iff, Option.ite_none_left_eq_some, Option.map_eq_some_iff,
    mapM_digit?_iff]
  constructor
  · rintro ⟨present, values, ⟨all, rfl⟩, rfl⟩
    exact ⟨present, all, folded.symm⟩
  · rintro ⟨present, all, rfl⟩
    exact ⟨present, _, ⟨all, rfl⟩, folded⟩

/-! ## Signs -/

/-- A sign is no digit, so that a text is one number at most. -/
theorem writes_iff :
    Writes text number ↔ ofDigits? (unsigned text.toList) = some number := by
  rw [ofDigits?_eq_some_iff]
  constructor
  · rintro ⟨digits, whole, present, all, value⟩
    have same : unsigned text.toList = digits := by
      rcases whole with whole | whole
      · rw [whole, unsigned]
        rintro rest rfl
        exact absurd (all '+' List.mem_cons_self) (by decide)
      · rw [whole]
        rfl
    rw [same]
    exact ⟨present, all, value⟩
  · rintro ⟨present, all, value⟩
    refine ⟨unsigned text.toList, ?_, present, all, value⟩
    unfold unsigned
    split
    · next digits whole => exact Or.inr whole
    · exact Or.inl rfl

/-! ## Words -/

theorem parseBelow?_eq_some_iff {bound : Nat} :
    parseBelow? bound text = some number ↔ Writes text number ∧ number < bound := by
  rw [writes_iff, parseBelow?]
  cases ofDigits? (unsigned text.toList) with
  | none => simp
  | some found =>
      simp only [Option.ite_none_right_eq_some, Option.some.injEq]
      constructor
      · rintro ⟨small, rfl⟩
        exact ⟨rfl, small⟩
      · rintro ⟨rfl, small⟩
        exact ⟨small, rfl⟩

/-- A word is read from exactly the texts that write it. -/
theorem parseUInt64?_iff {word : UInt64} :
    parseUInt64? text = some word ↔ Writes text word.toNat := by
  simp only [parseUInt64?, Option.map_eq_some_iff, parseBelow?_eq_some_iff]
  constructor
  · rintro ⟨number, ⟨writes, small⟩, rfl⟩
    rwa [UInt64.toNat_ofNat_of_lt' small]
  · intro writes
    exact ⟨word.toNat, ⟨writes, word.toNat_lt⟩, UInt64.ofNat_toNat⟩

/-- The decimal text of a word writes it. -/
theorem writes_toString (word : UInt64) : Writes (toString word) word.toNat := by
  have whole : (toString word).toList = Nat.toDigits 10 word.toNat := by
    rw [show toString word = toString word.toNat from rfl, Nat.toString_eq_repr, Nat.toList_repr]
  exact ⟨Nat.toDigits 10 word.toNat, Or.inl whole, Nat.toDigits_ne_nil,
    fun _ member => Nat.isDigit_of_mem_toDigits (by decide) (by decide) member,
    Nat.ofDigitChars_toDigits (by decide) (by decide)⟩

end Admission.Numeral
