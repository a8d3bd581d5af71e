import Admission.Vlq
import Mathlib.Data.Nat.Digits.Defs
import Mathlib.Tactic.Ring

/-!
# What octets write

The rules of self-delimiting numbers, apart from any reader or writer.

*Values.*  Octets write a number in base 128, most significant first, each by its low seven bits
(`valueOf`).

*Ends.*  The high bit of an octet says whether another one follows, so octets tell how many of
them the number at their start takes (`Delimited`), and only one count is right
(`Delimited.unique`).  What follows the number does not matter (`Delimited.append`).

A number and the count of its octets determine the octets (`Delimited.take_eq`).
-/

namespace Admission.Vlq

variable {octets others front rest : List UInt8} {octet last : UInt8} {count : Nat}

/-! ## Flags -/

/-- The high bit of an octet is set. -/
def Flagged (octet : UInt8) : Prop := octet.toNat.testBit 7 = true

instance (octet : UInt8) : Decidable (Flagged octet) :=
  inferInstanceAs (Decidable (_ = true))

theorem flagged_iff_le : Flagged octet ↔ 128 ≤ octet.toNat := by
  have small := octet.toNat_lt
  simp only [Flagged, Nat.testBit_eq_decide_div_mod_eq, decide_eq_true_eq]
  omega

@[simp] theorem continues_iff_flagged : continues octet = true ↔ Flagged octet := by
  simp [continues, flagged_iff_le]

@[simp] theorem continues_eq_false_iff : continues octet = false ↔ ¬ Flagged octet := by
  simp [← continues_iff_flagged]

/-! ## Values -/

/-- The digit that an octet writes: its low seven bits. -/
def digit (octet : UInt8) : Nat := octet.toNat % 128

theorem digit_lt (octet : UInt8) : digit octet < 128 := Nat.mod_lt _ (by decide)

/-- The number that octets write in base 128, most significant first. -/
def valueOf (octets : List UInt8) : Nat := Nat.ofDigits 128 (octets.map digit).reverse

@[simp] theorem valueOf_nil : valueOf [] = 0 := rfl

theorem valueOf_append (front rest : List UInt8) :
    valueOf (front ++ rest) = valueOf front * 128 ^ rest.length + valueOf rest := by
  simp only [valueOf, List.map_append, List.reverse_append, Nat.ofDigits_append,
    List.length_reverse, List.length_map]
  ring

theorem valueOf_singleton (octet : UInt8) : valueOf [octet] = digit octet := by
  simp [valueOf]

theorem valueOf_concat (front : List UInt8) (last : UInt8) :
    valueOf (front ++ [last]) = valueOf front * 128 + digit last := by
  simp [valueOf_append, valueOf_singleton]

theorem valueOf_cons (octet : UInt8) (rest : List UInt8) :
    valueOf (octet :: rest) = digit octet * 128 ^ rest.length + valueOf rest := by
  rw [← List.singleton_append, valueOf_append, valueOf_singleton]

/-- Every octet contributes seven bits. -/
theorem valueOf_lt (octets : List UInt8) : valueOf octets < 128 ^ octets.length := by
  have digits : ∀ chunk ∈ (octets.map digit).reverse, chunk < 128 := by
    simp [digit_lt]
  simpa [valueOf] using Nat.ofDigits_lt_base_pow_length (by decide) digits

/-! ## Ends -/

/-- The number at the start of `octets` takes `count` of them: the high bit is set in all of
these but the last. -/
structure Delimited (octets : List UInt8) (count : Nat) : Prop where
  positive : 1 ≤ count
  within : count ≤ octets.length
  flagged : ∀ octet ∈ octets.take (count - 1), Flagged octet
  ended : ∀ octet ∈ octets[count - 1]?, ¬ Flagged octet

instance (octets : List UInt8) (count : Nat) : Decidable (Delimited octets count) :=
  decidable_of_iff
    (1 ≤ count ∧ count ≤ octets.length ∧ (octets.take (count - 1)).all (Flagged ·) = true ∧
      octets[count - 1]?.all (¬ Flagged ·) = true)
    ⟨fun ⟨positive, within, flagged, ended⟩ =>
      ⟨positive, within, by simpa using flagged, by simpa [Option.all_eq_true] using ended⟩,
    fun ⟨positive, within, flagged, ended⟩ =>
      ⟨positive, within, by simpa using flagged, by simpa [Option.all_eq_true] using ended⟩⟩

/-- An octet without the high bit is a number by itself. -/
theorem delimited_of_ended (ended : ¬ Flagged octet) (rest : List UInt8) :
    Delimited (octet :: rest) 1 where
  positive := le_rfl
  within := by simp
  flagged := by simp
  ended := by simpa using ended

/-- The last octet of a number parts those before it from those after it. -/
theorem delimited_split (flagged : ∀ octet ∈ front, Flagged octet) (ended : ¬ Flagged last)
    (rest : List UInt8) : Delimited (front ++ last :: rest) (front.length + 1) where
  positive := Nat.le_add_left 1 _
  within := by simp
  flagged := by simpa using flagged
  ended := by simpa using ended

theorem take_split (front : List UInt8) (last : UInt8) (rest : List UInt8) :
    (front ++ last :: rest).take (front.length + 1) = front ++ [last] := by
  rw [List.take_length_add_append, List.take_succ_cons, List.take_zero]

namespace Delimited

theorem exists_split (delimited : Delimited octets count) : ∃ front last rest,
    octets = front ++ last :: rest ∧ (∀ octet ∈ front, Flagged octet) ∧ ¬ Flagged last ∧
      count = front.length + 1 := by
  obtain ⟨positive, within, flagged, ended⟩ := delimited
  have place : count - 1 < octets.length := by omega
  refine ⟨octets.take (count - 1), octets[count - 1], octets.drop (count - 1 + 1), ?_, flagged,
    ended _ (List.getElem?_eq_getElem place), ?_⟩
  · rw [List.getElem_cons_drop, List.take_append_drop]
  · rw [List.length_take]
    omega

theorem cons (flagged : Flagged octet) (delimited : Delimited octets count) :
    Delimited (octet :: octets) (count + 1) := by
  obtain ⟨front, last, rest, rfl, earlier, ended, rfl⟩ := delimited.exists_split
  show Delimited ((octet :: front) ++ last :: rest) ((octet :: front).length + 1)
  exact delimited_split (by simpa [flagged]) ended rest

/-- What follows a number does not matter. -/
theorem append (delimited : Delimited octets count) (rest : List UInt8) :
    Delimited (octets ++ rest) count := by
  obtain ⟨front, last, others, rfl, flagged, ended, rfl⟩ := delimited.exists_split
  simpa using delimited_split flagged ended (others ++ rest)

theorem take (delimited : Delimited octets count) : Delimited (octets.take count) count := by
  obtain ⟨front, last, others, rfl, flagged, ended, rfl⟩ := delimited.exists_split
  rw [take_split]
  exact delimited_split flagged ended []

theorem length_take (delimited : Delimited octets count) : (octets.take count).length = count :=
  List.length_take_of_le delimited.within

theorem exists_first (delimited : Delimited octets count) :
    ∃ first rest, octets = first :: rest := by
  refine List.exists_cons_of_ne_nil ?_
  rintro rfl
  exact absurd delimited.positive (Nat.not_le.mpr (Nat.lt_succ_of_le delimited.within))

/-- A number does not end where a longer one goes on. -/
theorem not_lt {longer : Nat} (left : Delimited octets count) (right : Delimited octets longer) :
    ¬ count < longer := by
  intro shorter
  have positive := left.positive
  have within := left.within
  have place : count - 1 < octets.length := by omega
  refine left.ended octets[count - 1] (List.getElem?_eq_getElem place) (right.flagged _ ?_)
  exact List.mem_take_iff_getElem.mpr ⟨count - 1, by omega, rfl⟩

/-- A number ends at one place only. -/
theorem unique {other : Nat} (left : Delimited octets count) (right : Delimited octets other) :
    count = other :=
  Nat.le_antisymm (Nat.not_lt.mp (right.not_lt left)) (Nat.not_lt.mp (left.not_lt right))

end Delimited

/-- Octets hold a whole number, or every one of them announces another. -/
theorem delimited_or_flagged (octets : List UInt8) :
    (∃ count, Delimited octets count) ∨ ∀ octet ∈ octets, Flagged octet := by
  induction octets with
  | nil => exact Or.inr (by simp)
  | cons first rest induction =>
      by_cases flagged : Flagged first
      · rcases induction with ⟨count, delimited⟩ | all
        · exact Or.inl ⟨count + 1, delimited.cons flagged⟩
        · exact Or.inr (by simpa [flagged])
      · exact Or.inl ⟨1, delimited_of_ended flagged rest⟩

theorem not_delimited_of_flagged (flagged : ∀ octet ∈ octets, Flagged octet) :
    ¬ Delimited octets count := by
  intro delimited
  obtain ⟨front, last, rest, rfl, -, ended, -⟩ := delimited.exists_split
  exact ended (flagged last (by simp))

/-! ## Uniqueness -/

/-- An octet of which the high bit is set is known by the others. -/
theorem ofNat_digit (flagged : Flagged octet) : UInt8.ofNat (128 + digit octet) = octet := by
  have large := flagged_iff_le.mp flagged
  have small := octet.toNat_lt
  have parts : 128 + digit octet = octet.toNat := by
    unfold digit
    omega
  rw [parts, UInt8.ofNat_toNat]

theorem digit_eq_toNat (ended : ¬ Flagged octet) : digit octet = octet.toNat :=
  Nat.mod_eq_of_lt (Nat.lt_of_not_le (mt flagged_iff_le.mpr ended))

theorem eq_of_digit_eq (flagged : ∀ octet ∈ octets, Flagged octet)
    (alike : ∀ octet ∈ others, Flagged octet) (same : octets.map digit = others.map digit) :
    octets = others := by
  have rebuilt : ∀ row : List UInt8, (∀ octet ∈ row, Flagged octet) →
      (row.map digit).map (fun chunk => UInt8.ofNat (128 + chunk)) = row := by
    intro row flags
    rw [List.map_map]
    exact (List.map_congr_left fun octet member => ofNat_digit (flags octet member)).trans
      (List.map_id row)
  rw [← rebuilt octets flagged, same, rebuilt others alike]

theorem eq_of_valueOf_eq (length : octets.length = others.length)
    (same : valueOf octets = valueOf others) : octets.map digit = others.map digit := by
  have digits : ∀ row : List UInt8, ∀ chunk ∈ (row.map digit).reverse, chunk < 128 := by
    simp [digit_lt]
  exact List.reverse_inj.mp (Nat.ofDigits_inj_of_len_eq (by decide) (by simpa using length)
    (digits octets) (digits others) same)

/-- The number and the count of its octets determine these octets. -/
theorem Delimited.take_eq (left : Delimited octets count) (right : Delimited others count)
    (same : valueOf (octets.take count) = valueOf (others.take count)) :
    octets.take count = others.take count := by
  have digits := eq_of_valueOf_eq (by rw [left.length_take, right.length_take]) same
  obtain ⟨front, last, rest, rfl, flagged, ended, rfl⟩ := left.exists_split
  obtain ⟨before, final, after, rfl, alike, alsoEnded, length⟩ := right.exists_split
  rw [length, take_split, ← length, take_split] at digits ⊢
  rw [List.map_append, List.map_append] at digits
  obtain ⟨fronts, lasts⟩ := List.append_inj' digits rfl
  have sameFront : front = before := eq_of_digit_eq flagged alike fronts
  have sameLast : last = final := by
    simp only [List.map_cons, List.map_nil, List.cons.injEq, and_true, digit_eq_toNat ended,
      digit_eq_toNat alsoEnded] at lasts
    exact UInt8.toNat_inj.mp lasts
  rw [sameFront, sameLast]

end Admission.Vlq
