import Admission.ObjectId
import Mathlib.Algebra.GroupWithZero.Nat

/-!
# The text of an identifier

Responses name an object by the text of its identifier, and requests by any text that is read as
one.  The text of an identifier is read as that identifier (`ObjectId.parse?_text`), so that no two
identifiers have the same text (`ObjectId.text_injective`).
-/

namespace Admission

namespace ObjectId

/-- Digits that were cut into groups are those of the groups. -/
theorem ungroup?_group {sizes : List Nat} {digits : List Char} (filled : sizes ≠ [])
    (fits : digits.length = sizes.sum) : ungroup? sizes (group sizes digits) = some digits := by
  induction sizes generalizing digits with
  | nil => exact absurd rfl filled
  | cons size rest induction =>
      rw [List.sum_cons] at fits
      cases rest with
      | nil =>
          rw [List.sum_nil, Nat.add_zero] at fits
          have whole : digits.take size = digits :=
            List.take_of_length_le (Nat.le_of_eq fits)
          rw [group, whole, ungroup?, if_pos fits]
      | cons next later =>
          have front : (digits.take size).length = size := by
            rw [List.length_take, fits, Nat.min_eq_left (Nat.le_add_right _ _)]
          have back : (digits.drop size).length = (next :: later).sum := by
            rw [List.length_drop, fits, Nat.add_sub_cancel_left]
          have cut : group (size :: next :: later) digits =
              digits.take size ++ '-' :: group (next :: later) (digits.drop size) :=
            group.eq_3 _ _ _ (List.cons_ne_nil next later)
          rw [cut, ungroup?.eq_3 _ _ _ (List.cons_ne_nil next later), List.drop_left' front,
            List.take_left' front]
          simp only [induction (List.cons_ne_nil next later) back, Option.map_some,
            List.take_append_drop]

theorem mapM_value?_digit {numbers : List Nat} (small : ∀ number ∈ numbers, number < 16) :
    (numbers.map Hex.digit).mapM Hex.value? = some numbers := by
  induction numbers with
  | nil => rfl
  | cons number rest induction =>
      rw [List.map_cons, List.mapM_cons, Hex.value?_digit number (small _ List.mem_cons_self),
        induction fun other member => small other (List.mem_cons_of_mem _ member)]
      rfl

@[simp] theorem length_digits (id : ObjectId) : id.digits.length = 32 := by
  rw [digits, List.length_map, Digits.length_lowDigits]

/-- The digits of an identifier are read as that identifier. -/
theorem ofDigits?_digits (id : ObjectId) : ofDigits? id.digits = some id := by
  have values : id.digits.mapM Hex.value? = some (Digits.lowDigits 16 32 id.toNat) :=
    mapM_value?_digit fun _ member => Digits.lt_of_mem_lowDigits (by decide) member
  have whole : Digits.ofDigits 16 (Digits.lowDigits 16 32 id.toNat) = id.toNat := by
    have small : id.toNat < Nat.pow 16 32 := id.bits.isLt
    rw [Digits.ofDigits_lowDigits]
    exact Nat.mod_eq_of_lt small
  rw [ofDigits?, if_pos id.length_digits, values, Option.map_some, whole, ofNat, toNat,
    BitVec.ofNat_toNat, BitVec.setWidth_eq]

/-- The text of an identifier is read as that identifier. -/
theorem parse?_text (id : ObjectId) : parse? id.text = some id := by
  have length : (group groups id.digits).length = 36 := by
    simp [group, groups]
  have grouped : ungroup? groups (group groups id.digits) = some id.digits :=
    ungroup?_group (by decide) id.length_digits
  rw [parse?, text, String.toList_ofList, ofChars?, length]
  simp only [ofGroups?, grouped, Option.bind_some, ofDigits?_digits]

/-- No two identifiers have the same text. -/
theorem text_injective {id other : ObjectId} (same : id.text = other.text) : id = other := by
  have read : some id = some other := by rw [← id.parse?_text, same, other.parse?_text]
  exact Option.some.inj read

end ObjectId

end Admission
