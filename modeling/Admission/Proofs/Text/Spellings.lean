import Admission.Proofs.Server.Identifiers
import Admission.Proofs.Text.Numerals
import Mathlib.Data.List.Induction

/-!
# Spellings of an identifier

An identifier is spelled by its thirty-two digits, either alone or in groups, and the groups may
stand between braces or after `urn:uuid:` (`ObjectId.spellings`).  The texts that are read as an
identifier are exactly its spellings, with every letter in either case (`ObjectId.parse?_iff`).

*Digits.*  Reading and writing digits undo each other both ways, so that the digits of what was read
are those that were read (`Digits.lowDigits_ofDigits`, `ObjectId.ofDigits?_iff`).

*Groups.*  What is taken out of groups are the digits of these groups, and the case of letters does
not matter to where a group ends (`ObjectId.ungroup?_iff`, `ObjectId.ungroup?_toLower`).
-/

namespace Admission.Digits

variable {base : Nat} {digits : List Nat}

theorem ofDigits_concat (base : Nat) (digits : List Nat) (last : Nat) :
    ofDigits base (digits ++ [last]) = ofDigits base digits * base + last := by
  simp [ofDigits]

theorem ofDigits_lt (small : ∀ digit ∈ digits, digit < base) :
    ofDigits base digits < base ^ digits.length := by
  induction digits using List.reverseRecOn with
  | nil => simp [ofDigits]
  | append_singleton front last induction =>
      have earlier := induction fun digit member => small digit (List.mem_append_left _ member)
      have own := small last (by simp)
      rw [ofDigits_concat, List.length_append, List.length_singleton, Nat.pow_succ]
      calc ofDigits base front * base + last
          < ofDigits base front * base + base := Nat.add_lt_add_left own _
        _ = (ofDigits base front + 1) * base := (Nat.succ_mul _ _).symm
        _ ≤ base ^ front.length * base := Nat.mul_le_mul_right base earlier

/-- The digits of a number that digits write are these digits. -/
theorem lowDigits_ofDigits (small : ∀ digit ∈ digits, digit < base) :
    lowDigits base digits.length (ofDigits base digits) = digits := by
  induction digits using List.reverseRecOn with
  | nil => rfl
  | append_singleton front last induction =>
      have earlier := induction fun digit member => small digit (List.mem_append_left _ member)
      have own := small last (by simp)
      have positive : 0 < base := Nat.zero_lt_of_lt own
      have above : (ofDigits base front * base + last) / base = ofDigits base front := by
        rw [Nat.mul_comm, Nat.mul_add_div positive, Nat.div_eq_of_lt own, Nat.add_zero]
      have lowest : (ofDigits base front * base + last) % base = last := by
        rw [Nat.mul_comm, Nat.mul_add_mod, Nat.mod_eq_of_lt own]
      rw [ofDigits_concat, List.length_append, List.length_singleton, lowDigits, above, lowest,
        earlier]

end Admission.Digits

namespace Admission.ObjectId

variable {id : ObjectId} {digits text : List Char} {sizes : List Nat}

/-! ## Digits -/

theorem ofDigits?_iff : ofDigits? digits = some id ↔ digits.map Char.toLower = id.digits := by
  constructor
  · intro read
    rw [ofDigits?, Option.ite_none_right_eq_some] at read
    obtain ⟨length, read⟩ := read
    obtain ⟨values, isRead, rfl⟩ := Option.map_eq_some_iff.mp read
    obtain ⟨small, same⟩ := Hex.mapM_value?_iff.mp isRead
    have count : values.length = 32 := by
      simpa [length] using congrArg List.length same
    have bound : Digits.ofDigits 16 values < 2 ^ 128 := by
      have word := Digits.ofDigits_lt small
      rw [count] at word
      exact word.trans_le (by decide)
    have number : (ofNat (Digits.ofDigits 16 values)).toNat = Digits.ofDigits 16 values := by
      rw [toNat, ofNat, BitVec.toNat_ofNat, Nat.mod_eq_of_lt bound]
    rw [ObjectId.digits, number, ← count, Digits.lowDigits_ofDigits small, same]
  · intro same
    have length : digits.length = 32 := by
      simpa using congrArg List.length same
    have small : ∀ number ∈ Digits.lowDigits 16 32 id.toNat, number < 16 := fun _ member =>
      Digits.lt_of_mem_lowDigits (by decide) member
    have isRead : digits.mapM Hex.value? = id.digits.mapM Hex.value? :=
      (Hex.mapM_value?_iff.mpr ⟨small, same.symm⟩).trans (mapM_value?_digit small).symm
    rw [← id.ofDigits?_digits, ofDigits?, ofDigits?, isRead, length, id.length_digits]

/-! ## Groups -/

/-- A mark that is no letter has no other case. -/
theorem toLower_eq_iff {character mark : Char} (noLetter : mark.toNat < 65 ∨ 122 < mark.toNat) :
    character.toLower = mark ↔ character = mark := by
  rw [← Char.toNat_inj, ← Char.toNat_inj, Hex.toNat_toLower]
  split <;> omega

theorem group_cons {size : Nat} (filled : sizes ≠ []) (digits : List Char) :
    group (size :: sizes) digits = digits.take size ++ '-' :: group sizes (digits.drop size) :=
  group.eq_3 _ _ _ filled

theorem ungroup?_cons {size : Nat} (filled : sizes ≠ []) (text : List Char) :
    ungroup? (size :: sizes) text = match text.drop size with
      | '-' :: rest => (ungroup? sizes rest).map (text.take size ++ ·)
      | _ => none :=
  ungroup?.eq_3 _ _ _ filled

/-- What is taken out of a text that is in groups are the digits of these groups. -/
theorem eq_group_of_ungroup? (taken : ungroup? sizes text = some digits) :
    digits.length = sizes.sum ∧ text = group sizes digits := by
  induction sizes generalizing text digits with
  | nil => cases taken
  | cons size rest induction =>
      cases rest with
      | nil =>
          rw [ungroup?, Option.ite_none_right_eq_some] at taken
          obtain ⟨rfl, same⟩ := taken
          cases same
          simp [group]
      | cons next later =>
          rw [ungroup?_cons (List.cons_ne_nil next later)] at taken
          split at taken
          · next others isRest =>
              obtain ⟨back, isBack, rfl⟩ := Option.map_eq_some_iff.mp taken
              obtain ⟨length, isGroup⟩ := induction isBack
              have front : (text.take size).length = size := by
                have rest := congrArg List.length isRest
                rw [List.length_drop, List.length_cons] at rest
                rw [List.length_take]
                omega
              refine ⟨by rw [List.length_append, front, length]; rfl, ?_⟩
              rw [group_cons (List.cons_ne_nil next later), List.take_left' front,
                List.drop_left' front, ← isGroup, ← isRest, List.take_append_drop]
          · cases taken

/-- The case of letters does not matter to where a group ends. -/
theorem ungroup?_toLower (sizes : List Nat) (text : List Char) :
    ungroup? sizes (text.map Char.toLower) =
      (ungroup? sizes text).map (List.map Char.toLower) := by
  induction sizes generalizing text with
  | nil => rfl
  | cons size rest induction =>
      cases rest with
      | nil =>
          rw [ungroup?, ungroup?, List.length_map]
          split <;> rfl
      | cons next later =>
          rw [ungroup?_cons (List.cons_ne_nil next later),
            ungroup?_cons (List.cons_ne_nil next later), ← List.map_drop, ← List.map_take]
          cases text.drop size with
          | nil => rfl
          | cons mark others =>
              by_cases hyphen : mark = '-'
              · subst hyphen
                have kept : Char.toLower '-' = '-' := rfl
                rw [List.map_cons, kept]
                change (ungroup? (next :: later) (others.map Char.toLower)).map _ =
                  ((ungroup? (next :: later) others).map _).map _
                rw [induction, Option.map_map, Option.map_map]
                congr 1
                funext back
                simp
              · have lower : mark.toLower ≠ '-' :=
                  mt (toLower_eq_iff (Or.inl (by decide))).mp hyphen
                rw [List.map_cons]
                split
                · next others isHyphen => exact absurd (List.cons.inj isHyphen).1 lower
                · split
                  · next others isHyphen => exact absurd (List.cons.inj isHyphen).1 hyphen
                  · rfl

theorem ofGroups?_iff :
    ofGroups? text = some id ↔ text.map Char.toLower = group groups id.digits := by
  have taken : ungroup? groups (group groups id.digits) = some id.digits :=
    ungroup?_group (by decide) id.length_digits
  rw [ofGroups?, Option.bind_eq_some_iff]
  constructor
  · rintro ⟨digits, isTaken, read⟩
    have lower := congrArg (Option.map (List.map Char.toLower)) isTaken
    rw [← ungroup?_toLower, Option.map_some, ofDigits?_iff.mp read] at lower
    exact (eq_group_of_ungroup? lower).2
  · intro same
    have lower := ungroup?_toLower groups text
    rw [same, taken, eq_comm, Option.map_eq_some_iff] at lower
    obtain ⟨digits, isTaken, isLower⟩ := lower
    exact ⟨digits, isTaken, ofDigits?_iff.mpr isLower⟩

/-! ## Spellings -/

/-- The texts of an identifier in lower case: its digits alone, in groups, in groups between braces,
and in groups after `urn:uuid:`. -/
def spellings (id : ObjectId) : List (List Char) :=
  [id.digits, group groups id.digits, '{' :: group groups id.digits ++ ['}'],
    urn ++ group groups id.digits]

theorem length_groups (id : ObjectId) : (group groups id.digits).length = 36 := by
  simp [group, groups]

/-- Groups between braces. -/
theorem braced_iff (length : text.length = 38) :
    (if text.head? = some '{' ∧ text.getLast? = some '}' then
      ofGroups? ((text.drop 1).take 36) else none) = some id ↔
      text.map Char.toLower = '{' :: group groups id.digits ++ ['}'] := by
  obtain ⟨first, rest, rfl⟩ := List.exists_cons_of_length_eq_add_one length
  obtain ⟨middle, last, rfl⟩ := (List.eq_nil_or_concat' rest).resolve_left
    (List.ne_nil_of_length_eq_add_one (Nat.succ.inj length))
  have count : middle.length = 36 := by
    simpa using length
  have final : (first :: (middle ++ [last])).getLast? = some last := by
    rw [← List.cons_append, List.getLast?_concat]
  have opens : first.toLower = '{' ↔ first = '{' := toLower_eq_iff (Or.inr (by decide))
  have closes : last.toLower = '}' ↔ last = '}' := toLower_eq_iff (Or.inr (by decide))
  rw [List.head?_cons, final, List.drop_one, List.tail_cons, List.take_left' count,
    Option.ite_none_right_eq_some, ofGroups?_iff, Option.some.injEq, Option.some.injEq,
    ← opens, ← closes, List.map_cons, List.map_append, List.map_singleton, List.cons_append,
    List.cons.injEq, List.append_singleton_inj]
  exact ⟨fun ⟨⟨opening, closing⟩, inner⟩ => ⟨opening, inner, closing⟩,
    fun ⟨opening, inner, closing⟩ => ⟨⟨opening, closing⟩, inner⟩⟩

/-- Groups after `urn:uuid:`. -/
theorem urn_iff (length : text.length = 45) :
    (if (text.take 9).map Char.toLower = urn then ofGroups? (text.drop 9) else none) = some id ↔
      text.map Char.toLower = urn ++ group groups id.digits := by
  have whole : text.map Char.toLower =
      (text.take 9).map Char.toLower ++ (text.drop 9).map Char.toLower := by
    rw [← List.map_append, List.take_append_drop]
  have front : ((text.take 9).map Char.toLower).length = urn.length := by
    rw [List.length_map, List.length_take, length]
    rfl
  rw [Option.ite_none_right_eq_some, ofGroups?_iff, whole]
  exact ⟨fun ⟨isUrn, isGroup⟩ => by rw [isUrn, isGroup], fun same => List.append_inj same front⟩

/-- The texts that are read as an identifier are its spellings, with letters of either case.  No two
forms are equally long, so that the length tells which of them a text can have. -/
theorem parse?_iff {text : String} :
    parse? text = some id ↔ text.toList.map Char.toLower ∈ id.spellings := by
  rw [parse?]
  generalize text.toList = text
  have plain (same : text.map Char.toLower = id.digits) : text.length = 32 := by
    rw [← id.length_digits, ← same, List.length_map]
  have grouped (same : text.map Char.toLower = group groups id.digits) : text.length = 36 := by
    rw [← id.length_groups, ← same, List.length_map]
  have braced (same : text.map Char.toLower = '{' :: group groups id.digits ++ ['}']) :
      text.length = 38 := by
    rw [← List.length_map Char.toLower, same, List.length_append, List.length_cons, length_groups,
      List.length_singleton]
  have urned (same : text.map Char.toLower = urn ++ group groups id.digits) :
      text.length = 45 := by
    have front : urn.length = 9 := rfl
    rw [← List.length_map Char.toLower, same, List.length_append, front, length_groups]
  simp only [spellings, List.mem_cons, List.not_mem_nil, or_false]
  unfold ofChars?
  split
  · next length =>
      rw [ofDigits?_iff]
      grind only
  · next length =>
      rw [ofGroups?_iff]
      grind only
  · next length =>
      rw [braced_iff length]
      grind only
  · next length =>
      rw [urn_iff length]
      grind only
  · next noPlain noGroups noBraces noUrn =>
      grind only

end Admission.ObjectId
