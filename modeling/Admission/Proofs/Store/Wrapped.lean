import Admission.Proofs.Extents.Slices
import Admission.Proofs.Store.Contents

/-!
# Lengths that wrap around

A length is stored as a signed word and read back without its sign.

*Single lengths.*  What comes back of a length is the length itself or what it lacks of the range of
a word, whichever is less (`Extent.toNat_reread`).  So it is the same up to half of that range
(`Extent.reread_eq_iff`).  If a length goes beyond, not even the slice of all bytes can be made of
what comes back (`Extent.slice_reread_refused`).

*Sums.*  Of all the lengths of an object at most one wraps around, since their total is a word
(`Extent.sum_words`).  A sum of stored words, taken without its sign, grows by what the extents take
on a medium only in the cases of `Extent.Adds` (`Extent.grows_iff`), and in these it is computed
(`RecordStore.sumFrom_of_adds`).
-/

namespace Admission

/-- The signed word of the same bits. -/
theorem toInt_toInt64 (word : UInt64) :
    word.toInt64.toInt = if word.toNat < 9223372036854775808 then (word.toNat : Int)
      else word.toNat - 18446744073709551616 := by
  have bits : word.toInt64.toInt = word.toBitVec.toInt := rfl
  have same : word.toNat = word.toBitVec.toNat := rfl
  rw [bits, BitVec.toInt_eq_toNat_cond, same]
  split <;> split <;> omega

namespace Extent

variable {extents : List Extent} {medium : Medium}

/-! ## Single lengths -/

/-- What comes back of an extent that was stored. -/
def reread (extent : Extent) : Extent :=
  ⟨extent.medium, .ofNat extent.length.toInt64.toInt.natAbs⟩

/-- No length goes beyond half of the range of a word. -/
def Short (extents : List Extent) : Prop :=
  ∀ extent ∈ extents, extent.length.toNat ≤ 9223372036854775808

theorem toNat_reread (extent : Extent) :
    extent.reread.length.toNat =
      min extent.length.toNat (18446744073709551616 - extent.length.toNat) := by
  have word := extent.length.toNat_lt
  have signed := toInt_toInt64 extent.length
  have small : extent.length.toInt64.toInt.natAbs < 18446744073709551616 := by
    split at signed <;> omega
  rw [reread, UInt64.toNat_ofNat_of_lt' small]
  split at signed <;> omega

theorem reread_eq_iff (extent : Extent) :
    extent.reread = extent ↔ extent.length.toNat ≤ 9223372036854775808 := by
  have word := extent.length.toNat_lt
  have back := toNat_reread extent
  constructor
  · intro same
    rw [same] at back
    omega
  · intro short
    have length : extent.reread.length = extent.length := UInt64.toNat_inj.mp (by omega)
    exact congrArg (Extent.mk extent.medium) length

/-- Short extents come back as they were. -/
theorem Short.map_reread (short : Short extents) : extents.map reread = extents :=
  (List.map_congr_left fun extent member => (reread_eq_iff extent).mpr (short extent member)).trans
    (List.map_id extents)

/-- Of other extents there come back fewer bytes. -/
theorem bytes_reread_lt (long : ¬ Short extents) : bytes (extents.map reread) < bytes extents := by
  unfold Short at long
  push Not at long
  obtain ⟨extent, member, beyond⟩ := long
  rw [bytes, bytes, List.map_map]
  refine List.sum_lt_sum _ _ (fun other _ => ?_) ⟨extent, member, ?_⟩
  · have back := toNat_reread other
    simp only [Function.comp_apply]
    omega
  · have word := extent.length.toNat_lt
    have back := toNat_reread extent
    simp only [Function.comp_apply]
    omega

/-- All bytes lie in the extents that are not empty. -/
theorem within_bytes (extents : List Extent) :
    within extents 0 (bytes extents) = extents.filter fun extent => extent.length ≠ 0 := by
  induction extents with
  | nil => rfl
  | cons extent rest induction =>
      have word := extent.length.toNat_lt
      have later : within rest (0 - extent.length.toNat) (bytes (extent :: rest) -
          extent.length.toNat) = rest.filter fun extent => extent.length ≠ 0 := by
        rw [Nat.zero_sub, bytes_cons, Nat.add_sub_cancel_left, induction]
      rw [within_cons, later, piece?, bytes_cons]
      by_cases isEmpty : extent.length = 0
      · have none : extent.length.toNat = 0 := by rw [isEmpty, UInt64.toNat_zero]
        rw [List.filter_cons_of_neg (by simpa using isEmpty), if_neg (by omega), Option.toList_none,
          List.nil_append]
      · have some : 0 < extent.length.toNat := by
          rw [Nat.pos_iff_ne_zero]
          exact fun isZero => isEmpty (UInt64.toNat_inj.mp isZero)
        have whole : UInt64.ofNat (min (extent.length.toNat + bytes rest)
            (0 + extent.length.toNat) - max 0 0) = extent.length := by
          rw [← UInt64.ofNat_toNat (x := extent.length)]
          congr 1
          rw [UInt64.ofNat_toNat]
          omega
        rw [if_pos (by omega), whole, List.filter_cons_of_pos (by simpa using isEmpty)]
        rfl

/-- The slice of all bytes consists of the extents that are not empty. -/
theorem slice_bytes (small : bytes extents < 18446744073709551616) :
    slice extents 0 (.ofNat (bytes extents)) =
      .ok (extents.filter fun extent => extent.length ≠ 0) := by
  have counted : (UInt64.ofNat (bytes extents)).toNat = bytes extents :=
    UInt64.toNat_ofNat_of_lt' small
  rw [slice_eq_ok small (by simp [counted]), counted, UInt64.toNat_zero, Nat.zero_add, within_bytes]

/-- That slice cannot be made of what comes back of the extents, if one of them is too long. -/
theorem slice_reread_refused (small : bytes extents < 18446744073709551616)
    (long : ¬ Short extents) :
    ∃ error, slice (extents.map reread) 0 (.ofNat (bytes extents)) = Checked.refuse error := by
  have fewer := bytes_reread_lt long
  have counted : (UInt64.ofNat (bytes extents)).toNat = bytes extents :=
    UInt64.toNat_ofNat_of_lt' small
  obtain ⟨total, isTotal, isBytes⟩ := total_eq_ok (fewer.trans small)
  refine ⟨_, slice_eq_refused isTotal ?_⟩
  rw [UInt64.toNat_zero, counted]
  omega

/-! ## Sums -/

/-- The words that are stored for the extents on a medium. -/
def words (extents : List Extent) (medium : Medium) : List Int64 :=
  (extents.filter fun extent => extent.medium = medium).map fun extent => extent.length.toInt64

/-- How a sum of words can grow by what extents take on a medium: they take nothing; it is not
negative, and stays a signed word; or it is zero, and a single extent takes half of the range of a
word. -/
def Adds (extents : List Extent) (medium : Medium) (sum : Int) : Prop :=
  amount extents medium = 0 ∨
    0 ≤ sum ∧ sum + amount extents medium < 9223372036854775808 ∨
    sum = 0 ∧ amount extents medium = 9223372036854775808 ∧
      ∃ extent ∈ extents, extent.medium = medium ∧ extent.length.toNat = 9223372036854775808

theorem words_cons_of_ne {extent : Extent} (elsewhere : extent.medium ≠ medium)
    (rest : List Extent) : words (extent :: rest) medium = words rest medium := by
  rw [words, List.filter_cons_of_neg (by simpa using elsewhere), words]

theorem words_cons_self (extent : Extent) (rest : List Extent) :
    words (extent :: rest) extent.medium =
      extent.length.toInt64 :: words rest extent.medium := by
  rw [words, List.filter_cons_of_pos (by simp), List.map_cons, words]

theorem words_append (front back : List Extent) (medium : Medium) :
    words (front ++ back) medium = words front medium ++ words back medium := by
  rw [words, List.filter_append, List.map_append, words, words]

/-- How many of the lengths on a medium wrap around. -/
def wraps (extents : List Extent) (medium : Medium) : Nat :=
  extents.countP fun extent =>
    extent.medium = medium ∧ 9223372036854775808 ≤ extent.length.toNat

/-- The words add up to what the extents take, less the range of a word for every length that
wraps around. -/
theorem sum_words (extents : List Extent) (medium : Medium) :
    ((words extents medium).map Int64.toInt).sum =
        amount extents medium - 18446744073709551616 * wraps extents medium ∧
      9223372036854775808 * wraps extents medium ≤ amount extents medium := by
  induction extents with
  | nil => exact ⟨rfl, Int.le_refl 0⟩
  | cons extent rest induction =>
      obtain ⟨sum, most⟩ := induction
      rw [amount_cons, wraps, List.countP_cons, ← wraps]
      by_cases here : extent.medium = medium
      · subst here
        have signed := toInt_toInt64 extent.length
        rw [words_cons_self, List.map_cons, List.sum_cons, if_pos rfl, sum, signed]
        by_cases short : extent.length.toNat < 9223372036854775808
        · simp only [if_pos short, Nat.not_le.mpr short, and_false, decide_false,
            Bool.false_eq_true, if_false]
          omega
        · simp only [if_neg short, Nat.le_of_not_lt short, and_self, decide_true, if_true]
          omega
      · rw [words_cons_of_ne here]
        simp only [here, false_and, decide_false, Bool.false_eq_true, if_false]
        omega

theorem exists_of_wraps (some : 0 < wraps extents medium) :
    ∃ extent ∈ extents, extent.medium = medium ∧
      9223372036854775808 ≤ extent.length.toNat := by
  obtain ⟨extent, member, isLong⟩ := List.countP_pos_iff.mp some
  exact ⟨extent, member, of_decide_eq_true isLong⟩

/-- Where a sum of words grows by those of extents and is a signed word again, it grows by what the
extents take, without its sign, exactly in these cases.  At most one length wraps around, since all
of them are less than the range of a word. -/
theorem grows_iff (small : bytes extents < 18446744073709551616) (medium : Medium)
    {sum total : Int} (isTotal : total = sum + ((words extents medium).map Int64.toInt).sum)
    (start : FitsWord sum) (fits : FitsWord total) :
    (total.natAbs : Int) = sum.natAbs + amount extents medium ↔ Adds extents medium sum := by
  obtain ⟨added, most⟩ := sum_words extents medium
  have nonneg := amount_nonneg extents medium
  have least := amount_le_bytes extents medium
  unfold FitsWord at start fits
  obtain none | one : wraps extents medium = 0 ∨ wraps extents medium = 1 := by omega
  · unfold Adds
    constructor
    · omega
    · rintro (nothing | ⟨nonneg, bound⟩ | ⟨zero, half, -⟩) <;> omega
  · obtain ⟨extent, member, here, long⟩ := exists_of_wraps (one ▸ Nat.one_pos)
    have own := length_le_amount member
    rw [here] at own
    constructor
    · intro grown
      exact Or.inr (Or.inr ⟨by omega, by omega, extent, member, here, by omega⟩)
    · rintro (nothing | ⟨nonneg, bound⟩ | ⟨zero, half, -⟩) <;> omega

end Extent

namespace RecordStore

open Extent

theorem sumFrom_append (sum : Int64) (front back : List Int64) :
    sumFrom sum (front ++ back) = (sumFrom sum front).bind fun total => sumFrom total back := by
  induction front generalizing sum with
  | nil => rfl
  | cons length rest induction =>
      rw [List.cons_append, sumFrom, sumFrom]
      split
      · exact induction _
      · rfl

/-- Extents that take nothing leave a sum. -/
theorem sumFrom_words_of_zero {extents : List Extent} {medium : Medium}
    (nothing : amount extents medium = 0) (sum : Int64) :
    sumFrom sum (words extents medium) = some sum := by
  induction extents with
  | nil => rfl
  | cons extent rest induction =>
      have others := amount_nonneg rest medium
      rw [amount_cons] at nothing
      by_cases here : extent.medium = medium
      · subst here
        rw [if_pos rfl] at nothing
        have isEmpty : extent.length = 0 := UInt64.toNat_inj.mp (by simp; omega)
        have zero : (0 : UInt64).toInt64 = 0 := rfl
        have least := sum.le_toInt
        have most := sum.toInt_lt
        rw [words_cons_self, isEmpty, zero, sumFrom, Int64.add_zero, if_pos, induction (by omega)]
        simp only [FitsWord, Int64.toInt_zero]
        omega
      · rw [words_cons_of_ne here, induction (by simpa [here] using nothing)]

/-- In these cases the sum is computed.  Where half of the range is added, the other extents take
nothing, and it wraps around to the least word. -/
theorem sumFrom_of_adds {extents : List Extent} {medium : Medium} {sum : Int64}
    (adds : Adds extents medium sum.toInt) :
    ∃ total, sumFrom sum (words extents medium) = some total := by
  obtain ⟨added, most⟩ := sum_words extents medium
  have nonneg := amount_nonneg extents medium
  rcases adds with nothing | ⟨start, fits⟩ | ⟨zero, half, extent, member, here, long⟩
  · exact ⟨sum, sumFrom_words_of_zero nothing sum⟩
  · have short : ∀ word ∈ words extents medium, 0 ≤ word.toInt := by
      intro word member
      obtain ⟨extent, isExtent, rfl⟩ := List.mem_map.mp member
      have own := length_le_amount (List.mem_filter.mp isExtent).1
      have here : extent.medium = medium := by simpa using (List.mem_filter.mp isExtent).2
      rw [here] at own
      exact toInt_toInt64_nonneg (by omega)
    exact sumFrom_isSome start short (by omega)
  · obtain ⟨front, back, rfl⟩ := List.append_of_mem member
    subst here
    rw [amount_append, amount_cons, if_pos rfl] at half
    have ahead := amount_nonneg front extent.medium
    have behind := amount_nonneg back extent.medium
    have signed := toInt_toInt64 extent.length
    rw [if_neg (by omega)] at signed
    have fits : FitsWord (sum.toInt + extent.length.toInt64.toInt) := by
      unfold FitsWord
      omega
    refine ⟨sum + extent.length.toInt64, ?_⟩
    rw [words_append, words_cons_self, sumFrom_append, sumFrom_words_of_zero (by omega),
      Option.bind_some, sumFrom, if_pos fits, sumFrom_words_of_zero (by omega)]

theorem fitsWord_toInt (word : Int64) : FitsWord word.toInt := ⟨word.le_toInt, word.toInt_lt⟩

/-- A sum of words, without its sign, grows by what extents take exactly in these cases. -/
theorem sum_grows_iff {extents : List Extent} (small : bytes extents < 18446744073709551616)
    (medium : Medium) (sum : Int64) :
    (∃ total, sumFrom sum (words extents medium) = some total ∧
        (total.toInt.natAbs : Int) = sum.toInt.natAbs + amount extents medium) ↔
      Adds extents medium sum.toInt := by
  constructor
  · rintro ⟨total, computed, grown⟩
    exact (grows_iff small medium (toInt_of_sumFrom computed) (fitsWord_toInt sum)
      (fitsWord_toInt total)).mp grown
  · intro adds
    obtain ⟨total, computed⟩ := sumFrom_of_adds adds
    exact ⟨total, computed, (grows_iff small medium (toInt_of_sumFrom computed)
      (fitsWord_toInt sum) (fitsWord_toInt total)).mpr adds⟩

end RecordStore

end Admission
