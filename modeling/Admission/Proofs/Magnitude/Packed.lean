import Admission.Magnitude.Packed
import Admission.Magnitude.Value
import Admission.Proofs.Vlq.Shortest

/-!
# Which octets are packed magnitudes

The magnitudes that can be packed are those whose high part has thirty-one bits at most
(`pack_eq_ok_iff`).

A record ends where the number in it does, and is measured before it is read.  Measuring finds
exactly the records of ten octets or more and those of more than sixty-one bits (`Wide`,
`wide_iff`), so that what is left fits in a word and is always read (`unpack_of_narrow`); only its
low part can still be too large.  `Unpacks` lists what becomes of octets (`unpacks_unpack`).

`unpack_partition` is the main statement.
-/

namespace Admission.Magnitude

open Vlq (Flagged Delimited Legible digit digit_lt valueOf valueOf_cons valueOf_lt bitLength_le_iff)

variable {octets rest : List UInt8} {first : UInt8} {count : Nat} {magnitude : Magnitude}
  {packed : UInt64}

/-! ## What is packed -/

/-- It is not negative, and its high part has thirty-one bits at most. -/
def Packable (magnitude : Magnitude) : Prop :=
  0 ≤ magnitude.value ∧ magnitude.value < 2147483648000000000

instance (magnitude : Magnitude) : Decidable magnitude.Packable :=
  inferInstanceAs (Decidable (_ ∧ _))

theorem packable_iff_high (magnitude : Magnitude) :
    magnitude.Packable ↔ 0 ≤ magnitude.high ∧ magnitude.high < 2147483648 := by
  have highs := magnitude.high_eq
  unfold Packable
  omega

/-- What can be packed is written as one number. -/
theorem pack_eq_ok_iff : magnitude.pack = .ok octets ↔ magnitude.Packable ∧
    Vlq.encode (.ofNat (magnitude.high.toNat * 1073741824 + magnitude.low)) = octets := by
  rw [packable_iff_high]
  unfold pack
  split
  · next negative => simp [negative]
  · next nonneg =>
      split
      · next wide => simp [wide]
      · next narrow =>
          rw [Except.ok.injEq]
          exact ⟨fun same => ⟨by omega, same⟩, And.right⟩

theorem pack_eq_invalid_iff :
    magnitude.pack = .error (.invalid magnitude) ↔ magnitude.high < 0 := by
  unfold pack
  split
  · next negative => simp [negative]
  · next nonneg => split <;> simp [nonneg]

theorem pack_eq_tooWide_iff :
    magnitude.pack = .error (.tooWide magnitude) ↔ 2 ^ 31 ≤ magnitude.high := by
  unfold pack
  split
  · next negative =>
      simp only [Except.error.injEq, reduceCtorEq, false_iff]
      omega
  · split
    · next wide => simpa using wide
    · next narrow => simpa using narrow

/-! ## The length of a record -/

/-- A record ends where its number ends. -/
theorem recordLength?_of_delimited (delimited : Delimited octets count) :
    recordLength? octets = some count := by
  obtain ⟨front, last, rest, rfl, flagged, ended, rfl⟩ := delimited.exists_split
  have before : front.findIdx? (fun octet => !Vlq.continues octet) = none := by
    simpa [List.findIdx?_eq_none_iff] using flagged
  have here : (last :: rest).findIdx? (fun octet => !Vlq.continues octet) = some 0 := by
    simp [List.findIdx?_cons, ended]
  simp [recordLength?, List.findIdx?_append, before, here]

theorem recordLength?_of_flagged (flagged : ∀ octet ∈ octets, Flagged octet) :
    recordLength? octets = none := by
  simpa [recordLength?, List.findIdx?_eq_none_iff] using flagged

/-! ## The width of a record -/

/-- A record of `count` octets is measured at more than sixty-one bits: it has ten octets or more,
or nine, and the first of them has more than five bits. -/
def Wide (octets : List UInt8) (count : Nat) : Prop :=
  10 ≤ count ∨ count = 9 ∧ ∃ first ∈ octets.head?, 32 ≤ digit first

theorem wide_cons_iff : Wide (first :: rest) count ↔ 10 ≤ count ∨ count = 9 ∧ 32 ≤ digit first := by
  simp [Wide]

/-- Measuring finds the records of too many bits. -/
theorem recordWidth_le_iff (positive : 1 ≤ count) (rest : List UInt8) :
    recordWidth first count ≤ maxPackedBits ↔ ¬ Wide (first :: rest) count := by
  have whole : Vlq.bitLength (digit first) ≤ 7 := bitLength_le_iff.mpr (digit_lt first)
  have five : Vlq.bitLength (digit first) ≤ 5 ↔ digit first < 32 := bitLength_le_iff
  have width : recordWidth first count = Vlq.bitLength (digit first) + 7 * (count - 1) := rfl
  rw [wide_cons_iff, width, maxPackedBits]
  omega

/-- The records of too many bits are those of ten octets or more and those of larger numbers.  The
first octet matters only at nine: fewer hold less, and more are too many. -/
theorem wide_iff (delimited : Delimited octets count) :
    Wide octets count ↔ 10 ≤ count ∨ 2 ^ 61 ≤ valueOf (octets.take count) := by
  obtain ⟨first, rest, rfl⟩ := delimited.exists_first
  rw [wide_cons_iff]
  by_cases eight : count ≤ 8
  · have small : valueOf ((first :: rest).take count) < 2 ^ 61 := by
      calc valueOf ((first :: rest).take count)
          < 128 ^ ((first :: rest).take count).length := valueOf_lt _
        _ = 128 ^ count := by rw [delimited.length_take]
        _ ≤ 128 ^ 8 := Nat.pow_le_pow_right (by decide) eight
        _ < 2 ^ 61 := by decide
    omega
  by_cases nine : count = 9
  · subst nine
    have length : (rest.take 8).length = 8 := Nat.succ_injective delimited.length_take
    have others := valueOf_lt (rest.take 8)
    rw [length] at others
    rw [List.take_succ_cons, valueOf_cons, length]
    omega
  · omega

/-- What is not too wide has sixty-one bits at most. -/
theorem valueOf_lt_of_narrow (delimited : Delimited octets count) (narrow : ¬ Wide octets count) :
    valueOf (octets.take count) < 2 ^ 61 :=
  Nat.lt_of_not_le fun large => narrow ((wide_iff delimited).mpr (Or.inr large))

/-! ## The parts of a record -/

theorem ofPacked_eq_ok_iff : ofPacked packed = .ok magnitude ↔
    magnitude.high = (packed.toNat / 2 ^ 30 : Nat) ∧ magnitude.low = packed.toNat % 2 ^ 30 := by
  unfold ofPacked
  split
  · cases magnitude
    simp [eq_comm]
  · next large =>
      have canonical := magnitude.low_lt
      simp only [reduceCtorEq, false_iff, not_and]
      omega

theorem ofPacked_of_large (large : 1000000000 ≤ packed.toNat % 2 ^ 30) :
    ofPacked packed = .error (.notCanonical (packed.toNat % 2 ^ 30)) :=
  dif_neg (Nat.not_lt.mpr large)

theorem exists_ofPacked (canonical : packed.toNat % 2 ^ 30 < 1000000000) :
    ∃ magnitude, ofPacked packed = .ok magnitude :=
  ⟨_, dif_pos canonical⟩

/-! ## What is unpacked -/

theorem unpack_of_flagged (present : octets ≠ []) (flagged : ∀ octet ∈ octets, Flagged octet) :
    unpack octets = .error (.unreadable .truncated) := by
  obtain ⟨first, rest, rfl⟩ := List.exists_cons_of_ne_nil present
  rw [unpack, recordLength?_of_flagged flagged]

theorem unpack_of_wide (delimited : Delimited octets count) (wide : Wide octets count) :
    unpack octets = .error .tooWide := by
  obtain ⟨first, rest, rfl⟩ := delimited.exists_first
  have measured := (recordWidth_le_iff delimited.positive rest).not_left.mpr wide
  simp only [unpack, recordLength?_of_delimited delimited, if_pos (Nat.lt_of_not_le measured)]

/-- What is not too wide can be read as a number. -/
theorem legible_of_narrow (delimited : Delimited octets count) (narrow : ¬ Wide octets count) :
    Legible octets count where
  delimited := delimited
  short := Nat.le_of_not_le fun long => narrow (Or.inl long)
  fits := (valueOf_lt_of_narrow delimited narrow).trans (by decide)

/-- A record that is not too wide is read, and its number is taken apart. -/
theorem unpack_of_narrow (delimited : Delimited octets count) (narrow : ¬ Wide octets count) :
    unpack octets = (ofPacked (.ofNat (valueOf (octets.take count)))).map
      fun magnitude => (magnitude, count) := by
  have legible := (legible_of_narrow delimited narrow).take
  obtain ⟨first, rest, rfl⟩ := delimited.exists_first
  have measured := (recordWidth_le_iff delimited.positive rest).mpr narrow
  simp only [unpack, recordLength?_of_delimited delimited, if_neg (Nat.not_lt.mpr measured),
    legible.decode, List.take_take, Nat.min_self]

theorem toNat_of_narrow (delimited : Delimited octets count) (narrow : ¬ Wide octets count) :
    (UInt64.ofNat (valueOf (octets.take count))).toNat = valueOf (octets.take count) :=
  UInt64.toNat_ofNat_of_lt' (legible_of_narrow delimited narrow).fits

theorem unpack_of_large (delimited : Delimited octets count) (narrow : ¬ Wide octets count)
    (large : 1000000000 ≤ valueOf (octets.take count) % 2 ^ 30) :
    unpack octets = .error (.notCanonical (valueOf (octets.take count) % 2 ^ 30)) := by
  have word := toNat_of_narrow delimited narrow
  rw [unpack_of_narrow delimited narrow, ofPacked_of_large (by rwa [word]), word]
  rfl

/-- A record of which the low part is canonical is a magnitude. -/
theorem exists_unpack (delimited : Delimited octets count) (narrow : ¬ Wide octets count)
    (canonical : valueOf (octets.take count) % 2 ^ 30 < 1000000000) :
    ∃ magnitude, unpack octets = .ok (magnitude, count) ∧
      magnitude.high = (valueOf (octets.take count) / 2 ^ 30 : Nat) ∧
      magnitude.low = valueOf (octets.take count) % 2 ^ 30 := by
  have word := toNat_of_narrow delimited narrow
  rw [← word] at canonical
  obtain ⟨magnitude, taken⟩ := exists_ofPacked canonical
  have parts := ofPacked_eq_ok_iff.mp taken
  rw [word] at parts
  refine ⟨magnitude, ?_, parts⟩
  rw [unpack_of_narrow delimited narrow, taken]
  rfl

/-- What becomes of octets of each kind. -/
inductive Unpacks (octets : List UInt8) : Except UnpackError (Magnitude × Nat) → Prop where
  | nothing : octets = [] → Unpacks octets (.error (.unreadable .empty))
  | unfinished : octets ≠ [] → (∀ octet ∈ octets, Flagged octet) →
      Unpacks octets (.error (.unreadable .truncated))
  | wide {count : Nat} : Delimited octets count → Wide octets count →
      Unpacks octets (.error .tooWide)
  | large {count : Nat} : Delimited octets count → ¬ Wide octets count →
      1000000000 ≤ valueOf (octets.take count) % 2 ^ 30 →
      Unpacks octets (.error (.notCanonical (valueOf (octets.take count) % 2 ^ 30)))
  | record {magnitude : Magnitude} {count : Nat} : Delimited octets count → ¬ Wide octets count →
      magnitude.high = (valueOf (octets.take count) / 2 ^ 30 : Nat) →
      magnitude.low = valueOf (octets.take count) % 2 ^ 30 →
      Unpacks octets (.ok (magnitude, count))

theorem unpacks_unpack (octets : List UInt8) : Unpacks octets (unpack octets) := by
  by_cases present : octets = []
  · subst present
    exact .nothing rfl
  rcases Vlq.delimited_or_flagged octets with ⟨count, delimited⟩ | flagged
  · by_cases wide : Wide octets count
    · rw [unpack_of_wide delimited wide]
      exact .wide delimited wide
    by_cases large : 1000000000 ≤ valueOf (octets.take count) % 2 ^ 30
    · rw [unpack_of_large delimited wide large]
      exact .large delimited wide large
    · obtain ⟨magnitude, read, high, low⟩ :=
        exists_unpack delimited wide (Nat.lt_of_not_le large)
      rw [read]
      exact .record delimited wide high low
  · rw [unpack_of_flagged present flagged]
    exact .unfinished present flagged

theorem unpacks_of_unpack {outcome : Except UnpackError (Magnitude × Nat)}
    (read : unpack octets = outcome) : Unpacks octets outcome :=
  read ▸ unpacks_unpack octets

theorem unpack_eq_empty_iff : unpack octets = .error (.unreadable .empty) ↔ octets = [] := by
  constructor
  · intro read
    cases unpacks_of_unpack read with
    | nothing isEmpty => exact isEmpty
  · rintro rfl
    rfl

theorem unpack_eq_truncated_iff : unpack octets = .error (.unreadable .truncated) ↔
    octets ≠ [] ∧ ∀ octet ∈ octets, Flagged octet := by
  refine ⟨fun read => ?_, fun ⟨present, flagged⟩ => unpack_of_flagged present flagged⟩
  cases unpacks_of_unpack read with
  | unfinished present flagged => exact ⟨present, flagged⟩

theorem unpack_eq_tooWide_iff (delimited : Delimited octets count) :
    unpack octets = .error .tooWide ↔ Wide octets count := by
  refine ⟨fun read => ?_, unpack_of_wide delimited⟩
  cases unpacks_of_unpack read with
  | wide found wide => exact delimited.unique found ▸ wide

theorem unpack_eq_notCanonical_iff {low : Nat} (delimited : Delimited octets count)
    (narrow : ¬ Wide octets count) : unpack octets = .error (.notCanonical low) ↔
      low = valueOf (octets.take count) % 2 ^ 30 ∧ 1000000000 ≤ low := by
  constructor
  · intro read
    cases unpacks_of_unpack read with
    | large found _ large =>
        obtain rfl := delimited.unique found
        exact ⟨rfl, large⟩
  · rintro ⟨rfl, large⟩
    exact unpack_of_large delimited narrow large

/-! ## What was unpacked -/

/-- What was unpacked can be packed. -/
theorem packable_of_unpack (read : unpack octets = .ok (magnitude, count)) :
    magnitude.Packable := by
  cases unpacks_of_unpack read with
  | record delimited narrow high low =>
      have bound := valueOf_lt_of_narrow delimited narrow
      rw [packable_iff_high, high]
      omega

/-- A record that is unpacked is read as a number, too. -/
theorem decode_of_unpack (read : unpack octets = .ok (magnitude, count)) :
    ∃ packed, Vlq.decode octets = .ok (packed, count) ∧
      packed.toNat = valueOf (octets.take count) := by
  cases unpacks_of_unpack read with
  | record delimited narrow high low =>
      exact ⟨_, (legible_of_narrow delimited narrow).decode, toNat_of_narrow delimited narrow⟩

/-- Measuring stays within thirty-two bits. -/
theorem recordWidth_lt (short : octets.length ≤ 2 ^ 28) (delimited : Delimited octets count)
    (first : UInt8) : recordWidth first count < 2 ^ 32 := by
  have within := delimited.within
  have whole : Vlq.bitLength (digit first) ≤ 7 := bitLength_le_iff.mpr (digit_lt first)
  have width : recordWidth first count = Vlq.bitLength (digit first) + 7 * (count - 1) := rfl
  omega

/-- Octets are unpacked exactly if they begin with a record: a number that ends, is not too wide,
and has a canonical low part.  Its parts are those of the number, which is what the octets are
decoded to, and they can be packed again.  Of all other octets it is told that there are none, that
they do not end, that they are too wide, or what their low part is.  As long as there are no more
than `2 ^ 28` octets, the width that is measured fits in thirty-two bits. -/
theorem unpack_partition (octets : List UInt8) (short : octets.length ≤ 2 ^ 28) :
    (unpack octets = .error (.unreadable .empty) ↔ octets = []) ∧
    (unpack octets = .error (.unreadable .truncated) ↔
      octets ≠ [] ∧ ∀ octet ∈ octets, Flagged octet) ∧
    (∀ count, Delimited octets count →
      (∀ first ∈ octets.head?, recordWidth first count < 2 ^ 32) ∧
      (unpack octets = .error .tooWide ↔ Wide octets count) ∧
      (¬ Wide octets count →
        (∀ low, unpack octets = .error (.notCanonical low) ↔
          low = valueOf (octets.take count) % 2 ^ 30 ∧ 1000000000 ≤ low) ∧
        (valueOf (octets.take count) % 2 ^ 30 < 1000000000 →
          ∃ magnitude, unpack octets = .ok (magnitude, count) ∧
            magnitude.high = (valueOf (octets.take count) / 2 ^ 30 : Nat) ∧
            magnitude.low = valueOf (octets.take count) % 2 ^ 30))) ∧
    (∀ magnitude count, unpack octets = .ok (magnitude, count) →
      magnitude.valid = true ∧ magnitude.low < 1000000000 ∧
      (∃ record, magnitude.pack = .ok record) ∧
      ∃ packed, Vlq.decode octets = .ok (packed, count) ∧
        packed.toNat = valueOf (octets.take count)) ∧
    unpack octets ≠ .error (.unreadable .tooLong) ∧
    unpack octets ≠ .error (.unreadable .overflow) := by
  refine ⟨unpack_eq_empty_iff, unpack_eq_truncated_iff, fun count delimited => ?_,
    fun magnitude count read => ?_, fun read => ?_, fun read => ?_⟩
  · exact ⟨fun first _ => recordWidth_lt short delimited first, unpack_eq_tooWide_iff delimited,
      fun narrow => ⟨fun low => unpack_eq_notCanonical_iff delimited narrow,
        exists_unpack delimited narrow⟩⟩
  · have packable := packable_of_unpack read
    exact ⟨(valid_iff magnitude).mpr packable.1, magnitude.low_lt,
      ⟨_, pack_eq_ok_iff.mpr ⟨packable, rfl⟩⟩, decode_of_unpack read⟩
  · cases unpacks_of_unpack read
  · cases unpacks_of_unpack read

/-- One billion in six octets, of which the first adds nothing.  Zero in ten octets is too wide. -/
theorem padded_record_unpacked :
    (∃ billion, unpack [0x80, 0x84, 0x80, 0x80, 0x80, 0x00, 0xff] = .ok (billion, 6) ∧
      billion.high = 1 ∧ billion.low = 0 ∧ ∃ record, billion.pack = .ok record) ∧
    unpack [0x80, 0x80, 0x80, 0x80, 0x80, 0x80, 0x80, 0x80, 0x80, 0x00] = .error .tooWide := by
  constructor
  · have delimited : Delimited [0x80, 0x84, 0x80, 0x80, 0x80, 0x00, 0xff] 6 := by
      decide
    obtain ⟨-, -, ends, unpacked, -⟩ :=
      unpack_partition [0x80, 0x84, 0x80, 0x80, 0x80, 0x00, 0xff] (by decide)
    obtain ⟨-, -, narrow⟩ := ends 6 delimited
    obtain ⟨billion, read, high, low⟩ := (narrow (by simp [Wide])).2 (by decide)
    exact ⟨billion, read, high.trans (by decide), low.trans (by decide),
      (unpacked billion 6 read).2.2.1⟩
  · have delimited :
        Delimited [0x80, 0x80, 0x80, 0x80, 0x80, 0x80, 0x80, 0x80, 0x80, 0x00] 10 := by
      decide
    obtain ⟨-, -, ends, -⟩ :=
      unpack_partition [0x80, 0x80, 0x80, 0x80, 0x80, 0x80, 0x80, 0x80, 0x80, 0x00] (by decide)
    exact (ends 10 delimited).2.1.mpr (Or.inl le_rfl)

end Admission.Magnitude
