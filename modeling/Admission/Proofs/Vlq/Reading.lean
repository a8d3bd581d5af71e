import Admission.Proofs.Vlq.Forms

/-!
# Which octets are read

Octets are read in one of five ways, and what they write decides which one: nothing at all, a
number (`Legible`), a number that has not ended yet (`Unfinished`), or the two ways of being too
large, which are told apart by the first nine octets (`Overlong`, `Overfull`).  All octets are of
one of these kinds (`kinds`), and for each kind there is one lemma that says what is read.

`decode_partition` is the main statement.
-/

namespace Admission.Vlq

variable {octets front rest : List UInt8} {octet : UInt8} {number count : Nat}

/-! ## One octet after another -/

theorem decodeFrom_cons (short : count < 10) (free : number < 2 ^ 57) (octet : UInt8)
    (rest : List UInt8) : decodeFrom number count (octet :: rest) =
      if Flagged octet then decodeFrom (number * 128 + digit octet) (count + 1) rest
      else .ok (number * 128 + digit octet, count + 1) := by
  rw [decodeFrom, if_neg (by unfold maxLength; omega), if_neg (by omega)]
  simp [digit]

/-- Seven more bits do not fit. -/
theorem decodeFrom_full (short : count < 10) (full : 2 ^ 57 ≤ number) (octet : UInt8)
    (rest : List UInt8) : decodeFrom number count (octet :: rest) = .error .overflow := by
  rw [decodeFrom, if_neg (by unfold maxLength; omega), if_pos (by omega)]

/-- An eleventh octet is not looked at. -/
theorem decodeFrom_long (number : Nat) (octet : UInt8) (rest : List UInt8) :
    decodeFrom number 10 (octet :: rest) = .error .tooLong := by
  rw [decodeFrom, if_pos (show 10 = maxLength from rfl)]

/-- Octets that announce another are taken in, as long as the number stays within a word.  What is
taken in later only adds to the number, so the bound at the end is one at every octet. -/
theorem decodeFrom_flagged (flagged : ∀ octet ∈ front, Flagged octet)
    (short : count + front.length ≤ 10)
    (fits : number * 128 ^ front.length + valueOf front < 2 ^ 64) (rest : List UInt8) :
    decodeFrom number count (front ++ rest) =
      decodeFrom (number * 128 ^ front.length + valueOf front) (count + front.length) rest := by
  induction front generalizing number count with
  | nil => simp
  | cons first front induction =>
      have regrouped : number * 128 ^ (first :: front).length + valueOf (first :: front) =
          (number * 128 + digit first) * 128 ^ front.length + valueOf front := by
        rw [valueOf_cons, List.length_cons]
        ring
      have bound : number * 128 + digit first ≤
          (number * 128 + digit first) * 128 ^ front.length :=
        Nat.le_mul_of_pos_right _ (Nat.pow_pos (by decide))
      rw [regrouped] at fits ⊢
      rw [List.length_cons] at short ⊢
      rw [List.cons_append, decodeFrom_cons (by omega) (by omega),
        if_pos (flagged first (by simp)),
        induction (fun octet member => flagged octet (List.mem_cons_of_mem first member))
          (by omega) fits]
      congr 1
      omega

/-- The first octets are taken in, if all of them announce another. -/
theorem decodeFrom_take (octets : List UInt8) (short : count ≤ 10)
    (flagged : ∀ octet ∈ octets.take count, Flagged octet)
    (fits : valueOf (octets.take count) < 2 ^ 64) :
    decodeFrom 0 0 octets =
      decodeFrom (valueOf (octets.take count)) (octets.take count).length (octets.drop count) := by
  have length := List.length_take_le count octets
  have taken : decodeFrom 0 0 (octets.take count ++ octets.drop count) = _ :=
    decodeFrom_flagged flagged (by omega) (by omega) _
  simpa using taken

/-! ## Words -/

/-- Nine octets always fit in a word. -/
theorem valueOf_take_lt (short : count ≤ 9) : valueOf (octets.take count) < 2 ^ 64 := by
  have length := (List.length_take_le count octets).trans short
  calc valueOf (octets.take count) < 128 ^ (octets.take count).length := valueOf_lt _
    _ ≤ 128 ^ 9 := Nat.pow_le_pow_right (by decide) length
    _ < 2 ^ 64 := by decide

/-- A tenth octet fits if seven bits are left for it. -/
theorem valueOf_take_ten_lt_iff (long : 10 ≤ octets.length) :
    valueOf (octets.take 10) < 2 ^ 64 ↔ valueOf (octets.take 9) < 2 ^ 57 := by
  have bits := digit_lt octets[9]
  rw [List.take_succ_eq_append_getElem (show 9 < octets.length by omega), valueOf_concat]
  omega

/-! ## Kinds -/

/-- The number at the start takes ten octets at most and fits in a word. -/
structure Legible (octets : List UInt8) (count : Nat) : Prop where
  delimited : Delimited octets count
  short : count ≤ 10
  fits : valueOf (octets.take count) < 2 ^ 64

/-- Every octet announces another, and a number could still come of them. -/
structure Unfinished (octets : List UInt8) : Prop where
  present : octets ≠ []
  short : octets.length ≤ 10
  flagged : ∀ octet ∈ octets, Flagged octet
  fits : valueOf octets < 2 ^ 64

/-- Ten octets announce another, and there is an eleventh. -/
structure Overlong (octets : List UInt8) : Prop where
  long : 10 < octets.length
  flagged : ∀ octet ∈ octets.take 10, Flagged octet
  free : valueOf (octets.take 9) < 2 ^ 57

/-- Nine octets announce another, and no seven bits are left for the tenth. -/
structure Overfull (octets : List UInt8) : Prop where
  long : 10 ≤ octets.length
  flagged : ∀ octet ∈ octets.take 9, Flagged octet
  full : 2 ^ 57 ≤ valueOf (octets.take 9)

/-- A number that ends can be read, or is too large in one of the two ways.  Up to nine octets
always fit; from the tenth on the first nine decide. -/
theorem Delimited.kinds (delimited : Delimited octets count) :
    Legible octets count ∨ Overlong octets ∨ Overfull octets := by
  have within := delimited.within
  by_cases short : count ≤ 9
  · exact Or.inl ⟨delimited, by omega, valueOf_take_lt short⟩
  have earlier : ∀ fewer, fewer ≤ count - 1 → ∀ octet ∈ octets.take fewer, Flagged octet :=
    fun fewer less octet member =>
      delimited.flagged octet (List.take_subset_take_left octets less member)
  by_cases free : valueOf (octets.take 9) < 2 ^ 57
  · by_cases ten : count = 10
    · subst ten
      exact Or.inl ⟨delimited, le_rfl, (valueOf_take_ten_lt_iff within).mpr free⟩
    · exact Or.inr (Or.inl ⟨by omega, earlier 10 (by omega), free⟩)
  · exact Or.inr (Or.inr ⟨by omega, earlier 9 (by omega), by omega⟩)

/-- Octets that all announce another are too few to tell, or too many. -/
theorem kinds_of_flagged (present : octets ≠ []) (flagged : ∀ octet ∈ octets, Flagged octet) :
    Unfinished octets ∨ Overlong octets ∨ Overfull octets := by
  have earlier : ∀ fewer, ∀ octet ∈ octets.take fewer, Flagged octet :=
    fun fewer octet member => flagged octet (List.mem_of_mem_take member)
  by_cases short : octets.length ≤ 9
  · have fits : valueOf (octets.take octets.length) < 2 ^ 64 := valueOf_take_lt short
    rw [List.take_length] at fits
    exact Or.inl ⟨present, by omega, flagged, fits⟩
  by_cases free : valueOf (octets.take 9) < 2 ^ 57
  · by_cases ten : octets.length = 10
    · have fits := (valueOf_take_ten_lt_iff ten.ge).mpr free
      rw [← ten, List.take_length] at fits
      exact Or.inl ⟨present, ten.le, flagged, fits⟩
    · exact Or.inr (Or.inl ⟨by omega, earlier 10, free⟩)
  · exact Or.inr (Or.inr ⟨by omega, earlier 9, by omega⟩)

/-- All octets are of one kind. -/
theorem kinds (octets : List UInt8) : octets = [] ∨ (∃ count, Legible octets count) ∨
    Unfinished octets ∨ Overlong octets ∨ Overfull octets := by
  by_cases present : octets = []
  · exact Or.inl present
  rcases delimited_or_flagged octets with ⟨count, delimited⟩ | flagged
  · rcases delimited.kinds with legible | large
    · exact Or.inr (Or.inl ⟨count, legible⟩)
    · exact Or.inr (Or.inr (Or.inr large))
  · exact Or.inr (Or.inr (kinds_of_flagged present flagged))

/-! ## What is read -/

theorem decode_of_present (present : octets ≠ []) : decode octets =
    (decodeFrom 0 0 octets).map fun (number, count) => (UInt64.ofNat number, count) := by
  rw [decode, if_neg (by simpa using present)]

theorem Legible.decode (legible : Legible octets count) :
    decode octets = .ok (.ofNat (valueOf (octets.take count)), count) := by
  obtain ⟨delimited, short, fits⟩ := legible
  obtain ⟨front, last, rest, rfl, flagged, ended, rfl⟩ := delimited.exists_split
  rw [take_split, valueOf_concat] at fits ⊢
  rw [decode_of_present (by simp), decodeFrom_flagged flagged (by omega) (by omega),
    decodeFrom_cons (by omega) (by omega), if_neg ended]
  simp [Except.map]

theorem Unfinished.decode (unfinished : Unfinished octets) :
    decode octets = .error .truncated := by
  obtain ⟨present, short, flagged, fits⟩ := unfinished
  have taken := decodeFrom_take octets short (by simpa using flagged) (by simpa using fits)
  rw [decode_of_present present, taken, List.drop_length]
  rfl

theorem Overlong.decode (overlong : Overlong octets) : decode octets = .error .tooLong := by
  obtain ⟨long, flagged, free⟩ := overlong
  have fits := (valueOf_take_ten_lt_iff long.le).mpr free
  rw [decode_of_present (List.ne_nil_of_length_pos (by omega)),
    decodeFrom_take octets le_rfl flagged fits, List.length_take_of_le long.le,
    List.drop_eq_getElem_cons long, decodeFrom_long]
  rfl

theorem Overfull.decode (overfull : Overfull octets) : decode octets = .error .overflow := by
  obtain ⟨long, flagged, full⟩ := overfull
  rw [decode_of_present (List.ne_nil_of_length_pos (by omega)),
    decodeFrom_take octets (by decide) flagged (valueOf_take_lt le_rfl),
    List.length_take_of_le (by omega), List.drop_eq_getElem_cons long,
    decodeFrom_full (by decide) full]
  rfl

/-- What is read from octets of each kind. -/
inductive Reads (octets : List UInt8) : Except DecodeError (UInt64 × Nat) → Prop where
  | nothing : octets = [] → Reads octets (.error .empty)
  | number {count : Nat} : Legible octets count →
      Reads octets (.ok (.ofNat (valueOf (octets.take count)), count))
  | unfinished : Unfinished octets → Reads octets (.error .truncated)
  | overlong : Overlong octets → Reads octets (.error .tooLong)
  | overfull : Overfull octets → Reads octets (.error .overflow)

theorem reads_decode (octets : List UInt8) : Reads octets (decode octets) := by
  rcases kinds octets with rfl | ⟨count, legible⟩ | unfinished | overlong | overfull
  · exact .nothing rfl
  · rw [legible.decode]
    exact .number legible
  · rw [unfinished.decode]
    exact .unfinished unfinished
  · rw [overlong.decode]
    exact .overlong overlong
  · rw [overfull.decode]
    exact .overfull overfull

theorem reads_of_decode {outcome : Except DecodeError (UInt64 × Nat)}
    (read : decode octets = outcome) : Reads octets outcome :=
  read ▸ reads_decode octets

theorem decode_eq_ok_iff {word : UInt64} : decode octets = .ok (word, count) ↔
    Legible octets count ∧ word.toNat = valueOf (octets.take count) := by
  constructor
  · intro read
    cases reads_of_decode read with
    | number legible => exact ⟨legible, UInt64.toNat_ofNat_of_lt' legible.fits⟩
  · rintro ⟨legible, same⟩
    rw [legible.decode, ← same, UInt64.ofNat_toNat]

theorem decode_eq_empty_iff : decode octets = .error .empty ↔ octets = [] := by
  constructor
  · intro read
    cases reads_of_decode read with
    | nothing isEmpty => exact isEmpty
  · rintro rfl
    rfl

theorem decode_eq_tooLong_iff : decode octets = .error .tooLong ↔ Overlong octets := by
  refine ⟨fun read => ?_, Overlong.decode⟩
  cases reads_of_decode read with
  | overlong overlong => exact overlong

theorem decode_eq_overflow_iff : decode octets = .error .overflow ↔ Overfull octets := by
  refine ⟨fun read => ?_, Overfull.decode⟩
  cases reads_of_decode read with
  | overfull overfull => exact overfull

theorem decode_eq_truncated_iff : decode octets = .error .truncated ↔ Unfinished octets := by
  refine ⟨fun read => ?_, Unfinished.decode⟩
  cases reads_of_decode read with
  | unfinished unfinished => exact unfinished

/-- What is not of another kind is unfinished. -/
theorem unfinished_iff : Unfinished octets ↔
    octets ≠ [] ∧ (¬ ∃ count, Legible octets count) ∧ ¬ Overlong octets ∧ ¬ Overfull octets := by
  constructor
  · intro unfinished
    have read := unfinished.decode
    refine ⟨unfinished.present, ?_, fun overlong => ?_, fun overfull => ?_⟩
    · rintro ⟨count, legible⟩
      exact not_delimited_of_flagged unfinished.flagged legible.delimited
    · have short := unfinished.short
      have long := overlong.long
      omega
    · rw [overfull.decode] at read
      cases read
  · rintro ⟨present, illegible, notOverlong, notOverfull⟩
    rcases kinds octets with none | legible | unfinished | overlong | overfull
    · exact absurd none present
    · exact absurd legible illegible
    · exact unfinished
    · exact absurd overlong notOverlong
    · exact absurd overfull notOverfull

namespace Legible

theorem take (legible : Legible octets count) : Legible (octets.take count) count := by
  refine ⟨legible.delimited.take, legible.short, ?_⟩
  rw [List.take_take, Nat.min_self]
  exact legible.fits

theorem take_append (legible : Legible octets count) (others : List UInt8) :
    (octets ++ others).take count = octets.take count :=
  List.take_append_of_le_length legible.delimited.within

/-- A number is read whatever follows it. -/
theorem append (legible : Legible octets count) (others : List UInt8) :
    Legible (octets ++ others) count := by
  refine ⟨legible.delimited.append others, legible.short, ?_⟩
  rw [legible.take_append]
  exact legible.fits

end Legible

/-- Exactly the self-delimiting forms of words are read: one to ten octets, of which all but the
last have the high bit set, and whose value is below `2 ^ 64`.  What follows them does not matter.
Of all other octets it is told that there are none, that ten of them do not end a number, that no
seven bits are left for the tenth, or else that they stop before the number does. -/
theorem decode_partition (octets : List UInt8) :
    (∀ word count, decode octets = .ok (word, count) ↔
      Legible octets count ∧ word.toNat = valueOf (octets.take count)) ∧
    (∀ count, Legible octets count → ∀ others,
      decode (octets.take count ++ others) = decode octets) ∧
    (decode octets = .error .empty ↔ octets = []) ∧
    (decode octets = .error .tooLong ↔ Overlong octets) ∧
    (decode octets = .error .overflow ↔ Overfull octets) ∧
    (decode octets = .error .truncated ↔ octets ≠ [] ∧ (¬ ∃ count, Legible octets count) ∧
      ¬ Overlong octets ∧ ¬ Overfull octets) := by
  refine ⟨fun word count => decode_eq_ok_iff, fun count legible others => ?_,
    decode_eq_empty_iff, decode_eq_tooLong_iff, decode_eq_overflow_iff,
    decode_eq_truncated_iff.trans unfinished_iff⟩
  rw [(legible.take.append others).decode, legible.decode, legible.take.take_append,
    List.take_take, Nat.min_self]

/-- The largest word takes all of the ten octets there may be, and octets may follow them. -/
theorem largest_word_decoded :
    Legible [0x81, 0xff, 0xff, 0xff, 0xff, 0xff, 0xff, 0xff, 0xff, 0x7f] 10 ∧
    decode [0x81, 0xff, 0xff, 0xff, 0xff, 0xff, 0xff, 0xff, 0xff, 0x7f, 0x80, 0x05] =
      .ok (18446744073709551615, 10) := by
  have delimited : Delimited [0x81, 0xff, 0xff, 0xff, 0xff, 0xff, 0xff, 0xff, 0xff, 0x7f] 10 := by
    decide
  have legible : Legible [0x81, 0xff, 0xff, 0xff, 0xff, 0xff, 0xff, 0xff, 0xff, 0x7f] 10 :=
    ⟨delimited, by decide, by decide⟩
  obtain ⟨numbers, follows, -⟩ :=
    decode_partition [0x81, 0xff, 0xff, 0xff, 0xff, 0xff, 0xff, 0xff, 0xff, 0x7f]
  refine ⟨legible, (follows 10 legible [0x80, 0x05]).trans ?_⟩
  exact (numbers _ 10).mpr ⟨legible, by decide⟩

end Admission.Vlq
