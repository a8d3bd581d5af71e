import Admission.Proofs.Wire.Survival

/-!
# Reading makes values canonical

More octets are read than are ever written: numbers and packed magnitudes may be padded, versions
of slots may be even, and the index of no requisition may come with any version.  A type
`Rewrites` if whatever is read of it can be written, in no more octets than were taken for it, and
reads back.  Numbers in base 128 do, because the form that is written is the shortest
(`Leb128.took_of_decodeFrom`); lists and structures do if their parts do.

`snapshot_canonical` is the main statement.
-/

namespace Admission

namespace Wire

/-! ## What a reader took -/

/-- At least `count` octets were taken from the front of the input, and the rest was left. -/
def Took (input : List UInt8) (count : Nat) (rest : List UInt8) : Prop :=
  ∃ taken, input = taken ++ rest ∧ count ≤ taken.length

namespace Took

variable {input middle rest : List UInt8} {count more fewer : Nat}

theorem nothing (input : List UInt8) : Took input 0 input := ⟨[], rfl, Nat.le_refl 0⟩

theorem octet (octet : UInt8) (rest : List UInt8) : Took (octet :: rest) 1 rest :=
  ⟨[octet], rfl, Nat.le_refl 1⟩

theorem octets (octets rest : List UInt8) : Took (octets ++ rest) octets.length rest :=
  ⟨octets, rfl, Nat.le_refl _⟩

theorem trans (first : Took input count middle) (second : Took middle more rest) :
    Took input (count + more) rest := by
  obtain ⟨front, rfl, long⟩ := first
  obtain ⟨back, rfl, longToo⟩ := second
  refine ⟨front ++ back, (List.append_assoc ..).symm, ?_⟩
  rw [List.length_append]
  exact Nat.add_le_add long longToo

theorem mono (took : Took input count rest) (less : fewer ≤ count) : Took input fewer rest := by
  obtain ⟨taken, same, long⟩ := took
  exact ⟨taken, same, less.trans long⟩

end Took

namespace Reader

variable {α β : Type} {reader : Reader α} {next : α → Reader β} {input rest : List UInt8}
  {value : α} {result : β}

theorem bind_eq_ok_iff : (reader >>= next) input = .ok (result, rest) ↔
    ∃ value middle, reader input = .ok (value, middle) ∧
      next value middle = .ok (result, rest) := by
  have unfolded : (reader >>= next) input = reader input >>= fun taken => next taken.1 taken.2 :=
    rfl
  rw [unfolded, Checked.bind_eq_ok_iff, Prod.exists]

theorem pure_eq_ok_iff {other : α} :
    (pure value : Reader α) input = .ok (other, rest) ↔ value = other ∧ input = rest := by
  rw [show (pure value : Reader α) input = .ok (value, input) from rfl, Except.ok.injEq,
    Prod.mk.injEq]

theorem octet_eq_ok_iff {octet : UInt8} :
    Reader.octet input = .ok (octet, rest) ↔ input = octet :: rest := by
  cases input with
  | nil => simp [Reader.octet]
  | cons first others => simp [Reader.octet]

theorem octets_eq_ok_iff {count : Nat} {octets : List UInt8} :
    Reader.octets count input = .ok (octets, rest) ↔
      octets.length = count ∧ input = octets ++ rest := by
  unfold Reader.octets
  split
  · next enough =>
      rw [List.splitAt_eq, Except.ok.injEq, Prod.mk.injEq]
      constructor
      · rintro ⟨rfl, rfl⟩
        exact ⟨List.length_take_of_le enough, (List.take_append_drop count input).symm⟩
      · rintro ⟨rfl, rfl⟩
        exact ⟨List.take_left, List.drop_left⟩
  · next short =>
      refine ⟨fun impossible => (by cases impossible), ?_⟩
      rintro ⟨rfl, rfl⟩
      rw [List.length_append] at short
      omega

/-- An octet string is taken where a number is its length. -/
theorem octetString_eq_ok_iff {octets : List UInt8} :
    Reader.octetString input = .ok (octets, rest) ↔
      number Leb128.word64 input = .ok (octets.length, octets ++ rest) := by
  rw [Reader.octetString, bind_eq_ok_iff]
  simp only [octets_eq_ok_iff]
  constructor
  · rintro ⟨count, middle, isNumber, rfl, rfl⟩
    exact isNumber
  · exact fun isNumber => ⟨_, _, isNumber, rfl, rfl⟩

end Reader

/-! ## Numbers in base 128 -/

namespace Leb128

variable {last places number : Nat} {input rest : List UInt8}

theorem length_encode_pos (number : Nat) : 0 < (encode number).length := by
  rw [encode]
  split <;> simp

theorem length_encode_of_small (small : number < 128) : (encode number).length = 1 := by
  rw [encode, if_pos small]
  rfl

theorem length_encode_of_large (large : ¬ number < 128) :
    (encode number).length = (encode (number / 128)).length + 1 := by
  rw [encode, if_neg large]
  rfl

/-- No form of a number is shorter than the one that is written, and none is read that does not
fit the word. -/
theorem took_of_decodeFrom (decoded : decodeFrom last places input = .ok (number, rest)) :
    number < (last + 1) * 128 ^ (places - 1) ∧ Took input (encode number).length rest := by
  induction places generalizing input number with
  | zero => cases decoded
  | succ places induction =>
      cases input with
      | nil => cases decoded
      | cons octet others =>
          rw [decodeFrom] at decoded
          split at decoded
          · next ends =>
              split at decoded
              · cases decoded
              · next fits =>
                  cases decoded
                  rw [length_encode_of_small ends, Nat.add_sub_cancel]
                  refine ⟨?_, .octet octet _⟩
                  cases places with
                  | zero => simp only [Nat.pow_zero]; omega
                  | succ places =>
                      have positive := Nat.pow_pos (n := places) (show 0 < 128 by decide)
                      rw [Nat.pow_succ, ← Nat.mul_assoc]
                      nlinarith
          · next continues =>
              split at decoded
              · cases decoded
              · next higher later isLater =>
                  cases decoded
                  obtain ⟨bound, took⟩ := induction isLater
                  have small := octet.toNat_lt
                  cases places with
                  | zero => cases isLater
                  | succ places =>
                      simp only [Nat.add_sub_cancel] at bound ⊢
                      refine ⟨by rw [Nat.pow_succ, ← Nat.mul_assoc]; omega, ?_⟩
                      have took := (Took.octet octet others).trans took
                      by_cases short : octet.toNat - 128 + 128 * higher < 128
                      · rw [length_encode_of_small short]
                        exact took.mono (by omega)
                      · have upper : (octet.toNat - 128 + 128 * higher) / 128 = higher := by omega
                        rw [length_encode_of_large short, upper, Nat.add_comm]
                        exact took

theorem took_word32 (decoded : Reader.number word32 input = .ok (number, rest)) :
    number < 4294967296 ∧ Took input (encode number).length rest :=
  took_of_decodeFrom decoded

theorem took_word64 (decoded : Reader.number word64 input = .ok (number, rest)) :
    number < 18446744073709551616 ∧ Took input (encode number).length rest :=
  took_of_decodeFrom decoded

end Leb128

/-! ## Values -/

/-- Whatever is read as a value of the type can be written, in no more octets than were taken, and
reads back. -/
def Rewrites (α : Type) [Wire α] : Prop :=
  ∀ ⦃input : List UInt8⦄ ⦃value : α⦄ ⦃rest : List UInt8⦄,
    (read : Reader α) input = .ok (value, rest) →
      ReadsBack value ∧ ∃ octets, write value = .ok octets ∧ Took input octets.length rest

theorem rewrites_word32 : Rewrites UInt32 := by
  intro input word rest isRead
  obtain ⟨number, middle, isNumber, isWord⟩ := Reader.bind_eq_ok_iff.mp isRead
  obtain ⟨rfl, rfl⟩ := Reader.pure_eq_ok_iff.mp isWord
  obtain ⟨small, took⟩ := Leb128.took_word32 isNumber
  refine ⟨readsBack_word32 _, _, rfl, ?_⟩
  rwa [UInt32.toNat_ofNat_of_lt' small]

theorem rewrites_flag : Rewrites Bool := by
  intro input flag rest isRead
  obtain ⟨octet, middle, isOctet, isFlag⟩ := Reader.bind_eq_ok_iff.mp isRead
  obtain rfl := Reader.octet_eq_ok_iff.mp isOctet
  generalize octet.toNat = bit at isFlag
  match bit, isFlag with
  | 0, isFlag =>
      obtain ⟨rfl, rfl⟩ := Reader.pure_eq_ok_iff.mp isFlag
      exact ⟨readsBack_flag _, _, rfl, .octet octet middle⟩
  | 1, isFlag =>
      obtain ⟨rfl, rfl⟩ := Reader.pure_eq_ok_iff.mp isFlag
      exact ⟨readsBack_flag _, _, rfl, .octet octet middle⟩
  | _ + 2, isFlag => cases isFlag

/-! ## Lists -/

section Lists

variable {α : Type} [Wire α] {input rest : List UInt8} {values : List α}

theorem times_rewrites (rewrites : Rewrites α) {count : Nat}
    (isRead : Reader.times read count input = .ok (values, rest)) :
    values.length = count ∧ (∀ value ∈ values, ReadsBack value) ∧
      ∃ parts, List.Forall₂ (fun value octets => write value = .ok octets) values parts ∧
        Took input parts.flatten.length rest := by
  induction count generalizing input values with
  | zero =>
      obtain ⟨rfl, rfl⟩ := Reader.pure_eq_ok_iff.mp isRead
      exact ⟨rfl, by simp, [], .nil, .nothing input⟩
  | succ count induction =>
      obtain ⟨head, middle, isHead, isMore⟩ := Reader.bind_eq_ok_iff.mp isRead
      obtain ⟨tail, after, isTail, isList⟩ := Reader.bind_eq_ok_iff.mp isMore
      obtain ⟨rfl, rfl⟩ := Reader.pure_eq_ok_iff.mp isList
      obtain ⟨readsBack, octets, written, took⟩ := rewrites isHead
      obtain ⟨counted, others, parts, later, tookMore⟩ := induction isTail
      refine ⟨congrArg Nat.succ counted, List.forall_mem_cons.mpr ⟨readsBack, others⟩,
        octets :: parts, .cons written later, ?_⟩
      rw [List.flatten_cons, List.length_append]
      exact took.trans tookMore

theorem rewrites_list (rewrites : Rewrites α) : Rewrites (List α) := by
  intro input values rest isRead
  obtain ⟨count, middle, isCount, isList⟩ := Reader.bind_eq_ok_iff.mp isRead
  obtain ⟨small, took⟩ := Leb128.took_word64 isCount
  obtain ⟨rfl, readsBack, parts, each, tookMore⟩ := times_rewrites rewrites isList
  refine ⟨readsBack_list small readsBack, _,
    Checked.bind_eq_ok_iff.mpr ⟨parts, mapM_write_eq_ok_iff.mpr each, rfl⟩, ?_⟩
  rw [List.length_append]
  exact took.trans tookMore

end Lists

end Wire

open Wire (Reader Took Rewrites ReadsBack Writable)

variable {input rest : List UInt8}

/-! ## Enumerations -/

theorem Direction.rewrites : Rewrites Direction := by
  intro input direction rest isRead
  obtain ⟨number, middle, isNumber, isDirection⟩ := Reader.bind_eq_ok_iff.mp isRead
  have took := (Wire.Leb128.took_word32 isNumber).2
  match number, isDirection, took with
  | 0, isDirection, took =>
      obtain ⟨rfl, rfl⟩ := Reader.pure_eq_ok_iff.mp isDirection
      exact ⟨Direction.readsBack _, _, rfl, took⟩
  | 1, isDirection, took =>
      obtain ⟨rfl, rfl⟩ := Reader.pure_eq_ok_iff.mp isDirection
      exact ⟨Direction.readsBack _, _, rfl, took⟩
  | _ + 2, isDirection, _ => cases isDirection

theorem Medium.rewrites : Rewrites Medium := by
  intro input medium rest isRead
  obtain ⟨number, middle, isNumber, isMedium⟩ := Reader.bind_eq_ok_iff.mp isRead
  have took := (Wire.Leb128.took_word32 isNumber).2
  match number, isMedium, took with
  | 0, isMedium, took =>
      obtain ⟨rfl, rfl⟩ := Reader.pure_eq_ok_iff.mp isMedium
      exact ⟨Medium.readsBack _, _, rfl, took⟩
  | 1, isMedium, took =>
      obtain ⟨rfl, rfl⟩ := Reader.pure_eq_ok_iff.mp isMedium
      exact ⟨Medium.readsBack _, _, rfl, took⟩
  | 2, isMedium, took =>
      obtain ⟨rfl, rfl⟩ := Reader.pure_eq_ok_iff.mp isMedium
      exact ⟨Medium.readsBack _, _, rfl, took⟩
  | _ + 3, isMedium, _ => cases isMedium

/-! ## Magnitudes -/

namespace Magnitude

variable {magnitude : Magnitude} {octets : List UInt8} {count : Nat}

/-- A magnitude is read where an octet string is one record, and nothing but that. -/
theorem read_eq_ok_iff : (Wire.read : Reader Magnitude) input = .ok (magnitude, rest) ↔
    ∃ record, Reader.number Wire.Leb128.word64 input = .ok (record.length, record ++ rest) ∧
      unpack record = .ok (magnitude, record.length) := by
  constructor
  · intro isRead
    obtain ⟨record, middle, isString, isMagnitude⟩ := Reader.bind_eq_ok_iff.mp isRead
    cases isUnpacked : unpack record with
    | error stop =>
        simp only [isUnpacked] at isMagnitude
        cases isMagnitude
    | ok result =>
        obtain ⟨found, count⟩ := result
        simp only [isUnpacked] at isMagnitude
        by_cases whole : count = record.length
        · simp only [if_pos whole] at isMagnitude
          obtain ⟨rfl, rfl⟩ := Reader.pure_eq_ok_iff.mp isMagnitude
          exact ⟨record, Reader.octetString_eq_ok_iff.mp isString, by rw [isUnpacked, whole]⟩
        · simp only [if_neg whole] at isMagnitude
          cases isMagnitude
  · rintro ⟨record, isNumber, isUnpacked⟩
    refine Reader.bind_eq_ok_iff.mpr
      ⟨record, rest, Reader.octetString_eq_ok_iff.mpr isNumber, ?_⟩
    simp only [isUnpacked, if_true]
    rfl

/-- The record of a magnitude is never longer than one that it was unpacked from. -/
theorem length_pack_le_of_unpack (read : unpack octets = .ok (magnitude, count)) :
    ∃ packed, magnitude.pack = .ok packed ∧ packed.length ≤ count := by
  have packable := packable_of_unpack read
  refine ⟨_, pack_eq_ok_iff.mpr ⟨packable, rfl⟩, ?_⟩
  cases unpacks_of_unpack read with
  | record delimited narrow high low =>
      have same : magnitude.high.toNat * 1073741824 + magnitude.low =
          Vlq.valueOf (octets.take count) := by omega
      have value := Vlq.valueOf_lt (octets.take count)
      rw [List.length_take, Nat.min_eq_left delimited.within] at value
      rw [Vlq.length_encode, toNat_packed packable, same]
      exact (Vlq.encodedLength_le_iff delimited.positive).mpr value

theorem rewrites : Rewrites Magnitude := by
  intro input magnitude rest isRead
  obtain ⟨record, isNumber, isUnpacked⟩ := read_eq_ok_iff.mp isRead
  obtain ⟨packed, isPacked, shorter⟩ := length_pack_le_of_unpack isUnpacked
  have small := length_pack_le isPacked
  refine ⟨magnitude.readsBack, _, write_eq_ok_iff.mpr ⟨packed, isPacked, rfl⟩, ?_⟩
  have took := (Wire.Leb128.took_word64 isNumber).2.trans (Took.octets record rest)
  have positive := Wire.Leb128.length_encode_pos record.length
  refine took.mono ?_
  rw [Wire.octetString, List.length_append, Wire.Leb128.length_encode_of_small (by omega)]
  omega

end Magnitude

/-! ## Structures -/

theorem Space.rewrites : Rewrites Space := by
  intro input space rest isRead
  obtain ⟨file, afterFile, isFile, isRead⟩ := Reader.bind_eq_ok_iff.mp isRead
  obtain ⟨bulk, afterBulk, isBulk, isRead⟩ := Reader.bind_eq_ok_iff.mp isRead
  obtain ⟨heap, afterHeap, isHeap, isRead⟩ := Reader.bind_eq_ok_iff.mp isRead
  obtain ⟨rfl, rfl⟩ := Reader.pure_eq_ok_iff.mp isRead
  obtain ⟨-, files, fileWritten, tookFile⟩ := Magnitude.rewrites isFile
  obtain ⟨-, bulks, bulkWritten, tookBulk⟩ := Magnitude.rewrites isBulk
  obtain ⟨-, heaps, heapWritten, tookHeap⟩ := Magnitude.rewrites isHeap
  refine ⟨Space.readsBack _, _, write_eq_ok_iff.mpr
    ⟨files, fileWritten, bulks, bulkWritten, heaps, heapWritten, rfl⟩, ?_⟩
  simp only [List.length_append]
  exact (tookFile.trans tookBulk).trans tookHeap

theorem Priority.rewrites : Rewrites Priority := by
  intro input priority rest isRead
  obtain ⟨coarse, middle, isCoarse, isRead⟩ := Reader.bind_eq_ok_iff.mp isRead
  obtain ⟨fine, after, isFine, isRead⟩ := Reader.bind_eq_ok_iff.mp isRead
  obtain ⟨rfl, rfl⟩ := Reader.pure_eq_ok_iff.mp isRead
  obtain rfl := Reader.octet_eq_ok_iff.mp isCoarse
  obtain rfl := Reader.octet_eq_ok_iff.mp isFine
  exact ⟨Priority.readsBack _, _, rfl, .octets [coarse, fine] after⟩

namespace SlotId

theorem readsBack_null : ReadsBack null := by
  rintro octets ⟨⟩
  exact (Wire.readsBack_word32 nullIndex _ rfl).bind
    ((Wire.readsBack_word32 1 _ rfl).last (.nothing null))

/-- Making a version odd changes no octet but the first, and not whether another one follows. -/
theorem length_encode_oddVersion (version : UInt32) :
    (Wire.Leb128.encode (oddVersion version).toNat).length =
      (Wire.Leb128.encode version.toNat).length := by
  have small := version.toNat_lt
  have odd : (oddVersion version).toNat = version.toNat / 2 * 2 + 1 := by
    simp only [oddVersion, UInt32.toNat_add, UInt32.toNat_mul, UInt32.toNat_div,
      UInt32.reduceToNat]
    omega
  have rest : (version.toNat / 2 * 2 + 1) / 128 = version.toNat / 128 := by omega
  rw [odd]
  by_cases short : version.toNat < 128
  · rw [Wire.Leb128.length_encode_of_small short, Wire.Leb128.length_encode_of_small (by omega)]
  · rw [Wire.Leb128.length_encode_of_large short, Wire.Leb128.length_encode_of_large (by omega),
      rest]

/-- A slot that is read has an odd version, or is that of no requisition. -/
theorem rewrites : Rewrites SlotId := by
  intro input slot rest isRead
  obtain ⟨index, middle, isIndex, isRead⟩ := Reader.bind_eq_ok_iff.mp isRead
  obtain ⟨version, after, isVersion, isRead⟩ := Reader.bind_eq_ok_iff.mp isRead
  obtain ⟨rfl, rfl⟩ := Reader.pure_eq_ok_iff.mp isRead
  obtain ⟨-, _, ⟨⟩, tookIndex⟩ := Wire.rewrites_word32 isIndex
  obtain ⟨-, _, ⟨⟩, tookVersion⟩ := Wire.rewrites_word32 isVersion
  have took := tookIndex.trans tookVersion
  split
  · next none =>
      subst none
      refine ⟨readsBack_null, _, rfl, took.mono ?_⟩
      have positive := Wire.Leb128.length_encode_pos version.toNat
      have one : (Wire.Leb128.encode null.version.toNat).length = 1 :=
        Wire.Leb128.length_encode_of_small (by decide)
      rw [List.length_append, one]
      exact Nat.add_le_add_left positive _
  · next used =>
      refine ⟨SlotId.readsBack used, _, rfl, took.mono ?_⟩
      rw [List.length_append]
      exact Nat.add_le_add_left (length_encode_oddVersion version).le _

end SlotId

theorem MediumUsage.rewrites : Rewrites MediumUsage := by
  intro input usage rest isRead
  obtain ⟨medium, afterMedium, isMedium, isRead⟩ := Reader.bind_eq_ok_iff.mp isRead
  obtain ⟨capacity, afterCapacity, isCapacity, isRead⟩ := Reader.bind_eq_ok_iff.mp isRead
  obtain ⟨occupancy, afterOccupancy, isOccupancy, isRead⟩ := Reader.bind_eq_ok_iff.mp isRead
  obtain ⟨rfl, rfl⟩ := Reader.pure_eq_ok_iff.mp isRead
  obtain ⟨-, media, mediumWritten, tookMedium⟩ := Medium.rewrites isMedium
  obtain ⟨-, capacities, capacityWritten, tookCapacity⟩ := Magnitude.rewrites isCapacity
  obtain ⟨-, occupancies, occupancyWritten, tookOccupancy⟩ := Magnitude.rewrites isOccupancy
  refine ⟨MediumUsage.readsBack _, _, write_eq_ok_iff.mpr ⟨media, mediumWritten, capacities,
    capacityWritten, occupancies, occupancyWritten, rfl⟩, ?_⟩
  simp only [List.length_append]
  exact (tookMedium.trans tookCapacity).trans tookOccupancy

theorem QueuedRequisition.rewrites : Rewrites QueuedRequisition := by
  intro input entry rest isRead
  obtain ⟨slot, afterSlot, isSlot, isRead⟩ := Reader.bind_eq_ok_iff.mp isRead
  obtain ⟨priority, afterPriority, isPriority, isRead⟩ := Reader.bind_eq_ok_iff.mp isRead
  obtain ⟨needed, afterNeeded, isNeeded, isRead⟩ := Reader.bind_eq_ok_iff.mp isRead
  obtain ⟨blocking, afterBlocking, isBlocking, isRead⟩ := Reader.bind_eq_ok_iff.mp isRead
  obtain ⟨serviced, afterServiced, isServiced, isRead⟩ := Reader.bind_eq_ok_iff.mp isRead
  obtain ⟨rfl, rfl⟩ := Reader.pure_eq_ok_iff.mp isRead
  obtain ⟨slots, slotOctets, slotWritten, tookSlot⟩ := SlotId.rewrites isSlot
  obtain ⟨-, priorities, priorityWritten, tookPriority⟩ := Priority.rewrites isPriority
  obtain ⟨-, needs, neededWritten, tookNeeded⟩ := Space.rewrites isNeeded
  obtain ⟨-, blockings, blockingWritten, tookBlocking⟩ := Wire.rewrites_flag isBlocking
  obtain ⟨-, services, servicedWritten, tookServiced⟩ := Wire.rewrites_flag isServiced
  refine ⟨readsBack_of_slot slots, _, write_eq_ok_iff.mpr ⟨slotOctets, slotWritten, priorities,
    priorityWritten, needs, neededWritten, blockings, blockingWritten, services, servicedWritten,
    rfl⟩, ?_⟩
  simp only [List.length_append]
  exact (((tookSlot.trans tookPriority).trans tookNeeded).trans tookBlocking).trans tookServiced

namespace Snapshot

theorem rewrites : Rewrites Snapshot := by
  intro input snapshot rest isRead
  obtain ⟨direction, afterDirection, isDirection, isRead⟩ := Reader.bind_eq_ok_iff.mp isRead
  obtain ⟨media, afterMedia, isMedia, isRead⟩ := Reader.bind_eq_ok_iff.mp isRead
  obtain ⟨entries, afterEntries, isEntries, isRead⟩ := Reader.bind_eq_ok_iff.mp isRead
  obtain ⟨rfl, rfl⟩ := Reader.pure_eq_ok_iff.mp isRead
  obtain ⟨-, directions, directionWritten, tookDirection⟩ := Direction.rewrites isDirection
  obtain ⟨usages, mediaOctets, mediaWritten, tookMedia⟩ :=
    Wire.rewrites_list MediumUsage.rewrites isMedia
  obtain ⟨queued, entryOctets, entriesWritten, tookEntries⟩ :=
    Wire.rewrites_list QueuedRequisition.rewrites isEntries
  refine ⟨readsBack_of_lists usages queued, _, write_eq_ok_iff.mpr ⟨directions, directionWritten,
    mediaOctets, mediaWritten, entryOctets, entriesWritten, rfl⟩, ?_⟩
  simp only [List.length_append]
  exact (tookDirection.trans tookMedia).trans tookEntries

/-- Whatever octets are read as a snapshot, every magnitude in it is valid, has a canonical low part
and can be packed.  The snapshot can be written again, in no more octets than were taken for it, and
these are read as the same snapshot.  A magnitude is read exactly where the octets after a length
are one record of that length. -/
theorem snapshot_canonical :
    (∀ (octets : List UInt8) (snapshot : Snapshot) (rest : List UInt8),
      (Wire.read : Reader Snapshot) octets = .ok (snapshot, rest) →
        (∀ magnitude ∈ snapshot.magnitudes, magnitude.valid = true ∧
          magnitude.low < 1000000000 ∧ ∃ packed, magnitude.pack = .ok packed) ∧
        ∃ taken fresh, octets = taken ++ rest ∧ Wire.encode snapshot = .ok fresh ∧
          fresh.length ≤ taken.length ∧
          ∀ more, Wire.decode Snapshot (fresh ++ more) = .ok snapshot) ∧
    ∀ (octets : List UInt8) (magnitude : Magnitude) (rest : List UInt8),
      (Wire.read : Reader Magnitude) octets = .ok (magnitude, rest) ↔
        ∃ record, Reader.number Wire.Leb128.word64 octets = .ok (record.length, record ++ rest) ∧
          Magnitude.unpack record = .ok (magnitude, record.length) := by
  refine ⟨fun octets snapshot rest isRead => ?_, fun _ _ _ => Magnitude.read_eq_ok_iff⟩
  obtain ⟨readsBack, fresh, written, taken, same, shorter⟩ := rewrites isRead
  refine ⟨?_, taken, fresh, same, written, shorter, readsBack.decode written⟩
  have packable : ∀ magnitude ∈ snapshot.magnitudes, magnitude.Packable :=
    forall_magnitudes_iff.mpr (writable_iff.mp ⟨fresh, written⟩)
  intro magnitude member
  have isPackable := packable magnitude member
  exact ⟨magnitude.valid_iff.mpr isPackable.1, magnitude.low_lt, _,
    Magnitude.pack_eq_ok_iff.mpr ⟨isPackable, rfl⟩⟩

/-- A snapshot in which all numbers are padded, the version of one slot is even and the other slot
is that of no requisition, and one more octet. -/
def padded : List UInt8 :=
  [0x81, 0x00, 0x81, 0x00, 0x80, 0x00, 0x83, 0x00, 0x80, 0x82, 0x2c, 0x02, 0x80, 0x05, 0x82, 0x00,
    0x81, 0x00, 0x82, 0x00, 2, 7, 2, 0x80, 0x05, 1, 0, 1, 0, 1, 0,
    0xff, 0xff, 0xff, 0xff, 0x0f, 0x84, 0x00, 0, 0, 1, 0, 1, 0, 1, 0, 0, 1, 0xaa]

/-- What they say. -/
def unpadded : Snapshot where
  direction := .outbound
  media := [⟨.file, .ofUInt64 300, .ofUInt64 5⟩]
  entries := [⟨.ofParts 1 3, ⟨2, 7⟩, .of .file (.ofUInt64 5), true, false⟩,
    ⟨.null, ⟨0, 0⟩, .zero, false, true⟩]

/-- They are read up to the last octet, and what they say can be written and read again. -/
theorem padded_canonical :
    (Wire.read : Reader Snapshot) padded = .ok (unpadded, [0xaa]) ∧
      (∀ magnitude ∈ unpadded.magnitudes, magnitude.valid = true ∧
        magnitude.low < 1000000000 ∧ ∃ packed, magnitude.pack = .ok packed) ∧
      ∃ taken fresh, padded = taken ++ [0xaa] ∧ Wire.encode unpadded = .ok fresh ∧
        fresh.length ≤ taken.length ∧
        ∀ more, Wire.decode Snapshot (fresh ++ more) = .ok unpadded := by
  have isRead : (Wire.read : Reader Snapshot) padded = .ok (unpadded, [0xaa]) := by rfl
  exact ⟨isRead, snapshot_canonical.1 padded unpadded [0xaa] isRead⟩

end Snapshot

end Admission
