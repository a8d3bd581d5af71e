import Admission.Proofs.Magnitude.Unpacked
import Admission.Proofs.Wire.Forms
import Admission.Wire.Values

/-!
# Snapshots read back

Whatever is written for a magnitude, a space or a snapshot reads back, provided that the slots that
the snapshot shows can be in use (`Snapshot.readsBack`).  It can be written exactly if every
magnitude in it can be packed (`Snapshot.writable_iff`).
-/

namespace Admission

open Wire (Reader ReadsBack Writable readsBack_octet readsBack_word32 readsBack_flag)

/-! ## Enumerations -/

theorem Direction.readsBack (direction : Direction) : ReadsBack direction := by
  cases direction <;> rintro octets ⟨⟩ <;>
    exact (Wire.word32_takes (by decide)).last (.nothing _)

theorem Medium.readsBack (medium : Medium) : ReadsBack medium := by
  cases medium <;> rintro octets ⟨⟩ <;>
    exact (Wire.word32_takes (by decide)).last (.nothing _)

/-! ## Magnitudes -/

namespace Magnitude

variable {magnitude : Magnitude} {octets : List UInt8}

theorem write_eq_ok_iff : Wire.write magnitude = .ok octets ↔
    ∃ packed, magnitude.pack = .ok packed ∧ Wire.octetString packed = octets := by
  simp only [Wire.write]
  cases magnitude.pack <;> simp

theorem writable_iff : Writable magnitude ↔ magnitude.Packable := by
  constructor
  · rintro ⟨octets, written⟩
    obtain ⟨packed, isPacked, -⟩ := write_eq_ok_iff.mp written
    exact (pack_eq_ok_iff.mp isPacked).1
  · exact fun packable => ⟨_, write_eq_ok_iff.mpr ⟨_, pack_eq_ok_iff.mpr ⟨packable, rfl⟩, rfl⟩⟩

theorem readsBack (magnitude : Magnitude) : ReadsBack magnitude := by
  intro octets written
  obtain ⟨packed, isPacked, rfl⟩ := write_eq_ok_iff.mp written
  have short := length_pack_le isPacked
  have unpacked := unpack_pack isPacked []
  rw [List.append_nil] at unpacked
  refine (Wire.octetString_takes (by omega)).last ?_
  simp only [unpacked, if_true]
  exact .nothing magnitude

end Magnitude

namespace Space

variable {space : Space} {octets : List UInt8}

theorem write_eq_ok_iff : Wire.write space = .ok octets ↔
    ∃ file, Wire.write space.file = .ok file ∧ ∃ bulk, Wire.write space.bulk = .ok bulk ∧
      ∃ heap, Wire.write space.heap = .ok heap ∧ file ++ bulk ++ heap = octets := by
  have unfolded : Wire.write space = (do
    return (← Wire.write space.file) ++ (← Wire.write space.bulk) ++
      (← Wire.write space.heap)) := rfl
  simp only [unfolded, Checked.bind_eq_ok_iff, pure, Except.pure, Except.ok.injEq]

theorem writable_iff : Writable space ↔ ∀ medium, (space.get medium).Packable := by
  have parts : Writable space ↔
      Writable space.file ∧ Writable space.bulk ∧ Writable space.heap := by
    constructor
    · rintro ⟨octets, written⟩
      obtain ⟨file, isFile, bulk, isBulk, heap, isHeap, -⟩ := write_eq_ok_iff.mp written
      exact ⟨⟨file, isFile⟩, ⟨bulk, isBulk⟩, heap, isHeap⟩
    · rintro ⟨⟨file, isFile⟩, ⟨bulk, isBulk⟩, heap, isHeap⟩
      exact ⟨_, write_eq_ok_iff.mpr ⟨file, isFile, bulk, isBulk, heap, isHeap, rfl⟩⟩
  rw [parts, Magnitude.writable_iff, Magnitude.writable_iff, Magnitude.writable_iff]
  constructor
  · rintro ⟨file, bulk, heap⟩ (_ | _ | _)
    · exact file
    · exact bulk
    · exact heap
  · exact fun all => ⟨all .file, all .bulk, all .heap⟩

theorem readsBack (space : Space) : ReadsBack space := by
  intro octets written
  obtain ⟨file, isFile, bulk, isBulk, heap, isHeap, rfl⟩ := write_eq_ok_iff.mp written
  rw [List.append_assoc]
  exact (space.file.readsBack file isFile).bind ((space.bulk.readsBack bulk isBulk).bind
    ((space.heap.readsBack heap isHeap).last (.nothing space)))

end Space

/-! ## Requisitions -/

theorem Priority.readsBack (priority : Priority) : ReadsBack priority := by
  rintro octets ⟨⟩
  have coarse := Reader.octet_takes priority.coarse
  exact coarse.bind ((Reader.octet_takes priority.fine).last (.nothing priority))

/-- A slot is written as its index and its version, which is odd already. -/
theorem SlotId.readsBack {slot : SlotId} (used : slot.index ≠ nullIndex) : ReadsBack slot := by
  rintro octets ⟨⟩
  refine (readsBack_word32 slot.index _ rfl).bind ((readsBack_word32 slot.version _ rfl).last ?_)
  have same : oddVersion slot.version = slot.version := by
    have odd := slot.odd
    have small := slot.version.toNat_lt
    apply UInt32.toNat_inj.mp
    simp only [oddVersion, UInt32.toNat_add, UInt32.toNat_mul, UInt32.toNat_div,
      UInt32.reduceToNat]
    omega
  have parts : ofParts slot.index slot.version = slot := by
    obtain ⟨index, version, odd⟩ := slot
    simp only [ofParts, mk.injEq, true_and]
    exact same
  rw [if_neg used, parts]
  exact .nothing slot

namespace QueuedRequisition

variable {entry : QueuedRequisition} {octets : List UInt8}

theorem write_eq_ok_iff : Wire.write entry = .ok octets ↔
    ∃ slot, Wire.write entry.slot = .ok slot ∧
    ∃ priority, Wire.write entry.priority = .ok priority ∧
    ∃ needed, Wire.write entry.needed = .ok needed ∧
    ∃ blocking, Wire.write entry.blocking = .ok blocking ∧
    ∃ serviced, Wire.write entry.serviced = .ok serviced ∧
      slot ++ priority ++ needed ++ blocking ++ serviced = octets := by
  have unfolded : Wire.write entry = (do
    return (← Wire.write entry.slot) ++ (← Wire.write entry.priority) ++
      (← Wire.write entry.needed) ++ (← Wire.write entry.blocking) ++
      (← Wire.write entry.serviced)) := rfl
  simp only [unfolded, Checked.bind_eq_ok_iff, pure, Except.pure, Except.ok.injEq]

theorem writable_iff :
    Writable entry ↔ ∀ medium, (entry.needed.get medium).Packable := by
  rw [← Space.writable_iff]
  constructor
  · rintro ⟨octets, written⟩
    obtain ⟨-, -, -, -, needed, isNeeded, -⟩ := write_eq_ok_iff.mp written
    exact ⟨needed, isNeeded⟩
  · rintro ⟨needed, isNeeded⟩
    exact ⟨_, write_eq_ok_iff.mpr ⟨_, rfl, _, rfl, needed, isNeeded, _, rfl, _, rfl, rfl⟩⟩

theorem readsBack_of_slot (slots : ReadsBack entry.slot) : ReadsBack entry := by
  intro octets written
  obtain ⟨slot, isSlot, priority, isPriority, needed, isNeeded, blocking, isBlocking, serviced,
    isServiced, rfl⟩ := write_eq_ok_iff.mp written
  simp only [List.append_assoc]
  exact (slots slot isSlot).bind
    ((entry.priority.readsBack priority isPriority).bind
    ((entry.needed.readsBack needed isNeeded).bind
    ((readsBack_flag entry.blocking blocking isBlocking).bind
    ((readsBack_flag entry.serviced serviced isServiced).last (.nothing entry)))))

theorem readsBack (used : entry.slot.index ≠ SlotId.nullIndex) : ReadsBack entry :=
  readsBack_of_slot (SlotId.readsBack used)

end QueuedRequisition

/-! ## Snapshots -/

namespace MediumUsage

variable {usage : MediumUsage} {octets : List UInt8}

theorem write_eq_ok_iff : Wire.write usage = .ok octets ↔
    ∃ medium, Wire.write usage.medium = .ok medium ∧
    ∃ capacity, Wire.write usage.capacity = .ok capacity ∧
    ∃ occupancy, Wire.write usage.occupancy = .ok occupancy ∧
      medium ++ capacity ++ occupancy = octets := by
  have unfolded : Wire.write usage = (do
    return (← Wire.write usage.medium) ++ (← Wire.write usage.capacity) ++
      (← Wire.write usage.occupancy)) := rfl
  simp only [unfolded, Checked.bind_eq_ok_iff, pure, Except.pure, Except.ok.injEq]

theorem writable_iff : Writable usage ↔ usage.capacity.Packable ∧ usage.occupancy.Packable := by
  rw [← Magnitude.writable_iff, ← Magnitude.writable_iff]
  constructor
  · rintro ⟨octets, written⟩
    obtain ⟨-, -, capacity, isCapacity, occupancy, isOccupancy, -⟩ := write_eq_ok_iff.mp written
    exact ⟨⟨capacity, isCapacity⟩, occupancy, isOccupancy⟩
  · rintro ⟨⟨capacity, isCapacity⟩, occupancy, isOccupancy⟩
    obtain ⟨medium, isMedium⟩ : Writable usage.medium := by
      cases usage.medium <;> exact ⟨_, rfl⟩
    exact ⟨_, write_eq_ok_iff.mpr
      ⟨medium, isMedium, capacity, isCapacity, occupancy, isOccupancy, rfl⟩⟩

theorem readsBack (usage : MediumUsage) : ReadsBack usage := by
  intro octets written
  obtain ⟨medium, isMedium, capacity, isCapacity, occupancy, isOccupancy, rfl⟩ :=
    write_eq_ok_iff.mp written
  rw [List.append_assoc]
  exact (usage.medium.readsBack medium isMedium).bind
    ((usage.capacity.readsBack capacity isCapacity).bind
    ((usage.occupancy.readsBack occupancy isOccupancy).last (.nothing usage)))

end MediumUsage

namespace Snapshot

variable {snapshot : Snapshot} {octets : List UInt8}

theorem write_eq_ok_iff : Wire.write snapshot = .ok octets ↔
    ∃ direction, Wire.write snapshot.direction = .ok direction ∧
    ∃ media, Wire.write snapshot.media = .ok media ∧
    ∃ entries, Wire.write snapshot.entries = .ok entries ∧
      direction ++ media ++ entries = octets := by
  have unfolded : Wire.write snapshot = (do
    return (← Wire.write snapshot.direction) ++ (← Wire.write snapshot.media) ++
      (← Wire.write snapshot.entries)) := rfl
  simp only [unfolded, Checked.bind_eq_ok_iff, pure, Except.pure, Except.ok.injEq]

/-- A snapshot can be written exactly if every capacity, every occupancy and every need that it
shows can be packed. -/
theorem writable_iff : Writable snapshot ↔
    (∀ usage ∈ snapshot.media, usage.capacity.Packable ∧ usage.occupancy.Packable) ∧
      ∀ entry ∈ snapshot.entries, ∀ medium, (entry.needed.get medium).Packable := by
  simp only [← MediumUsage.writable_iff, ← QueuedRequisition.writable_iff,
    ← Wire.writable_list_iff]
  constructor
  · rintro ⟨octets, written⟩
    obtain ⟨-, -, media, isMedia, entries, isEntries, -⟩ := write_eq_ok_iff.mp written
    exact ⟨⟨media, isMedia⟩, entries, isEntries⟩
  · rintro ⟨⟨media, isMedia⟩, entries, isEntries⟩
    obtain ⟨direction, isDirection⟩ : Writable snapshot.direction := by
      cases snapshot.direction <;> exact ⟨_, rfl⟩
    exact ⟨_, write_eq_ok_iff.mpr
      ⟨direction, isDirection, media, isMedia, entries, isEntries, rfl⟩⟩

theorem readsBack_of_lists (usages : ReadsBack snapshot.media)
    (queued : ReadsBack snapshot.entries) : ReadsBack snapshot := by
  intro octets written
  obtain ⟨direction, isDirection, media, isMedia, entries, isEntries, rfl⟩ :=
    write_eq_ok_iff.mp written
  rw [List.append_assoc]
  exact (snapshot.direction.readsBack direction isDirection).bind
    ((usages media isMedia).bind ((queued entries isEntries).last (.nothing snapshot)))

/-- Whatever is written for a snapshot reads back, if no slot in it has the index of none, and
words hold the lengths of its lists. -/
theorem readsBack (fewMedia : snapshot.media.length < 18446744073709551616)
    (fewEntries : snapshot.entries.length < 18446744073709551616)
    (used : ∀ entry ∈ snapshot.entries, entry.slot.index ≠ SlotId.nullIndex) :
    ReadsBack snapshot :=
  readsBack_of_lists (Wire.readsBack_list fewMedia fun usage _ => usage.readsBack)
    (Wire.readsBack_list fewEntries fun entry member =>
      QueuedRequisition.readsBack (used entry member))

end Snapshot

end Admission
