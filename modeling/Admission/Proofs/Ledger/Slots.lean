import Admission.Proofs.Controller.Submission
import Mathlib.Data.List.Perm.Basic
import Mathlib.Data.List.Nodup

/-!
# Slots are held by one requisition each

`SlotPool.WellFormed` says that no index is given out twice, `Ledger.WellFormed` that the slots
held are exactly those of the queued requisitions.  Together they make a slot the name of one
requisition, over both directions.

An index is a 32-bit word.  A pool of which all other indices are held opens no further one:
`SlotPool.Spare` is the condition under which a slot can be taken.
-/

namespace Admission

namespace SlotPool

/-- There is an index left for one more slot. -/
def Spare (pool : SlotPool) : Prop := pool.inUse + 1 < 4294967295

instance (pool : SlotPool) : Decidable pool.Spare := inferInstanceAs (Decidable (_ < _))

/-- No index was given out twice, and those given out are held or free. -/
structure WellFormed (pool : SlotPool) : Prop where
  distinct : ((pool.held ++ pool.free).map SlotId.index).Nodup
  known : ∀ slot ∈ pool.held ++ pool.free, slot.index.toNat ≤ pool.opened
  counted : pool.opened = pool.held.length + pool.free.length
  bounded : pool.opened < 4294967295

theorem wellFormed_ofLimit (limit : Nat) : (ofLimit limit).WellFormed where
  distinct := List.nodup_nil
  known := by simp [ofLimit]
  counted := rfl
  bounded := by simp [ofLimit]

namespace WellFormed

variable {pool taken : SlotPool} {slot : SlotId}

theorem held_nodup (wellFormed : pool.WellFormed) : pool.held.Nodup :=
  (List.Nodup.of_map _ wellFormed.distinct).sublist (List.sublist_append_left _ _)

/-- A slot that is taken was not held before, and the pool stays well formed. -/
theorem take (wellFormed : pool.WellFormed) (spare : pool.Spare)
    (took : pool.take = some (slot, taken)) :
    taken.WellFormed ∧ taken.held = slot :: pool.held := by
  unfold SlotPool.take at took
  split at took
  · cases took
  · split at took
    case h_1 first free isFree =>
      simp only [Option.some.injEq, Prod.mk.injEq] at took
      obtain ⟨rfl, rfl⟩ := took
      have moved : (first :: pool.held ++ free).Perm (pool.held ++ pool.free) := by
        rw [isFree]
        exact List.perm_middle.symm
      have counted := wellFormed.counted
      rw [isFree, List.length_cons] at counted
      exact ⟨{
        distinct := (moved.map SlotId.index).nodup_iff.mpr wellFormed.distinct
        known := fun other member => wellFormed.known other (moved.mem_iff.mp member)
        counted := by simp only [List.length_cons]; omega
        bounded := wellFormed.bounded }, rfl⟩
    case h_2 noneFree =>
      simp only [Option.some.injEq, Prod.mk.injEq] at took
      obtain ⟨rfl, rfl⟩ := took
      have counted := wellFormed.counted
      rw [noneFree, List.length_nil, Nat.add_zero] at counted
      have room : pool.opened + 1 < 4294967295 := counted ▸ spare
      have index : (UInt32.ofNat (pool.opened + 1)).toNat = pool.opened + 1 :=
        UInt32.toNat_ofNat_of_lt' (by simp only [UInt32.size]; omega)
      refine ⟨{
        distinct := ?_
        known := ?_
        counted := by simp only [noneFree, List.length_cons, List.length_nil]; omega
        bounded := room }, rfl⟩
      · rw [List.cons_append, List.map_cons, List.nodup_cons]
        refine ⟨?_, wellFormed.distinct⟩
        intro member
        obtain ⟨other, isKnown, same⟩ := List.mem_map.mp member
        have small := wellFormed.known other isKnown
        rw [same, SlotId.ofParts, index] at small
        omega
      · intro other member
        rcases List.mem_cons.mp member with rfl | old
        · rw [SlotId.ofParts, index]
        · exact Nat.le_succ_of_le (wellFormed.known other old)

/-- A slot that is freed is not held any more, and the pool stays well formed. -/
theorem release (wellFormed : pool.WellFormed) (held : slot ∈ pool.held) :
    (pool.release slot).WellFormed ∧ (pool.release slot).held = pool.held.erase slot := by
  rw [SlotPool.release, if_pos held]
  have moved : ((pool.held.erase slot ++ slot.renew :: pool.free).map SlotId.index).Perm
      ((pool.held ++ pool.free).map SlotId.index) := by
    have renewed : (pool.held.erase slot ++ slot.renew :: pool.free).map SlotId.index =
        (pool.held.erase slot ++ slot :: pool.free).map SlotId.index := by
      simp [SlotId.renew, SlotId.ofParts]
    rw [renewed]
    exact ((List.perm_middle.trans
      ((List.perm_cons_erase held).symm.append_right pool.free)).map SlotId.index)
  refine ⟨{
    distinct := moved.nodup_iff.mpr wellFormed.distinct
    known := ?_
    counted := ?_
    bounded := wellFormed.bounded }, rfl⟩
  · intro other member
    obtain ⟨old, isKnown, same⟩ :=
      List.mem_map.mp (moved.mem_iff.mp (List.mem_map_of_mem member))
    exact same ▸ wellFormed.known old isKnown
  · have one := List.length_pos_of_mem held
    have counted := wellFormed.counted
    simp only [List.length_erase_of_mem held, List.length_cons]
    omega

end WellFormed

end SlotPool

namespace Ledger

/-- The slots of all queued requisitions. -/
def slots (ledger : Ledger) : List SlotId :=
  ledger.inbound.map Requisition.slot ++ ledger.outbound.map Requisition.slot

/-- The slots that are held are those of the queued requisitions. -/
structure WellFormed (ledger : Ledger) : Prop where
  pool : ledger.pool.WellFormed
  held : ledger.slots.Perm ledger.pool.held

theorem wellFormed_ofLimit (limit : Nat) : (ofLimit limit).WellFormed :=
  ⟨SlotPool.wellFormed_ofLimit limit, List.Perm.refl _⟩

/-- The slots beside those of a queue. -/
def otherSlots (ledger : Ledger) : Direction → List SlotId
  | .inbound => ledger.outbound.map Requisition.slot
  | .outbound => ledger.inbound.map Requisition.slot

theorem slots_perm (ledger : Ledger) (direction : Direction) :
    ledger.slots.Perm ((ledger.queue direction).map Requisition.slot ++
      ledger.otherSlots direction) := by
  cases direction with
  | inbound => exact List.Perm.refl _
  | outbound => exact List.perm_append_comm

theorem otherSlots_setQueue (ledger : Ledger) (direction : Direction)
    (queue : List Requisition) :
    (ledger.setQueue direction queue).otherSlots direction = ledger.otherSlots direction := by
  cases direction <;> rfl

namespace WellFormed

variable {ledger : Ledger} {direction : Direction} {slot : SlotId} {taken : SlotPool}
  {requisition : Requisition}

theorem slots_nodup (wellFormed : ledger.WellFormed) : ledger.slots.Nodup :=
  wellFormed.held.nodup_iff.mpr wellFormed.pool.held_nodup

/-- No two requisitions of a queue have the same slot. -/
theorem queue_nodup (wellFormed : ledger.WellFormed) (direction : Direction) :
    ((ledger.queue direction).map Requisition.slot).Nodup :=
  ((ledger.slots_perm direction).nodup_iff.mp wellFormed.slots_nodup).sublist
    (List.sublist_append_left _ _)

theorem held_of_queued (wellFormed : ledger.WellFormed)
    (queued : slot ∈ (ledger.queue direction).map Requisition.slot) :
    slot ∈ ledger.pool.held :=
  wellFormed.held.mem_iff.mp
    ((ledger.slots_perm direction).mem_iff.mpr (List.mem_append_left _ queued))

/-- A slot that is taken next is of no requisition yet. -/
theorem fresh_of_take (wellFormed : ledger.WellFormed) (spare : ledger.pool.Spare)
    (took : ledger.pool.take = some (slot, taken)) (direction : Direction) :
    slot ∉ (ledger.queue direction).map Requisition.slot := by
  obtain ⟨takenFormed, held⟩ := wellFormed.pool.take spare took
  have distinct := takenFormed.held_nodup
  rw [held, List.nodup_cons] at distinct
  exact fun queued => distinct.1 (wellFormed.held_of_queued queued)

theorem setQueue (wellFormed : ledger.WellFormed) {queue : List Requisition}
    (same : queue.map Requisition.slot = (ledger.queue direction).map Requisition.slot) :
    (ledger.setQueue direction queue).WellFormed where
  pool := by rw [pool_setQueue]; exact wellFormed.pool
  held := by
    have slots := (ledger.setQueue direction queue).slots_perm direction
    rw [queue_setQueue_self, otherSlots_setQueue, same] at slots
    rw [pool_setQueue]
    exact slots.trans ((ledger.slots_perm direction).symm.trans wellFormed.held)

theorem enqueue (wellFormed : ledger.WellFormed) (spare : ledger.pool.Spare)
    (took : ledger.pool.take = some (requisition.slot, taken)) (direction : Direction) :
    (({ ledger with pool := taken } : Ledger).enqueue direction requisition).WellFormed where
  pool := by
    rw [pool_enqueue]
    exact (wellFormed.pool.take spare took).1
  held := by
    obtain ⟨front, back, split, inserted⟩ := requisition.insert_eq (ledger.queue direction)
    have slots := (({ ledger with pool := taken } : Ledger).enqueue direction
      requisition).slots_perm direction
    have others : (({ ledger with pool := taken } : Ledger).enqueue direction
        requisition).otherSlots direction = ledger.otherSlots direction := by
      cases direction <;> rfl
    rw [queue_enqueue_self, queue_withPool, others, inserted, List.map_append,
      List.map_cons] at slots
    have before := ledger.slots_perm direction
    rw [split, List.map_append] at before
    rw [pool_enqueue, (wellFormed.pool.take spare took).2]
    refine slots.trans ((List.perm_middle.append_right _).trans ?_)
    exact ((before.symm.trans wellFormed.held).cons _)

/-- Taking a queued slot off the queue leaves the rest in order. -/
theorem map_slot_filter (wellFormed : ledger.WellFormed) (direction : Direction)
    (slot : SlotId) :
    ((ledger.queue direction).filter fun requisition => requisition.slot ≠ slot).map
        Requisition.slot =
      ((ledger.queue direction).map Requisition.slot).erase slot := by
  rw [(wellFormed.queue_nodup direction).erase_eq_filter, List.filter_map]
  congr 1
  refine List.filter_congr ?_
  intro requisition member
  by_cases same : requisition.slot = slot <;> simp [same]

theorem remove (wellFormed : ledger.WellFormed)
    (queued : slot ∈ (ledger.queue direction).map Requisition.slot) :
    (ledger.remove direction slot).WellFormed where
  pool := by
    rw [pool_remove]
    exact (wellFormed.pool.release (wellFormed.held_of_queued queued)).1
  held := by
    have slots := (ledger.remove direction slot).slots_perm direction
    have others : (ledger.remove direction slot).otherSlots direction =
        ledger.otherSlots direction := by
      cases direction <;> rfl
    rw [queue_remove_self, others, wellFormed.map_slot_filter] at slots
    rw [pool_remove, (wellFormed.pool.release (wellFormed.held_of_queued queued)).2]
    have erased := ((ledger.slots_perm direction).symm.trans wellFormed.held).erase slot
    rw [List.erase_append_left _ queued] at erased
    exact slots.trans erased

/-- A slot of one queue is none of the other. -/
theorem disjoint (wellFormed : ledger.WellFormed) {other : Direction}
    (different : other ≠ direction)
    (queued : slot ∈ (ledger.queue direction).map Requisition.slot) :
    slot ∉ (ledger.queue other).map Requisition.slot := by
  have distinct := (ledger.slots_perm direction).nodup_iff.mp wellFormed.slots_nodup
  have others : (ledger.queue other).map Requisition.slot = ledger.otherSlots direction := by
    cases direction <;> cases other <;> first | rfl | exact absurd rfl different
  rw [others]
  exact fun member => (List.nodup_append.mp distinct).2.2 slot queued slot member rfl

theorem requisition_unique (wellFormed : ledger.WellFormed) {requisition other : Requisition}
    (queued : requisition ∈ ledger.queue direction) (also : other ∈ ledger.queue direction)
    (same : requisition.slot = other.slot) : requisition = other :=
  List.inj_on_of_nodup_map (wellFormed.queue_nodup direction) queued also same

/-- A slot is serviced exactly if its requisition is. -/
theorem isServiced_iff (wellFormed : ledger.WellFormed) {slot : SlotId} :
    ledger.isServiced direction slot = true ↔
      ∃ requisition ∈ ledger.queue direction, requisition.slot = slot ∧
        requisition.serviced = true := by
  simp only [isServiced, Option.any_eq_true]
  constructor
  · rintro ⟨requisition, found, serviced⟩
    exact ⟨requisition, List.mem_of_find?_eq_some found,
      by simpa using List.find?_some found, serviced⟩
  · rintro ⟨requisition, queued, rfl, serviced⟩
    cases found : ledger.find? direction requisition.slot with
    | none =>
        have missing := List.find?_eq_none.mp found requisition queued
        simp at missing
    | some other =>
        have same : other.slot = requisition.slot := by simpa using List.find?_some found
        have equal := wellFormed.requisition_unique (List.mem_of_find?_eq_some found) queued same
        exact ⟨other, rfl, equal ▸ serviced⟩

/-- The requisition in a slot is serviced if it is the one that stands there. -/
theorem isServiced_of_mem (wellFormed : ledger.WellFormed)
    (queued : requisition ∈ ledger.queue direction) :
    ledger.isServiced direction requisition.slot = requisition.serviced := by
  rw [Bool.eq_iff_iff, wellFormed.isServiced_iff]
  constructor
  · rintro ⟨other, stands, same, serviced⟩
    rwa [← wellFormed.requisition_unique stands queued same]
  · exact fun serviced => ⟨requisition, queued, rfl, serviced⟩

theorem index_ne_null (wellFormed : ledger.WellFormed)
    (queued : requisition ∈ ledger.queue direction) :
    requisition.slot.index ≠ SlotId.nullIndex := by
  have held := wellFormed.held_of_queued (List.mem_map_of_mem queued)
  have known := wellFormed.pool.known _ (List.mem_append_left _ held)
  have bounded := wellFormed.pool.bounded
  intro null
  rw [null] at known
  have large : SlotId.nullIndex.toNat = 4294967295 := rfl
  omega

/-- There are fewer requisitions than indices. -/
theorem length_queue_lt (wellFormed : ledger.WellFormed) (direction : Direction) :
    (ledger.queue direction).length < 4294967295 := by
  have slots := (ledger.slots_perm direction).length_eq
  have held := wellFormed.held.length_eq
  have counted := wellFormed.pool.counted
  have bounded := wellFormed.pool.bounded
  rw [List.length_append, List.length_map] at slots
  omega

end WellFormed

end Ledger

end Admission
