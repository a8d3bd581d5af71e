import Admission.Proofs.Controller.Apart

/-!
# Demands of one direction

`Demand` lists what can be asked of a controller for a direction and is done at once: requests,
creations of requesters that do not wait, drops of tickets, scans, and destructions of objects of
the direction.  To meet a demand leaves the other direction as it is (`Controller.Beside.meet`),
and comes to the same at controllers that are alike (`Controller.Alike.meet`), so that it can be met
somewhere else, in another slot and under another identifier (`Demand.transfer`).
-/

namespace Admission

/-- What is asked of a controller for one direction. -/
inductive Demand where
  | request (needed : Space) (priority : Priority) (attendant : Option AttendantId)
  /-- Somebody creates an object who does not wait. -/
  | create (source : Source) (priority : Priority)
  | drop (slot : SlotId) (attendant : Option AttendantId)
  | scan
  | destroy (object : ObjectId)

namespace Demand

/-- What a demand comes to when it is met. -/
inductive Report where
  | answered (answer : Answer)
  | created (progress : Progress PendingCreation Creation)
  | dropped
  | scanned (serviced : Nat)
  | destroyed (direction : Direction)

namespace Report

/-- The slots of the tickets that are handed out. -/
def slots : Report → List SlotId
  | answered (.queued ticket) => [ticket.slot]
  | created (.parked creation) => [creation.ticket.slot]
  | _ => []

/-- The same report with other names for slots and objects. -/
def rename (slots : SlotId → SlotId) (ids : ObjectId → ObjectId) : Report → Report
  | answered answer => answered (answer.relabel slots)
  | created (.finished creation) => created (.finished (creation.rename ids))
  | created (.parked creation) =>
    created (.parked { creation with ticket := creation.ticket.relabel slots })
  | report => report

theorem rename_congr {report : Report} {names others : SlotId → SlotId} (ids : ObjectId → ObjectId)
    (same : ∀ slot ∈ report.slots, names slot = others slot) :
    report.rename names ids = report.rename others ids := by
  rcases report with (_ | _ | ticket) | (creation | creation) | _ | _ | _
  case answered.queued =>
    have here := same ticket.slot List.mem_cons_self
    simp only [rename, Answer.relabel, Ticket.relabel, here]
  case created.parked =>
    have here := same creation.ticket.slot List.mem_cons_self
    simp only [rename, Ticket.relabel, here]
  all_goals rfl

end Report

/-- Meets a demand for a direction; an object that is created gets the identifier `new`. -/
def meet (direction : Direction) (new : ObjectId) : Demand → Action MemoryStore Report
  | request needed priority attendant => do
    return .answered (← Action.request direction needed priority attendant)
  | create source priority => do
    return .created (← Action.create direction source priority none new)
  | drop slot attendant => do
    Action.dropTicket ⟨direction, slot, attendant⟩
    return .dropped
  | scan => do return .scanned (← Action.scan direction)
  | destroy object => do return .destroyed (← Action.destroy object)

theorem meet_create (direction : Direction) (new : ObjectId) (source : Source)
    (priority : Priority) :
    (create source priority).meet direction new = (do
      let creation ← Action.createAtOnce direction source priority new
      return .created (.finished creation)) := by
  simp only [meet, Action.create_unattended, bind_assoc, pure_bind]

/-- Whether a slot is taken to meet the demand. -/
def takes : Demand → Bool
  | request .. | create .. => true
  | drop .. | scan | destroy _ => false

/-- The slots that a demand names. -/
def slots : Demand → List SlotId
  | drop slot _ => [slot]
  | _ => []

theorem slots_of_takes {demand : Demand} (takes : demand.takes = true) : demand.slots = [] := by
  cases demand with
  | request needed priority attendant => rfl
  | create source priority => rfl
  | drop slot attendant => cases takes
  | scan => cases takes
  | destroy object => cases takes

/-- The objects that are to be destroyed. -/
def destroyed : Demand → List ObjectId
  | destroy object => [object]
  | _ => []

/-- The objects that a demand names. -/
def named : Demand → List ObjectId
  | create source _ => source.slicedFrom?.toList
  | destroy object => [object]
  | _ => []

/-- The objects that are made or destroyed to meet a demand. -/
def changed (new : ObjectId) : Demand → List ObjectId
  | create .. => [new]
  | destroy object => [object]
  | _ => []

end Demand

/-- What a demand destroys is of its own direction. -/
def MemoryStore.Owns (store : MemoryStore) (direction : Direction) (demand : Demand) : Prop :=
  ∀ id ∈ demand.destroyed, ∀ stored ∈ store.under id, stored.direction = direction

variable {direction : Direction} {demand : Demand} {new : ObjectId}

/-! ## Beside the direction -/

theorem Controller.Beside.meet {count : Nat} {before between : Controller MemoryStore}
    (beside : Beside direction (demand.changed new) (count + 1) before between)
    (own : between.store.Owns direction demand) :
    (demand.meet direction new).Leaves between
      (Beside direction (demand.changed new) count before) := by
  cases demand with
  | request needed priority attendant =>
      exact (beside.submit needed priority attendant false).bind fun _ _ _ answered =>
        Action.leaves_pure answered _
  | create source priority =>
      rw [Demand.meet_create]
      exact (beside.create source priority).bind fun _ _ _ created => Action.leaves_pure created _
  | drop slot attendant =>
      exact (beside.fewer.dropTicket slot attendant).bind fun _ _ _ dropped =>
        Action.leaves_pure dropped _
  | scan => exact beside.fewer.scan.bind fun _ _ _ scanned => Action.leaves_pure scanned _
  | destroy object =>
      exact (beside.fewer.destroy (own object List.mem_cons_self)).bind fun _ _ _ destroyed =>
        Action.leaves_pure destroyed _

/-! ## At controllers that are alike -/

theorem Controller.Alike.meet {slots : SlotId → SlotId} {ids : ObjectId → ObjectId}
    {known : List ObjectId} {first second : Controller MemoryStore}
    (alike : Alike slots ids known direction first second) (injective : Function.Injective slots)
    (injectiveIds : Function.Injective ids)
    (takes : demand.takes = true → ∃ slot taken takenToo,
      first.ledger.pool.take = some (slot, taken) ∧
        second.ledger.pool.take = some (slots slot, takenToo))
    (fixed : ∀ slot ∈ demand.slots, slots slot = slot)
    (isKnown : ∀ id ∈ demand.named, id ∈ known ∧ ids id = id) (isNew : new ∉ known)
    (isNewToo : ids new ∉ known) (own : first.store.Owns direction demand) :
    Action.Follows (Alike slots ids known direction) (Demand.Report.rename slots ids)
      (demand.meet direction new) (demand.meet direction (ids new)) first second := by
  cases demand with
  | request needed priority attendant =>
      obtain ⟨slot, taken, takenToo, took, tookToo⟩ := takes rfl
      exact (alike.submit injective took tookToo needed priority attendant false).mapped
        fun _ => rfl
  | create source priority =>
      obtain ⟨slot, taken, takenToo, took, tookToo⟩ := takes rfl
      have sliced : ∀ id, source.slicedFrom? = some id → id ∈ known := fun id slices =>
        (isKnown id (by simp [Demand.named, slices])).1
      have creates := alike.create injective sliced isNew isNewToo took tookToo priority
      rw [Demand.meet_create, Demand.meet_create]
      exact creates.mapped fun _ => rfl
  | drop slot attendant =>
      have drops := alike.dropTicket injective slot attendant
      rw [fixed slot List.mem_cons_self] at drops
      exact drops.mapped fun _ => rfl
  | scan => exact alike.scan.mapped fun _ => rfl
  | destroy object =>
      obtain ⟨objectKnown, same⟩ := isKnown object List.mem_cons_self
      exact (alike.destroy injectiveIds objectKnown same (own object List.mem_cons_self)).mapped
        fun _ => rfl

/-! ## Somewhere else -/

namespace Demand

/-- A ticket that is handed out is that of a requisition in the queue. -/
theorem slot_queued {controller final : Controller MemoryStore} {report : Report}
    (roomy : controller.ledger.Roomy 1)
    (done : demand.meet direction new controller = .ok report final) :
    ∀ slot ∈ report.slots, slot ∈ (final.ledger.queue direction).map Requisition.slot := by
  cases demand with
  | request needed priority attendant =>
      obtain ⟨answer, between, submitted, reported⟩ := Action.bind_eq_ok_iff.mp done
      cases reported
      cases answer with
      | granted => simp [Report.slots]
      | notServiceable => simp [Report.slots]
      | queued ticket =>
          obtain ⟨came, handled, isCame, -⟩ := (Action.submission_of_attempt
            (Action.attempt_eq_ok_iff.mpr (Or.inl ⟨_, rfl, submitted⟩))).handled roomy.vacant.spare
          cases came with
          | none => cases isCame
          | some requisition =>
              cases isCame
              obtain ⟨-, -, -, -, stands⟩ := handled.came_spec roomy.wellFormed rfl
              intro slot named
              obtain rfl := List.mem_singleton.mp named
              rcases stands with pending | granted
              · exact List.mem_map_of_mem pending
              · exact List.mem_map.mpr ⟨_, granted, rfl⟩
  | create source priority =>
      rw [meet_create] at done
      obtain ⟨creation, between, created, reported⟩ := Action.bind_eq_ok_iff.mp done
      cases reported
      simp [Report.slots]
  | drop slot attendant =>
      obtain ⟨nothing, between, dropped, reported⟩ := Action.bind_eq_ok_iff.mp done
      cases reported
      simp [Report.slots]
  | scan =>
      obtain ⟨serviced, between, scanned, reported⟩ := Action.bind_eq_ok_iff.mp done
      cases reported
      simp [Report.slots]
  | destroy object =>
      obtain ⟨found, between, destroyed, reported⟩ := Action.bind_eq_ok_iff.mp done
      cases reported
      simp [Report.slots]

/-- Only the names of queued slots matter in what a demand comes to. -/
theorem report_congr {controller final : Controller MemoryStore} {report : Except Refusal Report}
    {names others : SlotId → SlotId} (roomy : controller.ledger.Roomy 1)
    (ended : Action.attempt (demand.meet direction new) controller = .ok report final)
    (same : ∀ slot ∈ (final.ledger.queue direction).map Requisition.slot,
      names slot = others slot) (ids : ObjectId → ObjectId) :
    report.map (Report.rename names ids) = report.map (Report.rename others ids) := by
  rcases Action.attempt_eq_ok_iff.mp ended with ⟨value, rfl, done⟩ | ⟨refusal, rfl, -⟩
  · exact congrArg Except.ok (Report.rename_congr ids fun slot isReported =>
      same slot (slot_queued roomy done slot isReported))
  · rfl

/-- A demand that was met at a controller can be met at one with the same queue and a store that is
alike; the slot that is taken may be another one. -/
theorem transfer {ids : ObjectId → ObjectId} {first second final : Controller MemoryStore}
    {report : Except Refusal Report} (roomy : first.ledger.Roomy 1)
    (roomyToo : second.ledger.Roomy 1)
    (queue : second.ledger.queue direction = first.ledger.queue direction)
    (stores : first.store.Alike ids demand.named direction second.store)
    (injective : Function.Injective ids) (named : ∀ id ∈ demand.named, ids id = id)
    (isNew : new ∉ demand.named) (isNewToo : ids new ∉ demand.named)
    (own : first.store.Owns direction demand)
    (ended : Action.attempt (demand.meet direction new) first = .ok report final) :
    ∃ slots last,
      Action.attempt (demand.meet direction (ids new)) second =
        .ok (report.map (Report.rename slots ids)) last ∧
      Controller.Alike slots ids demand.named direction final last ∧
      ∀ slot ∈ (first.ledger.queue direction).map Requisition.slot, slots slot = slot := by
  obtain ⟨slots, injectiveSlots, takes, named_slots, fixed⟩ :
      ∃ slots : SlotId → SlotId, Function.Injective slots ∧
        (demand.takes = true → ∃ slot taken takenToo,
          first.ledger.pool.take = some (slot, taken) ∧
            second.ledger.pool.take = some (slots slot, takenToo)) ∧
        (∀ slot ∈ demand.slots, slots slot = slot) ∧
        ∀ slot ∈ (first.ledger.queue direction).map Requisition.slot, slots slot = slot := by
    cases isTaker : demand.takes with
    | false => exact ⟨id, Function.injective_id, by simp, fun _ _ => rfl, fun _ _ => rfl⟩
    | true =>
        obtain ⟨slot, taken, took⟩ := roomy.vacant.take
        obtain ⟨slotToo, takenToo, tookToo⟩ := roomyToo.vacant.take
        refine ⟨Equiv.swap slot slotToo, Equiv.injective _, fun _ => ⟨slot, taken, takenToo, took,
          by rw [Equiv.swap_apply_left, tookToo]⟩, ?_, fun other queued => ?_⟩
        · rw [slots_of_takes isTaker]
          simp
        · have fresh := roomy.wellFormed.ready.fresh took direction
          have freshToo := roomyToo.wellFormed.ready.fresh tookToo direction
          rw [queue] at freshToo
          exact Equiv.swap_apply_of_ne_of_ne (fun same => fresh (same ▸ queued))
            (fun same => freshToo (same ▸ queued))
  have alike : Controller.Alike slots ids demand.named direction first second :=
    ⟨by rw [queue, Requisition.map_relabel_of_fixed fixed], stores⟩
  obtain ⟨last, endedToo, alikeLast⟩ := (alike.meet injectiveSlots injective takes named_slots
    (fun id isNamed => ⟨isNamed, named id isNamed⟩) isNew isNewToo own).attempted ended
  exact ⟨slots, last, endedToo, alikeLast, fixed⟩

end Demand

end Admission
