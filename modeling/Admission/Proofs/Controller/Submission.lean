import Admission.Proofs.Controller.Finishing
import Admission.Proofs.Scan.Outcome

/-!
# What a request does

`Submission` lists how a request can end and what it leaves behind: refused before it took a
slot, refused because its scan was, answered at once, or queued.  `submission_of_attempt` says
that there is no other way, unless an overflow stops it.
-/

namespace Admission

namespace Controller

variable {σ : Type}

/-- The controller after the requisition in a slot was taken off the ledger. -/
def shredded (controller : Controller σ) (direction : Direction) (slot : SlotId) :
    Controller σ :=
  { controller with ledger := controller.ledger.remove direction slot }.record
    [.event ⟨direction, slot, .shredded⟩]

/-- The controller after a requisition was queued in a slot that left the pool `taken`. -/
def queuing (controller : Controller σ) (direction : Direction) (requisition : Requisition)
    (taken : SlotPool) : Controller σ :=
  { controller with
    ledger := { controller.ledger with pool := taken }.enqueue direction requisition
    attendants := Action.signaled controller.attendants Attendants.reset requisition.attendant
    journal := controller.journal ++
      [.note (.slotsInUse taken.inUse controller.ledger.pool.limit),
        .event ⟨direction, requisition.slot,
          .queued requisition.priority requisition.needed⟩] }

@[simp] theorem store_shredded (controller : Controller σ) (direction : Direction)
    (slot : SlotId) : (controller.shredded direction slot).store = controller.store := rfl

@[simp] theorem ledger_shredded (controller : Controller σ) (direction : Direction)
    (slot : SlotId) :
    (controller.shredded direction slot).ledger = controller.ledger.remove direction slot := rfl

end Controller

/-! ## Finding what was queued -/

theorem Requisition.insert_eq (requisition : Requisition) (queue : List Requisition) :
    ∃ front back, queue = front ++ back ∧
      requisition.insert queue = front ++ requisition :: back := by
  induction queue with
  | nil => exact ⟨[], [], rfl, rfl⟩
  | cons head rest induction =>
      unfold Requisition.insert
      split
      · exact ⟨[], head :: rest, rfl, rfl⟩
      · obtain ⟨front, back, split, inserted⟩ := induction
        exact ⟨head :: front, back, by rw [split, List.cons_append],
          by rw [inserted, List.cons_append]⟩

namespace Ledger

variable {ledger : Ledger} {direction : Direction} {slot : SlotId}

theorem isSome_find?_iff :
    (ledger.find? direction slot).isSome = true ↔
      slot ∈ (ledger.queue direction).map Requisition.slot := by
  simp [find?, List.find?_isSome]

@[simp] theorem queue_enqueue_self (ledger : Ledger) (direction : Direction)
    (requisition : Requisition) :
    (ledger.enqueue direction requisition).queue direction =
      requisition.insert (ledger.queue direction) := queue_setQueue_self _ _ _

theorem queue_enqueue_of_ne (ledger : Ledger) {direction other : Direction}
    (requisition : Requisition) (different : other ≠ direction) :
    (ledger.enqueue direction requisition).queue other = ledger.queue other :=
  queue_setQueue_of_ne _ _ different

@[simp] theorem pool_enqueue (ledger : Ledger) (direction : Direction)
    (requisition : Requisition) : (ledger.enqueue direction requisition).pool = ledger.pool :=
  pool_setQueue _ _ _

@[simp] theorem queue_withPool (ledger : Ledger) (pool : SlotPool) (direction : Direction) :
    ({ ledger with pool := pool } : Ledger).queue direction = ledger.queue direction := by
  cases direction <;> rfl

@[simp] theorem queue_remove_self (ledger : Ledger) (direction : Direction) (slot : SlotId) :
    (ledger.remove direction slot).queue direction =
      (ledger.queue direction).filter fun requisition => requisition.slot ≠ slot := by
  rw [remove, queue_withPool, queue_setQueue_self]

theorem queue_remove_of_ne (ledger : Ledger) {direction other : Direction} (slot : SlotId)
    (different : other ≠ direction) :
    (ledger.remove direction slot).queue other = ledger.queue other := by
  rw [remove, queue_withPool, queue_setQueue_of_ne _ _ different]

@[simp] theorem pool_remove (ledger : Ledger) (direction : Direction) (slot : SlotId) :
    (ledger.remove direction slot).pool = ledger.pool.release slot := by
  cases direction <;> rfl

theorem mem_slots_enqueue (ledger : Ledger) (direction : Direction) (requisition : Requisition) :
    requisition.slot ∈ ((ledger.enqueue direction requisition).queue direction).map
      Requisition.slot := by
  obtain ⟨front, back, -, inserted⟩ :=
    requisition.insert_eq (ledger.queue direction)
  simp [inserted]

end Ledger

theorem Controller.mem_slots_queuing {σ : Type} (controller : Controller σ)
    (direction : Direction) (requisition : Requisition) (taken : SlotPool) :
    requisition.slot ∈ ((controller.queuing direction requisition taken).ledger.queue
      direction).map Requisition.slot := Ledger.mem_slots_enqueue _ direction requisition

/-! ## The parts of a submission -/

namespace Action

variable {σ : Type}

theorem shred_run (direction : Direction) (slot : SlotId) (controller : Controller σ) :
    shred direction slot controller =
      match controller.ledger.find? direction slot with
      | none => .ok false controller
      | some requisition => .ok requisition.serviced (controller.shredded direction slot) := by
  simp only [shred, bind_run, get_run]
  cases controller.ledger.find? direction slot <;> rfl

/-- A requisition that is queued is shredded. -/
theorem shred_of_mem {direction : Direction} {slot : SlotId} {controller : Controller σ}
    (queued : slot ∈ (controller.ledger.queue direction).map Requisition.slot) :
    ∃ requisition, controller.ledger.find? direction slot = some requisition ∧
      shred direction slot controller =
        .ok requisition.serviced (controller.shredded direction slot) := by
  obtain ⟨requisition, found⟩ := Option.isSome_iff_exists.mp (Ledger.isSome_find?_iff.mpr queued)
  exact ⟨requisition, found, by rw [shred_run, found]⟩

theorem discard_shred_of_mem {direction : Direction} {slot : SlotId} {controller : Controller σ}
    (queued : slot ∈ (controller.ledger.queue direction).map Requisition.slot) :
    (discard (shred direction slot) : Action σ PUnit) controller =
      .ok ⟨⟩ (controller.shredded direction slot) := by
  obtain ⟨requisition, -, done⟩ := shred_of_mem queued
  have unfolded : (discard (shred direction slot) : Action σ PUnit) =
      shred direction slot >>= fun _ => pure ⟨⟩ := rfl
  rw [unfolded, bind_run, done]
  rfl

theorem takeSlot_run (direction : Direction) (needed : Space) (priority : Priority)
    (controller : Controller σ) :
    takeSlot direction needed priority controller =
      match controller.ledger.pool.take with
      | none =>
        .error (.refused (.exhausted controller.ledger.pool.limit))
          (controller.record [.note (.noFreeSlot direction priority needed)])
      | some (slot, taken) =>
        .ok slot
          ({ controller with ledger := { controller.ledger with pool := taken } }.record
            [.note (.slotsInUse taken.inUse controller.ledger.pool.limit)]) := by
  simp only [takeSlot, bind_run, get_run]
  cases controller.ledger.pool.take <;> rfl

/-- A scan for a requisition that is queued leaves nothing of it when it is refused. -/
theorem scanFor_run [Store σ] {direction : Direction} {slot : SlotId}
    {controller : Controller σ}
    (queued : slot ∈ (controller.ledger.queue direction).map Requisition.slot) :
    scanFor direction slot controller =
      match scan direction controller with
      | .ok _ final => .ok ⟨⟩ final
      | .error (.overflow kind) final => .error (.overflow kind) final
      | .error (.refused refusal) _ =>
        let noted := controller.record [.note (.scanFailed direction refusal)]
        .error (.refused refusal) (noted.shredded direction slot) := by
  simp only [scanFor, bind_run, attempt]
  cases outcome : scan direction controller with
  | ok serviced final => rfl
  | error failure final =>
      cases failure with
      | overflow kind => rfl
      | refused refusal =>
          obtain ⟨rfl, -⟩ := scan_eq_refused outcome
          have recorded : slot ∈ ((final.record
              [.note (.scanFailed direction refusal)]).ledger.queue direction).map
              Requisition.slot := queued
          simp only [bind_run, note_run, discard_shred_of_mem recorded, refuse_run]

@[simp] theorem enqueue_run (direction : Direction) (requisition : Requisition)
    (controller : Controller σ) :
    enqueue direction requisition controller =
      .ok ⟨⟩ ({ controller with
          ledger := controller.ledger.enqueue direction requisition }.record
        [.event ⟨direction, requisition.slot,
          .queued requisition.priority requisition.needed⟩]) := rfl

end Action

/-! ## How a submission ends -/

/-- The ways in which a submission can end, each with its answer and the controller it leaves. -/
inductive Submission {σ : Type} [Store σ] (direction : Direction) (needed : Space)
    (priority : Priority) (attendant : Option AttendantId) (hold : Bool)
    (controller : Controller σ) : Except Refusal Answer → Controller σ → Prop where
  | invalid :
      needed.valid = false →
      Submission direction needed priority attendant hold controller
        (.error (.invalidArgument .negativeSpace)) controller
  | exhausted :
      needed.valid = true → controller.ledger.pool.take = none →
      Submission direction needed priority attendant hold controller
        (.error (.exhausted controller.ledger.pool.limit))
        ({ controller with
            attendants := Action.signaled controller.attendants Attendants.reset attendant }.record
          [.note (.noFreeSlot direction priority needed)])
  | unanswered {slot : SlotId} {taken : SlotPool} {error : StoreError} {medium : Medium} :
      needed.valid = true → controller.ledger.pool.take = some (slot, taken) →
      (Store.capacity controller.store direction medium = .error (.refused error) ∨
        Store.occupancy controller.store direction medium = .error (.refused error)) →
      Submission direction needed priority attendant hold controller (.error (.store error))
        (((controller.queuing direction ⟨slot, needed, priority, attendant, false⟩ taken).record
          [.note (.scanFailed direction (.store error))]).shredded direction slot)
  | granted {slot : SlotId} {taken : SlotPool} {share : Share} {scanned : Controller σ} :
      needed.valid = true → controller.ledger.pool.take = some (slot, taken) →
      Budget.Offers controller.store direction share →
      scanned = (controller.queuing direction ⟨slot, needed, priority, attendant, false⟩
        taken).scanned direction share →
      scanned.ledger.isServiced direction slot = true → hold = false →
      Submission direction needed priority attendant hold controller (.ok .granted)
        { scanned.shredded direction slot with
          attendants := Action.signaled scanned.attendants Attendants.reset attendant }
  | notServiceable {slot : SlotId} {taken : SlotPool} {share : Share} {scanned : Controller σ} :
      needed.valid = true → controller.ledger.pool.take = some (slot, taken) →
      Budget.Offers controller.store direction share →
      scanned = (controller.queuing direction ⟨slot, needed, priority, attendant, false⟩
        taken).scanned direction share →
      scanned.ledger.isServiced direction slot = false → attendant = none →
      Submission direction needed priority attendant hold controller (.ok .notServiceable)
        ((scanned.record [.event ⟨direction, slot, .notServiceable⟩]).shredded direction slot)
  | queued {slot : SlotId} {taken : SlotPool} {share : Share} {scanned : Controller σ} :
      needed.valid = true → controller.ledger.pool.take = some (slot, taken) →
      Budget.Offers controller.store direction share →
      scanned = (controller.queuing direction ⟨slot, needed, priority, attendant, false⟩
        taken).scanned direction share →
      (scanned.ledger.isServiced direction slot = true ∧ hold = true ∨
        scanned.ledger.isServiced direction slot = false ∧ attendant.isSome = true) →
      Submission direction needed priority attendant hold controller
        (.ok (.queued ⟨direction, slot, attendant⟩)) scanned

namespace Action

variable {σ : Type} {direction : Direction} {needed : Space} {priority : Priority}
  {attendant : Option AttendantId} {hold : Bool} {controller final : Controller σ}
  {outcome : Except Refusal Answer}

/-- The last part of a submission: its answer, once it was scanned for. -/
def answer (direction : Direction) (slot : SlotId) (attendant : Option AttendantId)
    (hold : Bool) : Action σ Answer := do
  let serviced := (← get).ledger.isServiced direction slot
  if serviced && !hold then
    discard (shred direction slot)
    signal attendant Attendants.reset
    return .granted
  else if !serviced && attendant.isNone then
    event direction slot .notServiceable
    discard (shred direction slot)
    return .notServiceable
  else return .queued ⟨direction, slot, attendant⟩

theorem answer_of_granted {slot : SlotId}
    (queued : slot ∈ (controller.ledger.queue direction).map Requisition.slot)
    (serviced : controller.ledger.isServiced direction slot = true) :
    answer direction slot attendant false controller =
      .ok .granted { controller.shredded direction slot with
        attendants := signaled controller.attendants Attendants.reset attendant } := by
  simp only [answer, bind_run, get_run, serviced, Bool.not_false, Bool.and_self, if_true,
    discard_shred_of_mem queued, signal_run, pure_run]
  rfl

theorem answer_of_held {slot : SlotId}
    (serviced : controller.ledger.isServiced direction slot = true) :
    answer direction slot attendant true controller =
      .ok (.queued ⟨direction, slot, attendant⟩) controller := by
  simp [answer, serviced]

theorem answer_of_pending {slot : SlotId} {waiting : AttendantId}
    (pending : controller.ledger.isServiced direction slot = false) :
    answer direction slot (some waiting) hold controller =
      .ok (.queued ⟨direction, slot, some waiting⟩) controller := by
  simp [answer, pending]

theorem answer_of_notServiceable {slot : SlotId}
    (queued : slot ∈ (controller.ledger.queue direction).map Requisition.slot)
    (pending : controller.ledger.isServiced direction slot = false) :
    answer direction slot none hold controller =
      .ok .notServiceable
        ((controller.record [.event ⟨direction, slot, .notServiceable⟩]).shredded
          direction slot) := by
  have recorded : slot ∈ ((controller.record
      [.event ⟨direction, slot, .notServiceable⟩]).ledger.queue direction).map
      Requisition.slot := queued
  simp only [answer, bind_run, get_run, pending, Bool.false_and, Bool.false_eq_true, if_false,
    Bool.not_false, Option.isNone_none, Bool.and_self, if_true, event_run,
    discard_shred_of_mem recorded, pure_run]

variable [Store σ]

/-- What a submission does once it has its slot. -/
theorem submit_run {slot : SlotId} {taken : SlotPool} (valid : needed.valid = true)
    (took : controller.ledger.pool.take = some (slot, taken)) :
    submit direction needed priority attendant hold controller =
      (scanFor direction slot >>= fun _ => answer direction slot attendant hold)
        (controller.queuing direction ⟨slot, needed, priority, attendant, false⟩ taken) := by
  simp only [submit, valid, Bool.not_true, Bool.false_eq_true, if_false, bind_run, signal_run,
    takeSlot_run, took, enqueue_run]
  simp only [Controller.queuing, Controller.record, List.append_assoc, List.cons_append,
    List.nil_append]
  rfl

/-- A submission ends in one of the ways of `Submission`. -/
theorem submission_of_attempt
    (ended : attempt (submit direction needed priority attendant hold) controller =
      .ok outcome final) :
    Submission direction needed priority attendant hold controller outcome final := by
  cases valid : needed.valid with
  | false =>
      have refused : submit direction needed priority attendant hold controller =
          .error (.refused (.invalidArgument .negativeSpace)) controller := by
        simp [submit, valid]
      simp only [attempt, refused, EStateM.Result.ok.injEq] at ended
      obtain ⟨rfl, rfl⟩ := ended
      exact .invalid valid
  | true =>
      cases took : controller.ledger.pool.take with
      | none =>
          have refused : submit direction needed priority attendant hold controller =
              .error (.refused (.exhausted controller.ledger.pool.limit))
                ({ controller with
                    attendants :=
                      signaled controller.attendants Attendants.reset attendant }.record
                  [.note (.noFreeSlot direction priority needed)]) := by
            simp [submit, valid, takeSlot_run, took]
          simp only [attempt, refused, EStateM.Result.ok.injEq] at ended
          obtain ⟨rfl, rfl⟩ := ended
          exact .exhausted valid took
      | some found =>
          obtain ⟨slot, taken⟩ := found
          have here := controller.mem_slots_queuing direction
            ⟨slot, needed, priority, attendant, false⟩ taken
          rw [attempt, submit_run valid took] at ended
          simp only [bind_run, scanFor_run here] at ended
          cases scans : scan direction (controller.queuing direction
              ⟨slot, needed, priority, attendant, false⟩ taken) with
          | error failure between =>
              rw [scans] at ended
              cases failure with
              | overflow kind => cases ended
              | refused refusal =>
                  obtain ⟨-, error, medium, rfl, stopped⟩ := scan_eq_refused scans
                  simp only [EStateM.Result.ok.injEq] at ended
                  obtain ⟨rfl, rfl⟩ := ended
                  exact .unanswered valid took stopped
          | ok serviced between =>
              obtain ⟨share, offers, rfl, -⟩ := scan_eq_ok scans
              have still := Controller.mem_slots_scanned here share
              rw [scans] at ended
              cases serviced : ((controller.queuing direction
                  ⟨slot, needed, priority, attendant, false⟩ taken).scanned direction
                    share).ledger.isServiced direction slot with
              | true =>
                  cases hold with
                  | false =>
                      simp only [answer_of_granted still serviced,
                        EStateM.Result.ok.injEq] at ended
                      obtain ⟨rfl, rfl⟩ := ended
                      exact .granted valid took offers rfl serviced rfl
                  | true =>
                      simp only [answer_of_held serviced, EStateM.Result.ok.injEq] at ended
                      obtain ⟨rfl, rfl⟩ := ended
                      exact .queued valid took offers rfl (Or.inl ⟨serviced, rfl⟩)
              | false =>
                  cases attendant with
                  | none =>
                      simp only [answer_of_notServiceable still serviced,
                        EStateM.Result.ok.injEq] at ended
                      obtain ⟨rfl, rfl⟩ := ended
                      exact .notServiceable valid took offers rfl serviced rfl
                  | some waiting =>
                      simp only [answer_of_pending serviced, EStateM.Result.ok.injEq] at ended
                      obtain ⟨rfl, rfl⟩ := ended
                      exact .queued valid took offers rfl (Or.inr ⟨serviced, rfl⟩)

/-- The scan for a submission that finishes does. -/
theorem scan_finishes_of_submit {slot : SlotId} {taken : SlotPool} (valid : needed.valid = true)
    (took : controller.ledger.pool.take = some (slot, taken))
    (finishes : (submit direction needed priority attendant hold).Finishes controller) :
    (scan direction).Finishes
      (controller.queuing direction ⟨slot, needed, priority, attendant, false⟩ taken) := by
  have here := controller.mem_slots_queuing direction
    ⟨slot, needed, priority, attendant, false⟩ taken
  rw [Finishes, submit_run valid took] at finishes
  intro kind stopped overflows
  refine (Finishes.of_bind finishes).1 kind stopped ?_
  rw [scanFor_run here, overflows]

end Action

end Admission
