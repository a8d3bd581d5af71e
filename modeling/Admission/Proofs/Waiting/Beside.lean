import Admission.Proofs.Controller.Lives
import Admission.Proofs.Waiting.Steps

/-!
# What others do beside a wait

A wait shares the controller with others, who scan, ask for space, drop tickets, end and resume
attendants, and change the store.  `Errand` is one thing that they do, and `Errand.Beside` says
that it concerns neither the ticket of the wait nor its attendant, which it may end and resume.

`Attended` is what a wait relies on: its requisition is queued, its attendant is of no other
requisition, and a signal means that the requisition is serviced.  `Passes` is what an errand at
the ledger does to that.  It leaves it true, and the attendant is signaled exactly if the
requisition is serviced by it.  Parts of errands pass, and what passes one after the other passes.
-/

namespace Admission

/-! ## Errands -/

/-- The controller after something that may be refused, unless it overflows. -/
def Action.tried {σ α : Type} (action : Action σ α) (controller : Controller σ) :
    Option (Controller σ) :=
  match action.attempt controller with
  | .ok _ final => some final
  | .error .. => none

/-- Something that others do. -/
inductive Errand (σ : Type) where
  | makeAttendant
  | pause (attendant : AttendantId)
  | resume (attendant : AttendantId)
  | scan (direction : Direction)
  | submit (direction : Direction) (needed : Space) (priority : Priority)
      (attendant : Option AttendantId) (hold : Bool)
  | drop (ticket : Ticket)
  /-- The store comes to be another one. -/
  | change (store : σ)

namespace Errand

variable {σ : Type}

/-- Does an errand, if it can be done. -/
def perform [Store σ] (controller : Controller σ) : Errand σ → Option (Controller σ)
  | makeAttendant => some { controller with attendants := controller.attendants.make.2 }
  | pause attendant =>
    some { controller with attendants := controller.attendants.pause attendant }
  | resume attendant =>
    some { controller with attendants := controller.attendants.resume attendant }
  | scan direction => (Action.scan direction).tried controller
  | submit direction needed priority attendant hold =>
    if controller.ledger.pool.Spare then
      (Action.submit direction needed priority attendant hold).tried controller
    else none
  | drop ticket => (Action.dropTicket ticket).tried controller
  | change store => some { controller with store := store }

/-- It is not done for the requisition of a ticket, nor for another one with its attendant. -/
def Beside (ticket : Ticket) : Errand σ → Prop
  | submit _ _ _ attendant _ => attendant ≠ ticket.attendant
  | drop other => other.slot ≠ ticket.slot
  | makeAttendant | pause _ | resume _ | scan _ | change _ => True

end Errand

theorem Action.attempt_of_tried {σ α : Type} {action : Action σ α}
    {controller final : Controller σ} (tried : action.tried controller = some final) :
    ∃ outcome, action.attempt controller = .ok outcome final := by
  unfold Action.tried at tried
  split at tried
  · next outcome between ended =>
      cases tried
      exact ⟨outcome, ended⟩
  · cases tried

namespace Attendants

theorem length_foldl_give (attendants : Attendants) (ids : List AttendantId) :
    (ids.foldl give attendants).signals.length = attendants.signals.length := by
  induction ids generalizing attendants with
  | nil => rfl
  | cons first rest induction =>
      rw [List.foldl_cons, induction]
      exact length_modify attendants first _

/-- A new attendant leaves the others alone. -/
theorem get_make {attendants : Attendants} {id : AttendantId}
    (made : id.place < attendants.signals.length) :
    attendants.make.2.get id = attendants.get id := by
  simp [make, get, List.getElem?_append_left made]

/-- Whoever is signaled has a signal then, and the others are left alone. -/
theorem get_foldl_give {attendants : Attendants} {id : AttendantId}
    (made : id.place < attendants.signals.length) (ids : List AttendantId) :
    (ids.foldl give attendants).get id =
      ⟨(attendants.get id).given || decide (id ∈ ids), (attendants.get id).ended⟩ := by
  induction ids generalizing attendants with
  | nil => simp
  | cons first rest induction =>
      have given : (attendants.give first).get id =
          ⟨(attendants.get id).given || decide (id = first), (attendants.get id).ended⟩ := by
        by_cases here : id = first
        · subst here
          rw [give, get_modify_self made]
          simp
        · rw [give, get_modify_of_ne here]
          simp [here]
      rw [List.foldl_cons, induction (by rwa [give, length_modify]), given]
      simp [Bool.or_assoc]

end Attendants

/-! ## What a wait relies on -/

/-- The requisition of a ticket is queued, has an attendant of its own, and is serviced if that
has a signal. -/
structure Attended {σ : Type} (ticket : Ticket) (waiting : AttendantId)
    (controller : Controller σ) : Prop where
  ledger : controller.ledger.WellFormed
  attendant : ticket.attendant = some waiting
  made : waiting.place < controller.attendants.signals.length
  queued : ∃ requisition ∈ controller.ledger.queue ticket.direction,
    requisition.ticket ticket.direction = ticket
  alone : ∀ direction, ∀ requisition ∈ controller.ledger.queue direction,
    requisition.attendant = some waiting → requisition.slot = ticket.slot
  given : (controller.attendants.get waiting).given = true →
    controller.ledger.isServiced ticket.direction ticket.slot = true

/-- The requisition of a ticket was not serviced before, and is after. -/
def Controller.services {σ : Type} (ticket : Ticket) (before after : Controller σ) : Bool :=
  !before.ledger.isServiced ticket.direction ticket.slot &&
    after.ledger.isServiced ticket.direction ticket.slot

/-- The attendants whom a scan signals, if the walk begins with that share. -/
def Controller.signaled {σ : Type} (controller : Controller σ) (direction : Direction)
    (share : Share) : List AttendantId :=
  (turnedOn (controller.ledger.queue direction)
    (grantAll share (controller.ledger.queue direction))).filterMap Requisition.attendant

/-- What is done at the ledger leaves a wait in order, and signals its attendant if its
requisition is serviced. -/
structure Passes {σ : Type} (ticket : Ticket) (waiting : AttendantId)
    (before after : Controller σ) : Prop where
  attended : Attended ticket waiting after
  kept : before.ledger.isServiced ticket.direction ticket.slot = true →
    after.ledger.isServiced ticket.direction ticket.slot = true
  signal : after.attendants.get waiting =
    ⟨(before.attendants.get waiting).given || before.services ticket after,
      (before.attendants.get waiting).ended⟩

section Passes

variable {σ : Type} {ticket : Ticket} {waiting : AttendantId}
  {before between after controller : Controller σ}

namespace Passes

theorem trans (first : Passes ticket waiting before between)
    (second : Passes ticket waiting between after) : Passes ticket waiting before after where
  attended := second.attended
  kept := fun serviced => second.kept (first.kept serviced)
  signal := by
    have early := first.kept
    have late := second.kept
    rw [second.signal, first.signal]
    unfold Controller.services
    revert early late
    cases before.ledger.isServiced ticket.direction ticket.slot <;>
      cases between.ledger.isServiced ticket.direction ticket.slot <;>
      cases after.ledger.isServiced ticket.direction ticket.slot <;> simp

/-- What leaves the ledger and the attendant alone passes. -/
theorem of_same (attended : Attended ticket waiting before)
    (ledger : after.ledger = before.ledger)
    (length : before.attendants.signals.length ≤ after.attendants.signals.length)
    (signal : after.attendants.get waiting = before.attendants.get waiting) :
    Passes ticket waiting before after where
  attended := by
    refine ⟨?_, attended.attendant, attended.made.trans_le length, ?_, ?_, ?_⟩ <;> rw [ledger]
    · exact attended.ledger
    · exact attended.queued
    · exact attended.alone
    · rw [signal]
      exact attended.given
  kept := by
    rw [ledger]
    exact id
  signal := by
    rw [signal, Controller.services, ledger, Bool.not_and_self, Bool.or_false]

theorem refl (attended : Attended ticket waiting before) :
    Passes ticket waiting before before := of_same attended rfl le_rfl rfl

/-- A change of the ledger passes that neither touches the requisition of the wait nor brings one
with its attendant. -/
theorem of_ledger {ledger : Ledger} (attended : Attended ticket waiting controller)
    (formed : ledger.WellFormed)
    (stays : ∀ requisition ∈ controller.ledger.queue ticket.direction,
      requisition.slot = ticket.slot → requisition ∈ ledger.queue ticket.direction)
    (stood : ∀ direction, ∀ requisition ∈ ledger.queue direction,
      requisition.slot = ticket.slot ∨ requisition.attendant = some waiting →
        requisition ∈ controller.ledger.queue direction) :
    Passes ticket waiting controller { controller with ledger := ledger } := by
  have same : ledger.isServiced ticket.direction ticket.slot =
      controller.ledger.isServiced ticket.direction ticket.slot := by
    rw [Bool.eq_iff_iff, formed.isServiced_iff, attended.ledger.isServiced_iff]
    constructor
    · rintro ⟨requisition, queued, isSlot, serviced⟩
      exact ⟨requisition, stood _ requisition queued (Or.inl isSlot), isSlot, serviced⟩
    · rintro ⟨requisition, queued, isSlot, serviced⟩
      exact ⟨requisition, stays requisition queued isSlot, isSlot, serviced⟩
  refine ⟨⟨formed, attended.attendant, attended.made, ?_, ?_, ?_⟩, ?_, ?_⟩
  · obtain ⟨requisition, queued, isTicket⟩ := attended.queued
    exact ⟨requisition, stays requisition queued (congrArg Ticket.slot isTicket), isTicket⟩
  · exact fun direction requisition queued own => attended.alone direction requisition
      (stood direction requisition queued (Or.inr own)) own
  · exact fun given => same.trans (attended.given given)
  · exact fun serviced => same.trans serviced
  · simp [Controller.services, same]

end Passes

namespace Attended

theorem record (attended : Attended ticket waiting controller) (entries : List Entry) :
    Passes ticket waiting controller (controller.record entries) :=
  .of_same attended rfl le_rfl rfl

/-- Whoever discards the signal of another attendant leaves that of the wait. -/
theorem reset_other (attended : Attended ticket waiting controller)
    {attendant : Option AttendantId} (different : attendant ≠ ticket.attendant) :
    Passes ticket waiting controller { controller with
      attendants := Action.signaled controller.attendants Attendants.reset attendant } := by
  cases attendant with
  | none => exact .refl attended
  | some other =>
      refine .of_same attended rfl (by simp [Action.signaled, Attendants.reset]) ?_
      refine Attendants.get_modify_of_ne ?_ _
      rintro rfl
      exact different attended.attendant.symm

/-- The slot that is taken next is not that of the ticket. -/
theorem slot_ne_of_joins (attended : Attended ticket waiting controller)
    {requisition : Requisition} {taken : SlotPool}
    (joins : Joins controller.ledger requisition taken) : requisition.slot ≠ ticket.slot := by
  intro same
  obtain ⟨own, stood, isTicket⟩ := attended.queued
  exact attended.ledger.fresh_of_take joins.spare joins.took ticket.direction
    (List.mem_map.mpr ⟨own, stood, (congrArg Ticket.slot isTicket).trans same.symm⟩)

/-- Another requisition is queued. -/
theorem joined (attended : Attended ticket waiting controller) {requisition : Requisition}
    {taken : SlotPool} (joins : Joins controller.ledger requisition taken)
    (different : requisition.attendant ≠ ticket.attendant) (direction : Direction) :
    Passes ticket waiting controller { controller with
      ledger := controller.ledger.joined direction requisition taken } := by
  refine .of_ledger attended (attended.ledger.joined joins direction) ?_ ?_
  · exact fun another queued _ => Ledger.mem_queue_joined.mpr (Or.inr queued)
  · intro other another queued concerns
    rcases Ledger.mem_queue_joined.mp queued with ⟨-, rfl⟩ | stood
    · rcases concerns with isSlot | own
      · exact absurd isSlot (attended.slot_ne_of_joins joins)
      · exact absurd (own.trans attended.attendant.symm) different
    · exact stood

/-- Another requisition is taken off the ledger. -/
theorem remove (attended : Attended ticket waiting controller) {direction : Direction}
    {slot : SlotId} (queued : slot ∈ (controller.ledger.queue direction).map Requisition.slot)
    (different : slot ≠ ticket.slot) :
    Passes ticket waiting controller { controller with
      ledger := controller.ledger.remove direction slot } := by
  refine .of_ledger attended (attended.ledger.remove queued) ?_ ?_
  · exact fun another stood isSlot => (attended.ledger.mem_queue_remove queued).mpr
      ⟨stood, fun isGone => different (isGone ▸ isSlot)⟩
  · exact fun other another stays _ => ((attended.ledger.mem_queue_remove queued).mp stays).1

/-- The requisition of the ticket after a queue was gone over, and whether it was among those that
were turned on. -/
theorem standing (attended : Attended ticket waiting controller) (share : Share) :
    let queue := controller.ledger.queue ticket.direction
    let told := (turnedOn queue (grantAll share queue)).filter fun other =>
      other.slot = ticket.slot
    ∃ requisition ∈ grantAll share queue, requisition.ticket ticket.direction = ticket ∧
      (requisition ∈ queue ∧ told = [] ∨
        (∃ before ∈ queue, before.slot = ticket.slot ∧ before.serviced = false) ∧
          requisition.serviced = true ∧ told = [requisition]) := by
  obtain ⟨requisition, queued, isTicket⟩ := attended.queued
  have distinct := attended.ledger.queue_nodup ticket.direction
  have found : ∃ standing ∈ grantAll share (controller.ledger.queue ticket.direction),
      standing.ticket ticket.direction = ticket := by
    have remains : requisition ∈ grantAll share (controller.ledger.queue ticket.direction) ∨ _ :=
      mem_grantAll queued
    rcases remains with stands | stands
    · exact ⟨requisition, stands, isTicket⟩
    · exact ⟨requisition.granted, stands, isTicket⟩
  obtain ⟨standing, stands, standingTicket⟩ := found
  have isSlot : standing.slot = ticket.slot := congrArg Ticket.slot standingTicket
  have cases := turnedOn_cases distinct stands
  rw [isSlot] at cases
  refine ⟨standing, stands, standingTicket, cases.imp_right ?_⟩
  rintro ⟨before, present, isPending, rfl, told⟩
  exact ⟨⟨before, present, isSlot, isPending⟩, rfl, told⟩

/-- Nobody else has the attendant of the wait after a queue was gone over. -/
theorem alone_scanned (attended : Attended ticket waiting controller) (direction : Direction)
    (share : Share) :
    ∀ other, ∀ requisition ∈ (controller.scanned direction share).ledger.queue other,
      requisition.attendant = some waiting → requisition.slot = ticket.slot := by
  intro other requisition queued own
  by_cases here : other = direction
  · subst here
    rw [Controller.ledger_scanned, Ledger.queue_setQueue_self] at queued
    rcases mem_of_mem_grantAll queued with stood | ⟨before, stood, -, rfl⟩
    · exact attended.alone other requisition stood own
    · exact attended.alone other before stood own
  · rw [Controller.ledger_scanned, Ledger.queue_setQueue_of_ne _ _ here] at queued
    exact attended.alone other requisition queued own

/-- If the attendant of the wait is signaled, it is for the requisition of the wait. -/
theorem turnedOn_of_signaled (attended : Attended ticket waiting controller)
    {direction : Direction} {share : Share}
    (signaled : waiting ∈ controller.signaled direction share) :
    ∃ requisition ∈ turnedOn (controller.ledger.queue direction)
      (grantAll share (controller.ledger.queue direction)),
      requisition ∈ (controller.scanned direction share).ledger.queue direction ∧
        requisition.slot = ticket.slot := by
  obtain ⟨requisition, turned, own⟩ := List.mem_filterMap.mp signaled
  have stands : requisition ∈ (controller.scanned direction share).ledger.queue direction := by
    rw [Controller.ledger_scanned, Ledger.queue_setQueue_self]
    exact mem_of_mem_turnedOn turned
  exact ⟨requisition, turned, stands,
    attended.alone_scanned direction share direction requisition stands own⟩

/-- The queue of the ticket is gone over: its requisition is serviced then exactly if its
attendant is signaled. -/
theorem services_scanned_self (attended : Attended ticket waiting controller) (share : Share) :
    let after := controller.scanned ticket.direction share
    (∃ requisition ∈ after.ledger.queue ticket.direction,
      requisition.ticket ticket.direction = ticket) ∧
    (controller.ledger.isServiced ticket.direction ticket.slot = true →
      after.ledger.isServiced ticket.direction ticket.slot = true) ∧
    controller.services ticket after =
      decide (waiting ∈ controller.signaled ticket.direction share) := by
  intro after
  obtain ⟨standing, stands, isTicket, cases⟩ := attended.standing share
  have queued : standing ∈ after.ledger.queue ticket.direction := by
    rwa [Controller.ledger_scanned, Ledger.queue_setQueue_self]
  have isSlot : standing.slot = ticket.slot := congrArg Ticket.slot isTicket
  have formed : after.ledger.WellFormed := attended.ledger.granting ticket.direction share
  have servicedAfter := formed.isServiced_of_mem queued
  rw [isSlot] at servicedAfter
  refine ⟨⟨standing, queued, isTicket⟩, ?_⟩
  rcases cases with ⟨stood, nothing⟩ | ⟨⟨before, stood, beforeSlot, isPending⟩, serviced, told⟩
  · have servicedBefore := attended.ledger.isServiced_of_mem stood
    rw [isSlot] at servicedBefore
    have unsignaled : waiting ∉ controller.signaled ticket.direction share := by
      intro signaled
      obtain ⟨requisition, turned, -, same⟩ := attended.turnedOn_of_signaled signaled
      exact List.filter_eq_nil_iff.mp nothing requisition turned (decide_eq_true same)
    rw [Controller.services, servicedBefore, servicedAfter, Bool.not_and_self,
      decide_eq_false unsignaled]
    exact ⟨id, rfl⟩
  · have servicedBefore := attended.ledger.isServiced_of_mem stood
    rw [beforeSlot, isPending] at servicedBefore
    have turned : standing ∈ turnedOn (controller.ledger.queue ticket.direction)
        (grantAll share (controller.ledger.queue ticket.direction)) :=
      (List.mem_filter.mp (told ▸ List.mem_singleton_self standing)).1
    have signaled : waiting ∈ controller.signaled ticket.direction share :=
      List.mem_filterMap.mpr
        ⟨standing, turned, (congrArg Ticket.attendant isTicket).trans attended.attendant⟩
    rw [Controller.services, servicedBefore, servicedAfter, serviced, decide_eq_true signaled]
    exact ⟨fun _ => rfl, rfl⟩

/-- The other queue is gone over: the attendant is not signaled. -/
theorem not_signaled_of_ne (attended : Attended ticket waiting controller)
    {direction : Direction} (here : ticket.direction ≠ direction) (share : Share) :
    waiting ∉ controller.signaled direction share := by
  intro signaled
  obtain ⟨other, -, stands, same⟩ := attended.turnedOn_of_signaled signaled
  obtain ⟨requisition, stood, isTicket⟩ := attended.queued
  have formed : (controller.scanned direction share).ledger.WellFormed :=
    attended.ledger.granting direction share
  refine formed.disjoint here (List.mem_map_of_mem stands) ?_
  rw [Controller.ledger_scanned, Ledger.queue_setQueue_of_ne _ _ here, same, ← isTicket]
  exact List.mem_map_of_mem stood

theorem isServiced_scanned_of_ne {direction : Direction} (here : ticket.direction ≠ direction)
    (share : Share) :
    (controller.scanned direction share).ledger.isServiced ticket.direction ticket.slot =
      controller.ledger.isServiced ticket.direction ticket.slot := by
  rw [Ledger.isServiced, Ledger.find?, Controller.ledger_scanned,
    Ledger.queue_setQueue_of_ne _ _ here]
  rfl

/-- A queue is gone over. -/
theorem scanned (attended : Attended ticket waiting controller) (direction : Direction)
    (share : Share) : Passes ticket waiting controller (controller.scanned direction share) := by
  let after := controller.scanned direction share
  obtain ⟨queued, kept, services⟩ :
      (∃ requisition ∈ after.ledger.queue ticket.direction,
        requisition.ticket ticket.direction = ticket) ∧
      (controller.ledger.isServiced ticket.direction ticket.slot = true →
        after.ledger.isServiced ticket.direction ticket.slot = true) ∧
      controller.services ticket after =
        decide (waiting ∈ controller.signaled direction share) := by
    by_cases here : ticket.direction = direction
    · subst here
      exact attended.services_scanned_self share
    · obtain ⟨requisition, stood, isTicket⟩ := attended.queued
      refine ⟨⟨requisition, ?_, isTicket⟩, ?_, ?_⟩
      · rwa [Controller.ledger_scanned, Ledger.queue_setQueue_of_ne _ _ here]
      · exact (isServiced_scanned_of_ne here share).trans
      · rw [Controller.services, isServiced_scanned_of_ne here share, Bool.not_and_self,
          decide_eq_false (attended.not_signaled_of_ne here share)]
  have signal : after.attendants.get waiting =
      ⟨(controller.attendants.get waiting).given || controller.services ticket after,
        (controller.attendants.get waiting).ended⟩ := by
    rw [services]
    exact Attendants.get_foldl_give attended.made (controller.signaled direction share)
  refine ⟨⟨attended.ledger.granting direction share, attended.attendant, ?_, queued,
    attended.alone_scanned direction share, fun given => ?_⟩, kept, signal⟩
  · exact attended.made.trans_eq (Attendants.length_foldl_give _ _).symm
  · change (after.attendants.get waiting).given = true at given
    rw [signal, Bool.or_eq_true] at given
    rcases given with was | turned
    · exact kept (attended.given was)
    · exact (Bool.and_eq_true_iff.mp turned).2

/-- Another requisition is queued, in a slot that was taken for it. -/
theorem queuing (attended : Attended ticket waiting controller) {requisition : Requisition}
    {taken : SlotPool} (joins : Joins controller.ledger requisition taken)
    (different : requisition.attendant ≠ ticket.attendant) (direction : Direction) :
    Passes ticket waiting controller (controller.queuing direction requisition taken) := by
  have joined := attended.joined joins different direction
  have reset := joined.attended.reset_other different
  exact (joined.trans reset).trans (reset.attended.record _)

/-- Another requisition is taken off the ledger, and the watcher is told. -/
theorem shredded (attended : Attended ticket waiting controller) {direction : Direction}
    {slot : SlotId} (queued : slot ∈ (controller.ledger.queue direction).map Requisition.slot)
    (different : slot ≠ ticket.slot) :
    Passes ticket waiting controller (controller.shredded direction slot) :=
  have removed := attended.remove queued different
  removed.trans (removed.attended.record _)

end Attended

/-! ## Errands at the ledger -/

section Ledger

variable [Store σ]

/-- A request with another attendant passes. -/
theorem Submission.passes {direction : Direction} {needed : Space} {priority : Priority}
    {attendant : Option AttendantId} {hold : Bool} {answer : Except Refusal Answer}
    (submission : Submission direction needed priority attendant hold controller answer after)
    (spare : controller.ledger.pool.Spare) (attended : Attended ticket waiting controller)
    (different : attendant ≠ ticket.attendant) : Passes ticket waiting controller after := by
  have joins : ∀ {slot : SlotId} {taken : SlotPool}, needed.valid = true →
      controller.ledger.pool.take = some (slot, taken) →
      Joins controller.ledger ⟨slot, needed, priority, attendant, false⟩ taken :=
    fun valid took => ⟨valid, rfl, spare, took⟩
  have scanned : ∀ {slot : SlotId} {taken : SlotPool} (share : Share),
      Joins controller.ledger ⟨slot, needed, priority, attendant, false⟩ taken →
      Passes ticket waiting controller ((controller.queuing direction
        ⟨slot, needed, priority, attendant, false⟩ taken).scanned direction share) := by
    intro slot taken share joined
    have queued := attended.queuing joined different direction
    exact queued.trans (queued.attended.scanned direction share)
  have stillQueued : ∀ (slot : SlotId) (taken : SlotPool) (share : Share),
      slot ∈ (((controller.queuing direction ⟨slot, needed, priority, attendant, false⟩
        taken).scanned direction share).ledger.queue direction).map Requisition.slot :=
    fun slot taken share => Controller.mem_slots_scanned (controller.mem_slots_queuing ..) share
  cases submission with
  | invalid invalid => exact .refl attended
  | exhausted valid full =>
      have reset := attended.reset_other different
      exact reset.trans (reset.attended.record _)
  | @unanswered slot taken error medium valid took stopped =>
      have joined := joins valid took
      have queued := attended.queuing joined different direction
      have noted := queued.trans (queued.attended.record
        [.note (.scanFailed direction (.store error))])
      exact noted.trans (noted.attended.shredded (controller.mem_slots_queuing ..)
        (attended.slot_ne_of_joins joined))
  | @granted slot taken share scannedTo valid took offers isScanned serviced released =>
      subst isScanned
      have joined := joins valid took
      have passes := scanned share joined
      have gone := passes.trans (passes.attended.shredded (stillQueued slot taken share)
        (attended.slot_ne_of_joins joined))
      exact gone.trans (gone.attended.reset_other different)
  | @notServiceable slot taken share scannedTo valid took offers isScanned pending alone =>
      subst isScanned
      have joined := joins valid took
      have passes := scanned share joined
      have told := passes.trans (passes.attended.record
        [.event ⟨direction, slot, .notServiceable⟩])
      exact told.trans (told.attended.shredded (stillQueued slot taken share)
        (attended.slot_ne_of_joins joined))
  | queued valid took offers isScanned outcome =>
      subst isScanned
      exact scanned _ (joins valid took)

/-- The drop of another ticket passes. -/
theorem Release.passes {other : Ticket} (release : Release other controller after)
    (attended : Attended ticket waiting controller) (different : other.slot ≠ ticket.slot) :
    Passes ticket waiting controller after := by
  cases release with
  | absent missing => exact .refl attended
  | pending found isPending =>
      exact attended.shredded (Ledger.mem_slots_of_find? found) different
  | unanswered found serviced stopped =>
      have gone := attended.shredded (Ledger.mem_slots_of_find? found) different
      exact gone.trans (gone.attended.record _)
  | rescanned found serviced offers =>
      have gone := attended.shredded (Ledger.mem_slots_of_find? found) different
      exact gone.trans (gone.attended.scanned _ _)

/-- A scan passes. -/
theorem Attended.scan (attended : Attended ticket waiting controller) {direction : Direction}
    {outcome : Except Refusal Nat}
    (ended : Action.attempt (Action.scan direction) controller = .ok outcome after) :
    Passes ticket waiting controller after := by
  rcases Action.rescan_of_attempt ended with ⟨share, -, rfl⟩ | ⟨rfl, -⟩
  · exact attended.scanned direction share
  · exact .refl attended

/-- Whoever queues a requisition with an attendant of its own can wait for it. -/
theorem Submission.attended {direction : Direction} {needed : Space} {priority : Priority}
    {hold : Bool} (submission : Submission direction needed priority (some waiting) hold controller
      (.ok (.queued ticket)) after)
    (spare : controller.ledger.pool.Spare) (wellFormed : controller.ledger.WellFormed)
    (made : waiting.place < controller.attendants.signals.length)
    (unused : ∀ other, ∀ requisition ∈ controller.ledger.queue other,
      requisition.attendant ≠ some waiting) : Attended ticket waiting after := by
  cases submission with
  | @queued slot taken share scanned valid took offers isScanned outcome =>
      subst isScanned
      have joins : Joins controller.ledger ⟨slot, needed, priority, some waiting, false⟩ taken :=
        ⟨valid, rfl, spare, took⟩
      have queued : Attended ⟨direction, slot, some waiting⟩ waiting (controller.queuing direction
          ⟨slot, needed, priority, some waiting, false⟩ taken) := by
        constructor
        case ledger => exact wellFormed.joined joins direction
        case attendant => rfl
        case made => exact made.trans_eq (Attendants.length_modify _ waiting _).symm
        case queued => exact ⟨_, Ledger.mem_queue_joined.mpr (Or.inl ⟨rfl, rfl⟩), rfl⟩
        case alone =>
          intro other requisition queued own
          rcases Ledger.mem_queue_joined.mp queued with ⟨-, rfl⟩ | old
          · rfl
          · exact absurd own (unused other requisition old)
        case given =>
          intro given
          change ((controller.attendants.reset waiting).get waiting).given = true at given
          rw [Attendants.get_reset_self] at given
          cases given
      exact (queued.scanned direction share).attended

end Ledger

end Passes

/-! ## What an errand does to a wait -/

section Errands

variable {σ : Type} {ticket : Ticket} {waiting : AttendantId}
  {controller after : Controller σ} {errand : Errand σ}

/-- Whether an errand that leaves the controller `after` calls whoever waits with a ticket: it
ends the attendant, or services the requisition. -/
def Errand.calls (ticket : Ticket) (controller after : Controller σ) : Errand σ → Bool
  | pause attendant => ticket.attendant = some attendant
  | scan _ | submit .. | drop _ => controller.services ticket after
  | makeAttendant | resume _ | change _ => false

/-- What an errand does to a wait.  It leaves it in order.  The flags of the attendant are clear
afterwards if the errand resumes it, and otherwise only if they were before and the wait is not
called. -/
structure Heard (ticket : Ticket) (waiting : AttendantId) (errand : Errand σ)
    (before after : Controller σ) : Prop where
  attended : Attended ticket waiting after
  kept : before.ledger.isServiced ticket.direction ticket.slot = true →
    after.ledger.isServiced ticket.direction ticket.slot = true
  clear_iff : after.attendants.get waiting = .clear ↔ errand = .resume waiting ∨
    errand.calls ticket before after = false ∧ before.attendants.get waiting = .clear

/-- What passes is heard if it calls whom it services. -/
theorem Passes.heard (passes : Passes ticket waiting controller after)
    (calls : errand.calls ticket controller after = controller.services ticket after)
    (other : errand ≠ .resume waiting) : Heard ticket waiting errand controller after where
  attended := passes.attended
  kept := passes.kept
  clear_iff := by
    rw [passes.signal, calls]
    obtain ⟨given, ended⟩ := controller.attendants.get waiting
    cases given <;> cases ended <;> cases controller.services ticket after <;>
      simp [Signal.clear, other]

/-- The flags of an attendant may be changed, but only a scan signals it. -/
theorem Attended.modify (attended : Attended ticket waiting controller) (id : AttendantId)
    (change : Signal → Signal)
    (gives : ∀ signal, (change signal).given = true → signal.given = true) :
    Attended ticket waiting { controller with
      attendants := controller.attendants.modify id change } where
  ledger := attended.ledger
  attendant := attended.attendant
  made := attended.made.trans_eq (Attendants.length_modify _ id change).symm
  queued := attended.queued
  alone := attended.alone
  given := by
    intro given
    refine attended.given ?_
    by_cases own : waiting = id
    · subst own
      change (Attendants.get _ waiting).given = true at given
      rw [Attendants.get_modify_self attended.made] at given
      exact gives _ given
    · change (Attendants.get _ waiting).given = true at given
      rwa [Attendants.get_modify_of_ne own] at given

/-- The flags of other attendants do not matter to the wait. -/
theorem Attended.modify_other (attended : Attended ticket waiting controller) {id : AttendantId}
    (other : waiting ≠ id) (change : Signal → Signal) :
    Passes ticket waiting controller { controller with
      attendants := controller.attendants.modify id change } :=
  .of_same attended rfl (Attendants.length_modify _ id change).ge
    (Attendants.get_modify_of_ne other change)

theorem Controller.services_of_same (ticket : Ticket) (same : after.ledger = controller.ledger) :
    controller.services ticket after = false := by
  rw [services, same, Bool.not_and_self]

/-- An attendant is ended, which calls the wait if it is its own. -/
theorem Attended.pause (attended : Attended ticket waiting controller) (id : AttendantId) :
    Heard ticket waiting (.pause id) controller { controller with
      attendants := controller.attendants.pause id } := by
  by_cases own : waiting = id
  · subst own
    refine ⟨attended.modify waiting _ fun signal given => given, fun serviced => serviced, ?_⟩
    have calls : Errand.calls ticket controller { controller with
        attendants := controller.attendants.pause waiting } (.pause waiting) = true :=
      decide_eq_true attended.attendant
    rw [Attendants.pause] at calls ⊢
    rw [calls, Attendants.get_modify_self attended.made]
    simp [Signal.clear]
  · have calls : Errand.calls ticket controller { controller with
        attendants := controller.attendants.pause id } (.pause id) = false :=
      decide_eq_false fun same => own (Option.some.inj (attended.attendant.symm.trans same))
    exact (attended.modify_other own _).heard
      (calls.trans (Controller.services_of_same ticket rfl).symm) (by simp)

/-- An attendant is resumed, which clears the flags of the wait if it is its own. -/
theorem Attended.resume (attended : Attended ticket waiting controller) (id : AttendantId) :
    Heard ticket waiting (.resume id) controller { controller with
      attendants := controller.attendants.resume id } := by
  by_cases own : waiting = id
  · subst own
    refine ⟨attended.modify waiting _ fun signal given => Bool.noConfusion given,
      fun serviced => serviced, ?_⟩
    rw [Attendants.resume, Attendants.get_modify_self attended.made]
    simp
  · exact (attended.modify_other own _).heard (Controller.services_of_same ticket rfl).symm
      (by simpa using Ne.symm own)

/-- Every errand beside a wait is heard. -/
theorem Errand.heard [Store σ] (performed : errand.perform controller = some after)
    (beside : errand.Beside ticket) (attended : Attended ticket waiting controller) :
    Heard ticket waiting errand controller after := by
  cases errand with
  | makeAttendant =>
      cases performed
      have same : Passes ticket waiting controller { controller with
          attendants := controller.attendants.make.2 } :=
        .of_same attended rfl (by simp [Attendants.make]) (Attendants.get_make attended.made)
      exact same.heard (Controller.services_of_same ticket rfl).symm (by simp)
  | pause id =>
      cases performed
      exact attended.pause id
  | resume id =>
      cases performed
      exact attended.resume id
  | scan direction =>
      obtain ⟨outcome, ended⟩ := Action.attempt_of_tried performed
      exact (attended.scan ended).heard rfl (by simp)
  | submit direction needed priority attendant hold =>
      simp only [perform] at performed
      split at performed
      · next spare =>
          obtain ⟨answer, ended⟩ := Action.attempt_of_tried performed
          exact ((Action.submission_of_attempt ended).passes spare attended beside).heard rfl
            (by simp)
      · cases performed
  | drop other =>
      obtain ⟨outcome, ended⟩ := Action.attempt_of_tried performed
      exact ((Action.release_of_attempt ended).passes attended beside).heard rfl (by simp)
  | change store =>
      cases performed
      have same : Passes ticket waiting controller { controller with store := store } :=
        .of_same attended rfl le_rfl rfl
      exact same.heard (Controller.services_of_same ticket rfl).symm (by simp)

end Errands

end Admission
