import Admission.Proofs.Controller.Handled
import Mathlib.Logic.Relation

/-!
# The books of a controller

The ledger and the journal are the books of a controller, and what is done to the one is written
down in the other.  `Chore` lists the few things that are done to both at once.  Requests, drops
of tickets and scans, which are the deeds that need the ledger, are chores in a row
(`Deed.chores`), whatever the store answers.  So what the journal tells of the ledger is proved
chore by chore.
-/

namespace Admission

/-- What a controller writes down. -/
structure Books where
  ledger : Ledger
  journal : Journal

/-- Writes entries to the journal, and leaves the ledger as it is. -/
def Books.record (books : Books) (entries : List Entry) : Books :=
  { books with journal := books.journal ++ entries }

/-- The ledger and the journal of a controller. -/
def Controller.books {σ : Type} (controller : Controller σ) : Books :=
  ⟨controller.ledger, controller.journal⟩

/-- One thing that is done to the books. -/
inductive Chore : Books → Books → Prop where
  | remark {books : Books} (note : Note) : Chore books (books.record [.note note])
  /-- A watcher is told that the wait of a requester was cancelled. -/
  | interrupt {books : Books} (direction : Direction) (slot : SlotId) :
      Chore books (books.record [.event ⟨direction, slot, .interrupted⟩])
  | queue {books : Books} (direction : Direction) {requisition : Requisition}
      {taken : SlotPool} :
      Joins books.ledger requisition taken →
      Chore books ⟨books.ledger.joined direction requisition taken, books.journal ++
        [.event ⟨direction, requisition.slot,
          .queued requisition.priority requisition.needed⟩]⟩
  | shred {books : Books} {direction : Direction} {slot : SlotId} :
      slot ∈ (books.ledger.queue direction).map Requisition.slot →
      Chore books ⟨books.ledger.remove direction slot, books.journal ++
        [.event ⟨direction, slot, .shredded⟩]⟩
  /-- A requester that would not wait is told that there is no space, and is taken off. -/
  | turnAway {books : Books} {direction : Direction} {slot : SlotId} :
      slot ∈ (books.ledger.queue direction).map Requisition.slot →
      books.ledger.isServiced direction slot = false →
      Chore books ⟨books.ledger.remove direction slot, books.journal ++
        [.event ⟨direction, slot, .notServiceable⟩, .event ⟨direction, slot, .shredded⟩]⟩
  | scan {books : Books} (direction : Direction) (share : Share) :
      Chore books ⟨books.ledger.granting direction share, books.journal ++
        (turnedOn (books.ledger.queue direction)
          (grantAll share (books.ledger.queue direction))).map fun requisition =>
            .event ⟨direction, requisition.slot, .serviced⟩⟩

/-- Any number of chores, one after the other. -/
abbrev Chores : Books → Books → Prop := Relation.ReflTransGen Chore

namespace Chores

theorem remarks (books : Books) (notes : List Note) :
    Chores books (books.record (notes.map .note)) := by
  induction notes generalizing books with
  | nil =>
      rw [List.map_nil, Books.record, List.append_nil]
  | cons note rest induction =>
      have later := induction (books.record [.note note])
      rw [Books.record, Books.record, List.append_assoc] at later
      exact .head (.remark note) later

end Chores

/-! ## Deeds -/

section Deeds

variable {σ : Type}

namespace Controller

/-- A requisition is queued once its slot is noted. -/
theorem books_queuing {controller : Controller σ} {requisition : Requisition} {taken : SlotPool}
    (joins : Joins controller.ledger requisition taken) (direction : Direction) :
    Chores controller.books (controller.queuing direction requisition taken).books := by
  have noted : Chore controller.books (controller.books.record
      [.note (.slotsInUse taken.inUse controller.ledger.pool.limit)]) := .remark _
  have queued : Chore (controller.books.record
      [.note (.slotsInUse taken.inUse controller.ledger.pool.limit)]) _ :=
    .queue direction joins
  rw [Books.record, List.append_assoc] at queued
  exact .tail (.single noted) queued

theorem books_scanned (controller : Controller σ) (direction : Direction) (share : Share) :
    Chores controller.books (controller.scanned direction share).books :=
  .tail (.single (.remark (.scanStarted direction (controller.ledger.queue direction).length)))
    (.scan direction share)

theorem books_shredded {controller : Controller σ} {direction : Direction} {slot : SlotId}
    (queued : slot ∈ (controller.ledger.queue direction).map Requisition.slot) :
    Chore controller.books (controller.shredded direction slot).books := .shred queued

end Controller

variable [Store σ] {controller final : Controller σ}

theorem Submission.chores {direction : Direction} {needed : Space} {priority : Priority}
    {attendant : Option AttendantId} {hold : Bool} {answer : Except Refusal Answer}
    (submission : Submission direction needed priority attendant hold controller answer final)
    (spare : controller.ledger.pool.Spare) : Chores controller.books final.books := by
  have joined : ∀ {slot : SlotId} {taken : SlotPool}, needed.valid = true →
      controller.ledger.pool.take = some (slot, taken) →
      Joins controller.ledger ⟨slot, needed, priority, attendant, false⟩ taken :=
    fun valid took => ⟨valid, rfl, spare, took⟩
  have stillQueued : ∀ (slot : SlotId) (taken : SlotPool) (share : Share),
      slot ∈ (((controller.queuing direction ⟨slot, needed, priority, attendant, false⟩
        taken).scanned direction share).ledger.queue direction).map Requisition.slot :=
    fun slot taken share => Controller.mem_slots_scanned (controller.mem_slots_queuing ..) share
  cases submission with
  | invalid invalid => exact .refl
  | exhausted valid full => exact .single (.remark _)
  | unanswered valid took stopped =>
      exact ((Controller.books_queuing (joined valid took) direction).tail (.remark _)).tail
        (.shred (controller.mem_slots_queuing ..))
  | granted valid took offers isScanned serviced released =>
      subst isScanned
      exact ((Controller.books_queuing (joined valid took) direction).trans
        (Controller.books_scanned _ direction _)).tail (.shred (stillQueued _ _ _))
  | @notServiceable slot taken share scanned valid took offers isScanned pending alone =>
      have queued := stillQueued slot taken share
      rw [← isScanned] at queued
      have away : Chore scanned.books ((scanned.record
          [.event ⟨direction, slot, .notServiceable⟩]).shredded direction slot).books := by
        have turned : Chore scanned.books _ := .turnAway queued pending
        rwa [← List.singleton_append, ← List.append_assoc] at turned
      subst isScanned
      exact ((Controller.books_queuing (joined valid took) direction).trans
        (Controller.books_scanned _ direction _)).tail away
  | queued valid took offers isScanned outcome =>
      subst isScanned
      exact (Controller.books_queuing (joined valid took) direction).trans
        (Controller.books_scanned _ direction _)

theorem Release.chores {ticket : Ticket} (release : Release ticket controller final) :
    Chores controller.books final.books := by
  cases release with
  | absent missing => exact .refl
  | pending found isPending =>
      exact .single (Controller.books_shredded (Ledger.mem_slots_of_find? found))
  | unanswered found serviced stopped =>
      exact .tail (.single (Controller.books_shredded (Ledger.mem_slots_of_find? found)))
        (.remark _)
  | rescanned found serviced offers =>
      exact .trans (.single (Controller.books_shredded (Ledger.mem_slots_of_find? found)))
        (Controller.books_scanned _ _ _)

/-- What needs the ledger, with the controller that it leaves. -/
inductive Deed (controller : Controller σ) : Controller σ → Prop where
  | submission {direction : Direction} {needed : Space} {priority : Priority}
      {attendant : Option AttendantId} {hold : Bool} {answer : Except Refusal Answer}
      {final : Controller σ} :
      controller.ledger.pool.Spare →
      Submission direction needed priority attendant hold controller answer final →
      Deed controller final
  | release {ticket : Ticket} {final : Controller σ} :
      Release ticket controller final → Deed controller final
  | scan {direction : Direction} {share : Share} :
      Budget.Offers controller.store direction share →
      Deed controller (controller.scanned direction share)
  | unscanned : Deed controller controller

theorem Deed.ofScan {direction : Direction} {outcome : Except Refusal Nat}
    (ended : Action.attempt (Action.scan direction) controller = .ok outcome final) :
    Deed controller final := by
  rcases Action.rescan_of_attempt ended with ⟨share, offers, rfl⟩ | ⟨rfl, -⟩
  · exact .scan offers
  · exact .unscanned

theorem Deed.chores (deed : Deed controller final) : Chores controller.books final.books := by
  cases deed with
  | submission spare submission => exact submission.chores spare
  | release release => exact release.chores
  | scan offers => exact Controller.books_scanned _ _ _
  | unscanned => exact .refl

end Deeds

end Admission
