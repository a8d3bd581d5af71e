import Admission.Proofs.Traffic.Basic

/-!
# Turns while nothing changes

What an action does to the ledger depends on the answers of the store only.  So a turn during
which nobody changes the store is the action in front of that store: `Agrees` relates actions
that do the same in front of two stores, part by part, and `Step.request`, `Step.drop` and
`Step.scan` are the steps that follow.
-/

namespace Admission

namespace Controller

variable {σ τ : Type}

@[simp] theorem withStore_ledger (controller : Controller σ) (store : τ) :
    (controller.withStore store).ledger = controller.ledger := rfl

end Controller

/-- Two actions do the same to everything but the store, in front of the one store and in front
of the other, and leave the store alone. -/
def Agrees {σ τ α : Type} (store : σ) (other : τ) (action : Action σ α) (twin : Action τ α) :
    Prop :=
  ∀ controller : Controller σ, controller.store = store →
    match action controller with
    | .ok value final => final.store = store ∧
        twin (controller.withStore other) = .ok value (final.withStore other)
    | .error failure final => final.store = store ∧
        twin (controller.withStore other) = .error failure (final.withStore other)

namespace Agrees

variable {σ τ α β : Type} {store : σ} {other : τ}

theorem ofPure (value : α) : Agrees store other (pure value) (pure value) :=
  fun _ same => ⟨same, rfl⟩

theorem ofRefuse (refusal : Refusal) :
    Agrees (α := α) store other (Action.refuse refusal) (Action.refuse refusal) :=
  fun _ same => ⟨same, rfl⟩

theorem ofThrow (failure : Failure Refusal) :
    Agrees (α := α) store other (throw failure) (throw failure) :=
  fun _ same => ⟨same, rfl⟩

/-- Actions agree that change the controller in the same way, apart from its store. -/
theorem ofModify {change : Controller σ → Controller σ} {twin : Controller τ → Controller τ}
    (keeps : ∀ controller, (change controller).store = controller.store)
    (same : ∀ controller, twin (controller.withStore other) =
      (change controller).withStore other) :
    Agrees store other (modify change) (modify twin) :=
  fun controller isStore => ⟨(keeps controller).trans isStore, congrArg _ (same controller)⟩

theorem bind {action : Action σ α} {twin : Action τ α} {next : α → Action σ β}
    {twinNext : α → Action τ β} (first : Agrees store other action twin)
    (rest : ∀ value, Agrees store other (next value) (twinNext value)) :
    Agrees store other (action >>= next) (twin >>= twinNext) := by
  intro controller same
  have firstAgrees := first controller same
  rw [Action.bind_run, Action.bind_run]
  cases outcome : action controller with
  | ok value between =>
      rw [outcome] at firstAgrees
      rw [firstAgrees.2]
      exact rest value between firstAgrees.1
  | error failure between =>
      rw [outcome] at firstAgrees
      rw [firstAgrees.2]
      exact ⟨firstAgrees.1, rfl⟩

/-- Actions agree that go on in the same way with what they find. -/
theorem get_bind {next : Controller σ → Action σ β} {twinNext : Controller τ → Action τ β}
    (rest : ∀ controller, controller.store = store →
      Agrees store other (next controller) (twinNext (controller.withStore other))) :
    Agrees store other (get >>= next) (get >>= twinNext) := by
  intro controller same
  rw [Action.bind_run, Action.bind_run]
  exact rest controller same controller same

theorem attempt {action : Action σ α} {twin : Action τ α}
    (agrees : Agrees store other action twin) :
    Agrees store other (Action.attempt action) (Action.attempt twin) := by
  intro controller same
  have own := agrees controller same
  unfold Action.attempt
  cases outcome : action controller with
  | ok value final =>
      rw [outcome] at own
      rw [own.2]
      exact ⟨own.1, rfl⟩
  | error failure final =>
      rw [outcome] at own
      rw [own.2]
      cases failure <;> exact ⟨own.1, rfl⟩

theorem ofNote (remark : Note) : Agrees store other (Action.note remark) (Action.note remark) :=
  ofModify (fun _ => rfl) fun _ => rfl

theorem ofEvent (direction : Direction) (slot : SlotId) (kind : EventKind) :
    Agrees store other (Action.event direction slot kind) (Action.event direction slot kind) :=
  ofModify (fun _ => rfl) fun _ => rfl

theorem ofSignal (attendant : Option AttendantId)
    (change : Attendants → AttendantId → Attendants) :
    Agrees store other (Action.signal attendant change) (Action.signal attendant change) := by
  cases attendant with
  | none => exact ofPure ()
  | some id => exact ofModify (fun _ => rfl) fun _ => rfl

theorem ofShred (direction : Direction) (slot : SlotId) :
    Agrees store other (Action.shred direction slot) (Action.shred direction slot) := by
  refine get_bind fun controller _ => ?_
  rw [Controller.withStore_ledger]
  cases controller.ledger.find? direction slot with
  | none => exact ofPure false
  | some requisition =>
      refine Agrees.bind (ofModify (fun _ => rfl) fun _ => rfl) fun _ => ?_
      exact (ofEvent direction slot .shredded).bind fun _ => ofPure requisition.serviced

theorem ofDiscard {action : Action σ α} {twin : Action τ α}
    (agrees : Agrees store other action twin) :
    Agrees store other (discard action) (discard twin) :=
  agrees.bind fun _ => ofPure _

theorem ofTakeSlot (direction : Direction) (needed : Space) (priority : Priority) :
    Agrees store other (Action.takeSlot direction needed priority)
      (Action.takeSlot direction needed priority) := by
  refine get_bind fun controller _ => ?_
  dsimp only [Controller.withStore_ledger]
  cases controller.ledger.pool.take with
  | none => exact (ofNote _).bind fun _ => ofRefuse _
  | some found =>
      refine Agrees.bind (ofModify (fun _ => rfl) fun _ => rfl) fun _ => ?_
      exact (ofNote _).bind fun _ => ofPure found.1

theorem ofEnqueue (direction : Direction) (requisition : Requisition) :
    Agrees store other (Action.enqueue direction requisition)
      (Action.enqueue direction requisition) :=
  Agrees.bind (ofModify (fun _ => rfl) fun _ => rfl) fun _ => ofEvent _ _ _

theorem ofAnswer (direction : Direction) (slot : SlotId) (attendant : Option AttendantId)
    (hold : Bool) :
    Agrees store other (Action.answer direction slot attendant hold)
      (Action.answer direction slot attendant hold) := by
  refine get_bind fun controller _ => ?_
  rw [Controller.withStore_ledger]
  dsimp only
  split
  · exact (ofShred _ _).ofDiscard.bind fun _ => (ofSignal _ _).bind fun _ => ofPure _
  · split
    · exact (ofEvent _ _ _).bind fun _ => (ofShred _ _).ofDiscard.bind fun _ => ofPure _
    · exact ofPure _

section Still

variable [Store σ]

theorem ofScan (store : σ) (direction : Direction) :
    Agrees store (Glimpses.still store) (Action.scan direction) (Action.scan direction) := by
  refine Agrees.bind ?_ fun budget => get_bind fun controller _ => (ofNote _).bind fun _ =>
    Agrees.bind (ofModify (fun _ => rfl) fun _ => rfl) fun _ => ?_
  · intro controller same
    have answers : Budget.read (controller.withStore (Glimpses.still store)).store direction =
        Budget.read store direction := rfl
    unfold Action.query
    dsimp only
    rw [same, answers]
    cases Budget.read store direction <;> exact ⟨same, rfl⟩
  · rw [Controller.withStore_ledger]
    cases (Walk.along budget (controller.ledger.queue direction)).stopped with
    | none => exact ofPure _
    | some kind => exact ofThrow _

theorem ofScanFor (store : σ) (direction : Direction) (slot : SlotId) :
    Agrees store (Glimpses.still store) (Action.scanFor direction slot)
      (Action.scanFor direction slot) := by
  refine (ofScan store direction).attempt.bind fun outcome => ?_
  cases outcome with
  | ok serviced => exact ofPure ()
  | error refusal =>
      exact (ofNote _).bind fun _ => (ofShred direction slot).ofDiscard.bind fun _ => ofRefuse _

theorem ofSubmit (store : σ) (direction : Direction) (needed : Space) (priority : Priority)
    (attendant : Option AttendantId) (hold : Bool) :
    Agrees store (Glimpses.still store)
      (Action.submit direction needed priority attendant hold)
      (Action.submit direction needed priority attendant hold) := by
  have rest : Agrees store (Glimpses.still store)
      (Action.signal attendant Attendants.reset >>= fun _ =>
        Action.takeSlot direction needed priority >>= fun slot =>
        Action.enqueue direction ⟨slot, needed, priority, attendant, false⟩ >>= fun _ =>
        Action.scanFor direction slot >>= fun _ => Action.answer direction slot attendant hold)
      (Action.signal attendant Attendants.reset >>= fun _ =>
        Action.takeSlot direction needed priority >>= fun slot =>
        Action.enqueue direction ⟨slot, needed, priority, attendant, false⟩ >>= fun _ =>
        Action.scanFor direction slot >>= fun _ =>
          Action.answer direction slot attendant hold) :=
    (ofSignal _ _).bind fun _ => (ofTakeSlot _ _ _).bind fun slot =>
      (ofEnqueue _ _).bind fun _ => (ofScanFor _ _ _).bind fun _ => ofAnswer _ _ _ _
  unfold Action.submit
  split
  · exact (ofRefuse _).bind fun _ => rest
  · exact rest

theorem ofDropTicket (store : σ) (ticket : Ticket) :
    Agrees store (Glimpses.still store) (Action.dropTicket ticket)
      (Action.dropTicket ticket) := by
  refine (ofShred ticket.direction ticket.slot).bind fun held => ?_
  cases held with
  | false => exact ofPure _
  | true =>
      refine (ofScan store ticket.direction).attempt.bind fun outcome => ?_
      cases outcome with
      | ok serviced => exact ofPure _
      | error refusal => exact ofNote _

end Still

/-- What an action comes to in front of the one store, the other comes to in front of the
other. -/
theorem run_of_ok {action : Action σ α} {twin : Action τ α}
    (agrees : Agrees store other action twin) {controller final : Controller σ} {value : α}
    (same : controller.store = store) (ended : action controller = .ok value final) :
    twin (controller.withStore other) = .ok value (final.withStore other) ∧
      (final.withStore other).withStore store = final := by
  have own := agrees controller same
  rw [ended] at own
  refine ⟨own.2, ?_⟩
  rw [← own.1]
  rfl

end Agrees

/-! ## Turns -/

namespace Step

variable {σ : Type} [Store σ] {traffic : Traffic σ} {direction : Direction}

/-- A turn during which nobody else acts. -/
theorem undisturbed {after : Traffic σ}
    (turn : Turn traffic traffic (.still traffic.controller.store) after) : Step traffic after := by
  have here : ∃ moment, Asides traffic moment ∧ Asides moment traffic ∧
      traffic.controller.store = moment.controller.store := ⟨traffic, .refl, .refl, rfl⟩
  exact .turn ⟨.refl, fun _ => here, fun _ => here, rfl⟩ turn

theorem request {needed : Space} {priority : Priority} {attendant : Option AttendantId}
    {answer : Except Refusal Answer} {final : Controller σ}
    (spare : traffic.controller.ledger.pool.Spare)
    (ended : Action.attempt (Action.request direction needed priority attendant)
      traffic.controller = .ok answer final) :
    Step traffic { traffic.acted final with
      tickets := (Answer.ticket? answer).toList ++ traffic.tickets } := by
  obtain ⟨ran, back⟩ := (Agrees.ofSubmit _ _ _ _ _ _).attempt.run_of_ok rfl ended
  have step := undisturbed (.request spare ran)
  rwa [back] at step

theorem submit {object : NewObject} {priority : Priority} {attendant : Option AttendantId}
    {needed : Space} {answer : Except Refusal Answer} {final : Controller σ}
    (isSized : .sized object priority attendant needed ∈ traffic.calls)
    (spare : traffic.controller.ledger.pool.Spare)
    (ended : Action.attempt (Action.submit object.direction needed priority attendant true)
      traffic.controller = .ok answer final) :
    Step traffic ((traffic.acted final).become (.sized object priority attendant needed)
      ((Answer.ticket? answer).map fun ticket => .waiting ⟨ticket, object⟩)) := by
  obtain ⟨ran, back⟩ := (Agrees.ofSubmit _ _ _ _ _ _).attempt.run_of_ok rfl ended
  have step := undisturbed (.submit isSized isSized spare ran)
  rwa [back] at step

theorem drop {ticket : Ticket} {outcome : Except Refusal Unit} {final : Controller σ}
    (held : ticket ∈ traffic.tickets)
    (ended : Action.attempt (Action.dropTicket ticket) traffic.controller = .ok outcome final) :
    Step traffic { traffic.acted final with tickets := traffic.tickets.erase ticket } := by
  obtain ⟨ran, back⟩ := (Agrees.ofDropTicket _ _).attempt.run_of_ok rfl ended
  have step := undisturbed (.drop held held ran)
  rwa [back] at step

theorem finish {creation : PendingCreation} {id : ObjectId} {outcome : Except Refusal Unit}
    {final : Controller σ} (isStored : .stored creation id ∈ traffic.calls)
    (ended : Action.attempt (Action.dropTicket creation.ticket) traffic.controller =
      .ok outcome final) :
    Step traffic ((traffic.acted final).become (.stored creation id) none) := by
  obtain ⟨ran, back⟩ := (Agrees.ofDropTicket _ _).attempt.run_of_ok rfl ended
  have step := undisturbed (.finish isStored isStored ran)
  rwa [back] at step

theorem leave {creation : PendingCreation} {outcome : Except Refusal Unit}
    {final : Controller σ} (isLeaving : .leaving creation ∈ traffic.calls)
    (ended : Action.attempt (Action.dropTicket creation.ticket) traffic.controller =
      .ok outcome final) :
    Step traffic ((traffic.acted final).become (.leaving creation) none) := by
  obtain ⟨ran, back⟩ := (Agrees.ofDropTicket _ _).attempt.run_of_ok rfl ended
  have step := undisturbed (.leave isLeaving isLeaving ran)
  rwa [back] at step

theorem scan {outcome : Except Refusal Nat} {final : Controller σ}
    (ended : Action.attempt (Action.scan direction) traffic.controller = .ok outcome final) :
    Step traffic (traffic.acted final) := by
  obtain ⟨ran, back⟩ := (Agrees.ofScan _ _).attempt.run_of_ok rfl ended
  have step := undisturbed (.scan ran)
  rwa [back] at step

theorem rescan {removal : Removal} {outcome : Except Refusal Nat} {final : Controller σ}
    (isRemoved : removal ∈ traffic.removals) (remarks : List Note)
    (ended : Action.attempt (Action.scan removal.direction) traffic.controller =
      .ok outcome final) :
    Step traffic { traffic.acted (final.record (remarks.map .note)) with
      removals := traffic.removals.erase removal } := by
  obtain ⟨ran, back⟩ := (Agrees.ofScan _ _).attempt.run_of_ok rfl ended
  have turn : Turn traffic traffic (.still traffic.controller.store)
      { traffic.acted (((final.withStore (Glimpses.still traffic.controller.store)).record
          (remarks.map .note)).withStore traffic.controller.store) with
        removals := traffic.removals.erase removal } := .rescan isRemoved isRemoved ran
  have noted : ((final.withStore (Glimpses.still traffic.controller.store)).record
      (remarks.map .note)).withStore traffic.controller.store =
      final.record (remarks.map .note) := by
    rw [← congrArg (Controller.record · _) back]
    rfl
  rw [noted] at turn
  exact undisturbed turn

end Step

end Admission
