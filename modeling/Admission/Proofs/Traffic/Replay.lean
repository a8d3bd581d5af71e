import Admission.Proofs.Traffic.Still
import Admission.Store.Memory

/-!
# Runs that are carried out

A `Move` is a step that nobody else disturbs, with all that its parties choose in it.  `perform`
carries out a move, and `replay` a list of them as far as they can be carried out.  Whatever is
replayed is a run (`Traffic.replay_run`), so that runs can be evaluated.
-/

namespace Admission

/-- A step that somebody takes undisturbed. -/
inductive Move where
  | makeAttendant
  | size (direction : Direction) (source : Source) (priority : Priority)
      (attendant : Option AttendantId)
  | submit (object : NewObject) (priority : Priority) (attendant : Option AttendantId)
      (needed : Space)
  | clear (creation : PendingCreation)
  | store (creation : PendingCreation) (id : ObjectId)
  | finish (creation : PendingCreation) (id : ObjectId)
  | remove (id : ObjectId)
  | rescan (removal : Removal)
  | request (direction : Direction) (needed : Space) (priority : Priority)
      (attendant : Option AttendantId)
  | drop (ticket : Ticket)

namespace Traffic

section Attempted

variable {σ α : Type}

/-- The outcome of an attempt and the controller that it leaves, unless it overflows. -/
def attempted (traffic : Traffic σ) (action : Action σ α) :
    Option (Except Refusal α × Controller σ) :=
  match Action.attempt action traffic.controller with
  | .ok outcome final => some (outcome, final)
  | .error .. => none

theorem attempt_of_attempted {traffic : Traffic σ} {action : Action σ α}
    {outcome : Except Refusal α} {final : Controller σ}
    (found : traffic.attempted action = some (outcome, final)) :
    Action.attempt action traffic.controller = .ok outcome final := by
  unfold attempted at found
  split at found
  · next ended =>
      cases found
      exact ended
  · cases found

end Attempted

variable {σ : Type} [Store σ]

/-- Carries out a move, if it can be made. -/
def perform (traffic : Traffic σ) : Move → Option (Traffic σ)
  | .makeAttendant => some (traffic.acted
      (traffic.controller.attended traffic.controller.attendants.make.2 []))
  | .size direction source priority attendant =>
    match source.location with
    | none => none
    | some location =>
      if source.length = 0 then none
      else
        match Action.spaceNeeded source location traffic.controller with
        | .ok needed _ => some { traffic with
            calls := .sized (.ofCreation direction source attendant .reserved) priority
              attendant needed :: traffic.calls }
        | .error .. => none
  | .submit object priority attendant needed =>
    if .sized object priority attendant needed ∈ traffic.calls ∧
        traffic.controller.ledger.pool.Spare then
      (traffic.attempted (Action.submit object.direction needed priority attendant true)).map
        fun (answer, final) => (traffic.acted final).become
          (.sized object priority attendant needed)
          ((Answer.ticket? answer).map fun ticket => .waiting ⟨ticket, object⟩)
    else none
  | .clear creation =>
    if .waiting creation ∈ traffic.calls ∧ traffic.controller.ledger.isServiced
        creation.ticket.direction creation.ticket.slot = true then
      some (traffic.become (.waiting creation) (some (.cleared creation)))
    else none
  | .store creation id =>
    if .cleared creation ∈ traffic.calls ∧ id ∉ traffic.named then
      match Action.tryChange (fun store => Store.create store id creation.object)
          traffic.controller with
      | .ok (.ok ()) final => some (Traffic.become
          { traffic.acted final with named := id :: traffic.named }
          (.cleared creation) (some (.stored creation id)))
      | _ => none
    else none
  | .finish creation id =>
    if .stored creation id ∈ traffic.calls then
      (traffic.attempted (Action.dropTicket creation.ticket)).map
        fun (_, final) => (traffic.acted final).become (.stored creation id) none
    else none
  | .remove id =>
    match Action.tryChange (fun store => Store.destroy store id) traffic.controller with
    | .ok (.ok direction) final => some { traffic.acted final with
        removals := ⟨id, direction⟩ :: traffic.removals }
    | _ => none
  | .rescan removal =>
    if removal ∈ traffic.removals then
      (traffic.attempted (Action.scan removal.direction)).map
        fun (_, final) => { traffic.acted final with removals := traffic.removals.erase removal }
    else none
  | .request direction needed priority attendant =>
    if traffic.controller.ledger.pool.Spare then
      (traffic.attempted (Action.request direction needed priority attendant)).map
        fun (answer, final) => { traffic.acted final with
          tickets := (Answer.ticket? answer).toList ++ traffic.tickets }
    else none
  | .drop ticket =>
    if ticket ∈ traffic.tickets then
      (traffic.attempted (Action.dropTicket ticket)).map
        fun (_, final) => { traffic.acted final with tickets := traffic.tickets.erase ticket }
    else none

/-- A move that is carried out is a step. -/
theorem perform_step {traffic after : Traffic σ} {move : Move}
    (performed : traffic.perform move = some after) : Step traffic after := by
  cases move with
  | makeAttendant =>
      cases performed
      exact .aside (.attend _ [])
  | size direction source priority attendant =>
      simp only [perform] at performed
      split at performed
      · cases performed
      · next location isLocation =>
          split at performed
          · cases performed
          · next nonempty =>
              split at performed
              · next needed final sized =>
                  cases performed
                  cases (Action.spaceNeeded_keeps source location traffic.controller).1 sized
                  exact .aside (.size isLocation nonempty sized)
              · cases performed
  | submit object priority attendant needed =>
      simp only [perform] at performed
      split at performed
      · next possible =>
          obtain ⟨⟨answer, final⟩, found, rfl⟩ := Option.map_eq_some_iff.mp performed
          exact .submit possible.1 possible.2 (attempt_of_attempted found)
      · cases performed
  | clear creation =>
      simp only [perform] at performed
      split at performed
      · next possible =>
          cases performed
          exact .aside (.clear possible.1 possible.2)
      · cases performed
  | store creation id =>
      simp only [perform] at performed
      split at performed
      · next possible =>
          split at performed
          · next final done =>
              cases performed
              exact .aside (.store possible.1 possible.2 done)
          · cases performed
      · cases performed
  | finish creation id =>
      simp only [perform] at performed
      split at performed
      · next isStored =>
          obtain ⟨⟨outcome, final⟩, found, rfl⟩ := Option.map_eq_some_iff.mp performed
          exact .finish isStored (attempt_of_attempted found)
      · cases performed
  | remove id =>
      simp only [perform] at performed
      split at performed
      · next direction final done =>
          cases performed
          exact .aside (.remove done)
      · cases performed
  | rescan removal =>
      simp only [perform] at performed
      split at performed
      · next isRemoved =>
          obtain ⟨⟨outcome, final⟩, found, rfl⟩ := Option.map_eq_some_iff.mp performed
          have step := Step.rescan isRemoved [] (attempt_of_attempted found)
          rwa [List.map_nil, Controller.record_nil] at step
      · cases performed
  | request direction needed priority attendant =>
      simp only [perform] at performed
      split at performed
      · next spare =>
          obtain ⟨⟨answer, final⟩, found, rfl⟩ := Option.map_eq_some_iff.mp performed
          exact .request spare (attempt_of_attempted found)
      · cases performed
  | drop ticket =>
      simp only [perform] at performed
      split at performed
      · next held =>
          obtain ⟨⟨outcome, final⟩, found, rfl⟩ := Option.map_eq_some_iff.mp performed
          exact .drop held (attempt_of_attempted found)
      · cases performed

/-- Carries out moves one after the other, up to the first that cannot be made, and tells what
the traffic comes to after each. -/
def replay (traffic : Traffic σ) : List Move → List (Traffic σ)
  | [] => []
  | move :: moves =>
    match traffic.perform move with
    | some next => next :: replay next moves
    | none => []

/-- What is replayed is a run. -/
theorem replay_run (traffic : Traffic σ) (moves : List Move) :
    Run traffic (traffic.replay moves) := by
  induction moves generalizing traffic with
  | nil => exact .singleton _
  | cons move moves induction =>
      simp only [replay]
      split
      · next next performed => exact .cons_cons (perform_step performed) (induction next)
      · exact .singleton _

end Traffic

/-! ## Outbound files -/

/-- Space for a number of bytes of a file. -/
def Space.ofFile (bytes : UInt64) : Space := .of .file (.ofUInt64 bytes)

/-- A store without objects that has room for outbound files only. -/
def MemoryStore.ofFileLimit (bytes : UInt64) : MemoryStore :=
  MemoryStore.empty.setCapacity .outbound .file (.ofUInt64 bytes)

/-- Nobody is there yet, and there is room for a hundred bytes of outbound files. -/
abbrev Traffic.hundred : Traffic MemoryStore := .start (.ofFileLimit 100) 1024

/-- The whole creation of an outbound file, which is granted the given slot at once. -/
def Move.createFile (number bytes : UInt64) (priority : Priority)
    (attendant : Option AttendantId) (slot : SlotId) (id : ObjectId) : List Move :=
  let source : Source := ⟨some (.handle .file number), 0, bytes⟩
  let object : NewObject := .ofCreation .outbound source attendant .reserved
  let creation : PendingCreation := ⟨⟨.outbound, slot, attendant⟩, object⟩
  [.size .outbound source priority attendant,
    .submit object priority attendant (.ofFile bytes), .clear creation, .store creation id,
    .finish creation id]

/-- The whole destruction of an outbound object. -/
def Move.destroyOutbound (id : ObjectId) : List Move := [.remove id, .rescan ⟨id, .outbound⟩]

end Admission
