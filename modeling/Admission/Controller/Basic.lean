import Admission.Journal
import Admission.Store.Basic

/-!
# The admission controller

The controller stands in front of a store.  Requesters ask it for space on all media at
once; their requisitions wait in the ledger and are serviced by scans.  Whoever frees space
in the store must ask for a scan afterwards, otherwise requesters stay parked although
there is space for them.

An `Action` is one thing the controller does: it changes the state, writes to the journal,
and ends with a value or a failure.  What happened before a failure stays happened.
-/

namespace Admission

/-- A controller over a store of type `σ`. -/
structure Controller (σ : Type) where
  store : σ
  ledger : Ledger
  attendants : Attendants
  journal : Journal

/-- Something that a controller does. -/
abbrev Action (σ α : Type) : Type := EStateM (Failure Refusal) (Controller σ) α

/-- How far a call has come that may have to wait: it is finished, or it can only go on
later, with what it left to do. -/
inductive Progress (κ α : Type) where
  | finished (result : α)
  | parked (rest : κ)

namespace Controller

variable {σ : Type}

/-- A controller with that many slots and nothing queued. -/
def start (store : σ) (slots : Nat) : Controller σ :=
  ⟨store, .ofLimit slots, .empty, [.note (.controllerStarted slots)]⟩

/-- Writes to the journal. -/
def record (controller : Controller σ) (entries : List Entry) : Controller σ :=
  { controller with journal := controller.journal ++ entries }

end Controller

namespace Action

variable {σ α : Type}

/-- Gives up for a reason. -/
def refuse (refusal : Refusal) : Action σ α := throw (.refused refusal)

/-- Writes a note for the log. -/
def note (note : Note) : Action σ Unit := modify (·.record [.note note])

/-- Tells the watcher about the requisition in a slot. -/
def event (direction : Direction) (slot : SlotId) (kind : EventKind) : Action σ Unit :=
  modify (·.record [.event ⟨direction, slot, kind⟩])

/-- The outcome of an action that may be refused. -/
def attempt (action : Action σ α) : Action σ (Except Refusal α) := fun controller =>
  match action controller with
  | .ok value controller => .ok (.ok value) controller
  | .error (.refused refusal) controller => .ok (.error refusal) controller
  | .error (.overflow kind) controller => .error (.overflow kind) controller

/-- Asks the store something. -/
def query (ask : σ → Checked StoreError α) : Action σ α := fun controller =>
  match ask controller.store with
  | .ok value => .ok value controller
  | .error failure => .error (failure.map .store) controller

/-- The outcome of a change of the store, which writes its notes itself. -/
def tryChange (change : σ → Change σ StoreError α) : Action σ (Except StoreError α) :=
  fun controller =>
    let changed := change controller.store
    let controller := { controller with store := changed.store }.record (changed.notes.map .note)
    match changed.result with
    | .ok value => .ok (.ok value) controller
    | .error (.refused error) => .ok (.error error) controller
    | .error (.overflow kind) => .error (.overflow kind) controller

/-- Gives up if the store refused. -/
def orRefuse : Except StoreError α → Action σ α
  | .ok value => pure value
  | .error error => refuse (.store error)

/-- Changes the store. -/
def change (change : σ → Change σ StoreError α) : Action σ α := do
  orRefuse (← tryChange change)

/-- Changes the flags of an attendant, if there is one. -/
def signal (attendant : Option AttendantId)
    (change : Attendants → AttendantId → Attendants) : Action σ Unit :=
  match attendant with
  | none => pure ()
  | some id => modify fun controller =>
    { controller with attendants := change controller.attendants id }

end Action

end Admission
