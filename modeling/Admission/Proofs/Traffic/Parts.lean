import Admission.Proofs.Traffic.Weather

/-!
# The parts of a creation

Traffic says what everybody does; a `Stage` says how far one creation has come, and a `Part` is
what it does itself from a stage to the next.  Between two parts others take any number of steps.

A part is a step of the traffic, unless it changes nothing (`Part.step`).  It hands out the
ticket of its next stage and takes back that of its stage (`Part.held`), gives an identifier at
most once (`Part.named`), and leaves what is not of the creation alone.
-/

namespace Admission

/-! ## Stages -/

/-- What a creation is asked for. -/
structure Commission where
  direction : Direction
  source : Source
  priority : Priority
  attendant : Option AttendantId

namespace Commission

/-- The object that the store is asked for. -/
def object (commission : Commission) (reservation : Reservation) : NewObject :=
  .ofCreation commission.direction commission.source commission.attendant reservation

/-- The stored object with the given extents.  It is provisional if it is inbound and nobody
would have waited. -/
def stored (commission : Commission) (id : ObjectId) (extents : List Extent) : StoredObject :=
  ⟨id, commission.direction, extents,
    commission.direction = .inbound && commission.attendant.isNone⟩

/-- There is an initial extent, and something in it. -/
structure HasExtent (commission : Commission) : Prop where
  located : commission.source.location ≠ none
  nonempty : commission.source.length ≠ 0

/-- The call of a commission that has sized its extent. -/
def sized (commission : Commission) (needed : Space) : Call :=
  .sized (commission.object .reserved) commission.priority commission.attendant needed

end Commission

/-- How a creation ends. -/
inductive Ending where
  | created (id : ObjectId)
  | notCreated
  | interrupted
  | refused (refusal : Refusal)
  /-- Whoever made the call did not go on with it. -/
  | abandoned
  deriving DecidableEq

/-- How far a creation has come. -/
inductive Stage where
  | begun
  | sized (needed : Space)
  | waiting (creation : PendingCreation)
  /-- It found its requisition serviced and will store its object next. -/
  | cleared (creation : PendingCreation)
  | stored (creation : PendingCreation) (id : ObjectId)
  /-- It will end in this way once it has dropped its ticket. -/
  | leaving (creation : PendingCreation) (ending : Ending)
  | ended (ending : Ending)
  deriving DecidableEq

namespace Stage

/-- The call of a commission at a stage. -/
def call? (commission : Commission) : Stage → Option Call
  | begun | ended _ => none
  | sized needed => some (commission.sized needed)
  | waiting creation => some (.waiting creation)
  | cleared creation => some (.cleared creation)
  | stored creation id => some (.stored creation id)
  | leaving creation _ => some (.leaving creation)

/-- The ticket that a creation holds at a stage. -/
def ticket? : Stage → Option Ticket
  | waiting creation | cleared creation | stored creation _ | leaving creation _ =>
    some creation.ticket
  | begun | sized _ | ended _ => none

/-- The identifier of the object that was stored. -/
def made? : Stage → Option ObjectId
  | stored _ id | leaving _ (.created id) | ended (.created id) => some id
  | _ => none

/-- How the creation ends if it goes on. -/
def ending? : Stage → Option Ending
  | leaving _ ending | ended ending => some ending
  | _ => none

/-- What comes of the answer to a submission. -/
def answered (commission : Commission) : Except Refusal Answer → Stage
  | .ok (.queued ticket) => waiting ⟨ticket, commission.object .reserved⟩
  | .ok .granted | .ok .notServiceable => ended .notCreated
  | .error refusal => ended (.refused refusal)

theorem ticket?_eq (commission : Commission) (stage : Stage) :
    stage.ticket? = (stage.call? commission).bind Call.ticket? := by
  cases stage <;> rfl

theorem call?_answered (commission : Commission) (answer : Except Refusal Answer) :
    (answered commission answer).call? commission =
      (Answer.ticket? answer).map
        fun ticket => .waiting ⟨ticket, commission.object .reserved⟩ := by
  rcases answer with refusal | (_ | _ | ticket) <;> rfl

theorem made?_answered (commission : Commission) (answer : Except Refusal Answer) :
    (answered commission answer).made? = none := by
  rcases answer with refusal | (_ | _ | ticket) <;> rfl

end Stage

/-! ## Parts -/

section Parts

variable {σ : Type} [Store σ]

/-- One own part of a creation, from a stage to the next. -/
inductive Part (weather : Weather σ) (commission : Commission) (before : Traffic σ) :
    Stage → Traffic σ → Stage → Prop where
  /-- The call is given up before it has begun. -/
  | never : Part weather commission before .begun before (.ended .abandoned)
  | createEmpty {id : ObjectId} {controller : Controller σ} :
      commission.source.location = none → id ∉ before.named →
      Action.tryChange (fun store => Store.create store id (commission.object .unreserved))
        before.controller = .ok (.ok ()) controller →
      Part weather commission before .begun
        { before.acted controller with named := id :: before.named } (.ended (.created id))
  | createRefused {id : ObjectId} {error : StoreError} {controller : Controller σ} :
      commission.source.location = none →
      Action.tryChange (fun store => Store.create store id (commission.object .unreserved))
        before.controller = .ok (.error error) controller →
      Part weather commission before .begun (before.acted controller)
        (.ended (.refused (.store error)))
  | emptyExtent :
      commission.source.location ≠ none → commission.source.length = 0 →
      Part weather commission before .begun before
        (.ended (.refused (.invalidArgument .emptyExtent)))
  | unsized {location : Location} {refusal : Refusal} :
      commission.source.location = some location → commission.source.length ≠ 0 →
      Action.spaceNeeded commission.source location before.controller =
        .error (.refused refusal) before.controller →
      Part weather commission before .begun before (.ended (.refused refusal))
  | size {location : Location} {needed : Space} :
      commission.source.location = some location → commission.source.length ≠ 0 →
      Action.spaceNeeded commission.source location before.controller =
        .ok needed before.controller →
      Part weather commission before .begun
        { before with calls := commission.sized needed :: before.calls } (.sized needed)
  | submit {needed : Space} {see : Glimpses σ} {answer : Except Refusal Answer}
      {final : Controller (Glimpses σ)} :
      weather.shows see → commission.sized needed ∈ before.calls →
      before.controller.ledger.pool.Spare →
      Action.attempt (Action.submit commission.direction needed commission.priority
        commission.attendant true) (before.controller.withStore see) = .ok answer final →
      Part weather commission before (.sized needed)
        ((before.acted (final.withStore before.controller.store)).become
          (commission.sized needed) ((Stage.answered commission answer).call? commission))
        (.answered commission answer)
  /-- The wait takes and resets signals. -/
  | attend {creation : PendingCreation} (attendants : Attendants) (remarks : List Note) :
      Part weather commission before (.waiting creation)
        (before.acted (before.controller.attended attendants remarks)) (.waiting creation)
  | clear {creation : PendingCreation} :
      .waiting creation ∈ before.calls →
      before.controller.ledger.isServiced creation.ticket.direction creation.ticket.slot =
        true →
      Part weather commission before (.waiting creation)
        (before.become (.waiting creation) (some (.cleared creation))) (.cleared creation)
  | interrupt {creation : PendingCreation} :
      .waiting creation ∈ before.calls →
      (creation.ticket.attendant.any before.controller.attendants.isEnded = true ∨
        creation.ticket.attendant = none ∧ before.controller.ledger.isServiced
          creation.ticket.direction creation.ticket.slot = false) →
      Part weather commission before (.waiting creation)
        ((before.acted (before.controller.record
          [.note (.creationInterrupted creation.object.direction),
            .event ⟨creation.object.direction, creation.ticket.slot, .interrupted⟩])).become
          (.waiting creation) (some (.leaving creation)))
        (.leaving creation .interrupted)
  | abandon {creation : PendingCreation} :
      .waiting creation ∈ before.calls →
      Part weather commission before (.waiting creation)
        (before.become (.waiting creation) (some (.leaving creation)))
        (.leaving creation .abandoned)
  | store {creation : PendingCreation} {id : ObjectId} {controller : Controller σ} :
      .cleared creation ∈ before.calls → id ∉ before.named →
      Action.tryChange (fun store => Store.create store id creation.object)
        before.controller = .ok (.ok ()) controller →
      Part weather commission before (.cleared creation)
        (Traffic.become { before.acted controller with named := id :: before.named }
          (.cleared creation) (some (.stored creation id)))
        (.stored creation id)
  | storeRefused {creation : PendingCreation} {id : ObjectId} {error : StoreError}
      {controller : Controller σ} :
      .cleared creation ∈ before.calls →
      Action.tryChange (fun store => Store.create store id creation.object)
        before.controller = .ok (.error error) controller →
      Part weather commission before (.cleared creation)
        ((before.acted (controller.record
          [.note (.creationFailed creation.object.direction error)])).become
          (.cleared creation) (some (.leaving creation)))
        (.leaving creation (.refused (.store error)))
  | finish {creation : PendingCreation} {id : ObjectId} {see : Glimpses σ}
      {outcome : Except Refusal Unit} {final : Controller (Glimpses σ)} :
      weather.shows see → .stored creation id ∈ before.calls →
      Action.attempt (Action.dropTicket creation.ticket) (before.controller.withStore see) =
        .ok outcome final →
      Part weather commission before (.stored creation id)
        ((before.acted (final.withStore before.controller.store)).become
          (.stored creation id) none) (.ended (.created id))
  | leave {creation : PendingCreation} {ending : Ending} {see : Glimpses σ}
      {outcome : Except Refusal Unit} {final : Controller (Glimpses σ)} :
      weather.shows see → .leaving creation ∈ before.calls →
      Action.attempt (Action.dropTicket creation.ticket) (before.controller.withStore see) =
        .ok outcome final →
      Part weather commission before (.leaving creation ending)
        ((before.acted (final.withStore before.controller.store)).become
          (.leaving creation) none) (.ended ending)

variable {weather : Weather σ} {commission : Commission} {before after : Traffic σ}
  {stage next : Stage}

namespace Part

/-- A part is a step of the traffic, unless it changes nothing. -/
theorem step (part : Part weather commission before stage after next) :
    after = before ∨ weather.Step before after := by
  cases part with
  | never => exact Or.inl rfl
  | emptyExtent isLocation isEmpty => exact Or.inl rfl
  | unsized isLocation nonempty refused => exact Or.inl rfl
  | createEmpty isEmpty fresh done => exact Or.inr (.aside (.createEmpty isEmpty fresh done))
  | createRefused isEmpty done => exact Or.inr (.aside (.createRefused done))
  | size isLocation nonempty sized => exact Or.inr (.aside (.size isLocation nonempty sized))
  | submit shows isSized spare ended =>
      rw [Stage.call?_answered]
      exact Or.inr (.turn shows (.submit isSized isSized spare ended))
  | attend attendants remarks => exact Or.inr (.aside (.attend attendants remarks))
  | clear waits isServiced => exact Or.inr (.aside (.clear waits isServiced))
  | interrupt waits isOver => exact Or.inr (.aside (.interrupt waits isOver))
  | abandon waits => exact Or.inr (.aside (.abandon waits))
  | store isCleared fresh done => exact Or.inr (.aside (.store isCleared fresh done))
  | storeRefused isCleared done => exact Or.inr (.aside (.storeRefused isCleared done))
  | finish shows isStored ended => exact Or.inr (.turn shows (.finish isStored isStored ended))
  | leave shows isLeaving ended =>
      exact Or.inr (.turn shows (.leave isLeaving isLeaving ended))

/-- The call of the next stage is there after a part, if it is not there already. -/
theorem call_mem (part : Part weather commission before stage after next)
    (present : ∀ call, stage.call? commission = some call → call ∈ before.calls) :
    ∀ call, next.call? commission = some call → call ∈ after.calls := by
  intro call isCall
  cases part with
  | size isLocation nonempty sized =>
      cases isCall
      exact List.mem_cons_self
  | submit shows isSized spare ended => exact Traffic.mem_become_next isCall
  | attend attendants remarks => exact present call isCall
  | clear waits isServiced => exact Traffic.mem_become_next isCall
  | interrupt waits isOver => exact Traffic.mem_become_next isCall
  | abandon waits => exact Traffic.mem_become_next isCall
  | store isCleared fresh done => exact Traffic.mem_become_next isCall
  | storeRefused isCleared done => exact Traffic.mem_become_next isCall
  | _ => cases isCall

/-! ## Tickets -/

/-- A part hands out the ticket of its next stage and takes back that of its stage. -/
theorem held (part : Part weather commission before stage after next) :
    (stage.ticket?.toList ++ after.held).Perm (next.ticket?.toList ++ before.held) := by
  have become : ∀ {acted : Traffic σ} {call : Call} {following : Option Call},
      call ∈ before.calls → acted.calls = before.calls → acted.tickets = before.tickets →
      (call.ticket?.toList ++ (acted.become call following).held).Perm
        ((following.bind Call.ticket?).toList ++ before.held) := by
    intro acted call following present calls tickets
    have same : acted.held = before.held := by rw [Traffic.held, calls, tickets, Traffic.held]
    rw [← same]
    exact Traffic.held_become (calls ▸ present) following
  cases part with
  | submit shows isSized spare ended =>
      rw [Stage.ticket?_eq commission, Stage.ticket?_eq commission]
      exact become isSized rfl rfl
  | attend attendants remarks => exact List.Perm.refl _
  | clear waits isServiced => exact become waits rfl rfl
  | interrupt waits isOver => exact become waits rfl rfl
  | abandon waits => exact become waits rfl rfl
  | store isCleared fresh done => exact become isCleared rfl rfl
  | storeRefused isCleared done => exact become isCleared rfl rfl
  | finish shows isStored ended => exact become isStored rfl rfl
  | leave shows isLeaving ended => exact become isLeaving rfl rfl
  | _ => exact List.Perm.refl _

/-- A creation keeps its ticket until it ends. -/
theorem ticket (part : Part weather commission before stage after next) {ticket : Ticket}
    (holds : stage.ticket? = some ticket) :
    next.ticket? = some ticket ∨ next.ticket? = none ∧ ∃ ending, next = .ended ending := by
  cases part with
  | attend attendants remarks => exact Or.inl holds
  | clear waits isServiced => exact Or.inl holds
  | interrupt waits isOver => exact Or.inl holds
  | abandon waits => exact Or.inl holds
  | store isCleared fresh done => exact Or.inl holds
  | storeRefused isCleared done => exact Or.inl holds
  | finish shows isStored ended => exact Or.inr ⟨rfl, _, rfl⟩
  | leave shows isLeaving ended => exact Or.inr ⟨rfl, _, rfl⟩
  | _ => cases holds

/-! ## What a part leaves alone -/

theorem tickets (part : Part weather commission before stage after next) :
    after.tickets = before.tickets := by
  cases part <;> rfl

theorem removals (part : Part weather commission before stage after next) :
    after.removals = before.removals := by
  cases part <;> rfl

/-- The calls of others stay. -/
theorem calls (part : Part weather commission before stage after next)
    {others : List Call}
    (beside : before.calls.Perm ((stage.call? commission).toList ++ others)) :
    after.calls.Perm ((next.call? commission).toList ++ others) := by
  have become : ∀ {acted : Traffic σ} {call : Call} {following : Option Call},
      before.calls.Perm (call :: others) → acted.calls = before.calls →
      (acted.become call following).calls.Perm (following.toList ++ others) := by
    intro acted call following beside same
    rw [Traffic.become, same]
    refine List.Perm.append_left _ ?_
    have erased := beside.erase call
    rwa [List.erase_cons_head] at erased
  cases part with
  | size isLocation nonempty sized => exact beside.cons _
  | submit shows isSized spare ended => exact become beside rfl
  | clear waits isServiced => exact become beside rfl
  | interrupt waits isOver => exact become beside rfl
  | abandon waits => exact become beside rfl
  | store isCleared fresh done => exact become beside rfl
  | storeRefused isCleared done => exact become beside rfl
  | finish shows isStored ended => exact become beside rfl
  | leave shows isLeaving ended => exact become beside rfl
  | _ => exact beside

/-- A part gives at most one identifier, that of its object. -/
theorem named (part : Part weather commission before stage after next) :
    next.made? = stage.made? ∧ after.named = before.named ∨
      stage.made? = none ∧ ∃ id, next.made? = some id ∧ after.named = id :: before.named := by
  cases part with
  | createEmpty isEmpty fresh done => exact Or.inr ⟨rfl, _, rfl, rfl⟩
  | store isCleared fresh done => exact Or.inr ⟨rfl, _, rfl, rfl⟩
  | submit shows isSized spare ended => exact Or.inl ⟨Stage.made?_answered _ _, rfl⟩
  | @leave creation ending see outcome final shows isLeaving ended =>
      refine Or.inl ⟨?_, rfl⟩
      cases ending <;> rfl
  | _ => exact Or.inl ⟨rfl, rfl⟩

/-- A part in one weather is one in any other in which the scan can find the same. -/
theorem inWeather {other : Weather σ} (part : Part weather commission before stage after next)
    (shows : ∀ see, weather.shows see → other.shows see) :
    Part other commission before stage after next := by
  cases part with
  | never => exact .never
  | createEmpty isEmpty fresh done => exact .createEmpty isEmpty fresh done
  | createRefused isEmpty done => exact .createRefused isEmpty done
  | emptyExtent isLocation isEmpty => exact .emptyExtent isLocation isEmpty
  | unsized isLocation nonempty refused => exact .unsized isLocation nonempty refused
  | size isLocation nonempty sized => exact .size isLocation nonempty sized
  | submit seen isSized spare ended => exact .submit (shows _ seen) isSized spare ended
  | attend attendants remarks => exact .attend attendants remarks
  | clear waits isServiced => exact .clear waits isServiced
  | interrupt waits isOver => exact .interrupt waits isOver
  | abandon waits => exact .abandon waits
  | store isCleared fresh done => exact .store isCleared fresh done
  | storeRefused isCleared done => exact .storeRefused isCleared done
  | finish seen isStored ended => exact .finish (shows _ seen) isStored ended
  | leave seen isLeaving ended => exact .leave (shows _ seen) isLeaving ended

end Part

end Parts

end Admission
