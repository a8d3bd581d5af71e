import Admission.Proofs.Traffic.Parts
import Admission.Proofs.Traffic.Still

/-!
# Actions are parts in a row

What the controller does for a creation without a pause is a number of own parts in a row, while
nothing else happens.  So whatever is `Closed` under such parts is closed under the actions:
`Closed.create` and `Closed.resume` say so of `Action.create` and `Action.resumeCreation`, and
`Closed.abandon` of `Action.abandonCreation`.
-/

namespace Admission

/-- The stage at which an action leaves a creation. -/
def Stage.reached : Except Refusal (Progress PendingCreation Creation) → Stage
  | .ok (.parked creation) => waiting creation
  | .ok (.finished (.created id)) => ended (.created id)
  | .ok (.finished .notCreated) => ended .notCreated
  | .ok (.finished .interrupted) => ended .interrupted
  | .error refusal => ended (.refused refusal)

/-- Nothing happens to a store, and scans see what it is. -/
def Weather.calm {σ : Type} (store : σ) : Weather σ :=
  ⟨fun see => see = .still store, fun _ _ => False⟩

section Performed

variable {σ : Type} [Store σ] {commission : Commission} {before after now : Traffic σ}
  {stage next : Stage} {final : Controller σ} {creation : PendingCreation} {id : ObjectId}

/-- A step while nothing else happens is one of any traffic. -/
theorem Step.of_calm
    (step : (Weather.calm before.controller.store).Step before after) : Step before after := by
  cases step with
  | aside aside => exact .aside aside
  | turn shows turn =>
      cases shows
      exact .undisturbed turn
  | change changes => cases changes

namespace Part

/-! ## Turns while nothing changes -/

theorem submit_calm {needed : Space} {answer : Except Refusal Answer}
    (isSized : commission.sized needed ∈ before.calls)
    (spare : before.controller.ledger.pool.Spare)
    (ended : Action.attempt (Action.submit commission.direction needed commission.priority
      commission.attendant true) before.controller = .ok answer final) :
    Part (.calm before.controller.store) commission before (.sized needed)
      ((before.acted final).become (commission.sized needed)
        ((Stage.answered commission answer).call? commission))
      (.answered commission answer) := by
  obtain ⟨ran, back⟩ := (Agrees.ofSubmit _ _ _ _ _ _).attempt.run_of_ok rfl ended
  have part : Part (.calm before.controller.store) commission before _ _ _ :=
    submit rfl isSized spare ran
  rwa [back] at part

theorem finish_calm {outcome : Except Refusal Unit}
    (isStored : .stored creation id ∈ before.calls)
    (ended : Action.attempt (Action.dropTicket creation.ticket) before.controller =
      .ok outcome final) :
    Part (.calm before.controller.store) commission before (.stored creation id)
      ((before.acted final).become (.stored creation id) none) (.ended (.created id)) := by
  obtain ⟨ran, back⟩ := (Agrees.ofDropTicket _ _).attempt.run_of_ok rfl ended
  have part : Part (.calm before.controller.store) commission before _ _ _ :=
    finish rfl isStored ran
  rwa [back] at part

theorem leave_calm {ending : Ending} {outcome : Except Refusal Unit}
    (isLeaving : .leaving creation ∈ before.calls)
    (ended : Action.attempt (Action.dropTicket creation.ticket) before.controller =
      .ok outcome final) :
    Part (.calm before.controller.store) commission before (.leaving creation ending)
      ((before.acted final).become (.leaving creation) none) (.ended ending) := by
  obtain ⟨ran, back⟩ := (Agrees.ofDropTicket _ _).attempt.run_of_ok rfl ended
  have part : Part (.calm before.controller.store) commission before (.leaving creation ending)
    _ _ := leave rfl isLeaving ran
  rwa [back] at part

end Part

/-! ## Actions -/

/-- What is gone to at a stage is gone on with by any part of the creation while nothing else
happens, if an object that it stores has the given identifier. -/
structure Closed (commission : Commission) (id : ObjectId) (gone : Traffic σ → Stage → Prop) :
    Prop where
  part : ∀ {now next : Traffic σ} {stage following : Stage}, gone now stage →
    Part (.calm now.controller.store) commission now stage next following →
    (∀ made, following.made? = some made → made = id) → gone next following

/-- It is gone to the stage of an outcome, which is parked only with an attendant, and the
controller is the given one there. -/
def GoesTo (gone : Traffic σ → Stage → Prop)
    (outcome : Except Refusal (Progress PendingCreation Creation)) (final : Controller σ) :
    Prop :=
  (∃ after, gone after (.reached outcome) ∧ after.controller = final) ∧
    ∀ creation, outcome = .ok (.parked creation) → creation.ticket.attendant ≠ none

namespace Closed

variable {gone : Traffic σ → Stage → Prop}

/-- A creation that leaves drops its ticket. -/
theorem leave {ending : Ending} {outcome : Except Refusal Unit} (closed : Closed commission id gone)
    (reached : gone now (.leaving creation ending)) (isLeaving : .leaving creation ∈ now.calls)
    (named : ∀ made, ending = .created made → made = id)
    (ended : Action.attempt (Action.dropTicket creation.ticket) now.controller =
      .ok outcome final) :
    ∃ after, gone after (.ended ending) ∧ after.controller = final := by
  refine ⟨_, closed.part reached (.leave_calm isLeaving ended) ?_, rfl⟩
  intro made isMade
  cases ending with
  | created other =>
      cases isMade
      exact named made rfl
  | _ => cases isMade

/-- A creation that waits is given up. -/
theorem abandon {outcome : Except Refusal Unit} (closed : Closed commission id gone)
    (reached : gone now (.waiting creation)) (waits : .waiting creation ∈ now.calls)
    (ended : Action.attempt (Action.abandonCreation creation) now.controller =
      .ok outcome final) :
    ∃ after, gone after (.ended .abandoned) ∧ after.controller = final :=
  closed.leave (closed.part reached (.abandon waits) (by rintro made ⟨⟩)) List.mem_cons_self
    (by simp) ended

/-- A creation whose requisition is serviced stores its object, unless that is refused. -/
theorem store {outcome : Except Refusal Creation} (closed : Closed commission id gone)
    (reached : gone now (.waiting creation)) (waits : .waiting creation ∈ now.calls)
    (fresh : id ∉ now.named)
    (serviced : now.controller.ledger.isServiced creation.ticket.direction
      creation.ticket.slot = true)
    (ended : Action.attempt (Action.store creation id) now.controller = .ok outcome final) :
    GoesTo gone (outcome.map .finished) final := by
  have cleared := closed.part reached (.clear waits serviced) (by rintro made ⟨⟩)
  rcases Action.attempt_bind_cases ended with ⟨stored, between, done, rest⟩ | ⟨refusal, -, refused⟩
  · cases stored with
    | ok nothing =>
        have dropping : Action.attempt (Action.dropTicket creation.ticket >>= fun _ =>
            pure (.created id)) between = .ok outcome final := rest
        rcases Action.attempt_bind_cases dropping with
          ⟨nothing, dropped, drops, created⟩ | ⟨refusal, -, refused⟩
        · cases created
          have keeps := closed.part cleared (.store List.mem_cons_self fresh done)
            (by rintro made ⟨⟩; rfl)
          have finished := closed.part keeps (.finish_calm List.mem_cons_self
            (Action.attempt_eq_ok_iff.mpr (Or.inl ⟨nothing, rfl, drops⟩)))
            (by rintro made ⟨⟩; rfl)
          exact ⟨⟨_, finished, rfl⟩, by rintro _ ⟨⟩⟩
        · exact absurd refused Action.dropTicket_ne_refused
    | error error =>
        have dropping : Action.attempt (Action.dropTicket creation.ticket >>= fun _ =>
            Action.refuse (.store error))
            (between.record [.note (.creationFailed creation.object.direction error)]) =
            .ok outcome final := rest
        rcases Action.attempt_bind_cases dropping with
          ⟨nothing, dropped, drops, created⟩ | ⟨refusal, -, refused⟩
        · cases created
          have leaves := closed.part cleared (.storeRefused List.mem_cons_self done)
            (by rintro made ⟨⟩)
          exact ⟨closed.leave leaves List.mem_cons_self (by simp)
            (Action.attempt_eq_ok_iff.mpr (Or.inl ⟨nothing, rfl, drops⟩)), by rintro _ ⟨⟩⟩
        · exact absurd refused Action.dropTicket_ne_refused
  · exact absurd refused Action.tryChange_ne_refused

/-- A creation whose wait is over without a grant drops its ticket. -/
theorem interrupt {outcome : Except Refusal Creation} (closed : Closed commission id gone)
    (reached : gone now (.waiting creation)) (waits : .waiting creation ∈ now.calls)
    (isOver : creation.ticket.attendant.any now.controller.attendants.isEnded = true ∨
      creation.ticket.attendant = none ∧ now.controller.ledger.isServiced
        creation.ticket.direction creation.ticket.slot = false)
    (ended : Action.attempt (Action.interrupt creation) now.controller = .ok outcome final) :
    GoesTo gone (outcome.map .finished) final := by
  have dropping : Action.attempt (Action.dropTicket creation.ticket >>= fun _ =>
      pure .interrupted) ((now.controller.record
        [.note (.creationInterrupted creation.object.direction)]).record
        [.event ⟨creation.object.direction, creation.ticket.slot, .interrupted⟩]) =
      .ok outcome final := ended
  rw [Controller.record_record] at dropping
  rcases Action.attempt_bind_cases dropping with
    ⟨nothing, dropped, drops, interrupted⟩ | ⟨refusal, -, refused⟩
  · cases interrupted
    have leaves := closed.part reached (.interrupt waits isOver) (by rintro made ⟨⟩)
    exact ⟨closed.leave leaves List.mem_cons_self (by simp)
      (Action.attempt_eq_ok_iff.mpr (Or.inl ⟨nothing, rfl, drops⟩)), by rintro _ ⟨⟩⟩
  · exact absurd refused Action.dropTicket_ne_refused

/-- A creation is gone on with as far as its wait allows. -/
theorem follow {between : Controller σ} {progress : Progress Ticket WaitOutcome}
    {outcome : Except Refusal (Progress PendingCreation Creation)}
    (closed : Closed commission id gone) (reached : gone now (.waiting creation))
    (waits : .waiting creation ∈ now.calls) (fresh : id ∉ now.named)
    (waited : Waited creation.ticket now.controller progress between)
    (ended : Action.attempt (Action.follow creation id progress) between = .ok outcome final) :
    GoesTo gone outcome final := by
  have woken : ∀ attendants remarks,
      gone (now.acted (now.controller.attended attendants remarks)) (.waiting creation) :=
    fun attendants remarks =>
      closed.part reached (.attend attendants remarks) (by rintro made ⟨⟩)
  have waitsStill : ∀ controller, .waiting creation ∈ (now.acted controller).calls :=
    fun _ => waits
  cases waited with
  | serviced attendants remarks isServiced =>
      rcases Action.attempt_bind_cases ended with
        ⟨created, stored, stores, finished⟩ | ⟨refusal, rfl, refused⟩
      · cases finished
        exact closed.store (woken attendants remarks) (waitsStill _) fresh isServiced
          (Action.attempt_eq_ok_iff.mpr (Or.inl ⟨created, rfl, stores⟩))
      · exact closed.store (woken attendants remarks) (waitsStill _) fresh isServiced
          (Action.attempt_eq_ok_iff.mpr (Or.inr ⟨refusal, rfl, refused⟩))
  | cancelled attendants remarks isOver =>
      rcases Action.attempt_bind_cases ended with
        ⟨created, left, leaves, finished⟩ | ⟨refusal, rfl, refused⟩
      · cases finished
        exact closed.interrupt (woken attendants remarks) (waitsStill _) isOver
          (Action.attempt_eq_ok_iff.mpr (Or.inl ⟨created, rfl, leaves⟩))
      · exact closed.interrupt (woken attendants remarks) (waitsStill _) isOver
          (Action.attempt_eq_ok_iff.mpr (Or.inr ⟨refusal, rfl, refused⟩))
  | parked attendants remarks attended =>
      cases ended
      exact ⟨⟨_, woken attendants remarks, rfl⟩, by rintro _ ⟨⟩; exact attended⟩

/-- A creation that is parked is gone on with. -/
theorem resume {outcome : Except Refusal (Progress PendingCreation Creation)}
    (closed : Closed commission id gone) (reached : gone now (.waiting creation))
    (waits : .waiting creation ∈ now.calls) (fresh : id ∉ now.named)
    (attended : creation.ticket.attendant ≠ none)
    (ended : Action.attempt (Action.resumeCreation creation id) now.controller =
      .ok outcome final) :
    GoesTo gone outcome final := by
  obtain ⟨progress, between, resumes, waited⟩ :=
    Action.resumeWait_waited attended now.controller
  rcases Action.attempt_bind_cases ended with ⟨found, woken, done, rest⟩ | ⟨refusal, -, refused⟩
  · cases resumes.symm.trans done
    exact closed.follow reached waits fresh waited rest
  · cases resumes.symm.trans refused

/-- A creation that has submitted goes on as far as its wait allows. -/
theorem wait {outcome : Except Refusal (Progress PendingCreation Creation)}
    (closed : Closed commission id gone) (reached : gone now (.waiting creation))
    (waits : .waiting creation ∈ now.calls) (fresh : id ∉ now.named)
    (ended : Action.attempt (Action.wait creation.ticket >>= Action.follow creation id)
      now.controller = .ok outcome final) :
    GoesTo gone outcome final := by
  obtain ⟨progress, between, found, waited⟩ :=
    Action.wait_waited creation.ticket now.controller
  rcases Action.attempt_bind_cases ended with ⟨same, woken, done, rest⟩ | ⟨refusal, -, refused⟩
  · cases found.symm.trans done
    exact closed.follow reached waits fresh waited rest
  · cases found.symm.trans refused

/-- A creation that knows the space of its extent asks for it. -/
theorem submit {needed : Space}
    {outcome : Except Refusal (Progress PendingCreation Creation)}
    (closed : Closed commission id gone) (reached : gone now (.sized needed))
    (isSized : commission.sized needed ∈ now.calls) (fresh : id ∉ now.named)
    (spare : now.controller.ledger.pool.Spare)
    (ended : Action.attempt (Action.submit commission.direction needed commission.priority
        commission.attendant true >>= fun answer => match answer with
        | .queued ticket => Action.wait ticket >>=
          Action.follow ⟨ticket, commission.object .reserved⟩ id
        | .granted | .notServiceable => pure (.finished .notCreated))
      now.controller = .ok outcome final) :
    GoesTo gone outcome final := by
  have answered : ∀ {answer : Except Refusal Answer} {between : Controller σ},
      Action.attempt (Action.submit commission.direction needed commission.priority
        commission.attendant true) now.controller = .ok answer between → _ :=
    fun answers => closed.part reached (.submit_calm isSized spare answers)
      (by simp [Stage.made?_answered])
  rcases Action.attempt_bind_cases ended with
    ⟨answer, between, answers, rest⟩ | ⟨refusal, rfl, refused⟩
  · have gone := answered (Action.attempt_eq_ok_iff.mpr (Or.inl ⟨answer, rfl, answers⟩))
    cases answer with
    | granted =>
        cases rest
        exact ⟨⟨_, gone, rfl⟩, by rintro _ ⟨⟩⟩
    | notServiceable =>
        cases rest
        exact ⟨⟨_, gone, rfl⟩, by rintro _ ⟨⟩⟩
    | queued ticket => exact closed.wait gone List.mem_cons_self fresh rest
  · exact ⟨⟨_, answered (Action.attempt_eq_ok_iff.mpr (Or.inr ⟨refusal, rfl, refused⟩)), rfl⟩,
      by rintro _ ⟨⟩⟩

/-- A creation is begun, and comes to an outcome or is parked. -/
theorem create {outcome : Except Refusal (Progress PendingCreation Creation)}
    (closed : Closed commission id gone) (reached : gone now .begun) (fresh : id ∉ now.named)
    (spare : now.controller.ledger.pool.Spare)
    (ended : Action.attempt (Action.create commission.direction commission.source
      commission.priority commission.attendant id) now.controller = .ok outcome final) :
    GoesTo gone outcome final := by
  cases isLocation : commission.source.location with
  | none =>
      simp only [Action.create, isLocation, Action.change, bind_assoc] at ended
      rcases Action.attempt_bind_cases ended with
        ⟨created, between, done, rest⟩ | ⟨refusal, -, refused⟩
      · cases created with
        | ok nothing =>
            cases rest
            exact ⟨⟨_, closed.part reached (.createEmpty isLocation fresh done)
              (by rintro made ⟨⟩; rfl), rfl⟩, by rintro _ ⟨⟩⟩
        | error error =>
            cases rest
            exact ⟨⟨_, closed.part reached (.createRefused isLocation done)
              (by rintro made ⟨⟩), rfl⟩, by rintro _ ⟨⟩⟩
      · exact absurd refused Action.tryChange_ne_refused
  | some location =>
      have located : commission.source.location ≠ none := by simp [isLocation]
      simp only [Action.create, isLocation] at ended
      by_cases isEmpty : commission.source.length = 0
      · rw [if_pos isEmpty] at ended
        cases ended
        exact ⟨⟨_, closed.part reached (.emptyExtent located isEmpty) (by rintro made ⟨⟩), rfl⟩,
          by rintro _ ⟨⟩⟩
      · rw [if_neg isEmpty] at ended
        rcases Action.attempt_bind_cases ended with
          ⟨needed, same, sized, submits⟩ | ⟨refusal, rfl, refused⟩
        · cases (Action.spaceNeeded_keeps commission.source location now.controller).1 sized
          have entered := closed.part reached (.size isLocation isEmpty sized) (by rintro made ⟨⟩)
          exact closed.submit entered List.mem_cons_self fresh spare submits
        · cases (Action.spaceNeeded_keeps commission.source location now.controller).2 refused
          exact ⟨⟨_, closed.part reached (.unsized isLocation isEmpty refused)
            (by rintro made ⟨⟩), rfl⟩, by rintro _ ⟨⟩⟩

end Closed

end Performed

end Admission
