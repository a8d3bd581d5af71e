import Admission.Proofs.Traffic.Mirrors
import Mathlib.Data.List.Chain

/-!
# Sessions are runs

A session carries out one command after the other.  Each command that leaves the store to the
controller is a part of a run: `Session.Mirrors.step` follows a command in the traffic.  So what
holds in every state of every run holds after every command of every session
(`Session.exists_run_of_commands`).
-/

namespace Admission

namespace Session

variable {σ : Type}

/-- A call that is no creation can be kept, and the traffic stays as it is. -/
def KeepsOthers (session : Session σ) (keep : Session σ → Call → Session σ × Reply) : Prop :=
  ∀ (controller : Controller σ) (call : Call) (after : Traffic σ), call.waiting? = none →
    Mirrors { session with controller := controller } after →
    (keep { session with controller := controller } call).1.Mirrors after

theorem keepsOthers_keepCall (session : Session σ) : KeepsOthers session keepCall := by
  intro controller call after other mirrors
  have isOther : ∀ creation, call = .create creation → creation.ticket.attendant ≠ none := by
    rintro creation rfl
    cases other
  have kept := mirrors.parked isOther
  rw [other] at kept
  exact kept

theorem keepsOthers_putBack {session : Session σ} {handle : Handle}
    (isNew : handle ∉ session.calls.map Prod.fst)
    (issued : handle.number < session.handles) : KeepsOthers session (putBack handle) := by
  intro controller call after other mirrors
  have isOther : ∀ creation, call = .create creation → creation.ticket.attendant ≠ none := by
    rintro creation rfl
    cases other
  have kept := mirrors.parkedAgain isNew issued isOther
  rw [other] at kept
  exact kept

/-- What the controller does ends with a value or is refused, unless it overflows. -/
theorem act_cases {α : Type} {session next : Session σ} {action : Action σ α}
    {andThen : Session σ → α → Session σ × Reply} {reply : Reply}
    (acts : session.act action andThen = (next, reply))
    (noOverflow : ∀ kind, reply ≠ .overflowed kind) :
    ∃ outcome final, Action.attempt action session.controller = .ok outcome final ∧
      ((∃ value, outcome = .ok value ∧
          andThen { session with controller := final } value = (next, reply)) ∨
        ∃ refusal, outcome = .error refusal ∧ next = { session with controller := final }) := by
  unfold act at acts
  unfold Action.attempt
  cases ran : action session.controller with
  | ok value final =>
      rw [ran] at acts
      exact ⟨.ok value, final, rfl, Or.inl ⟨value, rfl, acts⟩⟩
  | error failure final =>
      rw [ran] at acts
      cases failure with
      | refused refusal =>
          cases acts
          exact ⟨.error refusal, final, rfl, Or.inr ⟨refusal, rfl, rfl⟩⟩
      | overflow kind =>
          cases acts
          exact absurd rfl (noOverflow kind)

section Commands

variable [Store σ] {session next : Session σ} {traffic : Traffic σ} {reply : Reply}

/-- Nothing happens. -/
theorem Mirrors.idle (mirrors : session.Mirrors traffic) : traffic.Follows session :=
  ⟨traffic, .refl, mirrors⟩

/-- A command on a ticket does nothing if the handle names none. -/
theorem Mirrors.withTicket (mirrors : session.Mirrors traffic) {handle : Handle}
    {andThen : Ticket → Session σ × Reply}
    (stepped : session.withTicket handle andThen = (next, reply))
    (follows : ∀ ticket, session.ticket? handle = some ticket →
      andThen ticket = (next, reply) → traffic.Follows next) :
    traffic.Follows next := by
  unfold Session.withTicket at stepped
  split at stepped
  · next ticket found => exact follows ticket found stepped
  · cases stepped
    exact mirrors.idle

/-- A command on a call does nothing if the handle names none. -/
theorem Mirrors.withCall (mirrors : session.Mirrors traffic) {handle : Handle}
    {andThen : Call → Session σ × Reply}
    (stepped : session.withCall handle andThen = (next, reply))
    (follows : ∀ call, session.call? handle = some call →
      andThen call = (next, reply) → traffic.Follows next) :
    traffic.Follows next := by
  unfold Session.withCall at stepped
  split at stepped
  · next call found => exact follows call found stepped
  · cases stepped
    exact mirrors.idle

/-- An attendant changes. -/
theorem Mirrors.attend (mirrors : session.Mirrors traffic) (attendants : Attendants)
    (remarks : List Note) :
    traffic.Follows
      { session with controller := session.controller.attended attendants remarks } := by
  refine ⟨_, Traffic.Reaches.aside .refl (.attend attendants remarks), ?_⟩
  rw [mirrors.controller]
  exact mirrors.acted _

/-- What changes attendants only is followed by a step of the traffic that does the same. -/
theorem Mirrors.attending (mirrors : session.Mirrors traffic) {α : Type} {action : Action σ α}
    {andThen : Session σ → α → Session σ × Reply}
    (attends : ∃ value attendants remarks, action session.controller =
      .ok value (session.controller.attended attendants remarks))
    (keeps : ∀ controller value after, Mirrors { session with controller := controller } after →
      (andThen { session with controller := controller } value).1.Mirrors after)
    (acts : session.act action andThen = (next, reply)) :
    traffic.Follows next := by
  obtain ⟨value, attendants, remarks, ran⟩ := attends
  obtain ⟨after, reaches, later⟩ := mirrors.attend attendants remarks
  rw [act, ran] at acts
  have followed : andThen { session with
      controller := session.controller.attended attendants remarks } value = (next, reply) := acts
  have kept := keeps _ value after later
  rw [followed] at kept
  exact ⟨after, reaches, kept⟩

/-- A signal changes attendants only. -/
theorem Mirrors.signal (mirrors : session.Mirrors traffic) {attendant : AttendantId}
    {change : Attendants → AttendantId → Attendants}
    (signals : session.signal attendant change = (next, reply)) :
    traffic.Follows next := by
  refine mirrors.attending ?_ (fun controller value after kept => kept) signals
  refine ⟨(), change session.controller.attendants attendant, [], ?_⟩
  rw [Controller.attended, List.map_nil, Controller.record_nil]
  rfl

/-- A take changes attendants only. -/
theorem Mirrors.pollTake (mirrors : session.Mirrors traffic) {attendant : AttendantId}
    {keep : Session σ → Call → Session σ × Reply}
    (keeps : KeepsOthers session keep)
    (acts : session.act (Action.pollTake attendant) (followTake keep) = (next, reply)) :
    traffic.Follows next := by
  refine mirrors.attending ?_ ?_ acts
  · simp only [Action.pollTake, Action.bind_run, Action.takeSignal_run]
    cases (session.controller.attendants.take attendant).1 <;> exact ⟨_, _, _, rfl⟩
  · intro controller progress after kept
    cases progress with
    | finished taking => exact kept
    | parked attendant => exact keeps controller _ after rfl kept

/-- A wait changes attendants only. -/
theorem Mirrors.wait (mirrors : session.Mirrors traffic)
    {action : Action σ (Progress Ticket WaitOutcome)}
    {keep : Session σ → Call → Session σ × Reply}
    (waits : ∃ progress attendants remarks, action session.controller =
      .ok progress (session.controller.attended attendants remarks))
    (keeps : KeepsOthers session keep)
    (acts : session.act action (followWait keep) = (next, reply)) :
    traffic.Follows next := by
  refine mirrors.attending waits ?_ acts
  intro controller progress after kept
  cases progress with
  | finished outcome => exact kept
  | parked rest => exact keeps controller _ after rfl kept

/-- A creation comes to its outcome in the traffic. -/
theorem Mirrors.creation {action : Action σ (Progress PendingCreation Creation)}
    {others : List Admission.Call} {keep : Session σ → Call → Session σ × Reply}
    (remain : session.Mirrors { traffic with calls := others })
    (comes : ∀ outcome final, Action.attempt action traffic.controller = .ok outcome final →
      traffic.ComesTo session.nextId others outcome final)
    (keeps : ∀ controller creation, creation.ticket.attendant ≠ none →
      (keep { session with controller := controller } (.create creation)).1.Mirrors
        { traffic.acted controller with calls := .waiting creation :: others })
    (acts : session.act action (followCreation keep) = (next, reply))
    (noOverflow : ∀ kind, reply ≠ .overflowed kind) :
    traffic.Follows next := by
  obtain ⟨outcome, final, ended, follows⟩ := act_cases acts noOverflow
  have same : traffic.controller = session.controller := remain.controller
  rw [← same] at ended
  obtain ⟨left, given, calls, isOutcome, moved, reaches⟩ := comes outcome final ended
  have acted : Mirrors { session with controller := final }
      { traffic.acted final with calls := others } := remain.acted final
  have settled : next.Mirrors { traffic.acted final with
      named := given ++ traffic.named
      calls := left ++ others } := by
    rcases follows with ⟨progress, rfl, followed⟩ | ⟨refusal, rfl, rfl⟩
    · have comesTo := acted.outcome isOutcome (keeps final)
      rw [followed] at comesTo
      exact comesTo
    · cases isOutcome
      exact acted
  exact ⟨_, reaches, settled.withCalls moved⟩

/-- A ticket is dropped. -/
theorem Mirrors.drop (mirrors : session.Mirrors traffic) {handle : Handle} {ticket : Ticket}
    (found : session.ticket? handle = some ticket)
    (drops : session.dropTicket handle ticket = (next, reply))
    (noOverflow : ∀ kind, reply ≠ .overflowed kind) :
    traffic.Follows next := by
  obtain ⟨outcome, final, ended, follows⟩ := act_cases drops noOverflow
  have left := mirrors.withoutTicket found
  have moved := (perm_of_find? mirrors.ticketHandles found).map Prod.snd
  have held : ticket ∈ traffic.tickets :=
    (mirrors.tickets.trans moved).mem_iff.mpr List.mem_cons_self
  have same : session.controller = traffic.controller := mirrors.controller.symm
  rw [same] at ended
  refine ⟨_, .single (.drop held ended), ?_⟩
  rcases follows with ⟨dropped, rfl, followed⟩ | ⟨refusal, rfl, rfl⟩
  · cases followed
    exact left.acted final
  · exact left.acted final

/-- A call is polled. -/
theorem Mirrors.poll (mirrors : session.Mirrors traffic) {handle : Handle} {call : Call}
    (fresh : session.nextId ∉ traffic.named) (found : session.call? handle = some call)
    (polls : session.poll handle call = (next, reply))
    (noOverflow : ∀ kind, reply ≠ .overflowed kind) :
    traffic.Follows next := by
  obtain ⟨isNew, issued⟩ := mirrors.isNew_forget found
  cases call with
  | take attendant =>
      exact (mirrors.forgotten found (.refl _)).pollTake (keepsOthers_putBack isNew issued) polls
  | wait ticket =>
      exact (mirrors.forgotten found (.refl _)).wait (Action.resumeWait_attended _ _)
        (keepsOthers_putBack isNew issued) polls
  | create creation =>
      obtain ⟨waits, attended⟩ := mirrors.mem_calls found
      have remain := mirrors.forgotten found (List.perm_cons_erase waits)
      refine Mirrors.creation remain (fun outcome final ended => ?_)
        (fun controller other waitsStill => ?_) polls noOverflow
      · exact Traffic.resumeCreation_comesTo waits fresh attended ended
      · refine (remain.acted controller).parkedAgain isNew issued fun same isSame => ?_
        cases isSame
        exact waitsStill

/-- A call is given up. -/
theorem Mirrors.abandon (mirrors : session.Mirrors traffic) {handle : Handle} {call : Call}
    (found : session.call? handle = some call)
    (abandons : session.abandon handle call = (next, reply))
    (noOverflow : ∀ kind, reply ≠ .overflowed kind) :
    traffic.Follows next := by
  cases call with
  | take attendant =>
      cases abandons
      exact (mirrors.forgotten found (.refl _)).idle
  | wait ticket =>
      cases abandons
      exact (mirrors.forgotten found (.refl _)).idle
  | create creation =>
      obtain ⟨waits, -⟩ := mirrors.mem_calls found
      have remain := mirrors.forgotten found (List.perm_cons_erase waits)
      obtain ⟨outcome, final, ended, follows⟩ := act_cases abandons noOverflow
      have same : (session.forget handle).controller = traffic.controller :=
        mirrors.controller.symm
      rw [same] at ended
      refine ⟨_, Traffic.abandonCreation_reaches waits ended, ?_⟩
      rcases follows with ⟨left, rfl, followed⟩ | ⟨refusal, rfl, rfl⟩
      · cases followed
        exact remain.acted final
      · exact remain.acted final

/-- A command through the controller is followed by steps of the traffic that do the same,
unless it overflows or no identifier or index is left for it. -/
theorem Mirrors.step (mirrors : session.Mirrors traffic) {command : Command}
    (through : command.ThroughController) (stepped : session.step command = (next, reply))
    (noOverflow : ∀ kind, reply ≠ .overflowed kind)
    (fresh : session.nextId ∉ session.supply.taken)
    (spare : session.controller.ledger.pool.Spare) :
    traffic.Follows next := by
  have freshThere : session.nextId ∉ traffic.named := fun used => fresh (mirrors.named _ used)
  have spareThere : traffic.controller.ledger.pool.Spare := mirrors.controller ▸ spare
  cases command with
  | capacity | occupancy | sliceSpace | isEnded | snapshot =>
      cases stepped
      exact mirrors.idle
  | storeObject | removeObject => exact through.elim
  | makeAttendant =>
      cases stepped
      obtain ⟨after, reaches, later⟩ := mirrors.attend session.controller.attendants.make.2 []
      rw [Controller.attended, List.map_nil, Controller.record_nil] at later
      exact ⟨after, reaches, later⟩
  | give attendant => exact mirrors.signal stepped
  | pause attendant => exact mirrors.signal stepped
  | resume attendant => exact mirrors.signal stepped
  | take attendant => exact mirrors.pollTake (keepsOthers_keepCall session) stepped
  | request direction needed priority attendant =>
      obtain ⟨answer, final, ended, follows⟩ := act_cases stepped noOverflow
      rw [← mirrors.controller] at ended
      refine ⟨_, .single (.request spareThere ended), ?_⟩
      have acted := mirrors.acted final
      rcases follows with ⟨answered, rfl, followed⟩ | ⟨refusal, rfl, rfl⟩
      · cases answered with
        | queued ticket =>
            cases followed
            exact acted.kept ticket
        | granted =>
            cases followed
            exact acted
        | notServiceable =>
            cases followed
            exact acted
      · exact acted
  | create direction source priority attendant =>
      refine Mirrors.creation mirrors (fun outcome final ended => ?_)
        (fun controller creation waits => ?_) stepped noOverflow
      · exact Traffic.create_comesTo freshThere spareThere ended
      · refine (mirrors.acted controller).parked fun other isOther => ?_
        cases isOther
        exact waits
  | scan direction =>
      obtain ⟨outcome, final, ended, follows⟩ := act_cases stepped noOverflow
      rw [← mirrors.controller] at ended
      refine ⟨_, .single (.scan ended), ?_⟩
      rcases follows with ⟨serviced, rfl, followed⟩ | ⟨refusal, rfl, rfl⟩
      · cases followed
        exact mirrors.acted final
      · exact mirrors.acted final
  | destroy object =>
      obtain ⟨outcome, final, ended, follows⟩ := act_cases stepped noOverflow
      rw [← mirrors.controller] at ended
      refine ⟨_, Traffic.destroy_reaches ended, ?_⟩
      rcases follows with ⟨direction, rfl, followed⟩ | ⟨refusal, rfl, rfl⟩
      · cases followed
        exact mirrors.acted final
      · exact mirrors.acted final
  | inspect handle =>
      refine mirrors.withTicket stepped fun ticket found inspected => ?_
      cases inspected
      exact mirrors.idle
  | wait handle =>
      refine mirrors.withTicket stepped fun ticket found waits => ?_
      exact mirrors.wait (Action.wait_attended _ _) (keepsOthers_keepCall session) waits
  | waitBriefly handle =>
      refine mirrors.withTicket stepped fun ticket found waits => ?_
      exact mirrors.wait (Action.wait_attended _ _) (fun _ _ _ _ kept => kept) waits
  | drop handle =>
      refine mirrors.withTicket stepped fun ticket found drops => ?_
      exact mirrors.drop found drops noOverflow
  | poll handle =>
      refine mirrors.withCall stepped fun call found polls => ?_
      exact mirrors.poll freshThere found polls noOverflow
  | abandon handle =>
      refine mirrors.withCall stepped fun call found abandons => ?_
      exact mirrors.abandon found abandons noOverflow

/-- The session after a number of commands. -/
def carryOut (session : Session σ) (commands : List Command) : Session σ :=
  commands.foldl (fun session command => (session.step command).1) session

/-- Commands that leave the store to the controller, none of which overflows, and for each of
which there are an identifier and an index left. -/
def Regular (session : Session σ) : List Command → Prop
  | [] => True
  | command :: commands =>
    command.ThroughController ∧ (∀ kind, (session.step command).2 ≠ .overflowed kind) ∧
      session.nextId ∉ session.supply.taken ∧ session.controller.ledger.pool.Spare ∧
      Regular (session.step command).1 commands

/-- Regular commands are followed by steps of the traffic. -/
theorem Mirrors.carryOut (mirrors : session.Mirrors traffic) {commands : List Command}
    (regular : session.Regular commands) :
    traffic.Follows (session.carryOut commands) := by
  induction commands generalizing session traffic with
  | nil => exact mirrors.idle
  | cons command commands induction =>
      obtain ⟨through, noOverflow, fresh, spare, rest⟩ := regular
      obtain ⟨between, reaches, later⟩ := mirrors.step through rfl noOverflow fresh spare
      obtain ⟨after, further, last⟩ := induction later rest
      exact ⟨after, reaches.trans further, last⟩

/-- Every session of regular commands is a run: in its last state has happened what has
happened in the session. -/
theorem exists_run_of_commands (store : σ) (slots : Nat) (chance : UInt64)
    {commands : List Command} (regular : (Session.start store slots chance).Regular commands) :
    ∃ run, Run (Traffic.start store slots) run ∧
      ((Session.start store slots chance).carryOut commands).Mirrors
        ((Traffic.start store slots :: run).getLast (List.cons_ne_nil _ _)) := by
  obtain ⟨after, reaches, mirrors⟩ := (mirrors_start store slots chance).carryOut regular
  obtain ⟨run, steps, last⟩ := List.exists_isChain_cons_of_relationReflTransGen reaches
  exact ⟨run, steps, last ▸ mirrors⟩

end Commands

end Session

end Admission
