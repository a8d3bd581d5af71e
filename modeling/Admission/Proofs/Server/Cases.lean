import Admission.Server.Basic
import Admission.Proofs.Controller.Running

/-!
# What a server does, case by case

What is handled is turned away, or shown a queue, or posts an object, or asks for one to be
released (`Server.handle_cases`).  An object that is posted is created, or its creation waits; one
that is to be released is destroyed.  Creations that waited for space go on apart from that
(`Server.resume_cases`), and what is received is handled before they do (`Server.receive_cases`).
In each case the lemmas of this module tell what the controller does and what is answered, and some
of them what the server does if the controller does this (`Server.resume_of_ready`,
`Server.create_of_acts`, `Server.release_of_named`, `Server.abandon_of_ended`).
-/

namespace Admission

namespace Server

/-! ## What is asked for -/

/-- The direction to which an object is posted by what came over a connection. -/
def postedTo? (octets : List UInt8) : Option Direction :=
  match Request.read octets with
  | .error _ => none
  | .ok request =>
    match request.method, Route.ofPath request.path with
    | .post, some (.objects segment) => Direction.ofSegment? segment
    | _, _ => none

/-- The object that is to be released by what came over a connection. -/
def deleted? (octets : List UInt8) : Option ObjectId :=
  match Request.read octets with
  | .error _ => none
  | .ok request =>
    match request.method, Route.ofPath request.path with
    | .delete, some (.object segment) => ObjectId.ofSegment? segment
    | _, _ => none

/-! ## The parts of an answer -/

section Parts

variable {σ : Type} {server next acted : Server σ} {number count : Nat}
  {serviced further : List SlotId} {responses : List Numbered}

/-- The server after an answer was settled to what the controller came to for a creation. -/
def settled (server : Server σ) (request : Nat)
    (outcome : Except Refusal (Progress PendingCreation Creation)) : Server σ :=
  ((server.conclude outcome).1.settle request (server.conclude outcome).2).1

/-- The answer to what the controller came to for a creation, unless it waits. -/
def answered (server : Server σ) (request : Nat)
    (outcome : Except Refusal (Progress PendingCreation Creation)) : List Numbered :=
  ((server.conclude outcome).1.settle request (server.conclude outcome).2).2

theorem act_cases {α : Type} {action : Action σ α} {outcome : Except Refusal α}
    (acts : server.act action = .ok (next, outcome, serviced)) :
    ∃ final, Action.attempt action server.controller = .ok outcome final ∧
      next = { server with controller := final } := by
  unfold act at acts
  unfold Action.attempt
  cases ran : action server.controller with
  | ok value final =>
      rw [ran] at acts
      cases acts
      exact ⟨final, rfl, rfl⟩
  | error failure final =>
      rw [ran] at acts
      cases failure with
      | refused refusal =>
          cases acts
          exact ⟨final, rfl, rfl⟩
      | overflow kind => cases acts

/-- The requisitions that were serviced until the controller was this one, in order. -/
def servicedUntil (server : Server σ) (final : Controller σ) : List SlotId :=
  ((Journal.events (final.journal.drop server.controller.journal.length)).filter fun event =>
    event.kind = .serviced).map Event.slot

theorem servicedUntil_self (server : Server σ) : server.servicedUntil server.controller = [] := by
  rw [servicedUntil, List.drop_length]
  rfl

/-- What the controller comes to, the server does. -/
theorem act_of_attempt {α : Type} {action : Action σ α} {outcome : Except Refusal α}
    {final : Controller σ} (ended : Action.attempt action server.controller = .ok outcome final) :
    server.act action =
      .ok ({ server with controller := final }, outcome, server.servicedUntil final) := by
  unfold Action.attempt at ended
  unfold act
  cases ran : action server.controller with
  | ok value controller =>
      rw [ran] at ended
      cases ended
      rfl
  | error failure controller =>
      rw [ran] at ended
      cases failure with
      | refused refusal =>
          cases ended
          rfl
      | overflow kind => cases ended

/-- No identifier is given back. -/
theorem issued_le_settled {action : Action σ (Progress PendingCreation Creation)}
    {outcome : Except Refusal (Progress PendingCreation Creation)}
    (acts : server.act action = .ok (acted, outcome, serviced)) (request : Nat) :
    server.supply.issued ≤ (acted.settled request outcome).supply.issued := by
  obtain ⟨final, -, rfl⟩ := act_cases acts
  rcases outcome with refusal | ((id | _ | _) | creation)
  · exact Nat.le_refl _
  · exact Nat.le_succ _
  · exact Nat.le_refl _
  · exact Nat.le_refl _
  · exact Nat.le_refl _

theorem mem_of_nextReady? {client : WaitingClient} {rest : List SlotId}
    (ready : server.nextReady? serviced = some (client, rest)) : client ∈ server.waiting := by
  induction serviced with
  | nil => cases ready
  | cons slot others induction =>
      unfold nextReady? at ready
      split at ready
      · next found =>
          cases ready
          exact List.mem_of_find?_eq_some found
      · exact induction ready

variable [Store σ]

/-- Nobody goes on, or a client that waits goes on first. -/
theorem resume_cases (resumes : server.resume serviced (count + 1) = .ok (next, responses)) :
    next = server ∧ responses = [] ∨
    ∃ client ∈ server.waiting, ∃ acted outcome others further later,
      (server.unlist client).act (Action.resumeCreation client.creation server.nextId) =
        .ok (acted, outcome, further) ∧
      (acted.settled client.request outcome).resume others count = .ok (next, later) ∧
      responses = acted.answered client.request outcome ++ later := by
  unfold resume at resumes
  split at resumes
  · cases resumes
    exact Or.inl ⟨rfl, rfl⟩
  · next client rest ready =>
      obtain ⟨⟨acted, outcome, further⟩, acts, resumes⟩ := Checked.bind_eq_ok_iff.mp resumes
      obtain ⟨⟨last, later⟩, resumed, ⟨⟩⟩ := Checked.bind_eq_ok_iff.mp resumes
      exact Or.inr ⟨client, mem_of_nextReady? ready, acted, outcome, rest ++ further, further,
        later, acts, resumed, rfl⟩

/-- If nothing was serviced nobody goes on. -/
theorem resume_nothing (server : Server σ) (count : Nat) :
    server.resume [] count = .ok (server, []) := by
  cases count <;> rfl

/-- A client that waits goes on first. -/
theorem resume_of_ready {client : WaitingClient} {rest : List SlotId}
    {outcome : Except Refusal (Progress PendingCreation Creation)}
    (ready : server.nextReady? serviced = some (client, rest))
    (acts : (server.unlist client).act (Action.resumeCreation client.creation server.nextId) =
      .ok (acted, outcome, further))
    (resumes : (acted.settled client.request outcome).resume (rest ++ further) count =
      .ok (next, responses)) :
    server.resume serviced (count + 1) =
      .ok (next, acted.answered client.request outcome ++ responses) := by
  unfold resume
  rw [ready]
  refine Checked.bind_eq_ok_iff.mpr ⟨_, acts, ?_⟩
  exact Checked.bind_eq_ok_iff.mpr ⟨_, resumes, rfl⟩

theorem issued_le_resume (resumes : server.resume serviced count = .ok (next, responses)) :
    server.supply.issued ≤ next.supply.issued := by
  induction count generalizing server serviced responses with
  | zero =>
      cases resumes
      exact Nat.le_refl _
  | succ count induction =>
      rcases resume_cases resumes with
        ⟨rfl, -⟩ | ⟨client, -, acted, outcome, others, further, later, acts, resumed, -⟩
      · exact Nat.le_refl _
      · exact (issued_le_settled acts client.request).trans (induction resumed)

/-- A creation comes to an outcome. -/
theorem create_cases {direction : Direction} {params : CreateParams} {source : Source}
    (creates : server.create number direction params source = .ok (next, responses, serviced)) :
    ∃ attendant attended acted outcome,
      server.attend params.wait = (attendant, attended) ∧
      attended.act (Action.create direction source params.priority attendant attended.nextId) =
        .ok (acted, outcome, serviced) ∧
      next = acted.settled number outcome ∧ responses = acted.answered number outcome := by
  unfold create at creates
  cases isAttended : server.attend params.wait with
  | mk attendant attended =>
      rw [isAttended] at creates
      obtain ⟨⟨acted, outcome, further⟩, acts, ⟨⟩⟩ := Checked.bind_eq_ok_iff.mp creates
      exact ⟨attendant, attended, acted, outcome, rfl, acts, rfl, rfl⟩

/-- An object is created, or its creation waits. -/
theorem create_of_acts {direction : Direction} {params : CreateParams} {source : Source}
    {attendant : Option AttendantId} {attended : Server σ}
    {outcome : Except Refusal (Progress PendingCreation Creation)}
    (attends : server.attend params.wait = (attendant, attended))
    (acts : attended.act (Action.create direction source params.priority attendant
      attended.nextId) = .ok (acted, outcome, serviced)) :
    server.create number direction params source =
      .ok (acted.settled number outcome, acted.answered number outcome, serviced) := by
  unfold create
  rw [attends]
  exact Checked.bind_eq_ok_iff.mpr ⟨_, acts, rfl⟩

/-- The answer to what the controller came to for a release. -/
def releasing (id : ObjectId) : Except Refusal Direction → Response
  | .ok direction => .released id direction
  | .error refusal => .ofRefusal refusal

/-- No object is named, or it is destroyed. -/
theorem release_cases {segment : List UInt8}
    (releases : server.release number segment = .ok (next, responses, serviced)) :
    next = server ∧ responses = [(number, .badPath)] ∨
    ∃ id outcome, ObjectId.ofSegment? segment = some id ∧
      server.act (Action.destroy id) = .ok (next, outcome, serviced) ∧
      responses = [(number, releasing id outcome)] := by
  unfold release at releases
  split at releases
  · cases releases
    exact Or.inl ⟨rfl, rfl⟩
  · next id named =>
      obtain ⟨⟨acted, outcome, further⟩, acts, ⟨⟩⟩ := Checked.bind_eq_ok_iff.mp releases
      exact Or.inr ⟨id, outcome, named, acts, rfl⟩

/-- An object is destroyed, or not. -/
theorem release_of_named {segment : List UInt8} {id : ObjectId}
    {outcome : Except Refusal Direction} (named : ObjectId.ofSegment? segment = some id)
    (acts : server.act (Action.destroy id) = .ok (acted, outcome, serviced)) :
    server.release number segment =
      .ok (acted, [(number, releasing id outcome)], serviced) := by
  unfold release
  rw [named]
  exact Checked.bind_eq_ok_iff.mpr ⟨_, acts, rfl⟩

/-- The creation of a client is given up, and then those of others. -/
theorem abandon_cases {client : WaitingClient} {others : List WaitingClient}
    (abandons : server.abandon (client :: others) = .ok (next, responses)) :
    ∃ outcome final later,
      Action.attempt (Action.abandonCreation client.creation) (server.controller.record
        [.note (.creationAbandoned client.creation.object.direction)]) = .ok outcome final ∧
      abandon { server.unlist client with controller := final } others = .ok (next, later) ∧
      responses = (client.request, .shuttingDown) :: later := by
  unfold abandon at abandons
  obtain ⟨⟨acted, outcome, serviced⟩, acts, abandons⟩ := Checked.bind_eq_ok_iff.mp abandons
  obtain ⟨⟨last, later⟩, abandoned, ⟨⟩⟩ := Checked.bind_eq_ok_iff.mp abandons
  obtain ⟨final, ended, rfl⟩ := act_cases acts
  exact ⟨outcome, final, later, ended, abandoned, rfl⟩

/-- The creation of a client is given up, and then those of others are. -/
theorem abandon_of_ended {client : WaitingClient} {others : List WaitingClient}
    {outcome : Except Refusal Unit} {final : Controller σ}
    (ended : Action.attempt (Action.abandonCreation client.creation) (server.controller.record
      [.note (.creationAbandoned client.creation.object.direction)]) = .ok outcome final)
    (abandons : abandon { server.unlist client with controller := final } others =
      .ok (next, responses)) :
    server.abandon (client :: others) =
      .ok (next, (client.request, .shuttingDown) :: responses) := by
  have acts : (server.unlist client).act (Action.note (.creationAbandoned
      client.creation.object.direction) >>= fun _ => Action.abandonCreation client.creation) =
      _ := act_of_attempt ended
  unfold abandon
  refine Checked.bind_eq_ok_iff.mpr ⟨_, acts, ?_⟩
  exact Checked.bind_eq_ok_iff.mpr ⟨_, abandons, rfl⟩

/-- A refusal is answered with the status of an error. -/
theorem status_ofRefusal (refusal : Refusal) : 400 ≤ (Response.ofRefusal refusal).status := by
  change 400 ≤ Response.refusalStatus refusal
  unfold Response.refusalStatus
  split <;> decide

/-- Nothing happens, and a client is told of an error. -/
def TurnsAway (server next : Server σ) (number : Nat) (responses : List Numbered) : Prop :=
  ∃ response : Response, next = server ∧ responses = [(number, response)] ∧ 400 ≤ response.status

/-- What is posted is turned away, or an object is created. -/
theorem post_cases {request : Request} {segment : List UInt8}
    (posts : server.post number request segment = .ok (next, responses, serviced)) :
    server.TurnsAway next number responses ∨
    ∃ direction params source, Direction.ofSegment? segment = some direction ∧
      server.create number direction params source = .ok (next, responses, serviced) := by
  have turnedAway : ∀ response : Response, 400 ≤ response.status →
      (.ok (server.respond number response) : Except Overflow (Handling σ)) =
        .ok (next, responses, serviced) → server.TurnsAway next number responses := by
    rintro response isError ⟨⟩
    exact ⟨response, rfl, rfl, isError⟩
  unfold post at posts
  simp only at posts
  split at posts
  · exact Or.inl (turnedAway _ (by decide) posts)
  · next direction named =>
      split at posts
      · split at posts
        · exact Or.inl (turnedAway _ (by decide) posts)
        · split at posts
          · split at posts
            · exact Or.inl (turnedAway _ (by decide) posts)
            · next params isForm =>
                split at posts
                · exact Or.inl (turnedAway _ (Nat.le_refl 400) posts)
                · next source isSource =>
                    exact Or.inr ⟨direction, params, source, named, posts⟩
          · exact Or.inl (turnedAway _ (by decide) posts)
      · exact Or.inl (turnedAway _ (by decide) posts)

/-- Who is shown a queue is not told that an object was created. -/
theorem status_observe {segment : List UInt8} {response : Response}
    (observes : server.observe segment = .ok response) : response.status ≠ 201 := by
  unfold observe at observes
  split at observes
  · cases observes
    decide
  · split at observes
    · next snapshot shown =>
        cases observes
        unfold Response.ofSnapshot
        split <;> simp [Response.octets, Response.line]
    · next refusal refused =>
        cases observes
        have isError := status_ofRefusal refusal
        omega
    · cases observes

/-- Whatever is handled is turned away or shown something, or creates or releases an object. -/
theorem handle_cases {octets : List UInt8}
    (handles : server.handle number octets = .ok (next, responses, serviced)) :
    server.TurnsAway next number responses ∨
    (∃ response : Response, next = server ∧ responses = [(number, response)] ∧
      response.status ≠ 201 ∧ deleted? octets = none) ∨
    (∃ direction params source, postedTo? octets = some direction ∧
      server.create number direction params source = .ok (next, responses, serviced)) ∨
    ∃ segment, deleted? octets = ObjectId.ofSegment? segment ∧
      server.release number segment = .ok (next, responses, serviced) := by
  unfold handle at handles
  split at handles
  · next request isRequest =>
      unfold serve at handles
      split at handles
      · cases handles
        exact Or.inl ⟨_, rfl, rfl, by decide⟩
      · next route isRoute =>
          split at handles
          · next allowed =>
              split at handles
              · next segment =>
                  have isPost : request.method = .post := by
                    unfold Route.allows at allowed
                    split at allowed <;> simp_all
                  rcases post_cases handles with
                    turnsAway | ⟨direction, params, source, named, creates⟩
                  · exact Or.inl turnsAway
                  · refine Or.inr (Or.inr (Or.inl ⟨direction, params, source, ?_, creates⟩))
                    simp only [postedTo?, isRequest, isPost, isRoute, named]
              · next segment =>
                  have isDelete : request.method = .delete := by
                    unfold Route.allows at allowed
                    split at allowed <;> simp_all
                  refine Or.inr (Or.inr (Or.inr ⟨segment, ?_, handles⟩))
                  simp only [deleted?, isRequest, isDelete, isRoute]
              · next segment =>
                  obtain ⟨response, observes, ⟨⟩⟩ := Checked.bind_eq_ok_iff.mp handles
                  have shown := status_observe observes
                  refine Or.inr (Or.inl ⟨_, rfl, rfl, ?_, ?_⟩)
                  · split <;> exact shown
                  · simp only [deleted?, isRequest, isRoute]
                    cases request.method <;> rfl
          · cases handles
            exact Or.inl ⟨_, rfl, rfl, by decide⟩
  · next fault isFault =>
      cases handles
      refine Or.inl ⟨_, rfl, rfl, ?_⟩
      cases fault <;> decide

/-- Who asks for an object to be released is served so. -/
theorem handle_of_deleted (server : Server σ) {octets : List UInt8} {id : ObjectId}
    (deleted : deleted? octets = some id) (number : Nat) :
    ∃ segment, ObjectId.ofSegment? segment = some id ∧
      server.handle number octets = server.release number segment := by
  unfold deleted? at deleted
  split at deleted
  · cases deleted
  · next request isRequest =>
      split at deleted
      · next segment isDelete isRoute =>
          refine ⟨segment, deleted, ?_⟩
          simp only [handle, isRequest, serve, isRoute, Route.allows, isDelete]
          rfl
      · cases deleted

/-- What is received is handled, and then creations go on. -/
theorem receive_cases {octets : List UInt8}
    (receives : server.receive number octets = .ok (next, responses)) :
    ∃ handled first serviced later,
      server.handle number octets = .ok (handled, first, serviced) ∧
      handled.resumeAll serviced = .ok (next, later) ∧ responses = first ++ later := by
  unfold receive at receives
  obtain ⟨⟨handled, first, serviced⟩, handles, receives⟩ := Checked.bind_eq_ok_iff.mp receives
  obtain ⟨⟨last, later⟩, resumed, ⟨⟩⟩ := Checked.bind_eq_ok_iff.mp receives
  exact ⟨handled, first, serviced, later, handles, resumed, rfl⟩

/-- What is handled is received if creations can go on then. -/
theorem receive_of_handles {octets : List UInt8} {handled : Server σ} {first : List Numbered}
    (handles : server.handle number octets = .ok (handled, first, serviced))
    (resumes : handled.resumeAll serviced = .ok (next, responses)) :
    server.receive number octets = .ok (next, first ++ responses) := by
  unfold receive
  refine Checked.bind_eq_ok_iff.mpr ⟨_, handles, ?_⟩
  exact Checked.bind_eq_ok_iff.mpr ⟨_, resumes, rfl⟩

/-- Of what only gets a response nothing else comes. -/
theorem receive_of_respond {octets : List UInt8} {response : Response}
    (handles : server.handle number octets = .ok (server.respond number response)) :
    server.receive number octets = .ok (server, [(number, response)]) :=
  receive_of_handles handles (server.resume_nothing _)

end Parts

end Server

end Admission
