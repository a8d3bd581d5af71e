import Admission.Proofs.Server.Explained
import Admission.Proofs.Server.Steady

/-!
# What a server answers

Whatever a server does, its responses explain what becomes of its store, and whoever waits there
has posted an object to the direction of the creation that waits (`Server.Answers`).  Both are kept
as clients go on (`Server.Steady.answers_resume`), by whatever is handled
(`Server.Steady.answers_handle`) and when creations are given up
(`Server.Steady.answers_abandon`).
-/

namespace Admission

namespace Server

variable {requests : List (List UInt8)} {earlier : List ObjectId} {limits : RecordStore.Limits}
  {slots number count : Nat} {server acted between next : Server RecordStore}
  {traffic : Traffic RecordStore} {serviced : List SlotId} {responses later : List Numbered}
  {direction : Direction} {id : ObjectId}

/-- Whoever waits has posted an object to the direction of the creation that waits. -/
def Posted (requests : List (List UInt8)) (server : Server RecordStore) : Prop :=
  ∀ client ∈ server.waiting, Posts requests client.request client.creation.object.direction

/-- Responses explain what has become of the store of a server, and whoever waits there
afterwards has posted an object. -/
structure Answers (requests : List (List UInt8)) (server : Server RecordStore)
    (responses : List Numbered) (next : Server RecordStore) : Prop where
  explains : Explains requests server.controller.store responses next.controller.store
  posted : next.Posted requests

theorem Posted.unlist (posted : server.Posted requests) (client : WaitingClient) :
    (server.unlist client).Posted requests := fun other waits =>
  posted other (List.mem_of_mem_erase waits)

namespace Answers

/-- Nothing is answered, and nothing happens to the store. -/
theorem idle (posted : server.Posted requests) : Answers requests server [] server :=
  ⟨.nothing, posted⟩

theorem trans (first : Answers requests server responses between)
    (second : Answers requests between later next) :
    Answers requests server (responses ++ later) next :=
  ⟨first.explains.trans second.explains, second.posted⟩

/-- Somebody is told of an error, and nothing happens to the store. -/
theorem error {answer : Numbered} (posted : next.Posted requests)
    (known : answer.1 < requests.length) (isError : 400 ≤ answer.2.status)
    (same : next.controller.store = server.controller.store) :
    Answers requests server [answer] next :=
  ⟨.other known (not_tells_of_error isError) (same ▸ .nothing), posted⟩

/-- A creation comes to an outcome of which its client is told, or its client waits. -/
theorem settled (id : ObjectId)
    {action : Action RecordStore (Progress PendingCreation Creation)}
    {outcome : Except Refusal (Progress PendingCreation Creation)}
    (posted : server.Posted requests) (posts : Posts requests number direction)
    (acts : server.act action = .ok (acted, outcome, serviced))
    (leaves : ∀ final, Action.attempt action server.controller = .ok outcome final →
      Store.Left direction id server.controller.store final.store outcome) :
    Answers requests server (acted.answered number outcome) (acted.settled number outcome) := by
  obtain ⟨final, ended, rfl⟩ := act_cases acts
  have left := leaves final ended
  rcases outcome with refusal | ((made | _ | _) | creation)
  · exact error posted posts.known (status_ofRefusal refusal) left
  · obtain ⟨rfl, gains⟩ := left
    exact ⟨.created posts gains .nothing, posted⟩
  · exact error posted posts.known (show 400 ≤ 503 by decide) left
  · exact error posted posts.known (show 400 ≤ 409 by decide) left
  · obtain ⟨same, ofDirection⟩ := left
    refine ⟨same ▸ .nothing, fun client waits => ?_⟩
    rcases List.mem_append.mp waits with old | new
    · exact posted client old
    · rw [List.mem_singleton.mp new]
      exact ofDirection ▸ posts

end Answers

namespace Steady

section Creations

variable {outcome : Except Refusal (Progress PendingCreation Creation)}

/-- A client goes on, and is told what has become of its creation, or waits again. -/
theorem answers_goesOn (steady : server.Steady earlier limits slots traffic)
    (posted : server.Posted requests) {client : WaitingClient} (waits : client ∈ server.waiting)
    (supplied : server.Supplied)
    (acts : (server.unlist client).act (Action.resumeCreation client.creation server.nextId) =
      .ok (acted, outcome, serviced)) :
    Answers requests server (acted.answered client.request outcome)
      (acted.settled client.request outcome) := by
  have settles : Answers requests (server.unlist client) (acted.answered client.request outcome)
      (acted.settled client.request outcome) := by
    refine Answers.settled server.nextId (posted.unlist client) (posted client waits) acts
      fun final ended => ?_
    change Action.attempt _ server.controller = _ at ended
    change Store.Left _ _ server.controller.store _ _
    rw [← steady.mirrors.controller] at ended ⊢
    exact Traffic.resumeCreation_leaves RecordStore.keepsRefused
      (steady.mirrors.unlisted waits).1 (steady.mirrors.fresh supplied)
      (steady.mirrors.attended client waits) ended
  exact ⟨settles.explains, settles.posted⟩

/-- A creation is begun, and its client is told what has become of it, or waits. -/
theorem answers_begins (steady : server.Steady earlier limits slots traffic)
    (posted : server.Posted requests) (posts : Posts requests number direction)
    {source : Source} {priority : Priority} {attendant : Option AttendantId}
    (spare : server.controller.ledger.pool.Spare) (supplied : server.Supplied)
    (acts : server.act (Action.create direction source priority attendant server.nextId) =
      .ok (acted, outcome, serviced)) :
    Answers requests server (acted.answered number outcome) (acted.settled number outcome) := by
  refine Answers.settled server.nextId posted posts acts fun final ended => ?_
  rw [← steady.mirrors.controller] at ended spare ⊢
  exact Traffic.create_leaves RecordStore.keepsRefused (steady.mirrors.fresh supplied) spare ended

end Creations

/-- Clients go on, and are told what has become of their creations. -/
theorem answers_resume (steady : server.Steady earlier limits slots traffic)
    (posted : server.Posted requests)
    (resumes : server.resume serviced count = .ok (next, responses)) (supplied : next.Supplied) :
    Answers requests server responses next := by
  induction count generalizing server traffic serviced responses with
  | zero =>
      cases resumes
      exact .idle posted
  | succ count induction =>
      have suppliedBefore : server.Supplied := (issued_le_resume resumes).trans_lt supplied
      rcases resume_cases resumes with ⟨rfl, rfl⟩ |
        ⟨client, waits, acted, outcome, others, further, later, acts, resumed, rfl⟩
      · exact .idle posted
      · have goesOn := steady.answers_goesOn posted waits suppliedBefore acts
        obtain ⟨after, steadyThere⟩ :=
          steady.follows (steady.mirrors.goesOn waits suppliedBefore acts)
        exact goesOn.trans (induction steadyThere goesOn.posted resumed)

/-- An object is created for a client, or the client is told that it is not, or waits.  The
attendant of a client that is willing to wait is made beside the ledger and the store. -/
theorem answers_create (steady : server.Steady earlier limits slots traffic)
    (posted : server.Posted requests) (posts : Posts requests number direction)
    {params : CreateParams} {source : Source}
    (creates : server.create number direction params source = .ok (next, responses, serviced))
    (spare : server.controller.ledger.pool.Spare) (supplied : next.Supplied) :
    Answers requests server responses next := by
  obtain ⟨attendant, attended, acted, outcome, attends, acts, rfl, rfl⟩ := create_cases creates
  have isAttended : attended = (server.attend params.wait).2 := by rw [attends]
  have kept : (server.attend params.wait).2.controller.ledger = server.controller.ledger ∧
      (server.attend params.wait).2.controller.store = server.controller.store ∧
      (server.attend params.wait).2.waiting = server.waiting := by
    cases params.wait <;> exact ⟨rfl, rfl, rfl⟩
  obtain ⟨between, steadyThere⟩ := steady.follows (steady.mirrors.attend params.wait)
  rw [← isAttended] at steadyThere kept
  obtain ⟨ledger, store, waiting⟩ := kept
  have suppliedThere : attended.Supplied := (issued_le_settled acts number).trans_lt supplied
  have spareThere : attended.controller.ledger.pool.Spare := ledger.symm ▸ spare
  have postedThere : attended.Posted requests := by rwa [Posted, waiting]
  have begins := steadyThere.answers_begins postedThere posts spareThere suppliedThere acts
  exact ⟨store ▸ begins.explains, begins.posted⟩

/-- An object is released, or the client is told that there is none. -/
theorem answers_release (steady : server.Steady earlier limits slots traffic)
    (within : server.Within) (posted : server.Posted requests) {segment : List UInt8}
    (deletes : ∀ id, ObjectId.ofSegment? segment = some id → Deletes requests number id)
    (known : number < requests.length)
    (releases : server.release number segment = .ok (next, responses, serviced)) :
    Answers requests server responses next := by
  rcases release_cases releases with ⟨rfl, rfl⟩ | ⟨id, outcome, named, acts, rfl⟩
  · exact .error posted known (Nat.le_refl 400) rfl
  · obtain ⟨final, ended, rfl⟩ := act_cases acts
    rcases steady.destroys within id with ⟨direction, done, removed, ended', leaves⟩ | ⟨-, refused⟩
    · cases ended.symm.trans ended'
      exact ⟨.released (deletes id named) removed (leaves ▸ .nothing), posted⟩
    · cases ended.symm.trans refused
      exact .error posted known (show 400 ≤ 404 by decide) rfl

/-- Whatever is handled is answered, or waits. -/
theorem answers_handle (steady : server.Steady earlier limits slots traffic)
    (within : server.Within) (spare : server.controller.ledger.pool.Spare)
    (supplied : next.Supplied) (posted : server.Posted requests) {octets : List UInt8}
    (handles : server.handle requests.length octets = .ok (next, responses, serviced)) :
    Answers (requests ++ [octets]) server responses next := by
  have isLast : (requests ++ [octets])[requests.length]? = some octets :=
    List.getElem?_concat_length
  obtain ⟨known, -⟩ := List.getElem?_eq_some_iff.mp isLast
  have stillPosted : server.Posted (requests ++ [octets]) := fun client waits =>
    (posted client waits).more [octets]
  rcases handle_cases handles with ⟨response, rfl, rfl, isError⟩ |
    ⟨response, rfl, rfl, shown, deletesNothing⟩ | ⟨direction, params, source, isPosted, creates⟩ |
    ⟨segment, isDeleted, releases⟩
  · exact .error stillPosted known isError rfl
  · refine ⟨.other known ?_ .nothing, stillPosted⟩
    rintro (isCreated | ⟨id, -, same, isSame, isDeleted⟩)
    · exact shown isCreated
    · cases isLast.symm.trans isSame
      cases deletesNothing.symm.trans isDeleted
  · exact steady.answers_create stillPosted ⟨octets, isLast, isPosted⟩ creates spare supplied
  · exact steady.answers_release within stillPosted
      (fun id named => ⟨octets, isLast, isDeleted.trans named⟩) known releases

/-- Those are told whose creations are given up. -/
theorem answers_abandon (steady : server.Steady earlier limits slots traffic)
    (posted : server.Posted requests) {clients : List WaitingClient}
    (waits : clients.Subperm server.waiting)
    (abandons : server.abandon clients = .ok (next, responses)) :
    Answers requests server responses next := by
  induction clients generalizing server traffic responses with
  | nil =>
      cases abandons
      exact .idle posted
  | cons client others induction =>
      obtain ⟨outcome, final, later, ended, abandoned, rfl⟩ := abandon_cases abandons
      have isWaiting := waits.subset List.mem_cons_self
      obtain ⟨after, steadyAfter⟩ := steady.follows (steady.mirrors.givesUp isWaiting ended)
      have stillWaiting := waits.erase client
      rw [List.erase_cons_head] at stillWaiting
      have rest := induction steadyAfter (posted.unlist client) stillWaiting abandoned
      let noted := traffic.acted (server.controller.record
        [.note (.creationAbandoned client.creation.object.direction)])
      have same : final.store = noted.controller.store :=
        Traffic.abandonCreation_leaves RecordStore.keepsRefused
          (steady.mirrors.unlisted isWaiting).1 ended
      have explains := rest.explains
      rw [same] at explains
      exact ⟨.other (posted client isWaiting).known (not_tells_of_error (show 400 ≤ 503 by decide))
        explains, rest.posted⟩

end Steady

end Server

end Admission
