import Admission.Proofs.Server.Cases
import Admission.Proofs.Traffic.Redeemed
import Admission.Proofs.Traffic.Whole

/-!
# A server in the traffic

`Server.Mirrors` relates a server to traffic in which the same has happened: the clients that wait
at the server are those whose creations wait in the traffic, and nobody holds a ticket otherwise.

A server does one thing after the other, and each of them is a part of a run: the relation is kept
by whatever is handled (`Server.Mirrors.handle`), as clients go on (`Server.Mirrors.resume`) and
when they are given up (`Server.Mirrors.abandon`), as long as there are an index for one more
requisition and identifiers that were not issued yet.  `Server.Reaches` are all runs of these, in
any order: clients whose requisitions were serviced may go on at once, or after other requests, or
be given up before.
-/

namespace Admission

namespace Server

variable {σ : Type}

/-- In the traffic the same has happened as at a server whose store had objects before. -/
structure Mirrors (earlier : List ObjectId) (server : Server σ) (traffic : Traffic σ) : Prop where
  controller : traffic.controller = server.controller
  tickets : traffic.tickets = []
  calls : traffic.calls.Perm (server.waiting.map fun client => .waiting client.creation)
  removals : traffic.removals = []
  named : ∀ id ∈ traffic.named, id ∈ earlier ∨ id ∈ server.supply.taken
  /-- No identifier from before is issued again. -/
  apart : ∀ count, server.supply.nth count ∉ earlier
  attended : ∀ client ∈ server.waiting, client.creation.ticket.attendant ≠ none

/-- What happens at the server next can happen in the traffic next. -/
abbrev Follows [Store σ] (earlier : List ObjectId) (traffic : Traffic σ) (server : Server σ) :
    Prop :=
  ∃ after, traffic.Reaches after ∧ server.Mirrors earlier after

/-- Not all identifiers of the supply were issued. -/
def Supplied (server : Server σ) : Prop := server.supply.issued < 0x4000000000000000

/-! ## Keeping the relation -/

section Keeping

variable {earlier : List ObjectId} {server next : Server σ} {traffic : Traffic σ}
  {number count : Nat} {serviced : List SlotId} {responses : List Numbered}

/-- A server over a store with objects, at which nobody has asked for anything. -/
theorem mirrors_start [Store σ] [Accounted σ] (store : σ) (slots : Nat) (chance : UInt64)
    (apart : ∀ count, (IdSupply.start chance).nth count ∉
      (Accounted.objects store).map StoredObject.id) :
    (start store slots chance).Mirrors ((Accounted.objects store).map StoredObject.id)
      (.stocked store slots) where
  controller := rfl
  tickets := rfl
  calls := .nil
  removals := rfl
  named := fun _ member => Or.inl member
  apart := apart
  attended := by rintro client ⟨⟩

namespace Mirrors

/-- The identifier of the next object was not issued, and is not from before. -/
theorem fresh (mirrors : server.Mirrors earlier traffic) (supplied : server.Supplied) :
    server.nextId ∉ traffic.named := by
  intro used
  rcases mirrors.named _ used with before | taken
  · exact mirrors.apart _ before
  · obtain ⟨count, isEarlier, same⟩ := List.mem_map.mp taken
    have bound := List.mem_range.mp isEarlier
    have equal := server.supply.nth_injective (bound.trans supplied) supplied same
    omega

/-- The controller has acted. -/
theorem acted (mirrors : server.Mirrors earlier traffic) (controller : Controller σ) :
    Mirrors earlier { server with controller := controller } (traffic.acted controller) :=
  { mirrors with controller := rfl }

/-- A client that waits is taken off the list. -/
theorem unlisted (mirrors : server.Mirrors earlier traffic) {client : WaitingClient}
    (waits : client ∈ server.waiting) :
    .waiting client.creation ∈ traffic.calls ∧
      (server.unlist client).Mirrors earlier
        { traffic with calls := traffic.calls.erase (.waiting client.creation) } := by
  have moved := (List.perm_cons_erase waits).map fun client : WaitingClient =>
    Call.waiting client.creation
  have there : Call.waiting client.creation ∈ traffic.calls :=
    (mirrors.calls.trans moved).mem_iff.mpr List.mem_cons_self
  refine ⟨there, { mirrors with
    calls := ?_
    attended := fun other member => mirrors.attended other (List.mem_of_mem_erase member) }⟩
  have fewer := (mirrors.calls.trans moved).erase (.waiting client.creation)
  rwa [List.map_cons, List.erase_cons_head] at fewer

/-- An answer is settled to what the traffic comes to for a creation. -/
theorem settled {outcome : Except Refusal (Progress PendingCreation Creation)}
    {others left : List Call} {given : List ObjectId}
    (mirrors : server.Mirrors earlier { traffic with calls := others })
    (comes : Traffic.Outcome server.nextId outcome left given) (request : Nat) :
    (server.settled request outcome).Mirrors earlier
      { traffic with named := given ++ traffic.named, calls := left ++ others } := by
  cases comes with
  | @parked creation attended =>
      refine { mirrors with calls := ?_, attended := ?_ }
      · change (_ :: others).Perm ((server.waiting ++ [_]).map _)
        rw [List.map_append]
        exact (mirrors.calls.cons _).trans (List.perm_append_singleton _ _).symm
      · intro client member
        rcases List.mem_append.mp member with old | new
        · exact mirrors.attended client old
        · rw [List.mem_singleton.mp new]
          exact attended
  | created =>
      refine { mirrors with named := fun id member => ?_ }
      have grown : server.supply.advance.taken = server.supply.taken ++ [server.nextId] := by
        simp only [IdSupply.taken, IdSupply.advance, List.range_succ, List.map_append]
        rfl
      change id ∈ earlier ∨ id ∈ server.supply.advance.taken
      rw [grown, List.mem_append]
      rcases List.mem_cons.mp member with rfl | old
      · exact Or.inr (Or.inr List.mem_cons_self)
      · exact (mirrors.named id old).imp_right Or.inl
  | notCreated => exact mirrors
  | interrupted => exact mirrors
  | refused => exact mirrors

end Mirrors

variable [Store σ]

namespace Mirrors

/-- Nothing happens. -/
theorem idle (mirrors : server.Mirrors earlier traffic) : Follows earlier traffic server :=
  ⟨traffic, .refl, mirrors⟩

/-- A creation comes to its outcome in the traffic. -/
theorem creation {action : Action σ (Progress PendingCreation Creation)} {acted : Server σ}
    {others : List Call} {outcome : Except Refusal (Progress PendingCreation Creation)}
    (mirrors : server.Mirrors earlier { traffic with calls := others })
    (comes : ∀ final, Action.attempt action server.controller = .ok outcome final →
      traffic.ComesTo server.nextId others outcome final)
    (acts : server.act action = .ok (acted, outcome, serviced)) (request : Nat) :
    Follows earlier traffic (acted.settled request outcome) := by
  obtain ⟨final, ended, rfl⟩ := act_cases acts
  obtain ⟨left, given, calls, isOutcome, moved, reaches⟩ := comes final ended
  have ends : Mirrors earlier { server with controller := final }
      { traffic.acted final with calls := others } := mirrors.acted final
  have settles := ends.settled isOutcome request
  exact ⟨_, reaches, { settles with calls := moved.trans settles.calls }⟩

/-- A client that waits goes on, or waits again. -/
theorem goesOn (mirrors : server.Mirrors earlier traffic) {client : WaitingClient}
    {acted : Server σ} {outcome : Except Refusal (Progress PendingCreation Creation)}
    (waits : client ∈ server.waiting) (supplied : server.Supplied)
    (acts : (server.unlist client).act (Action.resumeCreation client.creation server.nextId) =
      .ok (acted, outcome, serviced)) :
    Follows earlier traffic (acted.settled client.request outcome) := by
  obtain ⟨there, remain⟩ := mirrors.unlisted waits
  refine remain.creation (fun final ended => ?_) acts client.request
  exact Traffic.resumeCreation_comesTo there (mirrors.fresh supplied)
    (mirrors.attended client waits) (mirrors.controller ▸ ended)

/-- A creation is begun, and comes to an outcome or waits. -/
theorem begins (mirrors : server.Mirrors earlier traffic) {direction : Direction}
    {source : Source} {priority : Priority} {attendant : Option AttendantId} {acted : Server σ}
    {outcome : Except Refusal (Progress PendingCreation Creation)}
    (spare : server.controller.ledger.pool.Spare) (supplied : server.Supplied)
    (acts : server.act (Action.create direction source priority attendant server.nextId) =
      .ok (acted, outcome, serviced)) (request : Nat) :
    Follows earlier traffic (acted.settled request outcome) := by
  refine mirrors.creation (fun final ended => ?_) acts request
  exact Traffic.create_comesTo (mirrors.fresh supplied) (mirrors.controller.symm ▸ spare)
    (mirrors.controller ▸ ended)

/-- Clients go on whose requisitions were serviced. -/
theorem resume (mirrors : server.Mirrors earlier traffic)
    (resumes : server.resume serviced count = .ok (next, responses)) (supplied : next.Supplied) :
    Follows earlier traffic next := by
  induction count generalizing server traffic serviced responses with
  | zero =>
      cases resumes
      exact mirrors.idle
  | succ count induction =>
      have suppliedBefore : server.Supplied := (issued_le_resume resumes).trans_lt supplied
      rcases resume_cases resumes with
        ⟨rfl, -⟩ | ⟨client, waits, acted, outcome, others, further, later, acts, resumed, -⟩
      · exact mirrors.idle
      · obtain ⟨between, reaches, settles⟩ := mirrors.goesOn waits suppliedBefore acts
        obtain ⟨after, more, follows⟩ := induction settles resumed
        exact ⟨after, reaches.trans more, follows⟩

/-- A client that is willing to wait is given an attendant. -/
theorem attend (mirrors : server.Mirrors earlier traffic) (wait : Bool) :
    Follows earlier traffic (server.attend wait).2 := by
  cases wait with
  | false => exact mirrors.idle
  | true =>
      refine ⟨_, Traffic.Reaches.aside .refl (.attend server.controller.attendants.make.2 []), ?_⟩
      rw [Controller.attended, List.map_nil, Controller.record_nil, mirrors.controller]
      exact mirrors.acted _

/-- An object is created, or its creation waits. -/
theorem create (mirrors : server.Mirrors earlier traffic) {direction : Direction}
    {params : CreateParams} {source : Source}
    (creates : server.create number direction params source = .ok (next, responses, serviced))
    (spare : server.controller.ledger.pool.Spare) (supplied : next.Supplied) :
    Follows earlier traffic next := by
  obtain ⟨attendant, attended, acted, outcome, attends, acts, rfl, -⟩ := create_cases creates
  have same : (server.attend params.wait).2.controller.ledger = server.controller.ledger := by
    cases params.wait <;> rfl
  obtain ⟨between, reaches, follows⟩ := mirrors.attend params.wait
  rw [attends] at same follows
  have issued := issued_le_settled acts number
  obtain ⟨after, more, settles⟩ :=
    follows.begins (same.symm ▸ spare) (issued.trans_lt supplied) acts number
  exact ⟨after, reaches.trans more, settles⟩

/-- An object is released, if there is one. -/
theorem release (mirrors : server.Mirrors earlier traffic) {segment : List UInt8}
    (releases : server.release number segment = .ok (next, responses, serviced)) :
    Follows earlier traffic next := by
  rcases release_cases releases with ⟨rfl, -⟩ | ⟨id, outcome, -, acts, -⟩
  · exact mirrors.idle
  · obtain ⟨final, ended, rfl⟩ := act_cases acts
    rw [← mirrors.controller] at ended
    exact ⟨_, Traffic.destroy_reaches ended, mirrors.acted final⟩

/-- The creation of a client that waits is given up. -/
theorem givesUp (mirrors : server.Mirrors earlier traffic) {client : WaitingClient}
    {outcome : Except Refusal Unit} {final : Controller σ} (waits : client ∈ server.waiting)
    (ended : Action.attempt (Action.abandonCreation client.creation)
      (server.controller.record [.note (.creationAbandoned client.creation.object.direction)]) =
        .ok outcome final) :
    Follows earlier traffic { server.unlist client with controller := final } := by
  let noted := traffic.acted (traffic.controller.attended traffic.controller.attendants
    [.creationAbandoned client.creation.object.direction])
  obtain ⟨there, remain⟩ := mirrors.unlisted waits
  have reaches : traffic.Reaches noted := Traffic.Reaches.aside .refl (.attend _ _)
  have ends : Action.attempt (Action.abandonCreation client.creation) noted.controller =
      .ok outcome final := by
    rw [← ended, ← mirrors.controller]
    rfl
  exact ⟨_, reaches.trans (Traffic.abandonCreation_reaches there ends), remain.acted final⟩

/-- Creations of clients that wait are given up. -/
theorem abandon (mirrors : server.Mirrors earlier traffic) {clients : List WaitingClient}
    (waits : clients.Subperm server.waiting)
    (abandons : server.abandon clients = .ok (next, responses)) :
    Follows earlier traffic next := by
  induction clients generalizing server traffic responses with
  | nil =>
      cases abandons
      exact mirrors.idle
  | cons client others induction =>
      obtain ⟨outcome, final, later, ended, abandoned, -⟩ := abandon_cases abandons
      have stillWaiting := waits.erase client
      rw [List.erase_cons_head] at stillWaiting
      obtain ⟨between, reaches, follows⟩ :=
        mirrors.givesUp (waits.subset List.mem_cons_self) ended
      obtain ⟨after, more, ends⟩ := induction follows stillWaiting abandoned
      exact ⟨after, reaches.trans more, ends⟩

/-- Whatever is handled is followed by steps of the traffic that do the same. -/
theorem handle (mirrors : server.Mirrors earlier traffic) {octets : List UInt8}
    (handles : server.handle number octets = .ok (next, responses, serviced))
    (spare : server.controller.ledger.pool.Spare) (supplied : next.Supplied) :
    Follows earlier traffic next := by
  rcases handle_cases handles with
    ⟨response, rfl, -⟩ | ⟨response, rfl, -⟩ | ⟨direction, params, source, -, creates⟩ |
    ⟨segment, -, releases⟩
  · exact mirrors.idle
  · exact mirrors.idle
  · exact mirrors.create creates spare supplied
  · exact mirrors.release releases

end Mirrors

/-! ## Runs of a server -/

/-- One thing happens at a server: it handles something, while there is an index left for a
requisition, or clients that wait go on, or creations of clients that wait are given up.  Not all
identifiers were issued. -/
inductive Moves (server next : Server σ) : Prop where
  | handled {number : Nat} {octets : List UInt8} {responses : List Numbered}
      {serviced : List SlotId} :
      server.controller.ledger.pool.Spare → next.Supplied →
      server.handle number octets = .ok (next, responses, serviced) → Moves server next
  | wentOn {serviced : List SlotId} {count : Nat} {responses : List Numbered} :
      next.Supplied → server.resume serviced count = .ok (next, responses) → Moves server next
  | gaveUp {clients : List WaitingClient} {responses : List Numbered} :
      clients.Subperm server.waiting → server.abandon clients = .ok (next, responses) →
      Moves server next

/-- What a server comes to by one thing after the other. -/
abbrev Reaches : Server σ → Server σ → Prop := Relation.ReflTransGen Moves

/-- What a server comes to if all clients go on that can after each request is among that. -/
theorem Reaches.receive {octets : List UInt8}
    (receives : server.receive number octets = .ok (next, responses))
    (spare : server.controller.ledger.pool.Spare) (supplied : next.Supplied) :
    server.Reaches next := by
  obtain ⟨handled, first, serviced, later, handles, resumed, -⟩ := receive_cases receives
  have suppliedThere : handled.Supplied := (issued_le_resume resumed).trans_lt supplied
  exact .tail (.single (.handled spare suppliedThere handles)) (.wentOn supplied resumed)

/-- Whatever happens at a server can happen in the traffic. -/
theorem Mirrors.moves (mirrors : server.Mirrors earlier traffic) (moves : server.Moves next) :
    Follows earlier traffic next := by
  cases moves with
  | handled spare supplied handles => exact mirrors.handle handles spare supplied
  | wentOn supplied resumes => exact mirrors.resume resumes supplied
  | gaveUp waits abandons => exact mirrors.abandon waits abandons

/-- Whatever a server comes to, traffic can come to. -/
theorem Mirrors.reaches (mirrors : server.Mirrors earlier traffic)
    (reached : server.Reaches next) : Follows earlier traffic next := by
  induction reached with
  | refl => exact mirrors.idle
  | tail _ last induction =>
      obtain ⟨between, reaches, follows⟩ := induction
      obtain ⟨after, more, ends⟩ := follows.moves last
      exact ⟨after, reaches.trans more, ends⟩

end Keeping

end Server

end Admission
