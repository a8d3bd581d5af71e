import Admission.Proofs.Traffic.Whole
import Admission.Session

/-!
# Sessions in the traffic

`Session.Mirrors` relates a session to traffic in which the same has happened.  The users of the
session hold its tickets and its parked creations.  Its parked waits and takes are nobody's in
the traffic, where an attendant may change at any time.

The lemmas of this module say how the relation is kept when a session keeps or forgets a ticket
or a call.
-/

namespace Admission

namespace Session

/-- The creation that a call of a session is in the traffic. -/
def Call.waiting? : Call → Option Admission.Call
  | create creation => some (.waiting creation)
  | take _ | wait _ => none

/-- What a command does is done by the controller, not past it. -/
def Command.ThroughController : Command → Prop
  | storeObject _ | removeObject _ => False
  | _ => True

variable {σ : Type}

/-- In the traffic the same has happened as in the session. -/
structure Mirrors (session : Session σ) (traffic : Traffic σ) : Prop where
  controller : traffic.controller = session.controller
  named : ∀ id ∈ traffic.named, id ∈ session.supply.taken
  tickets : traffic.tickets.Perm (session.tickets.map Prod.snd)
  calls : traffic.calls.Perm (session.calls.filterMap fun entry => entry.2.waiting?)
  removals : traffic.removals = []
  /-- Only a requester that waits is parked. -/
  attended : ∀ entry ∈ session.calls, ∀ creation, entry.2 = .create creation →
    creation.ticket.attendant ≠ none
  ticketHandles : (session.tickets.map Prod.fst).Nodup
  callHandles : (session.calls.map Prod.fst).Nodup
  issued : ∀ handle ∈ session.tickets.map Prod.fst ++ session.calls.map Prod.fst,
    handle.number < session.handles

theorem mirrors_start (store : σ) (slots : Nat) (chance : UInt64) :
    (Session.start store slots chance).Mirrors (.start store slots) where
  controller := rfl
  named := by rintro id ⟨⟩
  tickets := .nil
  calls := .nil
  removals := rfl
  attended := by rintro entry ⟨⟩
  ticketHandles := .nil
  callHandles := .nil
  issued := by rintro handle ⟨⟩

/-! ## Handles -/

/-- What a handle names is one of the entries, and the others have other handles. -/
theorem perm_of_find? {α : Type} {entries : List (Handle × α)} {handle : Handle} {value : α}
    (distinct : (entries.map Prod.fst).Nodup)
    (found : (entries.find? fun (held, _) => held = handle).map Prod.snd = some value) :
    entries.Perm ((handle, value) :: entries.filter fun (held, _) => held ≠ handle) := by
  induction entries with
  | nil => cases found
  | cons head rest induction =>
      rw [List.map_cons, List.nodup_cons] at distinct
      by_cases same : head.1 = handle
      · subst same
        have others : rest.filter (fun (held, _) => held ≠ head.1) = rest := by
          refine List.filter_eq_self.mpr fun entry member => decide_eq_true fun equal => ?_
          exact distinct.1 (List.mem_map.mpr ⟨entry, member, equal⟩)
        simp only [List.find?_cons, decide_true, Option.map_some, Option.some.injEq] at found
        subst found
        rw [List.filter_cons_of_neg (by simp), others]
      · rw [List.find?_cons_of_neg (by simpa using same)] at found
        rw [List.filter_cons_of_pos (by simpa using same)]
        exact ((induction distinct.2 found).cons head).trans (.swap _ _ _)

namespace Mirrors

variable {session next : Session σ} {traffic : Traffic σ}

/-- The controller has acted. -/
theorem acted (mirrors : session.Mirrors traffic) (controller : Controller σ) :
    Mirrors { session with controller := controller } (traffic.acted controller) :=
  { mirrors with controller := rfl }

theorem kept (mirrors : session.Mirrors traffic) (ticket : Ticket) :
    (session.keepTicket ticket).1.Mirrors
      { traffic with tickets := ticket :: traffic.tickets } where
  controller := mirrors.controller
  named := mirrors.named
  tickets := mirrors.tickets.cons ticket
  calls := mirrors.calls
  removals := mirrors.removals
  attended := mirrors.attended
  ticketHandles := by
    refine List.nodup_cons.mpr ⟨fun used => ?_, mirrors.ticketHandles⟩
    exact Nat.lt_irrefl _ (mirrors.issued _ (List.mem_append_left _ used))
  callHandles := mirrors.callHandles
  issued := by
    intro handle member
    rcases List.mem_cons.mp member with rfl | old
    · exact Nat.lt_succ_self _
    · exact Nat.lt_succ_of_lt (mirrors.issued handle old)

/-- Of the calls of a session the traffic has the creations, in any order. -/
theorem withCalls (mirrors : session.Mirrors traffic) {calls : List Admission.Call}
    (same : calls.Perm traffic.calls) : session.Mirrors { traffic with calls := calls } :=
  { mirrors with calls := same.trans mirrors.calls }

/-- A call is put back under a handle that no other call has. -/
theorem parkedAgain (mirrors : session.Mirrors traffic) {handle : Handle} {call : Call}
    (isNew : handle ∉ session.calls.map Prod.fst) (issued : handle.number < session.handles)
    (attended : ∀ creation, call = .create creation → creation.ticket.attendant ≠ none) :
    (putBack handle session call).1.Mirrors
      { traffic with calls := call.waiting?.toList ++ traffic.calls } where
  controller := mirrors.controller
  named := mirrors.named
  tickets := mirrors.tickets
  calls := by
    have moved := mirrors.calls.append_left call.waiting?.toList
    cases call <;> exact moved
  removals := mirrors.removals
  attended := by
    intro entry member
    rcases List.mem_cons.mp member with rfl | old
    · exact attended
    · exact mirrors.attended entry old
  ticketHandles := mirrors.ticketHandles
  callHandles := List.nodup_cons.mpr ⟨isNew, mirrors.callHandles⟩
  issued := by
    intro other member
    rcases List.mem_append.mp member with isTicket | isCall
    · exact mirrors.issued other (List.mem_append_left _ isTicket)
    · rcases List.mem_cons.mp isCall with rfl | old
      · exact issued
      · exact mirrors.issued other (List.mem_append_right _ old)

/-- A call is kept under a new handle. -/
theorem parked (mirrors : session.Mirrors traffic) {call : Call}
    (attended : ∀ creation, call = .create creation → creation.ticket.attendant ≠ none) :
    (session.keepCall call).1.Mirrors
      { traffic with calls := call.waiting?.toList ++ traffic.calls } := by
  have more : Mirrors { session with handles := session.handles + 1 } traffic :=
    { mirrors with issued := fun handle member =>
        Nat.lt_succ_of_lt (mirrors.issued handle member) }
  refine more.parkedAgain (fun used => ?_) (Nat.lt_succ_self _) attended
  exact Nat.lt_irrefl _ (mirrors.issued _ (List.mem_append_right _ used))

/-- A call is gone on with or given up, for which it is forgotten. -/
theorem forgotten (mirrors : session.Mirrors traffic) {handle : Handle} {call : Call}
    {others : List Admission.Call} (found : session.call? handle = some call)
    (there : traffic.calls.Perm (call.waiting?.toList ++ others)) :
    (session.forget handle).Mirrors { traffic with calls := others } := by
  have moved := perm_of_find? mirrors.callHandles found
  have fewer : (session.forget handle).calls.Sublist session.calls := List.filter_sublist
  refine { mirrors with
    calls := ?_
    attended := fun entry member => mirrors.attended entry (fewer.subset member)
    callHandles := mirrors.callHandles.sublist (fewer.map Prod.fst)
    issued := ?_ }
  · have all := (there.symm.trans mirrors.calls).trans
      (moved.filterMap fun entry => entry.2.waiting?)
    have heads : ((handle, call) :: (session.forget handle).calls).filterMap
        (fun entry => entry.2.waiting?) = call.waiting?.toList ++
          (session.forget handle).calls.filterMap fun entry => entry.2.waiting? := by
      cases call <;> rfl
    exact (List.perm_append_left_iff _).mp (all.trans (.of_eq heads))
  · intro other member
    refine mirrors.issued other ?_
    rcases List.mem_append.mp member with isTicket | isCall
    · exact List.mem_append_left _ isTicket
    · exact List.mem_append_right _ ((fewer.map Prod.fst).subset isCall)

/-- A ticket is given up, and the waits on it with it. -/
theorem withoutTicket (mirrors : session.Mirrors traffic) {handle : Handle} {ticket : Ticket}
    (found : session.ticket? handle = some ticket) :
    Mirrors { session with
        tickets := session.tickets.filter fun (held, _) => held ≠ handle
        calls := session.calls.filter fun (_, call) => call ≠ Call.wait ticket }
      { traffic with tickets := traffic.tickets.erase ticket } := by
  have moved := (perm_of_find? mirrors.ticketHandles found).map Prod.snd
  have fewerTickets : (session.tickets.filter fun (held, _) => held ≠ handle).Sublist
      session.tickets := List.filter_sublist
  have fewerCalls : (session.calls.filter fun (_, call) => call ≠ Call.wait ticket).Sublist
      session.calls := List.filter_sublist
  refine { mirrors with
    tickets := ?_
    calls := ?_
    attended := fun entry member => mirrors.attended entry (fewerCalls.subset member)
    ticketHandles := mirrors.ticketHandles.sublist (fewerTickets.map Prod.fst)
    callHandles := mirrors.callHandles.sublist (fewerCalls.map Prod.fst)
    issued := ?_ }
  · have erased := (mirrors.tickets.trans moved).erase ticket
    rwa [List.map_cons, List.erase_cons_head] at erased
  · rw [List.filterMap_filter]
    refine mirrors.calls.trans (.of_eq (List.filterMap_congr fun entry _ => ?_))
    by_cases isWait : entry.2 = Call.wait ticket
    · simp [isWait, Call.waiting?]
    · simp [isWait]
  · intro other member
    refine mirrors.issued other ?_
    rcases List.mem_append.mp member with isTicket | isCall
    · exact List.mem_append_left _ ((fewerTickets.map Prod.fst).subset isTicket)
    · exact List.mem_append_right _ ((fewerCalls.map Prod.fst).subset isCall)

/-- What a handle named names nothing after it was forgotten. -/
theorem isNew_forget (mirrors : session.Mirrors traffic) {handle : Handle} {call : Call}
    (found : session.call? handle = some call) :
    handle ∉ (session.forget handle).calls.map Prod.fst ∧ handle.number < session.handles := by
  constructor
  · intro used
    obtain ⟨entry, member, rfl⟩ := List.mem_map.mp used
    simpa using (List.mem_filter.mp member).2
  · refine mirrors.issued handle (List.mem_append_right _ ?_)
    have moved := (perm_of_find? mirrors.callHandles found).map Prod.fst
    exact moved.mem_iff.mpr List.mem_cons_self

/-- A creation that is parked waits in the traffic as well. -/
theorem mem_calls (mirrors : session.Mirrors traffic) {handle : Handle}
    {creation : PendingCreation} (found : session.call? handle = some (.create creation)) :
    .waiting creation ∈ traffic.calls ∧ creation.ticket.attendant ≠ none := by
  have moved := perm_of_find? mirrors.callHandles found
  constructor
  · refine mirrors.calls.mem_iff.mpr ?_
    exact (moved.filterMap fun entry => entry.2.waiting?).mem_iff.mpr List.mem_cons_self
  · exact mirrors.attended _ (moved.mem_iff.mpr List.mem_cons_self) creation rfl

/-- A creation comes to its outcome. -/
theorem outcome {keep : Session σ → Call → Session σ × Reply}
    {progress : Progress PendingCreation Creation} {others left : List Admission.Call}
    {given : List ObjectId}
    (mirrors : session.Mirrors { traffic with calls := others })
    (comes : Traffic.Outcome session.nextId (.ok progress) left given)
    (keeps : ∀ creation, creation.ticket.attendant ≠ none →
      (keep session (.create creation)).1.Mirrors
        { traffic with calls := .waiting creation :: others }) :
    (Session.followCreation keep session progress).1.Mirrors
      { traffic with named := given ++ traffic.named, calls := left ++ others } := by
  cases comes with
  | parked attended => exact keeps _ attended
  | notCreated => exact mirrors
  | interrupted => exact mirrors
  | created =>
      refine { mirrors with named := fun id member => ?_ }
      have grown : session.supply.advance.taken = session.supply.taken ++ [session.nextId] := by
        simp only [IdSupply.taken, IdSupply.advance, List.range_succ, List.map_append]
        rfl
      have known : id ∈ session.supply.advance.taken := by
        rw [grown, List.mem_append]
        rcases List.mem_cons.mp member with rfl | old
        · exact Or.inr List.mem_cons_self
        · exact Or.inl (mirrors.named id old)
      exact known

end Mirrors

end Session

/-- What happens in a session next can happen in the traffic next. -/
abbrev Traffic.Follows {σ : Type} [Store σ] (traffic : Traffic σ) (session : Session σ) : Prop :=
  ∃ after, traffic.Reaches after ∧ session.Mirrors after

end Admission
