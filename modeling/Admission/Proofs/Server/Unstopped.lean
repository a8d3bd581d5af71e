import Admission.Proofs.Server.Objects
import Admission.Proofs.Server.Reckonable

/-!
# Servers that are not stopped

An overflow would be the end of a server.  The traffic in which the same happens as at a steady
server is reckonable, so that none of the actions of the controller overflows.  Hence a steady
server handles whatever reaches it (`Server.Steady.handles`), answers what it receives
(`Server.Steady.receives`), one thing after the other (`Server.Steady.receivesAll`), and can be shut
down (`Server.Steady.abandons`).

`Server.never_overflows` is the main statement.  It is about all traffic beside, in which others act
during each request.
-/

namespace Admission

namespace Server

/-- Receives one thing after the other; the first of them has a number, and the others are numbered
from there on. -/
def receiveAll {σ : Type} [Store σ] (server : Server σ) (number : Nat) :
    List (List UInt8) → Except Overflow (Server σ × List Numbered)
  | [] => .ok (server, [])
  | octets :: rest => do
    let (server, responses) ← server.receive number octets
    let (server, later) ← server.receiveAll (number + 1) rest
    return (server, responses ++ later)

variable {base : RecordStore} {path : String} {earlier : List ObjectId}
  {limits : RecordStore.Limits} {slots : Nat} {server : Server RecordStore}
  {traffic : Traffic RecordStore}

/-- Whoever asks for a queue is answered. -/
theorem observes (server : Server RecordStore) (segment : List UInt8) :
    ∃ response, server.observe segment = .ok response := by
  unfold observe
  split
  · exact ⟨_, rfl⟩
  · next direction named =>
      have finishes := server.controller.snapshot_finishes (RecordStore.inWords _ direction)
      split
      · exact ⟨_, rfl⟩
      · exact ⟨_, rfl⟩
      · next kind overflows => exact absurd overflows (finishes kind)

namespace Steady

section Few

variable (steady : server.Steady earlier limits slots traffic) (few : slots ≤ 1073741824)
include steady few

/-! ## What the controller does -/

omit few in
theorem reckonable : Reckonable limits.value slots traffic :=
  ⟨steady.orderly, steady.tallied, steady.moderate⟩

/-- There are fewer slots than indices. -/
theorem leaves_spare : server.controller.ledger.pool.Spare :=
  steady.spare (Nat.lt_of_le_of_lt (Nat.succ_le_succ few) (by decide))

theorem bearable (direction : Direction) : server.controller.ledger.Bearable direction := by
  rw [← steady.mirrors.controller]
  exact steady.reckonable.bearable steady.opened.value_lt few direction

/-- A creation that is begun does not overflow. -/
theorem creation_finishes (direction : Direction) (source : Source) (priority : Priority)
    (attendant : Option AttendantId) :
    (Action.create direction source priority attendant server.nextId).Finishes
      server.controller := by
  have spare := steady.leaves_spare few
  have small := steady.opened.value_lt
  have unstoppable := steady.reckonable.unstoppable small few
  have bearable := steady.bearable few direction
  rw [← steady.mirrors.controller] at spare bearable ⊢
  refine Action.create_finishes RecordStore.inWords bearable (unstoppable.size source)
    (unstoppable.create _) ?_
  intro location needed ticket between isLocation nonempty sized submits
  obtain ⟨after, reached, rfl⟩ :=
    Traffic.submitted_reaches isLocation nonempty spare sized submits
  have later := steady.reckonable.comes reached
  exact ⟨later.bearable small few ticket.direction, (later.unstoppable small few).create _⟩

/-! ## What the server does -/

/-- A creation is answered, or waits. -/
theorem creates (number : Nat) (direction : Direction) (params : CreateParams)
    (source : Source) :
    ∃ handling, server.create number direction params source = .ok handling := by
  obtain ⟨between, steadyThere⟩ := steady.follows (steady.mirrors.attend params.wait)
  obtain ⟨outcome, final, ended⟩ := (steadyThere.creation_finishes few direction source
    params.priority (server.attend params.wait).1).attempted
  exact ⟨_, create_of_acts rfl (act_of_attempt ended)⟩

/-- A release is answered. -/
theorem releases (number : Nat) (segment : List UInt8) :
    ∃ handling, server.release number segment = .ok handling := by
  cases named : ObjectId.ofSegment? segment with
  | none => exact ⟨server.respond number .badPath, by rw [release, named]⟩
  | some id =>
      have finishes := Action.destroy_finishes RecordStore.inWords (steady.bearable few)
        (RecordStore.destroy_finishes server.controller.store id)
      obtain ⟨outcome, final, ended⟩ := finishes.attempted
      exact ⟨_, release_of_named named (act_of_attempt ended)⟩

/-- Whatever is posted is answered, or waits. -/
theorem posts (number : Nat) (request : Request) (segment : List UInt8) :
    ∃ handling, server.post number request segment = .ok handling := by
  unfold post
  split
  · exact ⟨_, rfl⟩
  · next direction named =>
      split
      · split
        · exact ⟨_, rfl⟩
        · split
          · split
            · exact ⟨_, rfl⟩
            · next params isForm =>
                split
                · exact ⟨_, rfl⟩
                · next source isSource =>
                    exact steady.creates few number direction params source
          · exact ⟨_, rfl⟩
      · exact ⟨_, rfl⟩

/-- Whatever is handled is answered, or waits. -/
theorem handles (number : Nat) (octets : List UInt8) :
    ∃ handling, server.handle number octets = .ok handling := by
  unfold handle
  split
  · next request isRequest =>
      unfold serve
      split
      · exact ⟨_, rfl⟩
      · next route isRoute =>
          split
          · next allowed =>
              split
              · next segment => exact steady.posts few number request segment
              · next segment => exact steady.releases few number segment
              · next segment =>
                  obtain ⟨response, observed⟩ := observes server segment
                  exact ⟨_, Checked.bind_eq_ok_iff.mpr ⟨response, observed, rfl⟩⟩
          · exact ⟨_, rfl⟩
  · exact ⟨_, rfl⟩

/-- Whatever is received is answered, or waits, and the server stays steady.  It asks for one
identifier at most. -/
theorem receives (ample : server.demand + 1 < 0x4000000000000000) (number : Nat)
    (octets : List UInt8) :
    ∃ next responses after, server.receive number octets = .ok (next, responses) ∧
      next.Steady earlier limits slots after ∧ next.demand ≤ server.demand + 1 := by
  obtain ⟨⟨handled, first, serviced⟩, isHandled⟩ := steady.handles few number octets
  have demands := demand_handle_le isHandled
  have supplied : handled.Supplied := supplied_of_demand (by omega)
  obtain ⟨between, steadyThere⟩ := steady.follows
    (steady.mirrors.handle isHandled (steady.leaves_spare few) supplied)
  obtain ⟨next, later, resumed⟩ :=
    steadyThere.resumes (by omega) serviced handled.waiting.length
  have demandsNoMore := demand_resume_le resumed
  obtain ⟨after, steadyAfter⟩ := steadyThere.follows
    (steadyThere.mirrors.resume resumed (supplied_of_demand (by omega)))
  exact ⟨next, first ++ later, after, receive_of_handles isHandled resumed, steadyAfter,
    by omega⟩

/-- Everything that is received is answered, or waits, if as many identifiers are left as there are
requests. -/
theorem receivesAll (requests : List (List UInt8))
    (ample : server.demand + requests.length < 0x4000000000000000) (number : Nat) :
    ∃ next responses after, server.receiveAll number requests = .ok (next, responses) ∧
      next.Steady earlier limits slots after := by
  induction requests generalizing server traffic number with
  | nil => exact ⟨server, [], traffic, rfl, steady⟩
  | cons octets rest induction =>
      rw [List.length_cons] at ample
      obtain ⟨next, responses, between, received, steadyThere, demands⟩ :=
        steady.receives few (by omega) number octets
      obtain ⟨last, later, after, receivesRest, steadyAfter⟩ :=
        induction steadyThere (by omega) (number + 1)
      refine ⟨last, responses ++ later, after, ?_, steadyAfter⟩
      refine Checked.bind_eq_ok_iff.mpr ⟨_, received, ?_⟩
      exact Checked.bind_eq_ok_iff.mpr ⟨_, receivesRest, rfl⟩

/-- Creations of clients that wait are given up. -/
theorem abandons {clients : List WaitingClient} (waits : clients.Subperm server.waiting) :
    ∃ next responses, server.abandon clients = .ok (next, responses) := by
  induction clients generalizing server traffic with
  | nil => exact ⟨server, [], rfl⟩
  | cons client others induction =>
      let noted := server.controller.record
        [.note (.creationAbandoned client.creation.object.direction)]
      have finishes : (Action.abandonCreation client.creation).Finishes noted :=
        Action.dropTicket_finishes RecordStore.inWords (steady.bearable few _)
      obtain ⟨outcome, final, ended⟩ := finishes.attempted
      obtain ⟨after, steadyAfter⟩ := steady.follows
        (steady.mirrors.givesUp (waits.subset List.mem_cons_self) ended)
      have stillWaiting := waits.erase client
      rw [List.erase_cons_head] at stillWaiting
      obtain ⟨next, responses, abandoned⟩ := induction steadyAfter stillWaiting
      exact ⟨next, _, abandon_of_ended ended abandoned⟩

end Few

end Steady

/-! ## All servers -/

/-- Nothing that is received makes the arithmetic overflow.  Consider any capacities with which a
store can be opened whose objects have no more bytes each than a word can count, and no more than 2
to the 30 slots.  Whatever traffic then comes to, however long it goes on and with any number of
clients at the same time, of all that can be done next nothing overflows, and the store can be
opened again.  A server that takes requests one after the other answers each of them or lets it
wait, whatever they ask for, as long as there are identifiers left, and can be shut down
afterwards.  No slice subtracts a word from a lesser one. -/
theorem never_overflows (readable : base.Readable) (countable : Countable base.contents)
    (opened : (base.openWith path limits).result = .ok ()) (few : slots ≤ 1073741824) :
    (∀ traffic, (Traffic.stocked (base.openWith path limits).store slots).Reaches traffic →
      traffic.Unstoppable slots ∧ traffic.controller.store.Readable ∧
        Countable traffic.controller.store.contents) ∧
    (∀ (chance : UInt64) (requests : List (List UInt8)),
      (∀ count, (IdSupply.start chance).nth count ∉ base.objects.map ObjectRow.id) →
      requests.length < 0x4000000000000000 →
      ∃ server responses, (start (base.openWith path limits).store slots chance).receiveAll 0
          requests = .ok (server, responses) ∧
        server.controller.store.Readable ∧ Countable server.controller.store.contents ∧
        ∃ last told, server.shutDown = .ok (last, told)) ∧
    ∀ extents offset length,
      Extent.checkedSlice extents offset length = Extent.slice extents offset length := by
  refine ⟨fun traffic reached => ?_, fun chance requests apart ample => ?_, Extent.checkedSlice_eq⟩
  · have reckonable := (Reckonable.openWith readable countable opened slots).comes reached
    exact ⟨reckonable.unstoppable (RecordStore.opened_openWith opened).value_lt few,
      reckonable.orderly.sound, reckonable.moderate.countable⟩
  · have begins := steady_start readable countable opened apart slots
    have nobody : (start (base.openWith path limits).store slots chance).demand = 0 := rfl
    obtain ⟨server, responses, after, received, steady⟩ :=
      begins.receivesAll few requests (by omega) 0
    exact ⟨server, responses, received, steady.readable, steady.countable,
      steady.abandons few (List.Subperm.refl _)⟩

/-- The largest capacities with which a store can be opened. -/
def largest : RecordStore.Limits where
  inboundFile := 2147483647999999999
  inboundBulk := 2147483647999999999
  inboundHeap := 2147483647999999999
  outboundFile := 2147483647999999999
  outboundBulk := 2147483647999999999
  outboundHeap := 2147483647999999999

/-- At the largest capacities half of one is posted, then as many bytes as a word can count, then
somebody asks for the queue, and the first object is released. -/
theorem largest_never_overflow :
    (RecordStore.empty.openWith "store" largest).result = .ok () ∧
    ∃ server responses, (start (RecordStore.empty.openWith "store" largest).store 1073741824
        0).receiveAll 0 [posting 1073741823999999999, posting 18446744073709551615, asking,
          deleting firstId] = .ok (server, responses) ∧
      ∃ last told, server.shutDown = .ok (last, told) := by
  have opened : (RecordStore.empty.openWith "store" largest).result = .ok () := by decide +kernel
  obtain ⟨-, taken, -⟩ := never_overflows RecordStore.readable_empty
    (fun _ member => absurd member List.not_mem_nil) opened (Nat.le_refl 1073741824)
  obtain ⟨server, responses, received, -, -, shutsDown⟩ :=
    taken 0 [posting 1073741823999999999, posting 18446744073709551615, asking, deleting firstId]
      (fun _ => List.not_mem_nil) (by decide)
  exact ⟨opened, server, responses, received, shutsDown⟩

end Server

end Admission
