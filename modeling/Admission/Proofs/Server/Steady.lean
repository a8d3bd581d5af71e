import Admission.Proofs.Server.Runs
import Admission.Proofs.Traffic.Moderate

/-!
# Servers that go on

A server whose store was opened stays `Steady`: there is traffic in which the same has happened,
and which is orderly and moderate.  Hence no client that goes on stops the server
(`Server.Steady.resumes`), and an object is destroyed exactly if it is there
(`Server.Steady.destroys`), as long as what is stored can be summed up.

Going on costs no more identifiers than clients wait (`Server.demand_resume_le`).
-/

namespace Admission

/-! ## The demand for identifiers -/

namespace Server

section Demand

variable {σ : Type} {server acted next : Server σ} {number count : Nat}
  {serviced : List SlotId} {responses : List Numbered}

/-- How many identifiers were issued, or may yet be for clients that wait. -/
def demand (server : Server σ) : Nat := server.supply.issued + server.waiting.length

/-- There are identifiers left for all who may yet be given one. -/
theorem supplied_of_demand (ample : server.demand < 0x4000000000000000) : server.Supplied :=
  (Nat.le_add_right _ _).trans_lt ample

theorem demand_unlist {client : WaitingClient} (waits : client ∈ server.waiting) :
    (server.unlist client).demand + 1 = server.demand := by
  have fewer := List.length_erase_of_mem waits
  have some := List.length_pos_of_mem waits
  simp only [demand, unlist, fewer]
  omega

theorem demand_attend [Store σ] (server : Server σ) (wait : Bool) :
    (server.attend wait).2.demand = server.demand := by
  cases wait <;> rfl

/-- A creation is given an identifier, or waits, or neither. -/
theorem demand_settled_le {action : Action σ (Progress PendingCreation Creation)}
    {outcome : Except Refusal (Progress PendingCreation Creation)}
    (acts : server.act action = .ok (acted, outcome, serviced)) (request : Nat) :
    (acted.settled request outcome).demand ≤ server.demand + 1 := by
  obtain ⟨final, -, rfl⟩ := act_cases acts
  rcases outcome with refusal | ((id | _ | _) | creation) <;>
    simp [demand, settled, conclude, settle, IdSupply.advance] <;> omega

variable [Store σ]

theorem demand_resume_le (resumes : server.resume serviced count = .ok (next, responses)) :
    next.demand ≤ server.demand := by
  induction count generalizing server serviced responses with
  | zero =>
      cases resumes
      exact Nat.le_refl _
  | succ count induction =>
      rcases resume_cases resumes with
        ⟨rfl, -⟩ | ⟨client, waits, acted, outcome, others, further, later, acts, resumed, -⟩
      · exact Nat.le_refl _
      · have settled := demand_settled_le acts client.request
        have unlisted := demand_unlist waits
        have rest := induction resumed
        omega

theorem demand_create_le {direction : Direction} {params : CreateParams} {source : Source}
    (creates : server.create number direction params source = .ok (next, responses, serviced)) :
    next.demand ≤ server.demand + 1 := by
  obtain ⟨attendant, attended, acted, outcome, attends, acts, rfl, -⟩ := create_cases creates
  have kept := server.demand_attend params.wait
  have same : attended.demand = server.demand := by rwa [attends] at kept
  have settled := demand_settled_le acts number
  omega

/-- Whatever is handled asks for one identifier at most. -/
theorem demand_handle_le {octets : List UInt8}
    (handles : server.handle number octets = .ok (next, responses, serviced)) :
    next.demand ≤ server.demand + 1 := by
  rcases handle_cases handles with
    ⟨response, rfl, -⟩ | ⟨response, rfl, -⟩ | ⟨direction, params, source, -, creates⟩ |
    ⟨segment, -, releases⟩
  · exact Nat.le_succ _
  · exact Nat.le_succ _
  · exact demand_create_le creates
  · rcases release_cases releases with ⟨rfl, -⟩ | ⟨id, outcome, -, acts, -⟩
    · exact Nat.le_succ _
    · obtain ⟨final, -, rfl⟩ := act_cases acts
      exact Nat.le_succ _

end Demand

end Server

/-! ## Runs -/

section Traffic

variable {σ : Type} [Store σ] {before after : Traffic σ}

/-- Whatever traffic comes to, it comes to in any weather. -/
theorem Traffic.Reaches.inAny (reached : before.Reaches after) :
    (Weather.any σ).Reaches before after := by
  induction reached with
  | refl => exact .refl
  | tail _ last induction => exact induction.trans last.inAny

theorem Moderate.comes [Accounted σ] {limits : Direction → Medium → Int}
    (moderate : Moderate limits before) (orderly : Orderly limits before)
    (reached : before.Reaches after) : Moderate limits after := by
  induction reached with
  | refl => exact moderate
  | tail earlier last induction => exact induction.step (orderly.comes earlier) last

end Traffic

/-! ## Steady servers -/

/-- The capacities with which a store is opened. -/
def RecordStore.Limits.value (limits : RecordStore.Limits) (direction : Direction)
    (medium : Medium) : Int :=
  (limits.get direction medium).toNat

namespace RecordStore.Opened

variable {store : RecordStore} {limits : RecordStore.Limits}

theorem limit_eq (opened : store.Opened limits) : Accounted.limit store = limits.value := by
  funext direction medium
  change store.limit direction medium = _
  rw [limit, (opened.capacity direction medium).1]
  exact Magnitude.value_ofUInt64 _

/-- A capacity that was stored is less than 2 to the 31 billions. -/
theorem value_lt (opened : store.Opened limits) (direction : Direction) (medium : Medium) :
    limits.value direction medium < 2147483648000000000 := by
  have packable := (opened.capacity direction medium).2
  rw [Magnitude.Packable, Magnitude.value_ofUInt64] at packable
  exact packable.2

end RecordStore.Opened

section Opening

variable {base : RecordStore} {path : String} {limits : RecordStore.Limits}

/-- A store that was opened, and a controller that nobody has used, are in order. -/
theorem Orderly.openWith (readable : base.Readable)
    (opened : (base.openWith path limits).result = .ok ()) (slots : Nat) :
    Orderly limits.value (.stocked (base.openWith path limits).store slots) := by
  have unique : ((base.openWith path limits).store.contents.map StoredObject.id).Nodup :=
    (base.ids_openWith path limits).symm ▸ readable.unique
  rw [← (RecordStore.opened_openWith opened).limit_eq]
  exact .stocked (readable.openWith path limits) unique slots

theorem Moderate.openWith (countable : Countable base.contents) (slots : Nat) :
    Moderate limits.value (.stocked (base.openWith path limits).store slots) := by
  refine .stocked ?_ slots
  change Countable (base.openWith path limits).store.contents
  rwa [RecordStore.contents_openWith]

end Opening

namespace Server

variable {earlier : List ObjectId} {limits : RecordStore.Limits} {slots : Nat}
  {server next : Server RecordStore} {traffic after : Traffic RecordStore} {id : ObjectId}
  {direction : Direction}

/-- The same has happened at a server, with the capacities with which its store was opened, as in
traffic that is orderly and moderate. -/
structure Steady (earlier : List ObjectId) (limits : RecordStore.Limits) (slots : Nat)
    (server : Server RecordStore) (traffic : Traffic RecordStore) : Prop where
  mirrors : server.Mirrors earlier traffic
  opened : server.controller.store.Opened limits
  orderly : Orderly limits.value traffic
  tallied : Tallied slots traffic
  moderate : Moderate limits.value traffic

/-- What is stored can be summed up for any direction and medium. -/
def Within (server : Server RecordStore) : Prop :=
  ∀ direction medium,
    occupied server.controller.store.contents direction medium < 9223372036854775808

/-- A server that nobody has used is steady if its store could be opened. -/
theorem steady_start {base : RecordStore} {path : String} {chance : UInt64}
    (readable : base.Readable) (countable : Countable base.contents)
    (opened : (base.openWith path limits).result = .ok ())
    (apart : ∀ count, (IdSupply.start chance).nth count ∉ base.objects.map ObjectRow.id)
    (slots : Nat) :
    (start (base.openWith path limits).store slots chance).Steady
      (base.objects.map ObjectRow.id) limits slots
      (.stocked (base.openWith path limits).store slots) := by
  let store := (base.openWith path limits).store
  have names : store.contents.map StoredObject.id = base.objects.map ObjectRow.id :=
    base.ids_openWith path limits
  exact {
    mirrors := names ▸ mirrors_start store slots chance (names ▸ apart)
    opened := RecordStore.opened_openWith opened
    orderly := .openWith readable opened slots
    tallied := (Tallied.start store slots).of_same rfl (List.Perm.refl _)
    moderate := .openWith countable slots }

namespace Steady

/-- A server stays steady if what happens there can happen in the traffic. -/
theorem follows (steady : server.Steady earlier limits slots traffic)
    (followed : Follows earlier traffic next) :
    ∃ after, next.Steady earlier limits slots after := by
  obtain ⟨after, reaches, mirrors⟩ := followed
  have opened := steady.opened
  rw [← steady.mirrors.controller] at opened
  have stillOpened := reaches.keeps_store (fun _ id object isOpened => isOpened.create id object)
    (fun _ id isOpened => isOpened.destroy id) opened
  rw [mirrors.controller] at stillOpened
  exact ⟨after, mirrors, stillOpened, steady.orderly.comes reaches,
    steady.tallied.reaches reaches.inAny, steady.moderate.comes steady.orderly reaches⟩

/-- All queues of a steady server are light. -/
theorem light (steady : server.Steady earlier limits slots traffic) (direction : Direction) :
    server.controller.ledger.Light direction := by
  rw [← steady.mirrors.controller]
  refine steady.moderate.light steady.orderly steady.tallied steady.opened.value_lt ?_ direction
  intro ticket held
  rw [Traffic.held, steady.mirrors.tickets, List.nil_append] at held
  obtain ⟨call, isCall, isTicket⟩ := List.mem_filterMap.mp held
  obtain ⟨client, waits, rfl⟩ := List.mem_map.mp (steady.mirrors.calls.mem_iff.mp isCall)
  cases isTicket
  exact steady.mirrors.attended client waits

/-- There is always an index left if there are fewer slots than indices. -/
theorem spare (steady : server.Steady earlier limits slots traffic)
    (few : slots + 1 < 4294967295) : server.controller.ledger.pool.Spare := by
  have inUse := steady.tallied.within.inUse
  rw [steady.mirrors.controller] at inUse
  exact (Nat.succ_le_succ inUse).trans_lt few

theorem readable (steady : server.Steady earlier limits slots traffic) :
    server.controller.store.Readable := by
  rw [← steady.mirrors.controller]
  exact steady.orderly.sound

theorem countable (steady : server.Steady earlier limits slots traffic) :
    Countable server.controller.store.contents := by
  rw [← steady.mirrors.controller]
  exact steady.moderate.countable

/-! ## Clients go on -/

/-- All clients go on that can.  Whoever goes on leaves the list of those that wait, so the demand
does not grow even if an identifier is issued or the client waits again. -/
theorem resumes (steady : server.Steady earlier limits slots traffic)
    (ample : server.demand < 0x4000000000000000) (serviced : List SlotId) (count : Nat) :
    ∃ next responses, server.resume serviced count = .ok (next, responses) := by
  induction count generalizing server traffic serviced with
  | zero => exact ⟨server, [], rfl⟩
  | succ count induction =>
      cases ready : server.nextReady? serviced with
      | none => exact ⟨server, [], by rw [resume, ready]⟩
      | some found =>
          obtain ⟨client, rest⟩ := found
          have waits := mem_of_nextReady? ready
          have creates := RecordStore.create_finishes steady.readable steady.countable
            server.nextId client.creation.object
          have finishes := Action.resumeCreation_finishes RecordStore.inWords
            (steady.mirrors.attended client waits) (steady.light _).bearable creates
          obtain ⟨outcome, final, ended⟩ := finishes.attempted
          have acts : (server.unlist client).act _ = _ := act_of_attempt ended
          have unlisted := demand_unlist waits
          have settled := demand_settled_le acts client.request
          obtain ⟨between, steadyThere⟩ := steady.follows
            (steady.mirrors.goesOn waits (supplied_of_demand ample) acts)
          obtain ⟨next, later, resumed⟩ := induction steadyThere (by omega) (rest ++ _)
          exact ⟨next, _, resume_of_ready ready acts resumed⟩

/-! ## Objects are destroyed -/

/-- A store without one of its objects offers space, if what is stored can be summed up. -/
theorem offers (steady : server.Steady earlier limits slots traffic) (within : server.Within)
    (removed : (server.controller.store.destroy id).result = .ok direction) :
    ∃ share, Budget.Offers (server.controller.store.destroy id).store direction share := by
  obtain ⟨-, -, -, -, contents, -, readable⟩ := Accounted.destroy_ok steady.readable removed
  have capacities := fun medium => ((steady.opened.destroy id).capacity direction medium).1
  have occupancies : ∀ medium, ∃ occupancy,
      (server.controller.store.destroy id).store.occupancy direction medium = .ok occupancy := by
    intro medium
    refine RecordStore.occupancy_answered readable ?_
    have fewer := occupied_filter_le server.controller.store.contents
      (fun object => object.id ≠ id) direction medium
    have isLess : occupied (server.controller.store.destroy id).store.contents direction medium ≤
        occupied server.controller.store.contents direction medium := by
      refine le_of_eq_of_le ?_ fewer
      exact congrArg (fun objects => occupied objects direction medium) contents
    exact isLess.trans_lt (within direction medium)
  choose occupancy isOccupancy using occupancies
  exact ⟨_, _, occupancy, capacities, isOccupancy, rfl⟩

/-- An object that is there is removed, and the scan after that is made; or there is none. -/
theorem destroys (steady : server.Steady earlier limits slots traffic) (within : server.Within)
    (id : ObjectId) :
    (∃ direction final, (server.controller.store.destroy id).result = .ok direction ∧
      Action.attempt (Action.destroy id) server.controller = .ok (.ok direction) final ∧
      final.store = (server.controller.store.destroy id).store) ∨
    (∀ object ∈ server.controller.store.contents, object.id ≠ id) ∧
      Action.attempt (Action.destroy id) server.controller =
        .ok (.error (.store (.notFound id))) server.controller := by
  cases found : server.controller.store.find? id with
  | none =>
      right
      have refuses : Store.destroy server.controller.store id =
          .none server.controller.store (.refused (.notFound id)) := by
        change server.controller.store.destroy id = _
        rw [RecordStore.destroy, found]
      have refused := Action.destroy_of_refused refuses
      refine ⟨?_, by rw [Action.attempt, refused]⟩
      intro object member named
      obtain ⟨row, isRow, rfl⟩ := List.mem_map.mp member
      have different := List.find?_eq_none.mp found row isRow
      exact different (decide_eq_true named)
  | some row =>
      left
      obtain ⟨direction, named⟩ := steady.readable.directions row (List.mem_of_find?_eq_some found)
      have removed : (server.controller.store.destroy id).result = .ok direction := by
        rw [RecordStore.destroy, found]
        exact ObjectRow.parseDirection_eq named
      obtain ⟨share, offers⟩ := steady.offers within removed
      obtain ⟨final, done, leaves⟩ := Action.destroy_of_removed RecordStore.inWords
        (steady.light direction).bearable removed offers
      exact ⟨direction, final, removed, by rw [Action.attempt, done], leaves⟩

end Steady

end Server

end Admission
