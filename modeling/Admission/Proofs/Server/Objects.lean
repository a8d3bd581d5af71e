import Admission.Proofs.Server.Answers
import Admission.Proofs.Server.Queue

/-!
# The objects that responses tell of

A server is served by a history: it receives one request after the other, clients that wait go on,
and others are given up.  A request leaves those waiting whose requisitions it gets serviced, so
that each of them may go on next, or be overtaken by other requests, or be given up without having
gone on.  Whatever the history, its store has exactly the objects of which the responses told that
they were created and not since that they were released, and a request to release one of them is
answered so, if there is such an object, and that there is none otherwise.  `Server.objects_as_told`
is the main statement.
-/

namespace Admission

namespace Server

/-! ## Histories -/

/-- There are identifiers left for all who may yet be given one. -/
def Ample (server : Server RecordStore) : Prop := server.demand < 0x4000000000000000

/-- A server is ready for whatever comes: what is stored can be summed up, and there is an
identifier left for one more object. -/
structure Ready (server : Server RecordStore) : Prop where
  within : server.Within
  ample : server.demand + 1 < 0x4000000000000000

/-- What happens at a server after some requests, with the responses to it: a request is received,
and clients whose requisitions are serviced meanwhile are left waiting; clients that wait go on; or
creations of clients that wait are given up, as `shutDown` does with all of them. -/
inductive Happens (requests : List (List UInt8)) (server : Server RecordStore) :
    List (List UInt8) → List Numbered → Server RecordStore → Prop where
  | received {octets : List UInt8} {responses : List Numbered} {serviced : List SlotId}
      {next : Server RecordStore} :
      server.Ready → server.handle requests.length octets = .ok (next, responses, serviced) →
      Happens requests server (requests ++ [octets]) responses next
  | wentOn {serviced : List SlotId} {count : Nat} {responses : List Numbered}
      {next : Server RecordStore} :
      server.Ample → server.resume serviced count = .ok (next, responses) →
      Happens requests server requests responses next
  | gaveUp {clients : List WaitingClient} {responses : List Numbered}
      {next : Server RecordStore} :
      clients.Subperm server.waiting → server.abandon clients = .ok (next, responses) →
      Happens requests server requests responses next

/-- A server that was there after the first requests has been served more of them, with these
responses. -/
inductive Served (requests : List (List UInt8)) (first : Server RecordStore) :
    List (List UInt8) → List Numbered → Server RecordStore → Prop where
  | nothing : Served requests first requests [] first
  | next {known all : List (List UInt8)} {responses more : List Numbered}
      {server next : Server RecordStore} :
      Served requests first known responses server → Happens known server all more next →
      Served requests first all (responses ++ more) next

variable {first server next : Server RecordStore} {requests known all : List (List UInt8)}
  {responses more : List Numbered} {base : RecordStore} {limits : RecordStore.Limits}
  {path : String} {slots : Nat} {chance : UInt64} {earlier : List ObjectId}
  {traffic : Traffic RecordStore} {octets : List UInt8} {id : ObjectId} {direction : Direction}

theorem Happens.extends (happens : Happens requests server all more next) :
    ∃ further, all = requests ++ further := by
  cases happens with
  | @received octets => exact ⟨[octets], rfl⟩
  | wentOn | gaveUp => exact ⟨[], (List.append_nil _).symm⟩

/-- A request is received and all clients go on that can then: this is the history of two things. -/
theorem Served.receives (served : Served requests first known responses server)
    (ready : server.Ready) (receives : server.receive known.length octets = .ok (next, more)) :
    Served requests first (known ++ [octets]) (responses ++ more) next := by
  obtain ⟨handled, told, serviced, later, handles, resumed, rfl⟩ := receive_cases receives
  have ample : handled.Ample := (demand_handle_le handles).trans_lt ready.ample
  rw [← List.append_assoc]
  exact (served.next (.received ready handles)).next (.wentOn ample resumed)

/-- Whatever happens is answered, and leaves the server steady. -/
theorem Steady.happens (steady : server.Steady earlier limits slots traffic)
    (few : slots + 1 < 4294967295) (posted : server.Posted requests)
    (happens : Happens requests server all more next) :
    Answers all server more next ∧ ∃ after, next.Steady earlier limits slots after := by
  cases happens with
  | received ready handles =>
      have supplied := supplied_of_demand ((demand_handle_le handles).trans_lt ready.ample)
      have spare := steady.spare few
      exact ⟨steady.answers_handle ready.within spare supplied posted handles,
        steady.follows (steady.mirrors.handle handles spare supplied)⟩
  | wentOn ample resumes =>
      have supplied := supplied_of_demand ((demand_resume_le resumes).trans_lt ample)
      exact ⟨steady.answers_resume posted resumes supplied,
        steady.follows (steady.mirrors.resume resumes supplied)⟩
  | gaveUp waits abandons =>
      exact ⟨steady.answers_abandon posted waits abandons,
        steady.follows (steady.mirrors.abandon waits abandons)⟩

/-- After any history a server is steady, and its responses explain its store. -/
theorem Served.steady (begins : first.Steady earlier limits slots traffic)
    (few : slots + 1 < 4294967295) (posted : first.Posted requests)
    (served : Served requests first all responses server) :
    (∃ after, server.Steady earlier limits slots after) ∧ Answers all first responses server := by
  induction served with
  | nothing => exact ⟨⟨traffic, begins⟩, .idle posted⟩
  | next _ happens induction =>
      obtain ⟨⟨between, steady⟩, answers⟩ := induction
      obtain ⟨further, rfl⟩ := happens.extends
      obtain ⟨goesOn, steadyAfter⟩ := steady.happens few answers.posted happens
      exact ⟨steadyAfter, (answers.explains.more further).trans goesOn.explains, goesOn.posted⟩

/-! ## Requests for a release -/

/-- A request to release an object that is there is answered that it was released from its
direction. -/
theorem Steady.receive_of_has (steady : server.Steady earlier limits slots traffic)
    (ready : server.Ready) (deleted : deleted? octets = some id)
    (has : server.controller.store.Has id direction) (number : Nat) :
    ∃ next later, server.receive number octets =
      .ok (next, (number, .released id direction) :: later) := by
  obtain ⟨segment, named, handles⟩ := server.handle_of_deleted deleted number
  rcases steady.destroys ready.within id with
    ⟨own, final, removed, ended, -⟩ | ⟨absent, -⟩
  · have isOwn := (RecordStore.has_of_destroyed steady.readable removed).unique steady.readable has
    subst isOwn
    have acts := act_of_attempt ended
    have reaches := Traffic.destroy_reaches (steady.mirrors.controller ▸ ended)
    obtain ⟨after, steadyAfter⟩ := steady.follows ⟨_, reaches, steady.mirrors.acted final⟩
    obtain ⟨next, later, resumed⟩ :=
      steadyAfter.resumes ((Nat.lt_succ_self _).trans ready.ample) (server.servicedUntil final)
        server.waiting.length
    exact ⟨next, later, receive_of_handles (handles.trans (release_of_named named acts)) resumed⟩
  · obtain ⟨object, member, isId, -⟩ := has
    exact absurd isId (absent object member)

/-- A request to release an object that is not there is answered that there is none. -/
theorem Steady.receive_of_not_has (steady : server.Steady earlier limits slots traffic)
    (ready : server.Ready) (deleted : deleted? octets = some id)
    (absent : ∀ direction, ¬ server.controller.store.Has id direction) (number : Nat) :
    ∃ text, server.receive number octets = .ok (server, [(number, .line 404 text)]) := by
  obtain ⟨segment, named, handles⟩ := server.handle_of_deleted deleted number
  rcases steady.destroys ready.within id with
    ⟨own, final, removed, -⟩ | ⟨-, ended⟩
  · exact absurd (RecordStore.has_of_destroyed steady.readable removed) (absent own)
  · have acts := act_of_attempt ended
    rw [servicedUntil_self] at acts
    exact ⟨_, receive_of_respond (handles.trans (release_of_named named acts))⟩

/-! ## What responses tell -/

/-- As responses tell it, a store that had the objects of `base` before has an object: it was
created or there before, and has not been released since. -/
def Listed (base : RecordStore) (requests : List (List UInt8)) (responses : List Numbered)
    (id : ObjectId) (direction : Direction) : Prop :=
  Stands requests responses id direction ∨
    base.Has id direction ∧ ∀ answer ∈ responses, ¬ Releases requests id answer

/-- A server is a faithful map of objects.  Consider any store that can be opened, fewer slots than
there are indices for them, and whatever happens at the server: requests are received, clients wait
and go on at once or after other requests, or are given up, serviced or not.  As long as all that is
stored can be summed up and there are identifiers left, the objects in the store are exactly those
of which a response told that they were created, or that were there before, and of which none told
since that they were released.  A request to release one of them is answered that it was released
from the direction to which it was posted, and a request to release any other one that there is
none.  However much happens next, the responses explain what becomes of the store, which stays as it
is if none of them tells that an object was created or released. -/
theorem objects_as_told (readable : base.Readable) (countable : Countable base.contents)
    (opened : (base.openWith path limits).result = .ok ())
    (few : slots + 1 < 4294967295)
    (apart : ∀ count, (IdSupply.start chance).nth count ∉ base.objects.map ObjectRow.id)
    (served : Served [] (start (base.openWith path limits).store slots chance) requests responses
      server) :
    ((server.controller.store.contents.map StoredObject.id).Nodup ∧
      ∀ id direction, server.controller.store.Has id direction ↔
        Listed base requests responses id direction) ∧
    (∀ octets id, server.Ready → deleted? octets = some id →
      (∀ direction, Listed base requests responses id direction →
        ∃ next later, server.receive requests.length octets =
          .ok (next, (requests.length, .released id direction) :: later)) ∧
      ((∀ direction, ¬ Listed base requests responses id direction) →
        ∃ text, server.receive requests.length octets =
          .ok (server, [(requests.length, .line 404 text)]))) ∧
    ∀ all more next, Served requests server all more next →
      Explains all server.controller.store more next.controller.store ∧
      ((∀ answer ∈ more, ¬ Tells all answer) →
        next.controller.store = server.controller.store) := by
  have begins := steady_start readable countable opened apart slots
  have nobody : (start (base.openWith path limits).store slots chance).Posted [] :=
    fun client waits => absurd waits List.not_mem_nil
  obtain ⟨⟨traffic, steady⟩, answers⟩ := served.steady begins few nobody
  have listed : ∀ id direction, server.controller.store.Has id direction ↔
      Listed base requests responses id direction := by
    intro id direction
    rw [answers.explains.has_iff, Listed]
    exact or_congr_right (and_congr_left' (RecordStore.has_openWith path limits))
  refine ⟨⟨?_, listed⟩, fun octets id ready deleted => ⟨?_, ?_⟩, fun all more next later => ?_⟩
  · rw [RecordStore.map_id_contents]
    exact steady.readable.unique
  · exact fun direction isListed => steady.receive_of_has ready deleted
      ((listed id direction).mpr isListed) _
  · intro unlisted
    exact steady.receive_of_not_has ready deleted
      (fun direction has => unlisted direction ((listed id direction).mp has)) _
  · have explains := (later.steady steady few answers.posted).2.explains
    exact ⟨explains, explains.same⟩

/-! ## A file that waits for the space of another one -/

instance (server : Server RecordStore) : Decidable server.Within :=
  decidable_of_iff
    (∀ direction ∈ Direction.all, ∀ medium ∈ Medium.all,
      occupied server.controller.store.contents direction medium < 9223372036854775808)
    ⟨fun all direction medium => all direction (by cases direction <;> decide) medium
        medium.mem_all,
      fun within direction _ medium _ => within direction medium⟩

instance (server : Server RecordStore) : Decidable server.Ready :=
  decidable_of_iff
    (server.Within ∧ server.demand + 1 < 0x4000000000000000)
    ⟨fun holds => ⟨holds.1, holds.2⟩, fun ready => ⟨ready.within, ready.ample⟩⟩

instance (server : Server RecordStore) : Decidable server.Ample :=
  inferInstanceAs (Decidable (_ < _))

/-- Something that can happen at a server: a request comes, clients go on whose requisitions are
these, or the server shuts down. -/
inductive Occurrence where
  | request (octets : List UInt8)
  | goOn (serviced : List SlotId)
  | shutDown

/-- The request that comes, if it is one. -/
def Occurrence.request? : Occurrence → Option (List UInt8)
  | request octets => some octets
  | goOn _ | shutDown => none

/-- The server and the responses after something has happened, if it can. -/
def occur? (server : Server RecordStore) (number : Nat) :
    Occurrence → Option (Server RecordStore × List Numbered)
  | .request octets =>
    if server.Ready then
      (server.handle number octets).toOption.map fun result => (result.1, result.2.1)
    else none
  | .goOn serviced => if server.Ample then (server.resumeAll serviced).toOption else none
  | .shutDown => server.shutDown.toOption

/-- Some things can happen one after the other, and a check holds of what the server comes to and of
all that it has answered then. -/
def passes (check : Server RecordStore → List Numbered → Bool) (server : Server RecordStore)
    (number : Nat) (answered : List Numbered) : List Occurrence → Bool
  | [] => check server answered
  | occurrence :: rest => (server.occur? number occurrence).any fun result =>
      passes check result.1 (number + occurrence.request?.toList.length) (answered ++ result.2) rest

theorem happens_of_occur? {occurrence : Occurrence}
    (occurs : server.occur? requests.length occurrence = some (next, more)) :
    Happens requests server (requests ++ occurrence.request?.toList) more next := by
  cases occurrence with
  | request octets =>
      obtain ⟨ready, occurs⟩ := Option.ite_none_right_eq_some.mp occurs
      obtain ⟨⟨last, told, serviced⟩, handled, ⟨⟩⟩ := Option.map_eq_some_iff.mp occurs
      exact .received ready (Checked.eq_ok_of_toOption handled)
  | goOn serviced =>
      obtain ⟨ample, occurs⟩ := Option.ite_none_right_eq_some.mp occurs
      rw [Occurrence.request?, Option.toList_none, List.append_nil]
      exact .wentOn ample (Checked.eq_ok_of_toOption occurs)
  | shutDown =>
      rw [Occurrence.request?, Option.toList_none, List.append_nil]
      exact .gaveUp (List.Subperm.refl _) (Checked.eq_ok_of_toOption occurs)

/-- What can be checked of a server after some things have happened holds of what it comes to. -/
theorem Served.passes {check : Server RecordStore → List Numbered → Bool}
    (served : Served [] first known responses server) {rest : List Occurrence}
    (checked : passes check server known.length responses rest = true) :
    ∃ last all, Served [] first (known ++ rest.flatMap fun occurrence =>
      occurrence.request?.toList) all last ∧ check last all = true := by
  induction rest generalizing server known responses with
  | nil => exact ⟨server, responses, by simpa using served, checked⟩
  | cons occurrence others induction =>
      obtain ⟨⟨next, more⟩, occurs, holds⟩ := (Option.any_eq_true ..).mp checked
      have further := served.next (happens_of_occur? occurs)
      rw [← List.length_append] at holds
      obtain ⟨last, all, isServed, isChecked⟩ := induction further holds
      rw [List.append_assoc] at isServed
      exact ⟨last, all, isServed, isChecked⟩

/-- A client asks for an object to be released. -/
def deleting (id : ObjectId) : List UInt8 :=
  Utf8.encode ("DELETE /objects/" ++ id.text ++ " HTTP/1.1\r\n\r\n")

/-- The identifier of the first object at a server. -/
def firstId : ObjectId := (IdSupply.start 0).nth 0

/-- The identifier of the second object. -/
def secondId : ObjectId := (IdSupply.start 0).nth 1

/-- The identifier of the third object. -/
def thirdId : ObjectId := (IdSupply.start 0).nth 2

/-- A second file waits until the first one is released. -/
def secondServiced : List Occurrence :=
  [.request (posting 400000000), .request (posting 400000000), .request (deleting firstId)]

/-- A second file waits until the first one is released, and is overtaken by a third one before it
goes on.  A request to release it is answered so, and a request to release the first one again that
there is none. -/
theorem second_file_released :
    ∃ server, Served [] usual [posting 400000000, posting 400000000, deleting firstId,
          posting 50000000]
        [(0, .line 201 firstId.text), (2, .released firstId .outbound),
          (3, .line 201 secondId.text), (1, .line 201 thirdId.text)] server ∧
      server.controller.store.Has thirdId .outbound ∧
      (∃ next later, server.receive 4 (deleting thirdId) =
        .ok (next, (4, .released thirdId .outbound) :: later)) ∧
      ∃ text, server.receive 4 (deleting firstId) = .ok (server, [(4, .line 404 text)]) := by
  let told : List Numbered := [(0, .line 201 firstId.text), (2, .released firstId .outbound),
    (3, .line 201 secondId.text), (1, .line 201 thirdId.text)]
  have checked : passes (fun last all => decide (all = told) && (decide last.Ready &&
      last.controller.store.objects.all fun row => decide (row.id ≠ firstId))) usual 0 []
      (secondServiced ++ [.request (posting 50000000), .goOn [.ofParts 1 3]]) = true := by
    decide +kernel
  obtain ⟨server, all, served, holds⟩ := Served.nothing.passes checked
  obtain ⟨isTold, holds⟩ := Bool.and_eq_true_iff.mp holds
  obtain ⟨isReady, others⟩ := Bool.and_eq_true_iff.mp holds
  have ready := of_decide_eq_true isReady
  rw [of_decide_eq_true isTold] at served
  have posts : Posts [posting 400000000, posting 400000000, deleting firstId, posting 50000000] 1
      .outbound := ⟨_, rfl, by decide +kernel⟩
  have stands : Stands [posting 400000000, posting 400000000, deleting firstId, posting 50000000]
      told thirdId .outbound :=
    ⟨[(0, .line 201 firstId.text), (2, .released firstId .outbound),
      (3, .line 201 secondId.text)], 1, [], rfl, posts,
      fun _ member => absurd member List.not_mem_nil⟩
  have opened : (RecordStore.empty.openWith "store" {}).result = .ok () := rfl
  obtain ⟨⟨-, listed⟩, released, -⟩ := objects_as_told RecordStore.readable_empty
    (fun _ member => absurd member List.not_mem_nil) opened (by decide) (fun _ => List.not_mem_nil)
    served
  have gone : ∀ direction, ¬ server.controller.store.Has firstId direction := by
    intro direction has
    obtain ⟨row, isRow, named, -⟩ := RecordStore.has_iff_row.mp has
    exact of_decide_eq_true (List.all_eq_true.mp others row isRow) named
  exact ⟨server, served, (listed thirdId .outbound).mpr (Or.inl stands),
    (released _ thirdId ready (by decide +kernel)).1 .outbound (Or.inl stands),
    (released _ firstId ready (by decide +kernel)).2
      fun direction isListed => gone direction ((listed firstId direction).mpr isListed)⟩

/-- If the server shuts down first, the second file is given up although it is serviced. -/
example : passes (fun last all => last.controller.store.objects.isEmpty && decide (all =
    [(0, .line 201 firstId.text), (2, .released firstId .outbound), (1, .shuttingDown)])) usual 0 []
    (secondServiced ++ [.shutDown]) = true := by decide +kernel

end Server

end Admission
