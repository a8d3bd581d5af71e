import Admission.Proofs.Server.Runs
import Admission.Proofs.Wire.Snapshots

/-!
# Reading a queue

A request for the queue of a direction is answered with the wire form of its snapshot.  Of a server
that is in order every snapshot reads back, and every capacity in it can be packed.  What may keep
it from being written is a magnitude of 2147483648 billions or more, whose packed form would take
more than sixty-one bits.  A requisition may need that much, since it is queued however much it
needs; or that much may be occupied (`queue_read_iff`).
-/

namespace Admission

/-! ## Snapshots -/

namespace Controller

variable {direction : Direction}

/-- What is shown of a queue if these are the capacities and occupancies. -/
def shows {σ : Type} (controller : Controller σ) (direction : Direction)
    (capacity occupancy : Medium → Magnitude) : Snapshot :=
  ⟨direction, Medium.all.map fun medium => ⟨medium, capacity medium, occupancy medium⟩,
    (controller.ledger.queue direction).map Requisition.observe⟩

/-- A snapshot shows what the store answers for every medium. -/
theorem snapshot_of_answers {σ : Type} [Store σ] {controller : Controller σ}
    {capacity occupancy : Medium → Magnitude}
    (capacities : ∀ medium, Store.capacity controller.store direction medium =
      .ok (capacity medium))
    (occupancies : ∀ medium, Store.occupancy controller.store direction medium =
      .ok (occupancy medium)) :
    controller.snapshot direction = .ok (controller.shows direction capacity occupancy) := by
  have usages : ∀ medium, usage controller.store direction medium =
      .ok ⟨medium, capacity medium, occupancy medium⟩ := by
    intro medium
    rw [usage, capacities, occupancies]
    rfl
  simp only [snapshot, Medium.all, List.mapM_cons, List.mapM_nil, usages]
  rfl

/-- A store that refuses to answer for one medium is not shown. -/
theorem snapshot_refused {σ : Type} [Store σ] {controller : Controller σ} {error : StoreError}
    {capacity : Medium → Magnitude}
    (capacities : ∀ medium, Store.capacity controller.store direction medium =
      .ok (capacity medium))
    (occupancies : ∀ medium,
      (∃ occupancy, Store.occupancy controller.store direction medium = .ok occupancy) ∨
        Store.occupancy controller.store direction medium = Checked.refuse error)
    (refused : ∃ medium, Store.occupancy controller.store direction medium =
      Checked.refuse error) :
    controller.snapshot direction = Checked.refuse (.store error) := by
  have answered : ∀ medium occupancy,
      Store.occupancy controller.store direction medium = .ok occupancy →
      usage controller.store direction medium = .ok ⟨medium, capacity medium, occupancy⟩ := by
    intro medium occupancy answer
    rw [usage, capacities, answer]
    rfl
  have unanswered : ∀ medium,
      Store.occupancy controller.store direction medium = Checked.refuse error →
      usage controller.store direction medium = Checked.refuse error := by
    intro medium answer
    rw [usage, capacities, answer]
    rfl
  simp only [snapshot, Medium.all, List.mapM_cons, List.mapM_nil]
  rcases occupancies .file with ⟨file, isFile⟩ | noFile
  · rw [answered .file file isFile]
    rcases occupancies .bulk with ⟨bulk, isBulk⟩ | noBulk
    · rw [answered .bulk bulk isBulk]
      obtain ⟨medium, isRefused⟩ := refused
      cases medium with
      | file =>
          rw [isFile] at isRefused
          cases isRefused
      | bulk =>
          rw [isBulk] at isRefused
          cases isRefused
      | heap =>
          rw [unanswered .heap isRefused]
          rfl
    · rw [unanswered .bulk noBulk]
      rfl
  · rw [unanswered .file noFile]
    rfl

end Controller

theorem RecordStore.occupancy_cases (store : RecordStore) (direction : Direction)
    (medium : Medium) :
    (∃ occupancy, store.occupancy direction medium = .ok occupancy) ∨
      store.occupancy direction medium = Checked.refuse RecordFault.sum.refusal := by
  unfold occupancy
  split
  · exact Or.inl ⟨_, rfl⟩
  · exact Or.inr rfl

/-! ## Responses -/

namespace Server

/-- The direction whose queue is asked for by what came over a connection. -/
def queueAsked? (octets : List UInt8) : Option Direction :=
  match Request.read octets with
  | .error _ => none
  | .ok request =>
    match request.method, Route.ofPath request.path with
    | .get, some (.queue segment) => Direction.ofSegment? segment
    | _, _ => none

/-- Who asks for a queue is served with what is observed of it. -/
theorem handle_of_queueAsked {σ : Type} [Store σ] (server : Server σ) {direction : Direction}
    {octets : List UInt8} (asked : queueAsked? octets = some direction) (number : Nat) :
    server.handle number octets = match server.controller.snapshot direction with
      | .ok snapshot => .ok (server.respond number (.ofSnapshot snapshot))
      | .error (.refused refusal) => .ok (server.respond number (.ofRefusal refusal))
      | .error (.overflow kind) => .error kind := by
  unfold queueAsked? at asked
  split at asked
  · cases asked
  · next request reads =>
      split at asked
      · next segment isGet route =>
          simp only [handle, reads, serve, route, observe, asked, isGet]
          cases server.controller.snapshot direction with
          | ok snapshot => rfl
          | error failure => cases failure <;> rfl
      · cases asked

/-- Who asks for a queue is shown what the controller shows. -/
theorem receive_of_queueAsked {σ : Type} [Store σ] {server : Server σ} {direction : Direction}
    {octets : List UInt8} (asked : queueAsked? octets = some direction) (number : Nat) :
    server.receive number octets = match server.controller.snapshot direction with
      | .ok snapshot => .ok (server, [(number, .ofSnapshot snapshot)])
      | .error (.refused refusal) => .ok (server, [(number, .ofRefusal refusal)])
      | .error (.overflow kind) => .error kind := by
  have handles := server.handle_of_queueAsked asked number
  cases shown : server.controller.snapshot direction with
  | ok snapshot =>
      rw [shown] at handles
      exact receive_of_respond handles
  | error failure =>
      rw [shown] at handles
      cases failure with
      | refused refusal => exact receive_of_respond handles
      | overflow kind =>
          rw [receive, handles]
          rfl

variable {limits : RecordStore.Limits} {server : Server RecordStore} {direction : Direction}

/-- What is occupied and what is needed in a direction can be packed. -/
def Packable (server : Server RecordStore) (direction : Direction) : Prop :=
  (∀ medium, occupied server.controller.store.contents direction medium < 2147483648000000000) ∧
    ∀ requisition ∈ server.controller.ledger.queue direction,
      ∀ medium, requisition.need medium < 2147483648000000000

instance (server : Server RecordStore) (direction : Direction) :
    Decidable (server.Packable direction) :=
  decidable_of_iff
    ((∀ medium ∈ Medium.all,
        occupied server.controller.store.contents direction medium < 2147483648000000000) ∧
      ∀ requisition ∈ server.controller.ledger.queue direction,
        ∀ medium ∈ Medium.all, requisition.need medium < 2147483648000000000)
    (by simp only [Medium.mem_all, forall_const, Packable])

/-- Whatever a server that is in order shows reads back. -/
theorem InOrder.readsBack_shows (inOrder : server.InOrder limits) (direction : Direction)
    (capacity occupancy : Medium → Magnitude) :
    Wire.ReadsBack (server.controller.shows direction capacity occupancy) := by
  refine Snapshot.readsBack (by simp [Controller.shows, Medium.all]) ?_ ?_
  · have few := inOrder.ledger.length_queue_lt direction
    rw [Controller.shows, List.length_map]
    omega
  · intro entry member
    obtain ⟨requisition, queued, rfl⟩ := List.mem_map.mp member
    exact inOrder.ledger.index_ne_null queued

/-- It can be written exactly if what it shows can be packed. -/
theorem InOrder.writable_shows_iff (inOrder : server.InOrder limits)
    {capacity occupancy : Medium → Magnitude} (packable : ∀ medium, (capacity medium).Packable)
    (exact : ∀ medium, (occupancy medium).value =
      occupied server.controller.store.contents direction medium) :
    Wire.Writable (server.controller.shows direction capacity occupancy) ↔
      server.Packable direction := by
  have nonneg := occupied_nonneg server.controller.store.contents direction
  rw [Snapshot.writable_iff]
  refine and_congr ?_ ?_
  · constructor
    · intro all medium
      have usage := (all _ (List.mem_map_of_mem (Medium.mem_all medium))).2
      rw [← exact medium]
      exact usage.2
    · intro small usage member
      obtain ⟨medium, -, rfl⟩ := List.mem_map.mp member
      exact ⟨packable medium, (exact medium).symm ▸ nonneg medium,
        (exact medium).symm ▸ small medium⟩
  · constructor
    · intro all requisition queued medium
      exact (all _ (List.mem_map_of_mem queued) medium).2
    · intro small entry member medium
      obtain ⟨requisition, queued, rfl⟩ := List.mem_map.mp member
      exact ⟨inOrder.valid direction requisition queued medium,
        small requisition queued medium⟩

/-- A snapshot of a server that is in order reads back, and can be written exactly if what it
shows can be packed; or what is stored is too much to be summed up. -/
theorem InOrder.snapshot_cases (inOrder : server.InOrder limits) (direction : Direction) :
    (∃ snapshot, server.controller.snapshot direction = .ok snapshot ∧
      Wire.ReadsBack snapshot ∧ (Wire.Writable snapshot ↔ server.Packable direction)) ∨
    server.controller.snapshot direction =
      Checked.refuse (.store RecordFault.sum.refusal) ∧ ¬ server.Packable direction := by
  have capacities := fun medium => (inOrder.opened.capacity direction medium).1
  have cases := server.controller.store.occupancy_cases direction
  by_cases answered : ∀ medium, ∃ occupancy,
      server.controller.store.occupancy direction medium = .ok occupancy
  · left
    choose occupancy occupancies using answered
    exact ⟨_, Controller.snapshot_of_answers capacities occupancies,
      inOrder.readsBack_shows direction _ _,
      inOrder.writable_shows_iff (fun medium => (inOrder.opened.capacity direction medium).2)
        fun medium => RecordStore.value_of_occupancy inOrder.readable (occupancies medium)⟩
  · right
    obtain ⟨medium, unanswered⟩ := not_forall.mp answered
    refine ⟨Controller.snapshot_refused capacities cases
      ⟨medium, (cases medium).resolve_left unanswered⟩, fun small => unanswered ?_⟩
    have bound := small.1 medium
    exact RecordStore.occupancy_answered inOrder.readable (by omega)

/-- The queue of a direction can be read exactly as long as what it shows can be packed.
Consider any store whose capacities can be packed, any number of slots, and whatever has happened
at the server.  A request for the queue is answered with octets, from which exactly the snapshot of
the controller is decoded, if and only if what is occupied and what every requisition needs can be
packed for each medium; capacities always can.  Otherwise it is answered with a refusal. -/
theorem queue_read_iff {base : RecordStore} {path : String} {slots : Nat} {chance : UInt64}
    {octets : List UInt8} (readable : base.Readable)
    (opened : (base.openWith path limits).result = .ok ())
    (apart : ∀ count, (IdSupply.start chance).nth count ∉ base.objects.map ObjectRow.id)
    (reached : (start (base.openWith path limits).store slots chance).Reaches server)
    (asked : queueAsked? octets = some direction) (number : Nat) :
    ((∃ body snapshot, server.receive number octets = .ok (server, [(number, .octets body)]) ∧
        server.controller.snapshot direction = .ok snapshot ∧
        Wire.decode Snapshot body = .ok snapshot) ↔ server.Packable direction) ∧
      (¬ server.Packable direction → ∃ text,
        server.receive number octets = .ok (server, [(number, .line 500 text)])) := by
  have inOrder := Reaches.inOrder readable opened apart reached
  rw [receive_of_queueAsked asked]
  rcases inOrder.snapshot_cases direction with
    ⟨snapshot, isSnapshot, readsBack, writable⟩ | ⟨refused, large⟩
  · rw [isSnapshot, ← writable]
    simp only [Response.ofSnapshot]
    cases written : Wire.encode snapshot with
    | ok body =>
        have decoded := readsBack.decode written []
        rw [List.append_nil] at decoded
        exact ⟨iff_of_true ⟨body, snapshot, rfl, rfl, decoded⟩ ⟨body, written⟩,
          fun unwritable => absurd ⟨body, written⟩ unwritable⟩
    | error error =>
        refine ⟨iff_of_false ?_ ?_, fun _ => ⟨error.message, rfl⟩⟩
        · rintro ⟨body, shown, answered, -⟩
          cases answered
        · rintro ⟨body, isWritten⟩
          cases written.symm.trans isWritten
  · rw [refused]
    refine ⟨iff_of_false ?_ large, fun _ => ⟨_, rfl⟩⟩
    rintro ⟨body, snapshot, answered, -⟩
    cases answered

/-! ## A client that waits for a file -/

/-- A client posts an outbound file of that many bytes, and is willing to wait. -/
def posting (bytes : Nat) : List UInt8 :=
  let form := "medium=file&location=1&length=" ++ toString bytes ++ "&wait=true"
  Utf8.encode ("POST /outbound/objects HTTP/1.1\r\n" ++
    "content-type: application/x-www-form-urlencoded\r\n" ++
    "content-length: " ++ toString form.length ++ "\r\n\r\n" ++ form)

/-- Another one asks for the queue. -/
def asking : List UInt8 := Utf8.encode "GET /outbound HTTP/1.1\r\n\r\n"

/-- A server with the usual capacities. -/
def usual : Server RecordStore := .start .opened 1024 0

theorem asking_asked : queueAsked? asking = some .outbound := by decide +kernel

/-- The snapshot that a server shows of the outbound queue. -/
def outbound? (server : Server RecordStore) : Option Snapshot :=
  (server.controller.snapshot .outbound).toOption

/-- What can be checked of the server after it has received a file holds of what it comes to. -/
theorem reaches_posted {bytes : Nat} (holds : Server RecordStore → Bool)
    (checked : (usual.receive 1 (posting bytes)).toOption.any (fun result =>
      decide (result.1.supply.issued < 0x4000000000000000) && holds result.1) = true) :
    ∃ later, usual.Reaches later ∧ holds later = true := by
  cases received : usual.receive 1 (posting bytes) with
  | error kind =>
      rw [received] at checked
      cases checked
  | ok result =>
      obtain ⟨later, responses⟩ := result
      rw [received] at checked
      obtain ⟨issued, isHeld⟩ := Bool.and_eq_true_iff.mp checked
      have supplied : later.Supplied := of_decide_eq_true (p := later.supply.issued < _) issued
      exact ⟨later, .receive received (by decide) supplied, isHeld⟩

theorem snapshot_of_outbound? {server : Server RecordStore} {snapshot : Snapshot}
    (shown : server.outbound? = some snapshot) :
    server.controller.snapshot .outbound = .ok snapshot :=
  Checked.eq_ok_of_toOption shown

/-- A file of two billion bytes waits, which is more than can be stored, and is shown. -/
theorem waiting_file_read :
    ∃ later body, usual.Reaches later ∧ later.waiting.length = 1 ∧ later.Packable .outbound ∧
      later.receive 2 asking = .ok (later, [(2, .octets body)]) ∧
      ∃ snapshot, later.controller.snapshot .outbound = .ok snapshot ∧
        Wire.decode Snapshot body = .ok snapshot := by
  have checked : (usual.receive 1 (posting 2000000000)).toOption.any (fun result =>
      decide (result.1.supply.issued < 0x4000000000000000) &&
        (decide (result.1.waiting.length = 1) && decide (result.1.Packable .outbound))) = true := by
    decide +kernel
  obtain ⟨later, reached, holds⟩ := reaches_posted (fun later =>
    decide (later.waiting.length = 1) && decide (later.Packable .outbound)) checked
  obtain ⟨waits, small⟩ := Bool.and_eq_true_iff.mp holds
  have packable := of_decide_eq_true small
  have opened : (RecordStore.empty.openWith "store" {}).result = .ok () := rfl
  obtain ⟨body, snapshot, answered, shown, decoded⟩ :=
    (queue_read_iff RecordStore.readable_empty opened (fun _ => List.not_mem_nil) reached
      asking_asked 2).1.mpr packable
  exact ⟨later, body, reached, of_decide_eq_true waits, packable, answered, snapshot, shown,
    decoded⟩

/-- A file of 2147483648000000000 bytes waits, and the queue in which it waits cannot be read. -/
theorem queue_unread :
    ∃ later, usual.Reaches later ∧ later.waiting.length = 1 ∧
      queueAsked? asking = some .outbound ∧
      later.receive 2 asking =
        .ok (later, [(2, .line 500 Wire.EncodeError.unpackable.message)]) := by
  have checked : (usual.receive 1 (posting 2147483648000000000)).toOption.any (fun result =>
      decide (result.1.supply.issued < 0x4000000000000000) &&
        (decide (result.1.waiting.length = 1) && result.1.outbound?.any fun snapshot =>
          decide (Response.ofSnapshot snapshot = .line 500 Wire.EncodeError.unpackable.message))) =
        true := by decide +kernel
  obtain ⟨later, reached, holds⟩ := reaches_posted (fun later =>
    decide (later.waiting.length = 1) && later.outbound?.any fun snapshot =>
      decide (Response.ofSnapshot snapshot = .line 500 Wire.EncodeError.unpackable.message)) checked
  obtain ⟨waits, shown⟩ := Bool.and_eq_true_iff.mp holds
  obtain ⟨snapshot, isSnapshot, answer⟩ := (Option.any_eq_true ..).mp shown
  refine ⟨later, reached, of_decide_eq_true waits, asking_asked, ?_⟩
  rw [receive_of_queueAsked asking_asked, snapshot_of_outbound? isSnapshot,
    ← of_decide_eq_true answer]

end Server

end Admission
