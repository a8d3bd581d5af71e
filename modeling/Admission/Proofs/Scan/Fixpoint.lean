import Admission.Proofs.Scan.Outcome
import Admission.Store.Memory

/-!
# A scan computes the greedy fixpoint

`GreedyPass` says which requisitions are serviced after a scan, position by position and in
exact integers: those that were, and those that fit on every medium in what the serviced ones
ahead of them leave of their share.  `ScanEffect` adds what else a scan does: it counts,
signals and reports what it turned on, and touches nothing else.

`scan_greedy_fixpoint` is the main statement.  A scan whose arithmetic does not overflow has
this effect, and a second scan finds nothing to do.
-/

namespace Admission

/-- The outcome of a pass from head to tail.  Every requisition keeps its place and all but its
mark, and is serviced exactly if it was before or fits, all or nothing, in its share beside
the serviced ones ahead of it; a share that is used up counts as zero. -/
structure GreedyPass (share : Share) (before after : List Requisition) : Prop where
  length_eq : after.length = before.length
  unmarked : ∀ position (old : position < before.length) (new : position < after.length),
    after[position] = { before[position] with serviced := after[position].serviced }
  serviced_iff : ∀ position (old : position < before.length) (new : position < after.length),
    after[position].serviced = true ↔
      before[position].serviced = true ∨
        ∀ medium, before[position].need medium ≤
          max 0 (share before[position].blocking medium -
            reserved [] (after.take position) medium)

theorem greedyPass_grantAll (share : Share) (queue : List Requisition) :
    GreedyPass share queue (grantAll share queue) where
  length_eq := length_grantAll share queue
  unmarked := by
    intro position old new
    rcases getElem_grantAll share queue position old new with same | ⟨-, granted⟩
    · rw [same]
    · rw [granted]
      rfl
  serviced_iff := by
    intro position old new
    rw [serviced_getElem_grantAll share queue position old new, Requisition.fits_iff]
    rfl

/-- What a scan of a direction does to a controller when it services `serviced` requisitions. -/
structure ScanEffect {σ : Type} (direction : Direction) (share : Share)
    (before after : Controller σ) (serviced : Nat) : Prop where
  pass : GreedyPass share (before.ledger.queue direction) (after.ledger.queue direction)
  count : serviced =
    (turnedOn (before.ledger.queue direction) (after.ledger.queue direction)).length
  /-- Each requisition that was turned on is reported once, in order. -/
  events : after.journal.events = before.journal.events ++
    (turnedOn (before.ledger.queue direction) (after.ledger.queue direction)).map
      fun requisition => ⟨direction, requisition.slot, .serviced⟩
  /-- Each attendant of a requisition that was turned on is signaled once, in order. -/
  signals : after.attendants =
    ((turnedOn (before.ledger.queue direction) (after.ledger.queue direction)).filterMap
      Requisition.attendant).foldl Attendants.give before.attendants
  others : ∀ other, other ≠ direction → after.ledger.queue other = before.ledger.queue other
  pool : after.ledger.pool = before.ledger.pool
  store : after.store = before.store

namespace Controller

variable {σ : Type}

theorem scanEffect_scanned (controller : Controller σ) (direction : Direction) (share : Share) :
    ScanEffect direction share controller (controller.scanned direction share)
      (turnedOn (controller.ledger.queue direction)
        (grantAll share (controller.ledger.queue direction))).length := by
  have queueAfter : (controller.scanned direction share).ledger.queue direction =
      grantAll share (controller.ledger.queue direction) := Ledger.queue_setQueue_self _ _ _
  constructor
  case pass =>
    rw [queueAfter]
    exact greedyPass_grantAll share _
  case count => rw [queueAfter]
  case events =>
    rw [queueAfter, scanned, walked, settle, record, Journal.events_append,
      Journal.events_append, ← Journal.events_map_event (List.map _ _), List.map_map]
    simp only [Journal.events, Journal.event?, List.filterMap_cons, List.filterMap_nil,
      List.append_nil]
    rfl
  case signals => rw [queueAfter]; rfl
  case others =>
    intro other different
    exact Ledger.queue_setQueue_of_ne _ _ different
  case pool => exact Ledger.pool_setQueue _ _ _
  case store => rfl

end Controller

/-- A scan grants exactly what fits, head to tail, and is idempotent.  Whatever the queues, the
capacities and the occupancies: if no arithmetic overflows, the scan is done, what it turned on
is told position by position by the exact integers, nothing else changes, and a scan right
after it services nothing and only notes that it was made. -/
theorem scan_greedy_fixpoint {σ : Type} [Store σ] {controller : Controller σ}
    {direction : Direction} {capacity occupancy : Medium → Magnitude}
    (capacities : ∀ medium,
      Store.capacity controller.store direction medium = .ok (capacity medium))
    (occupancies : ∀ medium,
      Store.occupancy controller.store direction medium = .ok (occupancy medium))
    (exact : ∀ kind final, Action.scan direction controller ≠ .error (.overflow kind) final) :
    ∃ serviced final, Action.scan direction controller = .ok serviced final ∧
      ScanEffect direction
        (Share.of (fun medium => (capacity medium).value)
          fun medium => (occupancy medium).value)
        controller final serviced ∧
      Action.scan direction final = .ok 0 (final.record
        [.note (.scanStarted direction (final.ledger.queue direction).length)]) := by
  have done := Action.scan_of_offers ⟨capacity, occupancy, capacities, occupancies, rfl⟩ exact
  refine ⟨_, _, done, Controller.scanEffect_scanned controller direction _, ?_⟩
  rw [Action.scan_again done, Controller.ledger_scanned, Ledger.queue_setQueue_self,
    length_grantAll]

/-- A queue with everything in it: of a thousand bytes in files fifty are occupied and thirty
are reserved at the tail; the first of two that wait fits in their half, the second does not,
one that does not wait takes what is left, and one needs nothing. -/
def crowded : Controller MemoryStore :=
  let pending (index bytes : Nat) (attendant : Option AttendantId) : Requisition :=
    ⟨.ofParts (.ofNat index) 1, .of .file (.ofUInt64 (.ofNat bytes)), ⟨1, 0⟩, attendant, false⟩
  { store :=
      { outboundLimits := .of .file (.ofUInt64 1000)
        objects := [⟨.ofNat 1, .outbound, [⟨.file, 50⟩], false⟩] }
    ledger :=
      { pool := .ofLimit 8
        inbound := []
        outbound :=
          [pending 1 400 (some ⟨0⟩), pending 2 200 (some ⟨1⟩), pending 3 550 none,
            pending 4 0 (some ⟨0⟩), { pending 5 30 (some ⟨1⟩) with serviced := true }] }
    attendants := ⟨[.clear, .clear]⟩
    journal := [] }

/-- The scan of the crowded queue is done and has the effect of a greedy pass. -/
theorem scan_greedy_fixpoint_crowded :
    ∃ serviced final, Action.scan .outbound crowded = .ok serviced final ∧
      ScanEffect .outbound
        (Share.of (fun medium => (crowded.store.outboundLimits.get medium).value)
          fun medium => ((Space.of .file (.ofUInt64 50)).get medium).value)
        crowded final serviced ∧
      Action.scan .outbound final = .ok 0 (final.record
        [.note (.scanStarted .outbound (final.ledger.queue .outbound).length)]) := by
  have exact : (match Action.scan .outbound crowded with
      | .error (.overflow _) _ => true
      | _ => false) = false := by decide +kernel
  refine scan_greedy_fixpoint ?_ ?_ ?_
  · intro medium
    rfl
  · intro medium
    cases medium <;> rfl
  · intro kind final stopped
    rw [stopped] at exact
    cases exact

end Admission
