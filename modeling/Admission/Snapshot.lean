import Admission.Direction
import Admission.Priority
import Admission.Slot
import Admission.Space

/-!
# Snapshots of a queue

A snapshot shows the queue of one direction from outside: how much of every medium is
occupied, and the queued requisitions, head first.
-/

namespace Admission

/-- Capacity and occupancy of one medium. -/
structure MediumUsage where
  medium : Medium
  capacity : Magnitude
  occupancy : Magnitude
  deriving DecidableEq

/-- A queued requisition as seen from outside. -/
structure QueuedRequisition where
  slot : SlotId
  priority : Priority
  needed : Space
  blocking : Bool
  serviced : Bool
  deriving DecidableEq

/-- The state of the queue of one direction. -/
structure Snapshot where
  direction : Direction
  media : List MediumUsage
  entries : List QueuedRequisition
  deriving DecidableEq

/-- A line with what is occupied of the capacity. -/
def MediumUsage.text (usage : MediumUsage) : String :=
  s!"  {usage.medium}: {usage.occupancy}/{usage.capacity}\n"

/-- A line with everything that is shown of a requisition. -/
def QueuedRequisition.text (entry : QueuedRequisition) : String :=
  let manner := if entry.blocking then "blocking" else "non-blocking"
  let progress := if entry.serviced then "serviced" else "pending"
  s!"  {entry.slot} {entry.priority} {manner} [{progress}] {entry.needed}\n"

/-- One line for the direction, one for every medium and one for every requisition. -/
def Snapshot.text (snapshot : Snapshot) : String :=
  String.join
    (s!"{snapshot.direction} ({snapshot.entries.length} queued)\n"
      :: snapshot.media.map MediumUsage.text ++ snapshot.entries.map QueuedRequisition.text)

end Admission
