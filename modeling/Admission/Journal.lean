import Admission.Direction
import Admission.Extent
import Admission.Ledger
import Admission.Refusal

/-!
# The journal

Whatever happens is written down in order: events, which tell a watcher about a
requisition, and notes, which are for the log.  Both are values; their wording is decided
here and nowhere else.
-/

namespace Admission

/-- What happened to a requisition. -/
inductive EventKind where
  | queued (priority : Priority) (needed : Space)
  | serviced
  | notServiceable
  | shredded
  | interrupted
  deriving DecidableEq

/-- Something that happened to the requisition in a slot. -/
structure Event where
  direction : Direction
  slot : SlotId
  kind : EventKind
  deriving DecidableEq

/-- What is said to have happened. -/
def EventKind.text : EventKind → String
  | queued priority needed => s!"queued at {priority} for {needed}"
  | serviced => "serviced"
  | notServiceable => "not serviceable"
  | shredded => "shredded"
  | interrupted => "interrupted"

/-- The event as a watcher shows it: where it happened, and what. -/
def Event.text (event : Event) : String :=
  s!"{event.direction} {event.slot} {event.kind.text}"

/-- How much attention a log record asks for. -/
inductive LogLevel where
  | error
  | warn
  | info
  | debug
  | trace
  deriving DecidableEq, Repr

/-- The level as log records show it. -/
def LogLevel.name : LogLevel → String
  | error => "ERROR"
  | warn => "WARN"
  | info => "INFO"
  | debug => "DEBUG"
  | trace => "TRACE"

/-- A remark for the log. -/
inductive Note where
  | storeOpened (path : String)
  | capacitySet (direction : Direction) (medium : Medium) (capacity : Magnitude)
  | controllerStarted (slots : Nat)
  | slotsInUse (inUse limit : Nat)
  | noFreeSlot (direction : Direction) (priority : Priority) (needed : Space)
  | scanStarted (direction : Direction) (queued : Nat)
  | scanFailed (direction : Direction) (refusal : Refusal)
  | rescanFailed (direction : Direction) (slot : SlotId) (refusal : Refusal)
  | woken (direction : Direction) (slot : SlotId)
  | creationInterrupted (direction : Direction)
  | creationFailed (direction : Direction) (error : StoreError)
  | creationAbandoned (direction : Direction)
  | objectReleased (object : ObjectId) (serviced : Nat) (direction : Direction)
  | objectCreated (object : ObjectId) (direction : Direction) (extents : List Extent)
  | objectDestroyed (object : ObjectId)
  | objectStored (object : ObjectId) (direction : Direction) (extents : List Extent)
  | objectRemoved (object : ObjectId)
  deriving DecidableEq

namespace Note

/-- A call that fails is an error, a creation that is cut short a warning, and everything else is
for whoever wants to follow what happens. -/
def level : Note → LogLevel
  | noFreeSlot .. | scanFailed .. | rescanFailed .. | creationFailed .. => .error
  | creationInterrupted .. | creationAbandoned .. => .warn
  | storeOpened .. | controllerStarted .. => .info
  | slotsInUse .. | scanStarted .. => .trace
  | capacitySet .. | woken .. | objectReleased .. | objectCreated .. | objectDestroyed ..
  | objectStored .. | objectRemoved .. => .debug

/-- The text of a remark. -/
def message : Note → String
  | storeOpened path => s!"Initialize store at {path}"
  | capacitySet direction medium capacity => s!"{direction} {medium} capacity {capacity}"
  | controllerStarted slots => s!"admission controller with {slots} requisition slots"
  | slotsInUse inUse limit => s!"{inUse} of {limit} slots in use"
  | noFreeSlot direction priority needed =>
    s!"{direction} request at {priority} for {needed}: no free slot"
  | scanStarted direction queued => s!"{direction} scan over {queued} requisitions"
  | scanFailed direction refusal => s!"{direction} scan failed: {refusal}"
  | rescanFailed direction slot refusal =>
    s!"{direction} scan after releasing {slot} failed: {refusal}"
  | woken direction slot => s!"{direction} {slot} woken"
  | creationInterrupted direction => s!"{direction} object creation interrupted"
  | creationFailed direction error => s!"{direction} object creation failed: {error}"
  | creationAbandoned direction => s!"{direction} creation abandoned on shutdown"
  | objectReleased object serviced direction =>
    s!"{object} destroyed, {serviced} {direction} requisitions serviced"
  | objectCreated object direction extents =>
    s!"{object} created for {direction} with " ++ Extent.listText extents
  | objectDestroyed object => s!"{object} destroyed"
  | objectStored object direction extents =>
    s!"{object} stored for {direction} with " ++ Extent.listText extents
  | objectRemoved object => s!"{object} removed"

end Note

/-- One line of the journal. -/
inductive Entry where
  | event (event : Event)
  | note (note : Note)
  deriving DecidableEq

/-- Everything that happened, oldest first. -/
abbrev Journal : Type := List Entry

/-- A record of the log. -/
structure LogRecord where
  level : LogLevel
  message : String
  deriving DecidableEq, Repr

/-- A record as a line of the log. -/
def LogRecord.text (record : LogRecord) : String := s!"{record.level.name} {record.message}"

namespace Journal

/-- The event that an entry tells of, unless it is a remark. -/
def event? : Entry → Option Event
  | .event event => some event
  | .note _ => none

/-- The events of a journal. -/
def events (journal : Journal) : List Event := journal.filterMap event?

theorem events_append (front back : Journal) :
    events (front ++ back) = front.events ++ back.events := List.filterMap_append

theorem events_map_event (events : List Event) :
    Journal.events (events.map Entry.event) = events := by
  rw [Journal.events, List.filterMap_map]
  exact List.filterMap_some

theorem mem_events {journal : Journal} {event : Event} :
    event ∈ journal.events ↔ .event event ∈ journal := by
  rw [events, List.mem_filterMap]
  constructor
  · rintro ⟨entry | note, member, isEvent⟩
    · cases isEvent
      exact member
    · cases isEvent
  · exact fun member => ⟨_, member, rfl⟩

/-- The log record of an entry.  Events reach the log only if the watcher of the controller
writes them there. -/
def record? (watcherLogs : Bool) : Entry → Option LogRecord
  | .event event => if watcherLogs then some ⟨.debug, event.text⟩ else none
  | .note note => some ⟨note.level, note.message⟩

/-- The log of a journal. -/
def log (watcherLogs : Bool) (journal : Journal) : List LogRecord :=
  journal.filterMap (record? watcherLogs)

end Journal

end Admission
