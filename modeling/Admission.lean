import Admission.Arena
import Admission.Attendant
import Admission.Controller.Basic
import Admission.Controller.Creation
import Admission.Controller.Observe
import Admission.Controller.Request
import Admission.Controller.Scan
import Admission.Controller.Ticket
import Admission.CreateParams
import Admission.Digits
import Admission.Direction
import Admission.Extent
import Admission.Failure
import Admission.IdSupply
import Admission.Journal
import Admission.Ledger
import Admission.Magnitude
import Admission.Magnitude.Packed
import Admission.Magnitude.Scaling
import Admission.Magnitude.Value
import Admission.Medium
import Admission.ObjectId
import Admission.Priority
import Admission.Proofs.Controller.Alike
import Admission.Proofs.Controller.Apart
import Admission.Proofs.Controller.Arrived
import Admission.Proofs.Controller.Chores
import Admission.Proofs.Controller.Compared
import Admission.Proofs.Controller.Demands
import Admission.Proofs.Controller.Finishing
import Admission.Proofs.Controller.Following
import Admission.Proofs.Controller.Handled
import Admission.Proofs.Controller.Immediate
import Admission.Proofs.Controller.Light
import Admission.Proofs.Controller.Lives
import Admission.Proofs.Controller.Release
import Admission.Proofs.Controller.Restored
import Admission.Proofs.Controller.Running
import Admission.Proofs.Controller.Submission
import Admission.Proofs.Controller.Tickets
import Admission.Proofs.Controller.Unattended
import Admission.Proofs.Controller.Unstopped
import Admission.Proofs.Controller.Upkept
import Admission.Proofs.Controller.Waiting
import Admission.Proofs.Extents.Bytes
import Admission.Proofs.Extents.Chains
import Admission.Proofs.Extents.Slices
import Admission.Proofs.Ledger.Arena
import Admission.Proofs.Ledger.Keys
import Admission.Proofs.Ledger.Slots
import Admission.Proofs.Ledger.Upkeep
import Admission.Proofs.Magnitude.Exact
import Admission.Proofs.Magnitude.Layout
import Admission.Proofs.Magnitude.Packed
import Admission.Proofs.Magnitude.Unpacked
import Admission.Proofs.Queue.Arrivals
import Admission.Proofs.Queue.Greedy
import Admission.Proofs.Queue.Relabeled
import Admission.Proofs.Queue.Reserved
import Admission.Proofs.Queue.Settled
import Admission.Proofs.Scan.Ahead
import Admission.Proofs.Scan.Exact
import Admission.Proofs.Scan.Fixpoint
import Admission.Proofs.Scan.Outcome
import Admission.Proofs.Scan.Room
import Admission.Proofs.Server.Answers
import Admission.Proofs.Server.Cases
import Admission.Proofs.Server.Explained
import Admission.Proofs.Server.Identifiers
import Admission.Proofs.Server.Mirrors
import Admission.Proofs.Server.Objects
import Admission.Proofs.Server.Queue
import Admission.Proofs.Server.Reckonable
import Admission.Proofs.Server.Runs
import Admission.Proofs.Server.Steady
import Admission.Proofs.Server.Unstopped
import Admission.Proofs.Store.Accounted
import Admission.Proofs.Store.Agreement
import Admission.Proofs.Store.Bounded
import Admission.Proofs.Store.Computed
import Admission.Proofs.Store.Contents
import Admission.Proofs.Store.Failing
import Admission.Proofs.Store.Finishing
import Admission.Proofs.Store.Lengths
import Admission.Proofs.Store.Limited
import Admission.Proofs.Store.Opened
import Admission.Proofs.Store.Recorded
import Admission.Proofs.Store.Renamed
import Admission.Proofs.Store.Sided
import Admission.Proofs.Store.Wrapped
import Admission.Proofs.Text.Locations
import Admission.Proofs.Text.Numerals
import Admission.Proofs.Text.Spellings
import Admission.Proofs.Traffic.Basic
import Admission.Proofs.Traffic.Bounds
import Admission.Proofs.Traffic.Committed
import Admission.Proofs.Traffic.Compared
import Admission.Proofs.Traffic.Courses
import Admission.Proofs.Traffic.Destroyed
import Admission.Proofs.Traffic.Directions
import Admission.Proofs.Traffic.Fair
import Admission.Proofs.Traffic.Immediate
import Admission.Proofs.Traffic.Lives
import Admission.Proofs.Traffic.Mirrors
import Admission.Proofs.Traffic.Moderate
import Admission.Proofs.Traffic.Orderly
import Admission.Proofs.Traffic.Outcomes
import Admission.Proofs.Traffic.Parked
import Admission.Proofs.Traffic.Parts
import Admission.Proofs.Traffic.Performed
import Admission.Proofs.Traffic.Redeemed
import Admission.Proofs.Traffic.Refused
import Admission.Proofs.Traffic.Replay
import Admission.Proofs.Traffic.Represented
import Admission.Proofs.Traffic.Restocking
import Admission.Proofs.Traffic.Runs
import Admission.Proofs.Traffic.Sessions
import Admission.Proofs.Traffic.Sorted
import Admission.Proofs.Traffic.Still
import Admission.Proofs.Traffic.Stored
import Admission.Proofs.Traffic.Tallied
import Admission.Proofs.Traffic.Turns
import Admission.Proofs.Traffic.Weather
import Admission.Proofs.Traffic.Whole
import Admission.Proofs.Vlq.Cursor
import Admission.Proofs.Vlq.Forms
import Admission.Proofs.Vlq.Reading
import Admission.Proofs.Vlq.Shortest
import Admission.Proofs.Waiting.Beside
import Admission.Proofs.Waiting.Steps
import Admission.Proofs.Waiting.Wakeups
import Admission.Proofs.Wire.Canonical
import Admission.Proofs.Wire.Forms
import Admission.Proofs.Wire.Snapshots
import Admission.Proofs.Wire.Survival
import Admission.Refusal
import Admission.Server.Basic
import Admission.Server.Body
import Admission.Server.Head
import Admission.Server.Request
import Admission.Server.Response
import Admission.Server.Target
import Admission.Session
import Admission.Slot
import Admission.Snapshot
import Admission.Source
import Admission.Space
import Admission.Store.Basic
import Admission.Store.Error
import Admission.Store.Memory
import Admission.Store.Record
import Admission.Store.Unreliable
import Admission.Text.Ascii
import Admission.Text.Form
import Admission.Text.Hex
import Admission.Text.Invisible
import Admission.Text.Name
import Admission.Text.Numeral
import Admission.Text.Quoted
import Admission.Text.Utf8
import Admission.Vlq
import Admission.Wire.Basic
import Admission.Wire.Error
import Admission.Wire.Leb128
import Admission.Wire.Values
