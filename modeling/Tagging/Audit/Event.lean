import Std.Data.ExtTreeMap
import Tagging.Access.Check
import Tagging.Time.Instant

/-!
# Events

An event records one change: what was done, who did it, to which object and when. Events are kept in
a log, and announced to whoever listens.
-/

namespace Tagging

/-- What was done. -/
inductive Verb where
  | tagCreated
  | tagEdited
  | tagDeleted
  | tagAttach
  | tagRemoved
  | documentCreated
  | documentDeleted
  | aclGranted
  | aclRevoked
  deriving DecidableEq, Repr

namespace Verb

/-- Every verb. -/
def all : List Verb :=
  [tagCreated, tagEdited, tagDeleted, tagAttach, tagRemoved, documentCreated, documentDeleted,
    aclGranted, aclRevoked]

/-- The name of a verb. -/
def name : Verb → String
  | tagCreated => "tag_created"
  | tagEdited => "tag_edited"
  | tagDeleted => "tag_deleted"
  | tagAttach => "tag_attach"
  | tagRemoved => "tag_removed"
  | documentCreated => "document_created"
  | documentDeleted => "document_deleted"
  | aclGranted => "acl_granted"
  | aclRevoked => "acl_revoked"

/-- The verb with a given name. -/
def ofName? (name : String) : Option Verb :=
  all.find? (·.name = name)

end Verb

/-- The record of one change. -/
structure Event where
  id : Uuid
  verb : Verb
  actor : String
  target : Object
  /-- A second object that took part. -/
  actionObject : Option Object
  timestamp : Instant
  deriving DecidableEq

/-!
## The event log

Events in the order in which they were recorded. Beside them stands, for each object, where its
events are, so that its history is found without a look at all the others.
-/

open Std (ExtTreeMap ExtTreeSet)

/-- The places of the events of each object, the newest first. -/
abbrev Positions := ExtTreeMap Object (List Nat)

namespace Positions

/-- The places of the events of one object, the newest first. -/
def of (positions : Positions) (target : Object) : List Nat :=
  positions.getD target []

/-- Notes that the next event of an object stands at a place. -/
def note (positions : Positions) (target : Object) (place : Nat) : Positions :=
  positions.insert target (place :: positions.of target)

/-- Notes events with their places. -/
def noteAll (positions : Positions) (events : List (Event × Nat)) : Positions :=
  events.foldl (fun positions entry ↦ positions.note entry.1.target entry.2) positions

/-- The places of all events of a list. -/
def index (events : List Event) : Positions :=
  noteAll ∅ events.zipIdx

end Positions

/-- A growing list of events, indexed by target. -/
structure EventLog where
  entries : Array Event
  positions : Positions
  indexed : positions = Positions.index entries.toList

namespace EventLog

/-- The events in the order of recording. -/
def toList (log : EventLog) : List Event :=
  log.entries.toList

/-- The log with given events. -/
def ofList (events : List Event) : EventLog :=
  ⟨events.toArray, Positions.index events, rfl⟩

/-- No events. -/
def empty : EventLog := ofList []

instance : EmptyCollection EventLog := ⟨empty⟩

instance : Inhabited EventLog := ⟨empty⟩

/-- The number of events. -/
def size (log : EventLog) : Nat :=
  log.entries.size

/-- Records an event after all others. -/
def record (log : EventLog) (event : Event) : EventLog where
  entries := log.entries.push event
  positions := log.positions.note event.target log.entries.size
  indexed := by
    simp [log.indexed, Positions.index, Positions.noteAll, List.zipIdx_append]

/-- The newest event of an object. -/
def latest? (log : EventLog) (target : Object) : Option Event := do
  log.entries[← (log.positions.of target).head?]?

/-- The events of an object, the newest first. -/
def forTarget (log : EventLog) (target : Object) : List Event :=
  (log.positions.of target).filterMap (log.entries[·]?)

end EventLog

/-!
## The live feed

Each change is announced to whoever listens, together with the holders who were allowed to watch
its target when it was made. The feed keeps the newest notices; a listener who falls further behind
misses the rest and is told how many.
-/

/-- An announced event, with the holders who may see it. -/
structure Notice where
  event : Event
  watchers : ExtTreeSet Holder

/-- The principal may see the notice. -/
def Notice.visibleTo (notice : Notice) (principal : Principal) : Bool :=
  principal.superuser || principal.holders.any notice.watchers.contains

/-- The notices announced so far: their number, and the newest of them, newest first. -/
structure Feed where
  sent : Nat
  recent : List Notice

/-- A place in a feed: how many notices a listener is done with. -/
structure Cursor where
  position : Nat

/-- What waits for a listener: the number of notices missed, and the others in order. -/
structure Waiting where
  missed : Nat
  notices : List Notice

namespace Feed

/-- The most notices kept. -/
def capacity : Nat := 128

/-- No notices. -/
def empty : Feed := ⟨0, []⟩

instance : EmptyCollection Feed := ⟨empty⟩

instance : Inhabited Feed := ⟨empty⟩

/-- Announces a notice. -/
def send (feed : Feed) (notice : Notice) : Feed :=
  ⟨feed.sent + 1, (notice :: feed.recent).take capacity⟩

/-- The place after all notices so far, where a new listener begins. -/
def subscribe (feed : Feed) : Cursor :=
  ⟨feed.sent⟩

/-- What waits for a listener. -/
def waiting (feed : Feed) (cursor : Cursor) : Waiting :=
  let behind := feed.sent - cursor.position
  ⟨behind - feed.recent.length, (feed.recent.take behind).reverse⟩

end Feed

end Tagging
