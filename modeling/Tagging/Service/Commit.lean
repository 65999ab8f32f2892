import Tagging.Audit.Event
import Tagging.Service.Disk

/-!
# Changes

Every change goes the same way: it is made, its event is recorded, the state is saved, and the
event is announced. With a disk the state before the change is kept until the save has succeeded,
and comes back if anything fails; without one, a change that fails must itself leave the state as
it was.
-/

namespace Tagging

/-- The service: its state, the disk it is saved on, if any, and the feed of its events. -/
structure Service where
  state : State
  disk : Option Disk
  feed : Feed

instance : Inhabited Service := ⟨⟨∅, none, ∅⟩⟩

/-- What a change asks to be recorded. -/
structure Change where
  verb : Verb
  target : Object
  actionObject : Option Object
  /-- The grants on the target go with it. -/
  purges : Bool
  /-- The identifiers that the change has drawn. -/
  drawn : Nat

namespace Change

/-- A change to an object. -/
def of (verb : Verb) (target : Object) : Change :=
  ⟨verb, target, none, false, 0⟩

/-- The creation of an object, which draws its identifier. -/
def creation (verb : Verb) (target : Object) : Change :=
  ⟨verb, target, none, false, 1⟩

/-- The deletion of an object, whose grants go with it. -/
def deletion (verb : Verb) (target : Object) : Change :=
  ⟨verb, target, none, true, 0⟩

/-- A change to an object in which a second one takes part. -/
def between (verb : Verb) (target second : Object) : Change :=
  ⟨verb, target, some second, false, 0⟩

end Change

/-- What an operation yields, the service after it, and how many identifiers it has drawn. -/
structure Outcome (α : Type) where
  result : Except Error α
  service : Service
  drawn : Nat

namespace Service

/-- A service that keeps nothing on disk. -/
def inMemory : Service := ⟨∅, none, ∅⟩

/-- A service with the state saved on a disk. -/
def ofDisk (disk : Disk) : Except Error Service := do
  .ok ⟨← disk.load, some disk, ∅⟩

/-- Saves the state, if there is a disk. -/
def flush (service : Service) : Except Error Service :=
  match service.disk with
  | none => .ok service
  | some disk => do .ok { service with disk := some (← disk.save service.state) }

/-- The service after a change has failed and left a state behind. -/
def recover (service : Service) (left : State) : Service :=
  match service.disk with
  | some _ => service
  | none => { service with state := left }

/-- An operation that is refused before it changes anything. -/
def refuse {α : Type} (service : Service) (error : Error) : Outcome α :=
  ⟨.error error, service, 0⟩

/-- The event that records a change. -/
def eventOf (stamp : Stamp) (actor : Principal) (change : Change) : Event where
  id := stamp.ids change.drawn
  verb := change.verb
  actor := actor.user
  target := change.target
  actionObject := change.actionObject
  timestamp := stamp.recorded

/-- The state once a change has been recorded. -/
def recorded (state : State) (change : Change) (event : Event) : State where
  catalog := state.catalog
  grants := if change.purges then (state.grants.purge change.target).2 else state.grants
  events := state.events.record event

/-- Makes a change, records it, saves the state and announces the event. Who may watch is settled
before the grants of a deleted object go. -/
def commit {α : Type} (service : Service) (stamp : Stamp) (actor : Principal)
    (change : State → Except Error (α × Change) × State) : Outcome α :=
  match change service.state with
  | (.error error, left) => ⟨.error error, service.recover left, 0⟩
  | (.ok (value, change), changed) =>
    let event := eventOf stamp actor change
    let state := recorded changed change event
    match flush { service with state } with
    | .error error => ⟨.error error, service.recover state, change.drawn + 1⟩
    | .ok saved =>
      let watchers := changed.grants.holdersOf .eventsView change.target
      ⟨.ok value, { saved with feed := saved.feed.send ⟨event, watchers⟩ }, change.drawn + 1⟩

end Service

end Tagging
