import Tagging.Encoding
import Tagging.Service.State

/-!
# The disk

The state is kept between runs: as one text, in one place.
-/

namespace Tagging.State

/-!
## Snapshots

The whole state as one JSON text.
-/

/-- The state as a value to write. -/
def toJson (state : State) : Json :=
  .object [("store", state.catalog.toJson), ("grants", state.grants.toJson),
    ("events", state.events.toJson)]

/-- The three parts of a state as they are read. -/
structure Form where
  catalog : Option Catalog
  grants : Option GrantIndex
  events : Option EventLog

/-- How a state is read. -/
def schema : Json.Schema Form State where
  empty := ⟨none, none, none⟩
  slots := [
    Json.slot "store" (·.catalog) (fun form value ↦ { form with catalog := some value })
      Catalog.decoder false,
    Json.slot "grants" (·.grants) (fun form value ↦ { form with grants := some value })
      GrantIndex.decoder false,
    Json.slot "events" (·.events) (fun form value ↦ { form with events := some value })
      EventLog.decoder false]
  finish form := do some ⟨← form.catalog, ← form.grants, ← form.events⟩

/-- Reads a state. -/
def decoder : Json.Decoder State :=
  schema.decode

/-- The text of a snapshot. -/
def snapshot (state : State) : String :=
  state.toJson.render

/-- The state that a snapshot holds. -/
def ofSnapshot (text : String) : Except Json.Fault State :=
  Json.read decoder text

end Tagging.State

namespace Tagging

/-!
## A place for snapshots

The place where the newest snapshot is kept. While it is out of reach, neither opening nor saving
succeeds. A save that fails leaves the snapshot as it was.
-/

/-- A place for one snapshot. -/
structure Disk where
  snapshot : Option String
  reachable : Bool
  deriving DecidableEq

namespace Disk

/-- An empty place within reach. -/
def empty : Disk := ⟨none, true⟩

/-- The error when the place is out of reach. -/
def outOfReach : Error :=
  .io "the data directory is out of reach"

/-- The state that was saved last, or an empty one if none ever was. -/
def load (disk : Disk) : Except Error State :=
  if disk.reachable then
    match disk.snapshot with
    | none => .ok ∅
    | some text =>
      match State.ofSnapshot text with
      | .ok state => .ok state
      | .error fault => .error (.serialization fault)
  else .error outOfReach

/-- Replaces the snapshot by that of a state. -/
def save (disk : Disk) (state : State) : Except Error Disk :=
  if disk.reachable then .ok { disk with snapshot := some state.snapshot }
  else .error outOfReach

end Disk

end Tagging
