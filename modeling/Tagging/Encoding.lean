import Tagging.Access.GrantIndex
import Tagging.Audit.Event
import Tagging.Catalog.Basic
import Tagging.Json.Basic
import Tagging.Json.Decoder
import Tagging.Time.Timestamp
import Tagging.Uuid

/-!
# Written forms

How all that is kept is written as JSON and read back.
-/

namespace Tagging

/-!
## Identifiers and instants in JSON

Both are texts.
-/

/-- An identifier as a value to write. -/
def Uuid.toJson (id : Uuid) : Json :=
  .text id.toString

/-- Reads an identifier. -/
def Uuid.decoder : Json.Decoder Uuid :=
  Json.Decoder.parsed ofString?

/-- An instant as a value to write. -/
def Instant.toJson (instant : Instant) : Json :=
  .text (Time.timestamp instant)

/-- Reads an instant. -/
def Instant.decoder : Json.Decoder Instant :=
  Json.Decoder.parsed Time.ofTimestamp?

/-!
## Grants in JSON

Names stand for permissions and kinds; an object is its kind and identifier, and a holder an object
whose only key says whether it is a user or a role. An index is written as the list of its grants.
-/

/-- A permission as a value to write. -/
def Permission.toJson (permission : Permission) : Json :=
  .text permission.name

/-- Reads a permission. -/
def Permission.decoder : Json.Decoder Permission :=
  Json.Decoder.named ofName?

/-- A kind as a value to write. -/
def Kind.toJson (kind : Kind) : Json :=
  .text kind.name

/-- Reads a kind. -/
def Kind.decoder : Json.Decoder Kind :=
  Json.Decoder.named ofName?

/-- An object as a value to write. -/
def Object.toJson (object : Object) : Json :=
  .object [("kind", object.kind.toJson), ("id", object.id.toJson)]

/-- The fields of an object as they are read. -/
structure Object.Form where
  kind : Option Kind
  id : Option Uuid

/-- How an object is read. -/
def Object.schema : Json.Schema Object.Form Object where
  empty := ⟨none, none⟩
  slots := [
    Json.slot "kind" (·.kind) (fun form value ↦ { form with kind := some value })
      Kind.decoder false,
    Json.slot "id" (·.id) (fun form value ↦ { form with id := some value })
      Uuid.decoder false]
  finish form := do some ⟨← form.kind, ← form.id⟩

/-- Reads an object. -/
def Object.decoder : Json.Decoder Object :=
  schema.decode

/-- An object that may be absent as a value to write. -/
def Object.optionToJson : Option Object → Json
  | some object => object.toJson
  | none => .null

/-- A holder as a value to write. -/
def Holder.toJson (holder : Holder) : Json :=
  .object [(holder.kind, .text holder.name)]

/-- Reads a holder. -/
def Holder.decoder : Json.Decoder Holder :=
  Json.Decoder.choice (fun _ ↦ none) fun kind ↦
    if kind = "user" then some fun draft ↦ do .ok (.user (← Json.Decoder.text draft))
    else if kind = "role" then some fun draft ↦ do .ok (.role (← Json.Decoder.text draft))
    else none

/-- A grant as a value to write. -/
def Grant.toJson (grant : Grant) : Json :=
  .object [("holder", grant.holder.toJson), ("permission", grant.permission.toJson),
    ("object", Object.optionToJson grant.object)]

/-- The fields of a grant as they are read. -/
structure Grant.Form where
  holder : Option Holder
  permission : Option Permission
  object : Option (Option Object)

/-- How a grant is read. Without an object it is on all objects. -/
def Grant.schema : Json.Schema Grant.Form Grant where
  empty := ⟨none, none, none⟩
  slots := [
    Json.slot "holder" (·.holder) (fun form value ↦ { form with holder := some value })
      Holder.decoder false,
    Json.slot "permission" (·.permission) (fun form value ↦ { form with permission := some value })
      Permission.decoder false,
    Json.slot "object" (·.object) (fun form value ↦ { form with object := some value })
      (Json.Decoder.optional Object.decoder) true]
  finish form := do some ⟨← form.holder, ← form.permission, form.object.join⟩

/-- Reads a grant. -/
def Grant.decoder : Json.Decoder Grant :=
  schema.decode

/-- The grants in force as a value to write. -/
def GrantIndex.toJson (index : GrantIndex) : Json :=
  .list (index.toList.map Grant.toJson)

/-- Reads the grants in force from a list of grants. -/
def GrantIndex.decoder : Json.Decoder GrantIndex := fun draft ↦ do
  .ok (ofList (← Json.Decoder.listOf Grant.decoder draft))

/-!
## Events in JSON

A log is written as the list of its events; the index is made anew when it is read.
-/

/-- A verb as a value to write. -/
def Verb.toJson (verb : Verb) : Json :=
  .text verb.name

/-- Reads a verb. -/
def Verb.decoder : Json.Decoder Verb :=
  Json.Decoder.named ofName?

/-- An event as a value to write. -/
def Event.toJson (event : Event) : Json :=
  .object [("id", event.id.toJson), ("verb", event.verb.toJson), ("actor", .text event.actor),
    ("target", event.target.toJson), ("action_object", Object.optionToJson event.actionObject),
    ("timestamp", event.timestamp.toJson)]

/-- The fields of an event as they are read. -/
structure Event.Form where
  id : Option Uuid
  verb : Option Verb
  actor : Option String
  target : Option Object
  actionObject : Option (Option Object)
  timestamp : Option Instant

/-- How an event is read. -/
def Event.schema : Json.Schema Event.Form Event where
  empty := ⟨none, none, none, none, none, none⟩
  slots := [
    Json.slot "id" (·.id) (fun form value ↦ { form with id := some value }) Uuid.decoder false,
    Json.slot "verb" (·.verb) (fun form value ↦ { form with verb := some value })
      Verb.decoder false,
    Json.slot "actor" (·.actor) (fun form value ↦ { form with actor := some value })
      Json.Decoder.text false,
    Json.slot "target" (·.target) (fun form value ↦ { form with target := some value })
      Object.decoder false,
    Json.slot "action_object" (·.actionObject)
      (fun form value ↦ { form with actionObject := some value })
      (Json.Decoder.optional Object.decoder) true,
    Json.slot "timestamp" (·.timestamp) (fun form value ↦ { form with timestamp := some value })
      Instant.decoder false]
  finish form := do
    some ⟨← form.id, ← form.verb, ← form.actor, ← form.target, form.actionObject.join,
      ← form.timestamp⟩

/-- Reads an event. -/
def Event.decoder : Json.Decoder Event :=
  schema.decode

/-- A log as a value to write. -/
def EventLog.toJson (log : EventLog) : Json :=
  .list (log.toList.map Event.toJson)

/-- Reads a log. -/
def EventLog.decoder : Json.Decoder EventLog := fun draft ↦ do
  .ok (ofList (← Json.Decoder.listOf Event.decoder draft))

/-!
## The catalog in JSON

Tags and documents are objects; the catalog has one object of each, with identifiers as keys. When
a key is repeated, the last record under it counts.
-/

open Std (ExtTreeMap ExtTreeSet)

/-- A tag as a value to write. -/
def Tag.toJson (tag : Tag) : Json :=
  .object [("id", tag.id.toJson), ("label", .text tag.label), ("color", .text tag.color),
    ("created_at", tag.createdAt.toJson),
    ("documents", .list (tag.documents.toList.map Uuid.toJson))]

/-- The fields of a tag as they are read. -/
structure Tag.Form where
  id : Option Uuid
  label : Option String
  color : Option String
  createdAt : Option Instant
  documents : Option (List Uuid)

/-- How a tag is read. Without documents it is attached to none. -/
def Tag.schema : Json.Schema Tag.Form Tag where
  empty := ⟨none, none, none, none, none⟩
  slots := [
    Json.slot "id" (·.id) (fun form value ↦ { form with id := some value }) Uuid.decoder false,
    Json.slot "label" (·.label) (fun form value ↦ { form with label := some value })
      Json.Decoder.text false,
    Json.slot "color" (·.color) (fun form value ↦ { form with color := some value })
      Json.Decoder.text false,
    Json.slot "created_at" (·.createdAt) (fun form value ↦ { form with createdAt := some value })
      Instant.decoder false,
    Json.slot "documents" (·.documents) (fun form value ↦ { form with documents := some value })
      (Json.Decoder.listOf Uuid.decoder) true]
  finish form := do
    some ⟨← form.id, ← form.label, ← form.color, ← form.createdAt,
      ExtTreeSet.ofList (form.documents.getD [])⟩

/-- Reads a tag. -/
def Tag.decoder : Json.Decoder Tag :=
  schema.decode

/-- A document as a value to write. -/
def Document.toJson (document : Document) : Json :=
  .object [("id", document.id.toJson), ("label", .text document.label),
    ("created_at", document.createdAt.toJson)]

/-- The fields of a document as they are read. -/
structure Document.Form where
  id : Option Uuid
  label : Option String
  createdAt : Option Instant

/-- How a document is read. -/
def Document.schema : Json.Schema Document.Form Document where
  empty := ⟨none, none, none⟩
  slots := [
    Json.slot "id" (·.id) (fun form value ↦ { form with id := some value }) Uuid.decoder false,
    Json.slot "label" (·.label) (fun form value ↦ { form with label := some value })
      Json.Decoder.text false,
    Json.slot "created_at" (·.createdAt) (fun form value ↦ { form with createdAt := some value })
      Instant.decoder false]
  finish form := do some ⟨← form.id, ← form.label, ← form.createdAt⟩

/-- Reads a document. -/
def Document.decoder : Json.Decoder Document :=
  schema.decode

/-- The fields of a patch as they are read. -/
structure TagPatch.Form where
  label : Option (Option String)
  color : Option (Option String)

/-- How a patch is read. In an object either field may be missing, in a list neither. -/
def TagPatch.schema : Json.Schema TagPatch.Form TagPatch where
  empty := ⟨none, none⟩
  slots := [
    Json.slot "label" (·.label) (fun form value ↦ { form with label := some value })
      (Json.Decoder.optional Json.Decoder.text) false,
    Json.slot "color" (·.color) (fun form value ↦ { form with color := some value })
      (Json.Decoder.optional Json.Decoder.text) false]
  finish form := some ⟨form.label.join, form.color.join⟩

/-- Reads a patch. -/
def TagPatch.decoder : Json.Decoder TagPatch :=
  schema.decode

/-- The catalog as a value to write. -/
def Catalog.toJson (catalog : Catalog) : Json :=
  .object [
    ("tags", .object (catalog.tags.toList.map fun entry ↦ (entry.1.toString, entry.2.toJson))),
    ("documents",
      .object (catalog.documents.toList.map fun entry ↦ (entry.1.toString, entry.2.toJson)))]

/-- The two parts of a catalog as they are read. -/
structure Catalog.Form where
  tags : Option (List (Uuid × Tag))
  documents : Option (List (Uuid × Document))

/-- How a catalog is read. -/
def Catalog.schema : Json.Schema Catalog.Form Catalog where
  empty := ⟨none, none⟩
  slots := [
    Json.slot "tags" (·.tags) (fun form value ↦ { form with tags := some value })
      (Json.Decoder.mapOf Uuid.ofString? Tag.decoder) false,
    Json.slot "documents" (·.documents) (fun form value ↦ { form with documents := some value })
      (Json.Decoder.mapOf Uuid.ofString? Document.decoder) false]
  finish form := do
    some ⟨ExtTreeMap.ofList (← form.tags), ExtTreeMap.ofList (← form.documents)⟩

/-- Reads a catalog. -/
def Catalog.decoder : Json.Decoder Catalog :=
  schema.decode

end Tagging
