import Tagging.Service.Commit
import Tagging.Service.State

/-!
# Changes to tags and documents

Each asks for its permission first. An attachment needs the permission on the document and on the
tag.
-/

namespace Tagging.Service

/-- The state with another catalog, and what a change to the catalog yields with the event that it
asks for. -/
def inCatalog {α : Type} (state : State) (change : Except Error α × Catalog)
    (event : α → Change) : Except Error (α × Change) × State :=
  let left := { state with catalog := change.2 }
  match change.1 with
  | .ok value => (.ok (value, event value), left)
  | .error error => (.error error, left)

/-- A change to the catalog of which only the success is told. -/
def untold {α : Type} (change : Except Error α × Catalog) : Except Error Unit × Catalog :=
  (change.1.map fun _ ↦ (), change.2)

/-- Creates a tag. -/
def createTag (service : Service) (stamp : Stamp) (actor : Principal) (label : String)
    (color : Option String) : Outcome Tag :=
  match service.state.authorizeGlobal actor .tagCreate with
  | .error error => service.refuse error
  | .ok () => service.commit stamp actor fun state ↦
    inCatalog state (state.catalog.createTag (stamp.ids 0) stamp.created label color)
      fun tag ↦ .creation .tagCreated (.tag tag.id)

/-- Gives a tag a new label, which must be there, and a new colour. -/
def replaceTag (service : Service) (stamp : Stamp) (actor : Principal) (id : Uuid)
    (label color : Option String) : Outcome Tag :=
  match service.state.visibleTag actor .tagEdit id, label with
  | .error error, _ => service.refuse error
  | .ok _, none => service.refuse (.validation .labelMissing)
  | .ok _, some label => service.commit stamp actor fun state ↦
    inCatalog state (state.catalog.replaceTag id label color)
      fun _ ↦ .of .tagEdited (.tag id)

/-- Changes the given fields of a tag. -/
def updateTag (service : Service) (stamp : Stamp) (actor : Principal) (id : Uuid)
    (patch : TagPatch) : Outcome Tag :=
  match service.state.visibleTag actor .tagEdit id with
  | .error error => service.refuse error
  | .ok _ => service.commit stamp actor fun state ↦
    inCatalog state (state.catalog.updateTag id patch) fun _ ↦ .of .tagEdited (.tag id)

/-- Deletes a tag. -/
def deleteTag (service : Service) (stamp : Stamp) (actor : Principal) (id : Uuid) :
    Outcome Unit :=
  match service.state.visibleTag actor .tagDelete id with
  | .error error => service.refuse error
  | .ok _ => service.commit stamp actor fun state ↦
    inCatalog state (untold (state.catalog.deleteTag id)) fun _ ↦ .deletion .tagDeleted (.tag id)

/-- Creates a document. -/
def createDocument (service : Service) (stamp : Stamp) (actor : Principal) (label : String) :
    Outcome Document :=
  match service.state.authorizeGlobal actor .documentCreate with
  | .error error => service.refuse error
  | .ok () => service.commit stamp actor fun state ↦
    inCatalog state (state.catalog.createDocument (stamp.ids 0) stamp.created label)
      fun document ↦ .creation .documentCreated (.document document.id)

/-- Deletes a document. -/
def deleteDocument (service : Service) (stamp : Stamp) (actor : Principal) (id : Uuid) :
    Outcome Unit :=
  match service.state.visibleDocument actor .documentDelete id with
  | .error error => service.refuse error
  | .ok _ => service.commit stamp actor fun state ↦
    inCatalog state (untold (state.catalog.deleteDocument id))
      fun _ ↦ .deletion .documentDeleted (.document id)

/-- The tag that has just been attached, with the change made to the catalog. -/
def attached (tag : Uuid) : Except Error Bool × Catalog → Except Error Tag × Catalog
  | (.error error, catalog) => (.error error, catalog)
  | (.ok _, catalog) =>
    match catalog.tag? tag with
    | some record => (.ok record, catalog)
    | none => (.error .notFound, catalog)

/-- Attaches a tag to a document. To attach it again changes nothing, and is recorded too. -/
def attachTag (service : Service) (stamp : Stamp) (actor : Principal) (document tag : Uuid) :
    Outcome Tag :=
  match service.state.checkPair actor .tagAttach document tag with
  | .error error => service.refuse error
  | .ok () => service.commit stamp actor fun state ↦
    inCatalog state (attached tag (state.catalog.attach tag document))
      fun record ↦ .between .tagAttach (.tag record.id) (.document document)

/-- Detaches a tag from a document. -/
def removeTag (service : Service) (stamp : Stamp) (actor : Principal) (document tag : Uuid) :
    Outcome Unit :=
  match service.state.checkPair actor .tagRemove document tag with
  | .error error => service.refuse error
  | .ok () => service.commit stamp actor fun state ↦
    inCatalog state (state.catalog.remove tag document)
      fun _ ↦ .between .tagRemoved (.tag tag) (.document document)

end Tagging.Service
