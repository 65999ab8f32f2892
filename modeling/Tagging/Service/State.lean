import Tagging.Access.Check
import Tagging.Audit.Event
import Tagging.Catalog.Basic

/-!
# The state

All that the service keeps: the catalog, the grants in force and the log of changes. What a request
takes from outside, new identifiers and the time, is handed to it as a stamp.
-/

namespace Tagging

/-- What the service keeps. -/
structure State where
  catalog : Catalog
  grants : GrantIndex
  events : EventLog

namespace State

/-- Nothing. -/
def empty : State := ⟨∅, ∅, ∅⟩

instance : EmptyCollection State := ⟨empty⟩

instance : Inhabited State := ⟨empty⟩

/-- The object exists. -/
def has (state : State) (object : Object) : Bool :=
  match object.kind with
  | .tag => (state.catalog.tag? object.id).isSome
  | .document => (state.catalog.document? object.id).isSome

end State

/-- What a request takes from outside: the identifiers that it may draw, in the order in which it
draws them, and the time. The clock is read anew for each use. A reading that is not given is the
first one. -/
structure Stamp where
  ids : Nat → Uuid
  /-- The time when a token is checked. -/
  now : Instant
  /-- The time when an object is created. -/
  created : Instant := now
  /-- The time when a change is recorded. -/
  recorded : Instant := now
  /-- The time when a statistic is computed. -/
  computed : Instant := now

namespace State

/-!
## What a principal may see

The questions that do not change anything. An object that the principal may not see is not found,
and lists leave it out.
-/

/-- Passes if the object exists and the principal may exercise the permission on it. -/
def authorize (state : State) (principal : Principal) (permission : Permission)
    (object : Object) : Except Error Unit :=
  if state.has object then state.grants.check principal permission (some object) .hide
  else .error .notFound

/-- Passes if the principal may exercise the permission on all objects. -/
def authorizeGlobal (state : State) (principal : Principal) (permission : Permission) :
    Except Error Unit :=
  state.grants.check principal permission none .forbid

/-- The tag, if the principal may exercise the permission on it. -/
def visibleTag (state : State) (principal : Principal) (permission : Permission) (id : Uuid) :
    Except Error Tag :=
  match state.catalog.tag? id with
  | none => .error .notFound
  | some tag => do
    state.grants.check principal permission (some (.tag id)) .hide
    .ok tag

/-- The document, if the principal may exercise the permission on it. -/
def visibleDocument (state : State) (principal : Principal) (permission : Permission)
    (id : Uuid) : Except Error Document :=
  match state.catalog.document? id with
  | none => .error .notFound
  | some document => do
    state.grants.check principal permission (some (.document id)) .hide
    .ok document

/-- Passes if both a document and a tag exist and the principal may exercise the permission on
each of them. -/
def checkPair (state : State) (principal : Principal) (permission : Permission)
    (document tag : Uuid) : Except Error Unit :=
  match state.catalog.document? document, state.catalog.tag? tag with
  | some _, some _ =>
    state.grants.checkAll principal .hide
      [(permission, .document document), (permission, .tag tag)]
  | _, _ => .error .notFound

/-- Those tags of a list that the principal may view. -/
def viewableTags (state : State) (principal : Principal) (tags : List Tag) : List Tag :=
  tags.filter fun tag ↦ state.grants.allows principal .tagView (some (.tag tag.id))

/-- Those documents of a list that the principal may view. -/
def viewableDocuments (state : State) (principal : Principal) (documents : List Document) :
    List Document :=
  documents.filter fun document ↦
    state.grants.allows principal .documentView (some (.document document.id))

/-- The tags that the principal may view. -/
def listTags (state : State) (principal : Principal) : List Tag :=
  state.viewableTags principal state.catalog.listTags

/-- A tag. -/
def getTag (state : State) (principal : Principal) (id : Uuid) : Except Error Tag :=
  state.visibleTag principal .tagView id

/-- The documents of a tag that the principal may view. -/
def tagDocuments (state : State) (principal : Principal) (tag : Uuid) :
    Except Error (List Document) := do
  let _ ← state.visibleTag principal .tagView tag
  .ok (state.viewableDocuments principal (state.catalog.tagDocuments tag))

/-- The documents that the principal may view. -/
def listDocuments (state : State) (principal : Principal) : List Document :=
  state.viewableDocuments principal state.catalog.listDocuments

/-- A document. -/
def getDocument (state : State) (principal : Principal) (id : Uuid) : Except Error Document :=
  state.visibleDocument principal .documentView id

/-- The tags of a document that the principal may view, who must be allowed to view tags on the
document as well. -/
def documentTags (state : State) (principal : Principal) (document : Uuid) :
    Except Error (List Tag) := do
  let _ ← state.visibleDocument principal .tagView document
  .ok (state.viewableTags principal (state.catalog.documentTags document))

/-- A tag of a document. -/
def documentTag (state : State) (principal : Principal) (document tag : Uuid) :
    Except Error Tag := do
  state.checkPair principal .tagView document tag
  if state.catalog.isAttached tag document then
    match state.catalog.tag? tag with
    | some tag => .ok tag
    | none => .error .notFound
  else .error .notFound

/-- The grants on an object. -/
def grantsFor (state : State) (principal : Principal) (object : Object) :
    Except Error (List Grant) := do
  state.authorize principal .aclView object
  .ok (state.grants.forObject (some object))

/-- The events of an object, the newest first. They outlive the object, so that only the permission
is asked for. -/
def eventsFor (state : State) (principal : Principal) (object : Object) :
    Except Error (List Event) := do
  state.grants.check principal .eventsView (some object) .hide
  .ok (state.events.forTarget object)

/-- The newest event of an object. -/
def latestEvent (state : State) (principal : Principal) (object : Object) :
    Except Error Event := do
  state.grants.check principal .eventsView (some object) .hide
  match state.events.latest? object with
  | some event => .ok event
  | none => .error .notFound

end State

end Tagging
