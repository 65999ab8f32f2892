import Tagging.Proofs.Access.Containment
import Tagging.Proofs.Audit.History
import Tagging.Proofs.Catalog.Confined
import Tagging.Service.Grants
import Tagging.Service.Statistic
import Tagging.Service.Tags

/-!
# Operations and commands

All that a principal may ask of the service, as values: queries, which change nothing, and the ten
changes. The grants that are configured are no command, since nobody asks for them. All changes go
the same way: an operation is approved or refused, makes its change to the state, and is committed.
That this is what the service does is `run_eq`; what is proved of operations is proved of these
parts.
-/

namespace Tagging

/-- The changes that a principal may ask for, with what they are given. -/
inductive Operation where
  | createTag (label : String) (color : Option String)
  | replaceTag (id : Uuid) (label color : Option String)
  | updateTag (id : Uuid) (patch : TagPatch)
  | deleteTag (id : Uuid)
  | createDocument (label : String)
  | deleteDocument (id : Uuid)
  | attachTag (document tag : Uuid)
  | removeTag (document tag : Uuid)
  | grant (given : Grant)
  | revoke (given : Grant)

namespace Operation

/-- What an operation yields. -/
def Value : Operation → Type
  | .createTag .. | .replaceTag .. | .updateTag .. | .attachTag .. => Tag
  | .createDocument .. => Document
  | .grant .. => Grant
  | .deleteTag .. | .deleteDocument .. | .removeTag .. | .revoke .. => Unit

/-- Runs an operation. -/
def run (service : Service) (stamp : Stamp) (actor : Principal) :
    (operation : Operation) → Outcome operation.Value
  | .createTag label color => service.createTag stamp actor label color
  | .replaceTag id label color => service.replaceTag stamp actor id label color
  | .updateTag id patch => service.updateTag stamp actor id patch
  | .deleteTag id => service.deleteTag stamp actor id
  | .createDocument label => service.createDocument stamp actor label
  | .deleteDocument id => service.deleteDocument stamp actor id
  | .attachTag document tag => service.attachTag stamp actor document tag
  | .removeTag document tag => service.removeTag stamp actor document tag
  | .grant given => service.grant stamp actor given
  | .revoke given => service.revoke stamp actor given

/-! ### What an operation is about -/

/-- The verb by which an operation is recorded. -/
def verb : Operation → Verb
  | .createTag .. => .tagCreated
  | .replaceTag .. | .updateTag .. => .tagEdited
  | .deleteTag .. => .tagDeleted
  | .createDocument .. => .documentCreated
  | .deleteDocument .. => .documentDeleted
  | .attachTag .. => .tagAttach
  | .removeTag .. => .tagRemoved
  | .grant .. => .aclGranted
  | .revoke .. => .aclRevoked

/-- The object that an operation is about. A creation is about the object with the identifier that
it draws, and a grant may fail to name one. -/
def target (stamp : Stamp) : Operation → Option Object
  | .createTag .. => some (.tag (stamp.ids 0))
  | .replaceTag id .. | .updateTag id .. | .deleteTag id => some (.tag id)
  | .createDocument .. => some (.document (stamp.ids 0))
  | .deleteDocument id => some (.document id)
  | .attachTag _ tag | .removeTag _ tag => some (.tag tag)
  | .grant given | .revoke given => given.object

/-- The second object that takes part in an operation: the document of an attachment. -/
def actionObject : Operation → Option Object
  | .attachTag document _ | .removeTag document _ => some (.document document)
  | _ => none

/-- The operation takes the grants on its object away with the object. -/
def purges : Operation → Bool
  | .deleteTag _ | .deleteDocument _ => true
  | _ => false

/-- The grants once an operation has made its change, before those of a deleted object go. -/
def regrant (index : GrantIndex) : Operation → GrantIndex
  | .grant given => (index.insert given).2
  | .revoke given => (index.erase given).2
  | _ => index

/-! ### The two parts of an operation -/

/-- Passes if the actor may carry out the operation and nothing is missing that it is to be given.
-/
def approve (state : State) (actor : Principal) : Operation → Except Error Unit
  | .createTag .. => state.authorizeGlobal actor .tagCreate
  | .replaceTag id label _ => do
    let _ ← state.visibleTag actor .tagEdit id
    if label.isSome then .ok () else .error (.validation .labelMissing)
  | .updateTag id _ => do
    let _ ← state.visibleTag actor .tagEdit id
    .ok ()
  | .deleteTag id => do
    let _ ← state.visibleTag actor .tagDelete id
    .ok ()
  | .createDocument _ => state.authorizeGlobal actor .documentCreate
  | .deleteDocument id => do
    let _ ← state.visibleDocument actor .documentDelete id
    .ok ()
  | .attachTag document tag => state.checkPair actor .tagAttach document tag
  | .removeTag document tag => state.checkPair actor .tagRemove document tag
  | .grant given =>
    match given.object with
    | none => .error (.validation .objectMissing)
    | some object => do
      state.authorize actor .aclEdit object
      if Text.trim given.holder.name.toList = [] then .error (.validation .emptyHolder) else .ok ()
  | .revoke given =>
    match given.object with
    | none => .error (.validation .objectMissing)
    | some object => state.authorize actor .aclEdit object

/-- The change that an operation makes to the state, with what it yields and asks to be recorded. -/
def change (stamp : Stamp) (state : State) :
    (operation : Operation) → Except Error (operation.Value × Change) × State
  | .createTag label color =>
    Service.inCatalog state (state.catalog.createTag (stamp.ids 0) stamp.created label color)
      fun tag ↦ .creation .tagCreated (.tag tag.id)
  | .replaceTag id label color =>
    Service.inCatalog state (state.catalog.replaceTag id (label.getD "") color)
      fun _ ↦ .of .tagEdited (.tag id)
  | .updateTag id patch =>
    Service.inCatalog state (state.catalog.updateTag id patch) fun _ ↦ .of .tagEdited (.tag id)
  | .deleteTag id =>
    Service.inCatalog state (Service.untold (state.catalog.deleteTag id))
      fun _ ↦ .deletion .tagDeleted (.tag id)
  | .createDocument label =>
    Service.inCatalog state (state.catalog.createDocument (stamp.ids 0) stamp.created label)
      fun document ↦ .creation .documentCreated (.document document.id)
  | .deleteDocument id =>
    Service.inCatalog state (Service.untold (state.catalog.deleteDocument id))
      fun _ ↦ .deletion .documentDeleted (.document id)
  | .attachTag document tag =>
    Service.inCatalog state (Service.attached tag (state.catalog.attach tag document))
      fun record ↦ .between .tagAttach (.tag record.id) (.document document)
  | .removeTag document tag =>
    Service.inCatalog state (state.catalog.remove tag document)
      fun _ ↦ .between .tagRemoved (.tag tag) (.document document)
  | .grant given =>
    match given.object with
    | none => (.error (.validation .objectMissing), state)
    | some object =>
      (.ok (given, .of .aclGranted object),
        { state with grants := (state.grants.insert given).2 })
  | .revoke given =>
    match given.object with
    | none => (.error (.validation .objectMissing), state)
    | some object =>
      let left := { state with grants := (state.grants.erase given).2 }
      if (state.grants.erase given).1 then (.ok ((), .of .aclRevoked object), left)
      else (.error .notFound, left)

/-- An operation is approved, and then its change is committed. -/
theorem run_eq (service : Service) (stamp : Stamp) (actor : Principal) (operation : Operation) :
    operation.run service stamp actor =
      match operation.approve service.state actor with
      | .error error => service.refuse error
      | .ok () => service.commit stamp actor fun state ↦ operation.change stamp state := by
  cases operation with
  | createTag label color => rfl
  | replaceTag id label color =>
    simp only [run, Service.replaceTag, approve]
    cases service.state.visibleTag actor .tagEdit id with
    | error error => rfl
    | ok tag => cases label <;> rfl
  | updateTag id patch =>
    simp only [run, Service.updateTag, approve]
    cases service.state.visibleTag actor .tagEdit id <;> rfl
  | deleteTag id =>
    simp only [run, Service.deleteTag, approve]
    cases service.state.visibleTag actor .tagDelete id <;> rfl
  | createDocument label => rfl
  | deleteDocument id =>
    simp only [run, Service.deleteDocument, approve]
    cases service.state.visibleDocument actor .documentDelete id <;> rfl
  | attachTag document tag => rfl
  | removeTag document tag => rfl
  | grant given =>
    obtain ⟨holder, permission, object⟩ := given
    cases object with
    | none => rfl
    | some object =>
      simp only [run, Service.grant, approve]
      cases service.state.authorize actor .aclEdit object with
      | error error => rfl
      | ok _ =>
        by_cases empty : Text.trim holder.name.toList = []
        · simp only [empty, if_true, bind, Except.bind]
          rfl
        · simp only [empty, if_false, bind, Except.bind]
          rfl
  | revoke given =>
    obtain ⟨holder, permission, object⟩ := given
    cases object with
    | none => rfl
    | some object => rfl

end Operation

/-! ### Queries and commands -/

/-- The questions that a principal may ask. -/
inductive Query where
  | listTags
  | getTag (id : Uuid)
  | tagDocuments (tag : Uuid)
  | listDocuments
  | getDocument (id : Uuid)
  | documentTags (document : Uuid)
  | documentTag (document tag : Uuid)
  | authorize (permission : Permission) (object : Object)
  | authorizeGlobal (permission : Permission)
  | grantsFor (object : Object)
  | eventsFor (object : Object)
  | latestEvent (object : Object)
  | statistics
  | statistic (slug : String)

namespace Query

/-- What a question is answered with. -/
def Value : Query → Type
  | .listTags | .documentTags .. => List Tag
  | .getTag .. | .documentTag .. => Tag
  | .listDocuments | .tagDocuments .. => List Document
  | .getDocument .. => Document
  | .authorize .. | .authorizeGlobal .. => Unit
  | .grantsFor .. => List Grant
  | .eventsFor .. => List Event
  | .latestEvent .. => Event
  | .statistics => List Statistic
  | .statistic .. => Report

/-- Answers a question. -/
def answer (state : State) (now : Instant) (principal : Principal) :
    (query : Query) → Except Error query.Value
  | .listTags => .ok (state.listTags principal)
  | .getTag id => state.getTag principal id
  | .tagDocuments tag => state.tagDocuments principal tag
  | .listDocuments => .ok (state.listDocuments principal)
  | .getDocument id => state.getDocument principal id
  | .documentTags document => state.documentTags principal document
  | .documentTag document tag => state.documentTag principal document tag
  | .authorize permission object => state.authorize principal permission object
  | .authorizeGlobal permission => state.authorizeGlobal principal permission
  | .grantsFor object => state.grantsFor principal object
  | .eventsFor object => state.eventsFor principal object
  | .latestEvent object => state.latestEvent principal object
  | .statistics => state.statistics principal
  | .statistic slug => state.statistic now principal slug

end Query

/-- All that a principal may ask for. -/
inductive Command where
  | ask (query : Query)
  | change (operation : Operation)

namespace Command

/-- What a command yields. -/
def Value : Command → Type
  | .ask query => query.Value
  | .change operation => operation.Value

/-- Carries out a command. A query leaves the service as it is. -/
def perform (service : Service) (stamp : Stamp) (principal : Principal) :
    (command : Command) → Outcome command.Value
  | .ask query => ⟨query.answer service.state stamp.computed principal, service, 0⟩
  | .change operation => operation.run service stamp principal

end Command

end Tagging
