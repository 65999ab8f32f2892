import Tagging.Error
import Tagging.Order
import Tagging.Text.Basic
import Tagging.Uuid

/-!
# Grants

A grant gives a holder a permission, on one object or on all of them. Here are holders, objects and
permissions, each with an order, and then the grants.
-/

namespace Tagging

/-!
## Holders of permissions

Permissions are granted to users and to roles. The two have separate names: a user never holds what
was granted to a role that is called the same.
-/

/-- Whom a grant names. -/
inductive Holder where
  | user (name : String)
  | role (name : String)
  deriving DecidableEq, Repr

namespace Holder

/-- The name of a user or role. -/
def name : Holder → String
  | user name => name
  | role name => name

/-- Users come before roles. -/
def rank : Holder → Nat
  | user _ => 0
  | role _ => 1

private theorem eq_of_parts {a b : Holder} (rank : a.rank = b.rank) (name : a.name = b.name) :
    a = b := by
  cases a <;> cases b <;> simp_all [Holder.rank, Holder.name]

/-- Users come before roles, and each are ordered by name. -/
instance : Ord Holder := ⟨compareLex (compareOn rank) (compareOn name)⟩

instance : Std.TransOrd Holder :=
  inferInstanceAs (Std.TransCmp (compareLex (compareOn rank) (compareOn name)))

instance : Std.LawfulEqOrd Holder := lawfulEqCmp_compareLex rank name fun _ _ ↦ eq_of_parts

/-- The word for the kind of holder. -/
def kind : Holder → String
  | user _ => "user"
  | role _ => "role"

/-- The holder as its kind and name with a colon between them. -/
def toString (holder : Holder) : String :=
  holder.kind ++ ":" ++ holder.name

instance : ToString Holder := ⟨toString⟩

end Holder

/-- Who asks for an operation. -/
structure Principal where
  user : String
  roles : List String
  /-- A superuser passes every check. -/
  superuser : Bool
  deriving DecidableEq, Repr

/-- The holders whose grants count for a principal: the user and each role, in order. -/
def Principal.holders (principal : Principal) : List Holder :=
  .user principal.user :: principal.roles.map .role

/-!
## Objects

What permissions can be granted on and what events are about: tags and documents.
-/

/-- The kinds of object. -/
inductive Kind where
  | tag
  | document
  deriving DecidableEq, Repr

namespace Kind

/-- The place in the order of kinds. -/
def rank : Kind → Nat
  | tag => 0
  | document => 1

private theorem rank_inj {a b : Kind} (h : a.rank = b.rank) : a = b := by
  revert h; cases a <;> cases b <;> decide

/-- Tags come before documents. -/
instance : Ord Kind := ⟨compareOn rank⟩

instance : Std.TransOrd Kind := inferInstanceAs (Std.TransCmp (compareOn rank))

instance : Std.LawfulEqOrd Kind := lawfulEqCmp_compareOn rank fun _ _ ↦ rank_inj

/-- The name of a kind. -/
def name : Kind → String
  | tag => "tag"
  | document => "document"

/-- The kind with a given name. -/
def ofName? (name : String) : Option Kind :=
  [tag, document].find? (·.name = name)

/-- The kind that a word denotes: its name or the plural of it. -/
def parse (word : String) : Except Error Kind :=
  if word = "tag" ∨ word = "tags" then .ok tag
  else if word = "document" ∨ word = "documents" then .ok document
  else .error (.validation (.unknownKind word))

end Kind

/-- A tag or a document, by its identifier. -/
structure Object where
  kind : Kind
  id : Uuid
  deriving DecidableEq

namespace Object

/-- The tag with a given identifier. -/
def tag (id : Uuid) : Object := ⟨.tag, id⟩

/-- The document with a given identifier. -/
def document (id : Uuid) : Object := ⟨.document, id⟩

private theorem eq_of_parts {a b : Object} (kind : a.kind = b.kind) (id : a.id = b.id) : a = b := by
  cases a; cases b; cases kind; cases id; rfl

/-- Objects are ordered by kind, then by identifier. -/
instance : Ord Object := ⟨compareLex (compareOn kind) (compareOn id)⟩

instance : Std.TransOrd Object :=
  inferInstanceAs (Std.TransCmp (compareLex (compareOn kind) (compareOn id)))

instance : Std.LawfulEqOrd Object := lawfulEqCmp_compareLex kind id fun _ _ ↦ eq_of_parts

/-- The object as a kind and an identifier with a colon between them. -/
def toString (object : Object) : String :=
  object.kind.name ++ ":" ++ object.id.toString

instance : ToString Object := ⟨toString⟩

end Object

/-!
## Permissions

The registry of what may be allowed to someone. It is closed, and its order is the order in which
grants are listed.
-/

/-- What may be allowed to someone. -/
inductive Permission where
  | tagCreate
  | tagDelete
  | tagEdit
  | tagView
  | tagAttach
  | tagRemove
  | documentCreate
  | documentDelete
  | documentView
  | aclView
  | aclEdit
  | eventsView
  | statisticsView
  deriving DecidableEq, Repr

namespace Permission

/-- Every permission, in the order of the registry. -/
def all : List Permission :=
  [tagCreate, tagDelete, tagEdit, tagView, tagAttach, tagRemove, documentCreate, documentDelete,
    documentView, aclView, aclEdit, eventsView, statisticsView]

/-- The place in the registry. -/
def rank (permission : Permission) : Nat :=
  all.idxOf permission

private theorem rank_inj {a b : Permission} (h : a.rank = b.rank) : a = b := by
  revert h; cases a <;> cases b <;> decide

/-- Permissions are ordered as in the registry. -/
instance : Ord Permission := ⟨compareOn rank⟩

instance : Std.TransOrd Permission := inferInstanceAs (Std.TransCmp (compareOn rank))

instance : Std.LawfulEqOrd Permission := lawfulEqCmp_compareOn rank fun _ _ ↦ rank_inj

/-- The name by which grants refer to a permission. -/
def name : Permission → String
  | tagCreate => "tag_create"
  | tagDelete => "tag_delete"
  | tagEdit => "tag_edit"
  | tagView => "tag_view"
  | tagAttach => "tag_attach"
  | tagRemove => "tag_remove"
  | documentCreate => "document_create"
  | documentDelete => "document_delete"
  | documentView => "document_view"
  | aclView => "acl_view"
  | aclEdit => "acl_edit"
  | eventsView => "events_view"
  | statisticsView => "statistics_view"

/-- The label shown to people. -/
def label : Permission → String
  | tagCreate => "Create new tags"
  | tagDelete => "Delete tags"
  | tagEdit => "Edit tags"
  | tagView => "View tags"
  | tagAttach => "Attach tags to documents"
  | tagRemove => "Remove tags from documents"
  | documentCreate => "Create documents"
  | documentDelete => "Delete documents"
  | documentView => "View documents"
  | aclView => "View access control lists"
  | aclEdit => "Edit access control lists"
  | eventsView => "Access the events of an object"
  | statisticsView => "View statistics"

/-- The permission with a given name. -/
def ofName? (name : String) : Option Permission :=
  all.find? (·.name = name)

end Permission

/-!
## Rights and grants

The grants that are installed at the start are configured as texts such as
`role:editors:tag_create`.
-/

/-- A holder together with a permission. -/
structure Right where
  holder : Holder
  permission : Permission
  deriving DecidableEq, Repr

namespace Right

private theorem eq_of_parts {a b : Right} (holder : a.holder = b.holder)
    (permission : a.permission = b.permission) : a = b := by
  cases a; cases b; cases holder; cases permission; rfl

/-- Rights are ordered by holder, then by permission. -/
instance : Ord Right := ⟨compareLex (compareOn holder) (compareOn permission)⟩

instance : Std.TransOrd Right :=
  inferInstanceAs (Std.TransCmp (compareLex (compareOn holder) (compareOn permission)))

instance : Std.LawfulEqOrd Right :=
  lawfulEqCmp_compareLex holder permission fun _ _ ↦ eq_of_parts

end Right

/-- A permission given to a holder, on one object or, without one, on all. -/
structure Grant where
  holder : Holder
  permission : Permission
  object : Option Object
  deriving DecidableEq

namespace Grant

/-- What the grant gives, wherever it gives it. -/
def right (grant : Grant) : Right :=
  ⟨grant.holder, grant.permission⟩

/-- A right given on one object or on all. -/
def ofRight (object : Option Object) (right : Right) : Grant :=
  ⟨right.holder, right.permission, object⟩

theorem eq_of_right {a b : Grant} (right : a.right = b.right) (object : a.object = b.object) :
    a = b := by
  cases a; cases b; cases right; cases object; rfl

/-- Grants are ordered by right, then by object. -/
instance : Ord Grant := ⟨compareLex (compareOn right) (compareOn object)⟩

instance : Std.TransOrd Grant :=
  inferInstanceAs (Std.TransCmp (compareLex (compareOn right) (compareOn object)))

instance : Std.LawfulEqOrd Grant :=
  lawfulEqCmp_compareLex right object fun _ _ ↦ eq_of_right

/-- The holder of a kind that a word names. -/
def holder? (kind : List Char) (name : String) : Option Holder :=
  if kind = "user".toList then some (.user name)
  else if kind = "role".toList then some (.role name)
  else none

/-- The global grant that a text denotes: the kind of holder, its name and a permission, with
colons between them. White space around a part does not count, and a name may hold colons. -/
def parse (text : String) : Except Error Grant :=
  match Text.splitLast? ':' text.toList with
  | none => .error (.validation (.badGrant text))
  | some (before, permission) =>
    match Text.splitFirst? ':' before with
    | none => .error (.validation (.badGrant text))
    | some (kind, name) =>
      if Text.trim name = [] then .error (.validation .emptyHolder)
      else match holder? (Text.trim kind) (String.ofList (Text.trim name)) with
        | none => .error (.validation (.badGrant text))
        | some holder =>
          let word := String.ofList (Text.trim permission)
          match Permission.ofName? word with
          | none => .error (.validation (.unknownPermission word))
          | some permission => .ok ⟨holder, permission, none⟩

end Grant

end Tagging
