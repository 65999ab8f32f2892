import Std.Data.ExtTreeMap
import Std.Data.ExtTreeSet
import Tagging.Error
import Tagging.Text.Basic
import Tagging.Time.Instant
import Tagging.Uuid

/-!
# The catalog

All tags and documents. Which document has which tag is kept with the tags; the tags of a document
are found by asking every tag. A change that fails leaves the catalog as it was.
-/

namespace Tagging

/-!
## Tags and documents

The records of the catalog, and which labels and colours they may have. A label or colour is taken
without the white space around it.
-/

open Std (ExtTreeMap ExtTreeSet)

/-- A tag, with the documents that it is attached to. -/
structure Tag where
  id : Uuid
  label : String
  color : String
  createdAt : Instant
  documents : ExtTreeSet Uuid
  deriving DecidableEq

/-- A document. -/
structure Document where
  id : Uuid
  label : String
  createdAt : Instant
  deriving DecidableEq

/-- A change to some fields of a tag. A field that is absent stays as it is. -/
structure TagPatch where
  label : Option String
  color : Option String
  deriving DecidableEq, Repr

/-- The colour of a tag for which none is given. -/
def defaultColor : String := "#000000"

/-- The label that a text gives: neither empty nor too long. -/
def validLabel (text : String) : Except Error String :=
  let label := Text.trim text.toList
  if label = [] then .error (.validation .emptyLabel)
  else if maxLabelLength < label.length then .error (.validation .longLabel)
  else .ok (String.ofList label)

/-- The characters are a hash sign and six digits in base sixteen. -/
def isColor : List Char → Bool
  | '#' :: digits => digits.length = 6 ∧ digits.all Text.isHexDigit
  | _ => false

/-- The colour that a text gives. -/
def validColor (text : String) : Except Error String :=
  let color := Text.trim text.toList
  if isColor color then .ok (String.ofList color)
  else .error (.validation (.badColor (String.ofList color)))

/-- Tags are listed by label, then by identifier. -/
def Tag.le (a b : Tag) : Bool :=
  ((compare a.label b.label).then (compare a.id b.id)).isLE

/-- Documents are listed by label, then by identifier. -/
def Document.le (a b : Document) : Bool :=
  ((compare a.label b.label).then (compare a.id b.id)).isLE

/-! ## The catalog -/

/-- Tags and documents by identifier. -/
structure Catalog where
  tags : ExtTreeMap Uuid Tag
  documents : ExtTreeMap Uuid Document
  deriving DecidableEq

namespace Catalog

/-- No tags and no documents. -/
def empty : Catalog := ⟨∅, ∅⟩

instance : EmptyCollection Catalog := ⟨empty⟩

instance : Inhabited Catalog := ⟨empty⟩

/-- The tag with a given identifier. -/
def tag? (catalog : Catalog) (id : Uuid) : Option Tag :=
  catalog.tags[id]?

/-- The document with a given identifier. -/
def document? (catalog : Catalog) (id : Uuid) : Option Document :=
  catalog.documents[id]?

/-- The catalog with a tag put under an identifier. -/
def putTag (catalog : Catalog) (id : Uuid) (tag : Tag) : Catalog :=
  { catalog with tags := catalog.tags.insert id tag }

/-- The catalog with a document put under an identifier. -/
def putDocument (catalog : Catalog) (id : Uuid) (document : Document) : Catalog :=
  { catalog with documents := catalog.documents.insert id document }

/-! ### Changes -/

/-- Creates a tag. If the identifier is in use, the tag that has it stays. -/
def createTag (catalog : Catalog) (id : Uuid) (now : Instant) (label : String)
    (color : Option String) : Except Error Tag × Catalog :=
  match validLabel label, validColor (color.getD defaultColor) with
  | .error error, _ => (.error error, catalog)
  | .ok _, .error error => (.error error, catalog)
  | .ok label, .ok color =>
    match catalog.tag? id with
    | some tag => (.ok tag, catalog)
    | none =>
      let tag : Tag := ⟨id, label, color, now, ∅⟩
      (.ok tag, catalog.putTag id tag)

/-- Gives a tag a new label and a new colour, the default one if none is given. -/
def replaceTag (catalog : Catalog) (id : Uuid) (label : String) (color : Option String) :
    Except Error Tag × Catalog :=
  match validLabel label, validColor (color.getD defaultColor) with
  | .error error, _ => (.error error, catalog)
  | .ok _, .error error => (.error error, catalog)
  | .ok label, .ok color =>
    match catalog.tag? id with
    | none => (.error .notFound, catalog)
    | some tag =>
      let tag := { tag with label, color }
      (.ok tag, catalog.putTag id tag)

/-- Changes the given fields of a tag. -/
def updateTag (catalog : Catalog) (id : Uuid) (patch : TagPatch) : Except Error Tag × Catalog :=
  match patch.label.mapM validLabel, patch.color.mapM validColor with
  | .error error, _ => (.error error, catalog)
  | .ok _, .error error => (.error error, catalog)
  | .ok label, .ok color =>
    match catalog.tag? id with
    | none => (.error .notFound, catalog)
    | some tag =>
      let tag := { tag with label := label.getD tag.label, color := color.getD tag.color }
      (.ok tag, catalog.putTag id tag)

/-- Removes a tag, and with it all its attachments. -/
def deleteTag (catalog : Catalog) (id : Uuid) : Except Error Tag × Catalog :=
  match catalog.tag? id with
  | none => (.error .notFound, catalog)
  | some tag => (.ok tag, { catalog with tags := catalog.tags.erase id })

/-- Creates a document. If the identifier is in use, the document that has it stays. -/
def createDocument (catalog : Catalog) (id : Uuid) (now : Instant) (label : String) :
    Except Error Document × Catalog :=
  match validLabel label with
  | .error error => (.error error, catalog)
  | .ok label =>
    match catalog.document? id with
    | some document => (.ok document, catalog)
    | none =>
      let document : Document := ⟨id, label, now⟩
      (.ok document, catalog.putDocument id document)

/-- A tag without one of the documents that it is attached to. -/
def detach (document : Uuid) (tag : Tag) : Tag :=
  { tag with documents := tag.documents.erase document }

/-- Removes a document, and detaches every tag from it. -/
def deleteDocument (catalog : Catalog) (id : Uuid) : Except Error Document × Catalog :=
  match catalog.document? id with
  | none => (.error .notFound, catalog)
  | some document =>
    (.ok document, ⟨catalog.tags.map fun _ tag ↦ detach id tag, catalog.documents.erase id⟩)

/-- Attaches a tag to a document. Tells whether it was not attached before. -/
def attach (catalog : Catalog) (tag document : Uuid) : Except Error Bool × Catalog :=
  match catalog.document? document, catalog.tag? tag with
  | some _, some record =>
    (.ok (!record.documents.contains document),
      catalog.putTag tag { record with documents := record.documents.insert document })
  | _, _ => (.error .notFound, catalog)

/-- Detaches a tag from a document that it is attached to. -/
def remove (catalog : Catalog) (tag document : Uuid) : Except Error Unit × Catalog :=
  match catalog.tag? tag with
  | none => (.error .notFound, catalog)
  | some record =>
    if record.documents.contains document then
      (.ok (), catalog.putTag tag (detach document record))
    else (.error .notFound, catalog)

/-! ### Listings -/

/-- Every tag, by label, then by identifier. -/
def listTags (catalog : Catalog) : List Tag :=
  catalog.tags.values.mergeSort Tag.le

/-- Every document, by label, then by identifier. -/
def listDocuments (catalog : Catalog) : List Document :=
  catalog.documents.values.mergeSort Document.le

/-- The tag is attached to the document. -/
def isAttached (catalog : Catalog) (tag document : Uuid) : Bool :=
  (catalog.tag? tag).any (·.documents.contains document)

/-- The tags of a document, in the order of all tags. -/
def documentTags (catalog : Catalog) (document : Uuid) : List Tag :=
  catalog.listTags.filter (·.documents.contains document)

/-- The documents of a tag, in the order of all documents. -/
def tagDocuments (catalog : Catalog) (tag : Uuid) : List Document :=
  match catalog.tag? tag with
  | none => []
  | some tag => (tag.documents.toList.filterMap catalog.document?).mergeSort Document.le

end Catalog

end Tagging
