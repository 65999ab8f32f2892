import Tagging.Catalog.Basic
import Tagging.Proofs.Result

/-!
# Two tables and a relation

A table of tags, a table of documents and a relation between the two, with what each change to a
catalog tells of them and does to them.
-/

namespace Tagging

/-- A tag without the documents that it is attached to. -/
structure TagEntry where
  id : Uuid
  label : String
  color : String
  createdAt : Instant
  deriving DecidableEq

/-- What is told of a tag but its documents. -/
def Tag.entry (tag : Tag) : TagEntry :=
  ⟨tag.id, tag.label, tag.color, tag.createdAt⟩

namespace Catalog

/-- A change to a catalog, with the identifier that a creation has drawn. -/
inductive Edit where
  | createTag (id : Uuid) (now : Instant) (label : String) (color : Option String)
  | replaceTag (id : Uuid) (label : String) (color : Option String)
  | updateTag (id : Uuid) (patch : TagPatch)
  | deleteTag (id : Uuid)
  | createDocument (id : Uuid) (now : Instant) (label : String)
  | deleteDocument (id : Uuid)
  | attach (tag document : Uuid)
  | remove (tag document : Uuid)

/-- What a change to a catalog tells. -/
inductive Edit.Answer where
  /-- A tag, with the documents that it is attached to. -/
  | tag (entry : TagEntry) (documents : Uuid → Bool)
  | document (document : Document)
  /-- Whether an attachment is new. -/
  | attached (new : Bool)
  | removed

/-- A tag as it is told. -/
def Edit.Answer.ofTag (tag : Tag) : Answer :=
  .tag tag.entry tag.documents.contains

/-- A change that has been made, with what it tells. -/
def Edit.told {α : Type} (answer : α → Answer) (made : Except Error α × Catalog) :
    Except Error Answer × Catalog :=
  (made.1.map answer, made.2)

/-- Makes a change to a catalog. -/
def Edit.onCatalog (edit : Edit) (catalog : Catalog) : Except Error Answer × Catalog :=
  match edit with
  | .createTag id now label color => told .ofTag (catalog.createTag id now label color)
  | .replaceTag id label color => told .ofTag (catalog.replaceTag id label color)
  | .updateTag id patch => told .ofTag (catalog.updateTag id patch)
  | .deleteTag id => told .ofTag (catalog.deleteTag id)
  | .createDocument id now label => told .document (catalog.createDocument id now label)
  | .deleteDocument id => told .document (catalog.deleteDocument id)
  | .attach tag document => told .attached (catalog.attach tag document)
  | .remove tag document => told (fun _ ↦ .removed) (catalog.remove tag document)

/-! ### Tables and their relation -/

/-- A table of tags, a table of documents, and which tags are attached to which documents. -/
@[ext] structure Relational where
  tags : Uuid → Option TagEntry
  documents : Uuid → Option Document
  attached : Uuid → Uuid → Bool

namespace Relational

/-- Empty tables, and nothing attached. -/
def empty : Relational := ⟨fun _ ↦ none, fun _ ↦ none, fun _ _ ↦ false⟩

/-- The tables with an entry for a tag. -/
def putTag (model : Relational) (id : Uuid) (entry : TagEntry) : Relational :=
  { model with tags := fun other ↦ if id = other then some entry else model.tags other }

/-- The tables with an entry for a document. -/
def putDocument (model : Relational) (id : Uuid) (document : Document) : Relational :=
  { model with
    documents := fun other ↦ if id = other then some document else model.documents other }

/-- The tables without a tag, and the relation without its pairs. -/
def dropTag (model : Relational) (id : Uuid) : Relational :=
  { model with
    tags := fun other ↦ if id = other then none else model.tags other
    attached := fun tag document ↦ if id = tag then false else model.attached tag document }

/-- The tables without a document, and the relation without its pairs. -/
def dropDocument (model : Relational) (id : Uuid) : Relational :=
  { model with
    documents := fun other ↦ if id = other then none else model.documents other
    attached := fun tag document ↦ if id = document then false else model.attached tag document }

/-- The relation with or without one pair. -/
def setPair (model : Relational) (tag document : Uuid) (attached : Bool) : Relational :=
  { model with
    attached := fun other second ↦
      if tag = other ∧ document = second then attached else model.attached other second }

/-- The entry that a table has, or the error that there is none. -/
def found {α : Type} : Option α → Except Error α
  | some entry => .ok entry
  | none => .error .notFound

/-- What a change tells and leaves, if nothing is wrong with it. -/
def make (model : Relational) : Edit → Except Error (Edit.Answer × Relational)
  | .createTag id now label color => do
    let label ← validLabel label
    let color ← validColor (color.getD defaultColor)
    let entry := (model.tags id).getD ⟨id, label, color, now⟩
    .ok (.tag entry (model.attached id), model.putTag id entry)
  | .replaceTag id label color => do
    let label ← validLabel label
    let color ← validColor (color.getD defaultColor)
    let entry := { ← found (model.tags id) with label, color }
    .ok (.tag entry (model.attached id), model.putTag id entry)
  | .updateTag id patch => do
    let label ← patch.label.mapM validLabel
    let color ← patch.color.mapM validColor
    let before ← found (model.tags id)
    let entry :=
      { before with label := label.getD before.label, color := color.getD before.color }
    .ok (.tag entry (model.attached id), model.putTag id entry)
  | .deleteTag id => do
    let entry ← found (model.tags id)
    .ok (.tag entry (model.attached id), model.dropTag id)
  | .createDocument id now label => do
    let label ← validLabel label
    let document := (model.documents id).getD ⟨id, label, now⟩
    .ok (.document document, model.putDocument id document)
  | .deleteDocument id => do
    let document ← found (model.documents id)
    .ok (.document document, model.dropDocument id)
  | .attach tag document => do
    let _ ← found (model.documents document)
    let _ ← found (model.tags tag)
    .ok (.attached (!model.attached tag document), model.setPair tag document true)
  | .remove tag document =>
    if model.attached tag document then .ok (.removed, model.setPair tag document false)
    else .error .notFound

end Relational

/-- Makes a change to tables and their relation. What fails leaves them as they were. -/
def Edit.onModel (edit : Edit) (model : Relational) : Except Error Answer × Relational :=
  match model.make edit with
  | .ok (answer, left) => (.ok answer, left)
  | .error error => (.error error, model)

/-- To put the entry that is there changes nothing. -/
theorem Relational.putTag_self {model : Relational} {id : Uuid} {entry : TagEntry}
    (found : model.tags id = some entry) : model.putTag id entry = model := by
  apply Relational.ext
  · funext other
    simp only [putTag]
    split
    · next own => rw [← own, found]
    · rfl
  · rfl
  · rfl

/-- To put the document that is there changes nothing. -/
theorem Relational.putDocument_self {model : Relational} {id : Uuid} {document : Document}
    (found : model.documents id = some document) : model.putDocument id document = model := by
  apply Relational.ext
  · rfl
  · funext other
    simp only [putDocument]
    split
    · next own => rw [← own, found]
    · rfl
  · rfl

/-! ### No pair without its entries -/

namespace Relational

/-- Both entries of a pair are in the tables. -/
def Intact (model : Relational) : Prop :=
  ∀ tag document, model.attached tag document →
    (model.tags tag).isSome ∧ (model.documents document).isSome

section

variable {model left : Relational}

private theorem Intact.putTag (intact : model.Intact) (id : Uuid) (entry : TagEntry) :
    (model.putTag id entry).Intact := by
  intro tag document attached
  refine ⟨?_, (intact tag document attached).2⟩
  simp only [Relational.putTag]
  split
  · rfl
  · exact (intact tag document attached).1

private theorem Intact.putDocument (intact : model.Intact) (id : Uuid) (entry : Document) :
    (model.putDocument id entry).Intact := by
  intro tag document attached
  refine ⟨(intact tag document attached).1, ?_⟩
  simp only [Relational.putDocument]
  split
  · rfl
  · exact (intact tag document attached).2

private theorem Intact.dropTag (intact : model.Intact) (id : Uuid) : (model.dropTag id).Intact := by
  intro tag document attached
  simp only [Relational.dropTag] at attached ⊢
  split at attached
  · cases attached
  · next other =>
    rw [if_neg other]
    exact intact tag document attached

private theorem Intact.dropDocument (intact : model.Intact) (id : Uuid) :
    (model.dropDocument id).Intact := by
  intro tag document attached
  simp only [Relational.dropDocument] at attached ⊢
  split at attached
  · cases attached
  · next other =>
    rw [if_neg other]
    exact intact tag document attached

private theorem Intact.setPair (intact : model.Intact) {tag document : Uuid} {attached : Bool}
    (present : attached → (model.tags tag).isSome ∧ (model.documents document).isSome) :
    (model.setPair tag document attached).Intact := by
  intro other second named
  simp only [Relational.setPair] at named
  split at named
  · next own =>
    obtain ⟨rfl, rfl⟩ := own
    exact present named
  · exact intact other second named

/-- An entry that is found is the one in the table. -/
theorem eq_some_of_found {α : Type} {entry : Option α} {value : α}
    (done : found entry = .ok value) : entry = some value := by
  cases entry with
  | none => cases done
  | some entry =>
    cases done
    rfl

private theorem isSome_of_found {α : Type} {entry : Option α} {value : α}
    (done : found entry = .ok value) : entry.isSome := by
  rw [eq_some_of_found done]
  rfl

/-- A change leaves no pair without its entries. -/
theorem Intact.make {edit : Edit} {answer : Edit.Answer} (intact : model.Intact)
    (made : model.make edit = .ok (answer, left)) : left.Intact := by
  cases edit with
  | createTag id now label color =>
    obtain ⟨_, _, made⟩ := exists_of_bind made
    obtain ⟨_, _, made⟩ := exists_of_bind made
    cases made
    exact intact.putTag _ _
  | replaceTag id label color =>
    obtain ⟨_, _, made⟩ := exists_of_bind made
    obtain ⟨_, _, made⟩ := exists_of_bind made
    obtain ⟨_, _, made⟩ := exists_of_bind made
    cases made
    exact intact.putTag _ _
  | updateTag id patch =>
    obtain ⟨_, _, made⟩ := exists_of_bind made
    obtain ⟨_, _, made⟩ := exists_of_bind made
    obtain ⟨_, _, made⟩ := exists_of_bind made
    cases made
    exact intact.putTag _ _
  | deleteTag id =>
    obtain ⟨_, _, made⟩ := exists_of_bind made
    cases made
    exact intact.dropTag id
  | createDocument id now label =>
    obtain ⟨_, _, made⟩ := exists_of_bind made
    cases made
    exact intact.putDocument _ _
  | deleteDocument id =>
    obtain ⟨_, _, made⟩ := exists_of_bind made
    cases made
    exact intact.dropDocument id
  | attach tag document =>
    obtain ⟨_, paper, made⟩ := exists_of_bind made
    obtain ⟨_, entry, made⟩ := exists_of_bind made
    cases made
    exact intact.setPair fun _ ↦ ⟨isSome_of_found entry, isSome_of_found paper⟩
  | remove tag document =>
    simp only [Relational.make] at made
    split at made
    · cases made
      exact intact.setPair nofun
    · cases made

end

end Relational

/-- A change leaves no pair without its entries, whether it is made or not. -/
theorem Edit.intact {model : Relational} (intact : model.Intact) (edit : Edit) :
    (edit.onModel model).2.Intact := by
  unfold onModel
  split
  · next made => exact intact.make made
  · exact intact

end Catalog

end Tagging
