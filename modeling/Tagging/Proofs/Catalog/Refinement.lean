import Tagging.Proofs.Catalog.Confined
import Tagging.Proofs.Catalog.Listing
import Tagging.Proofs.Catalog.Presence
import Tagging.Proofs.Catalog.Relational
import Tagging.Proofs.Catalog.Validity
import Tagging.Proofs.Trace

/-!
# The catalog as two tables and a relation

A catalog keeps with each tag the documents that it is attached to. Whoever uses it may think of a
table of tags, a table of documents and a relation between the two instead: each change tells the
same and does the same to them, and both sides of the relation are read off it alike.
-/

namespace Tagging.Catalog

open Std (ExtTreeSet)

/-- The tables of a catalog, with their relation. -/
def view (catalog : Catalog) : Relational where
  tags id := (catalog.tag? id).map Tag.entry
  documents id := catalog.document? id
  attached tag document := catalog.isAttached tag document

/-! ### Parts of a change -/

section

variable (catalog : Catalog)

/-- A tag that is put with the documents that it had is an entry that is put. -/
theorem view_putTag {id : Uuid} {tag : Tag}
    (same : ∀ document, tag.documents.contains document = catalog.isAttached id document) :
    (catalog.putTag id tag).view = catalog.view.putTag id tag.entry := by
  apply Relational.ext
  · funext other
    simp only [view, Relational.putTag, tag?_putTag]
    split <;> rfl
  · rfl
  · funext other document
    simp only [view, Relational.putTag, isAttached_putTag, same]
    split
    · next own => rw [own]
    · rfl

/-- A document that is put is an entry that is put. -/
theorem view_putDocument (id : Uuid) (document : Document) :
    (catalog.putDocument id document).view = catalog.view.putDocument id document := by
  apply Relational.ext
  · rfl
  · funext other
    exact document?_putDocument ..
  · rfl

/-- A tag that is put with one document more or less is a pair that is set. -/
theorem view_setPair {tag : Uuid} (document : Uuid) (attached : Bool) {record changed : Tag}
    (found : catalog.tag? tag = some record) (entry : changed.entry = record.entry)
    (contains : ∀ other, changed.documents.contains other =
      if document = other then attached else record.documents.contains other) :
    (catalog.putTag tag changed).view = catalog.view.setPair tag document attached := by
  apply Relational.ext
  · funext other
    simp only [view, Relational.setPair, tag?_putTag]
    split
    · next own => rw [← own, found, Option.map_some, Option.map_some, entry]
    · rfl
  · rfl
  · funext other second
    simp only [view, Relational.setPair, isAttached_putTag]
    split
    · next own =>
      subst own
      simp [contains, isAttached, found]
    · next other => simp [other]

/-- A tag that is taken out is an entry that is dropped. -/
theorem view_without_tag (id : Uuid) :
    (catalog.without (.tag id)).view = catalog.view.dropTag id := by
  apply Relational.ext
  · funext other
    simp only [view, Relational.dropTag, tag?_without, Object.tag, Object.mk.injEq, true_and]
    split
    · rfl
    · cases catalog.tag? other <;> rfl
  · rfl
  · funext tag document
    simp only [view, Relational.dropTag, isAttached_without_eq]
    simp [Object.tag, Object.document]

/-- A document that is taken out is an entry that is dropped. -/
theorem view_without_document (id : Uuid) :
    (catalog.without (.document id)).view = catalog.view.dropDocument id := by
  apply Relational.ext
  · funext other
    simp only [view, Relational.dropDocument, tag?_without]
    cases catalog.tag? other <;> rfl
  · funext other
    simp only [view, Relational.dropDocument, document?_without, Object.document,
      Object.mk.injEq, true_and]
  · funext tag document
    simp only [view, Relational.dropDocument, isAttached_without_eq]
    simp [Object.tag, Object.document]

end

/-! ### Changes -/

section

variable {catalog : Catalog} {edit : Edit}

/-- A change tells the same and does the same to a catalog and to its tables. -/
def Edit.Agrees (edit : Edit) (catalog : Catalog) : Prop :=
  ((edit.onCatalog catalog).1, (edit.onCatalog catalog).2.view) = edit.onModel catalog.view

private theorem Edit.Agrees.of_ok {α : Type} {answer : α → Answer} {value : α} {left : Catalog}
    {after : Relational} (made : edit.onCatalog catalog = Edit.told answer (.ok value, left))
    (model : catalog.view.make edit = .ok (answer value, after)) (view : left.view = after) :
    edit.Agrees catalog := by
  rw [Agrees, made, onModel, model, ← view]
  rfl

private theorem Edit.Agrees.of_error {α : Type} {answer : α → Answer} {error : Error}
    (made : edit.onCatalog catalog = Edit.told answer (.error error, catalog))
    (model : catalog.view.make edit = .error error) : edit.Agrees catalog := by
  rw [Agrees, made, onModel, model]
  rfl

/-- The table of tags has an entry for a tag that is found. -/
theorem view_tags {id : Uuid} {tag : Tag} (found : catalog.tag? id = some tag) :
    catalog.view.tags id = some tag.entry :=
  congrArg (Option.map Tag.entry) found

/-- The table of tags has no entry where no tag is found. -/
theorem view_tags_none {id : Uuid} (absent : catalog.tag? id = none) :
    catalog.view.tags id = none :=
  congrArg (Option.map Tag.entry) absent

private theorem contains_documents {id : Uuid} {tag : Tag} (found : catalog.tag? id = some tag)
    (document : Uuid) : tag.documents.contains document = catalog.isAttached id document := by
  rw [isAttached, found, Option.any_some]

private theorem contains_empty {id : Uuid} (absent : catalog.tag? id = none) (document : Uuid) :
    (∅ : ExtTreeSet Uuid).contains document = catalog.isAttached id document := by
  rw [isAttached, absent, Option.any_none, ExtTreeSet.contains_empty]

private theorem Edit.Agrees.of_tag {id : Uuid} {tag : Tag} {left : Catalog} {after : Relational}
    (made : edit.onCatalog catalog = Edit.told .ofTag (.ok tag, left))
    (same : ∀ document, tag.documents.contains document = catalog.isAttached id document)
    (model : catalog.view.make edit = .ok (.tag tag.entry (catalog.view.attached id), after))
    (view : left.view = after) : edit.Agrees catalog := by
  refine .of_ok made ?_ view
  rw [model, Answer.ofTag]
  exact congrArg (fun documents ↦ Except.ok (Answer.tag tag.entry documents, after))
    (funext fun document ↦ (same document).symm)

private theorem agrees_createTag (id : Uuid) (now : Instant) (label : String)
    (color : Option String) : (Edit.createTag id now label color).Agrees catalog := by
  have made : (Edit.createTag id now label color).onCatalog catalog =
    Edit.told .ofTag (catalog.createTag id now label color) := rfl
  unfold createTag at made
  split at made
  · next invalid =>
    exact .of_error made (by simp [Relational.make, invalid, bind, Except.bind])
  · next valid invalid =>
    exact .of_error made (by simp [Relational.make, valid, invalid, bind, Except.bind])
  · next valid validColor =>
    split at made
    · next tag found =>
      have kept := Relational.putTag_self (view_tags found)
      refine .of_tag made (contains_documents found) ?_ kept.symm
      simp [Relational.make, valid, validColor, view_tags found, bind, Except.bind]
    · next absent =>
      have none := contains_empty absent
      refine .of_tag made none ?_ (catalog.view_putTag none)
      simp [Relational.make, valid, validColor, view_tags_none absent, Tag.entry, bind, Except.bind]

private theorem agrees_replaceTag (id : Uuid) (label : String) (color : Option String) :
    (Edit.replaceTag id label color).Agrees catalog := by
  have made : (Edit.replaceTag id label color).onCatalog catalog =
    Edit.told .ofTag (catalog.replaceTag id label color) := rfl
  unfold replaceTag at made
  split at made
  · next invalid =>
    exact .of_error made (by simp [Relational.make, invalid, bind, Except.bind])
  · next valid invalid =>
    exact .of_error made (by simp [Relational.make, valid, invalid, bind, Except.bind])
  · next valid validColor =>
    split at made
    · next absent =>
      refine .of_error made ?_
      simp [Relational.make, valid, validColor, view_tags_none absent, Relational.found, bind,
        Except.bind]
    · next tag found =>
      have same := contains_documents found
      refine .of_tag made same ?_ (catalog.view_putTag same)
      simp [Relational.make, valid, validColor, view_tags found, Relational.found, Tag.entry, bind,
        Except.bind]

private theorem agrees_updateTag (id : Uuid) (patch : TagPatch) :
    (Edit.updateTag id patch).Agrees catalog := by
  have made : (Edit.updateTag id patch).onCatalog catalog =
    Edit.told .ofTag (catalog.updateTag id patch) := rfl
  unfold updateTag at made
  split at made
  · next invalid =>
    exact .of_error made (by simp [Relational.make, invalid, bind, Except.bind])
  · next valid invalid =>
    exact .of_error made (by simp [Relational.make, valid, invalid, bind, Except.bind])
  · next valid validColor =>
    split at made
    · next absent =>
      refine .of_error made ?_
      simp [Relational.make, valid, validColor, view_tags_none absent, Relational.found, bind,
        Except.bind]
    · next tag found =>
      have same := contains_documents found
      refine .of_tag made same ?_ (catalog.view_putTag same)
      simp [Relational.make, valid, validColor, view_tags found, Relational.found, Tag.entry, bind,
        Except.bind]

private theorem agrees_deleteTag (id : Uuid) : (Edit.deleteTag id).Agrees catalog := by
  have made : (Edit.deleteTag id).onCatalog catalog =
    Edit.told .ofTag (catalog.deleteTag id) := rfl
  unfold deleteTag at made
  split at made
  · next absent =>
    refine .of_error made ?_
    simp [Relational.make, view_tags_none absent, Relational.found, bind, Except.bind]
  · next tag found =>
    refine .of_tag made (contains_documents found) ?_ (catalog.view_without_tag id)
    simp [Relational.make, view_tags found, Relational.found, bind, Except.bind]

private theorem agrees_createDocument (id : Uuid) (now : Instant) (label : String) :
    (Edit.createDocument id now label).Agrees catalog := by
  have made : (Edit.createDocument id now label).onCatalog catalog =
    Edit.told .document (catalog.createDocument id now label) := rfl
  unfold createDocument at made
  split at made
  · next invalid =>
    exact .of_error made (by simp [Relational.make, invalid, bind, Except.bind])
  · next valid =>
    split at made
    · next document found =>
      have kept : catalog.view.putDocument id document = catalog.view :=
        Relational.putDocument_self found
      refine .of_ok made ?_ kept.symm
      simp [Relational.make, valid, view, found, bind, Except.bind]
    · next absent =>
      refine .of_ok made ?_ (catalog.view_putDocument ..)
      simp [Relational.make, valid, view, absent, bind, Except.bind]

private theorem agrees_deleteDocument (id : Uuid) : (Edit.deleteDocument id).Agrees catalog := by
  have made : (Edit.deleteDocument id).onCatalog catalog =
    Edit.told .document (catalog.deleteDocument id) := rfl
  unfold deleteDocument at made
  split at made
  · next absent =>
    refine .of_error made ?_
    simp [Relational.make, view, absent, Relational.found, bind, Except.bind]
  · next document found =>
    refine .of_ok made ?_ (catalog.view_without_document id)
    simp [Relational.make, view, found, Relational.found, bind, Except.bind]

private theorem agrees_attach (tag document : Uuid) :
    (Edit.attach tag document).Agrees catalog := by
  have made : (Edit.attach tag document).onCatalog catalog =
    Edit.told .attached (catalog.attach tag document) := rfl
  unfold attach at made
  split at made
  · next record found present =>
    have same := contains_documents present document
    refine .of_ok made ?_ (catalog.view_setPair document true present rfl fun other ↦ ?_)
    · simp [Relational.make, view, found, present, same, Relational.found, bind, Except.bind]
    · by_cases own : document = other <;> simp [own]
  · next missing =>
    refine .of_error made ?_
    cases paper : catalog.document? document with
    | none => simp [Relational.make, view, paper, Relational.found, bind, Except.bind]
    | some record =>
      cases present : catalog.tag? tag with
      | none => simp [Relational.make, view, paper, present, Relational.found, bind, Except.bind]
      | some record => exact absurd present (missing _ _ paper)

private theorem agrees_remove (tag document : Uuid) :
    (Edit.remove tag document).Agrees catalog := by
  have made : (Edit.remove tag document).onCatalog catalog =
    Edit.told (fun _ ↦ .removed) (catalog.remove tag document) := rfl
  unfold remove at made
  split at made
  · next absent =>
    refine .of_error made ?_
    simp [Relational.make, view, isAttached, absent]
  · next record found =>
    have same := contains_documents found document
    split at made
    · next attached =>
      refine .of_ok made ?_ (catalog.view_setPair document false found rfl fun other ↦ ?_)
      · simp [Relational.make, view, ← same, attached]
      · by_cases own : document = other <;> simp [detach, own]
    · next apart =>
      refine .of_error made ?_
      simp [Relational.make, view, ← same, apart]

/-- Every change tells the same and does the same to a catalog and to its tables. -/
theorem Edit.agrees (edit : Edit) (catalog : Catalog) : edit.Agrees catalog := by
  cases edit with
  | createTag id now label color => exact agrees_createTag ..
  | replaceTag id label color => exact agrees_replaceTag ..
  | updateTag id patch => exact agrees_updateTag ..
  | deleteTag id => exact agrees_deleteTag ..
  | createDocument id now label => exact agrees_createDocument ..
  | deleteDocument id => exact agrees_deleteDocument ..
  | attach tag document => exact agrees_attach ..
  | remove tag document => exact agrees_remove ..

end

/-! ### Every trace of changes -/

/-- Each record stands under its own identifier, and no pair is without its entries. -/
structure Sound (catalog : Catalog) : Prop where
  wellKeyed : catalog.WellKeyed
  intact : catalog.view.Intact

private theorem sound_empty : Sound ∅ :=
  ⟨wellKeyed_empty, nofun⟩

/-- Every change keeps each record under its own identifier. -/
theorem Edit.wellKeyed {catalog : Catalog} (sound : catalog.WellKeyed) (edit : Edit) :
    (edit.onCatalog catalog).2.WellKeyed := by
  cases edit with
  | createTag id now label color => exact (confined_createTag ..).wellKeyed sound
  | replaceTag id label color => exact (confined_replaceTag ..).wellKeyed sound
  | updateTag id patch => exact (confined_updateTag ..).wellKeyed sound
  | deleteTag id => exact (confined_deleteTag ..).wellKeyed sound
  | createDocument id now label => exact (confined_createDocument ..).wellKeyed sound
  | deleteDocument id => exact (confined_deleteDocument ..).wellKeyed sound
  | attach tag document => exact (confined_attach ..).wellKeyed sound
  | remove tag document => exact (confined_remove ..).wellKeyed sound

/-- Every change tells the same and does the same to a catalog and to its tables, and leaves nothing
out of place. -/
theorem Edit.commutes {catalog : Catalog} (sound : catalog.Sound) (edit : Edit) :
    Commutes view Sound onCatalog onModel edit catalog := by
  obtain ⟨answer, after⟩ := Prod.ext_iff.mp (edit.agrees catalog)
  refine ⟨answer, after, edit.wellKeyed sound.wellKeyed, ?_⟩
  change (edit.onCatalog catalog).2.view = (edit.onModel catalog.view).2 at after
  rw [after]
  exact edit.intact sound.intact

/-! ### What is read off the tables -/

/-- A list has the records that are there, each once, by label and then by identifier. -/
structure Lists {α : Type} (label : α → String) (id : α → Uuid) (records : List α)
    (there : α → Prop) : Prop where
  mem : ∀ record, record ∈ records ↔ there record
  ascending : records.Pairwise (byLabel label id · · = .lt)

/-- All that is asked of a catalog is answered from its tables and their relation. -/
structure StandsFor (catalog : Catalog) (model : Relational) : Prop where
  tags : ∀ id, (catalog.tag? id).map Tag.entry = model.tags id
  documents : ∀ id, catalog.document? id = model.documents id
  isAttached : ∀ tag document, catalog.isAttached tag document = model.attached tag document
  /-- A pair is found from the record of its tag. -/
  has_document : ∀ tag document,
    (∃ record, catalog.tag? tag = some record ∧ document ∈ record.documents) ↔
      model.attached tag document
  /-- A pair is found among the tags of its document. -/
  has_tag : ∀ tag document,
    (∃ record ∈ catalog.documentTags document, record.id = tag) ↔ model.attached tag document
  /-- A pair is found among the documents of its tag. -/
  has_tagDocument : ∀ tag document,
    (∃ record ∈ catalog.tagDocuments tag, record.id = document) ↔ model.attached tag document
  listTags : Lists TagEntry.label TagEntry.id (catalog.listTags.map Tag.entry)
    fun entry ↦ model.tags entry.id = some entry
  listDocuments : Lists Document.label Document.id catalog.listDocuments
    fun document ↦ model.documents document.id = some document
  documentTags : ∀ document,
    Lists TagEntry.label TagEntry.id ((catalog.documentTags document).map Tag.entry)
      fun entry ↦ model.tags entry.id = some entry ∧ model.attached entry.id document
  tagDocuments : ∀ tag, Lists Document.label Document.id (catalog.tagDocuments tag)
    fun document ↦ model.documents document.id = some document ∧ model.attached tag document.id

section

variable {catalog : Catalog}

private theorem lists_entry (property : TagEntry → Prop) {tags : List Tag}
    (mem : ∀ tag, tag ∈ tags ↔ catalog.tag? tag.id = some tag ∧ property tag.entry)
    (ascending : tags.Pairwise (byLabel Tag.label Tag.id · · = .lt)) :
    Lists TagEntry.label TagEntry.id (tags.map Tag.entry)
      fun entry ↦ catalog.view.tags entry.id = some entry ∧ property entry := by
  refine ⟨fun entry ↦ ?_, List.pairwise_map.mpr ascending⟩
  rw [List.mem_map]
  constructor
  · rintro ⟨tag, listed, rfl⟩
    obtain ⟨found, holds⟩ := (mem tag).mp listed
    exact ⟨view_tags found, holds⟩
  · rintro ⟨present, holds⟩
    obtain ⟨tag, found, rfl⟩ := Option.map_eq_some_iff.mp present
    exact ⟨tag, (mem tag).mpr ⟨found, holds⟩, rfl⟩

/-- Every catalog in which nothing is out of place is answered for by its tables. -/
theorem standsFor_view (sound : catalog.Sound) : catalog.StandsFor catalog.view := by
  have wellKeyed := sound.wellKeyed
  constructor
  case tags => exact fun id ↦ rfl
  case documents => exact fun id ↦ rfl
  case isAttached => exact fun tag document ↦ rfl
  case has_document =>
    intro tag document
    simp [view, Catalog.isAttached, Option.any_eq_true]
  case has_tag =>
    intro tag document
    constructor
    · rintro ⟨record, listed, rfl⟩
      exact ((mem_documentTags wellKeyed).mp listed).2
    · intro attached
      -- No pair is dangling, so that the tag is listed that the pair names.
      obtain ⟨entry, present⟩ := Option.isSome_iff_exists.mp (sound.intact tag document attached).1
      obtain ⟨record, found, _⟩ := Option.map_eq_some_iff.mp present
      obtain rfl := wellKeyed.tag tag record found
      exact ⟨record, (mem_documentTags wellKeyed).mpr ⟨found, attached⟩, rfl⟩
  case has_tagDocument =>
    intro tag document
    constructor
    · rintro ⟨record, listed, rfl⟩
      exact ((mem_tagDocuments wellKeyed).mp listed).2
    · intro attached
      obtain ⟨record, found⟩ := Option.isSome_iff_exists.mp (sound.intact tag document attached).2
      obtain rfl := wellKeyed.document document record found
      exact ⟨record, (mem_tagDocuments wellKeyed).mpr ⟨found, attached⟩, rfl⟩
  case listTags =>
    have lists := lists_entry (fun _ ↦ True)
      (fun _ ↦ (mem_listTags wellKeyed).trans (and_iff_left trivial).symm)
      (ascending_listTags wellKeyed)
    exact ⟨fun entry ↦ (lists.mem entry).trans (and_iff_left trivial), lists.ascending⟩
  case listDocuments =>
    exact ⟨fun _ ↦ mem_listDocuments wellKeyed, ascending_listDocuments wellKeyed⟩
  case documentTags =>
    intro document
    exact lists_entry (fun entry ↦ catalog.isAttached entry.id document)
      (fun _ ↦ mem_documentTags wellKeyed) (ascending_documentTags wellKeyed document)
  case tagDocuments =>
    intro tag
    exact ⟨fun _ ↦ mem_tagDocuments wellKeyed, ascending_tagDocuments wellKeyed tag⟩

end

/-- Any changes made one after the other to an empty catalog tell what the same changes to empty
tables tell, and the tables then answer all that is asked of the catalog. -/
theorem trace_relational (edits : List Edit) :
    let made := trace Edit.onCatalog ∅ edits
    let model := trace Edit.onModel .empty edits
    made.1 = model.1 ∧ made.2.StandsFor model.2 := by
  have blank : (∅ : Catalog).view = .empty := rfl
  obtain ⟨answers, state, sound⟩ :=
    trace_view (fun edit _ sound ↦ Edit.commutes sound edit) sound_empty edits
  rw [blank] at answers state
  refine ⟨answers, ?_⟩
  rw [← state]
  exact standsFor_view sound

end Tagging.Catalog
