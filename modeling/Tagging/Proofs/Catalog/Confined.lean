import Tagging.Proofs.Catalog.Lookup

/-!
# Changes to a catalog

Each change to a catalog is confined to one object: it touches nothing but the record of the object
and its attachments, keeps every record under its own identifier, and if it fails it has changed
nothing at all. The last is what the service relies on where it keeps no copy of its state.
-/

namespace Tagging.Catalog

/-- A change, told by its result and the catalog that it leaves, is confined to an object. -/
structure Confined {α : Type} (catalog : Catalog) (object : Object)
    (made : Except Error α × Catalog) : Prop where
  unchanged : ∀ error, made.1 = .error error → made.2 = catalog
  wellKeyed : catalog.WellKeyed → made.2.WellKeyed
  without : made.2.without object = catalog.without object

section

variable {α : Type} {catalog : Catalog}

/-! ### Shapes of a change -/

/-- What leaves the catalog is confined to any object. -/
theorem Confined.same (object : Object) (result : Except Error α) :
    Confined catalog object (result, catalog) :=
  ⟨fun _ _ ↦ rfl, id, rfl⟩

/-- Putting a tag under its identifier is confined to the tag. -/
theorem Confined.putTag {id : Uuid} {tag : Tag} (value : α)
    (own : catalog.WellKeyed → tag.id = id) :
    Confined catalog (.tag id) (.ok value, catalog.putTag id tag) where
  unchanged error failed := by cases failed
  wellKeyed sound := sound.putTag (own sound)
  without := catalog.without_putTag id tag

/-- Putting a document under its identifier is confined to the document. -/
theorem Confined.putDocument {id : Uuid} {document : Document} (value : α)
    (own : document.id = id) :
    Confined catalog (.document id) (.ok value, catalog.putDocument id document) where
  unchanged error failed := by cases failed
  wellKeyed sound := sound.putDocument own
  without := catalog.without_putDocument id document

/-- Taking an object out is confined to the object. -/
theorem Confined.erase (object : Object) (value : α) :
    Confined catalog object (.ok value, catalog.without object) where
  unchanged error failed := by cases failed
  wellKeyed sound := sound.without object
  without := catalog.without_without object

/-! ### The changes -/

/-- Creating a tag is confined to the tag with the identifier that is drawn. -/
theorem confined_createTag (id : Uuid) (now : Instant) (label : String) (color : Option String) :
    Confined catalog (.tag id) (catalog.createTag id now label color) := by
  unfold createTag
  split
  · exact .same _ _
  · exact .same _ _
  · split
    · exact .same _ _
    · exact .putTag _ fun _ ↦ rfl

/-- Replacing a tag is confined to it. -/
theorem confined_replaceTag (id : Uuid) (label : String) (color : Option String) :
    Confined catalog (.tag id) (catalog.replaceTag id label color) := by
  unfold replaceTag
  split
  · exact .same _ _
  · exact .same _ _
  · split
    · exact .same _ _
    · next tag found => exact .putTag _ fun sound ↦ sound.tag id tag found

/-- Updating a tag is confined to it. -/
theorem confined_updateTag (id : Uuid) (patch : TagPatch) :
    Confined catalog (.tag id) (catalog.updateTag id patch) := by
  unfold updateTag
  split
  · exact .same _ _
  · exact .same _ _
  · split
    · exact .same _ _
    · next tag found => exact .putTag _ fun sound ↦ sound.tag id tag found

/-- Deleting a tag is confined to it. -/
theorem confined_deleteTag (id : Uuid) :
    Confined catalog (.tag id) (catalog.deleteTag id) := by
  unfold deleteTag
  split
  · exact .same _ _
  · exact .erase (.tag id) _

/-- Creating a document is confined to the document with the identifier that is drawn. -/
theorem confined_createDocument (id : Uuid) (now : Instant) (label : String) :
    Confined catalog (.document id) (catalog.createDocument id now label) := by
  unfold createDocument
  split
  · exact .same _ _
  · split
    · exact .same _ _
    · exact .putDocument _ rfl

/-- Deleting a document is confined to it. -/
theorem confined_deleteDocument (id : Uuid) :
    Confined catalog (.document id) (catalog.deleteDocument id) := by
  unfold deleteDocument
  split
  · exact .same _ _
  · exact .erase (.document id) _

/-- Attaching a tag is confined to the tag, where attachments are kept. -/
theorem confined_attach (tag document : Uuid) :
    Confined catalog (.tag tag) (catalog.attach tag document) := by
  unfold attach
  split
  · next record _ found => exact .putTag _ fun sound ↦ sound.tag tag record found
  · exact .same _ _

/-- Detaching a tag is confined to the tag, where attachments are kept. -/
theorem confined_remove (tag document : Uuid) :
    Confined catalog (.tag tag) (catalog.remove tag document) := by
  unfold remove
  split
  · exact .same _ _
  · next record found =>
    split
    · exact .putTag _ fun sound ↦ sound.tag tag record found
    · exact .same _ _

/-! ### What creation and attachment yield -/

/-- A tag that has been created has the identifier that was drawn, even if it was in use. -/
theorem id_of_createTag {id : Uuid} {now : Instant} {label : String} {color : Option String}
    {tag : Tag} (sound : catalog.WellKeyed)
    (made : (catalog.createTag id now label color).1 = .ok tag) : tag.id = id := by
  unfold createTag at made
  split at made
  · cases made
  · cases made
  · split at made
    · next found =>
      cases made
      exact sound.tag id tag found
    · cases made
      rfl

/-- A document that has been created has the identifier that was drawn, even if it was in use. -/
theorem id_of_createDocument {id : Uuid} {now : Instant} {label : String} {document : Document}
    (sound : catalog.WellKeyed)
    (made : (catalog.createDocument id now label).1 = .ok document) : document.id = id := by
  unfold createDocument at made
  split at made
  · cases made
  · split at made
    · next found =>
      cases made
      exact sound.document id document found
    · cases made
      rfl

/-- After it has been attached, a tag is there. -/
theorem tag?_of_attach {tag document : Uuid} {new : Bool}
    (made : (catalog.attach tag document).1 = .ok new) :
    ∃ record, catalog.tag? tag = some record ∧
      (catalog.attach tag document).2.tag? tag =
        some { record with documents := record.documents.insert document } := by
  unfold attach at made ⊢
  split at made
  · next record _ found => exact ⟨record, found, by simp⟩
  · cases made

end

end Tagging.Catalog
