import Tagging.Access.Grant
import Tagging.Catalog.Basic

/-!
# What a catalog holds

A catalog is known by what its two lookups find. In a sound one each record stands under its own
identifier. Beside it stands the catalog without one object: as if a tag had never been there, or a
document, to which then no tag is attached.
-/

namespace Tagging

open Std (ExtTreeMap ExtTreeSet)

namespace Catalog

/-! ### Lookups -/

/-- Two catalogs in which the same is found are equal. -/
theorem eq_of_lookups {a b : Catalog} (tags : ∀ id, a.tag? id = b.tag? id)
    (documents : ∀ id, a.document? id = b.document? id) : a = b := by
  cases a; cases b
  simp only [Catalog.mk.injEq]
  exact ⟨ExtTreeMap.ext_getElem? tags, ExtTreeMap.ext_getElem? documents⟩

/-- No tag is found in an empty catalog. -/
@[simp] theorem tag?_empty (id : Uuid) : tag? ∅ id = none := ExtTreeMap.getElem?_empty

/-- No document is found in an empty catalog. -/
@[simp] theorem document?_empty (id : Uuid) : document? ∅ id = none := ExtTreeMap.getElem?_empty

/-- A tag is found where it was put. -/
@[simp] theorem tag?_putTag (catalog : Catalog) (id other : Uuid) (tag : Tag) :
    (catalog.putTag id tag).tag? other = if id = other then some tag else catalog.tag? other := by
  simp [putTag, tag?, ExtTreeMap.getElem?_insert]

/-- Putting a tag leaves the documents. -/
@[simp] theorem document?_putTag (catalog : Catalog) (id other : Uuid) (tag : Tag) :
    (catalog.putTag id tag).document? other = catalog.document? other := rfl

/-- To put a tag twice is to put it once, as it was put last. -/
theorem putTag_putTag (catalog : Catalog) (id : Uuid) (first second : Tag) :
    (catalog.putTag id first).putTag id second = catalog.putTag id second := by
  apply eq_of_lookups
  · intro other
    simp only [tag?_putTag]
    split <;> rfl
  · intro other
    simp only [document?_putTag]

/-- To put the tag that is there changes nothing. -/
theorem putTag_self {catalog : Catalog} {id : Uuid} {tag : Tag}
    (found : catalog.tag? id = some tag) : catalog.putTag id tag = catalog := by
  apply eq_of_lookups
  · intro other
    rw [tag?_putTag]
    split
    · next own => rw [← own, found]
    · rfl
  · intro other
    rw [document?_putTag]

/-- A document is found where it was put. -/
@[simp] theorem document?_putDocument (catalog : Catalog) (id other : Uuid) (document : Document) :
    (catalog.putDocument id document).document? other =
      if id = other then some document else catalog.document? other := by
  simp [putDocument, document?, ExtTreeMap.getElem?_insert]

/-- Putting a document leaves the tags. -/
@[simp] theorem tag?_putDocument (catalog : Catalog) (id other : Uuid) (document : Document) :
    (catalog.putDocument id document).tag? other = catalog.tag? other := rfl

/-! ### Records under their own identifiers -/

/-- Each record stands under its own identifier. -/
structure WellKeyed (catalog : Catalog) : Prop where
  tag : ∀ id tag, catalog.tag? id = some tag → tag.id = id
  document : ∀ id document, catalog.document? id = some document → document.id = id

/-- In an empty catalog there is nothing out of place. -/
theorem wellKeyed_empty : WellKeyed ∅ where
  tag id tag found := by simp at found
  document id document found := by simp at found

namespace WellKeyed

variable {catalog : Catalog}

/-- A tag may be put under its own identifier. -/
theorem putTag (sound : catalog.WellKeyed) {id : Uuid} {tag : Tag} (own : tag.id = id) :
    (catalog.putTag id tag).WellKeyed := by
  refine ⟨?_, sound.document⟩
  intro other found present
  rw [tag?_putTag] at present
  split at present
  · next same =>
    cases present
    exact own.trans same
  · exact sound.tag other found present

/-- A document may be put under its own identifier. -/
theorem putDocument (sound : catalog.WellKeyed) {id : Uuid} {document : Document}
    (own : document.id = id) : (catalog.putDocument id document).WellKeyed := by
  refine ⟨sound.tag, ?_⟩
  intro other found present
  rw [document?_putDocument] at present
  split at present
  · next same =>
    cases present
    exact own.trans same
  · exact sound.document other found present

end WellKeyed

/-! ### The catalog without an object -/

/-- The catalog without a tag, or without a document and all attachments to it. -/
def without (catalog : Catalog) : Object → Catalog
  | ⟨.tag, id⟩ => { catalog with tags := catalog.tags.erase id }
  | ⟨.document, id⟩ =>
    ⟨catalog.tags.map fun _ tag ↦ detach id tag, catalog.documents.erase id⟩

end Catalog

/-- A tag without its attachment to an object, if it is a document. -/
def Tag.without (tag : Tag) : Object → Tag
  | ⟨.tag, _⟩ => tag
  | ⟨.document, id⟩ => Catalog.detach id tag

private theorem Tag.id_without (tag : Tag) (object : Object) :
    (tag.without object).id = tag.id := by
  obtain ⟨kind, id⟩ := object
  cases kind <;> rfl

private theorem Tag.without_without (tag : Tag) (object : Object) :
    (tag.without object).without object = tag.without object := by
  obtain ⟨kind, id⟩ := object
  cases kind with
  | tag => rfl
  | document =>
    simp only [without, Catalog.detach, Tag.mk.injEq, true_and]
    apply ExtTreeSet.ext_mem
    intro other
    simp

namespace Catalog

/-- The tags that are found without an object are all others. -/
theorem tag?_without (catalog : Catalog) (object : Object) (id : Uuid) :
    (catalog.without object).tag? id =
      if object = .tag id then none else (catalog.tag? id).map (·.without object) := by
  obtain ⟨kind, hidden⟩ := object
  cases kind with
  | tag =>
    simp only [without, tag?, ExtTreeMap.getElem?_erase, Std.LawfulEqOrd.compare_eq_iff_eq,
      Object.tag, Object.mk.injEq, true_and]
    split
    · rfl
    · exact (Option.map_id' ..).symm
  | document =>
    simp only [without, tag?, ExtTreeMap.getElem?_map]
    rfl

/-- The documents that are found without an object are all others. -/
theorem document?_without (catalog : Catalog) (object : Object) (id : Uuid) :
    (catalog.without object).document? id =
      if object = .document id then none else catalog.document? id := by
  obtain ⟨kind, hidden⟩ := object
  cases kind with
  | tag => rfl
  | document =>
    simp [without, document?, ExtTreeMap.getElem?_erase, Object.document]

/-- Without an object every record still stands under its own identifier. -/
theorem WellKeyed.without {catalog : Catalog} (sound : catalog.WellKeyed) (object : Object) :
    (catalog.without object).WellKeyed where
  tag id tag found := by
    rw [tag?_without] at found
    split at found
    · cases found
    · obtain ⟨kept, present, rfl⟩ := Option.map_eq_some_iff.mp found
      exact (kept.id_without object).trans (sound.tag id kept present)
  document id document found := by
    rw [document?_without] at found
    split at found
    · cases found
    · exact sound.document id document found

/-- Taking an object out twice is taking it out once. -/
theorem without_without (catalog : Catalog) (object : Object) :
    (catalog.without object).without object = catalog.without object := by
  apply eq_of_lookups
  · intro id
    rw [tag?_without, tag?_without]
    split
    · rfl
    · rw [Option.map_map]
      congr 1
      funext tag
      exact tag.without_without object
  · intro id
    rw [document?_without, document?_without]
    split <;> rfl

/-- What is put under an identifier goes with the tag. -/
theorem without_putTag (catalog : Catalog) (id : Uuid) (tag : Tag) :
    (catalog.putTag id tag).without (.tag id) = catalog.without (.tag id) := by
  apply eq_of_lookups
  · intro other
    rw [tag?_without, tag?_without, tag?_putTag]
    by_cases same : id = other
    · subst same
      simp
    · simp [same]
  · intro other
    rw [document?_without, document?_without, document?_putTag]

/-- What is put under an identifier goes with the document. -/
theorem without_putDocument (catalog : Catalog) (id : Uuid) (document : Document) :
    (catalog.putDocument id document).without (.document id) =
      catalog.without (.document id) := by
  apply eq_of_lookups
  · intro other
    rw [tag?_without, tag?_without, tag?_putDocument]
  · intro other
    rw [document?_without, document?_without, document?_putDocument]
    by_cases same : id = other
    · subst same
      simp
    · simp [same]

/-- Without an object the others are attached as before. -/
theorem isAttached_without (catalog : Catalog) {object : Object} {tag document : Uuid}
    (notTag : object ≠ .tag tag) (notDocument : object ≠ .document document) :
    (catalog.without object).isAttached tag document = catalog.isAttached tag document := by
  rw [isAttached, isAttached, tag?_without, if_neg notTag]
  cases catalog.tag? tag with
  | none => rfl
  | some record =>
    obtain ⟨kind, hidden⟩ := object
    cases kind with
    | tag => rfl
    | document =>
      have distinct : hidden ≠ document := fun same ↦ notDocument (congrArg Object.document same)
      simp [Tag.without, detach, ExtTreeSet.contains_erase, distinct]

/-! ### Catalogs that differ in one object -/

/-- No record is another but that of one object. -/
structure SameBut (object : Object) (before after : Catalog) : Prop where
  tag : ∀ id, object ≠ .tag id → after.tag? id = before.tag? id
  document : ∀ id, object ≠ .document id → after.document? id = before.document? id

/-- Catalogs that are the same without a tag differ in its record at most. Of a document this is not
true, since without it no tag is attached to it. -/
theorem SameBut.of_without {before after : Catalog} {id : Uuid}
    (same : after.without (.tag id) = before.without (.tag id)) :
    SameBut (.tag id) before after where
  tag other distinct := by
    have found := congrArg (·.tag? other) same
    simp only [tag?_without, if_neg distinct] at found
    exact (Option.map_id' ..).symm.trans (found.trans (Option.map_id' ..))
  document other distinct := by
    have found := congrArg (·.document? other) same
    simpa only [document?_without, if_neg distinct] using found

/-- Where a document is put, no other record changes. -/
theorem sameBut_putDocument (catalog : Catalog) (id : Uuid) (document : Document) :
    SameBut (.document id) catalog (catalog.putDocument id document) where
  tag _ _ := rfl
  document other distinct := by
    rw [document?_putDocument, if_neg fun own ↦ distinct (congrArg Object.document own)]

end Catalog

end Tagging
