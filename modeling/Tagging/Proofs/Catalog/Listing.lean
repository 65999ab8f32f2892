import Tagging.Order
import Tagging.Proofs.Catalog.Lookup

/-!
# Listings

A listing is known by its members: they stand in strictly ascending order, by label and then by
identifier, so that two listings with the same members are equal. What is a member is what the
lookups find.
-/

namespace Tagging

open Std (ExtTreeMap ExtTreeSet)

/-! ### Records by label and identifier -/

/-- The order in which records are listed. -/
def byLabel {α : Type} (label : α → String) (id : α → Uuid) : α → α → Ordering :=
  compareLex (compareOn label) (compareOn id)

section

variable {α : Type} {label : α → String} {id : α → Uuid}

instance : Std.TransCmp (byLabel label id) :=
  inferInstanceAs (Std.TransCmp (compareLex (compareOn label) (compareOn id)))

private theorem byLabel_ne {a b : α} (distinct : id a ≠ id b) : byLabel label id a b ≠ .eq := by
  intro same
  simp only [byLabel, compareLex, Ordering.then_eq_eq, compareOn,
    Std.LawfulEqOrd.compare_eq_iff_eq] at same
  exact distinct same.2

private theorem values_eq (map : ExtTreeMap Uuid α) : map.values = map.toList.map (·.2) := by
  obtain ⟨⟨q⟩⟩ := map
  induction q using Quotient.ind with
  | _ t =>
    change t.inner.values = (Std.DTreeMap.Internal.Impl.Const.toList t.inner).map (·.2)
    rw [Std.DTreeMap.Internal.Impl.values_eq_map_snd,
      Std.DTreeMap.Internal.Impl.Const.toList_eq_toListModel_map, List.map_map]
    rfl

private theorem mem_values {map : ExtTreeMap Uuid α} {value : α} :
    value ∈ map.values ↔ ∃ key : Uuid, map[key]? = some value := by
  simp only [values_eq, List.mem_map, Prod.exists, ExtTreeMap.mem_toList_iff_getElem?_eq_some,
    exists_eq_right]

/-- A map has as many values as entries. -/
theorem length_values (map : ExtTreeMap Uuid α) : map.values.length = map.size := by
  rw [values_eq, List.length_map, ExtTreeMap.length_toList]

private theorem pairwise_values {map : ExtTreeMap Uuid α}
    (own : ∀ key value, map[key]? = some value → id value = key) :
    map.values.Pairwise (byLabel label id · · ≠ .eq) := by
  rw [values_eq, List.pairwise_map]
  refine ExtTreeMap.distinct_keys_toList.imp_of_mem ?_
  intro a b first second distinct
  have left := own _ _ (ExtTreeMap.mem_toList_iff_getElem?_eq_some.mp first)
  have right := own _ _ (ExtTreeMap.mem_toList_iff_getElem?_eq_some.mp second)
  apply byLabel_ne
  rw [left, right]
  exact fun same ↦ distinct (Std.LawfulEqOrd.compare_eq_iff_eq.mpr same)

end

namespace Catalog

variable {catalog : Catalog}

/-! ### The listings of a catalog -/

/-- The tags that are listed are those that are there. -/
theorem mem_listTags (sound : catalog.WellKeyed) {tag : Tag} :
    tag ∈ catalog.listTags ↔ catalog.tag? tag.id = some tag := by
  rw [listTags, List.mem_mergeSort, mem_values]
  constructor
  · rintro ⟨id, found⟩
    rwa [sound.tag id tag found]
  · intro found
    exact ⟨tag.id, found⟩

/-- All documents are listed. -/
theorem length_listDocuments (catalog : Catalog) :
    catalog.listDocuments.length = catalog.documents.size := by
  rw [listDocuments, List.length_mergeSort, length_values]

/-- The tags of a document are those that are attached to it. -/
theorem mem_documentTags (sound : catalog.WellKeyed) {document : Uuid} {tag : Tag} :
    tag ∈ catalog.documentTags document ↔
      catalog.tag? tag.id = some tag ∧ catalog.isAttached tag.id document := by
  rw [documentTags, List.mem_filter, mem_listTags sound]
  refine and_congr_right fun found ↦ ?_
  rw [isAttached, found, Option.any_some]

/-- The documents that are listed are those that are there. -/
theorem mem_listDocuments (sound : catalog.WellKeyed) {document : Document} :
    document ∈ catalog.listDocuments ↔ catalog.document? document.id = some document := by
  rw [listDocuments, List.mem_mergeSort, mem_values]
  constructor
  · rintro ⟨id, found⟩
    rwa [sound.document id document found]
  · intro found
    exact ⟨document.id, found⟩

/-- The documents of a tag are those that it is attached to, as far as they are there. -/
theorem mem_tagDocuments (sound : catalog.WellKeyed) {tag : Uuid} {document : Document} :
    document ∈ catalog.tagDocuments tag ↔
      catalog.document? document.id = some document ∧ catalog.isAttached tag document.id := by
  have attached : document ∈ catalog.tagDocuments tag ↔
      ∃ id, catalog.isAttached tag id ∧ catalog.document? id = some document := by
    unfold tagDocuments isAttached
    cases catalog.tag? tag with
    | none => simp
    | some record => simp [List.mem_mergeSort]
  rw [attached]
  constructor
  · rintro ⟨id, attached, found⟩
    rw [sound.document id document found]
    exact ⟨found, attached⟩
  · rintro ⟨found, attached⟩
    exact ⟨document.id, attached, found⟩

/-- Tags are listed in ascending order. -/
theorem ascending_listTags (sound : catalog.WellKeyed) :
    catalog.listTags.Pairwise (byLabel Tag.label Tag.id · · = .lt) :=
  ascending_mergeSort (pairwise_values sound.tag)

/-- Documents are listed in ascending order. -/
theorem ascending_listDocuments (sound : catalog.WellKeyed) :
    catalog.listDocuments.Pairwise (byLabel Document.label Document.id · · = .lt) :=
  ascending_mergeSort (pairwise_values sound.document)

/-- The tags of a document are listed in ascending order. -/
theorem ascending_documentTags (sound : catalog.WellKeyed) (document : Uuid) :
    (catalog.documentTags document).Pairwise (byLabel Tag.label Tag.id · · = .lt) :=
  (ascending_listTags sound).filter _

/-- The documents of a tag are listed in ascending order. -/
theorem ascending_tagDocuments (sound : catalog.WellKeyed) (tag : Uuid) :
    (catalog.tagDocuments tag).Pairwise (byLabel Document.label Document.id · · = .lt) := by
  unfold tagDocuments
  cases catalog.tag? tag with
  | none => exact .nil
  | some record =>
    apply ascending_mergeSort
    rw [List.pairwise_filterMap]
    refine ExtTreeSet.distinct_toList.imp ?_
    intro a b distinct first left second right
    apply byLabel_ne
    rw [sound.document a first left, sound.document b second right]
    exact fun same ↦ distinct (Std.LawfulEqOrd.compare_eq_iff_eq.mpr same)

end Catalog

end Tagging
