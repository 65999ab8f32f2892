import Mathlib.Data.List.Nodup
import Mathlib.Data.Set.Card
import Tagging.Proofs.Catalog.Listing
import Tagging.Proofs.Service.Integrity
import Tagging.Proofs.Uuid
import Tagging.Service.Statistic

/-!
# Figures about attachments

Attachments are kept with the tags. Some figures ask the tags how many documents they have, others
ask of each document which tags it has. Whatever a service has lived through, both count the same
pairs, since no attachment names a document that does not exist.
-/

namespace Tagging

open Std (ExtTreeSet)

private theorem encard_eq_length {α : Type} {members : Set α} {items : List α}
    (distinct : items.Nodup) (named : ∀ item, item ∈ items ↔ item ∈ members) :
    members.encard = items.length := by
  classical
  have same : members = ↑items.toFinset := by
    ext item
    rw [List.coe_toFinset, Set.mem_ofPred_eq, named]
  rw [same, Set.encard_coe_eq_coe_finsetCard, List.toFinset_card_of_nodup distinct]

namespace Catalog

variable {catalog : Catalog}

/-! ### Records in a listing -/

private theorem nodup_ids_of_found {α : Type} {records : List α} {id : α → Uuid}
    {find? : Uuid → Option α} (distinct : records.Nodup)
    (found : ∀ record ∈ records, find? (id record) = some record) : (records.map id).Nodup := by
  refine distinct.map_on fun a first b second same ↦ Option.some.inj ?_
  rw [← found a first, same, found b second]

/-- Tags are listed with different identifiers. -/
theorem nodup_ids_listTags (sound : catalog.WellKeyed) :
    (catalog.listTags.map (·.id)).Nodup :=
  nodup_ids_of_found (nodup_of_ascending (ascending_listTags sound))
    fun _ ↦ (mem_listTags sound).mp

/-- Documents are listed with different identifiers. -/
theorem nodup_ids_listDocuments (sound : catalog.WellKeyed) :
    (catalog.listDocuments.map (·.id)).Nodup :=
  nodup_ids_of_found (nodup_of_ascending (ascending_listDocuments sound))
    fun _ ↦ (mem_listDocuments sound).mp

private theorem isAttached_of_mem_listTags (sound : catalog.WellKeyed) {tag : Tag}
    (listed : tag ∈ catalog.listTags) (document : Uuid) :
    catalog.isAttached tag.id document = tag.documents.contains document := by
  rw [isAttached, (mem_listTags sound).mp listed, Option.any_some]

/-! ### Attached pairs -/

/-- The attached pairs as the tags tell them. -/
def pairsOfTags (catalog : Catalog) : List (Uuid × Uuid) :=
  catalog.listTags.flatMap fun tag ↦ tag.documents.toList.map (tag.id, ·)

/-- The attached pairs as the documents tell them. -/
def pairsOfDocuments (catalog : Catalog) : List (Uuid × Uuid) :=
  catalog.listDocuments.flatMap fun document ↦
    (catalog.documentTags document.id).map (·.id, document.id)

private theorem mem_pairsOfTags (sound : catalog.WellKeyed) (pair : Uuid × Uuid) :
    pair ∈ catalog.pairsOfTags ↔ catalog.isAttached pair.1 pair.2 := by
  obtain ⟨id, document⟩ := pair
  simp only [pairsOfTags, List.mem_flatMap, List.mem_map, Prod.mk.injEq]
  constructor
  · rintro ⟨tag, listed, other, member, rfl, rfl⟩
    rw [isAttached_of_mem_listTags sound listed]
    exact ExtTreeSet.contains_iff_mem.mpr (ExtTreeSet.mem_toList.mp member)
  · intro attached
    rw [isAttached, Option.any_eq_true] at attached
    obtain ⟨tag, found, contained⟩ := attached
    have own := sound.tag id tag found
    have listed : tag ∈ catalog.listTags := (mem_listTags sound).mpr (by rwa [own])
    have member := ExtTreeSet.mem_toList.mpr (ExtTreeSet.contains_iff_mem.mp contained)
    exact ⟨tag, listed, document, member, own, rfl⟩

private theorem mem_pairsOfDocuments (sound : catalog.WellKeyed) (intact : catalog.Intact)
    (pair : Uuid × Uuid) : pair ∈ catalog.pairsOfDocuments ↔ catalog.isAttached pair.1 pair.2 := by
  obtain ⟨id, other⟩ := pair
  simp only [pairsOfDocuments, List.mem_flatMap, List.mem_map, Prod.mk.injEq]
  constructor
  · rintro ⟨document, listed, tag, member, rfl, rfl⟩
    exact ((mem_documentTags sound).mp member).2
  · intro attached
    obtain ⟨document, present⟩ := Option.isSome_iff_exists.mp (intact id other attached)
    obtain ⟨tag, found⟩ := Option.isSome_iff_exists.mp (has_of_isAttached attached)
    have own : document.id = other := sound.document other document present
    have ownTag : tag.id = id := sound.tag id tag found
    refine ⟨document, ?_, tag, ?_, ownTag, own⟩
    · rw [mem_listDocuments sound, own]
      exact present
    · rw [mem_documentTags sound, ownTag, own]
      exact ⟨found, attached⟩

private theorem nodup_flatMap_of_keys {α : Type} {items : List α} {key : α → Uuid}
    {pairs : α → List (Uuid × Uuid)} (side : Uuid × Uuid → Uuid)
    (distinct : (items.map key).Nodup) (each : ∀ item, (pairs item).Nodup)
    (keyed : ∀ item, ∀ pair ∈ pairs item, side pair = key item) : (items.flatMap pairs).Nodup := by
  rw [List.nodup_flatMap]
  refine ⟨fun item _ ↦ each item, (List.pairwise_map.mp distinct).imp fun {a b} differ ↦ ?_⟩
  intro pair first second
  exact differ ((keyed a pair first).symm.trans (keyed b pair second))

private theorem nodup_pairsOfTags (sound : catalog.WellKeyed) : catalog.pairsOfTags.Nodup := by
  apply nodup_flatMap_of_keys Prod.fst (nodup_ids_listTags sound)
  · intro tag
    have documents : tag.documents.toList.Nodup := nodup_of_ascending tag.documents.ordered_toList
    exact documents.map (Prod.mk_right_injective tag.id)
  · intro tag pair member
    obtain ⟨document, _, rfl⟩ := List.mem_map.mp member
    rfl

private theorem nodup_pairsOfDocuments (sound : catalog.WellKeyed) :
    catalog.pairsOfDocuments.Nodup := by
  apply nodup_flatMap_of_keys Prod.snd (nodup_ids_listDocuments sound)
  · intro document
    have tags : ((catalog.documentTags document.id).map (·.id)).Nodup :=
      (nodup_ids_listTags sound).sublist (List.filter_sublist.map _)
    have pairs := tags.map (Prod.mk_left_injective document.id)
    rwa [List.map_map] at pairs
  · intro document pair member
    obtain ⟨tag, _, rfl⟩ := List.mem_map.mp member
    rfl

private theorem length_pairs (sound : catalog.WellKeyed) (intact : catalog.Intact) :
    catalog.pairsOfTags.length = catalog.pairsOfDocuments.length := by
  have perm := (List.perm_ext_iff_of_nodup (nodup_pairsOfTags sound)
    (nodup_pairsOfDocuments sound)).mpr fun pair ↦ by
      rw [mem_pairsOfTags sound, mem_pairsOfDocuments sound intact]
  exact perm.length_eq

private theorem documentTags_ne_nil_iff (sound : catalog.WellKeyed) (document : Uuid) :
    catalog.documentTags document ≠ [] ↔ ∃ tag, catalog.isAttached tag document := by
  constructor
  · intro some_tag
    obtain ⟨tag, member⟩ := List.exists_mem_of_ne_nil _ some_tag
    exact ⟨tag.id, ((mem_documentTags sound).mp member).2⟩
  · rintro ⟨id, attached⟩
    obtain ⟨tag, found⟩ := Option.isSome_iff_exists.mp (has_of_isAttached attached)
    obtain rfl : tag.id = id := sound.tag id tag found
    exact List.ne_nil_of_mem ((mem_documentTags sound).mpr ⟨found, attached⟩)

private theorem encard_tagged (sound : catalog.WellKeyed) :
    {id | catalog.has (.document id) ∧ ∃ tag, catalog.isAttached tag id}.encard =
      Statistic.taggedCount catalog := by
  rw [Statistic.taggedCount, List.countP_eq_length_filter, ← List.length_map Document.id]
  refine encard_eq_length ((nodup_ids_listDocuments sound).sublist
    (List.filter_sublist.map _)) fun id ↦ ?_
  have tagged (document : Uuid) : (!(catalog.documentTags document).isEmpty) = true ↔
      ∃ tag, catalog.isAttached tag document := by
    rw [← documentTags_ne_nil_iff sound, Bool.not_eq_true', List.isEmpty_eq_false_iff]
  simp only [List.mem_map, List.mem_filter, tagged]
  constructor
  · rintro ⟨document, ⟨listed, attached⟩, rfl⟩
    exact ⟨has_document ((mem_listDocuments sound).mp listed), attached⟩
  · rintro ⟨present, attached⟩
    obtain ⟨document, found⟩ := Option.isSome_iff_exists.mp present
    obtain rfl := sound.document id document found
    exact ⟨document, ⟨(mem_listDocuments sound).mpr found, attached⟩, rfl⟩

end Catalog

namespace Statistic

private theorem id_eq_of_label_eq {a b : Tag}
    (same : a.label ++ " (" ++ a.id.toString ++ ")" = b.label ++ " (" ++ b.id.toString ++ ")") :
    a.id = b.id := by
  have texts := congrArg String.toList same
  simp only [String.toList_append, Uuid.toString, String.toList_ofList] at texts
  have long : a.id.toText.length = b.id.toText.length := by
    rw [Uuid.length_toText, Uuid.length_toText]
  exact Uuid.toText_injective (List.append_inj' (List.append_cancel_right texts) long).2

/-- Of the documents that there are, no more can have a tag. -/
theorem taggedCount_le (catalog : Catalog) : taggedCount catalog ≤ catalog.documents.size := by
  rw [← catalog.length_listDocuments]
  exact List.countP_le_length

/-- The points of the documents per tag have different labels. -/
theorem nodup_labels_documentsPerTag {state : State} (sound : state.catalog.WellKeyed) :
    ((documentsPerTag.series state).map (·.label)).Nodup := by
  have ids := List.pairwise_map.mp (Catalog.nodup_ids_listTags sound)
  rw [series, List.map_map, List.Nodup, List.pairwise_map]
  exact ids.imp fun differ same ↦ differ (id_eq_of_label_eq same)

/-- The values of the documents per tag add up to the number of attached pairs. -/
theorem sum_documentsPerTag (state : State) :
    ((documentsPerTag.series state).map (·.value)).sum = state.catalog.pairsOfTags.length := by
  rw [series, List.map_map, Catalog.pairsOfTags, List.length_flatMap]
  congr 1
  refine List.map_congr_left fun tag _ ↦ ?_
  rw [List.length_map, ExtTreeSet.length_toList]
  rfl

end Statistic

/-- The figures about attachments count which tag is attached to which document. -/
structure State.CountsAttachments (state : State) : Prop where
  tagged : ∃ count : Nat, Statistic.taggedDocuments.series state = [⟨"documents", count⟩] ∧
    {id | state.catalog.has (.document id) ∧ ∃ tag, state.catalog.isAttached tag id}.encard = count
  /-- Each tag is listed once, and nothing else is. -/
  listed : ∀ tag, state.catalog.listTags.count tag =
    if state.catalog.tag? tag.id = some tag then 1 else 0
  /-- The points are those of the tags in the order of the listing. -/
  points : List.Forall₂ (fun tag point ↦
      point.label = tag.label ++ " (" ++ tag.id.toString ++ ")" ∧
        {id | state.catalog.isAttached tag.id id}.encard = point.value)
    state.catalog.listTags (Statistic.documentsPerTag.series state)
  distinct : ((Statistic.documentsPerTag.series state).map (·.label)).Nodup
  pairs : {pair : Uuid × Uuid | state.catalog.isAttached pair.1 pair.2}.encard =
    ((Statistic.documentsPerTag.series state).map (·.value)).sum
  perDocument : ((Statistic.documentsPerTag.series state).map (·.value)).sum =
    (state.catalog.listDocuments.map fun document ↦
      (state.catalog.documentTags document.id).length).sum

/-- In an intact state the figures about attachments count the attached pairs. -/
theorem State.Intact.countsAttachments {state : State} (intact : state.Intact) :
    state.CountsAttachments where
  tagged := ⟨_, rfl, Catalog.encard_tagged intact.wellKeyed⟩
  listed tag := by
    have distinct := nodup_of_ascending (Catalog.ascending_listTags intact.wellKeyed)
    simp only [distinct.count, Catalog.mem_listTags intact.wellKeyed]
  points := by
    rw [Statistic.series, List.forall₂_map_right_iff, List.forall₂_same]
    intro tag listed
    refine ⟨rfl, ?_⟩
    rw [← ExtTreeSet.length_toList]
    refine encard_eq_length (nodup_of_ascending tag.documents.ordered_toList) fun id ↦ ?_
    rw [ExtTreeSet.mem_toList, ← ExtTreeSet.contains_iff_mem,
      ← Catalog.isAttached_of_mem_listTags intact.wellKeyed listed]
    rfl
  distinct := Statistic.nodup_labels_documentsPerTag intact.wellKeyed
  pairs := by
    rw [Statistic.sum_documentsPerTag]
    exact encard_eq_length (Catalog.nodup_pairsOfTags intact.wellKeyed)
      (Catalog.mem_pairsOfTags intact.wellKeyed)
  perDocument := by
    have whole := (State.attached_iff state.catalog).mp intact.attached
    rw [Statistic.sum_documentsPerTag, Catalog.length_pairs intact.wellKeyed whole,
      Catalog.pairsOfDocuments, List.length_flatMap]
    simp only [List.length_map]

/-- In any state whatever the documents with and without tags add up to all documents, and no more
documents are counted as tagged than there are. In a state that a service comes to, the documents
that are counted as tagged are those that a tag is attached to; the documents per tag have one point
for each tag in the order of the listing, under labels that differ; and their sum is the number of
attached pairs, which is also what the tags of all documents add up to. -/
theorem Service.live_countsAttachments (state : State) (persistent : Bool) (turns : List Turn) :
    (∃ tagged untagged : Nat,
      Statistic.taggedDocuments.series state = [⟨"documents", tagged⟩] ∧
        Statistic.untaggedDocuments.series state = [⟨"documents", untagged⟩] ∧
        Statistic.totalDocuments.series state = [⟨"documents", tagged + untagged⟩]) ∧
    Statistic.taggedCount state.catalog ≤ state.catalog.documents.size ∧
    ((fresh persistent).live turns).state.CountsAttachments := by
  have within := Statistic.taggedCount_le state.catalog
  refine ⟨⟨_, _, rfl, rfl, ?_⟩, within, ?_⟩
  · rw [Nat.add_sub_cancel' within]
    rfl
  · have intact : ((fresh persistent).live turns).state.Intact :=
      (keeps_live State.intact_empty (fun _ _ becomes sound ↦ sound.becomes becomes)
        persistent turns).state
    exact intact.countsAttachments

end Tagging
