import Tagging.Proofs.Catalog.Refinement
import Tagging.Proofs.Service.Integrity

/-!
# Lists and details

A list has exactly the records that can be looked up one by one. Whether a record stands under its
own identifier matters here: a list asks for the permission on the identifier that is written in a
record, a lookup for that on the identifier that it is given.
-/

namespace Tagging

open Catalog (Lists)

/-- A list has the records that a lookup finds, none of them twice, by label and then by
identifier. -/
structure Shows {α : Type} (label : α → String) (id : α → Uuid) (records : List α)
    (found : α → Prop) : Prop extends Lists label id records found where
  nodup : records.Nodup

private theorem Shows.of_filter {α : Type} {label : α → String} {id : α → Uuid} {records : List α}
    {passes : α → Bool} {found : α → Prop}
    (ascending : records.Pairwise (byLabel label id · · = .lt))
    (finds : ∀ record, found record ↔ record ∈ records ∧ passes record) :
    Shows label id (records.filter passes) found where
  mem record := by rw [List.mem_filter, finds]
  ascending := ascending.filter _
  nodup := nodup_of_ascending (ascending.filter _)

namespace State

section

variable {state : State} {principal : Principal} {permission : Permission}

/-! ### Lookups -/

/-- A tag is found if it is there and the permission on it may be exercised. -/
theorem visibleTag_ok_iff {id : Uuid} {tag : Tag} :
    state.visibleTag principal permission id = .ok tag ↔
      state.catalog.tag? id = some tag ∧
        state.grants.allows principal permission (some (.tag id)) := by
  unfold visibleTag GrantIndex.check
  cases state.catalog.tag? id with
  | none => simp
  | some record =>
    cases state.grants.allows principal permission (some (.tag id)) <;> simp [bind, Except.bind]

/-- A document is found if it is there and the permission on it may be exercised. -/
theorem visibleDocument_ok_iff {id : Uuid} {document : Document} :
    state.visibleDocument principal permission id = .ok document ↔
      state.catalog.document? id = some document ∧
        state.grants.allows principal permission (some (.document id)) := by
  unfold visibleDocument GrantIndex.check
  cases state.catalog.document? id with
  | none => simp
  | some record =>
    cases state.grants.allows principal permission (some (.document id)) <;>
      simp [bind, Except.bind]

/-- A pair passes if both are there and the permission on each of them may be exercised. -/
theorem checkPair_ok_iff {document tag : Uuid} :
    state.checkPair principal permission document tag = .ok () ↔
      (∃ record, state.visibleDocument principal permission document = .ok record) ∧
        ∃ record, state.visibleTag principal permission tag = .ok record := by
  simp only [visibleDocument_ok_iff, visibleTag_ok_iff]
  unfold checkPair
  cases state.catalog.document? document with
  | none => simp
  | some _ =>
    cases state.catalog.tag? tag with
    | none => simp
    | some _ =>
      simp only [GrantIndex.checkAll, GrantIndex.check]
      cases state.grants.allows principal permission (some (.document document)) <;>
        cases state.grants.allows principal permission (some (.tag tag)) <;>
        simp [bind, Except.bind]

/-- With a document that is not found no pair is, for the same reason. -/
theorem checkPair_error {document : Uuid} {error : Error}
    (failed : state.visibleDocument principal permission document = .error error) (tag : Uuid) :
    state.checkPair principal permission document tag = .error error := by
  unfold visibleDocument GrantIndex.check at failed
  unfold checkPair
  cases there : state.catalog.document? document with
  | none => simpa [there] using failed
  | some record =>
    simp only [there] at failed
    split at failed
    · cases failed
    · next denied =>
      cases failed
      cases state.catalog.tag? tag with
      | none => rfl
      | some _ => simp [GrantIndex.checkAll, GrantIndex.check, denied, bind, Except.bind]

/-- A tag of a document is found if the document may be looked into, and the tag is visible and is
attached to it. -/
theorem documentTag_ok_iff {document id : Uuid} {tag : Tag} :
    state.documentTag principal document id = .ok tag ↔
      (∃ record, state.visibleDocument principal .tagView document = .ok record) ∧
        state.getTag principal id = .ok tag ∧ state.catalog.isAttached id document := by
  unfold documentTag getTag
  cases passed : state.checkPair principal .tagView document id with
  | error error =>
    refine iff_of_false (by simp [bind, Except.bind]) fun ⟨looked, found, _⟩ ↦ ?_
    rw [checkPair_ok_iff.mpr ⟨looked, tag, found⟩] at passed
    cases passed
  | ok _ =>
    obtain ⟨looked, record, found⟩ := checkPair_ok_iff.mp passed
    have there := (visibleTag_ok_iff.mp found).1
    rw [found, and_iff_right looked]
    by_cases attached : state.catalog.isAttached id document
    · simp [attached, there, bind, Except.bind]
    · simp [attached, bind, Except.bind]

/-- The tags of a document are told if it may be looked into. -/
theorem documentTags_ok_iff {document : Uuid} {tags : List Tag} :
    state.documentTags principal document = .ok tags ↔
      (∃ record, state.visibleDocument principal .tagView document = .ok record) ∧
        state.viewableTags principal (state.catalog.documentTags document) = tags := by
  unfold documentTags
  cases state.visibleDocument principal .tagView document <;> simp [bind, Except.bind]

/-- Of a document whose tags are not told no tag is found, for the same reason. -/
theorem documentTag_error {document : Uuid} {error : Error}
    (failed : state.documentTags principal document = .error error) (tag : Uuid) :
    state.documentTag principal document tag = .error error := by
  rw [documentTags] at failed
  cases looked : state.visibleDocument principal .tagView document with
  | error reason =>
    rw [looked] at failed
    cases failed
    rw [documentTag, checkPair_error looked tag]
    rfl
  | ok _ =>
    rw [looked] at failed
    cases failed

/-- The documents of a tag are told if the tag may be looked up. -/
theorem tagDocuments_ok_iff {tag : Uuid} {documents : List Document} :
    state.tagDocuments principal tag = .ok documents ↔
      (∃ record, state.getTag principal tag = .ok record) ∧
        state.viewableDocuments principal (state.catalog.tagDocuments tag) = documents := by
  unfold tagDocuments getTag
  cases state.visibleTag principal .tagView tag <;> simp [bind, Except.bind]

end

end State

/-- Whatever a service has lived through, what a principal is shown in a list is what the principal
finds one by one. -/
theorem Service.live_shows (persistent : Bool) (turns : List Turn) (principal : Principal) :
    let state := ((fresh persistent).live turns).state
    Shows Tag.label Tag.id (state.listTags principal)
        (fun tag ↦ state.getTag principal tag.id = .ok tag) ∧
      Shows Document.label Document.id (state.listDocuments principal)
        (fun document ↦ state.getDocument principal document.id = .ok document) ∧
      (∀ document,
        (∀ tags, state.documentTags principal document = .ok tags →
          Shows Tag.label Tag.id tags fun tag ↦
            state.documentTag principal document tag.id = .ok tag) ∧
        ∀ error, state.documentTags principal document = .error error →
          ∀ tag, state.documentTag principal document tag = .error error) ∧
      ∀ tag,
        ((∃ documents, state.tagDocuments principal tag = .ok documents) ↔
          ∃ record, state.getTag principal tag = .ok record) ∧
        ∀ documents, state.tagDocuments principal tag = .ok documents →
          Shows Document.label Document.id documents fun document ↦
            state.getDocument principal document.id = .ok document ∧
              state.catalog.isAttached tag document.id := by
  intro state
  have intact : state.Intact :=
    (keeps_live State.intact_empty (fun _ _ becomes sound ↦ sound.becomes becomes)
      persistent turns).state
  have sound := intact.wellKeyed
  refine ⟨.of_filter (Catalog.ascending_listTags sound) fun tag ↦ ?_,
    .of_filter (Catalog.ascending_listDocuments sound) fun document ↦ ?_,
    fun document ↦ ⟨fun tags told ↦ ?_, fun error failed tag ↦ ?_⟩,
    fun tag ↦ ⟨?_, fun documents told ↦ ?_⟩⟩
  · rw [State.getTag, State.visibleTag_ok_iff, Catalog.mem_listTags sound]
  · rw [State.getDocument, State.visibleDocument_ok_iff, Catalog.mem_listDocuments sound]
  · obtain ⟨looked, rfl⟩ := State.documentTags_ok_iff.mp told
    refine .of_filter (Catalog.ascending_documentTags sound document) fun tag ↦ ?_
    rw [State.documentTag_ok_iff, and_iff_right looked, State.getTag, State.visibleTag_ok_iff,
      Catalog.mem_documentTags sound, and_right_comm]
  · exact State.documentTag_error failed tag
  · simp [State.tagDocuments_ok_iff]
  · obtain ⟨_, rfl⟩ := State.tagDocuments_ok_iff.mp told
    refine .of_filter (Catalog.ascending_tagDocuments sound tag) fun document ↦ ?_
    rw [State.getDocument, State.visibleDocument_ok_iff, Catalog.mem_tagDocuments sound,
      and_right_comm]

end Tagging
