import Tagging.Proofs.Catalog.Presence

/-!
# Amendments

Changes to a tag that is there: to its attachments and to its fields. Each touches one place of the
tag, and two that touch different places may be made in any order.
-/

namespace Tagging

open Std (ExtTreeSet)

/-- A change to a tag that is there. -/
inductive Amendment where
  | attach (document tag : Uuid)
  | remove (document tag : Uuid)
  | replace (tag : Uuid) (label color : Option String)
  | update (tag : Uuid) (patch : TagPatch)

/-- What an amendment touches: an attachment, or the label and the colour of a tag. -/
inductive Place where
  | attachment (document tag : Uuid)
  | fields (tag : Uuid)
  deriving DecidableEq

namespace Tag

/-- The tag attached to a document, or detached from it. -/
def mark (tag : Tag) (document : Uuid) (attached : Bool) : Tag :=
  { tag with
    documents :=
      if attached then tag.documents.insert document else tag.documents.erase document }

/-- The tag with a new label and a new colour, as far as they are given. -/
def relabel (tag : Tag) (label color : Option String) : Tag :=
  { tag with label := label.getD tag.label, color := color.getD tag.color }

private theorem contains_mark (tag : Tag) (document : Uuid) (attached : Bool) (other : Uuid) :
    (tag.mark document attached).documents.contains other =
      if document = other then attached else tag.documents.contains other := by
  cases attached <;> by_cases same : document = other <;> simp [mark, same]

private theorem mark_comm (tag : Tag) {document second : Uuid} (apart : document ≠ second)
    (attached attached' : Bool) :
    (tag.mark document attached).mark second attached' =
      (tag.mark second attached').mark document attached := by
  have documents : ((tag.mark document attached).mark second attached').documents =
      ((tag.mark second attached').mark document attached).documents := by
    apply ExtTreeSet.ext_contains
    intro other
    rw [contains_mark, contains_mark, contains_mark, contains_mark]
    by_cases own : document = other
    · have different : second ≠ other := fun same ↦ apart (own.trans same.symm)
      rw [if_neg different, if_pos own, if_pos own]
    · rw [if_neg own, if_neg own]
  exact congrArg (fun documents ↦ { tag with documents }) documents

end Tag

namespace Amendment

/-- The tag that an amendment changes. -/
def tag : Amendment → Uuid
  | .attach _ tag | .remove _ tag | .replace tag .. | .update tag _ => tag

/-- What an amendment touches. -/
def place : Amendment → Place
  | .attach document tag | .remove document tag => .attachment document tag
  | .replace tag .. | .update tag _ => .fields tag

/-- What an amendment makes of its tag, as far as what it gives is valid. -/
def touch : Amendment → Tag → Tag
  | .attach document _, tag => tag.mark document true
  | .remove document _, tag => tag.mark document false
  | .replace _ label color, tag =>
    tag.relabel (validLabel (label.getD "")).toOption
      (validColor (color.getD defaultColor)).toOption
  | .update _ patch, tag =>
    tag.relabel (patch.label.mapM validLabel).toOption.join
      (patch.color.mapM validColor).toOption.join

private theorem touch_cases (amendment : Amendment) :
    (∃ document attached, amendment.place = .attachment document amendment.tag ∧
      ∀ tag, amendment.touch tag = tag.mark document attached) ∨
    ∃ label color, amendment.place = .fields amendment.tag ∧
      ∀ tag, amendment.touch tag = tag.relabel label color := by
  cases amendment with
  | attach document tag => exact .inl ⟨document, true, rfl, fun _ ↦ rfl⟩
  | remove document tag => exact .inl ⟨document, false, rfl, fun _ ↦ rfl⟩
  | replace tag label color => exact .inr ⟨_, _, rfl, fun _ ↦ rfl⟩
  | update tag patch => exact .inr ⟨_, _, rfl, fun _ ↦ rfl⟩

private theorem touch_comm {one other : Amendment} (apart : one.place ≠ other.place)
    (same : one.tag = other.tag) (tag : Tag) :
    one.touch (other.touch tag) = other.touch (one.touch tag) := by
  obtain ⟨document, attached, place, touch⟩ | ⟨label, color, place, touch⟩ := one.touch_cases
  all_goals obtain ⟨document', attached', place', touch'⟩ | ⟨label', color', place', touch'⟩ :=
    other.touch_cases
  · have distinct : document' ≠ document := by
      rintro rfl
      exact apart (by rw [place, place', same])
    simp only [touch, touch', tag.mark_comm distinct]
  · simp only [touch, touch']
    rfl
  · simp only [touch, touch']
    rfl
  · exact absurd (by rw [place, place', same]) apart

private theorem contains_touch {amendment : Amendment} {document : Uuid}
    (apart : amendment.place ≠ .attachment document amendment.tag) (tag : Tag) :
    (amendment.touch tag).documents.contains document = tag.documents.contains document := by
  obtain ⟨own, attached, place, touch⟩ | ⟨label, color, place, touch⟩ := amendment.touch_cases
  · have distinct : own ≠ document := by
      rintro rfl
      exact apart place
    rw [touch, Tag.contains_mark, if_neg distinct]
  · rw [touch]
    rfl

end Amendment

namespace Catalog

/-! ### A tag that is changed -/

/-- The catalog with one tag changed, if it is there. -/
def modify (catalog : Catalog) (id : Uuid) (change : Tag → Tag) : Catalog :=
  match catalog.tag? id with
  | some tag => catalog.putTag id (change tag)
  | none => catalog

section

variable (catalog : Catalog) (id : Uuid) (change : Tag → Tag)

/-- The tags that are found once one of them has been changed. -/
theorem tag?_modify (other : Uuid) :
    (catalog.modify id change).tag? other =
      if id = other then (catalog.tag? other).map change else catalog.tag? other := by
  unfold modify
  split
  · next tag found =>
    rw [tag?_putTag]
    split
    · next own => rw [← own, found, Option.map_some]
    · rfl
  · next absent =>
    split
    · next own => rw [← own, absent, Option.map_none]
    · rfl

/-- A tag that is changed leaves the documents. -/
theorem document?_modify (other : Uuid) :
    (catalog.modify id change).document? other = catalog.document? other := by
  unfold modify
  split <;> rfl

/-- A tag that is changed stays. -/
theorem has_modify (object : Object) :
    (catalog.modify id change).has object = catalog.has object := by
  obtain ⟨kind, other⟩ := object
  cases kind with
  | tag =>
    simp only [has, tag?_modify]
    split
    · exact Option.isSome_map
    · rfl
  | document => simp only [has, document?_modify]

/-- Two tags may be changed in any order, and so may one, if the two changes allow it. -/
theorem modify_comm {second : Uuid} {change' : Tag → Tag}
    (commute : id = second → ∀ tag, change (change' tag) = change' (change tag)) :
    (catalog.modify second change').modify id change =
      (catalog.modify id change).modify second change' := by
  apply eq_of_lookups
  · intro other
    rw [tag?_modify, tag?_modify, tag?_modify, tag?_modify]
    by_cases own : id = other
    · by_cases own' : second = other
      · rw [if_pos own, if_pos own', if_pos own, if_pos own', Option.map_map, Option.map_map]
        congr 1
        funext tag
        exact commute (own.trans own'.symm) tag
      · rw [if_pos own, if_neg own', if_neg own', if_pos own]
    · rw [if_neg own, if_neg own]
  · intro other
    rw [document?_modify, document?_modify, document?_modify, document?_modify]

end

section

variable {catalog left : Catalog}

/-- What becomes of a catalog through an amendment. -/
def amend (catalog : Catalog) (amendment : Amendment) : Catalog :=
  catalog.modify amendment.tag amendment.touch

/-- Amendments in different places may be made in any order. -/
theorem amend_comm (catalog : Catalog) {one other : Amendment} (apart : one.place ≠ other.place) :
    (catalog.amend other).amend one = (catalog.amend one).amend other :=
  catalog.modify_comm _ _ fun same ↦ Amendment.touch_comm apart same

/-- An amendment leaves the attachments that it does not touch. -/
theorem isAttached_amend (catalog : Catalog) {amendment : Amendment} {document tag : Uuid}
    (apart : amendment.place ≠ .attachment document tag) :
    (catalog.amend amendment).isAttached tag document = catalog.isAttached tag document := by
  rw [isAttached, isAttached, amend, tag?_modify]
  split
  · next own =>
    subst own
    rw [Option.any_map]
    congr 1
    funext record
    exact Amendment.contains_touch apart record
  · rfl

/-- What becomes of a catalog in which a tag is attached to a document. -/
theorem amend_of_attach {tag document : Uuid} {new : Bool}
    (made : catalog.attach tag document = (.ok new, left)) :
    left = catalog.amend (.attach document tag) := by
  unfold attach at made
  split at made
  · next found =>
    cases made
    simp only [amend, modify, Amendment.tag, found]
    rfl
  · cases made

/-- What becomes of a catalog in which a tag is detached from a document. -/
theorem amend_of_remove {tag document : Uuid}
    (made : catalog.remove tag document = (.ok (), left)) :
    left = catalog.amend (.remove document tag) := by
  unfold remove at made
  split at made
  · cases made
  · next found =>
    split at made
    · cases made
      simp only [amend, modify, Amendment.tag, found]
      rfl
    · cases made

/-- What becomes of a catalog in which a tag is replaced. -/
theorem amend_of_replaceTag {id : Uuid} {label color : Option String} {tag : Tag}
    (made : catalog.replaceTag id (label.getD "") color = (.ok tag, left)) :
    left = catalog.amend (.replace id label color) := by
  unfold replaceTag at made
  split at made
  · cases made
  · cases made
  · next valid validColor =>
    split at made
    · cases made
    · next found =>
      cases made
      simp only [amend, modify, Amendment.tag, found, Amendment.touch, valid, validColor]
      rfl

/-- What becomes of a catalog in which a tag is updated. -/
theorem amend_of_updateTag {id : Uuid} {patch : TagPatch} {tag : Tag}
    (made : catalog.updateTag id patch = (.ok tag, left)) :
    left = catalog.amend (.update id patch) := by
  unfold updateTag at made
  split at made
  · cases made
  · cases made
  · next valid validColor =>
    split at made
    · cases made
    · next found =>
      cases made
      simp only [amend, modify, Amendment.tag, found, Amendment.touch, valid, validColor]
      rfl

end

end Catalog

end Tagging
