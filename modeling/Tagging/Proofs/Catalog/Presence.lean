import Tagging.Proofs.Audit.Telling
import Tagging.Proofs.Catalog.Lookup

/-!
# What a catalog has

Which objects are there and which tags are attached to which documents: that much of a catalog can
be told by events. For each change that goes well, the event that records it tells all that it
changes of this, so that what it does not tell of is as it was before.
-/

namespace Tagging.Catalog

open Std (ExtTreeMap ExtTreeSet)

/-- The object is in the catalog. -/
def has (catalog : Catalog) (object : Object) : Bool :=
  match object.kind with
  | .tag => (catalog.tag? object.id).isSome
  | .document => (catalog.document? object.id).isSome

/-- A tag that is found is there. -/
theorem has_tag {catalog : Catalog} {id : Uuid} {tag : Tag} (found : catalog.tag? id = some tag) :
    catalog.has (.tag id) := by
  simp [has, Object.tag, found]

/-- A document that is found is there. -/
theorem has_document {catalog : Catalog} {id : Uuid} {document : Document}
    (found : catalog.document? id = some document) : catalog.has (.document id) := by
  simp [has, Object.document, found]

/-- Where a tag is attached to a document, the tag is there. -/
theorem has_of_isAttached {catalog : Catalog} {tag document : Uuid}
    (attached : catalog.isAttached tag document) : catalog.has (.tag tag) := by
  rw [isAttached, Option.any_eq_true] at attached
  obtain ⟨record, found, _⟩ := attached
  exact has_tag found

/-! ### Parts of a change -/

/-- A tag that is put is there. -/
theorem has_putTag (catalog : Catalog) (id : Uuid) (tag : Tag) (object : Object) :
    (catalog.putTag id tag).has object = if .tag id = object then true else catalog.has object := by
  obtain ⟨kind, other⟩ := object
  cases kind with
  | tag => by_cases same : id = other <;> simp [has, Object.tag, same]
  | document => simp [has, Object.tag]

/-- A document that is put is there. -/
theorem has_putDocument (catalog : Catalog) (id : Uuid) (document : Document) (object : Object) :
    (catalog.putDocument id document).has object =
      if .document id = object then true else catalog.has object := by
  obtain ⟨kind, other⟩ := object
  cases kind with
  | tag => simp [has, Object.document]
  | document => by_cases same : id = other <;> simp [has, Object.document, same]

/-- An object that is taken out is not there. -/
theorem has_without (catalog : Catalog) (gone object : Object) :
    (catalog.without gone).has object = if gone = object then false else catalog.has object := by
  obtain ⟨kind, id⟩ := object
  cases kind with
  | tag =>
    have found := catalog.tag?_without gone id
    by_cases same : gone = .tag id <;> simp_all [has, Object.tag]
  | document =>
    have found := catalog.document?_without gone id
    by_cases same : gone = .document id <;> simp_all [has, Object.document]

/-- A tag that is put is attached to its documents. -/
theorem isAttached_putTag (catalog : Catalog) (id : Uuid) (tag : Tag) (other document : Uuid) :
    (catalog.putTag id tag).isAttached other document =
      if id = other then tag.documents.contains document
      else catalog.isAttached other document := by
  by_cases same : id = other <;> simp [isAttached, same]

/-- An object that is taken out has no attachments. -/
theorem isAttached_without_eq (catalog : Catalog) (gone : Object) (tag document : Uuid) :
    (catalog.without gone).isAttached tag document =
      if gone = .tag tag ∨ gone = .document document then false
      else catalog.isAttached tag document := by
  split
  · next own =>
    obtain rfl | rfl := own
    · simp [isAttached, tag?_without]
    · simp only [isAttached, tag?_without, Object.document, Object.tag]
      cases catalog.tag? tag <;> simp [Tag.without, detach]
  · next other =>
    obtain ⟨notTag, notDocument⟩ := not_or.mp other
    exact catalog.isAttached_without notTag notDocument

/-! ### Changes that go well -/

/-- What becomes of a catalog through a change that goes well and is recorded by an event. -/
inductive Makes (catalog : Catalog) (event : Event) : Catalog → Prop where
  /-- The identifier that a creation has drawn is in use: the object that has it stays. -/
  | kept {object : Object} (target : event.target = object)
      (verb : event.verb = object.kind.created) (present : catalog.has object) :
      Makes catalog event catalog
  | newTag {id : Uuid} {tag : Tag} (verb : event.verb = .tagCreated)
      (target : event.target = .tag id) (absent : catalog.tag? id = none)
      (documents : tag.documents = ∅) : Makes catalog event (catalog.putTag id tag)
  | newDocument {id : Uuid} {document : Document} (verb : event.verb = .documentCreated)
      (target : event.target = .document id) (absent : catalog.document? id = none) :
      Makes catalog event (catalog.putDocument id document)
  | edited {id : Uuid} {record tag : Tag} (verb : event.verb = .tagEdited)
      (target : event.target = .tag id) (present : catalog.tag? id = some record)
      (documents : tag.documents = record.documents) : Makes catalog event (catalog.putTag id tag)
  | deleted {object : Object} (target : event.target = object)
      (verb : event.verb = object.kind.deleted) (present : catalog.has object) :
      Makes catalog event (catalog.without object)
  | attached {tag document : Uuid} {record : Tag} (verb : event.verb = .tagAttach)
      (between : event.IsBetween tag document) (present : catalog.tag? tag = some record)
      (exists_document : catalog.has (.document document)) :
      Makes catalog event
        (catalog.putTag tag { record with documents := record.documents.insert document })
  | removed {tag document : Uuid} {record : Tag} (verb : event.verb = .tagRemoved)
      (between : event.IsBetween tag document) (present : catalog.tag? tag = some record) :
      Makes catalog event (catalog.putTag tag (detach document record))
  /-- Only grants change. -/
  | same (verb : event.verb = .aclGranted ∨ event.verb = .aclRevoked) :
      Makes catalog event catalog

section

variable {catalog left : Catalog} {event : Event}

/-- What becomes of a catalog in which a tag is created. -/
theorem makes_createTag {id : Uuid} {now : Instant} {label : String} {color : Option String}
    {tag : Tag} (made : catalog.createTag id now label color = (.ok tag, left))
    (verb : event.verb = .tagCreated) (target : event.target = .tag id) :
    catalog.Makes event left := by
  unfold createTag at made
  split at made
  · cases made
  · cases made
  · split at made
    · next found =>
      cases made
      exact .kept target verb (has_tag found)
    · next absent =>
      cases made
      exact .newTag verb target absent rfl

/-- What becomes of a catalog in which a tag is replaced. -/
theorem makes_replaceTag {id : Uuid} {label : String} {color : Option String} {tag : Tag}
    (made : catalog.replaceTag id label color = (.ok tag, left))
    (verb : event.verb = .tagEdited) (target : event.target = .tag id) :
    catalog.Makes event left := by
  unfold replaceTag at made
  split at made
  · cases made
  · cases made
  · split at made
    · cases made
    · next found =>
      cases made
      exact .edited verb target found rfl

/-- What becomes of a catalog in which a tag is updated. -/
theorem makes_updateTag {id : Uuid} {patch : TagPatch} {tag : Tag}
    (made : catalog.updateTag id patch = (.ok tag, left))
    (verb : event.verb = .tagEdited) (target : event.target = .tag id) :
    catalog.Makes event left := by
  unfold updateTag at made
  split at made
  · cases made
  · cases made
  · split at made
    · cases made
    · next found =>
      cases made
      exact .edited verb target found rfl

/-- What becomes of a catalog in which a tag is deleted. -/
theorem makes_deleteTag {id : Uuid} {tag : Tag} (made : catalog.deleteTag id = (.ok tag, left))
    (verb : event.verb = .tagDeleted) (target : event.target = .tag id) :
    catalog.Makes event left := by
  unfold deleteTag at made
  split at made
  · cases made
  · next found =>
    cases made
    exact .deleted target verb (has_tag found)

/-- What becomes of a catalog in which a document is created. -/
theorem makes_createDocument {id : Uuid} {now : Instant} {label : String} {document : Document}
    (made : catalog.createDocument id now label = (.ok document, left))
    (verb : event.verb = .documentCreated) (target : event.target = .document id) :
    catalog.Makes event left := by
  unfold createDocument at made
  split at made
  · cases made
  · split at made
    · next found =>
      cases made
      exact .kept target verb (has_document found)
    · next absent =>
      cases made
      exact .newDocument verb target absent

/-- What becomes of a catalog in which a document is deleted. -/
theorem makes_deleteDocument {id : Uuid} {document : Document}
    (made : catalog.deleteDocument id = (.ok document, left))
    (verb : event.verb = .documentDeleted) (target : event.target = .document id) :
    catalog.Makes event left := by
  unfold deleteDocument at made
  split at made
  · cases made
  · next found =>
    cases made
    exact .deleted target verb (has_document found)

/-- What becomes of a catalog in which a tag is attached. -/
theorem makes_attach {tag document : Uuid} {new : Bool}
    (made : catalog.attach tag document = (.ok new, left)) (verb : event.verb = .tagAttach)
    (between : event.IsBetween tag document) : catalog.Makes event left := by
  unfold attach at made
  split at made
  · next found present =>
    cases made
    exact .attached verb between present (has_document found)
  · cases made

/-- What becomes of a catalog in which a tag is detached. -/
theorem makes_remove {tag document : Uuid}
    (made : catalog.remove tag document = (.ok (), left)) (verb : event.verb = .tagRemoved)
    (between : event.IsBetween tag document) : catalog.Makes event left := by
  unfold remove at made
  split at made
  · cases made
  · next present =>
    split at made
    · cases made
      exact .removed verb between present
    · cases made

end

/-! ### Changes told by their events -/

/-- An event tells all that has changed of which objects are there and what is attached. -/
structure Told (before : Catalog) (event : Event) (after : Catalog) : Prop where
  has : ∀ object, after.has object = (event.presence object).getD (before.has object)
  isAttached : ∀ tag document,
    after.isAttached tag document =
      (event.attachment tag document).getD (before.isAttached tag document)

namespace Told

variable {before after : Catalog} {event : Event}

private theorem of_created (verb : event.verb = event.target.kind.created)
    (has : ∀ object, after.has object = if event.target = object then true else before.has object)
    (isAttached : ∀ tag document, after.isAttached tag document = before.isAttached tag document) :
    before.Told event after where
  has object := by
    rw [event.presence_of_created verb, has]
    split <;> rfl
  isAttached tag document := by
    rw [event.attachment_of_created verb, isAttached]
    rfl

private theorem of_deleted (verb : event.verb = event.target.kind.deleted) :
    before.Told event (before.without event.target) where
  has object := by
    rw [event.presence_of_deleted verb, has_without]
    split <;> rfl
  isAttached tag document := by
    rw [event.attachment_of_deleted verb, isAttached_without_eq]
    split <;> rfl

private theorem of_attachment
    (other : event.verb ∉ [Verb.tagCreated, .tagDeleted, .documentCreated, .documentDeleted])
    (has : ∀ object, after.has object = before.has object)
    (isAttached : ∀ tag document,
      after.isAttached tag document =
        (event.attachment tag document).getD (before.isAttached tag document)) :
    before.Told event after where
  has object := by
    rw [event.presence_eq_none other, has]
    rfl
  isAttached := isAttached

end Told

private theorem has_putTag_of_present {catalog : Catalog} {id : Uuid} {record : Tag}
    (present : catalog.tag? id = some record) (tag : Tag) (object : Object) :
    (catalog.putTag id tag).has object = catalog.has object := by
  rw [has_putTag]
  split
  · next same =>
    rw [← same, has_tag present]
  · rfl

/-- Every change that goes well is told by its event. -/
theorem Makes.told {catalog after : Catalog} {event : Event} (makes : catalog.Makes event after) :
    catalog.Told event after := by
  cases makes with
  | kept target verb present =>
    subst target
    -- The object was there before, so that its creation tells nothing new.
    refine .of_created verb (fun object ↦ ?_) fun _ _ ↦ rfl
    split
    · next same => rw [← same, present]
    · rfl
  | @newTag id tag verb target absent documents =>
    refine .of_created (by rw [verb, target]; rfl) (fun object ↦ ?_) fun other document ↦ ?_
    · rw [has_putTag, target]
    · rw [isAttached_putTag]
      split
      · next same =>
        subst same
        simp [isAttached, absent, documents]
      · rfl
  | @newDocument id document verb target absent =>
    refine .of_created (by rw [verb, target]; rfl) (fun object ↦ ?_) fun _ _ ↦ rfl
    rw [has_putDocument, target]
  | @edited id record tag verb target present documents =>
    refine .of_attachment (by simp [verb]) (has_putTag_of_present present tag) fun other second ↦ ?_
    simp only [Event.attachment, verb, Option.getD_none, isAttached_putTag]
    split
    · next same =>
      subst same
      simp [isAttached, present, documents]
    · rfl
  | deleted target verb present =>
    subst target
    exact .of_deleted verb
  | @attached tag document record verb between present exists_document =>
    refine .of_attachment (by simp [verb]) (has_putTag_of_present present _) fun other second ↦ ?_
    simp only [Event.attachment, verb, between.iff, isAttached_putTag]
    by_cases own : tag = other
    · subst own
      by_cases same : document = second <;> simp [isAttached, present, same]
    · simp [own]
  | @removed tag document record verb between present =>
    refine .of_attachment (by simp [verb]) (has_putTag_of_present present _) fun other second ↦ ?_
    simp only [Event.attachment, verb, between.iff, isAttached_putTag]
    by_cases own : tag = other
    · subst own
      by_cases same : document = second <;> simp [isAttached, present, detach, same]
    · simp [own]
  | same verb =>
    obtain verb | verb := verb
    · exact .of_attachment (by simp [verb]) (fun _ ↦ rfl) fun _ _ ↦ by simp [Event.attachment, verb]
    · exact .of_attachment (by simp [verb]) (fun _ ↦ rfl) fun _ _ ↦ by simp [Event.attachment, verb]

/-- A tag is attached to nothing but documents that are there. -/
def Intact (catalog : Catalog) : Prop :=
  ∀ tag document, catalog.isAttached tag document → catalog.has (.document document)

private theorem Makes.has_document {catalog after : Catalog} {event : Event}
    (makes : catalog.Makes event after) {tag document : Uuid} (verb : event.verb = .tagAttach)
    (between : event.IsBetween tag document) : catalog.has (.document document) := by
  cases makes with
  | attached _ other present exists_document =>
    obtain ⟨rfl, rfl⟩ := (other.iff tag document).mp between
    exact exists_document
  | @kept object target created present =>
    rw [verb] at created
    cases kind : object.kind <;> rw [kind] at created <;> cases created
  | @deleted object target deleted present =>
    rw [verb] at deleted
    cases kind : object.kind <;> rw [kind] at deleted <;> cases deleted
  | same other => simp [verb] at other
  | _ => simp_all

/-- A change that goes well leaves no attachment to a document that is not there. -/
theorem Makes.intact {catalog after : Catalog} {event : Event} (makes : catalog.Makes event after)
    (intact : catalog.Intact) : after.Intact := by
  intro tag document attached
  have told := makes.told
  rw [told.isAttached] at attached
  rw [told.has]
  cases gone : event.presence (.document document) with
  | none =>
    cases heard : event.attachment tag document with
    | none =>
      rw [heard] at attached
      exact intact tag document attached
    | some value =>
      rw [heard] at attached
      cases attached
      obtain ⟨verb, between⟩ := Event.attaches heard
      exact makes.has_document verb between
  | some value =>
    cases value with
    | true => rfl
    | false =>
      rw [Event.attachment_of_gone gone] at attached
      cases attached

end Tagging.Catalog
