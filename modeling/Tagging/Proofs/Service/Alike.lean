import Tagging.Proofs.Access.Containment
import Tagging.Proofs.Audit.History
import Tagging.Proofs.Catalog.Listing
import Tagging.Proofs.Service.Mediation

/-!
# States that look alike

Two states look alike to a principal without permissions on all objects if they agree on what the
principal may do, and on each object on which the principal may do anything: on its record, its
grants, its events and the attachments to other such objects. Every question of the principal then
has the same answer, except that a tag may be attached to documents that are not seen; nobody is
shown the attachments of a tag.
-/

namespace Tagging

/-- The principal may exercise some permission on the object. -/
def GrantIndex.Sees (index : GrantIndex) (principal : Principal) (object : Object) : Prop :=
  ∃ permission, index.allows principal permission (some object)

/-- The tag without its attachments, as it is shown. -/
def Tag.bare (tag : Tag) : Tag :=
  { tag with documents := ∅ }

namespace State

/-- The two states look the same to the principal. -/
structure Alike (principal : Principal) (first second : State) : Prop where
  sound : first.catalog.WellKeyed ∧ second.catalog.WellKeyed
  confined : ∀ permission, first.grants.allows principal permission none = false
  allows : ∀ permission object,
    first.grants.allows principal permission object =
      second.grants.allows principal permission object
  contains : ∀ grant object, grant.object = some object → first.grants.Sees principal object →
    first.grants.contains grant = second.grants.contains grant
  tag : ∀ id, first.grants.Sees principal (.tag id) →
    (first.catalog.tag? id).map Tag.bare = (second.catalog.tag? id).map Tag.bare
  document : ∀ id, first.grants.Sees principal (.document id) →
    first.catalog.document? id = second.catalog.document? id
  attached : ∀ tag document, first.grants.Sees principal (.tag tag) →
    first.grants.Sees principal (.document document) →
    first.catalog.isAttached tag document = second.catalog.isAttached tag document
  history : ∀ object, first.grants.Sees principal object →
    first.events.forTarget object = second.events.forTarget object

namespace Alike

variable {principal : Principal} {first second third : State}

private theorem sees (alike : Alike principal first second) {object : Object}
    (seen : second.grants.Sees principal object) : first.grants.Sees principal object := by
  obtain ⟨permission, allowed⟩ := seen
  exact ⟨permission, by rwa [alike.allows]⟩

/-- If a state looks like another one, that one looks like it. -/
theorem symm (alike : Alike principal first second) : Alike principal second first where
  sound := alike.sound.symm
  confined permission := by rw [← alike.allows, alike.confined]
  allows permission object := (alike.allows permission object).symm
  contains grant object named seen := (alike.contains grant object named (alike.sees seen)).symm
  tag id seen := (alike.tag id (alike.sees seen)).symm
  document id seen := (alike.document id (alike.sees seen)).symm
  attached tag document seenTag seenDocument :=
    (alike.attached tag document (alike.sees seenTag) (alike.sees seenDocument)).symm
  history object seen := (alike.history object (alike.sees seen)).symm

/-- States that look like the same one look alike. -/
theorem trans (one : Alike principal first second) (two : Alike principal second third) :
    Alike principal first third where
  sound := ⟨one.sound.1, two.sound.2⟩
  confined := one.confined
  allows permission object := (one.allows permission object).trans (two.allows permission object)
  contains grant object named seen :=
    (one.contains grant object named seen).trans
      (two.contains grant object named (one.symm.sees seen))
  tag id seen := (one.tag id seen).trans (two.tag id (one.symm.sees seen))
  document id seen := (one.document id seen).trans (two.document id (one.symm.sees seen))
  attached tag document seenTag seenDocument :=
    (one.attached tag document seenTag seenDocument).trans
      (two.attached tag document (one.symm.sees seenTag) (one.symm.sees seenDocument))
  history object seen :=
    (one.history object seen).trans (two.history object (one.symm.sees seen))

/-! ### Checks -/

private theorem isHeld (alike : Alike principal first second) (requirement : Requirement) :
    requirement.isHeld first.grants principal = requirement.isHeld second.grants principal := by
  cases requirement with
  | everywhere permission => exact alike.allows ..
  | onEach permission objects => simp only [Requirement.isHeld, alike.allows]

private theorem eq_of_held {α : Type} {requirement : Requirement} {one two : Except Error α}
    {faults others : List Error} (alike : Alike principal first second)
    (left : requirement.Mediates first.grants principal one faults)
    (right : requirement.Mediates second.grants principal two others)
    (held : requirement.isHeld first.grants principal = true → one = two) : one = two := by
  cases holds : requirement.isHeld first.grants principal with
  | true => exact held holds
  | false => rw [left.denied holds, right.denied (alike.isHeld requirement ▸ holds)]

/-- A permission on all objects is not held. -/
theorem not_isHeld_everywhere (alike : Alike principal first second) {permission : Permission} :
    ¬ (Requirement.everywhere permission).isHeld first.grants principal := by
  have forbidden : (Requirement.everywhere permission).isHeld first.grants principal = false :=
    alike.confined permission
  rw [forbidden]
  exact Bool.false_ne_true

/-- Who holds a permission on some objects sees each of them. -/
theorem sees_of_isHeld {permission : Permission} {objects : List Object} {index : GrantIndex}
    (held : (Requirement.onEach permission objects).isHeld index principal = true) :
    ∀ object ∈ objects, index.Sees principal object := by
  intro object member
  exact ⟨permission, List.all_eq_true.mp held object member⟩

private theorem tag_cases (alike : Alike principal first second) {id : Uuid}
    (sees : first.grants.Sees principal (.tag id)) :
    (first.catalog.tag? id = none ∧ second.catalog.tag? id = none) ∨
      ∃ tag other, first.catalog.tag? id = some tag ∧ second.catalog.tag? id = some other ∧
        tag.bare = other.bare := by
  have same := alike.tag id sees
  cases one : first.catalog.tag? id with
  | none =>
    rw [one, Option.map_none, eq_comm, Option.map_eq_none_iff] at same
    exact .inl ⟨rfl, same⟩
  | some tag =>
    rw [one, Option.map_some, eq_comm, Option.map_eq_some_iff] at same
    obtain ⟨other, two, bare⟩ := same
    exact .inr ⟨tag, other, rfl, two, bare.symm⟩

/-- A tag that is seen and exists is in both states and looks the same. -/
theorem exists_tags (alike : Alike principal first second) {id : Uuid}
    (sees : first.grants.Sees principal (.tag id)) (present : first.has (.tag id)) :
    ∃ tag other, first.catalog.tag? id = some tag ∧ second.catalog.tag? id = some other ∧
      tag.bare = other.bare := by
  obtain ⟨tag, found⟩ := exists_tag present
  obtain ⟨absent, _⟩ | both := alike.tag_cases sees
  · rw [absent] at found
    cases found
  · exact both

/-- An object that is seen exists in both states or in neither. -/
theorem has (alike : Alike principal first second) {object : Object}
    (sees : first.grants.Sees principal object) : first.has object = second.has object := by
  obtain ⟨kind, id⟩ := object
  cases kind with
  | tag => simpa [State.has] using congrArg Option.isSome (alike.tag id sees)
  | document => exact congrArg Option.isSome (alike.document id sees)

/-- Results that are alike fail with the same error, or have values that are alike. -/
theorem map_cases {α β : Type} {one two : Except Error α} {f : α → β}
    (same : one.map f = two.map f) :
    (∃ error, one = .error error ∧ two = .error error) ∨
      ∃ value other, one = .ok value ∧ two = .ok other ∧ f value = f other := by
  cases one with
  | error error =>
    cases two with
    | error other =>
      cases same
      exact .inl ⟨error, rfl, rfl⟩
    | ok other => cases same
  | ok value =>
    cases two with
    | error error => cases same
    | ok other => exact .inr ⟨value, other, rfl, rfl, Except.ok.inj same⟩

/-- Results are the same if what comes before is alike and what comes after is the same. -/
theorem bind_eq {α β γ : Type} {one two : Except Error α} {next next' : α → Except Error β}
    {f : α → γ} (begun : one.map f = two.map f)
    (ended : ∀ value other, one = .ok value → two = .ok other → f value = f other →
      next value = next' other) :
    (one >>= next) = (two >>= next') := by
  obtain ⟨error, rfl, rfl⟩ | ⟨value, other, rfl, rfl, same⟩ := map_cases begun
  · rfl
  · exact ended value other rfl rfl same

/-- Results are alike if what comes before is and what comes after is. -/
theorem bind {α β γ δ : Type} {one two : Except Error α} {next next' : α → Except Error β}
    {f : α → γ} {g : β → δ} (begun : one.map f = two.map f)
    (ended : ∀ value other, one = .ok value → two = .ok other → f value = f other →
      (next value).map g = (next' other).map g) :
    (one >>= next).map g = (two >>= next').map g := by
  have inside : ∀ {result : Except Error α} {next : α → Except Error β},
      (result >>= next).map g = result >>= fun value ↦ (next value).map g := by
    intro result next
    cases result <;> rfl
  rw [inside, inside]
  exact bind_eq begun ended

/-- A check of an object has the same outcome. -/
theorem check (alike : Alike principal first second) (permission : Permission) (object : Object)
    (denial : Denial) :
    first.grants.check principal permission (some object) denial =
      second.grants.check principal permission (some object) denial := by
  rw [GrantIndex.check, GrantIndex.check, alike.allows]

/-- A check of an object that must exist has the same outcome. -/
theorem authorize (alike : Alike principal first second) (permission : Permission)
    (object : Object) :
    first.authorize principal permission object = second.authorize principal permission object := by
  refine alike.eq_of_held (first.mediates_authorize principal permission object)
    (second.mediates_authorize principal permission object) fun held ↦ ?_
  have sees := sees_of_isHeld held object List.mem_cons_self
  rw [State.authorize, State.authorize, alike.has sees, alike.check]

/-- A tag that is asked for looks the same. -/
theorem visibleTag (alike : Alike principal first second) (permission : Permission) (id : Uuid) :
    (first.visibleTag principal permission id).map Tag.bare =
      (second.visibleTag principal permission id).map Tag.bare := by
  refine alike.eq_of_held ((first.mediates_visibleTag principal permission id).map Tag.bare)
    ((second.mediates_visibleTag principal permission id).map Tag.bare) fun held ↦ ?_
  rw [State.visibleTag, State.visibleTag, alike.check]
  obtain ⟨one, two⟩ | ⟨tag, other, one, two, bare⟩ :=
    alike.tag_cases (sees_of_isHeld held _ List.mem_cons_self)
  · rw [one, two]
  · rw [one, two]
    exact bind (f := fun _ ↦ ()) rfl fun _ _ _ _ _ ↦ congrArg Except.ok bare

/-- A document that is asked for is the same. -/
theorem visibleDocument (alike : Alike principal first second) (permission : Permission)
    (id : Uuid) :
    first.visibleDocument principal permission id =
      second.visibleDocument principal permission id := by
  refine alike.eq_of_held (first.mediates_visibleDocument principal permission id)
    (second.mediates_visibleDocument principal permission id) fun held ↦ ?_
  have found := alike.document id (sees_of_isHeld held _ List.mem_cons_self)
  rw [State.visibleDocument, State.visibleDocument, found, alike.check]

/-- Checks of some objects have the same outcome. -/
theorem checkAll (alike : Alike principal first second) (denial : Denial)
    (checks : List (Permission × Object)) :
    first.grants.checkAll principal denial checks =
      second.grants.checkAll principal denial checks := by
  induction checks with
  | nil => rfl
  | cons check checks ih => rw [GrantIndex.checkAll, GrantIndex.checkAll, alike.check, ih]

/-- A check of a document and a tag has the same outcome. -/
theorem checkPair (alike : Alike principal first second) (permission : Permission)
    (document tag : Uuid) :
    first.checkPair principal permission document tag =
      second.checkPair principal permission document tag := by
  refine alike.eq_of_held (first.mediates_checkPair principal permission document tag)
    (second.mediates_checkPair principal permission document tag) fun held ↦ ?_
  have sees := sees_of_isHeld held
  have documents := alike.document document (sees _ List.mem_cons_self)
  rw [State.checkPair, State.checkPair, documents, alike.checkAll]
  obtain ⟨one, two⟩ | ⟨record, other, one, two, _⟩ := alike.tag_cases (sees (.tag tag) (by simp))
  · rw [one, two]
  · rw [one, two]
    cases second.catalog.document? document <;> rfl

/-! ### Lists -/

/-- Of two ascending lists of tags the same is shown, if they hold the tags that are there and meet
a condition which is the same for tags that are seen. -/
theorem tags (alike : Alike principal first second) {tags others : List Tag}
    (keep keep' : Uuid → Bool) (one : tags.Pairwise (byLabel Tag.label Tag.id · · = .lt))
    (two : others.Pairwise (byLabel Tag.label Tag.id · · = .lt))
    (left : ∀ tag, tag ∈ tags ↔ first.catalog.tag? tag.id = some tag ∧ keep tag.id)
    (right : ∀ tag, tag ∈ others ↔ second.catalog.tag? tag.id = some tag ∧ keep' tag.id)
    (same : ∀ id, first.grants.Sees principal (.tag id) → keep id = keep' id) :
    (first.viewableTags principal tags).map Tag.bare =
      (second.viewableTags principal others).map Tag.bare := by
  have shown : ∀ {state : State} {tags : List Tag} {keep : Uuid → Bool},
      state.catalog.WellKeyed →
      (∀ tag, tag ∈ tags ↔ state.catalog.tag? tag.id = some tag ∧ keep tag.id) →
      ∀ tag, tag ∈ (state.viewableTags principal tags).map Tag.bare ↔
        (state.catalog.tag? tag.id).map Tag.bare = some tag ∧ keep tag.id ∧
          state.grants.allows principal .tagView (some (.tag tag.id)) := by
    intro state tags keep sound member tag
    simp only [List.mem_map, viewableTags, List.mem_filter, member, Option.map_eq_some_iff]
    constructor
    · rintro ⟨record, ⟨⟨found, kept⟩, allowed⟩, rfl⟩
      exact ⟨⟨record, found, rfl⟩, kept, allowed⟩
    · rintro ⟨⟨record, found, rfl⟩, kept, allowed⟩
      have own : record.id = record.bare.id := rfl
      exact ⟨record, ⟨⟨found, kept⟩, allowed⟩, rfl⟩
  have ascending : ∀ {state : State} {tags : List Tag},
      tags.Pairwise (byLabel Tag.label Tag.id · · = .lt) →
      ((state.viewableTags principal tags).map Tag.bare).Pairwise
        (byLabel Tag.label Tag.id · · = .lt) := by
    intro state tags sorted
    exact (sorted.filter _).map _ fun _ _ less ↦ less
  -- Lists in the same order are equal if they have the same members.
  refine eq_of_ascending (ascending one) (ascending two) fun tag ↦ ?_
  rw [shown alike.sound.1 left, shown alike.sound.2 right, alike.allows]
  have sees : second.grants.allows principal .tagView (some (.tag tag.id)) →
      first.grants.Sees principal (.tag tag.id) :=
    fun allowed ↦ ⟨.tagView, by rwa [alike.allows]⟩
  constructor
  · rintro ⟨found, kept, allowed⟩
    rw [alike.tag _ (sees allowed)] at found
    rw [same _ (sees allowed)] at kept
    exact ⟨found, kept, allowed⟩
  · rintro ⟨found, kept, allowed⟩
    rw [← alike.tag _ (sees allowed)] at found
    rw [← same _ (sees allowed)] at kept
    exact ⟨found, kept, allowed⟩

/-- Of two ascending lists of documents the same is shown, if they hold the documents that are there
and meet a condition which is the same for documents that are seen. -/
theorem documents (alike : Alike principal first second) {documents others : List Document}
    (keep keep' : Uuid → Bool)
    (one : documents.Pairwise (byLabel Document.label Document.id · · = .lt))
    (two : others.Pairwise (byLabel Document.label Document.id · · = .lt))
    (left : ∀ document, document ∈ documents ↔
      first.catalog.document? document.id = some document ∧ keep document.id)
    (right : ∀ document, document ∈ others ↔
      second.catalog.document? document.id = some document ∧ keep' document.id)
    (same : ∀ id, first.grants.Sees principal (.document id) → keep id = keep' id) :
    first.viewableDocuments principal documents = second.viewableDocuments principal others := by
  refine eq_of_ascending (one.filter _) (two.filter _) fun document ↦ ?_
  simp only [viewableDocuments, List.mem_filter, left, right, alike.allows]
  refine and_congr_left fun allowed ↦ ?_
  have sees : first.grants.Sees principal (.document document.id) :=
    ⟨.documentView, by rwa [alike.allows]⟩
  rw [alike.document _ sees, same _ sees]

/-- The same grants are on an object that is seen. -/
theorem forObject (alike : Alike principal first second) {object : Object}
    (sees : first.grants.Sees principal object) :
    first.grants.forObject (some object) = second.grants.forObject (some object) := by
  have rights : first.grants.rights (some object) = second.grants.rights (some object) := by
    apply Std.ExtTreeSet.ext_contains
    intro right
    exact alike.contains (.ofRight (some object) right) object rfl sees
  rw [GrantIndex.forObject, GrantIndex.forObject, rights]

end Alike

end State

/-! ### Answers -/

namespace Query

/-- What is shown of an answer: all but the attachments of tags. -/
def shown : (query : Query) → query.Value → query.Value
  | .listTags | .documentTags _ => List.map Tag.bare
  | .getTag _ | .documentTag .. => Tag.bare
  | .tagDocuments _ | .listDocuments | .getDocument _ | .authorize .. | .authorizeGlobal _
  | .grantsFor _ | .eventsFor _ | .latestEvent _ | .statistics | .statistic _ => id

variable {principal : Principal} {first second : State}

/-- In states that look alike every question has answers that look alike, at any time. -/
theorem answer_alike (alike : first.Alike principal second) (now later : Instant)
    (query : Query) :
    (query.answer first now principal).map query.shown =
      (query.answer second later principal).map query.shown := by
  refine alike.eq_of_held ((query.mediates_answer first now principal).map _)
    ((query.mediates_answer second later principal).map _) fun held ↦ ?_
  cases query with
  | listTags =>
    refine congrArg Except.ok ?_
    exact alike.tags (fun _ ↦ true) (fun _ ↦ true) (Catalog.ascending_listTags alike.sound.1)
      (Catalog.ascending_listTags alike.sound.2)
      (fun _ ↦ by simp [Catalog.mem_listTags alike.sound.1])
      (fun _ ↦ by simp [Catalog.mem_listTags alike.sound.2]) fun _ _ ↦ rfl
  | getTag tag => exact alike.visibleTag ..
  | tagDocuments tag =>
    have sees := State.Alike.sees_of_isHeld held _ List.mem_cons_self
    refine State.Alike.bind (alike.visibleTag ..) fun _ _ _ _ _ ↦ congrArg Except.ok ?_
    exact alike.documents (first.catalog.isAttached tag) (second.catalog.isAttached tag)
      (Catalog.ascending_tagDocuments alike.sound.1 tag)
      (Catalog.ascending_tagDocuments alike.sound.2 tag)
      (fun _ ↦ Catalog.mem_tagDocuments alike.sound.1)
      (fun _ ↦ Catalog.mem_tagDocuments alike.sound.2)
      fun document seen ↦ alike.attached tag document sees seen
  | listDocuments =>
    refine congrArg Except.ok ?_
    exact alike.documents (fun _ ↦ true) (fun _ ↦ true)
      (Catalog.ascending_listDocuments alike.sound.1)
      (Catalog.ascending_listDocuments alike.sound.2)
      (fun _ ↦ by simp [Catalog.mem_listDocuments alike.sound.1])
      (fun _ ↦ by simp [Catalog.mem_listDocuments alike.sound.2]) fun _ _ ↦ rfl
  | getDocument document => exact congrArg (Except.map id) (alike.visibleDocument ..)
  | documentTags document =>
    have sees := State.Alike.sees_of_isHeld held _ List.mem_cons_self
    refine State.Alike.bind (congrArg (Except.map id) (alike.visibleDocument ..))
      fun _ _ _ _ _ ↦ congrArg Except.ok ?_
    exact alike.tags (first.catalog.isAttached · document) (second.catalog.isAttached · document)
      (Catalog.ascending_documentTags alike.sound.1 document)
      (Catalog.ascending_documentTags alike.sound.2 document)
      (fun _ ↦ Catalog.mem_documentTags alike.sound.1)
      (fun _ ↦ Catalog.mem_documentTags alike.sound.2)
      fun tag seen ↦ alike.attached tag document seen sees
  | documentTag document tag =>
    have sees := State.Alike.sees_of_isHeld held
    have attached := alike.attached tag document (sees (.tag tag) (by simp))
      (sees _ List.mem_cons_self)
    refine State.Alike.bind (congrArg (Except.map id) (alike.checkPair ..)) fun _ _ _ _ _ ↦ ?_
    rw [attached]
    split
    · obtain ⟨one, two⟩ | ⟨record, other, one, two, bare⟩ :=
        alike.tag_cases (sees (.tag tag) (by simp))
      · rw [one, two]
      · rw [one, two]
        exact congrArg Except.ok bare
    · rfl
  | authorize permission object => exact congrArg (Except.map id) (alike.authorize ..)
  | authorizeGlobal permission => exact absurd held alike.not_isHeld_everywhere
  | grantsFor object =>
    have sees := State.Alike.sees_of_isHeld held _ List.mem_cons_self
    refine State.Alike.bind (congrArg (Except.map id) (alike.authorize ..))
      fun _ _ _ _ _ ↦ congrArg Except.ok ?_
    exact alike.forObject sees
  | eventsFor object =>
    have sees := State.Alike.sees_of_isHeld held _ List.mem_cons_self
    refine State.Alike.bind (congrArg (Except.map id) (alike.check ..))
      fun _ _ _ _ _ ↦ congrArg Except.ok ?_
    exact alike.history object sees
  | latestEvent object =>
    have sees := State.Alike.sees_of_isHeld held _ List.mem_cons_self
    refine State.Alike.bind (congrArg (Except.map id) (alike.check ..)) fun _ _ _ _ _ ↦ ?_
    rw [EventLog.latest?_eq, EventLog.latest?_eq, alike.history object sees]
  | statistics => exact absurd held alike.not_isHeld_everywhere
  | statistic slug => exact absurd held alike.not_isHeld_everywhere

end Query

end Tagging
