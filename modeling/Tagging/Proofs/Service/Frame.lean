import Tagging.Proofs.Service.Transaction

/-!
# Frames

An operation touches its own part of the state and leaves the rest. Grants change only where they
are given, taken back, or go with a deleted object; the catalog changes only in the record that the
operation is about, but that a deleted document goes from every tag. Tags and documents are told
apart by their kind, even if they have the same identifier.
-/

namespace Tagging

namespace GrantIndex

/-- The grants on one object have gone, and all others are as before. -/
structure Purged (object : Object) (before after : GrantIndex) : Prop where
  own : ∀ grant, grant.object = some object → after.contains grant = false
  others : ∀ grant, grant.object ≠ some object → after.contains grant = before.contains grant

/-- One grant is in force or not, and all others are as before. -/
structure SameBut (grant : Grant) (inForce : Bool) (before after : GrantIndex) : Prop where
  own : after.contains grant = inForce
  others : ∀ other, other ≠ grant → after.contains other = before.contains other

private theorem purged_purge (index : GrantIndex) (object : Object) :
    Purged object index (index.purge object).2 where
  own grant on := by
    apply Bool.eq_false_iff.mpr
    intro contained
    exact ((contains_purge ..).mp contained).1 on
  others grant elsewhere := by
    rw [Bool.eq_iff_iff, contains_purge, and_iff_right elsewhere]

private theorem sameBut_insert (index : GrantIndex) (grant : Grant) :
    SameBut grant true index (index.insert grant).2 where
  own := (contains_insert ..).mpr (.inl rfl)
  others other distinct := by
    rw [Bool.eq_iff_iff, contains_insert, or_iff_right distinct.symm]

private theorem sameBut_erase (index : GrantIndex) (grant : Grant) :
    SameBut grant false index (index.erase grant).2 where
  own := by
    apply Bool.eq_false_iff.mpr
    intro contained
    exact ((contains_erase ..).mp contained).1 rfl
  others other distinct := by
    rw [Bool.eq_iff_iff, contains_erase, and_iff_right distinct.symm]

end GrantIndex

namespace Catalog

section

variable {catalog left : Catalog} {id : Uuid}

private theorem eq_of_createTag {now : Instant} {label : String} {color : Option String} {tag : Tag}
    (made : catalog.createTag id now label color = (.ok tag, left))
    (used : (catalog.tag? id).isSome) : left = catalog := by
  unfold createTag at made
  split at made
  · cases made
  · cases made
  · split at made
    · cases made
      rfl
    · next absent =>
      rw [absent] at used
      cases used

private theorem sameBut_createDocument {now : Instant} {label : String} {document : Document}
    (made : catalog.createDocument id now label = (.ok document, left)) :
    catalog.SameBut (.document id) left ∧
      ((catalog.document? id).isSome → left = catalog) := by
  unfold createDocument at made
  split at made
  · cases made
  · split at made
    · cases made
      exact ⟨⟨fun _ _ ↦ rfl, fun _ _ ↦ rfl⟩, fun _ ↦ rfl⟩
    · next absent =>
      cases made
      refine ⟨catalog.sameBut_putDocument id _, fun used ↦ ?_⟩
      rw [absent] at used
      cases used

private theorem eq_without_of_deleteTag {tag : Tag}
    (made : catalog.deleteTag id = (.ok tag, left)) : left = catalog.without (.tag id) := by
  unfold deleteTag at made
  split at made
  · cases made
  · cases made
    rfl

private theorem eq_without_of_deleteDocument {document : Document}
    (made : catalog.deleteDocument id = (.ok document, left)) :
    left = catalog.without (.document id) := by
  unfold deleteDocument at made
  split at made
  · cases made
  · cases made
    rfl

end

end Catalog

namespace Operation

/-- What an operation that goes well has changed, and what it has left. -/
def Frame (stamp : Stamp) (before after : State) : Operation → Prop
  | .createTag .. =>
    after.grants = before.grants ∧ before.catalog.SameBut (.tag (stamp.ids 0)) after.catalog ∧
      (before.has (.tag (stamp.ids 0)) → after.catalog = before.catalog)
  | .createDocument _ =>
    after.grants = before.grants ∧
      before.catalog.SameBut (.document (stamp.ids 0)) after.catalog ∧
      (before.has (.document (stamp.ids 0)) → after.catalog = before.catalog)
  | .replaceTag id .. | .updateTag id _ | .attachTag _ id | .removeTag _ id =>
    after.grants = before.grants ∧ before.catalog.SameBut (.tag id) after.catalog
  | .deleteTag id =>
    before.grants.Purged (.tag id) after.grants ∧
      before.catalog.SameBut (.tag id) after.catalog ∧ after.catalog.tag? id = none
  | .deleteDocument id =>
    before.grants.Purged (.document id) after.grants ∧
      (∀ tag, after.catalog.tag? tag = (before.catalog.tag? tag).map (Catalog.detach id)) ∧
      (∀ document, document ≠ id →
        after.catalog.document? document = before.catalog.document? document) ∧
      after.catalog.document? id = none
  | .grant given => after.catalog = before.catalog ∧ before.grants.SameBut given true after.grants
  | .revoke given => after.catalog = before.catalog ∧ before.grants.SameBut given false after.grants

section

variable {operation : Operation} {stamp : Stamp} {state changed : State}
  {value : operation.Value} {asked : Change}

/-- A change that goes well and is recorded stays within its frame. -/
theorem frame_of_change
    (done : operation.change stamp state = (.ok (value, asked), changed)) (event : Event) :
    operation.Frame stamp state (Service.recorded changed asked event) := by
  have does := change_ok done
  have grants := does.grants_recorded event
  cases operation with
  | createTag label color =>
    have made := inCatalog_made done
    exact ⟨grants, .of_without (does.without _ rfl), Catalog.eq_of_createTag made⟩
  | createDocument label =>
    have made := inCatalog_made done
    exact ⟨grants, Catalog.sameBut_createDocument made⟩
  | replaceTag | updateTag | attachTag | removeTag =>
    exact ⟨grants, .of_without (does.without _ rfl)⟩
  | deleteTag id =>
    -- What is purged is the object that was asked for, whatever record stands there.
    obtain ⟨_, rfl, _⟩ := inCatalog_ok done
    obtain ⟨tag, made⟩ := exists_of_untold (inCatalog_made done)
    have left := Catalog.eq_without_of_deleteTag made
    refine ⟨?_, .of_without (does.without _ rfl), ?_⟩
    · rw [grants]
      exact state.grants.purged_purge (.tag id)
    · change changed.catalog.tag? id = none
      rw [left, Catalog.tag?_without, if_pos rfl]
  | deleteDocument id =>
    obtain ⟨_, rfl, _⟩ := inCatalog_ok done
    obtain ⟨document, made⟩ := exists_of_untold (inCatalog_made done)
    have left := Catalog.eq_without_of_deleteDocument made
    change _ ∧ (∀ tag, changed.catalog.tag? tag = _) ∧
      (∀ document, document ≠ id → changed.catalog.document? document = _) ∧
      changed.catalog.document? id = none
    rw [grants, left]
    refine ⟨state.grants.purged_purge (.document id), fun tag ↦ ?_, fun document other ↦ ?_, ?_⟩
    · rw [Catalog.tag?_without, if_neg nofun]
      rfl
    · rw [Catalog.document?_without, if_neg fun own ↦ other (congrArg Object.id own).symm]
    · rw [Catalog.document?_without, if_pos rfl]
  | grant given =>
    cases changed_of_grant done
    exact ⟨rfl, grants ▸ state.grants.sameBut_insert given⟩
  | revoke given =>
    cases changed_of_revoke done
    exact ⟨rfl, grants ▸ state.grants.sameBut_erase given⟩

end

/-- An operation that goes well stays within its frame: creations, edits and attachments leave all
grants and change one record at most, deletions take the grants on their object away and no others,
and to give a grant or to take it back changes this grant alone. One that fails changes nothing. -/
theorem run_frame (service : Service) (stamp : Stamp) (actor : Principal)
    (operation : Operation) :
    let outcome := operation.run service stamp actor
    match outcome.result with
    | .error _ => outcome.service = service
    | .ok _ => operation.Frame stamp service.state outcome.service.state := by
  obtain ⟨error, drawn, failed⟩ | ⟨value, asked, changed, _, made, done⟩ :=
    run_made service stamp actor operation
  · simp only [failed]
  · simp only [done]
    exact frame_of_change made _

/-- A document keeps its grants when a tag with the same identifier is deleted. -/
theorem run_frame_shared :
    let id := Uuid.ofNat 1
    let root : Principal := ⟨"root", [], true⟩
    let stamp : Stamp := { ids := Uuid.ofNat, now := Instant.origin }
    let tag : Tag := ⟨id, "red", defaultColor, Instant.origin, ∅⟩
    let document : Document := ⟨id, "Plans", Instant.origin⟩
    let onTag : Grant := ⟨.user "bob", .tagView, some (.tag id)⟩
    let onDocument : Grant := ⟨.user "bob", .documentView, some (.document id)⟩
    let catalog := (Catalog.putTag ∅ id tag).putDocument id document
    let grants := ((GrantIndex.insert ∅ onTag).2.insert onDocument).2
    let outcome := (deleteTag id).run ⟨⟨catalog, grants, ∅⟩, none, ∅⟩ stamp root
    outcome.result = .ok () ∧ outcome.service.state.catalog.tag? id = none ∧
      outcome.service.state.catalog.document? id = some document ∧
      outcome.service.state.grants.contains onTag = false ∧
      outcome.service.state.grants.contains onDocument = true := by
  intro id root stamp tag document onTag onDocument catalog grants outcome
  have succeeds : outcome.result = .ok () := by rfl
  have frame : (deleteTag id).Frame stamp ⟨catalog, grants, ∅⟩ outcome.service.state :=
    run_frame ⟨⟨catalog, grants, ∅⟩, none, ∅⟩ stamp root (deleteTag id)
  obtain ⟨purged, same, gone⟩ := frame
  have kept := (same.document id nofun).trans (by rfl : catalog.document? id = some document)
  refine ⟨succeeds, gone, kept, purged.own onTag rfl, ?_⟩
  rw [purged.others onDocument (by decide)]
  exact (GrantIndex.contains_insert ..).mpr (.inl rfl)

end Operation

end Tagging
