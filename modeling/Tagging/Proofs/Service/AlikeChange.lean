import Tagging.Proofs.Service.Alike

/-!
# Changes in states that look alike

What a principal is told of a change is the same in states that look alike, whatever identifiers and
whatever time the change is given: without a permission on all objects nothing can be created, and
all else only depends on what is seen.
-/

namespace Tagging

namespace State.Alike

variable {principal : Principal} {first second : State}

private theorem authorizeGlobal (alike : Alike principal first second) (permission : Permission) :
    first.authorizeGlobal principal permission = second.authorizeGlobal principal permission := by
  rw [State.authorizeGlobal, State.authorizeGlobal, GrantIndex.check, GrantIndex.check,
    alike.allows]

end State.Alike

private theorem Tag.bare_eq_iff (a b : Tag) :
    a.bare = b.bare ↔
      a.id = b.id ∧ a.label = b.label ∧ a.color = b.color ∧ a.createdAt = b.createdAt := by
  simp [bare]

namespace Operation

/-- What is shown of what an operation yields: all but the attachments of a tag. -/
def shown : (operation : Operation) → operation.Value → operation.Value
  | .createTag .. | .replaceTag .. | .updateTag .. | .attachTag .. => Tag.bare
  | .deleteTag _ | .createDocument _ | .deleteDocument _ | .removeTag ..
  | .grant _ | .revoke _ => id

variable {principal : Principal} {first second : State}

/-- An operation is approved in both states or refused in both, for the same reason. -/
theorem approve_alike (alike : first.Alike principal second) (operation : Operation) :
    operation.approve first principal = operation.approve second principal := by
  cases operation with
  | createTag label color => exact alike.authorizeGlobal ..
  | replaceTag id label color =>
    exact State.Alike.bind_eq (alike.visibleTag ..) fun _ _ _ _ _ ↦ rfl
  | updateTag id patch => exact State.Alike.bind_eq (alike.visibleTag ..) fun _ _ _ _ _ ↦ rfl
  | deleteTag id => exact State.Alike.bind_eq (alike.visibleTag ..) fun _ _ _ _ _ ↦ rfl
  | createDocument label => exact alike.authorizeGlobal ..
  | deleteDocument id => rw [approve, approve, alike.visibleDocument]
  | attachTag document tag => exact alike.checkPair ..
  | removeTag document tag => exact alike.checkPair ..
  | grant given =>
    obtain ⟨holder, permission, _ | object⟩ := given
    · rfl
    · simp only [approve, alike.authorize]
  | revoke given =>
    obtain ⟨holder, permission, _ | object⟩ := given
    · rfl
    · simp only [approve, alike.authorize]

private theorem inCatalog_alike {α : Type} {made made' : Except Error α × Catalog} {f : α → α}
    (event event' : α → Change) (same : made.1.map f = made'.1.map f) :
    (Service.inCatalog first made event).1.map (fun done ↦ f done.1) =
      (Service.inCatalog second made' event').1.map fun done ↦ f done.1 := by
  rw [result_inCatalog, result_inCatalog]
  cases one : made.1 <;> cases two : made'.1 <;> simp_all [Except.map]

/-- An approved change yields the same, but for what is not shown. -/
theorem change_alike (alike : first.Alike principal second) (stamp later : Stamp)
    {operation : Operation} {requirement : Requirement}
    (requires : operation.requirement = some requirement)
    (held : requirement.isHeld first.grants principal = true)
    (complete : operation.lacks first = []) :
    (operation.change stamp first).1.map (fun done ↦ operation.shown done.1) =
      (operation.change later second).1.map fun done ↦ operation.shown done.1 := by
  cases operation with
  | createTag label color =>
    cases requires
    -- To create needs a permission on all objects, which the principal does not have.
    exact absurd held alike.not_isHeld_everywhere
  | replaceTag tag label color =>
    cases requires
    have sees := State.Alike.sees_of_isHeld held _ List.mem_cons_self
    have complete := (List.append_eq_nil_iff.mp complete).1
    have present := State.absent_eq_nil.mp complete _ List.mem_cons_self
    obtain ⟨record, other, one, two, bare⟩ := alike.exists_tags sees present
    refine inCatalog_alike _ _ ?_
    rw [Catalog.result_replaceTag _ one, Catalog.result_replaceTag _ two]
    refine State.Alike.bind (f := id) rfl fun label _ _ _ same ↦ ?_
    cases same
    refine State.Alike.bind (f := id) rfl fun color _ _ _ same ↦ ?_
    cases same
    have same : Tag.bare { record with label, color } = Tag.bare { other with label, color } := by
      rw [Tag.bare_eq_iff] at bare ⊢
      exact ⟨bare.1, rfl, rfl, bare.2.2.2⟩
    exact congrArg Except.ok same
  | updateTag tag patch =>
    cases requires
    have sees := State.Alike.sees_of_isHeld held _ List.mem_cons_self
    have present := State.absent_eq_nil.mp complete _ List.mem_cons_self
    obtain ⟨record, other, one, two, bare⟩ := alike.exists_tags sees present
    refine inCatalog_alike _ _ ?_
    rw [Catalog.result_updateTag _ one, Catalog.result_updateTag _ two]
    refine State.Alike.bind (f := id) rfl fun label _ _ _ same ↦ ?_
    cases same
    refine State.Alike.bind (f := id) rfl fun color _ _ _ same ↦ ?_
    cases same
    have same : Tag.bare
          { record with label := label.getD record.label, color := color.getD record.color } =
        Tag.bare
          { other with label := label.getD other.label, color := color.getD other.color } := by
      rw [Tag.bare_eq_iff] at bare ⊢
      exact ⟨bare.1, by rw [bare.2.1], by rw [bare.2.2.1], bare.2.2.2⟩
    exact congrArg Except.ok same
  | deleteTag tag =>
    cases requires
    have sees := State.Alike.sees_of_isHeld held _ List.mem_cons_self
    have present := State.absent_eq_nil.mp complete _ List.mem_cons_self
    obtain ⟨record, other, one, two, _⟩ := alike.exists_tags sees present
    refine inCatalog_alike _ _ ?_
    simp only [Service.untold, Catalog.deleteTag, one, two, Except.map]
  | createDocument label =>
    cases requires
    exact absurd held alike.not_isHeld_everywhere
  | deleteDocument document =>
    cases requires
    have sees := State.Alike.sees_of_isHeld held _ List.mem_cons_self
    refine inCatalog_alike _ _ ?_
    simp only [Service.untold, Catalog.deleteDocument, alike.document document sees]
    cases second.catalog.document? document <;> rfl
  | attachTag document tag =>
    cases requires
    have sees := State.Alike.sees_of_isHeld held
    have present := State.absent_eq_nil.mp complete
    obtain ⟨paper, found⟩ := State.exists_document (present _ List.mem_cons_self)
    obtain ⟨record, other, one, two, bare⟩ :=
      alike.exists_tags (sees (.tag tag) (by simp)) (present (.tag tag) (by simp))
    refine inCatalog_alike _ _ ?_
    rw [result_attached found one,
      result_attached (alike.document document (sees _ List.mem_cons_self) ▸ found) two]
    -- What the tag is attached to is not shown, so that one attachment more makes no difference.
    have same : Tag.bare { record with documents := record.documents.insert document } =
        Tag.bare { other with documents := other.documents.insert document } := bare
    exact congrArg Except.ok same
  | removeTag document tag =>
    cases requires
    have sees := State.Alike.sees_of_isHeld held
    refine inCatalog_alike _ _ ?_
    rw [Catalog.result_remove, Catalog.result_remove,
      alike.attached tag document (sees (.tag tag) (by simp)) (sees _ List.mem_cons_self)]
  | grant given =>
    obtain ⟨holder, permission, _ | object⟩ := given
    · cases requires
    · rfl
  | revoke given =>
    obtain ⟨holder, permission, _ | object⟩ := given
    · cases requires
    · cases requires
      have sees := State.Alike.sees_of_isHeld held _ List.mem_cons_self
      have same := alike.contains ⟨holder, permission, some object⟩ object rfl sees
      by_cases present : second.grants.contains ⟨holder, permission, some object⟩
      · simp [change, GrantIndex.erase, same, present, Except.map]
      · simp [change, GrantIndex.erase, same, present, Except.map]

/-- In states that look alike every operation yields the same, but for what is not shown, whatever
identifiers and whatever time it is given. -/
theorem result_alike {service other : Service} (alike : service.state.Alike principal other.state)
    (saves : service.saves = other.saves) (stamp later : Stamp) (operation : Operation) :
    (operation.run service stamp principal).result.map operation.shown =
      (operation.run other later principal).result.map operation.shown := by
  rw [result_run, result_run, approve_alike alike]
  refine State.Alike.bind (f := id) rfl fun _ _ approved _ _ ↦ ?_
  cases requires : operation.requirement with
  | none =>
    rw [approve_of_requirement_none requires] at approved
    cases approved
  | some requirement =>
    rw [← approve_alike alike] at approved
    have approves := operation.mediates_approve service.state principal requires
    have changes := change_alike alike stamp later requires (approves.held_of_ok approved)
      (approves.eq_nil approved)
    refine State.Alike.bind changes fun _ _ _ _ same ↦ ?_
    rw [saves]
    split
    · exact congrArg Except.ok same
    · rfl

end Operation

end Tagging
