import Tagging.Proofs.Service.Accounting

/-!
# Referential integrity

Attachments are kept with the tags and grants beside the catalog, so that a deletion has to see to
both. Whatever a service lives through, neither names an object that does not exist. So whoever gets
an identifier that is free gets an object without a past, even if the identifier was in use before.
-/

namespace Tagging

namespace State

/-- Every record stands under its own identifier, and no attachment and no grant names an object
that does not exist. -/
structure Intact (state : State) : Prop where
  wellKeyed : state.catalog.WellKeyed
  attached : ∀ id tag, state.catalog.tag? id = some tag → ∀ document ∈ tag.documents,
    (state.catalog.document? document).isSome
  granted : ∀ grant object, state.grants.contains grant → grant.object = some object →
    state.has object

/-- The object exists, but nothing is attached to it, it is attached to nothing, and there is no
grant on it. -/
structure Bare (state : State) (object : Object) : Prop where
  has : state.has object
  unattached : ∀ tag document, object = .tag tag ∨ object = .document document →
    state.catalog.isAttached tag document = false
  ungranted : ∀ grant, grant.object = some object → state.grants.contains grant = false

/-! ### What changes keep -/

/-- Attachments name documents that exist if and only if the catalog is intact. -/
theorem attached_iff (catalog : Catalog) :
    (∀ id tag, catalog.tag? id = some tag → ∀ document ∈ tag.documents,
      (catalog.document? document).isSome) ↔ catalog.Intact := by
  constructor
  · intro attached id document named
    rw [Catalog.isAttached, Option.any_eq_true] at named
    obtain ⟨tag, found, contained⟩ := named
    exact attached id tag found document (Std.ExtTreeSet.contains_iff_mem.mp contained)
  · intro intact id tag found document member
    refine intact id document ?_
    rw [Catalog.isAttached, found]
    exact Std.ExtTreeSet.contains_iff_mem.mpr member

/-- Nothing names nothing. -/
theorem intact_empty : Intact ∅ where
  wellKeyed := Catalog.wellKeyed_empty
  attached id tag found := by cases found.symm.trans (Catalog.tag?_empty id)
  granted grant object contained := by
    have absent := GrantIndex.contains_empty grant
    cases absent.symm.trans contained

end State

namespace Operation

variable {state changed : State} {operation : Operation} {stamp : Stamp} {actor : Principal}
  {value : operation.Value} {asked : Change}

private theorem granted_regrant (approved : operation.approve state actor = .ok ())
    {grant : Grant} {object : Object} (on : grant.object = some object)
    (contained : (operation.regrant state.grants).contains grant) :
    state.grants.contains grant ∨ state.has object := by
  cases operation with
  | grant given =>
    rw [regrant, GrantIndex.contains_insert] at contained
    obtain rfl | before := contained
    · refine .inr ?_
      simp only [approve, on, State.authorize] at approved
      by_cases present : state.has object
      · exact present
      · simp [present, bind, Except.bind] at approved
    · exact .inl before
  | revoke given =>
    rw [regrant, GrantIndex.contains_erase] at contained
    exact .inl contained.2
  | _ => exact .inl contained

private theorem purges_of_gone (does : operation.Does stamp state asked changed) {object : Object}
    (gone : (Service.eventOf stamp actor asked).presence object = some false) :
    asked.purges = true ∧ asked.target = object := by
  have relevant : ((Service.eventOf stamp actor asked).presence object).isSome := by rw [gone]; rfl
  rw [Event.isSome_presence, decide_eq_true_eq] at relevant
  obtain ⟨target, created | deleted⟩ := relevant
  · have affirmed := (Event.verb_of_presence gone).mpr created
    cases affirmed
  · refine ⟨?_, target⟩
    have verb : operation.verb = object.kind.deleted := does.verb.symm.trans deleted
    rw [does.purges]
    cases operation <;> cases kind : object.kind <;> simp_all [Operation.verb, Kind.deleted, purges]

end Operation

private theorem Service.granted_install (grants : List Grant) (index : GrantIndex) (added : Nat)
    {grant : Grant} {object : Object} (on : grant.object = some object)
    (contained : (install index added grants).2.contains grant) : index.contains grant := by
  obtain installed | before := (contains_install ..).mp contained
  · rw [object_of_installable installed] at on
    cases on
  · exact before

namespace State

/-- Recording a change takes the grants on the object away that the event tells to be gone. -/
theorem granted_recorded {changed : State} {asked : Change} {event : Event} {grant : Grant}
    {object : Object} (on : grant.object = some object)
    (contained : (Service.recorded changed asked event).grants.contains grant) :
    changed.grants.contains grant ∧ ¬ (asked.purges = true ∧ asked.target = object) := by
  simp only [Service.recorded] at contained
  split at contained
  · rw [GrantIndex.contains_purge, on] at contained
    refine ⟨contained.2, ?_⟩
    rintro ⟨_, rfl⟩
    exact contained.1 rfl
  · next keeps => exact ⟨contained, fun gone ↦ keeps gone.1⟩

/-- Every change to a state keeps it intact. -/
theorem Intact.becomes {state next : State} (intact : state.Intact)
    (becomes : state.Becomes next) : next.Intact := by
  cases becomes with
  | @operation operation stamp actor value asked changed approved made =>
    have makes := Operation.makes_change intact.wellKeyed made actor
    have does := Operation.change_ok made
    refine ⟨does.wellKeyed intact.wellKeyed, ?_, fun grant object contained on ↦ ?_⟩
    · exact (attached_iff changed.catalog).mpr
        (makes.intact ((attached_iff state.catalog).mp intact.attached))
    · obtain ⟨left, stays⟩ := granted_recorded on contained
      rw [does.grants] at left
      have present : state.has object :=
        (Operation.granted_regrant approved on left).elim (intact.granted grant object · on) id
      have told : changed.has object = _ := makes.told.has object
      change changed.has object
      rw [told]
      -- With an object that the event makes disappear its grants would have gone.
      cases presence : (Service.eventOf stamp actor asked).presence object with
      | none => exact present
      | some value =>
        cases value with
        | true => rfl
        | false => exact absurd (Operation.purges_of_gone does presence) stays
  | installation grants =>
    exact ⟨intact.wellKeyed, intact.attached, fun grant object contained on ↦
      intact.granted grant object (Service.granted_install grants _ _ on contained) on⟩

end State

/-! ### Creations -/

/-- The object that an operation creates, with the identifier that is drawn. -/
def Operation.creates (stamp : Stamp) : Operation → Option Object
  | .createTag .. => some (.tag (stamp.ids 0))
  | .createDocument .. => some (.document (stamp.ids 0))
  | _ => none

private theorem Operation.recorded_creation {operation : Operation} {stamp : Stamp}
    {object : Object} (creates : operation.creates stamp = some object) (index : GrantIndex) :
    operation.verb = object.kind.created ∧ operation.target stamp = some object ∧
      operation.purges = false ∧ operation.regrant index = index := by
  cases operation with
  | createTag | createDocument =>
    cases creates
    exact ⟨rfl, rfl, rfl, rfl⟩
  | _ => cases creates

/-- An object that is created under a free identifier in an intact state has no past. -/
theorem State.Intact.bare {state changed : State} {operation : Operation} {stamp : Stamp}
    {value : operation.Value} {asked : Change} {object : Object} (intact : state.Intact)
    (creates : operation.creates stamp = some object) (free : state.has object = false)
    (made : operation.change stamp state = (.ok (value, asked), changed)) (actor : Principal) :
    (Service.recorded changed asked (Service.eventOf stamp actor asked)).Bare object := by
  have told := (Operation.makes_change intact.wellKeyed made actor).told
  have does := Operation.change_ok made
  obtain ⟨verb, target, keeps, same⟩ := Operation.recorded_creation creates state.grants
  have own : (Service.eventOf stamp actor asked).target = object :=
    Option.some.inj ((does.target intact.wellKeyed).symm.trans target)
  have created : (Service.eventOf stamp actor asked).verb =
      (Service.eventOf stamp actor asked).target.kind.created := by
    rw [own]
    exact does.verb.trans verb
  refine ⟨?_, fun tag document about ↦ ?_, fun grant on ↦ ?_⟩
  · change changed.catalog.has object = true
    rw [told.has, Event.presence_of_created created, if_pos own]
    rfl
  · change changed.catalog.isAttached tag document = false
    rw [told.isAttached, Event.attachment_of_created created, Option.getD_none]
    -- An attachment would name two objects that exist, one of them the new one.
    refine Bool.eq_false_iff.mpr fun attached ↦ ?_
    have present : state.has object := by
      obtain rfl | rfl := about
      · exact Catalog.has_of_isAttached attached
      · exact (State.attached_iff state.catalog).mp intact.attached tag document attached
    rw [free] at present
    cases present
  · refine Bool.eq_false_iff.mpr fun contained ↦ ?_
    obtain ⟨left, _⟩ := State.granted_recorded on contained
    rw [does.grants, same] at left
    have present := intact.granted grant object left on
    rw [free] at present
    cases present

/-! ### Whole lifetimes -/

/-- Whatever a service has lived through, every record stands under its own identifier, and no
attachment and no grant names an object that does not exist; and an object that is then created
under an identifier that is free has neither attachments nor grants. -/
theorem Service.live_intact (persistent : Bool) (turns : List Turn) :
    let service := (fresh persistent).live turns
    service.state.Intact ∧
      ∀ stamp actor (operation : Operation) object, operation.creates stamp = some object →
        service.state.has object = false →
        ∀ value, (operation.run service stamp actor).result = .ok value →
          (operation.run service stamp actor).service.state.Bare object := by
  intro service
  have intact : service.state.Intact :=
    (keeps_live State.intact_empty (fun _ _ becomes sound ↦ sound.becomes becomes)
      persistent turns).state
  refine ⟨intact, fun stamp actor operation object creates free value succeeds ↦ ?_⟩
  obtain ⟨error, drawn, failed⟩ | ⟨value, asked, changed, _, made, done⟩ :=
    operation.run_made service stamp actor
  · rw [failed] at succeeds
    cases succeeds
  · rw [done]
    exact intact.bare creates free made actor

/-- A tag that was attached and shared is deleted. The next tag under its identifier is neither. -/
theorem Service.live_intact_again :
    let root : Principal := ⟨"root", [], true⟩
    let stamp := fun n ↦ ({ ids := fun _ ↦ Uuid.ofNat n, now := Instant.origin } : Stamp)
    let perform := fun n operation ↦ Turn.step (.perform (stamp n) root (.change operation))
    let turns := [perform 0 (.createDocument "Plans"), perform 1 (.createTag "red" none),
      perform 2 (.attachTag (Uuid.ofNat 0) (Uuid.ofNat 1)),
      perform 3 (.grant ⟨.user "bob", .tagView, some (.tag (Uuid.ofNat 1))⟩),
      perform 4 (.deleteTag (Uuid.ofNat 1))]
    let recreate : Operation := .createTag "blue" none
    ((fresh false).live (turns.take 4)).state.catalog.isAttached (Uuid.ofNat 1) (Uuid.ofNat 0) ∧
      ((fresh false).live turns).state.has (.tag (Uuid.ofNat 1)) = false ∧
      (recreate.run ((fresh false).live turns) (stamp 1) root).result.toOption.isSome ∧
      (recreate.run ((fresh false).live turns) (stamp 1) root).service.state.Bare
        (.tag (Uuid.ofNat 1)) := by
  intro root stamp perform turns recreate
  have free : ((fresh false).live turns).state.has (.tag (Uuid.ofNat 1)) = false := by
    decide +kernel
  have succeeds : (recreate.run ((fresh false).live turns) (stamp 1) root).result.toOption.isSome :=
    by decide +kernel
  refine ⟨by decide +kernel, free, succeeds, ?_⟩
  cases made : (recreate.run ((fresh false).live turns) (stamp 1) root).result with
  | error error =>
    rw [made] at succeeds
    cases succeeds
  | ok value =>
    have creation := (live_intact false turns).2
    exact creation (stamp 1) root recreate (.tag (Uuid.ofNat 1)) rfl free value made

end Tagging
