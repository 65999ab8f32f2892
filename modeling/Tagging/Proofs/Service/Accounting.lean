import Tagging.Proofs.Catalog.Presence
import Tagging.Proofs.Service.Lifetime

/-!
# The log accounts for the catalog

Every change to the catalog is told by the event that records it, so that at any time the newest
event that tells of an object tells whether it exists, and the newest one that tells of an
attachment whether it is there.
-/

namespace Tagging

/-! ### Changes told by their events -/

/-- An operation that goes well makes a change to the catalog that its event records. -/
theorem Operation.makes_change {operation : Operation} {stamp : Stamp} {state changed : State}
    {value : operation.Value} {asked : Change} (sound : state.catalog.WellKeyed)
    (done : operation.change stamp state = (.ok (value, asked), changed)) (actor : Principal) :
    state.catalog.Makes (Service.eventOf stamp actor asked) changed.catalog := by
  have does := change_ok done
  have verb : (Service.eventOf stamp actor asked).verb = operation.verb := does.verb
  have target : some (Service.eventOf stamp actor asked).target = operation.target stamp :=
    (does.target sound).symm
  have second : (Service.eventOf stamp actor asked).actionObject = operation.actionObject :=
    does.actionObject
  cases operation with
  | createTag label color =>
    exact Catalog.makes_createTag (inCatalog_made done) verb (Option.some.inj target)
  | replaceTag id label color =>
    exact Catalog.makes_replaceTag (inCatalog_made done) verb (Option.some.inj target)
  | updateTag id patch =>
    exact Catalog.makes_updateTag (inCatalog_made done) verb (Option.some.inj target)
  | deleteTag id =>
    obtain ⟨tag, made⟩ := exists_of_untold (inCatalog_made done)
    exact Catalog.makes_deleteTag made verb (Option.some.inj target)
  | createDocument label =>
    exact Catalog.makes_createDocument (inCatalog_made done) verb (Option.some.inj target)
  | deleteDocument id =>
    obtain ⟨document, made⟩ := exists_of_untold (inCatalog_made done)
    exact Catalog.makes_deleteDocument made verb (Option.some.inj target)
  | attachTag document tag =>
    obtain ⟨new, made⟩ := attach_of_attached (inCatalog_made done)
    exact Catalog.makes_attach made verb ⟨Option.some.inj target, second⟩
  | removeTag document tag =>
    exact Catalog.makes_remove (inCatalog_made done) verb ⟨Option.some.inj target, second⟩
  | grant given =>
    cases changed_of_grant done
    exact .same (.inl verb)
  | revoke given =>
    cases changed_of_revoke done
    exact .same (.inr verb)

/-! ### States that their log accounts for -/

namespace State

/-- The log tells which objects exist and what is attached. -/
structure Accounted (state : State) : Prop where
  wellKeyed : state.catalog.WellKeyed
  has : ∀ object, state.has object = state.events.tells (·.presence object)
  isAttached : ∀ tag document,
    state.catalog.isAttached tag document = state.events.tells (·.attachment tag document)

/-- Nothing exists, and nothing is recorded. -/
theorem accounted_empty : Accounted ∅ where
  wellKeyed := Catalog.wellKeyed_empty
  has object := by
    obtain ⟨kind, id⟩ := object
    cases kind <;> rfl
  isAttached tag document := rfl

/-- Every change to a state is accounted for. -/
theorem Accounted.becomes {state next : State} (accounted : state.Accounted)
    (becomes : state.Becomes next) : next.Accounted := by
  cases becomes with
  | @operation operation stamp actor value asked changed approved made =>
    have told := (Operation.makes_change accounted.wellKeyed made actor).told
    have does := Operation.change_ok made
    refine ⟨does.wellKeyed accounted.wellKeyed, fun object ↦ ?_, fun tag document ↦ ?_⟩
    · have before : state.catalog.has object = _ := accounted.has object
      change changed.catalog.has object = (changed.events.record _).tells _
      rw [EventLog.tells_record, does.events, told.has, before]
    · change changed.catalog.isAttached tag document = (changed.events.record _).tells _
      rw [EventLog.tells_record, does.events, told.isAttached, accounted.isAttached]
  | installation grants => exact ⟨accounted.wellKeyed, accounted.has, accounted.isAttached⟩

end State

/-- Whatever a service has lived through, an object exists if and only if the newest event of its
creation or deletion is a creation, and a tag is attached to a document if and only if the newest
event that attaches or detaches the two or deletes one of them attaches them. -/
theorem Service.live_accounted (persistent : Bool) (turns : List Turn) :
    let state := ((fresh persistent).live turns).state
    (∀ id, (state.catalog.tag? id).isSome ↔
      ∃ event, state.events.newest? (fun event ↦ event.target = .tag id ∧
          (event.verb = .tagCreated ∨ event.verb = .tagDeleted)) = some event ∧
        event.verb = .tagCreated) ∧
    (∀ id, (state.catalog.document? id).isSome ↔
      ∃ event, state.events.newest? (fun event ↦ event.target = .document id ∧
          (event.verb = .documentCreated ∨ event.verb = .documentDeleted)) = some event ∧
        event.verb = .documentCreated) ∧
    ∀ tag document, state.catalog.isAttached tag document ↔
      ∃ event, state.events.newest? (fun event ↦
          event.IsBetween tag document ∧ (event.verb = .tagAttach ∨ event.verb = .tagRemoved) ∨
          event.target = .tag tag ∧ event.verb = .tagDeleted ∨
          event.target = .document document ∧ event.verb = .documentDeleted) = some event ∧
        event.verb = .tagAttach := by
  intro state
  have accounted : state.Accounted :=
    (keeps_live State.accounted_empty (fun _ _ becomes sound ↦ sound.becomes becomes)
      persistent turns).state
  refine ⟨fun id ↦ ?_, fun id ↦ ?_, fun tag document ↦ ?_⟩
  · have newest := EventLog.tells_iff (Event.isSome_presence · (.tag id))
      (fun _ _ ↦ Event.verb_of_presence) state.events
    rw [← accounted.has] at newest
    exact newest
  · have newest := EventLog.tells_iff (Event.isSome_presence · (.document id))
      (fun _ _ ↦ Event.verb_of_presence) state.events
    rw [← accounted.has] at newest
    exact newest
  · rw [accounted.isAttached]
    exact EventLog.tells_iff (Event.isSome_attachment · tag document)
      (fun _ _ ↦ Event.verb_of_attachment) state.events

end Tagging
