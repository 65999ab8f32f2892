import Tagging.Proofs.Catalog.Amendment
import Tagging.Proofs.Service.Mediation
import Tagging.Proofs.Service.Transaction

/-!
# Errands

A principal who has a tag amended runs an errand. With which error it fails is a matter of the
state alone; if it goes well, the amendment is made, the grants stay, and one event is recorded.
-/

namespace Tagging

/-! ### How an operation fails -/

/-- The error of a result, if it is one. -/
def errorOf? {α : Type} : Except Error α → Option Error
  | .error error => some error
  | .ok _ => none

private theorem Requirement.Mediates.errorOf? {α : Type} {requirement : Requirement}
    {index : GrantIndex} {principal : Principal} {result : Except Error α} {faults : List Error}
    (mediates : requirement.Mediates index principal result faults) :
    Tagging.errorOf? result =
      if requirement.isHeld index principal then faults.head? else some requirement.denial := by
  split
  · next holds =>
    have settled := mediates.held holds
    cases faults with
    | nil =>
      obtain ⟨value, done⟩ := settled
      rw [done]
      rfl
    | cons fault faults =>
      have failed : result = .error fault := settled
      rw [failed]
      rfl
  · next lacks =>
    rw [mediates.denied (Bool.eq_false_iff.mpr lacks)]
    rfl

namespace Operation

private theorem mediates_run {service : Service} (saves : service.saves) (stamp : Stamp)
    (actor : Principal) {operation : Operation} {requirement : Requirement}
    (requires : operation.requirement = some requirement) :
    requirement.Mediates service.state.grants actor (operation.run service stamp actor).result
      (operation.lacks service.state ++ operation.flaws service.state) := by
  rw [result_run]
  have approves := operation.mediates_approve service.state actor requires
  refine approves.bind fun _ approved ↦ ?_
  have changes := settles_change stamp requires (approves.eq_nil approved)
  simp only [saves, if_true]
  exact changes.map _

/-- What an operation may miss depends only on which objects exist. -/
theorem lacks_congr {state other : State} (has : ∀ object, state.has object = other.has object)
    (operation : Operation) : operation.lacks state = operation.lacks other := by
  have absent : state.absent = other.absent := by
    have same : state.has = other.has := funext has
    funext objects
    rw [State.absent, State.absent, same]
  cases operation <;> simp only [lacks, absent]

end Operation

/-! ### Amendments as operations -/

namespace Amendment

/-- The operation that makes an amendment. -/
def operation : Amendment → Operation
  | .attach document tag => .attachTag document tag
  | .remove document tag => .removeTag document tag
  | .replace tag label color => .replaceTag tag label color
  | .update tag patch => .updateTag tag patch

/-- What an amendment requires. -/
def requirement : Amendment → Requirement
  | .attach document tag => .onEach .tagAttach [.document document, .tag tag]
  | .remove document tag => .onEach .tagRemove [.document document, .tag tag]
  | .replace tag .. | .update tag _ => .onEach .tagEdit [.tag tag]

private theorem requirement_operation (amendment : Amendment) :
    amendment.operation.requirement = some amendment.requirement := by
  cases amendment <;> rfl

private theorem target_operation (amendment : Amendment) (stamp : Stamp) :
    amendment.operation.target stamp = some (.tag amendment.tag) := by
  cases amendment <;> rfl

private theorem purges_operation (amendment : Amendment) : amendment.operation.purges = false := by
  cases amendment <;> rfl

private theorem regrant_operation (amendment : Amendment) (index : GrantIndex) :
    amendment.operation.regrant index = index := by
  cases amendment <;> rfl

/-- What becomes of the catalog through an amendment that goes well. -/
theorem amend_of_change {amendment : Amendment} {stamp : Stamp} {state changed : State}
    {value : amendment.operation.Value} {asked : Change}
    (done : amendment.operation.change stamp state = (.ok (value, asked), changed)) :
    changed.catalog = state.catalog.amend amendment := by
  cases amendment with
  | attach document tag =>
    obtain ⟨new, made⟩ := Operation.attach_of_attached (Operation.inCatalog_made done)
    exact Catalog.amend_of_attach made
  | remove document tag => exact Catalog.amend_of_remove (Operation.inCatalog_made done)
  | replace tag label color => exact Catalog.amend_of_replaceTag (Operation.inCatalog_made done)
  | update tag patch => exact Catalog.amend_of_updateTag (Operation.inCatalog_made done)

end Amendment

/-! ### Errands -/

/-- What an event tells, but for its identifier and its time. -/
@[ext] structure Gist where
  actor : String
  verb : Verb
  target : Object
  actionObject : Option Object
  deriving DecidableEq

/-- What an event tells, but for its identifier and its time. -/
def Event.gist (event : Event) : Gist :=
  ⟨event.actor, event.verb, event.target, event.actionObject⟩

/-- An amendment that a principal asks for. -/
structure Errand where
  actor : Principal
  amendment : Amendment

/-- What came of an errand: the error with which it failed, if it did. -/
structure Errand.Answer where
  errand : Errand
  error? : Option Error

/-- What is recorded of an errand that goes well. -/
def Errand.gist (errand : Errand) : Gist where
  actor := errand.actor.user
  verb := errand.amendment.operation.verb
  target := .tag errand.amendment.tag
  actionObject := errand.amendment.operation.actionObject

/-- What is recorded of an errand: one event if it went well, and nothing if it failed. -/
def Errand.Answer.gists (answer : Answer) : List Gist :=
  match answer.error? with
  | none => [answer.errand.gist]
  | some _ => []

/-- The state without its log. -/
def State.unlogged (state : State) : State :=
  { state with events := ∅ }

/-- The state with a tag amended. -/
def State.amend (state : State) (amendment : Amendment) : State :=
  { state with catalog := state.catalog.amend amendment }

namespace Errand

/-- Runs an errand in a service. -/
def run (errand : Errand) (stamp : Stamp) (service : Service) : Answer × Service :=
  let outcome := errand.amendment.operation.run service stamp errand.actor
  (⟨errand, errorOf? outcome.result⟩, outcome.service)

/-- The error with which an errand fails in a state, if it does. -/
def error? (errand : Errand) (state : State) : Option Error :=
  if errand.amendment.requirement.isHeld state.grants errand.actor then
    (errand.amendment.operation.lacks state ++ errand.amendment.operation.flaws state).head?
  else some errand.amendment.requirement.denial

/-- What comes of an errand in a state whose log is left aside. -/
def act (errand : Errand) (state : State) : Answer × State :=
  (⟨errand, errand.error? state⟩,
    if (errand.error? state).isNone then state.amend errand.amendment else state)

/-! ### One errand -/

/-- Each record stands under its own identifier, and changes can be saved. -/
structure Steady (service : Service) : Prop where
  wellKeyed : service.state.catalog.WellKeyed
  saves : service.saves

/-- What can come of an errand that is run in a service. -/
inductive Fares (errand : Errand) (service : Service) : Answer × Service → Prop where
  | failed {error : Error} (fails : errand.error? service.state = some error) :
      Fares errand service (⟨errand, some error⟩, service)
  | done {after : Service} {event : Event} (succeeds : errand.error? service.state = none)
      (catalog : after.state.catalog = service.state.catalog.amend errand.amendment)
      (grants : after.state.grants = service.state.grants)
      (log : after.state.events.toList = service.state.events.toList ++ [event])
      (gist : event.gist = errand.gist) (steady : Steady after) :
      Fares errand service (⟨errand, none⟩, after)

/-- An errand fails with its error, or its amendment is made and recorded. -/
theorem fares {service : Service} (steady : Steady service) (errand : Errand) (stamp : Stamp) :
    errand.Fares service (errand.run stamp service) := by
  have error : errorOf? (errand.amendment.operation.run service stamp errand.actor).result =
      errand.error? service.state :=
    (Operation.mediates_run steady.saves stamp errand.actor
      errand.amendment.requirement_operation).errorOf?
  unfold run
  obtain ⟨fault, drawn, failed⟩ | ⟨value, asked, changed, _, made, done⟩ :=
    errand.amendment.operation.run_made service stamp errand.actor
  · rw [failed] at error ⊢
    exact .failed error.symm
  · rw [done] at error ⊢
    have does := Operation.change_ok made
    have told : errand.amendment.operation.ToldBy stamp errand.actor
        (Service.eventOf stamp errand.actor asked) := does.toldBy steady.wellKeyed
    have target := told.target
    rw [Amendment.target_operation] at target
    have grants : (service.committed stamp errand.actor asked changed).state.grants =
        service.state.grants := by
      refine (does.grants_recorded _).trans ?_
      rw [Amendment.purges_operation, Amendment.regrant_operation]
      rfl
    have catalog : changed.catalog = service.state.catalog.amend errand.amendment :=
      Amendment.amend_of_change made
    have gist : (Service.eventOf stamp errand.actor asked).gist = errand.gist :=
      Gist.ext told.actor told.verb (Option.some.inj target).symm told.actionObject
    have saves : (service.committed stamp errand.actor asked changed).saves := by
      rw [Service.saves_committed, steady.saves]
    exact .done error.symm catalog grants (does.toList_committed errand.actor) gist
      ⟨does.wellKeyed steady.wellKeyed, saves⟩

end Errand

end Tagging
