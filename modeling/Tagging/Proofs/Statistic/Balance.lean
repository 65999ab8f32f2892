import Tagging.Proofs.Service.Integrity
import Tagging.Proofs.Statistic.Tally

/-!
# The log and the number of objects

Each creation adds one object and each deletion takes one away, and both are recorded. So what was
created less what was deleted is what is there, unless an identifier was drawn that was in use: then
the object that has it stays, but a creation is recorded.
-/

namespace Tagging

open Std (ExtTreeMap)

/-! ### The number of objects -/

namespace Catalog

/-- The number of objects of a kind. -/
def number (catalog : Catalog) : Kind → Nat
  | .tag => catalog.tags.size
  | .document => catalog.documents.size

variable {catalog after : Catalog} {event : Event}

private theorem size_erase_of_contains {α : Type} {map : ExtTreeMap Uuid α} {id : Uuid}
    (contained : map.contains id) : (map.erase id).size + 1 = map.size := by
  have some_there : map.size ≠ 0 := by
    intro none
    rw [ExtTreeMap.eq_empty_iff_size_eq_zero.mpr none] at contained
    cases contained
  rw [ExtTreeMap.size_erase, if_pos contained]
  omega

private theorem tags_contains (catalog : Catalog) (id : Uuid) :
    catalog.tags.contains id = (catalog.tag? id).isSome :=
  ExtTreeMap.contains_eq_isSome_getElem?

private theorem documents_contains (catalog : Catalog) (id : Uuid) :
    catalog.documents.contains id = (catalog.document? id).isSome :=
  ExtTreeMap.contains_eq_isSome_getElem?

private theorem number_putTag (catalog : Catalog) (id : Uuid) (tag : Tag) (kind : Kind) :
    (catalog.putTag id tag).number kind = catalog.number kind +
      if kind = .tag ∧ catalog.tag? id = none then 1 else 0 := by
  cases kind with
  | tag =>
    simp only [number, putTag, ExtTreeMap.size_insert, tags_contains]
    cases catalog.tag? id <;> simp
  | document => rfl

private theorem number_putDocument (catalog : Catalog) (id : Uuid) (document : Document)
    (kind : Kind) :
    (catalog.putDocument id document).number kind = catalog.number kind +
      if kind = .document ∧ catalog.document? id = none then 1 else 0 := by
  cases kind with
  | tag => rfl
  | document =>
    simp only [number, putDocument, ExtTreeMap.size_insert, documents_contains]
    cases catalog.document? id <;> simp

private theorem number_without {object : Object} (present : catalog.has object) (kind : Kind) :
    (catalog.without object).number kind + (if kind = object.kind then 1 else 0) =
      catalog.number kind := by
  obtain ⟨own, id⟩ := object
  cases own with
  | tag =>
    cases kind with
    | tag => exact size_erase_of_contains ((catalog.tags_contains id).trans present)
    | document => rfl
  | document =>
    cases kind with
    | tag => exact ExtTreeMap.size_map
    | document => exact size_erase_of_contains ((catalog.documents_contains id).trans present)

/-- A change to the catalog makes one more object of a kind if its event tells of a creation, and
one less if it tells of a deletion, unless it creates what is there. -/
theorem Makes.number (makes : catalog.Makes event after)
    (free : event.verb = event.target.kind.created → catalog.has event.target = false)
    (kind : Kind) :
    after.number kind + (if event.verb = kind.deleted then 1 else 0) =
      catalog.number kind + if event.verb = kind.created then 1 else 0 := by
  cases makes with
  | kept target verb present =>
    subst target
    rw [free verb] at present
    cases present
  | newTag verb target absent documents =>
    cases kind <;> simp [number_putTag, absent, verb, Kind.created, Kind.deleted]
  | newDocument verb target absent =>
    cases kind <;> simp [number_putDocument, absent, verb, Kind.created, Kind.deleted]
  | @deleted object target verb present =>
    have less := number_without present kind
    cases kind <;> cases own : object.kind <;>
      simp_all [Kind.created, Kind.deleted]
  | edited verb _ present | attached verb _ present | removed verb _ present =>
    cases kind <;> simp [number_putTag, present, verb, Kind.created, Kind.deleted]
  | same verb =>
    obtain verb | verb := verb <;> cases kind <;> simp [verb, Kind.created, Kind.deleted]

end Catalog

/-! ### Identifiers in use -/

private theorem Operation.creates_of_verb {operation : Operation} {stamp : Stamp} {object : Object}
    (verb : operation.verb = object.kind.created) (target : operation.target stamp = some object) :
    operation.creates stamp = some object := by
  cases operation <;> cases kind : object.kind <;> rw [kind] at verb <;>
    first | exact target | cases verb

/-- The turn creates an object and draws the identifier of one of its kind that is there. -/
def Turn.redraws (service : Service) : Turn → Bool
  | .step (.perform stamp principal (.change operation)) =>
    match operation.creates stamp with
    | some object =>
      decide (0 < (operation.run service stamp principal).drawn) && service.state.has object
    | none => false
  | _ => false

/-- Some of the turns draws an identifier that is in use, for an object of the same kind. -/
def Service.redraws (service : Service) : List Turn → Bool
  | [] => false
  | turn :: turns => turn.redraws service || (service.turn turn).redraws turns

/-! ### What is recorded and what is there -/

/-- What was created less what was deleted is what is there. -/
structure State.Balanced (state : State) : Prop where
  wellKeyed : state.catalog.WellKeyed
  number : ∀ kind : Kind, state.events.toList.countP (·.verb = kind.created) =
    state.events.toList.countP (·.verb = kind.deleted) + state.catalog.number kind

namespace State

/-- Nothing is recorded, and nothing is there. -/
theorem balanced_empty : Balanced ∅ where
  wellKeyed := Catalog.wellKeyed_empty
  number kind := by cases kind <;> rfl

/-- An operation that creates nothing that is there keeps the balance. -/
theorem Balanced.recorded {state changed : State} (balanced : state.Balanced)
    {operation : Operation} {stamp : Stamp} {value : operation.Value} {asked : Change}
    (made : operation.change stamp state = (.ok (value, asked), changed))
    (free : ∀ object, operation.creates stamp = some object → state.has object = false)
    (actor : Principal) :
    (Service.recorded changed asked (Service.eventOf stamp actor asked)).Balanced := by
  have does := Operation.change_ok made
  have makes := Operation.makes_change balanced.wellKeyed made actor
  refine ⟨does.wellKeyed balanced.wellKeyed, fun kind ↦ ?_⟩
  have unused (created : (Service.eventOf stamp actor asked).verb =
      (Service.eventOf stamp actor asked).target.kind.created) :
      state.has (Service.eventOf stamp actor asked).target = false :=
    free _ (Operation.creates_of_verb (does.verb.symm.trans created)
      (does.target balanced.wellKeyed))
  have moved := makes.number unused kind
  have before := balanced.number kind
  change (changed.events.record _).toList.countP _ =
    (changed.events.record _).toList.countP _ + changed.catalog.number kind
  rw [does.events]
  simp only [EventLog.toList_record, List.countP_append, List.countP_singleton, decide_eq_true_eq]
  omega

end State

namespace Service

variable {service : Service}

/-- A step that draws no identifier in use keeps the balance. -/
theorem balanced_step (balanced : service.state.Balanced) {step : Step}
    (unused : (Turn.step step).redraws service = false) : (service.step step).state.Balanced := by
  cases step with
  | perform stamp principal command =>
    cases command with
    | ask query => exact balanced
    | change operation =>
      change (operation.run service stamp principal).service.state.Balanced
      obtain ⟨error, drawn, failed⟩ | ⟨value, asked, changed, _, made, done⟩ :=
        operation.run_made service stamp principal
      · rwa [failed]
      · rw [done]
        refine balanced.recorded made (fun object creates ↦ ?_) principal
        simpa [Turn.redraws, creates, done] using unused
  | bootstrap grants =>
    rw [Service.step, state_bootstrap]
    exact ⟨balanced.wellKeyed, balanced.number⟩
  | reach reachable => exact balanced

/-- As long as no identifier in use is drawn, the balance is kept. -/
theorem keeps_balanced (keeps : service.Keeps State.Balanced) {turns : List Turn}
    (unused : service.redraws turns = false) : (service.live turns).Keeps State.Balanced := by
  induction turns generalizing service with
  | nil => exact keeps
  | cons turn turns ih =>
    obtain ⟨now, later⟩ := Bool.or_eq_false_iff.mp unused
    refine ih ?_ later
    cases turn with
    | step step => exact keeps.step_of (balanced_step keeps.state now)
    | restart => exact keeps.reopen State.balanced_empty

end Service

private theorem Statistic.valueAt_eventsPerVerb (state : State) (verb : Verb) :
    valueAt (eventsPerVerb.series state) verb.name =
      state.events.toList.countP (·.verb = verb) := by
  rw [series, valueAt_tally, List.count, List.countP_map]
  exact List.countP_congr fun event _ ↦ by simp [Verb.name_inj]

/-- In a state that is balanced the figures of the events tell the number of objects. -/
theorem State.Balanced.figures {state : State} (balanced : state.Balanced) (kind : Kind) :
    (Statistic.valueAt (Statistic.eventsPerVerb.series state) kind.created.name : Int) -
        Statistic.valueAt (Statistic.eventsPerVerb.series state) kind.deleted.name =
      state.catalog.number kind := by
  rw [Statistic.valueAt_eventsPerVerb, Statistic.valueAt_eventsPerVerb, balanced.number kind]
  omega

open Statistic in
/-- In any state whatever the figures by group divide its records up. In a state that a service
comes to without drawing, for a new object, the identifier of one of the same kind that is there,
the creations that are recorded exceed the deletions by the number of objects. -/
theorem Service.live_countsGroups (state : State) (persistent : Bool) (turns : List Turn) :
    state.CountsGroups ∧
    ((fresh persistent).redraws turns = false →
      let reached := ((fresh persistent).live turns).state
      let value := fun verb ↦ (valueAt (eventsPerVerb.series reached) verb : Int)
      (∃ total : Nat, totalTags.series reached = [⟨"tags", total⟩] ∧
        value "tag_created" - value "tag_deleted" = total) ∧
      ∃ total : Nat, totalDocuments.series reached = [⟨"documents", total⟩] ∧
        value "document_created" - value "document_deleted" = total) := by
  refine ⟨state.countsGroups, fun unused ↦ ?_⟩
  have balanced : ((fresh persistent).live turns).state.Balanced :=
    (keeps_balanced (keeps_fresh State.balanced_empty persistent) unused).state
  exact ⟨⟨_, rfl, balanced.figures .tag⟩, ⟨_, rfl, balanced.figures .document⟩⟩

open Statistic in
/-- Two tags and a document are made in two months, and one tag is deleted. -/
theorem Service.live_countsGroups_two_months :
    let root : Principal := ⟨"root", [], true⟩
    let perform := fun n day operation ↦ Turn.step (.perform
      { ids := fun k ↦ Uuid.ofNat (10 * n + k)
        now := (Instant.ofParts? day 0 0).getD .origin } root
      (.change operation))
    let turns := [perform 1 19700 (.createTag "red" none), perform 2 19730 (.createTag "blue" none),
      perform 3 19730 (.createDocument ""), perform 4 19731 (.createDocument "Plans"),
      perform 5 19732 (.createTag "red" none), perform 6 19733 (.deleteTag (Uuid.ofNat 20))]
    let reached := ((fresh false).live turns).state
    let tags := reached.catalog.tags.values
    (fresh false).redraws turns = false ∧
      tags.map (fun tag ↦ Time.month tag.createdAt) = ["2023-12", "2024-01"] ∧
      (∀ tag ∈ tags, tag.createdAt.HasPlainYear) ∧
      Chronological tags (fun tag ↦ Time.month tag.createdAt) Tag.createdAt
        (newTagsPerMonth.series reached) ∧
      (valueAt (eventsPerVerb.series reached) "tag_created" : Int) -
        valueAt (eventsPerVerb.series reached) "tag_deleted" = 2 := by
  intro root perform turns reached tags
  have unused : (fresh false).redraws turns = false := by decide +kernel
  have plain : ∀ tag ∈ tags, tag.createdAt.HasPlainYear := by
    unfold Instant.HasPlainYear
    decide +kernel
  obtain ⟨groups, balance⟩ := live_countsGroups reached false turns
  obtain ⟨⟨total, series, difference⟩, _⟩ := balance unused
  have two : totalTags.series reached = [⟨"tags", 2⟩] := by decide +kernel
  have counted : total = 2 := by
    rw [two] at series
    cases series
    rfl
  subst counted
  exact ⟨unused, by decide +kernel, plain, groups.chronologicalTags plain, difference⟩

end Tagging
