import Tagging.Proofs.Service.Operation

/-!
# Transactions

What can come of an operation is said once, in `Operation.run_cases`: either the service stays as it
was, or the change stands, has been saved, and one event has been recorded and announced. What a
change does to the state is said once as well, in `Operation.Does`. All that holds of runs rests on
these two, and first of all that it is all or nothing.
-/

namespace Tagging

namespace Service

/-! ### Committing a change -/

/-- A change can be saved: there is no disk, or it is within reach. -/
def saves (service : Service) : Bool :=
  service.disk.all (·.reachable)

/-- The service once a change has been recorded, saved and announced. -/
def committed (service : Service) (stamp : Stamp) (actor : Principal) (asked : Change)
    (changed : State) : Service :=
  let event := eventOf stamp actor asked
  let state := recorded changed asked event
  let watchers := changed.grants.holdersOf .eventsView asked.target
  ⟨state, service.disk.map fun disk ↦ { disk with snapshot := some state.snapshot },
    service.feed.send ⟨event, watchers⟩⟩

/-- A service can be saved after a change exactly if it could be before. -/
theorem saves_committed (service : Service) (stamp : Stamp) (actor : Principal)
    (asked : Change) (changed : State) :
    (service.committed stamp actor asked changed).saves = service.saves := by
  obtain ⟨state, disk, feed⟩ := service
  cases disk <;> rfl

section

variable {α : Type} {service : Service} {stamp : Stamp} {actor : Principal}
  {change : State → Except Error (α × Change) × State} {asked : Change} {changed : State}

/-- A change that fails and leaves the state as it was leaves the service as it was. -/
theorem commit_of_error {error : Error}
    (made : change service.state = (.error error, service.state)) :
    service.commit stamp actor change = ⟨.error error, service, 0⟩ := by
  have recovered : service.recover service.state = service := by
    unfold recover
    split <;> rfl
  rw [commit, made]
  simp only [recovered]

/-- A change that cannot be saved leaves the service as it was. -/
theorem commit_of_not_saves {value : α}
    (made : change service.state = (.ok (value, asked), changed))
    (unsaved : service.saves = false) :
    service.commit stamp actor change = ⟨.error Disk.outOfReach, service, asked.drawn + 1⟩ := by
  obtain ⟨state, disk, feed⟩ := service
  cases disk with
  | none => cases unsaved
  | some disk =>
    have reachable : disk.reachable = false := unsaved
    rw [commit, made]
    simp [flush, Disk.save, reachable, recover, bind, Except.bind]

/-- A change that can be saved is recorded and announced. -/
theorem commit_of_saves {value : α}
    (made : change service.state = (.ok (value, asked), changed)) (saved : service.saves) :
    service.commit stamp actor change =
      ⟨.ok value, service.committed stamp actor asked changed, asked.drawn + 1⟩ := by
  obtain ⟨state, disk, feed⟩ := service
  cases disk with
  | none =>
    rw [commit, made]
    rfl
  | some disk =>
    have reachable : disk.reachable = true := saved
    rw [commit, made]
    simp [flush, Disk.save, reachable, committed, bind, Except.bind]

end

end Service

namespace Operation

/-! ### What a change does -/

/-- What an operation that goes well does to the state, and what it asks to be recorded. -/
structure Does (operation : Operation) (stamp : Stamp) (state : State) (asked : Change)
    (changed : State) : Prop where
  verb : asked.verb = operation.verb
  target : state.catalog.WellKeyed → operation.target stamp = some asked.target
  actionObject : asked.actionObject = operation.actionObject
  events : changed.events = state.events
  purges : asked.purges = operation.purges
  grants : changed.grants = operation.regrant state.grants
  wellKeyed : state.catalog.WellKeyed → changed.catalog.WellKeyed
  without : ∀ object, operation.target stamp = some object →
    changed.catalog.without object = state.catalog.without object

section

variable {α : Type} {state changed : State} {made : Except Error α × Catalog} {event : α → Change}

/-- A change in the catalog that goes well leaves all but the catalog. -/
theorem inCatalog_ok {value : α} {asked : Change}
    (done : Service.inCatalog state made event = (.ok (value, asked), changed)) :
    made.1 = .ok value ∧ event value = asked ∧ { state with catalog := made.2 } = changed := by
  unfold Service.inCatalog at done
  cases result : made.1 with
  | error error =>
    rw [result] at done
    cases done
  | ok value =>
    rw [result] at done
    cases done
    exact ⟨rfl, rfl, rfl⟩

/-- A change in the catalog that goes well is made there. -/
theorem inCatalog_made {value : α} {asked : Change}
    (done : Service.inCatalog state made event = (.ok (value, asked), changed)) :
    made = (.ok value, changed.catalog) := by
  obtain ⟨result, _, rfl⟩ := inCatalog_ok done
  exact Prod.ext result rfl

private theorem inCatalog_error {object : Object} {error : Error}
    (confined : state.catalog.Confined object made)
    (failed : (Service.inCatalog state made event).1 = .error error) :
    (Service.inCatalog state made event).2 = state := by
  unfold Service.inCatalog at failed ⊢
  cases result : made.1 with
  | error error => simp [confined.unchanged error result]
  | ok value => simp [result] at failed

/-- What a change confined to one object does, if the event that it asks for is about the object. -/
theorem Does.of_inCatalog {operation : Operation} {stamp : Stamp} {object : Object} {value : α}
    {asked : Change} (done : Service.inCatalog state made event = (.ok (value, asked), changed))
    (confined : state.catalog.Confined object made) (about : operation.target stamp = some object)
    (verb : (event value).verb = operation.verb)
    (target : made.1 = .ok value → state.catalog.WellKeyed → (event value).target = object)
    (actionObject : (event value).actionObject = operation.actionObject)
    (purges : (event value).purges = operation.purges)
    (grants : state.grants = operation.regrant state.grants) :
    operation.Does stamp state asked changed := by
  obtain ⟨result, rfl, rfl⟩ := inCatalog_ok done
  refine ⟨verb, ?_, actionObject, rfl, purges, grants, confined.wellKeyed, ?_⟩
  · intro sound
    rw [about, target result sound]
  · intro other same
    rw [about] at same
    cases same
    exact confined.without

private theorem confined_untold {catalog : Catalog} {object : Object}
    {change : Except Error α × Catalog} (confined : catalog.Confined object change) :
    catalog.Confined object (Service.untold change) where
  unchanged error failed := by
    obtain ⟨result, left⟩ := change
    cases result with
    | error fault => exact confined.unchanged fault rfl
    | ok value => cases failed
  wellKeyed := confined.wellKeyed
  without := confined.without

/-- A change succeeds that succeeds untold. -/
theorem exists_of_untold {change : Except Error α × Catalog} {left : Catalog}
    (done : Service.untold change = (.ok (), left)) : ∃ value, change = (.ok value, left) := by
  obtain ⟨result, after⟩ := change
  cases result with
  | error error => cases done
  | ok value =>
    cases done
    exact ⟨value, rfl⟩

/-- Where a tag is yielded, it has been attached. -/
theorem attach_of_attached {catalog left : Catalog} {tag document : Uuid} {record : Tag}
    (made : Service.attached tag (catalog.attach tag document) = (.ok record, left)) :
    ∃ new, catalog.attach tag document = (.ok new, left) := by
  cases first : catalog.attach tag document with
  | mk result after =>
    rw [first] at made
    cases result with
    | error error => cases made
    | ok new =>
      simp only [Service.attached] at made
      split at made
      · cases made
        exact ⟨new, rfl⟩
      · cases made

private theorem attached_attach (catalog : Catalog) (tag document : Uuid) :
    catalog.Confined (.tag tag) (Service.attached tag (catalog.attach tag document)) ∧
      ∀ record, (Service.attached tag (catalog.attach tag document)).1 = .ok record →
        catalog.WellKeyed → record.id = tag := by
  have confined : catalog.Confined (.tag tag) (catalog.attach tag document) :=
    Catalog.confined_attach tag document
  cases made : catalog.attach tag document with
  | mk result left =>
    rw [made] at confined
    cases result with
    | error error =>
      refine ⟨?_, fun record yielded ↦ by cases yielded⟩
      exact ⟨fun _ _ ↦ confined.unchanged error rfl, confined.wellKeyed, confined.without⟩
    | ok new =>
      obtain ⟨record, found, stands⟩ := Catalog.tag?_of_attach (congrArg Prod.fst made)
      rw [made] at stands
      simp only [Service.attached, stands]
      refine ⟨⟨fun error failed ↦ (by cases failed), confined.wellKeyed, confined.without⟩, ?_⟩
      intro yielded same sound
      cases same
      exact sound.tag tag record found

/-- To give a grant changes nothing but the grants. -/
theorem changed_of_grant {stamp : Stamp} {given : Grant} {value : (Operation.grant given).Value}
    {asked : Change}
    (done : (Operation.grant given).change stamp state = (.ok (value, asked), changed)) :
    changed = { state with grants := (state.grants.insert given).2 } := by
  obtain ⟨holder, permission, object⟩ := given
  cases object with
  | none => cases done
  | some object =>
    cases done
    rfl

/-- To take a grant back changes nothing but the grants. -/
theorem changed_of_revoke {stamp : Stamp} {given : Grant} {value : (Operation.revoke given).Value}
    {asked : Change}
    (done : (Operation.revoke given).change stamp state = (.ok (value, asked), changed)) :
    changed = { state with grants := (state.grants.erase given).2 } := by
  obtain ⟨holder, permission, object⟩ := given
  cases object with
  | none => cases done
  | some object =>
    simp only [change] at done
    split at done
    · cases done
      rfl
    · cases done

end

/-- A change that fails leaves the state as it was. -/
theorem change_error {stamp : Stamp} {state : State} {operation : Operation} {error : Error}
    (failed : (operation.change stamp state).1 = .error error) :
    (operation.change stamp state).2 = state := by
  cases operation with
  | createTag label color => exact inCatalog_error (Catalog.confined_createTag ..) failed
  | replaceTag id label color => exact inCatalog_error (Catalog.confined_replaceTag ..) failed
  | updateTag id patch => exact inCatalog_error (Catalog.confined_updateTag ..) failed
  | deleteTag id =>
    exact inCatalog_error (confined_untold (Catalog.confined_deleteTag ..)) failed
  | createDocument label => exact inCatalog_error (Catalog.confined_createDocument ..) failed
  | deleteDocument id =>
    exact inCatalog_error (confined_untold (Catalog.confined_deleteDocument ..)) failed
  | attachTag document tag => exact inCatalog_error (attached_attach ..).1 failed
  | removeTag document tag => exact inCatalog_error (Catalog.confined_remove ..) failed
  | grant given =>
    obtain ⟨holder, permission, object⟩ := given
    cases object with
    | none => rfl
    | some object => cases failed
  | revoke given =>
    obtain ⟨holder, permission, object⟩ := given
    cases object with
    | none => rfl
    | some object =>
      -- A grant that is not in force is still taken away, which changes nothing.
      by_cases present : state.grants.contains ⟨holder, permission, some object⟩
      · simp [change, GrantIndex.erase, present] at failed
      · have absent := GrantIndex.erase_of_not_contains present
        simp only [change, absent]
        split <;> rfl

/-- A change that goes well does what the operation says. -/
theorem change_ok {stamp : Stamp} {state changed : State} {operation : Operation}
    {value : operation.Value} {asked : Change}
    (done : operation.change stamp state = (.ok (value, asked), changed)) :
    operation.Does stamp state asked changed := by
  cases operation with
  | createTag label color =>
    exact .of_inCatalog done (Catalog.confined_createTag ..) rfl rfl
      (fun made sound ↦ congrArg Object.tag (Catalog.id_of_createTag sound made)) rfl rfl rfl
  | replaceTag id label color =>
    exact .of_inCatalog done (Catalog.confined_replaceTag ..) rfl rfl (fun _ _ ↦ rfl) rfl rfl rfl
  | updateTag id patch =>
    exact .of_inCatalog done (Catalog.confined_updateTag ..) rfl rfl (fun _ _ ↦ rfl) rfl rfl rfl
  | deleteTag id =>
    exact .of_inCatalog done (confined_untold (Catalog.confined_deleteTag ..)) rfl rfl
      (fun _ _ ↦ rfl) rfl rfl rfl
  | createDocument label =>
    exact .of_inCatalog done (Catalog.confined_createDocument ..) rfl rfl
      (fun made sound ↦ congrArg Object.document (Catalog.id_of_createDocument sound made))
      rfl rfl rfl
  | deleteDocument id =>
    exact .of_inCatalog done (confined_untold (Catalog.confined_deleteDocument ..)) rfl rfl
      (fun _ _ ↦ rfl) rfl rfl rfl
  | attachTag document tag =>
    obtain ⟨confined, own⟩ := attached_attach state.catalog tag document
    exact .of_inCatalog done confined rfl rfl
      (fun made sound ↦ congrArg Object.tag (own _ made sound)) rfl rfl rfl
  | removeTag document tag =>
    exact .of_inCatalog done (Catalog.confined_remove ..) rfl rfl (fun _ _ ↦ rfl) rfl rfl rfl
  | grant given =>
    obtain ⟨holder, permission, object⟩ := given
    cases object with
    | none => cases done
    | some object =>
      cases done
      exact ⟨rfl, fun _ ↦ rfl, rfl, rfl, rfl, rfl, id, fun _ _ ↦ rfl⟩
  | revoke given =>
    obtain ⟨holder, permission, object⟩ := given
    cases object with
    | none => cases done
    | some object =>
      simp only [change] at done
      split at done
      · cases done
        exact ⟨rfl, fun _ ↦ rfl, rfl, rfl, rfl, rfl, id, fun _ _ ↦ rfl⟩
      · cases done

/-- The grants once a change has been recorded, with those on a deleted object gone. -/
theorem Does.grants_recorded {operation : Operation} {stamp : Stamp} {state changed : State}
    {asked : Change} (does : operation.Does stamp state asked changed) (event : Event) :
    (Service.recorded changed asked event).grants =
      if operation.purges then ((operation.regrant state.grants).purge asked.target).2
      else operation.regrant state.grants := by
  rw [← does.purges, ← does.grants]
  rfl

/-- What has been committed stands at the end of the log. -/
theorem Does.toList_committed {operation : Operation} {service : Service} {stamp : Stamp}
    {asked : Change} {changed : State} (does : operation.Does stamp service.state asked changed)
    (actor : Principal) :
    (service.committed stamp actor asked changed).state.events.toList =
      service.state.events.toList ++ [Service.eventOf stamp actor asked] := by
  rw [← does.events]
  exact EventLog.toList_record ..

/-! ### What comes of an operation -/

/-- An operation either leaves the service as it was, or was approved and the change that it makes
has been committed. -/
theorem run_made (service : Service) (stamp : Stamp) (actor : Principal) (operation : Operation) :
    (∃ error drawn, operation.run service stamp actor = ⟨.error error, service, drawn⟩) ∨
      ∃ value asked changed, operation.approve service.state actor = .ok () ∧
        operation.change stamp service.state = (.ok (value, asked), changed) ∧
        operation.run service stamp actor =
          ⟨.ok value, service.committed stamp actor asked changed, asked.drawn + 1⟩ := by
  rw [run_eq]
  cases approved : operation.approve service.state actor with
  | error error => exact .inl ⟨error, 0, rfl⟩
  | ok _ =>
    cases made : operation.change stamp service.state with
    | mk result left =>
      cases result with
      | error error =>
        have same : left = service.state := by
          have unchanged := change_error (congrArg Prod.fst made)
          rwa [made] at unchanged
        rw [same] at made
        exact .inl ⟨error, 0, Service.commit_of_error made⟩
      | ok yielded =>
        obtain ⟨value, asked⟩ := yielded
        by_cases saved : service.saves
        · exact .inr ⟨value, asked, left, rfl, rfl, Service.commit_of_saves made saved⟩
        · have unsaved := Bool.eq_false_iff.mpr saved
          exact .inl ⟨_, _, Service.commit_of_not_saves made unsaved⟩

/-- An operation either leaves the service as it was, or was approved and its change, which does
what the operation says, has been committed. -/
theorem run_cases (service : Service) (stamp : Stamp) (actor : Principal) (operation : Operation) :
    (∃ error drawn, operation.run service stamp actor = ⟨.error error, service, drawn⟩) ∨
      ∃ value asked changed, operation.approve service.state actor = .ok () ∧
        operation.Does stamp service.state asked changed ∧
        operation.run service stamp actor =
          ⟨.ok value, service.committed stamp actor asked changed, asked.drawn + 1⟩ := by
  obtain failed | ⟨value, asked, changed, approved, made, done⟩ :=
    run_made service stamp actor operation
  · exact .inl failed
  · exact .inr ⟨value, asked, changed, approved, change_ok made, done⟩

/-!
### All or nothing

An operation that fails, for whatever reason, leaves no trace. One that succeeds adds one event to
the log and announces the same event.
-/

/-- The event tells who has carried out the operation, and on what. -/
structure ToldBy (operation : Operation) (stamp : Stamp) (actor : Principal) (event : Event) :
    Prop where
  actor : event.actor = actor.user
  verb : event.verb = operation.verb
  target : operation.target stamp = some event.target
  actionObject : event.actionObject = operation.actionObject

/-- An operation that does its change is told by the event that is recorded. -/
theorem Does.toldBy {operation : Operation} {stamp : Stamp} {actor : Principal}
    {state changed : State} {asked : Change} (does : operation.Does stamp state asked changed)
    (sound : state.catalog.WellKeyed) :
    operation.ToldBy stamp actor (Service.eventOf stamp actor asked) :=
  ⟨rfl, does.verb, does.target sound, does.actionObject⟩

/-- An operation that fails leaves the service as it was: its state, what is saved on its disk and
its feed. One that succeeds adds an event to the log that tells it, and sends this event once. -/
theorem run_atomic (service : Service) (sound : service.state.catalog.WellKeyed) (stamp : Stamp)
    (actor : Principal) (operation : Operation) :
    let outcome := operation.run service stamp actor
    match outcome.result with
    | .error _ => outcome.service = service
    | .ok _ => ∃ event watchers, operation.ToldBy stamp actor event ∧
      outcome.service.state.events.toList = service.state.events.toList ++ [event] ∧
      outcome.service.feed = service.feed.send ⟨event, watchers⟩ := by
  obtain ⟨error, drawn, failed⟩ | ⟨value, asked, changed, _, does, done⟩ :=
    run_cases service stamp actor operation
  · simp only [failed]
  · simp only [done]
    have log : (service.committed stamp actor asked changed).state.events.toList =
        service.state.events.toList ++ [Service.eventOf stamp actor asked] := by
      rw [← does.events]
      exact EventLog.toList_record ..
    exact ⟨_, _, does.toldBy sound, log, rfl⟩

/-- The first change to an empty service is told by the only event. -/
theorem run_atomic_first :
    let stamp : Stamp := { ids := fun n ↦ Uuid.ofNat n, now := Instant.origin }
    let operation := Operation.createDocument "Plans"
    let outcome := operation.run .inMemory stamp ⟨"ada", [], true⟩
    outcome.result = .ok ⟨Uuid.ofNat 0, "Plans", Instant.origin⟩ ∧
      ∃ event, operation.ToldBy stamp ⟨"ada", [], true⟩ event ∧
        outcome.service.state.events.toList = [event] := by
  intro stamp operation outcome
  have succeeds : outcome.result = .ok ⟨Uuid.ofNat 0, "Plans", Instant.origin⟩ := by rfl
  have atomic := run_atomic .inMemory Catalog.wellKeyed_empty stamp ⟨"ada", [], true⟩ operation
  have told : ∃ event watchers, operation.ToldBy stamp ⟨"ada", [], true⟩ event ∧
      outcome.service.state.events.toList = [] ++ [event] ∧
      outcome.service.feed = Feed.send ∅ ⟨event, watchers⟩ := atomic
  obtain ⟨event, watchers, told, log, _⟩ := told
  exact ⟨succeeds, event, told, log⟩

end Operation

end Tagging
