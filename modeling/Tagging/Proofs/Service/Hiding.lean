import Tagging.Proofs.Service.AlikeChange
import Tagging.Proofs.Service.Escalation

/-!
# Hidden objects

To a principal who may do nothing with an object the state looks as if the object had never been
there. Changes to the object do not alter that view of the state, so that before and after them the
state looks the same, and the events that they announce are not seen either.
-/

namespace Tagging

/-- The principal may do nothing with the object. -/
def GrantIndex.Hides (index : GrantIndex) (principal : Principal) (object : Object) : Prop :=
  ∀ permission, index.allows principal permission (some object) = false

namespace GrantIndex

variable {index : GrantIndex} {principal : Principal} {object other : Object}

private theorem Sees.ne (sees : index.Sees principal other) (hides : index.Hides principal object) :
    object ≠ other := by
  rintro rfl
  obtain ⟨permission, allowed⟩ := sees
  rw [hides permission] at allowed
  cases allowed

private theorem Hides.everywhere (hides : index.Hides principal object) (permission : Permission) :
    index.allows principal permission none = false := by
  refine Bool.eq_false_iff.mpr fun allowed ↦ ?_
  rw [allows_iff] at allowed
  have onObject : index.allows principal permission (some object) = true := by
    rw [allows_iff]
    refine allowed.imp id fun held ↦ ?_
    obtain ⟨holder, member, given⟩ := held
    exact ⟨holder, member, .inl (given.elim id id)⟩
  rw [hides permission] at onObject
  cases onObject

private theorem allows_purge (hides : index.Hides principal object) (permission : Permission)
    (target : Option Object) :
    (index.purge object).2.allows principal permission target =
      index.allows principal permission target := by
  by_cases same : target = some object
  · subst same
    rw [hides permission]
    exact (Tightens.purge object index object).forbids (hides permission)
  · rw [Bool.eq_iff_iff, allows_iff, allows_iff]
    simp only [Gives, contains_purge, ne_eq, same, not_false_eq_true, reduceCtorEq, true_and]

end GrantIndex

namespace State

/-- The state as if an object had never been there: without its record, the attachments to it, the
grants on it and its events. -/
def without (state : State) (object : Object) : State where
  catalog := state.catalog.without object
  grants := (state.grants.purge object).2
  events := .ofList (state.events.toList.filter (·.target ≠ object))

end State

/-- The service as if an object had never been there. -/
def Service.without (service : Service) (object : Object) : Service :=
  { service with state := service.state.without object }

namespace State

/-- To a principal who may do nothing with an object the state looks as if it had never been there.
-/
theorem alike_without {state : State} {principal : Principal} {object : Object}
    (sound : state.catalog.WellKeyed) (hides : state.grants.Hides principal object) :
    state.Alike principal (state.without object) where
  sound := ⟨sound, sound.without object⟩
  confined := hides.everywhere
  allows permission target := (GrantIndex.allows_purge hides permission target).symm
  contains grant target named sees := by
    have distinct : grant.object ≠ some object := by
      rw [named]
      exact fun same ↦ sees.ne hides (Option.some.inj same).symm
    rw [Bool.eq_iff_iff, without, GrantIndex.contains_purge, and_iff_right distinct]
  tag id sees := by
    rw [without, Catalog.tag?_without, if_neg (sees.ne hides), Option.map_map]
    congr 1
    funext tag
    obtain ⟨kind, hidden⟩ := object
    cases kind <;> rfl
  document id sees := by rw [without, Catalog.document?_without, if_neg (sees.ne hides)]
  attached tag document seesTag seesDocument :=
    (state.catalog.isAttached_without (seesTag.ne hides) (seesDocument.ne hides)).symm
  history target sees := by
    rw [without, EventLog.forTarget_eq, EventLog.forTarget_eq, EventLog.toList_ofList,
      List.filter_filter]
    congr 1
    apply List.filter_congr
    intro event _
    -- No event of an object that is seen goes with those of the hidden one.
    by_cases about : event.target = target
    · simp [about, (sees.ne hides).symm]
    · simp [about]

end State

/-! ### Changes to a hidden object -/

/-- The operation changes the object or deletes it. What a tag is attached to is a part of the tag.
-/
def Operation.Edits (object : Object) : Operation → Prop
  | .replaceTag id .. | .updateTag id _ | .deleteTag id | .attachTag _ id | .removeTag _ id =>
    object = .tag id
  | .deleteDocument id => object = .document id
  | .createTag .. | .createDocument _ | .grant _ | .revoke _ => False

/-- A service before and after successful changes to an object, with the notices of them. -/
inductive Service.Edited (object : Object) : Service → List Notice → Service → Prop where
  | none (service : Service) : Edited object service [] service
  | edit {service after last : Service} {notice : Notice} {notices : List Notice} (stamp : Stamp)
      (actor : Principal) (operation : Operation) (value : operation.Value) (drawn : Nat)
      (edits : operation.Edits object)
      (done : operation.run service stamp actor = ⟨.ok value, after, drawn⟩)
      (sent : after.feed = service.feed.send notice)
      (rest : Edited object after notices last) :
      Edited object service (notice :: notices) last

/-- The changes that lead from one service to another do not concern those to whom the object is
hidden: it stays hidden, all else is the same, and they see none of the notices. -/
structure Service.Unnoticed (principal : Principal) (object : Object) (before : Service)
    (notices : List Notice) (after : Service) : Prop where
  sound : after.state.catalog.WellKeyed
  hides : after.state.grants.Hides principal object
  without : after.state.without object = before.state.without object
  saves : after.saves = before.saves
  unseen : ∀ notice ∈ notices, notice.visibleTo principal = false

private theorem Feed.send_inj {feed : Feed} {notice other : Notice}
    (same : feed.send notice = feed.send other) : notice = other := by
  have recent := congrArg (fun feed ↦ feed.recent.head?) same
  simpa [Feed.send, Feed.capacity] using recent

namespace Operation

variable {object : Object} {operation : Operation}

private theorem Edits.target (edits : operation.Edits object) (stamp : Stamp) :
    operation.target stamp = some object := by
  cases operation <;> cases edits <;> rfl

private theorem Edits.regrant (edits : operation.Edits object) (index : GrantIndex) :
    operation.regrant index = index := by
  cases operation <;> cases edits <;> rfl

/-- A change to an object does not concern those to whom it is hidden. -/
theorem unnoticed {service after : Service} {principal actor : Principal} {stamp : Stamp}
    {value : operation.Value} {drawn : Nat} {notice : Notice}
    (sound : service.state.catalog.WellKeyed)
    (hides : service.state.grants.Hides principal object) (edits : operation.Edits object)
    (done : operation.run service stamp actor = ⟨.ok value, after, drawn⟩)
    (sent : after.feed = service.feed.send notice) :
    service.Unnoticed principal object [notice] after := by
  obtain ⟨error, _, failed⟩ | ⟨_, asked, changed, _, does, commits⟩ :=
    operation.run_cases service stamp actor
  · rw [failed] at done
    cases done
  rw [commits] at done
  cases done
  have target : asked.target = object := by
    have about := does.target sound
    rw [edits.target] at about
    exact (Option.some.inj about).symm
  have grants : changed.grants = service.state.grants := does.grants.trans (edits.regrant _)
  have tightens : service.state.grants.Tightens object
      (service.committed stamp actor asked changed).state.grants := by
    rw [← grants]
    exact Service.tightens_committed ..
  refine ⟨does.wellKeyed sound, ?_, ?_, Service.saves_committed .., ?_⟩
  · exact fun permission ↦ tightens.forbids (hides permission)
  · have catalog := does.without object (edits.target stamp)
    have purged : ((service.committed stamp actor asked changed).state.grants.purge object).2 =
        (service.state.grants.purge object).2 := by
      change ((if asked.purges then _ else _ : GrantIndex).purge object).2 = _
      rw [target, grants]
      split
      · exact GrantIndex.purge_purge ..
      · rfl
    have events : (service.committed stamp actor asked changed).state.events.toList.filter
        (·.target ≠ object) = service.state.events.toList.filter (·.target ≠ object) := by
      change (changed.events.record _).toList.filter _ = _
      -- The event is about the hidden object, and goes with the rest of its history.
      rw [EventLog.toList_record, List.filter_append, does.events]
      simp [Service.eventOf, target]
    rw [State.without, State.without, purged, events]
    exact congrArg (State.mk · _ _) catalog
  · intro other member
    have own : other = ⟨Service.eventOf stamp actor asked,
        changed.grants.holdersOf .eventsView asked.target⟩ := by
      rw [List.mem_singleton.mp member]
      exact (Feed.send_inj sent).symm
    rw [own, visibleTo_holdersOf, grants, target]
    exact hides .eventsView

end Operation

/-- Changes to an object do not concern those to whom it is hidden, however many they are. -/
theorem Service.Edited.unnoticed {object : Object} {principal : Principal}
    {service last : Service} {notices : List Notice} (edited : Edited object service notices last)
    (sound : service.state.catalog.WellKeyed)
    (hides : service.state.grants.Hides principal object) :
    service.Unnoticed principal object notices last := by
  induction edited with
  | none service => exact ⟨sound, hides, rfl, rfl, by simp⟩
  | edit stamp actor operation value drawn edits done sent rest ih =>
    have first := Operation.unnoticed sound hides edits done sent
    have others := ih first.sound first.hides
    refine ⟨others.sound, others.hides, others.without.trans first.without,
      others.saves.trans first.saves, ?_⟩
    intro notice member
    obtain same | later := List.mem_cons.mp member
    · exact first.unseen notice (List.mem_singleton.mpr same)
    · exact others.unseen notice later

/-- A service before and after changes to an object looks the same to those to whom the object is
hidden. -/
theorem Service.Unnoticed.alike {object : Object} {principal : Principal} {before after : Service}
    {notices : List Notice} (unnoticed : before.Unnoticed principal object notices after)
    (sound : before.state.catalog.WellKeyed)
    (hides : before.state.grants.Hides principal object) :
    before.state.Alike principal after.state := by
  have first := State.alike_without sound hides
  have last := State.alike_without unnoticed.sound unnoticed.hides
  rw [unnoticed.without] at last
  exact first.trans last.symm

end Tagging
