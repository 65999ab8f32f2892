import Tagging.Proofs.Service.Mediation
import Tagging.Proofs.Service.Run

/-!
# No escalation

Principals who may not edit the access list of an object cannot, whatever they do together, have
rights on it given to anybody. Nor can they change the rights on all objects, which come from the
configuration only. What they may do elsewhere does not help them.
-/

namespace Tagging

namespace GrantIndex

/-- Of the rights on an object none has come up, and those on all objects are the same. -/
structure Tightens (object : Object) (before after : GrantIndex) : Prop where
  onObject : ∀ grant, grant.object = some object → after.contains grant → before.contains grant
  everywhere : ∀ grant, grant.object = none → after.contains grant = before.contains grant

namespace Tightens

variable {object : Object} {first second third : GrantIndex}

private theorem refl (object : Object) (index : GrantIndex) : Tightens object index index :=
  ⟨fun _ _ present ↦ present, fun _ _ ↦ rfl⟩

private theorem trans (one : Tightens object first second) (two : Tightens object second third) :
    Tightens object first third where
  onObject grant on present := one.onObject grant on (two.onObject grant on present)
  everywhere grant on := (two.everywhere grant on).trans (one.everywhere grant on)

private theorem insert (index : GrantIndex) {grant : Grant} {other : Object}
    (named : grant.object = some other) (distinct : other ≠ object) :
    Tightens object index (index.insert grant).2 where
  onObject wanted on present := by
    rw [contains_insert] at present
    obtain rfl | present := present
    · rw [named] at on
      exact absurd (Option.some.inj on) distinct
    · exact present
  everywhere wanted on := by
    rw [Bool.eq_iff_iff, contains_insert, or_iff_right]
    rintro rfl
    rw [named] at on
    cases on

private theorem erase (object : Object) (index : GrantIndex) {grant : Grant} {other : Object}
    (named : grant.object = some other) : Tightens object index (index.erase grant).2 where
  onObject wanted on present := ((contains_erase ..).mp present).2
  everywhere wanted on := by
    rw [Bool.eq_iff_iff, contains_erase, and_iff_right]
    rintro rfl
    rw [named] at on
    cases on

/-- To purge any object adds no right. -/
theorem purge (object : Object) (index : GrantIndex) (other : Object) :
    Tightens object index (index.purge other).2 where
  onObject wanted on present := ((contains_purge ..).mp present).2
  everywhere wanted on := by
    rw [Bool.eq_iff_iff, contains_purge, and_iff_right]
    rw [on]
    exact (Option.some_ne_none other).symm

/-- Where rights do not become more, nobody may do more. -/
theorem allows {principal : Principal} {permission : Permission}
    (tightens : Tightens object first second)
    (allowed : second.allows principal permission (some object)) :
    first.allows principal permission (some object) := by
  rw [allows_iff] at allowed ⊢
  refine allowed.imp id fun held ↦ ?_
  obtain ⟨holder, member, given⟩ := held
  refine ⟨holder, member, given.imp ?_ ?_⟩
  · rw [tightens.everywhere _ rfl]
    exact id
  · exact tightens.onObject _ rfl

/-- Where rights do not become more, what may not be done before may not be done after. -/
theorem forbids {principal : Principal} {permission : Permission}
    (tightens : Tightens object first second)
    (forbidden : first.allows principal permission (some object) = false) :
    second.allows principal permission (some object) = false := by
  refine Bool.eq_false_iff.mpr fun allowed ↦ ?_
  have before := tightens.allows allowed
  rw [forbidden] at before
  cases before

end Tightens

end GrantIndex

namespace Operation

private theorem allows_of_approve {state : State} {actor : Principal} {operation : Operation}
    {given : Grant} (approved : operation.approve state actor = .ok ())
    (gives : operation = .grant given ∨ operation = .revoke given) :
    ∃ object, given.object = some object ∧
      state.grants.allows actor .aclEdit (some object) := by
  have requires : operation.requirement =
      given.object.map fun object ↦ .onEach .aclEdit [object] := by
    obtain rfl | rfl := gives <;> rfl
  cases named : given.object with
  | none =>
    rw [named] at requires
    rw [approve_of_requirement_none requires] at approved
    cases approved
  | some object =>
    rw [named] at requires
    have held := (operation.mediates_approve state actor requires).held_of_ok approved
    exact ⟨object, rfl, List.all_eq_true.mp held object List.mem_cons_self⟩

/-- An operation of a principal who may not edit the access list of an object adds no right on it.
-/
theorem tightens_regrant {state : State} {actor : Principal} {object : Object}
    {operation : Operation} (approved : operation.approve state actor = .ok ())
    (powerless : state.grants.allows actor .aclEdit (some object) = false) :
    state.grants.Tightens object (operation.regrant state.grants) := by
  have elsewhere : ∀ given, operation = .grant given ∨ operation = .revoke given →
      ∃ other, given.object = some other ∧ other ≠ object := by
    intro given gives
    obtain ⟨other, named, allowed⟩ := allows_of_approve approved gives
    refine ⟨other, named, ?_⟩
    rintro rfl
    rw [powerless] at allowed
    cases allowed
  cases operation with
  | grant given =>
    obtain ⟨other, named, distinct⟩ := elsewhere given (.inl rfl)
    exact .insert _ named distinct
  | revoke given =>
    obtain ⟨other, named, _⟩ := elsewhere given (.inr rfl)
    exact .erase _ _ named
  | _ => exact .refl ..

end Operation

namespace Service

variable {service : Service} {object : Object} {actors : Principal → Prop}

/-- To record a change adds no right, since at most the grants of a deleted object go. -/
theorem tightens_committed (service : Service) (stamp : Stamp) (actor : Principal)
    (asked : Change) (changed : State) (object : Object) :
    changed.grants.Tightens object (service.committed stamp actor asked changed).state.grants := by
  change changed.grants.Tightens object
    (if asked.purges then (changed.grants.purge asked.target).2 else changed.grants)
  split
  · exact .purge ..
  · exact .refl ..

/-- A step that powerless principals may take adds no right on the object. -/
theorem tightens_step {step : Step} (taken : step.TakenBy actors)
    (powerless : ∀ actor, actors actor →
      service.state.grants.allows actor .aclEdit (some object) = false) :
    service.state.grants.Tightens object (service.step step).state.grants := by
  cases step with
  | perform stamp principal command =>
    obtain same | ⟨operation, asked, changed, approved, does, done⟩ :=
      service.perform_cases stamp principal command
    · rw [Service.step, same]
      exact .refl ..
    · rw [Service.step, done]
      have changes := Operation.tightens_regrant approved (powerless principal taken)
      rw [← does.grants] at changes
      exact changes.trans (tightens_committed ..)
  | bootstrap grants => exact taken.elim
  | reach reachable => exact .refl ..

/-- Principals who may not edit the access list of an object, neither there nor everywhere, do not
get any right on it given to anybody, in however many steps: each grant on it that is there at the
end was there before, the grants on all objects are the same, and nobody may do on it what they
might not do before. -/
theorem run_confined (service : Service) (object : Object) (actors : Principal → Prop)
    (powerless : ∀ actor, actors actor →
      service.state.grants.allows actor .aclEdit (some object) = false)
    (steps : List Step) (taken : ∀ step ∈ steps, step.TakenBy actors) :
    let before := service.state.grants
    let after := (service.run steps).state.grants
    (∀ grant, grant.object = some object → after.contains grant → before.contains grant) ∧
      (∀ grant, grant.object = none → after.contains grant = before.contains grant) ∧
      ∀ principal permission, after.allows principal permission (some object) →
        before.allows principal permission (some object) := by
  have tightens : service.state.grants.Tightens object (service.run steps).state.grants := by
    refine run_induction (fun later ↦ service.state.grants.Tightens object later.state.grants)
      (.refl ..) ?_
    intro later step member tightens
    -- Who was powerless at the start still is, so that the step adds nothing either.
    have powerlessLater : ∀ actor, actors actor →
        later.state.grants.allows actor .aclEdit (some object) = false :=
      fun actor acts ↦ tightens.forbids (powerless actor acts)
    exact tightens.trans (tightens_step (taken step member) powerlessLater)
  exact ⟨tightens.onObject, tightens.everywhere, fun _ _ ↦ tightens.allows⟩

/-- Who may edit the access list of one document can show this one to a friend, and no other. -/
theorem run_confined_other :
    let mine := Uuid.ofNat 1
    let yours := Uuid.ofNat 2
    let ada : Principal := ⟨"ada", [], false⟩
    let bob : Principal := ⟨"bob", [], false⟩
    let catalog := (Catalog.putDocument ∅ mine ⟨mine, "mine", Instant.origin⟩).putDocument yours
      ⟨yours, "yours", Instant.origin⟩
    let grants := (GrantIndex.insert ∅ ⟨.user "ada", .aclEdit, some (.document mine)⟩).2
    let service : Service := ⟨⟨catalog, grants, ∅⟩, none, ∅⟩
    let stamp : Stamp := { ids := Uuid.ofNat, now := Instant.origin }
    let share := fun id ↦ Step.perform stamp ada
      (.change (.grant ⟨.user "bob", .documentView, some (.document id)⟩))
    let after := (service.run [share mine, share yours]).state.grants
    after.allows bob .documentView (some (.document mine)) = true ∧
      after.allows bob .documentView (some (.document yours)) = false := by
  intro mine yours ada bob catalog grants service stamp share after
  have powerless : ∀ actor, actor = ada →
      service.state.grants.allows actor .aclEdit (some (.document yours)) = false := by
    rintro actor rfl
    rfl
  have taken : ∀ step ∈ [share mine, share yours], step.TakenBy (· = ada) := by
    intro step member
    simp only [List.mem_cons, List.not_mem_nil, or_false] at member
    obtain rfl | rfl := member <;> rfl
  have confined := service.run_confined (.document yours) (· = ada) powerless _ taken
  refine ⟨by decide +kernel, Bool.eq_false_iff.mpr fun allowed ↦ ?_⟩
  have before := confined.2.2 bob .documentView allowed
  cases before

end Service

end Tagging
