import Tagging.Proofs.Service.Bootstrap
import Tagging.Proofs.Service.Operation

/-!
# Runs

A service is changed step by step: by the commands of principals, by the grants that are configured,
and by the disk coming into reach or getting out of it. What each step keeps is kept by every run.
To open a service again is no step of its own, since it brings back a state that was saved before.
-/

namespace Tagging

/-- What can happen to a service. -/
inductive Step where
  | perform (stamp : Stamp) (principal : Principal) (command : Command)
  /-- Configured grants are installed. -/
  | bootstrap (grants : List Grant)
  /-- The disk, if there is one, comes into reach or gets out of it. -/
  | reach (reachable : Bool)

/-- The step is not taken by the configuration, and if it is taken by a principal, then by one of
these. -/
def Step.TakenBy (actors : Principal → Prop) : Step → Prop
  | .perform _ principal _ => actors principal
  | .bootstrap _ => False
  | .reach _ => True

namespace Service

/-- The service after a step. -/
def step (service : Service) : Step → Service
  | .perform stamp principal command => (command.perform service stamp principal).service
  | .bootstrap grants => (service.bootstrap grants).2
  | .reach reachable => { service with disk := service.disk.map ({ · with reachable }) }

/-- The service after some steps. -/
def run (service : Service) (steps : List Step) : Service :=
  steps.foldl step service

/-- What holds at the start and is kept by each step holds at the end. -/
theorem run_induction (invariant : Service → Prop) {service : Service} {steps : List Step}
    (start : invariant service)
    (kept : ∀ service, ∀ step ∈ steps, invariant service → invariant (service.step step)) :
    invariant (service.run steps) := by
  induction steps generalizing service with
  | nil => exact start
  | cons step steps ih =>
    have first := kept service step List.mem_cons_self start
    exact ih first fun service step member ↦ kept service step (List.mem_cons_of_mem _ member)

/-! ### What a step does -/

/-- A command leaves the service as it is, or commits the change of an operation that was
approved. -/
theorem perform_made (service : Service) (stamp : Stamp) (principal : Principal)
    (command : Command) :
    (command.perform service stamp principal).service = service ∨
      ∃ (operation : Operation) (value : operation.Value) (asked : Change) (changed : State),
        operation.approve service.state principal = .ok () ∧
        operation.change stamp service.state = (.ok (value, asked), changed) ∧
        (command.perform service stamp principal).service =
          service.committed stamp principal asked changed := by
  cases command with
  | ask query => exact .inl rfl
  | change operation =>
    obtain ⟨error, drawn, failed⟩ | ⟨value, asked, changed, approved, made, done⟩ :=
      operation.run_made service stamp principal
    · exact .inl (congrArg Outcome.service failed)
    · exact .inr ⟨operation, value, asked, changed, approved, made,
        congrArg Outcome.service done⟩

/-- A command leaves the service as it is, or commits a change that does what an operation says that
was approved. -/
theorem perform_cases (service : Service) (stamp : Stamp) (principal : Principal)
    (command : Command) :
    (command.perform service stamp principal).service = service ∨
      ∃ (operation : Operation) (asked : Change) (changed : State),
        operation.approve service.state principal = .ok () ∧
        operation.Does stamp service.state asked changed ∧
        (command.perform service stamp principal).service =
          service.committed stamp principal asked changed := by
  obtain same | ⟨operation, value, asked, changed, approved, made, done⟩ :=
    service.perform_made stamp principal command
  · exact .inl same
  · exact .inr ⟨operation, asked, changed, approved, Operation.change_ok made, done⟩

/-- Installing grants changes nothing but the grants, whether the state can be saved or not. -/
theorem state_bootstrap (service : Service) (grants : List Grant) :
    (service.bootstrap grants).2.state =
      { service.state with grants := (install service.state.grants 0 grants).2 } := by
  have came := service.bootstrap_cases grants
  generalize service.bootstrap grants = call at came ⊢
  cases came with
  | idle global old => exact congrArg Service.state (installed_of_not_adds old).symm
  | _ => rfl

/-- Each step keeps every record under its own identifier. -/
theorem wellKeyed_step {service : Service} (sound : service.state.catalog.WellKeyed)
    (step : Step) : (service.step step).state.catalog.WellKeyed := by
  cases step with
  | perform stamp principal command =>
    obtain same | ⟨operation, asked, changed, _, does, done⟩ :=
      service.perform_cases stamp principal command
    · rwa [Service.step, same]
    · rw [Service.step, done]
      exact does.wellKeyed sound
  | bootstrap grants => rwa [Service.step, state_bootstrap]
  | reach reachable => exact sound

end Service

/-- The state can be reached by a service that starts with nothing. -/
def State.Reachable (state : State) : Prop :=
  ∃ (service : Service) (steps : List Step), service.state = ∅ ∧ (service.run steps).state = state

/-- In a state that can be reached each record stands under its own identifier. -/
theorem State.Reachable.wellKeyed {state : State} (reachable : state.Reachable) :
    state.catalog.WellKeyed := by
  obtain ⟨service, steps, start, rfl⟩ := reachable
  have sound : service.state.catalog.WellKeyed := by
    rw [start]
    exact Catalog.wellKeyed_empty
  exact Service.run_induction (·.state.catalog.WellKeyed) sound fun _ step _ sound ↦
    Service.wellKeyed_step sound step

end Tagging
