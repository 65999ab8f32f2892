import Tagging.Proofs.Encoding
import Tagging.Proofs.Service.Run

/-!
# Lifetimes

A service lives through steps and restarts. What it keeps in memory and what its disk holds may
differ, since configured grants stay even if they cannot be saved; but the disk always holds a state
that the service has been in. So what holds of nothing, and is kept by every change to a state,
holds of every state that a service ever has.
-/

namespace Tagging

/-- What a service lives through: it takes a step, or is stopped and opened again. -/
inductive Turn where
  | step (step : Step)
  | restart

/-! ### Changes to a state -/

/-- A state comes out of another: an operation that was approved has made its change and is
recorded, or configured grants have been installed. -/
inductive State.Becomes (state : State) : State → Prop where
  | operation {operation : Operation} {stamp : Stamp} {actor : Principal}
      {value : operation.Value} {asked : Change} {changed : State}
      (approved : operation.approve state actor = .ok ())
      (made : operation.change stamp state = (.ok (value, asked), changed)) :
      Becomes state (Service.recorded changed asked (Service.eventOf stamp actor asked))
  | installation (grants : List Grant) :
      Becomes state { state with grants := (Service.install state.grants 0 grants).2 }

/-! ### What a disk holds -/

namespace Disk

/-- The state is the one that is loaded from the disk once it is within reach. -/
def Holds (disk : Disk) (state : State) : Prop :=
  { disk with reachable := true }.load = .ok state

/-- An empty disk holds nothing. -/
theorem holds_empty : Disk.empty.Holds ∅ := rfl

/-- A disk holds the state of which it keeps a snapshot. -/
theorem holds_snapshot (disk : Disk) (state : State) :
    { disk with snapshot := some state.snapshot }.Holds state := by
  have read := State.ofSnapshot_of_writtenAs state.writtenAs_snapshot
  simp [Holds, load, read]

end Disk

namespace Service

/-! ### The service as it lives -/

/-- A service that starts with nothing, with an empty disk or without any. -/
def fresh (persistent : Bool) : Service :=
  if persistent then ⟨∅, some .empty, ∅⟩ else .inMemory

/-- The service after it was stopped and opened again. Without a disk all is lost; with one the
state that was saved last is loaded, as soon as the disk is within reach. A snapshot that cannot be
read would leave the service as it was, but `keeps_live` rules it out. -/
def reopen (service : Service) : Service :=
  match service.disk with
  | none => .inMemory
  | some disk =>
    match ofDisk { disk with reachable := true } with
    | .ok opened => opened
    | .error _ => service

/-- The service after a turn. -/
def turn (service : Service) : Turn → Service
  | .step step => service.step step
  | .restart => service.reopen

/-- The service after some turns. -/
def live (service : Service) (turns : List Turn) : Service :=
  turns.foldl turn service

/-- A disk that holds a state gives it back. -/
theorem reopen_of_holds {service : Service} {disk : Disk} {state : State}
    (stored : service.disk = some disk) (holds : disk.Holds state) :
    service.reopen = ⟨state, some { disk with reachable := true }, ∅⟩ := by
  have loaded : ({ disk with reachable := true } : Disk).load = .ok state := holds
  simp [reopen, stored, ofDisk, loaded, bind, Except.bind]

/-- A change that has been committed is held by the disk. -/
theorem holds_committed {service : Service} {stamp : Stamp} {actor : Principal} {asked : Change}
    {changed : State} {disk : Disk}
    (stored : (service.committed stamp actor asked changed).disk = some disk) :
    disk.Holds (service.committed stamp actor asked changed).state := by
  obtain ⟨before, _, rfl⟩ := Option.map_eq_some_iff.mp stored
  exact before.holds_snapshot _

private theorem disk_bootstrap (service : Service) (grants : List Grant) :
    (service.bootstrap grants).2.disk = service.disk ∨
      ∀ disk, (service.bootstrap grants).2.disk = some disk →
        disk.Holds (service.bootstrap grants).2.state := by
  have came := service.bootstrap_cases grants
  generalize service.bootstrap grants = call at came ⊢
  cases came with
  | saved global adds saves counted =>
    refine .inr fun disk stored ↦ ?_
    obtain ⟨before, _, rfl⟩ := Option.map_eq_some_iff.mp stored
    exact before.holds_snapshot _
  | _ => exact .inl rfl

/-! ### What lasts -/

/-- The invariant holds of the state, and of the one that the disk holds, if there is a disk. -/
structure Keeps (service : Service) (invariant : State → Prop) : Prop where
  state : invariant service.state
  saved : ∀ disk, service.disk = some disk → ∃ saved, disk.Holds saved ∧ invariant saved

section

variable {invariant : State → Prop} {service : Service}

/-- If the disk holds the state, the invariant need only hold of that. -/
theorem Keeps.of_holds (state : invariant service.state)
    (holds : ∀ disk, service.disk = some disk → disk.Holds service.state) :
    service.Keeps invariant :=
  ⟨state, fun disk stored ↦ ⟨service.state, holds disk stored, state⟩⟩

/-- What holds of nothing holds at the start. -/
theorem keeps_fresh (nothing : invariant ∅) (persistent : Bool) :
    (fresh persistent).Keeps invariant := by
  cases persistent with
  | false => exact .of_holds nothing nofun
  | true =>
    refine .of_holds nothing fun disk stored ↦ ?_
    cases stored
    exact Disk.holds_empty

/-- A step leaves the state as it is, or the state becomes another. -/
theorem becomes_step (service : Service) (step : Step) :
    (service.step step).state = service.state ∨
      service.state.Becomes (service.step step).state := by
  cases step with
  | perform stamp principal command =>
    obtain same | ⟨operation, value, asked, changed, approved, made, done⟩ :=
      service.perform_made stamp principal command
    · exact .inl (congrArg Service.state same)
    · rw [Service.step, done]
      exact .inr (.operation approved made)
  | bootstrap grants =>
    rw [Service.step, state_bootstrap]
    exact .inr (.installation grants)
  | reach reachable => exact .inl rfl

/-- What holds of the state after a step also holds of what the disk holds then, since that is the
same state or what was there before. -/
theorem Keeps.step_of (keeps : service.Keeps invariant) {step : Step}
    (next : invariant (service.step step).state) : (service.step step).Keeps invariant := by
  cases step with
  | perform stamp principal command =>
    obtain same | ⟨operation, value, asked, changed, approved, made, done⟩ :=
      service.perform_made stamp principal command
    · rwa [Service.step, same]
    · rw [Service.step, done] at next ⊢
      exact .of_holds next fun _ ↦ holds_committed
  | bootstrap grants =>
    obtain same | holds := service.disk_bootstrap grants
    · exact ⟨next, same ▸ keeps.saved⟩
    · exact .of_holds next holds
  | reach reachable =>
    refine ⟨next, fun disk stored ↦ ?_⟩
    obtain ⟨before, found, rfl⟩ := Option.map_eq_some_iff.mp stored
    exact keeps.saved before found

/-- What changes to a state keep is kept by each step. -/
theorem Keeps.step (keeps : service.Keeps invariant)
    (kept : ∀ state next, State.Becomes state next → invariant state → invariant next)
    (step : Step) : (service.step step).Keeps invariant := by
  apply keeps.step_of
  obtain same | becomes := service.becomes_step step
  · rw [same]
    exact keeps.state
  · exact kept _ _ becomes keeps.state

/-- What the disk holds is kept when the service is opened again. -/
theorem Keeps.reopen (keeps : service.Keeps invariant) (nothing : invariant ∅) :
    service.reopen.Keeps invariant := by
  cases stored : service.disk with
  | none =>
    rw [Service.reopen, stored]
    exact keeps_fresh nothing false
  | some disk =>
    obtain ⟨saved, holds, sound⟩ := keeps.saved disk stored
    rw [reopen_of_holds stored holds]
    refine .of_holds sound fun disk same ↦ ?_
    cases same
    exact holds

/-- What holds of nothing and is kept by every change to a state holds of every state that a service
is ever in, and of every state that its disk ever holds. -/
theorem keeps_live (nothing : invariant ∅)
    (kept : ∀ state next, State.Becomes state next → invariant state → invariant next)
    (persistent : Bool) (turns : List Turn) : ((fresh persistent).live turns).Keeps invariant := by
  suffices all : ∀ service : Service, service.Keeps invariant →
      (service.live turns).Keeps invariant from all _ (keeps_fresh nothing persistent)
  induction turns with
  | nil => exact fun _ keeps ↦ keeps
  | cons turn turns ih =>
    intro service keeps
    cases turn with
    | step step => exact ih _ (keeps.step kept step)
    | restart => exact ih _ (keeps.reopen nothing)

end

end Service

end Tagging
