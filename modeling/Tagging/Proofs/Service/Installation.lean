import Mathlib.Data.List.Induction
import Tagging.Proofs.Service.Persistence

/-!
# Installing configured grants

Grants are installed one by one, and those that are in force stay so when the installation fails.
What is left behind by a failure, and when the disk falls behind for that reason, is said here: an
installation that fails leaves the state alone exactly if it comes to no new grant, and the disk has
caught up exactly if something was saved after each failure that left new grants.
-/

namespace Tagging

/-- The step is not taken by a principal: configured grants are installed, or the disk comes into
reach or gets out of it. -/
def Step.Installs : Step → Prop
  | .perform .. => False
  | .bootstrap _ => True
  | .reach _ => True

namespace Service

/-! ### What is on disk -/

/-- The disk holds a state of which something is true. -/
def OnDisk (service : Service) (what : State → Prop) : Prop :=
  ∃ disk saved, service.disk = some disk ∧ disk.Holds saved ∧ what saved

/-- No grants are on disk but those in force. -/
def Trails (service : Service) : Prop :=
  service.OnDisk fun saved ↦
    ∀ grant, saved.grants.contains grant → service.state.grants.contains grant

/-- All global grants in force are on disk. -/
def Covered (service : Service) : Prop :=
  service.OnDisk fun saved ↦
    ∀ grant, grant.object = none → service.state.grants.contains grant →
      saved.grants.contains grant

/-- An installation fails, but leaves a new grant in force. -/
def Leaves (service : Service) (grants : List Grant) : Prop :=
  service.Adds grants ∧ ∃ error, (service.bootstrap grants).1 = .error error

/-- An installation succeeds, and was not idle. -/
def Stores (service : Service) (grants : List Grant) : Prop :=
  ∃ added, (service.bootstrap grants).1 = .ok added ∧ 0 < added

section

variable {service : Service} {grants : List Grant}

private theorem Saved.onDisk {what : State → Prop} (saved : service.Saved)
    (holds : what service.state) : service.OnDisk what :=
  have ⟨disk, stored, same⟩ := saved
  ⟨disk, service.state, stored, same, holds⟩

private theorem Saved.trails (saved : service.Saved) : service.Trails :=
  saved.onDisk fun _ ↦ id

private theorem Saved.covered (saved : service.Saved) : service.Covered :=
  saved.onDisk fun _ _ ↦ id

private theorem onDisk_reach (service : Service) (what : State → Prop) (reachable : Bool) :
    (service.step (.reach reachable)).OnDisk what ↔ service.OnDisk what := by
  constructor
  · rintro ⟨disk, saved, kept, holds, fact⟩
    obtain ⟨before, found, rfl⟩ := Option.map_eq_some_iff.mp kept
    exact ⟨before, saved, found, holds, fact⟩
  · rintro ⟨disk, saved, kept, holds, fact⟩
    refine ⟨{ disk with reachable }, saved, ?_, holds, fact⟩
    rw [step, kept]
    rfl

/-- With a disk, a service whose state is put on it has saved its state. -/
theorem saved_stored {disk : Disk} (kept : service.disk = some disk) : service.stored.Saved := by
  refine ⟨{ disk with snapshot := some service.state.snapshot }, ?_, disk.holds_snapshot _⟩
  rw [stored, kept]
  rfl

private theorem Trails.saved_stored (trails : service.Trails) (grants : List Grant) :
    (service.installed grants).stored.Saved :=
  have ⟨_, _, kept, _, _⟩ := trails
  Service.saved_stored kept

private theorem Trails.not_covered (trails : service.Trails) (adds : service.Adds grants) :
    ¬ (service.installed grants).Covered := by
  rintro ⟨disk, saved, kept, holds, covers⟩
  obtain ⟨same, old, keptBefore, holdsOld, within⟩ := trails
  obtain rfl : disk = same := Option.some_inj.mp (kept.symm.trans keptBefore)
  obtain rfl : saved = old := Except.ok.inj (holds.symm.trans holdsOld)
  obtain ⟨grant, member, new⟩ := adds
  have force : (service.installed grants).state.grants.contains grant :=
    (contains_install ..).mpr (.inl member)
  exact new (within grant (covers grant (object_of_installable member) force))

/-- After an installation the global grants are on disk if it has saved them, or if they were before
and it has not failed and left any. -/
theorem Trails.covered_bootstrap_iff (trails : service.Trails) (grants : List Grant) :
    (service.bootstrap grants).2.Covered ↔
      service.Stores grants ∨ service.Covered ∧ ¬ service.Leaves grants := by
  have came := service.bootstrap_cases grants
  unfold Stores Leaves
  generalize service.bootstrap grants = call at came ⊢
  cases came with
  | refused bound =>
    by_cases adds : service.Adds grants
    · simp [adds, trails.not_covered adds]
    · simp [adds, installed_of_not_adds adds]
  | unsaved global adds unsaved => simp [adds, trails.not_covered adds]
  | idle global old => simp [old]
  | saved global adds saves counted => simp [counted, (trails.saved_stored grants).covered]

/-- The disk trails what is in memory after an installation if it did before. -/
theorem Trails.bootstrap (trails : service.Trails) (grants : List Grant) :
    (service.bootstrap grants).2.Trails := by
  have installed : (service.installed grants).Trails := by
    obtain ⟨disk, saved, kept, holds, within⟩ := trails
    refine ⟨disk, saved, kept, holds, fun grant contained ↦ ?_⟩
    exact (contains_install ..).mpr (.inr (within grant contained))
  have came := service.bootstrap_cases grants
  generalize service.bootstrap grants = call at came ⊢
  cases came with
  | refused bound => exact installed
  | unsaved global adds unsaved => exact installed
  | idle global old => exact trails
  | saved global adds saves counted => exact (trails.saved_stored grants).trails

end

/-! ### One installation after the other -/

private theorem Stores.not_leaves {service : Service} {grants : List Grant}
    (stores : service.Stores grants) : ¬ service.Leaves grants := by
  rintro ⟨_, error, failed⟩
  obtain ⟨added, counted, _⟩ := stores
  rw [counted] at failed
  cases failed

/-- At a place in a run grants are installed, and something holds of that. -/
def Happens (start : Service) (steps : List Step) (what : Service → List Grant → Prop)
    (place : Nat) : Prop :=
  ∃ grants, steps[place]? = some (.bootstrap grants) ∧ what (start.run (steps.take place)) grants

section

variable {start : Service} {steps : List Step} {what : Service → List Grant → Prop} {place : Nat}

private theorem Happens.lt_length (happens : start.Happens steps what place) :
    place < steps.length := by
  obtain ⟨grants, found, _⟩ := happens
  exact (List.getElem?_eq_some_iff.mp found).1

private theorem happens_concat (step : Step) :
    start.Happens (steps ++ [step]) what place ↔
      start.Happens steps what place ∨ place = steps.length ∧
        ∃ grants, step = .bootstrap grants ∧ what (start.run steps) grants := by
  unfold Happens
  obtain before | rfl | beyond := Nat.lt_trichotomy place steps.length
  · rw [List.getElem?_append_left before, List.take_append_of_le_length before.le]
    simp [before.ne]
  · simp
  · have past : (steps ++ [step])[place]? = none := by
      rw [List.getElem?_eq_none_iff, List.length_append]
      exact beyond
    have none : steps[place]? = none := List.getElem?_eq_none_iff.mpr beyond.le
    simp [past, none, beyond.ne']

/-- As long as there are only installations, and the disk getting in and out of reach, no grants are
on disk but those in force. -/
theorem Trails.run (trails : start.Trails) (installs : ∀ step ∈ steps, step.Installs) :
    (start.run steps).Trails := by
  refine run_induction Trails trails fun service step member trails ↦ ?_
  have kind := installs step member
  cases step with
  | perform => exact kind.elim
  | bootstrap grants => exact trails.bootstrap grants
  | reach reachable => exact (service.onDisk_reach _ reachable).mpr trails

/-- Each installation that has left a new grant is followed by one that has saved what is in
force. -/
def CaughtUp (start : Service) (steps : List Step) : Prop :=
  ∀ place, start.Happens steps Leaves place →
    ∃ later, place < later ∧ start.Happens steps Stores later

private theorem caughtUp_concat_bootstrap (grants : List Grant) :
    start.CaughtUp (steps ++ [.bootstrap grants]) ↔ (start.run steps).Stores grants ∨
      start.CaughtUp steps ∧ ¬ (start.run steps).Leaves grants := by
  have last (what : Service → List Grant → Prop) (place : Nat) :
      start.Happens (steps ++ [.bootstrap grants]) what place ↔
        start.Happens steps what place ∨
          place = steps.length ∧ what (start.run steps) grants := by
    rw [happens_concat]
    simp
  by_cases stores : (start.run steps).Stores grants
  · refine iff_of_true (fun place left ↦ ?_) (.inl stores)
    refine ⟨steps.length, ?_, (last ..).mpr (.inr ⟨rfl, stores⟩)⟩
    obtain before | ⟨_, leaves⟩ := (last ..).mp left
    · exact before.lt_length
    · exact absurd leaves stores.not_leaves
  · rw [or_iff_right stores]
    constructor
    · intro caught
      -- What saves must come before the last installation, which does not.
      have follows (place : Nat)
          (left : start.Happens (steps ++ [.bootstrap grants]) Leaves place) :
          ∃ later, place < later ∧ start.Happens steps Stores later := by
        obtain ⟨later, less, saved⟩ := caught place left
        obtain before | ⟨_, now⟩ := (last ..).mp saved
        · exact ⟨later, less, before⟩
        · exact absurd now stores
      refine ⟨fun place left ↦ follows place ((last ..).mpr (.inl left)), fun leaves ↦ ?_⟩
      obtain ⟨later, beyond, before⟩ := follows _ ((last ..).mpr (.inr ⟨rfl, leaves⟩))
      exact absurd before.lt_length beyond.not_gt
    · rintro ⟨caught, stays⟩ place left
      obtain before | ⟨_, leaves⟩ := (last ..).mp left
      · obtain ⟨later, less, saved⟩ := caught place before
        exact ⟨later, less, (last ..).mpr (.inl saved)⟩
      · exact absurd leaves stays

private theorem caughtUp_concat_reach (reachable : Bool) :
    start.CaughtUp (steps ++ [.reach reachable]) ↔ start.CaughtUp steps := by
  unfold CaughtUp
  simp [happens_concat]

/-- From a state that has been saved, the global grants in force are on disk exactly if whatever was
left has been caught up with. -/
theorem Saved.covered_run_iff (saved : start.Saved) (installs : ∀ step ∈ steps, step.Installs) :
    (start.run steps).Covered ↔ start.CaughtUp steps := by
  -- What comes last decides, so that the induction is on the end of the run.
  induction steps using List.reverseRecOn with
  | nil =>
    refine iff_of_true saved.covered fun place left ↦ ?_
    exact absurd left.lt_length (Nat.not_lt_zero place)
  | append_singleton steps step ih =>
    have earlier : ∀ step ∈ steps, step.Installs := fun step member ↦
      installs step (List.mem_append_left _ member)
    have kind := installs step (by simp)
    have after : start.run (steps ++ [step]) = (start.run steps).step step := by
      simp [Service.run]
    rw [after]
    cases step with
    | perform => exact kind.elim
    | bootstrap grants =>
      have trails := saved.trails.run earlier
      rw [caughtUp_concat_bootstrap, ← ih earlier]
      exact trails.covered_bootstrap_iff grants
    | reach reachable =>
      rw [caughtUp_concat_reach, ← ih earlier]
      exact (start.run steps).onDisk_reach _ reachable

end

/-- Installing configured grants changes nothing but the grants. Those that it comes to are in force
afterwards even if it fails, which it does at a grant that is not global, or if it has come to a new
one and the state cannot be saved. So a failure leaves the state as it was exactly if it has come to
no new grant.

If the state had been saved, and nothing but installations and the disk getting in and out of reach
has happened since, then after a success the global grants in force are on disk exactly if it has
counted a new one, or whatever failures left had been caught up with before. -/
theorem bootstrap_atomic_iff (service : Service) (grants : List Grant) :
    let call := service.bootstrap grants
    call.2.state.catalog = service.state.catalog ∧
      call.2.state.events = service.state.events ∧
      (∀ grant, call.2.state.grants.contains grant ↔
        grant ∈ installable grants ∨ service.state.grants.contains grant) ∧
      (call.1.isOk ↔
        (∀ grant ∈ grants, grant.object = none) ∧ (service.Adds grants → service.saves)) ∧
      (∀ error, call.1 = .error error →
        (call.2.state = service.state ↔ ¬ service.Adds grants)) ∧
      ∀ start : Service, start.Saved → ∀ steps : List Step, (∀ step ∈ steps, step.Installs) →
        start.run steps = service → ∀ added, call.1 = .ok added →
          (call.2.Covered ↔ 0 < added ∨ start.CaughtUp steps) := by
  intro call
  have state : call.2.state = (service.installed grants).state := service.state_bootstrap grants
  refine ⟨by rw [state]; rfl, by rw [state]; rfl, fun grant ↦ ?_, service.bootstrap_isOk_iff grants,
    fun _ _ ↦ ?_, ?_⟩
  · rw [state]
    exact contains_install ..
  · rw [state, state_installed_eq_iff]
  · rintro start saved steps installs rfl added counted
    have trails := saved.trails.run installs
    have stays : ¬ (start.run steps).Leaves grants := by
      rintro ⟨_, error, failed⟩
      rw [counted] at failed
      cases failed
    have stores : (start.run steps).Stores grants ↔ 0 < added := by
      rw [Stores, counted]
      simp
    rw [trails.covered_bootstrap_iff, saved.covered_run_iff installs, stores, and_iff_left stays]

/-- What a failed installation has left gets on disk with the next new grant. -/
theorem bootstrap_atomic_iff_again :
    let ada : Grant := ⟨.user "ada", .tagCreate, none⟩
    let bound : Grant := ⟨.user "ada", .tagView, some (.tag (Uuid.ofNat 1))⟩
    let bob : Grant := ⟨.user "bob", .tagCreate, none⟩
    let failed := (fresh true).run [.bootstrap [ada, bound]]
    let call := failed.bootstrap [bob]
    (fresh true).Saved ∧ call.1 = .ok 1 ∧ call.2.Covered ∧ call.2.state.grants.contains ada := by
  intro ada bound bob failed call
  have counted : call.1 = .ok 1 := by decide +kernel
  obtain ⟨_, _, contains, _, _, covered⟩ := bootstrap_atomic_iff failed [bob]
  have installs : ∀ step ∈ [Step.bootstrap [ada, bound]], step.Installs := by simp [Step.Installs]
  refine ⟨saved_fresh, counted, ?_, (contains ada).mpr (.inr (by decide +kernel))⟩
  exact (covered _ saved_fresh _ installs rfl 1 counted).mpr (.inl Nat.one_pos)

/-- A grant stays in force that has come before one that is refused, and so does one that could not
be saved. When it is installed again nothing is new, so that it is never saved. -/
theorem bootstrap_leaves :
    let ada : Grant := ⟨.user "ada", .tagCreate, none⟩
    let bound : Grant := ⟨.user "ada", .tagView, some (.tag (Uuid.ofNat 1))⟩
    let refused := (fresh true).bootstrap [ada, bound]
    let unsaved := ((fresh true).step (.reach false)).bootstrap [ada]
    (fresh true).Saved ∧ (fresh true).state.grants.contains ada = false ∧
      refused.1 = .error (.validation .grantNotGlobal) ∧
      refused.2.state.grants.contains ada ∧
      (refused.2.bootstrap [ada]).1 = .ok 0 ∧
      ¬ (refused.2.bootstrap [ada]).2.Covered ∧
      unsaved.1 = .error Disk.outOfReach ∧
      unsaved.2.state.grants.contains ada ∧
      ((unsaved.2.step (.reach true)).bootstrap [ada]).1 = .ok 0 ∧
      ¬ ((unsaved.2.step (.reach true)).bootstrap [ada]).2.Covered := by
  intro ada bound refused unsaved
  have bare (service : Service) (kept : service.disk = some .empty)
      (force : service.state.grants.contains ada) : ¬ service.Covered := by
    rintro ⟨disk, saved, stored, holds, covers⟩
    obtain rfl : disk = .empty := Option.some_inj.mp (stored.symm.trans kept)
    obtain rfl : saved = ∅ := Except.ok.inj (holds.symm.trans Disk.holds_empty)
    exact absurd (covers ada rfl force) (by decide)
  refine ⟨saved_fresh, by decide +kernel, by decide +kernel, by decide +kernel, by decide +kernel,
    bare _ (by decide +kernel) (by decide +kernel), by decide +kernel, by decide +kernel,
    by decide +kernel, bare _ (by decide +kernel) (by decide +kernel)⟩

end Service

end Tagging
