import Mathlib.Data.Finset.Card
import Mathlib.Data.List.TakeWhile
import Mathlib.Tactic.Tauto
import Tagging.Proofs.Service.Transaction
import Tagging.Service.Grants

/-!
# What comes of installing grants

Configured grants are installed one by one, up to the first that is not global, and the state is
saved if any of them is new. What can come of that is said once, in `Service.bootstrap_cases`.
-/

namespace Tagging

namespace Service

/-! ### One by one -/

/-- The grants that an installation comes to: those before the first one that is not global. -/
def installable (grants : List Grant) : List Grant :=
  grants.takeWhile (·.object.isNone)

/-- A list of global grants is installed to its end. -/
theorem installable_of_global {grants : List Grant}
    (global : ∀ grant ∈ grants, grant.object = none) : installable grants = grants :=
  List.takeWhile_eq_self_iff.mpr fun grant member ↦ by simp [global grant member]

/-- Only global grants are installed. -/
theorem object_of_installable {grants : List Grant} {grant : Grant}
    (member : grant ∈ installable grants) : grant.object = none := by
  have global := List.mem_takeWhile_imp member
  simpa using global

section

variable {index : GrantIndex} {grants : List Grant}

private theorem install_index (index : GrantIndex) (added : Nat) (grants : List Grant) :
    (install index added grants).2 =
      (installable grants).foldl (fun index grant ↦ (index.insert grant).2) index := by
  induction grants generalizing index added with
  | nil => rfl
  | cons first grants ih =>
    cases object : first.object with
    | some object => simp [install, installable, object]
    | none => simpa [install, installable, object] using ih _ _

/-- After an installation the grants that it came to are in force, and those that were before. -/
theorem contains_install (index : GrantIndex) (added : Nat) (grants : List Grant) (grant : Grant) :
    (install index added grants).2.contains grant ↔
      grant ∈ installable grants ∨ index.contains grant := by
  rw [install_index, GrantIndex.contains_foldl_insert]

/-- An installation changes nothing if it comes to no new grant, and only then. -/
theorem install_eq_self_iff (added : Nat) :
    (install index added grants).2 = index ↔
      ∀ grant ∈ installable grants, index.contains grant := by
  constructor
  · intro same grant member
    rw [← same, contains_install]
    exact .inl member
  · intro old
    apply GrantIndex.eq_of_contains
    intro grant
    rw [Bool.eq_iff_iff, contains_install]
    exact or_iff_right_of_imp (old grant)

private theorem install_error (added : Nat) (found : ∃ grant ∈ grants, grant.object.isSome) :
    (install index added grants).1 = .error (.validation .grantNotGlobal) := by
  induction grants generalizing index added with
  | nil => simp at found
  | cons first grants ih =>
    rw [install]
    split
    · rfl
    · next global =>
      obtain ⟨grant, member, object⟩ := found
      obtain rfl | later := List.mem_cons.mp member
      · exact absurd object global
      · exact ih _ ⟨grant, later, object⟩

/-- The grants of a list that are not in force, each once. -/
def newGrants (index : GrantIndex) (grants : List Grant) : Finset Grant :=
  grants.toFinset.filter (¬ index.contains ·)

private theorem newGrants_insert (index : GrantIndex) (first : Grant) (grants : List Grant) :
    newGrants (index.insert first).2 grants = (newGrants index (first :: grants)).erase first := by
  ext grant
  simp only [newGrants, Finset.mem_filter, Finset.mem_erase, List.mem_toFinset, List.mem_cons,
    GrantIndex.contains_insert]
  tauto

/-- An installation of global grants succeeds, and counts those that are new. -/
theorem install_ok (index : GrantIndex) (added : Nat)
    (global : ∀ grant ∈ grants, grant.object = none) :
    (install index added grants).1 = .ok (added + (newGrants index grants).card) := by
  induction grants generalizing index added with
  | nil => rfl
  | cons first grants ih =>
    obtain ⟨object, rest⟩ := List.forall_mem_cons.mp global
    rw [install, if_neg (by simp [object])]
    have others := newGrants_insert index first grants
    by_cases old : index.contains first
    · have counted : (index.insert first).1 = false := by simp [GrantIndex.insert, old]
      have absent : first ∉ newGrants index (first :: grants) := by simp [newGrants, old]
      rw [Finset.erase_eq_of_notMem absent] at others
      rw [← others, ← ih _ _ rest]
      simp [counted]
    · have counted : (index.insert first).1 = true := by simp [GrantIndex.insert, old]
      have present : first ∈ newGrants index (first :: grants) := by simp [newGrants, old]
      rw [← Finset.card_erase_add_one present, ← others, ← Nat.add_assoc, Nat.add_right_comm,
        ← ih _ _ rest]
      simp [counted]

private theorem card_newGrants_eq_zero_iff :
    (newGrants index grants).card = 0 ↔ ∀ grant ∈ grants, index.contains grant := by
  rw [Finset.card_eq_zero, newGrants, Finset.filter_eq_empty_iff]
  simp

end

/-! ### What can come of it -/

/-- An installation comes to a grant that is not in force. -/
def Adds (service : Service) (grants : List Grant) : Prop :=
  ∃ grant ∈ installable grants, ¬ service.state.grants.contains grant

/-- The service with the grants that an installation comes to, saved or not. -/
def installed (service : Service) (grants : List Grant) : Service :=
  { service with
    state := { service.state with grants := (install service.state.grants 0 grants).2 } }

/-- The service with its state on its disk, if it has one. -/
def stored (service : Service) : Service :=
  { service with
    disk := service.disk.map fun disk ↦ { disk with snapshot := some service.state.snapshot } }

/-- What can come of installing configured grants. -/
inductive Installation (service : Service) (grants : List Grant) :
    Except Error Nat × Service → Prop where
  | refused (bound : ∃ grant ∈ grants, grant.object.isSome) :
      Installation service grants
        (.error (.validation .grantNotGlobal), service.installed grants)
  | unsaved (global : ∀ grant ∈ grants, grant.object = none) (adds : service.Adds grants)
      (unsaved : service.saves = false) :
      Installation service grants (.error Disk.outOfReach, service.installed grants)
  | idle (global : ∀ grant ∈ grants, grant.object = none) (old : ¬ service.Adds grants) :
      Installation service grants (.ok 0, service)
  | saved (global : ∀ grant ∈ grants, grant.object = none) (adds : service.Adds grants)
      (saves : service.saves) {added : Nat} (counted : 0 < added) :
      Installation service grants (.ok added, (service.installed grants).stored)

section

variable {service : Service} {grants : List Grant}

/-- An installation comes to no new grant if all that it comes to are in force. -/
theorem not_adds_iff : ¬ service.Adds grants ↔
    ∀ grant ∈ installable grants, service.state.grants.contains grant := by
  simp [Adds]

/-- An installation that comes to no new grant leaves the state, and no other does. -/
theorem state_installed_eq_iff :
    (service.installed grants).state = service.state ↔ ¬ service.Adds grants := by
  have same : (service.installed grants).state = service.state ↔
      (install service.state.grants 0 grants).2 = service.state.grants := by
    obtain ⟨⟨catalog, index, events⟩, disk, feed⟩ := service
    simp [installed]
  rw [same, install_eq_self_iff, not_adds_iff]

/-- An installation that comes to no new grant leaves the service. -/
theorem installed_of_not_adds (old : ¬ service.Adds grants) :
    service.installed grants = service :=
  congrArg (fun state ↦ ({ service with state } : Service)) (state_installed_eq_iff.mpr old)

private theorem flush_of_saves (saves : service.saves) : service.flush = .ok service.stored := by
  obtain ⟨state, disk, feed⟩ := service
  cases disk with
  | none => rfl
  | some disk =>
    have reachable : disk.reachable = true := saves
    simp [flush, Disk.save, reachable, stored, bind, Except.bind]

private theorem flush_of_not_saves (unsaved : service.saves = false) :
    service.flush = .error Disk.outOfReach := by
  obtain ⟨state, disk, feed⟩ := service
  cases disk with
  | none => cases unsaved
  | some disk =>
    have reachable : disk.reachable = false := unsaved
    simp [flush, Disk.save, reachable, bind, Except.bind]

/-- Grants are installed first, and saved if any of them is new. -/
theorem bootstrap_eq (service : Service) (grants : List Grant) :
    service.bootstrap grants =
      match (install service.state.grants 0 grants).1 with
      | .error error => (.error error, service.installed grants)
      | .ok added =>
        if added = 0 then (.ok 0, service.installed grants)
        else match (service.installed grants).flush with
          | .ok saved => (.ok added, saved)
          | .error error => (.error error, service.installed grants) := rfl

/-- What comes of installing configured grants is one of the four. -/
theorem bootstrap_cases (service : Service) (grants : List Grant) :
    Installation service grants (service.bootstrap grants) := by
  rw [bootstrap_eq]
  by_cases bound : ∃ grant ∈ grants, grant.object.isSome
  · rw [install_error 0 bound]
    exact .refused bound
  · have global : ∀ grant ∈ grants, grant.object = none := by simpa using bound
    rw [install_ok service.state.grants 0 global, Nat.zero_add]
    dsimp only
    have idle : (newGrants service.state.grants grants).card = 0 ↔ ¬ service.Adds grants := by
      rw [card_newGrants_eq_zero_iff, not_adds_iff, installable_of_global global]
    by_cases zero : (newGrants service.state.grants grants).card = 0
    · rw [if_pos zero, installed_of_not_adds (idle.mp zero)]
      exact .idle global (idle.mp zero)
    · have adds : service.Adds grants := not_not.mp (mt idle.mpr zero)
      rw [if_neg zero]
      cases saves : service.saves with
      | true =>
        have flushed : (service.installed grants).flush = .ok _ := flush_of_saves saves
        rw [flushed]
        exact .saved global adds saves (Nat.pos_of_ne_zero zero)
      | false =>
        have flushed : (service.installed grants).flush = .error _ := flush_of_not_saves saves
        rw [flushed]
        exact .unsaved global adds saves

/-- An installation fails at a grant that is not global, or if it has come to a new grant and the
state cannot be saved. -/
theorem bootstrap_isOk_iff (service : Service) (grants : List Grant) :
    (service.bootstrap grants).1.isOk ↔
      (∀ grant ∈ grants, grant.object = none) ∧ (service.Adds grants → service.saves) := by
  have came := service.bootstrap_cases grants
  generalize service.bootstrap grants = call at came
  cases came with
  | refused bound =>
    refine iff_of_false Bool.false_ne_true fun ⟨global, _⟩ ↦ ?_
    obtain ⟨grant, member, object⟩ := bound
    simp [global grant member] at object
  | unsaved global adds unsaved =>
    refine iff_of_false Bool.false_ne_true fun ⟨_, saves⟩ ↦ ?_
    simp [saves adds] at unsaved
  | idle global old => exact iff_of_true rfl ⟨global, fun adds ↦ absurd adds old⟩
  | saved global adds saves counted => exact iff_of_true rfl ⟨global, fun _ ↦ saves⟩

end

end Service

end Tagging
