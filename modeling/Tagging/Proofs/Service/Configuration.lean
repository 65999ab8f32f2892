import Tagging.Options.Basic
import Tagging.Proofs.Access.Notation
import Tagging.Proofs.Result
import Tagging.Proofs.Service.Installation

/-!
# Configured grants

The configuration lists grants in words. They are read one after the other, up to the first that is
none, and then installed together. An installation that succeeds is complete, and to repeat it, in
whatever order, adds nothing.
-/

namespace Tagging

namespace Options

/-! ### Reading the configuration -/

private theorem entries_eq (texts : List String) :
    entries texts = (texts.filter fun text ↦ Text.trimmed text ≠ "").map Text.trimmed :=
  List.filter_map

private theorem object_of_globalGrants {options : Options} {grants : List Grant}
    (read : options.globalGrants = .ok grants) : ∀ grant ∈ grants, grant.object = none := by
  intro grant member
  have yielded : Except.ok grant ∈ (entries options.grants).map Grant.parse := by
    rw [mapM_eq_ok_iff_map_eq.mp read]
    exact List.mem_map_of_mem member
  obtain ⟨entry, _, parsed⟩ := List.mem_map.mp yielded
  obtain ⟨_, _, _, _, everywhere, _⟩ := (Grant.parse_eq_ok_iff entry grant).mp parsed
  exact everywhere

end Options

namespace Service

variable {service : Service} {grants : List Grant}

/-! ### Installing what was read -/

private theorem bootstrap_of_contains (global : ∀ grant ∈ grants, grant.object = none)
    (force : ∀ grant ∈ grants, service.state.grants.contains grant) :
    service.bootstrap grants = (.ok 0, service) := by
  have old : ¬ service.Adds grants := by
    rw [not_adds_iff, installable_of_global global]
    exact force
  have came := service.bootstrap_cases grants
  generalize service.bootstrap grants = call at came
  cases came with
  | refused bound =>
    obtain ⟨grant, member, object⟩ := bound
    rw [global grant member] at object
    cases object
  | idle => rfl
  | unsaved _ adds | saved _ adds => exact absurd adds old

/-- An installation of global grants that succeeds tells how many were new. -/
theorem count_bootstrap {added : Nat} (global : ∀ grant ∈ grants, grant.object = none)
    (done : (service.bootstrap grants).1 = .ok added) :
    added = (newGrants service.state.grants grants).card := by
  rw [bootstrap_eq, install_ok _ _ global, Nat.zero_add] at done
  dsimp only at done
  split at done
  · next none =>
    cases done
    exact none.symm
  · split at done
    · cases done
      rfl
    · cases done

/-- It makes no difference in which order global grants are listed, and how often. -/
theorem bootstrap_congr {others : List Grant} (global : ∀ grant ∈ grants, grant.object = none)
    (same : ∀ grant, grant ∈ others ↔ grant ∈ grants) :
    service.bootstrap others = service.bootstrap grants := by
  have globalOthers : ∀ grant ∈ others, grant.object = none := fun grant member ↦
    global grant ((same grant).mp member)
  have index : (install service.state.grants 0 others).2 =
      (install service.state.grants 0 grants).2 := by
    apply GrantIndex.eq_of_contains
    intro grant
    rw [Bool.eq_iff_iff, contains_install, contains_install, installable_of_global global,
      installable_of_global globalOthers, same]
  have result : (install service.state.grants 0 others).1 =
      (install service.state.grants 0 grants).1 := by
    have members : others.toFinset = grants.toFinset := by
      ext grant
      simp [same]
    rw [install_ok _ _ globalOthers, install_ok _ _ global, newGrants, members, newGrants]
  rw [bootstrap, bootstrap, Prod.ext result index]

private theorem bootstrap_of_global (service : Service)
    (global : ∀ grant ∈ grants, grant.object = none) :
    (∃ added, (service.bootstrap grants).1 = .ok added) ∨
      (service.bootstrap grants).1 = .error Disk.outOfReach ∧ service.saves = false := by
  have came := service.bootstrap_cases grants
  generalize service.bootstrap grants = call at came
  cases came with
  | refused bound =>
    obtain ⟨grant, member, object⟩ := bound
    rw [global grant member] at object
    cases object
  | unsaved _ _ unsaved => exact .inr ⟨rfl, unsaved⟩
  | idle | saved => exact .inl ⟨_, rfl⟩

/-- The service after an installation has saved its state if the installation counts a new grant and
there is a disk, or if the state was saved before. -/
theorem saved_bootstrap {added : Nat} (done : (service.bootstrap grants).1 = .ok added)
    (before : service.disk.isSome ∧ 0 < added ∨ service.Saved) :
    (service.bootstrap grants).2.Saved := by
  have came := service.bootstrap_cases grants
  generalize service.bootstrap grants = call at came done ⊢
  cases came with
  | refused | unsaved => cases done
  | idle =>
    cases done
    exact before.resolve_left fun counts ↦ Nat.lt_irrefl 0 counts.2
  | saved =>
    have kept : ∃ disk, service.disk = some disk := by
      obtain ⟨present, _⟩ | ⟨disk, kept, _⟩ := before
      · exact Option.isSome_iff_exists.mp present
      · exact ⟨disk, kept⟩
    obtain ⟨disk, kept⟩ := kept
    exact saved_stored kept

/-- Grants have been installed on all objects, and nothing else has changed; and to install them
again, now or after a restart, does nothing. -/
structure Completes (service : Service) (grants : List Grant) (added : Nat) (after : Service) :
    Prop where
  catalog : after.state.catalog = service.state.catalog
  events : after.state.events = service.state.events
  onObjects : ∀ grant object, grant.object = some object →
    after.state.grants.contains grant = service.state.grants.contains grant
  everywhere : ∀ grant, grant.object = none →
    (after.state.grants.contains grant ↔ service.state.grants.contains grant ∨ grant ∈ grants)
  count : added = (grants.toFinset.filter (¬ service.state.grants.contains ·)).card
  again : after.bootstrap grants = (.ok 0, after)
  /-- From a disk that holds the state the same state comes back. -/
  restarted : ∀ disk : Disk, disk.Holds after.state →
    ∃ opened, ofDisk { disk with reachable := true } = .ok opened ∧
      opened.state = after.state ∧ opened.bootstrap grants = (.ok 0, opened)
  /-- The own disk holds the state once it has been saved. If no grant is new, it is not saved
  again. -/
  reopened : service.disk.isSome ∧ 0 < added ∨ service.Saved →
    after.reopen.state = after.state ∧ after.reopen.bootstrap grants = (.ok 0, after.reopen)

/-- An installation of global grants that succeeds is complete. -/
theorem completes_bootstrap {added : Nat} (global : ∀ grant ∈ grants, grant.object = none)
    (done : (service.bootstrap grants).1 = .ok added) :
    service.Completes grants added (service.bootstrap grants).2 := by
  have state := service.state_bootstrap grants
  have contains (grant : Grant) : (service.bootstrap grants).2.state.grants.contains grant ↔
      grant ∈ grants ∨ service.state.grants.contains grant := by
    rw [state, contains_install, installable_of_global global]
  have force {later : Service} (same : later.state = (service.bootstrap grants).2.state) :
      later.bootstrap grants = (.ok 0, later) := by
    refine bootstrap_of_contains global fun grant member ↦ ?_
    rw [same, contains]
    exact .inl member
  refine ⟨by rw [state], by rw [state], fun grant object on ↦ ?_,
    fun grant _ ↦ (contains grant).trans or_comm, count_bootstrap global done, force rfl,
    fun disk holds ↦ ?_, fun before ↦ ?_⟩
  · have listed : grant ∉ grants := fun member ↦ by
      rw [global grant member] at on
      cases on
    rw [Bool.eq_iff_iff, contains, or_iff_right listed]
  · have loaded : ({ disk with reachable := true } : Disk).load = .ok _ := holds
    refine ⟨⟨_, some { disk with reachable := true }, ∅⟩, ?_, rfl, force rfl⟩
    rw [ofDisk, loaded]
    rfl
  · obtain ⟨disk, kept, holds⟩ := saved_bootstrap done before
    rw [reopen_of_holds kept holds]
    exact ⟨rfl, force rfl⟩

/-- The configured grants are read if each entry that is not blank is a grant, and are then listed
in the order of these entries; otherwise what is wrong is what is wrong with the first such entry
that is none. Grants that were read can be installed in every state, as far as it can be saved; they
are then in force beside the old ones, and those that are new have been counted, whatever their
order in the list and however often they are listed. To install them again does nothing. -/
theorem bootstrap_globalGrants (options : Options) :
    let entries := (options.grants.filter fun text ↦ Text.trimmed text ≠ "").map Text.trimmed
    (options.globalGrants.isOk ↔ ∀ entry ∈ entries, (Grant.parse entry).isOk) ∧
    (∀ error, options.globalGrants = .error error →
      ∃ before entry after, entries = before ++ entry :: after ∧
        (∀ earlier ∈ before, (Grant.parse earlier).isOk) ∧ Grant.parse entry = .error error) ∧
    ∀ grants, options.globalGrants = .ok grants →
      entries.map Grant.parse = grants.map .ok ∧
      ∀ service : Service,
        let call := service.bootstrap grants
        (∀ fault, call.1 ≠ .error (.validation fault)) ∧
        ((∃ added, call.1 = .ok added) ∨
          call.1 = .error Disk.outOfReach ∧ service.saves = false) ∧
        (∀ added, call.1 = .ok added → service.Completes grants added call.2) ∧
        ∀ others : List Grant, (∀ grant, grant ∈ others ↔ grant ∈ grants) →
          service.bootstrap others = call := by
  intro entries
  have listed : Options.entries options.grants = entries := Options.entries_eq options.grants
  refine ⟨?_, fun error failed ↦ ?_, fun grants read ↦ ⟨?_, fun service ↦ ?_⟩⟩
  · rw [Options.globalGrants, listed, isOk_mapM_iff]
  · rw [Options.globalGrants, listed] at failed
    exact exists_of_mapM_eq_error failed
  · rw [Options.globalGrants, listed] at read
    exact mapM_eq_ok_iff_map_eq.mp read
  · have global := Options.object_of_globalGrants read
    refine ⟨fun fault failed ↦ ?_, bootstrap_of_global service global,
      fun added done ↦ completes_bootstrap global done, fun others same ↦
        bootstrap_congr global same⟩
    obtain ⟨added, done⟩ | ⟨unsaved, _⟩ := bootstrap_of_global service global
    · rw [done] at failed
      cases failed
    · rw [unsaved] at failed
      cases failed

/-- Two grants are listed in three entries beside a blank one. They are installed and saved. -/
theorem bootstrap_globalGrants_again :
    let options := { Options.default with
      grants :=
        [" role:editors:tag_create ", " ", "user: ada :tag_view", "role:editors:tag_create"] }
    let editors : Grant := ⟨.role "editors", .tagCreate, none⟩
    let ada : Grant := ⟨.user "ada", .tagView, none⟩
    let grants := [editors, ada, editors]
    let call := (fresh true).bootstrap grants
    options.globalGrants = .ok grants ∧ call.1 = .ok 2 ∧
      (fresh true).Completes grants 2 call.2 ∧ (fresh true).bootstrap [ada, editors] = call ∧
      call.2.reopen.bootstrap grants = (.ok 0, call.2.reopen) := by
  intro options editors ada grants call
  have read : options.globalGrants = .ok grants := by decide +kernel
  have done : call.1 = .ok 2 := by decide +kernel
  obtain ⟨_, _, installs⟩ := bootstrap_globalGrants options
  obtain ⟨_, _, completes, any⟩ := (installs grants read).2 (fresh true)
  have complete := completes 2 done
  have same : ∀ grant, grant ∈ [ada, editors] ↔ grant ∈ grants := by
    intro grant
    simp only [grants, List.mem_cons, List.not_mem_nil]
    tauto
  exact ⟨read, done, complete, any _ same, (complete.reopened (.inl ⟨rfl, by decide⟩)).2⟩

end Service

end Tagging
