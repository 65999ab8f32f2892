import Tagging.Proofs.Service.Errand
import Tagging.Proofs.Service.Run
import Tagging.Proofs.Trace

/-!
# Errands in any order

Principals who amend tags in different places do not get into each other's way. Whether an errand
goes well does not depend on what is amended elsewhere, and what it leaves in the catalog does not
depend on when it is run. So any order of the same errands has the same outcomes, and only the log
tells in which one they were run.
-/

namespace Tagging.Errand

/-! ### Two errands -/

private theorem error?_amend {errand : Errand} {amendment : Amendment}
    (apart : errand.amendment.place ≠ amendment.place) (state : State) :
    errand.error? (state.amend amendment) = errand.error? state := by
  have has : ∀ object, (state.amend amendment).has object = state.has object :=
    state.catalog.has_modify _ _
  have lacks := Operation.lacks_congr has errand.amendment.operation
  have flaws : errand.amendment.operation.flaws (state.amend amendment) =
      errand.amendment.operation.flaws state := by
    obtain ⟨actor, own⟩ := errand
    cases own with
    | remove document tag =>
      have attached := state.catalog.isAttached_amend apart.symm
      simp only [Amendment.operation, Operation.flaws, State.amend, attached]
    | _ => rfl
  rw [error?, lacks, flaws]
  rfl

private theorem error?_act {one other : Errand}
    (apart : one.amendment.place ≠ other.amendment.place) (state : State) :
    one.error? (other.act state).2 = one.error? state := by
  simp only [act]
  split
  · exact error?_amend apart state
  · rfl

private theorem act_act {one other : Errand} (apart : one.amendment.place ≠ other.amendment.place)
    (state : State) :
    (one.act (other.act state).2).2 =
      if (one.error? state).isNone then (other.act state).2.amend one.amendment
      else (other.act state).2 := by
  rw [act, error?_act apart]

/-- Errands in different places do not get into each other's way. -/
theorem independent {one other : Errand} (apart : one.amendment.place ≠ other.amendment.place) :
    Independent act one other where
  first state := congrArg (Answer.mk one) (error?_act apart state)
  second state := congrArg (Answer.mk other) (error?_act apart.symm state)
  left state := by
    have comm : (state.amend other.amendment).amend one.amendment =
        (state.amend one.amendment).amend other.amendment :=
      congrArg (fun catalog ↦ { state with catalog }) (state.catalog.amend_comm apart)
    rw [act_act apart, act_act apart.symm]
    simp only [act]
    by_cases done : (one.error? state).isNone
    · by_cases done' : (other.error? state).isNone
      · rw [if_pos done, if_pos done', if_pos done', if_pos done, comm]
      · rw [if_pos done, if_neg done', if_neg done', if_pos done]
    · rw [if_neg done, if_neg done]

/-! ### Many errands -/

private theorem error?_unlogged (errand : Errand) (state : State) :
    errand.error? state.unlogged = errand.error? state := by
  rfl

/-- An errand comes to the same in a service as in its state without the log. -/
theorem commutes (call : Stamp × Errand) (service : Service) (steady : Steady service) :
    Commutes (fun service ↦ service.state.unlogged) Steady (fun call ↦ call.2.run call.1)
      (fun call ↦ call.2.act) call service := by
  obtain ⟨stamp, errand⟩ := call
  have fares := errand.fares steady stamp
  cases made : errand.run stamp service with
  | mk answer after =>
    rw [made] at fares
    cases fares with
    | @failed error fails =>
      have act : errand.act service.state.unlogged =
          (⟨errand, some error⟩, service.state.unlogged) := by
        rw [Errand.act, error?_unlogged, fails]
        rfl
      constructor
      · simp only [made, act]
      · simp only [made, act]
      · simpa only [made] using steady
    | done succeeds catalog grants log gist steady =>
      have act : errand.act service.state.unlogged =
          (⟨errand, none⟩, service.state.unlogged.amend errand.amendment) := by
        rw [Errand.act, error?_unlogged, succeeds]
        rfl
      have unlogged : after.state.unlogged = service.state.unlogged.amend errand.amendment := by
        simp only [State.unlogged, State.amend, catalog, grants]
      constructor
      · simp only [made, act]
      · simp only [made, act, unlogged]
      · simpa only [made] using steady

private theorem trace_log {service : Service} (steady : Steady service)
    (calls : List (Stamp × Errand)) :
    let made := trace (fun call ↦ call.2.run call.1) service calls
    ∃ told, made.2.state.events.toList = service.state.events.toList ++ told ∧
      told.map Event.gist = made.1.flatMap Answer.gists := by
  induction calls generalizing service with
  | nil => exact ⟨[], (List.append_nil _).symm, rfl⟩
  | cons call calls ih =>
    obtain ⟨stamp, errand⟩ := call
    have fares := errand.fares steady stamp
    simp only [trace]
    cases made : errand.run stamp service with
    | mk answer after =>
      rw [made] at fares
      cases fares with
      | failed fails =>
        obtain ⟨told, log, gists⟩ := ih steady
        exact ⟨told, log, gists⟩
      | @done _ event succeeds catalog grants log gist steady =>
        obtain ⟨told, rest, gists⟩ := ih steady
        refine ⟨event :: told, ?_, ?_⟩
        · rw [rest, log, List.append_assoc, List.singleton_append]
        · rw [List.map_cons, gists, gist]
          rfl

/-- Errands that each touch another place come to the same in any order: each of them goes well or
fails with the same error, the catalog and the grants that they leave are the same, and of those
that go well the same is recorded, one event for each. -/
theorem trace_reordered {service : Service} (sound : service.state.catalog.WellKeyed)
    (saves : service.saves) {calls others : List (Stamp × Errand)}
    (apart : (calls.map (·.2.amendment.place)).Nodup)
    (reordered : (calls.map (·.2)).Perm (others.map (·.2))) :
    let one := trace (fun call ↦ call.2.run call.1) service calls
    let other := trace (fun call ↦ call.2.run call.1) service others
    one.1.Perm other.1 ∧ one.2.state.catalog = other.2.state.catalog ∧
      one.2.state.grants = other.2.state.grants ∧
      ∃ told told', one.2.state.events.toList = service.state.events.toList ++ told ∧
        other.2.state.events.toList = service.state.events.toList ++ told' ∧
        (told.map Event.gist).Perm (told'.map Event.gist) ∧
        told.map Event.gist = one.1.flatMap Answer.gists := by
  intro one other
  have steady : Steady service := ⟨sound, saves⟩
  have independent : (calls.map (·.2)).Pairwise (Independent act) := by
    rw [List.pairwise_map]
    exact (List.pairwise_map.mp apart).imp independent
  -- The log tells in which order errands were run, so that they commute only without it.
  obtain ⟨answers, left⟩ := trace_perm reordered independent service.state.unlogged
  rw [← trace_map, ← trace_map] at answers left
  obtain ⟨answers₁, left₁, _⟩ := trace_view commutes steady calls
  obtain ⟨answers₂, left₂, _⟩ := trace_view commutes steady others
  rw [← answers₁, ← answers₂] at answers
  rw [← left₁, ← left₂] at left
  obtain ⟨told, log, gists⟩ := trace_log steady calls
  obtain ⟨told', log', gists'⟩ := trace_log steady others
  have recorded : (told.map Event.gist).Perm (told'.map Event.gist) := by
    rw [gists, gists']
    exact answers.flatMap_right Answer.gists
  have catalog := congrArg State.catalog left
  have grants := congrArg State.grants left
  exact ⟨answers, catalog, grants, told, told', log, log', recorded, gists⟩

/-- A tag is attached to a document and renamed, and a stranger tries to detach it from another one.
In the opposite order, with other identifiers for the events, all of this comes to the same. -/
theorem trace_reordered_reversed :
    let stamp : Stamp := { ids := Uuid.ofNat, now := Instant.origin }
    let later : Stamp := { ids := fun n ↦ Uuid.ofNat (n + 9), now := Instant.origin }
    let root : Principal := ⟨"root", [], true⟩
    let service := Service.inMemory.run
      [.perform stamp root (.change (.createTag "plan" none)),
        .perform stamp root (.change (.createDocument "notes"))]
    let attach : Errand := ⟨root, .attach (Uuid.ofNat 0) (Uuid.ofNat 0)⟩
    let rename : Errand := ⟨root, .update (Uuid.ofNat 0) ⟨some "done", none⟩⟩
    let intrude : Errand := ⟨⟨"eve", [], false⟩, .remove (Uuid.ofNat 1) (Uuid.ofNat 0)⟩
    let one := trace (fun call ↦ call.2.run call.1) service
      [(stamp, attach), (stamp, rename), (stamp, intrude)]
    let other := trace (fun call ↦ call.2.run call.1) service
      [(later, intrude), (later, rename), (later, attach)]
    one.1.map (·.error?) = [none, none, some .notFound] ∧ one.1.Perm other.1 ∧
      one.2.state.catalog = other.2.state.catalog := by
  intro stamp later root service attach rename intrude one other
  have reachable : service.state.Reachable := ⟨.inMemory, _, rfl, rfl⟩
  have apart : ([(stamp, attach), (stamp, rename), (stamp, intrude)].map
      (·.2.amendment.place)).Nodup := by
    decide +kernel
  have reordered : ([(stamp, attach), (stamp, rename), (stamp, intrude)].map (·.2)).Perm
      ([(later, intrude), (later, rename), (later, attach)].map (·.2)) :=
    (List.reverse_perm [intrude, rename, attach])
  have same := trace_reordered reachable.wellKeyed rfl apart reordered
  exact ⟨by decide +kernel, same.1, same.2.1⟩

end Tagging.Errand
