import Tagging.Audit.Event
import Tagging.Proofs.Access.Containment

/-!
# Histories

A log is known by its list of events. The history of an object, which the log looks up by places,
is what a scan of that list finds: the events with this target, the newest first. A notice of an
event is seen by those who might watch its target.
-/

namespace Tagging

namespace Positions

/-- A place is noted for its target only, before all others. -/
theorem of_note (positions : Positions) (target other : Object) (place : Nat) :
    (positions.note target place).of other =
      if target = other then place :: positions.of other else positions.of other := by
  simp only [note, of, Std.ExtTreeMap.getD_insert, Std.LawfulEqOrd.compare_eq_iff_eq]
  split
  · next same => rw [same]
  · rfl

private theorem of_noteAll (positions : Positions) (events : List Event) (start : Nat)
    (target : Object) :
    (noteAll positions (events.zipIdx start)).of target =
      (((events.zipIdx start).filter (·.1.target = target)).map (·.2)).reverse ++
        positions.of target := by
  induction events generalizing positions start with
  | nil => rfl
  | cons event events ih =>
    have step : noteAll positions ((event :: events).zipIdx start) =
        noteAll (positions.note event.target start) (events.zipIdx (start + 1)) := rfl
    rw [step, ih, of_note, List.zipIdx_cons, List.filter_cons]
    by_cases same : event.target = target
    · simp [same]
    · simp [same]

end Positions

namespace EventLog

/-! ### The list of events -/

/-- Recording adds an event at the end. -/
@[simp] theorem toList_record (log : EventLog) (event : Event) :
    (log.record event).toList = log.toList ++ [event] := by
  simp [toList, record]

/-- A log that is made from a list holds that list. -/
@[simp] theorem toList_ofList (events : List Event) : (ofList events).toList = events := rfl

/-- Two logs with the same events are equal. -/
theorem eq_of_toList {a b : EventLog} (same : a.toList = b.toList) : a = b := by
  obtain ⟨entries, positions, rfl⟩ := a
  obtain ⟨others, places, rfl⟩ := b
  have entries : entries = others := Array.toList_inj.mp same
  cases entries
  rfl

/-! ### The history of an object -/

/-- The places of an object are those of the events with this target. -/
theorem positions_of (log : EventLog) (target : Object) :
    log.positions.of target =
      ((log.toList.zipIdx.filter (·.1.target = target)).map (·.2)).reverse := by
  have places := Positions.of_noteAll ∅ log.toList 0 target
  rw [log.indexed, Positions.index]
  simpa [Positions.of, toList] using places

private theorem filterMap_places (look : Nat → Option Event) (entries : List (Event × Nat))
    (stands : ∀ entry ∈ entries, look entry.2 = some entry.1) :
    (entries.map (·.2)).filterMap look = entries.map (·.1) := by
  induction entries with
  | nil => rfl
  | cons entry entries ih =>
    obtain ⟨first, rest⟩ := List.forall_mem_cons.mp stands
    rw [List.map_cons, List.filterMap_cons_some first, List.map_cons, ih rest]

private theorem stands_at_place (log : EventLog) (target : Object) :
    ∀ entry ∈ log.toList.zipIdx.filter (·.1.target = target),
      log.entries[entry.2]? = some entry.1 := by
  intro entry member
  have stands := List.mem_zipIdx_iff_getElem?.mp (List.mem_filter.mp member).1
  simpa [toList] using stands

/-- The history of an object is what a scan of the log finds, the newest first. -/
theorem forTarget_eq (log : EventLog) (target : Object) :
    log.forTarget target = (log.toList.filter (·.target = target)).reverse := by
  rw [forTarget, positions_of, List.filterMap_reverse,
    filterMap_places _ _ (log.stands_at_place target)]
  congr 1
  calc (log.toList.zipIdx.filter (·.1.target = target)).map (·.1)
      = (log.toList.zipIdx.map (·.1)).filter (·.target = target) := by
        rw [List.filter_map]
        rfl
    _ = log.toList.filter (·.target = target) := by rw [List.zipIdx_map_fst]

/-- The newest event of an object is the first of its history. -/
theorem latest?_eq (log : EventLog) (target : Object) :
    log.latest? target = (log.forTarget target).head? := by
  have stands := log.stands_at_place target
  rw [latest?, forTarget, positions_of]
  cases places : (log.toList.zipIdx.filter (·.1.target = target)).reverse with
  | nil => simp [← List.map_reverse, places]
  | cons entry rest =>
    have member : entry ∈ log.toList.zipIdx.filter (·.1.target = target) := by
      rw [← List.mem_reverse, places]
      exact List.mem_cons_self
    rw [← List.map_reverse, places, List.map_cons, List.filterMap_cons_some (stands entry member)]
    exact stands entry member

end EventLog

/-- A notice is seen by the principals who might view the events of the object when its watchers
were settled. -/
theorem visibleTo_holdersOf (index : GrantIndex) (event : Event) (object : Object)
    (principal : Principal) :
    (Notice.mk event (index.holdersOf .eventsView object)).visibleTo principal =
      index.allows principal .eventsView (some object) := by
  rw [Bool.eq_iff_iff, GrantIndex.allows_iff]
  simp only [Notice.visibleTo, Bool.or_eq_true, List.any_eq_true,
    Std.ExtTreeSet.contains_iff_mem, GrantIndex.mem_holdersOf]

end Tagging
