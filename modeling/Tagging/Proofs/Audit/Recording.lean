import Tagging.Proofs.Encoding

/-!
# Logs that grow

A log is made from a list of events, the empty one or any other, and then events are recorded one
after the other. However it has come about, it finds by places what a scan of its events finds: the
places that are noted for an object are those of the events with this target and no others, so that
a look at one of them never fails. What has been recorded stays where it is, and a log that is made
anew from its list is the same log.
-/

namespace Tagging

namespace EventLog

/-- The log after some events have been recorded, one after the other. -/
def recordAll (log : EventLog) (events : List Event) : EventLog :=
  events.foldl record log

/-- Events that are recorded one after the other come after all others, in this order. -/
theorem toList_recordAll (log : EventLog) (events : List Event) :
    (log.recordAll events).toList = log.toList ++ events := by
  induction events generalizing log with
  | nil => exact (List.append_nil _).symm
  | cons event events ih =>
    calc (log.recordAll (event :: events)).toList
        = ((log.record event).recordAll events).toList := rfl
      _ = (log.toList ++ [event]) ++ events := by rw [ih, toList_record]
      _ = log.toList ++ event :: events := List.append_cons .. |>.symm

/-- The size of a log is the length of its list. -/
theorem length_toList (log : EventLog) : log.toList.length = log.size :=
  Array.length_toList

/-- The event at a place is the one in the list. -/
theorem getElem?_toList (log : EventLog) (place : Nat) :
    log.toList[place]? = log.entries[place]? :=
  Array.getElem?_toList

/-! ### The places of an object -/

/-- The places that are noted for an object are those of the events with this target. -/
theorem mem_positions_of (log : EventLog) (target : Object) (place : Nat) :
    place ∈ log.positions.of target ↔
      ∃ event, log.toList[place]? = some event ∧ event.target = target := by
  rw [positions_of, List.mem_reverse, List.mem_map]
  constructor
  · rintro ⟨⟨event, place⟩, member, rfl⟩
    obtain ⟨stands, own⟩ := List.mem_filter.mp member
    exact ⟨event, List.mem_zipIdx_iff_getElem?.mp stands, of_decide_eq_true own⟩
  · rintro ⟨event, stands, own⟩
    refine ⟨(event, place), List.mem_filter.mpr ⟨?_, decide_eq_true own⟩, rfl⟩
    exact List.mem_zipIdx_iff_getElem?.mpr stands

/-- The places of an object are noted in descending order, so each of them once. -/
theorem descending_positions_of (log : EventLog) (target : Object) :
    (log.positions.of target).Pairwise (· > ·) := by
  rw [positions_of, List.pairwise_reverse]
  have all : (log.toList.zipIdx.map (·.2)).Pairwise (· < ·) := by
    rw [List.zipIdx_map_snd]
    exact List.pairwise_lt_range'
  exact all.sublist (List.filter_sublist.map _)

private theorem map_positions_of (log : EventLog) (target : Object) :
    (log.positions.of target).map (log.entries[·]?) = (log.forTarget target).map some := by
  have found (places : List Nat) (stands : ∀ place ∈ places, (log.entries[place]?).isSome) :
      places.map (log.entries[·]?) = (places.filterMap (log.entries[·]?)).map some := by
    induction places with
    | nil => rfl
    | cons place places ih =>
      obtain ⟨first, rest⟩ := List.forall_mem_cons.mp stands
      obtain ⟨event, there⟩ := Option.isSome_iff_exists.mp first
      rw [List.map_cons, List.filterMap_cons_some there, List.map_cons, there, ih rest]
  refine found _ fun place noted ↦ ?_
  obtain ⟨event, stands, _⟩ := (log.mem_positions_of target place).mp noted
  rw [← getElem?_toList, stands]
  rfl

/-! ### Looking up and scanning -/

/-- The log holds these events, and finds by places what a scan of them finds. -/
structure Scans (log : EventLog) (events : List Event) : Prop where
  toList : log.toList = events
  /-- The places that are noted for an object are those of the events with this target. -/
  places : ∀ target place, place ∈ log.positions.of target ↔
    ∃ event, events[place]? = some event ∧ event.target = target
  descending : ∀ target, (log.positions.of target).Pairwise (· > ·)
  /-- Every place that is noted is one of the log. -/
  inBounds : ∀ target, ∀ place ∈ log.positions.of target, place < log.size
  /-- A look at the places of an object finds an event each time. -/
  found : ∀ target,
    (log.positions.of target).map (log.entries[·]?) = (log.forTarget target).map some
  forTarget : ∀ target, log.forTarget target = (events.filter (·.target = target)).reverse
  latest : ∀ target, log.latest? target = (log.forTarget target).head?
  latest_none : ∀ target, log.latest? target = none ↔ ∀ event ∈ events, event.target ≠ target

/-- Every log finds by places what a scan of its list finds. -/
theorem scans_toList (log : EventLog) : log.Scans log.toList where
  toList := rfl
  places := log.mem_positions_of
  descending := log.descending_positions_of
  inBounds target place noted := by
    obtain ⟨event, stands, _⟩ := (log.mem_positions_of target place).mp noted
    rw [← length_toList]
    exact (List.getElem?_eq_some_iff.mp stands).1
  found := log.map_positions_of
  forTarget := log.forTarget_eq
  latest := log.latest?_eq
  latest_none target := by
    rw [latest?_eq, forTarget_eq, List.head?_reverse, List.getLast?_eq_none_iff,
      List.filter_eq_nil_iff]
    simp only [decide_eq_true_eq, ne_eq]

/-- A log that is made from a list, on which events have then been recorded one after the other,
holds them all, and finds by places what a scan of them finds. It never changes at the places that
it has, and it is what is made anew from its list. -/
theorem recordAll_scans (events recorded : List Event) :
    let log := (ofList events).recordAll recorded
    log.Scans (events ++ recorded) ∧
      log.size = events.length + recorded.length ∧
      (∀ later place, place < log.size →
        (log.recordAll later).entries[place]? = log.entries[place]?) ∧
      ofList log.toList = log := by
  intro log
  have all : log.toList = events ++ recorded := toList_recordAll ..
  refine ⟨all ▸ log.scans_toList, ?_, fun later place within ↦ ?_, log.ofList_toList⟩
  · rw [← length_toList, all, List.length_append]
  · rw [← length_toList] at within
    rw [← getElem?_toList, ← getElem?_toList, toList_recordAll, List.getElem?_append_left within]

end EventLog

end Tagging
