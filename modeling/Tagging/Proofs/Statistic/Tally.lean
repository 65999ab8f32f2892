import Mathlib.Algebra.BigOperators.Group.List.Lemmas
import Mathlib.Data.List.Induction
import Tagging.Proofs.Audit.Recording
import Tagging.Proofs.Catalog.Listing
import Tagging.Proofs.Time.Timestamp
import Tagging.Service.Statistic

/-!
# Figures by group

Some figures count records by a text that each of them has: the month in which it was created, or
its verb. They divide the records up: each is counted once, at the point of its text.
-/

namespace Tagging

open Std (ExtTreeMap)

namespace Statistic

/-! ### Counting texts -/

private theorem occurrences_concat (texts : List String) (text : String) :
    occurrences (texts ++ [text]) =
      (occurrences texts).insert text ((occurrences texts).getD text 0 + 1) := by
  rw [occurrences, List.foldl_append]
  rfl

/-- The texts that occur are counted. -/
theorem mem_occurrences (texts : List String) (text : String) :
    text ∈ occurrences texts ↔ text ∈ texts := by
  induction texts using List.reverseRecOn with
  | nil => simp [occurrences]
  | append_singleton texts last ih =>
    rw [occurrences_concat, ExtTreeMap.mem_insert, Std.LawfulEqOrd.compare_eq_iff_eq, ih,
      List.mem_append, List.mem_singleton, or_comm, eq_comm]

/-- Each text is counted as often as it occurs. -/
theorem getD_occurrences (texts : List String) (text : String) :
    (occurrences texts).getD text 0 = texts.count text := by
  induction texts using List.reverseRecOn with
  | nil => simp [occurrences]
  | append_singleton texts last ih =>
    simp only [occurrences_concat, ExtTreeMap.getD_insert, Std.LawfulEqOrd.compare_eq_iff_eq,
      List.count_append, List.count_singleton]
    by_cases same : last = text
    · subst same
      simp [ih]
    · simp [same, ih]

/-- A tally has a point for each text that occurs, with the number of its occurrences. -/
theorem mem_tally (texts : List String) (point : Point) :
    point ∈ tally texts ↔ point.label ∈ texts ∧ point.value = texts.count point.label := by
  obtain ⟨label, value⟩ := point
  have listed : ⟨label, value⟩ ∈ tally texts ↔ (label, value) ∈ (occurrences texts).toList := by
    simp [tally]
  rw [listed, ExtTreeMap.mem_toList_iff_getElem?_eq_some]
  by_cases occurs : label ∈ texts
  · have counted : (occurrences texts)[label]? = some ((occurrences texts).getD label 0) :=
      ExtTreeMap.getElem?_eq_some_getD ((mem_occurrences texts label).mpr occurs)
    rw [counted, getD_occurrences]
    simp [occurs, eq_comm]
  · have absent := ExtTreeMap.getElem?_eq_none (mt (mem_occurrences texts label).mp occurs)
    simp [absent, occurs]

/-- The points of a tally are in the order of their texts. -/
theorem ascending_tally (texts : List String) :
    (tally texts).Pairwise (·.label < ·.label) := by
  have ordered : (occurrences texts).toList.Pairwise (fun a b ↦ compare a.1 b.1 = .lt) :=
    ExtTreeMap.ordered_keys_toList
  rw [tally, List.pairwise_map]
  exact ordered.imp fun less ↦ compareOfLessAndEq_eq_lt.mp less

/-- The values of a tally add up to the number of texts. -/
theorem sum_tally (texts : List String) : ((tally texts).map (·.value)).sum = texts.length := by
  have nodup : ((tally texts).map (·.label)).Nodup :=
    List.pairwise_map.mpr ((ascending_tally texts).imp String.ne_of_lt)
  have same : ((tally texts).map (·.label)).Perm texts.dedup := by
    refine (List.perm_ext_iff_of_nodup nodup texts.nodup_dedup).mpr fun text ↦ ?_
    rw [List.mem_dedup, List.mem_map]
    refine ⟨?_, fun occurs ↦ ⟨⟨text, texts.count text⟩, (mem_tally texts _).mpr ⟨occurs, rfl⟩, rfl⟩⟩
    rintro ⟨point, listed, rfl⟩
    exact ((mem_tally texts point).mp listed).1
  calc ((tally texts).map (·.value)).sum
      = (((tally texts).map (·.label)).map fun text ↦ texts.count text).sum := by
        rw [List.map_map]
        exact congrArg List.sum (List.map_congr_left fun point listed ↦
          ((mem_tally texts point).mp listed).2)
    _ = (texts.dedup.map fun text ↦ texts.count text).sum := (same.map _).sum_eq
    _ = texts.length := by simpa using texts.sum_map_count_dedup_eq_length

/-- The value at the point with a given label; zero if there is none. -/
def valueAt (points : List Point) (label : String) : Nat :=
  (points.find? (·.label = label)).elim 0 (·.value)

/-- A tally tells how often a text occurs, also if it does not occur. -/
theorem valueAt_tally (texts : List String) (label : String) :
    valueAt (tally texts) label = texts.count label := by
  rw [valueAt]
  cases found : (tally texts).find? (·.label = label) with
  | none =>
    refine (List.count_eq_zero.mpr fun occurs ↦ ?_).symm
    have none_listed := List.find?_eq_none.mp found
    exact none_listed ⟨label, texts.count label⟩ ((mem_tally texts _).mpr ⟨occurs, rfl⟩) (by simp)
  | some point =>
    have listed := (mem_tally texts point).mp (List.mem_of_find?_eq_some found)
    have own : point.label = label := by simpa using List.find?_some found
    rw [← own]
    exact listed.2

/-! ### Records in groups -/

/-- The points divide records up by a text that each of them has: in the order of the texts, each
point counts those that have its text, at least one, and no record is left out. -/
structure Divides {α : Type} (records : List α) (text : α → String) (points : List Point) :
    Prop where
  ascending : points.Pairwise (·.label < ·.label)
  distinct : (points.map (·.label)).Nodup
  positive : ∀ point ∈ points, 0 < point.value
  counts : ∀ point ∈ points, point.value = records.countP (text · = point.label)
  covers : ∀ record ∈ records, ∃ point ∈ points, point.label = text record
  whole : (points.map (·.value)).sum = records.length

/-- The points are in the order of time: what is counted at one has come on an earlier day than what
is counted at a later one. -/
def Chronological {α : Type} (records : List α) (text : α → String) (time : α → Instant)
    (points : List Point) : Prop :=
  points.Pairwise fun point later ↦ ∀ record ∈ records, ∀ other ∈ records,
    text record = point.label → text other = later.label → (time record).day < (time other).day

/-- A tally of the texts of some records divides the records up, in whatever order they are. -/
theorem divides_tally {α : Type} {records listed : List α} (same : listed.Perm records)
    (text : α → String) : Divides records text (tally (listed.map text)) where
  ascending := ascending_tally _
  distinct := List.pairwise_map.mpr ((ascending_tally _).imp String.ne_of_lt)
  positive point counted := by
    obtain ⟨occurs, value⟩ := (mem_tally _ point).mp counted
    rw [value]
    exact List.count_pos_iff.mpr occurs
  counts point counted := by
    rw [((mem_tally _ point).mp counted).2, List.count, List.countP_map, same.countP_eq]
    exact List.countP_congr fun record _ ↦ by simp
  covers record member := by
    have occurs : text record ∈ listed.map text := List.mem_map_of_mem (same.mem_iff.mpr member)
    exact ⟨⟨text record, (listed.map text).count (text record)⟩,
      (mem_tally _ _).mpr ⟨occurs, rfl⟩, rfl⟩
  whole := by rw [sum_tally, List.length_map, same.length_eq]

/-- A tally by months is in the order of time, if all years are plain. -/
theorem chronological_tally {α : Type} {records : List α} {time : α → Instant}
    (plain : ∀ record ∈ records, (time record).HasPlainYear) (texts : List String) :
    Chronological records (fun record ↦ Time.month (time record)) time (tally texts) := by
  refine (ascending_tally texts).imp fun less record member other later own ownLater ↦ ?_
  rw [← own, ← ownLater] at less
  exact Time.day_lt_of_month_lt (plain record member) (plain other later) less

end Statistic

open Statistic in
/-- The figures by group divide the records of the state up, and the months are in the order of
time, unless a year has a sign or more than four digits. -/
structure State.CountsGroups (state : State) : Prop where
  tags : Divides state.catalog.tags.values (fun tag ↦ Time.month tag.createdAt)
    (newTagsPerMonth.series state)
  totalTags : totalTags.series state =
    [⟨"tags", ((newTagsPerMonth.series state).map (·.value)).sum⟩]
  chronologicalTags : (∀ tag ∈ state.catalog.tags.values, tag.createdAt.HasPlainYear) →
    Chronological state.catalog.tags.values (fun tag ↦ Time.month tag.createdAt) Tag.createdAt
      (newTagsPerMonth.series state)
  documents : Divides state.catalog.documents.values (fun document ↦ Time.month document.createdAt)
    (newDocumentsPerMonth.series state)
  totalDocuments : totalDocuments.series state =
    [⟨"documents", ((newDocumentsPerMonth.series state).map (·.value)).sum⟩]
  chronologicalDocuments :
    (∀ document ∈ state.catalog.documents.values, document.createdAt.HasPlainYear) →
      Chronological state.catalog.documents.values (fun document ↦ Time.month document.createdAt)
        Document.createdAt (newDocumentsPerMonth.series state)
  events : Divides state.events.toList (·.verb.name) (eventsPerVerb.series state)
  totalEvents : ((eventsPerVerb.series state).map (·.value)).sum = state.events.size

open Statistic in
/-- The figures by group divide the records of any state up. -/
theorem State.countsGroups (state : State) : state.CountsGroups := by
  have listedTags : state.catalog.listTags.Perm state.catalog.tags.values :=
    List.mergeSort_perm ..
  have listedDocuments : state.catalog.listDocuments.Perm state.catalog.documents.values :=
    List.mergeSort_perm ..
  have tags := divides_tally listedTags fun tag ↦ Time.month tag.createdAt
  have documents := divides_tally listedDocuments fun document ↦ Time.month document.createdAt
  have events := divides_tally (List.Perm.refl state.events.toList) (·.verb.name)
  refine ⟨tags, ?_, (chronological_tally · _), documents, ?_, (chronological_tally · _), events,
    events.whole.trans state.events.length_toList⟩
  · have whole := tags.whole
    rw [length_values] at whole
    exact congrArg (fun value ↦ [(⟨"tags", value⟩ : Point)]) whole.symm
  · have whole := documents.whole
    rw [length_values] at whole
    exact congrArg (fun value ↦ [(⟨"documents", value⟩ : Point)]) whole.symm

end Tagging
