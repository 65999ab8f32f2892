import Mathlib.Data.Finset.Card
import Tagging.Order
import Tagging.Proofs.Access.Containment
import Tagging.Proofs.Trace

/-!
# The index stands for a set of grants

An index keeps grants in one set for all objects and one for each object that has any. Whoever uses
it may think of a plain set of grants instead: each change tells the same and does the same to the
set, and every question about the index is answered from the set alone.
-/

namespace Tagging

open Std (ExtTreeMap ExtTreeSet)

/-- Grants are ordered by object, those on all objects first, and then by right. -/
def Grant.order : Grant → Grant → Ordering :=
  compareLex (compareOn object) (compareOn right)

instance : Std.TransCmp Grant.order :=
  inferInstanceAs (Std.TransCmp (compareLex (compareOn Grant.object) (compareOn Grant.right)))

private theorem Grant.order_eq_compare {a b : Grant} (same : a.object = b.object) :
    order a b = compare a b := by
  change (compare a.object b.object).then (compare a.right b.right) =
    (compare a.right b.right).then (compare a.object b.object)
  have equal : compare b.object b.object = .eq := Std.ReflCmp.compare_self
  rw [same, equal, Ordering.then_eq]
  rfl

private theorem Grant.order_of_object {a b : Grant} (less : compare a.object b.object = .lt) :
    order a b = .lt := by
  simp [order, compareLex, compareOn, less]

/-- The holders of a principal are the user and the roles. -/
theorem Principal.mem_holders (principal : Principal) (holder : Holder) :
    holder ∈ principal.holders ↔
      holder = .user principal.user ∨ ∃ role ∈ principal.roles, holder = .role role := by
  simp [Principal.holders, eq_comm]

namespace GrantIndex

/-! ### The list of an index -/

/-- The grants on an object are listed in ascending order. -/
theorem ascending_forObject (index : GrantIndex) (object : Option Object) :
    (index.forObject object).Pairwise (Grant.order · · = .lt) := by
  have distinct : ((index.rights object).toList.map (Grant.ofRight object)).Pairwise
      (compare · · ≠ .eq) := by
    rw [List.pairwise_map]
    refine (index.rights object).distinct_toList.imp fun {a b} differ same ↦ differ ?_
    have grants := Std.LawfulEqOrd.compare_eq_iff_eq.mp same
    exact Std.LawfulEqOrd.compare_eq_iff_eq.mpr (congrArg Grant.right grants)
  have sorted : (index.forObject object).Pairwise (compare · · = .lt) :=
    ascending_mergeSort distinct
  refine sorted.imp_of_mem fun {a b} first second less ↦ ?_
  have on := ((index.mem_forObject object a).mp first).2
  have same := on.trans ((index.mem_forObject object b).mp second).2.symm
  rwa [Grant.order_eq_compare same]

private theorem ascending_objects (index : GrantIndex) :
    index.objects.Pairwise (compare · · = .lt) :=
  ascending_mergeSort index.byObject.distinct_keys

/-- The list of an index is in ascending order. -/
theorem ascending_toList (index : GrantIndex) :
    index.toList.Pairwise (Grant.order · · = .lt) := by
  have object {object : Option Object} {grant : Grant}
      (member : grant ∈ index.forObject object) : grant.object = object :=
    ((index.mem_forObject object grant).mp member).2
  refine List.pairwise_append.mpr ⟨ascending_forObject .., ?_, fun a first b second ↦ ?_⟩
  · refine List.pairwise_flatMap.mpr ⟨fun entry _ ↦ ascending_forObject .., ?_⟩
    refine index.ascending_objects.imp fun {one two} less a first b second ↦ ?_
    apply Grant.order_of_object
    rw [object first, object second]
    exact less
  · obtain ⟨entry, _, listed⟩ := List.mem_flatMap.mp second
    apply Grant.order_of_object
    rw [object first, object listed]
    rfl

private theorem length_forObject (index : GrantIndex) (object : Option Object) :
    (index.forObject object).length = (index.rights object).size := by
  rw [forObject, List.length_mergeSort, List.length_map, ExtTreeSet.length_toList]

/-- The size of an index is the length of its list. -/
theorem length_toList (index : GrantIndex) : index.toList.length = index.size := by
  have sums (entries : List (Object × ExtTreeSet Right)) (start : Nat) :
      entries.foldl (fun n entry ↦ n + entry.2.size) start =
        start + (entries.map fun entry ↦ entry.2.size).sum := by
    induction entries generalizing start with
    | nil => rfl
    | cons entry entries ih => rw [List.foldl_cons, ih, List.map_cons, List.sum_cons, Nat.add_assoc]
  have sizes : (index.byObject.toList.map fun entry ↦ entry.2.size) =
      index.byObject.keys.map fun object ↦ (index.forObject (some object)).length := by
    rw [← ExtTreeMap.map_fst_toList_eq_keys, List.map_map]
    refine List.map_congr_left fun entry member ↦ ?_
    have found := ExtTreeMap.mem_toList_iff_getElem?_eq_some.mp member
    rw [Function.comp, length_forObject, rights, ExtTreeMap.getD_eq_getD_getElem?, found]
    rfl
  have unsorted : (index.objects.flatMap fun object ↦ index.forObject (some object)).length =
      (index.byObject.keys.flatMap fun object ↦ index.forObject (some object)).length :=
    ((List.mergeSort_perm ..).flatMap_right _).length_eq
  rw [toList, List.length_append, unsorted, List.length_flatMap, ← sizes, size, sums,
    length_forObject]
  rfl

/-! ### The set of an index -/

/-- The grants that an index contains. -/
def toFinset (index : GrantIndex) : Finset Grant :=
  index.toList.toFinset

/-- The set of an index holds what the index contains. -/
@[simp] theorem mem_toFinset {index : GrantIndex} {grant : Grant} :
    grant ∈ index.toFinset ↔ index.contains grant := by
  rw [toFinset, List.mem_toFinset, mem_toList]

/-- The set of the index of a list is the set of the list. -/
theorem toFinset_ofList (grants : List Grant) : (ofList grants).toFinset = grants.toFinset := by
  ext grant
  rw [mem_toFinset, contains_ofList, List.mem_toFinset]

private theorem size_rights (index : GrantIndex) (object : Option Object) :
    (index.rights object).size = (index.toFinset.filter (·.object = object)).card := by
  have listed : (index.forObject object).toFinset =
      index.toFinset.filter (·.object = object) := by
    ext grant
    rw [List.mem_toFinset, Finset.mem_filter, mem_toFinset, mem_forObject]
  have distinct := nodup_of_ascending (index.ascending_forObject object)
  rw [← listed, List.toFinset_card_of_nodup distinct, length_forObject]

/-! ### What is asked of an index -/

/-- All that is asked of an index is answered from a set of grants, and the index has an entry for
those objects only that a grant is on. -/
structure StandsFor (index : GrantIndex) (grants : Finset Grant) : Prop where
  size : index.size = grants.card
  ascending : ∀ object, (index.forObject object).Pairwise (Grant.order · · = .lt)
  mem_forObject : ∀ object grant,
    grant ∈ index.forObject object ↔ grant ∈ grants ∧ grant.object = object
  mem_holdersOf : ∀ permission object holder, holder ∈ index.holdersOf permission object ↔
    ⟨holder, permission, none⟩ ∈ grants ∨ ⟨holder, permission, some object⟩ ∈ grants
  allows : ∀ principal permission object, index.allows principal permission object ↔
    principal.superuser ∨ ∃ holder : Holder,
      (holder = .user principal.user ∨ ∃ role ∈ principal.roles, holder = .role role) ∧
      (⟨holder, permission, none⟩ ∈ grants ∨
        object.isSome ∧ ⟨holder, permission, object⟩ ∈ grants)
  entry : ∀ object, object ∈ index.byObject ↔ ∃ grant ∈ grants, grant.object = some object

/-- An index stands for its set. -/
theorem standsFor_toFinset (index : GrantIndex) : index.StandsFor index.toFinset where
  size := by
    rw [toFinset, List.toFinset_card_of_nodup (nodup_of_ascending index.ascending_toList),
      length_toList]
  ascending := index.ascending_forObject
  mem_forObject object grant := by
    rw [GrantIndex.mem_forObject, mem_toFinset]
  mem_holdersOf permission object holder := by
    simp only [GrantIndex.mem_holdersOf, Gives, mem_toFinset]
  allows principal permission object := by
    simp only [allows_iff, Principal.mem_holders, Gives, mem_toFinset]
    cases object <;> simp
  entry object := by
    simp only [mem_byObject, mem_toFinset]

/-! ### Changes -/

/-- A change to the grants in force. -/
inductive Edit where
  | insert (grant : Grant)
  | erase (grant : Grant)
  | purge (object : Object)

namespace Edit

/-- What a change to the grants tells: whether it has changed anything, or how many grants went. -/
inductive Answer where
  | changed (yes : Bool)
  | purged (number : Nat)
  deriving DecidableEq

/-- Makes a change to an index. -/
def onIndex : Edit → GrantIndex → Answer × GrantIndex
  | .insert grant, index => (.changed (index.insert grant).1, (index.insert grant).2)
  | .erase grant, index => (.changed (index.erase grant).1, (index.erase grant).2)
  | .purge object, index => (.purged (index.purge object).1, (index.purge object).2)

/-- Makes a change to a set of grants. -/
def onSet : Edit → Finset Grant → Answer × Finset Grant
  | .insert grant, grants => (.changed (grant ∉ grants), Insert.insert grant grants)
  | .erase grant, grants => (.changed (grant ∈ grants), grants.erase grant)
  | .purge object, grants =>
    (.purged (grants.filter (·.object = some object)).card,
      grants.filter (·.object ≠ some object))

/-- A change tells the same and does the same to an index and to its set. -/
theorem commutes (edit : Edit) (index : GrantIndex) :
    Commutes toFinset (fun _ ↦ True) onIndex onSet edit index := by
  refine ⟨?_, ?_, trivial⟩
  · cases edit with
    | insert grant => simp [onIndex, onSet, GrantIndex.insert]
    | erase grant => simp [onIndex, onSet, GrantIndex.erase]
    | purge object => simp [onIndex, onSet, GrantIndex.purge, size_rights]
  · ext other
    cases edit with
    | insert grant =>
      rw [onIndex, onSet, mem_toFinset, contains_insert, Finset.mem_insert, mem_toFinset,
        eq_comm (a := grant)]
    | erase grant =>
      rw [onIndex, onSet, mem_toFinset, contains_erase, Finset.mem_erase, mem_toFinset,
        ne_comm (a := grant)]
    | purge object =>
      rw [onIndex, onSet, mem_toFinset, contains_purge, Finset.mem_filter, mem_toFinset, and_comm]

end Edit

/-- Changes that are made one after the other to the index of a list tell the same as if they were
made to the set of the list, and the index that they leave stands for the set that they leave. -/
theorem trace_standsFor (grants : List Grant) (edits : List Edit) :
    let made := trace Edit.onIndex (ofList grants) edits
    let model := trace Edit.onSet grants.toFinset edits
    made.1 = model.1 ∧ made.2.StandsFor model.2 := by
  intro made model
  have start : (fun _ : GrantIndex ↦ True) (ofList grants) := trivial
  obtain ⟨answers, view, _⟩ := trace_view (fun edit index _ ↦ Edit.commutes edit index) start edits
  rw [toFinset_ofList] at answers view
  refine ⟨answers, ?_⟩
  have stands := made.2.standsFor_toFinset
  rwa [view] at stands

end GrantIndex

end Tagging
