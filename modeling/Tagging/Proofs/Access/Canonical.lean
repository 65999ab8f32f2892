import Tagging.Proofs.Access.GrantSet

/-!
# The canonical list of an index

The list of an index is the only ascending list of the grants that are in force: first those on all
objects, then those on each object in turn. It does not tell in which order grants were given and
taken back, and it is what is left of any list of the same grants by sorting it and dropping what is
there twice.
-/

namespace Tagging

/-! ### The order of grants -/

/-- Tags come before documents, and each are in the order of their identifiers. -/
def Object.Precedes (a b : Object) : Prop :=
  a.kind = .tag ∧ b.kind = .document ∨ a.kind = b.kind ∧ a.id.value < b.id.value

/-- Users come before roles, and each are in the order of their names. -/
def Holder.Precedes : Holder → Holder → Prop
  | .user _, .role _ => True
  | .role _, .user _ => False
  | .user a, .user b | .role a, .role b => a < b

/-- What is on all objects comes before what is on one, and objects are in their own order. -/
def Object.optionPrecedes : Option Object → Option Object → Prop
  | none, some _ => True
  | some a, some b => a.Precedes b
  | _, none => False

/-- Grants are in the order of their objects, on the same object in that of their holders, and with
the same holder in that of the registry of permissions. -/
def Grant.Precedes (a b : Grant) : Prop :=
  Object.optionPrecedes a.object b.object ∨ a.object = b.object ∧
    (a.holder.Precedes b.holder ∨ a.holder = b.holder ∧ a.permission.rank < b.permission.rank)

private theorem Object.compare_eq_lt_iff (a b : Object) : compare a b = .lt ↔ a.Precedes b := by
  have kinds : compare a.kind b.kind = .lt ↔ a.kind = .tag ∧ b.kind = .document := by
    cases a.kind <;> cases b.kind <;> decide
  have ids : compare a.id b.id = .lt ↔ a.id.value < b.id.value := Nat.compare_eq_lt
  change (compare a.kind b.kind).then (compare a.id b.id) = .lt ↔ _
  rw [Ordering.then_eq_lt, kinds, ids, Std.LawfulEqOrd.compare_eq_iff_eq]
  rfl

private theorem Holder.compare_eq_lt_iff (a b : Holder) : compare a b = .lt ↔ a.Precedes b := by
  have names : compare a.name b.name = .lt ↔ a.name < b.name := compareOfLessAndEq_eq_lt
  change (compare a.rank b.rank).then (compare a.name b.name) = .lt ↔ _
  rw [Ordering.then_eq_lt, names, Nat.compare_eq_lt, Nat.compare_eq_eq]
  cases a <;> cases b <;> simp [rank, name, Precedes]

namespace Grant

private theorem order_eq_lt_iff (a b : Grant) : order a b = .lt ↔ a.Precedes b := by
  have objects : compare a.object b.object = .lt ↔ Object.optionPrecedes a.object b.object := by
    cases a.object with
    | none => cases b.object <;> simp [Object.optionPrecedes, compare]
    | some object =>
      cases b.object with
      | none => simp [Object.optionPrecedes, compare]
      | some other => exact Object.compare_eq_lt_iff object other
  have permissions : compare a.permission b.permission = .lt ↔
      a.permission.rank < b.permission.rank := Nat.compare_eq_lt
  change (compare a.object b.object).then
    ((compare a.holder b.holder).then (compare a.permission b.permission)) = .lt ↔ _
  rw [Ordering.then_eq_lt, Ordering.then_eq_lt, objects, permissions, Holder.compare_eq_lt_iff,
    Std.LawfulEqOrd.compare_eq_iff_eq, Std.LawfulEqOrd.compare_eq_iff_eq]
  rfl

/-- Which of two grants comes first can be decided. -/
instance : DecidableRel Precedes := fun a b ↦ decidable_of_iff _ (order_eq_lt_iff a b)

/-- Two grants of which neither comes first are the same. -/
instance : Std.LawfulEqCmp order :=
  lawfulEqCmp_compareLex object right fun a b onObject given ↦
    (GrantIndex.grant_eq_iff a b).mpr ⟨onObject, given⟩

/-- The grants of a list in their order, none of them twice. -/
def sorted (grants : List Grant) : List Grant :=
  (grants.mergeSort fun a b ↦ ¬ b.Precedes a).dedup

private theorem mem_sorted (grants : List Grant) (grant : Grant) :
    grant ∈ sorted grants ↔ grant ∈ grants := by
  rw [sorted, List.mem_dedup, List.mem_mergeSort]

private theorem isLE_order (a b : Grant) : decide (¬ b.Precedes a) = (order a b).isLE := by
  have flipped : order b a = .lt ↔ order a b = .gt := Std.OrientedCmp.gt_iff_lt.symm
  simp only [← order_eq_lt_iff, flipped]
  cases order a b <;> decide

private theorem ascending_sorted (grants : List Grant) :
    (sorted grants).Pairwise (order · · = .lt) := by
  simp only [sorted, isLE_order]
  refine ascending_of_isLE ((isLE_mergeSort grants).sublist (List.dedup_sublist _)) ?_
  refine (List.nodup_dedup _).imp fun {a b} differ same ↦ ?_
  exact differ (Std.LawfulEqCmp.eq_of_compare same)

end Grant

/-! ### The list of an index -/

namespace GrantIndex

/-- The list of an index is the one list in order of the grants that are in force. -/
theorem eq_toList_iff (index : GrantIndex) (listing : List Grant) :
    listing = index.toList ↔
      listing.Pairwise Grant.Precedes ∧ ∀ grant, grant ∈ listing ↔ index.contains grant := by
  simp only [← mem_toList]
  constructor
  · rintro rfl
    exact ⟨index.ascending_toList.imp (Grant.order_eq_lt_iff _ _).mp, fun _ ↦ Iff.rfl⟩
  · rintro ⟨inOrder, same⟩
    have ascending := inOrder.imp fun {a b} ↦ (Grant.order_eq_lt_iff a b).mpr
    exact eq_of_ascending ascending index.ascending_toList same

/-- The list of an index names each grant that is in force once, and no other. -/
theorem count_toList (index : GrantIndex) (grant : Grant) :
    index.toList.count grant = if index.contains grant then 1 else 0 := by
  simp only [← mem_toList]
  exact (nodup_of_ascending index.ascending_toList).count

/-- The list of the index of a list is what is left of it by sorting. -/
theorem toList_ofList (grants : List Grant) : (ofList grants).toList = Grant.sorted grants := by
  refine eq_of_ascending (ascending_toList _) (Grant.ascending_sorted grants) fun grant ↦ ?_
  rw [mem_toList, contains_ofList, Grant.mem_sorted]

/-- Indexes with the same list stand for the same set. -/
theorem toList_eq_iff (a b : GrantIndex) : a.toList = b.toList ↔ a.toFinset = b.toFinset := by
  constructor
  · intro same
    rw [toFinset, same, toFinset]
  · intro same
    refine eq_of_ascending a.ascending_toList b.ascending_toList fun grant ↦ ?_
    rw [mem_toList, mem_toList, ← mem_toFinset, same, mem_toFinset]

private theorem toFinset_trace (grants : List Grant) (edits : List Edit) :
    (trace Edit.onIndex (ofList grants) edits).2.toFinset =
      (trace Edit.onSet grants.toFinset edits).2 := by
  have start : (fun _ : GrantIndex ↦ True) (ofList grants) := trivial
  obtain ⟨_, view, _⟩ := trace_view (fun edit index _ ↦ Edit.commutes edit index) start edits
  rw [view, toFinset_ofList]

/-- The list of an index is canonical. It names each grant that is in force once, and is the one
list of them in order. Two histories of changes lead to the same list exactly if they leave the same
set of grants. To make an index of a list and to list it is to sort the list and to drop what is
there twice, and changes nothing when it is done again. -/
theorem toList_canonical (index : GrantIndex) (listing grants others : List Grant)
    (edits otherEdits : List Edit) :
    (∀ grant, index.toList.count grant = if index.contains grant then 1 else 0) ∧
    (listing = index.toList ↔
      listing.Pairwise Grant.Precedes ∧ ∀ grant, grant ∈ listing ↔ index.contains grant) ∧
    ((trace Edit.onIndex (ofList grants) edits).2.toList =
        (trace Edit.onIndex (ofList others) otherEdits).2.toList ↔
      (trace Edit.onSet grants.toFinset edits).2 =
        (trace Edit.onSet others.toFinset otherEdits).2) ∧
    (ofList grants).toList = (grants.mergeSort fun a b ↦ ¬ b.Precedes a).dedup ∧
    (ofList (ofList grants).toList).toList = (ofList grants).toList := by
  refine ⟨index.count_toList, index.eq_toList_iff listing, ?_, toList_ofList grants, ?_⟩
  · rw [toList_eq_iff, toFinset_trace, toFinset_trace]
  · rw [ofList_toList]

end GrantIndex

end Tagging
