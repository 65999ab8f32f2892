import Tagging.Access.Check

/-!
# An index as a set of grants

An index is known by the grants that it contains: two indexes that contain the same grants are
equal. Each change is told by what it does to that set, and so are the two questions that are asked
of an index, who may exercise a permission and what a principal may do.
-/

namespace Tagging.GrantIndex

open Std (ExtTreeMap ExtTreeSet)

/-! ### Rights on single objects -/

/-- Replacing the rights on one object leaves those on all others. -/
theorem rights_setRights (index : GrantIndex) (rights : ExtTreeSet Right)
    (object other : Option Object) :
    (index.setRights rights object).rights other =
      if object = other then rights else index.rights other := by
  cases object with
  | none => cases other <;> rfl
  | some object =>
    cases other with
    | none => simp only [setRights]; split <;> rfl
    | some other =>
      simp only [setRights, Option.some.injEq]
      split
      · next empty =>
        simp only [GrantIndex.rights, ExtTreeMap.getD_erase, Std.LawfulEqOrd.compare_eq_iff_eq]
        split
        · exact empty.symm
        · rfl
      · simp only [GrantIndex.rights, ExtTreeMap.getD_insert, Std.LawfulEqOrd.compare_eq_iff_eq]

/-- Two indexes with the same rights everywhere are equal. -/
theorem eq_of_rights {a b : GrantIndex} (same : ∀ object, a.rights object = b.rights object) :
    a = b := by
  have everywhere : a.everywhere = b.everywhere := same none
  have byObject : a.byObject = b.byObject := by
    apply ExtTreeMap.ext_getElem?
    intro object
    have rights := same (some object)
    simp only [GrantIndex.rights, ExtTreeMap.getD_eq_getD_getElem?] at rights
    have left := a.no_empty_entry object
    have right := b.no_empty_entry object
    cases ha : a.byObject[object]? <;> cases hb : b.byObject[object]? <;> simp_all
  cases a; cases b; cases everywhere; cases byObject; rfl

/-! ### Containment -/

/-- A grant is contained when its right is given on its object. -/
theorem contains_eq (index : GrantIndex) (holder : Holder) (permission : Permission)
    (object : Option Object) :
    index.contains ⟨holder, permission, object⟩ =
      (index.rights object).contains ⟨holder, permission⟩ := rfl

/-- No grant is in force without any. -/
@[simp] theorem contains_empty (grant : Grant) : (∅ : GrantIndex).contains grant = false := by
  have none (object : Option Object) : (∅ : GrantIndex).rights object = ∅ := by
    cases object with
    | none => rfl
    | some object => exact ExtTreeMap.getD_empty
  rw [contains, none, ExtTreeSet.contains_empty]

/-- Two indexes that contain the same grants are equal. -/
theorem eq_of_contains {a b : GrantIndex} (same : ∀ grant, a.contains grant = b.contains grant) :
    a = b := by
  apply eq_of_rights
  intro object
  apply ExtTreeSet.ext_contains
  intro right
  exact same (.ofRight object right)

/-- A grant is its right and its object. -/
theorem grant_eq_iff (a b : Grant) : a = b ↔ a.object = b.object ∧ a.right = b.right := by
  constructor
  · rintro rfl
    exact ⟨rfl, rfl⟩
  · rintro ⟨object, right⟩
    exact Grant.eq_of_right right object

/-- Adding a grant adds that grant only. -/
theorem contains_insert (index : GrantIndex) (grant other : Grant) :
    (index.insert grant).2.contains other ↔ grant = other ∨ index.contains other := by
  simp only [insert, contains, rights_setRights, grant_eq_iff]
  by_cases object : grant.object = other.object
  · simp [object]
  · simp [object]

/-- Taking a grant away takes that grant only. -/
theorem contains_erase (index : GrantIndex) (grant other : Grant) :
    (index.erase grant).2.contains other ↔ grant ≠ other ∧ index.contains other := by
  simp only [erase, contains, rights_setRights, ne_eq, grant_eq_iff]
  by_cases object : grant.object = other.object
  · simp [object]
  · simp [object]

/-- Purging an object takes the grants on it, and no others. -/
theorem contains_purge (index : GrantIndex) (object : Object) (grant : Grant) :
    (index.purge object).2.contains grant ↔
      grant.object ≠ some object ∧ index.contains grant := by
  simp only [purge, contains, rights_setRights]
  by_cases same : grant.object = some object
  · simp [same]
  · simp [same, Ne.symm same]

/-- Purging an object twice is purging it once. -/
theorem purge_purge (index : GrantIndex) (object : Object) :
    ((index.purge object).2.purge object).2 = (index.purge object).2 := by
  apply eq_of_contains
  intro grant
  rw [Bool.eq_iff_iff, contains_purge, contains_purge, and_self_left]

/-- Taking away a grant that is not there changes nothing. -/
theorem erase_of_not_contains {index : GrantIndex} {grant : Grant}
    (absent : ¬ index.contains grant) : (index.erase grant).2 = index := by
  apply eq_of_contains
  intro other
  rw [Bool.eq_iff_iff, contains_erase]
  constructor
  · exact And.right
  · intro present
    refine ⟨?_, present⟩
    rintro rfl
    exact absent present

/-! ### Lists of grants -/

/-- The grants that are listed for an object are those on it. -/
theorem mem_forObject (index : GrantIndex) (object : Option Object) (grant : Grant) :
    grant ∈ index.forObject object ↔ index.contains grant ∧ grant.object = object := by
  simp only [forObject, List.mem_mergeSort, List.mem_map, ExtTreeSet.mem_toList, contains,
    ExtTreeSet.contains_iff_mem]
  constructor
  · rintro ⟨right, member, rfl⟩
    exact ⟨member, rfl⟩
  · rintro ⟨member, rfl⟩
    exact ⟨grant.right, member, rfl⟩

/-- An object has an entry if there is a grant on it. -/
theorem mem_byObject (index : GrantIndex) (object : Object) :
    object ∈ index.byObject ↔ ∃ grant, index.contains grant ∧ grant.object = some object := by
  have given : (∃ grant, index.contains grant ∧ grant.object = some object) ↔
      ∃ right, (index.rights (some object)).contains right := by
    constructor
    · rintro ⟨grant, contained, on⟩
      rw [contains, on] at contained
      exact ⟨grant.right, contained⟩
    · rintro ⟨right, contained⟩
      exact ⟨.ofRight (some object) right, contained, rfl⟩
  rw [given, ExtTreeMap.mem_iff_isSome_getElem?, rights, ExtTreeMap.getD_eq_getD_getElem?]
  cases entry : index.byObject[object]? with
  | none => simp
  | some rights =>
    refine iff_of_true rfl (Classical.not_forall_not.mp fun bare ↦ ?_)
    have empty : rights = ∅ := by
      apply ExtTreeSet.ext_contains
      intro right
      rw [ExtTreeSet.contains_empty]
      exact Bool.eq_false_iff.mpr (bare right)
    exact index.no_empty_entry object (empty ▸ entry)

/-- The list of an index names the grants that the index contains. -/
theorem mem_toList (index : GrantIndex) (grant : Grant) :
    grant ∈ index.toList ↔ index.contains grant := by
  simp only [toList, objects, List.mem_append, List.mem_flatMap, List.mem_mergeSort,
    ExtTreeMap.mem_keys, mem_forObject]
  constructor
  · rintro (⟨given, _⟩ | ⟨_, _, given, _⟩) <;> exact given
  · intro given
    cases on : grant.object with
    | none => exact .inl ⟨given, rfl⟩
    | some object =>
      exact .inr ⟨object, (index.mem_byObject object).mpr ⟨grant, given, on⟩, given, rfl⟩

/-- Adding the grants of a list keeps those that are there. -/
theorem contains_foldl_insert (grants : List Grant) (index : GrantIndex) (grant : Grant) :
    (grants.foldl (fun index grant ↦ (index.insert grant).2) index).contains grant ↔
      grant ∈ grants ∨ index.contains grant := by
  induction grants generalizing index with
  | nil => simp
  | cons first grants ih =>
    rw [List.foldl_cons, ih, contains_insert, List.mem_cons, eq_comm (a := first), or_assoc,
      or_left_comm]

/-- The index of a list contains the grants of the list. -/
theorem contains_ofList (grants : List Grant) (grant : Grant) :
    (ofList grants).contains grant ↔ grant ∈ grants := by
  rw [ofList, contains_foldl_insert]
  simp

/-- An index is the index of its list. -/
theorem ofList_toList (index : GrantIndex) : ofList index.toList = index := by
  apply eq_of_contains
  intro grant
  rw [Bool.eq_iff_iff, contains_ofList, mem_toList]

/-! ### What a principal may do -/

/-- The holder was given the permission on the object, or on all objects. -/
def Gives (index : GrantIndex) (holder : Holder) (permission : Permission)
    (object : Option Object) : Prop :=
  index.contains ⟨holder, permission, none⟩ ∨ index.contains ⟨holder, permission, object⟩

/-- A principal may do what was given to the user or to one of the roles; a superuser may do
everything. -/
theorem allows_iff (index : GrantIndex) (principal : Principal) (permission : Permission)
    (object : Option Object) :
    index.allows principal permission object ↔
      principal.superuser ∨ ∃ holder ∈ principal.holders, index.Gives holder permission object := by
  cases object with
  | none => simp [allows, holds, Gives, contains_eq, rights]
  | some object =>
    simp only [allows, holds, Gives, contains_eq, rights, Option.any_some, Bool.or_eq_true,
      List.any_eq_true, or_assoc, and_or_left, exists_or]

/-- The holders who may exercise a permission on an object are those to whom it was given there or
on all objects. -/
theorem mem_holdersOf (index : GrantIndex) (permission : Permission) (object : Object)
    (holder : Holder) :
    holder ∈ index.holdersOf permission object ↔ index.Gives holder permission (some object) := by
  simp only [holdersOf, Gives, contains_eq, ← ExtTreeSet.contains_iff_mem,
    ExtTreeSet.contains_ofList, List.contains_iff_mem, List.mem_map, List.mem_filter,
    List.mem_append, ExtTreeSet.mem_toList, decide_eq_true_eq]
  constructor
  · rintro ⟨right, ⟨given, rfl⟩, rfl⟩
    exact given
  · intro given
    exact ⟨⟨holder, permission⟩, ⟨given, rfl⟩, rfl⟩

end Tagging.GrantIndex
