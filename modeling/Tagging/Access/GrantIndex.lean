import Tagging.Access.Grant

/-!
# The grants in force

The rights given on all objects, and those given on each object by itself. An object without rights
of its own has no entry, so two indexes with the same grants are equal.
-/

namespace Tagging

open Std (ExtTreeMap ExtTreeSet)

/-- A set of grants, sorted by the object that they are on. -/
structure GrantIndex where
  /-- The rights given on all objects. -/
  everywhere : ExtTreeSet Right
  /-- The rights given on single objects. -/
  byObject : ExtTreeMap Object (ExtTreeSet Right)
  no_empty_entry : ∀ object : Object, byObject[object]? ≠ some ∅

namespace GrantIndex

/-- No grants. -/
def empty : GrantIndex := ⟨∅, ∅, by simp⟩

instance : EmptyCollection GrantIndex := ⟨empty⟩

instance : Inhabited GrantIndex := ⟨empty⟩

/-- The rights given on one object, or on all. -/
def rights (index : GrantIndex) : Option Object → ExtTreeSet Right
  | none => index.everywhere
  | some object => index.byObject.getD object ∅

/-- Replaces the rights given on one object, or on all. -/
def setRights (index : GrantIndex) (rights : ExtTreeSet Right) : Option Object → GrantIndex
  | none => { index with everywhere := rights }
  | some object =>
    if h : rights = ∅ then
      { index with
        byObject := index.byObject.erase object
        no_empty_entry := by
          intro other
          rw [ExtTreeMap.getElem?_erase]
          split
          · simp
          · exact index.no_empty_entry other }
    else
      { index with
        byObject := index.byObject.insert object rights
        no_empty_entry := by
          intro other
          rw [ExtTreeMap.getElem?_insert]
          split
          · simpa using h
          · exact index.no_empty_entry other }

/-- The grant is in force. -/
def contains (index : GrantIndex) (grant : Grant) : Bool :=
  (index.rights grant.object).contains grant.right

/-- Adds a grant. Tells whether it was not in force before. -/
def insert (index : GrantIndex) (grant : Grant) : Bool × GrantIndex :=
  (!index.contains grant,
    index.setRights ((index.rights grant.object).insert grant.right) grant.object)

/-- Takes a grant away. Tells whether it was in force. -/
def erase (index : GrantIndex) (grant : Grant) : Bool × GrantIndex :=
  (index.contains grant,
    index.setRights ((index.rights grant.object).erase grant.right) grant.object)

/-- Takes every grant on an object away. Tells how many there were. -/
def purge (index : GrantIndex) (object : Object) : Nat × GrantIndex :=
  ((index.rights (some object)).size, index.setRights ∅ (some object))

/-- The number of grants. -/
def size (index : GrantIndex) : Nat :=
  index.byObject.toList.foldl (fun n entry ↦ n + entry.2.size) index.everywhere.size

/-- The grants on one object, or on all, in ascending order. -/
def forObject (index : GrantIndex) (object : Option Object) : List Grant :=
  ((index.rights object).toList.map (Grant.ofRight object)).mergeSort
    fun a b ↦ (compare a b).isLE

/-- The objects that there are grants on, in ascending order. -/
def objects (index : GrantIndex) : List Object :=
  index.byObject.keys.mergeSort fun a b ↦ (compare a b).isLE

/-- The grants in force: first those on all objects, then object by object. -/
def toList (index : GrantIndex) : List Grant :=
  index.forObject none ++ index.objects.flatMap fun object ↦ index.forObject (some object)

/-- The index of the grants in a list. -/
def ofList (grants : List Grant) : GrantIndex :=
  grants.foldl (fun index grant ↦ (index.insert grant).2) ∅

end GrantIndex

end Tagging
