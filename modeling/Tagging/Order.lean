import Std.Data.ExtTreeMap
import Std.Data.ExtTreeSet

/-!
# Orders

How values are compared by their keys, and lists that are in strictly ascending order.
-/

namespace Tagging

/-!
## Orders given by keys

The maps and sets of this library are ordered trees that are equal whenever their contents are.
They ask of a comparison that it is transitive and that it calls two keys equal only if they are
the same key. Here is the second fact for comparisons that look at one or two keys of a value.
-/

/-- Comparing by one key is lawful when the key determines the value. -/
theorem lawfulEqCmp_compareOn {α β : Type} [Ord β] [Std.LawfulEqOrd β] (f : α → β)
    (inj : ∀ a b, f a = f b → a = b) : Std.LawfulEqCmp (compareOn f) where
  compare_self := Std.ReflCmp.compare_self
  eq_of_compare h := inj _ _ (Std.LawfulEqCmp.eq_of_compare h)

/-- Comparing by two keys in turn is lawful when together they determine the value. -/
theorem lawfulEqCmp_compareLex {α β γ : Type} [Ord β] [Std.LawfulEqOrd β] [Ord γ]
    [Std.LawfulEqOrd γ] (f : α → β) (g : α → γ)
    (inj : ∀ a b, f a = f b → g a = g b → a = b) :
    Std.LawfulEqCmp (compareLex (compareOn f) (compareOn g)) where
  compare_self := compareLex_eq_eq.mpr
    ⟨Std.ReflCmp.compare_self, Std.ReflCmp.compare_self⟩
  eq_of_compare h :=
    let ⟨hf, hg⟩ := compareLex_eq_eq.mp h
    inj _ _ (Std.LawfulEqCmp.eq_of_compare hf) (Std.LawfulEqCmp.eq_of_compare hg)

/-!
## Ascending lists

A list in strictly ascending order holds each of its items once, and is known by its members.
-/

/-- Items that differ and of which none is before a lesser one are in strictly ascending order. -/
theorem ascending_of_isLE {α : Type} {cmp : α → α → Ordering} {items : List α}
    (sorted : items.Pairwise fun a b ↦ (cmp a b).isLE)
    (distinct : items.Pairwise (cmp · · ≠ .eq)) : items.Pairwise (cmp · · = .lt) := by
  refine (List.pairwise_and_iff.mpr ⟨sorted, distinct⟩).imp ?_
  rintro a b ⟨atMost, differ⟩
  cases order : cmp a b with
  | lt => rfl
  | eq => exact absurd order differ
  | gt =>
    rw [order] at atMost
    cases atMost

section

variable {α : Type} {cmp : α → α → Ordering} [Std.TransCmp cmp]

/-- A strictly ascending list holds each of its items once. -/
theorem nodup_of_ascending {items : List α} (ascending : items.Pairwise (cmp · · = .lt)) :
    items.Nodup := by
  refine ascending.imp ?_
  rintro a _ less rfl
  have equal : cmp a a = .eq := Std.ReflCmp.compare_self
  rw [equal] at less
  cases less

/-- Two strictly ascending lists with the same members are equal. -/
theorem eq_of_ascending {first second : List α} (one : first.Pairwise (cmp · · = .lt))
    (two : second.Pairwise (cmp · · = .lt)) (same : ∀ item, item ∈ first ↔ item ∈ second) :
    first = second := by
  have perm := (List.perm_ext_iff_of_nodup (nodup_of_ascending one)
    (nodup_of_ascending two)).mpr same
  refine perm.eq_of_pairwise ?_ one two
  intro a b _ _ less greater
  exact absurd greater (Std.OrientedCmp.not_lt_of_lt less)

/-- Sorting leaves no item before a lesser one. -/
theorem isLE_mergeSort (items : List α) :
    (items.mergeSort fun a b ↦ (cmp a b).isLE).Pairwise fun a b ↦ (cmp a b).isLE := by
  apply List.pairwise_mergeSort
  · intro a b c
    exact Std.TransCmp.isLE_trans
  · intro a b
    rw [Bool.or_eq_true, ← Std.OrientedCmp.isGE_iff_isLE (a := a)]
    cases cmp a b <;> simp

/-- Sorting sets items that differ in strictly ascending order. -/
theorem ascending_mergeSort {items : List α} (distinct : items.Pairwise (cmp · · ≠ .eq)) :
    (items.mergeSort fun a b ↦ (cmp a b).isLE).Pairwise (cmp · · = .lt) := by
  refine ascending_of_isLE (isLE_mergeSort items) ?_
  refine (List.mergeSort_perm items _).symm.pairwise distinct ?_
  intro a b differ same
  exact differ (Std.OrientedCmp.eq_symm same)

end

end Tagging
