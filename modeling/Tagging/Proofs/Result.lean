import Mathlib.Data.List.Basic

/-!
# Results

What is done in steps succeeds if each of its steps does, and fails with its first step that fails.
-/

namespace Tagging

section

variable {α β ε : Type}

/-- Two steps succeed together if each of them does. -/
theorem bind_eq_ok_iff {first : Except ε α} {next : α → Except ε β} {value : β} :
    first >>= next = .ok value ↔ ∃ found, first = .ok found ∧ next found = .ok value := by
  cases first <;> simp [bind, Except.bind]

/-- If two steps succeed, each of them does. -/
theorem exists_of_bind {first : Except ε α} {next : α → Except ε β} {value : β}
    (done : first >>= next = .ok value) : ∃ found, first = .ok found ∧ next found = .ok value :=
  bind_eq_ok_iff.mp done

/-- A result without its error is the value, if there is one. -/
theorem toOption_eq_some_iff {result : Except ε α} {value : α} :
    result.toOption = some value ↔ result = .ok value := by
  cases result <;> simp [Except.toOption]

/-! ### One after the other -/

variable {step : α → Except ε β}

/-- A step for each item succeeds if all of them do, and yields what each of them yields. -/
theorem mapM_eq_ok_iff_map_eq {items : List α} {values : List β} :
    items.mapM step = .ok values ↔ items.map step = values.map .ok := by
  induction items generalizing values with
  | nil => cases values <;> simp [pure, Except.pure]
  | cons first items ih =>
    simp only [List.mapM_cons, bind_eq_ok_iff, List.map_cons]
    constructor
    · rintro ⟨value, own, rest, others, ⟨⟩⟩
      rw [own, ih.mp others, List.map_cons]
    · intro same
      cases values with
      | nil => cases same
      | cons value rest =>
        obtain ⟨own, others⟩ := List.cons.inj same
        exact ⟨value, own, rest, ih.mpr others, rfl⟩

/-- If not all steps succeed, what is wrong is what is wrong with the first that does not. -/
theorem exists_of_mapM_eq_error {items : List α} {error : ε}
    (failed : items.mapM step = .error error) :
    ∃ before item after, items = before ++ item :: after ∧
      (∀ earlier ∈ before, (step earlier).isOk) ∧ step item = .error error := by
  induction items with
  | nil => cases failed
  | cons first items ih =>
    rw [List.mapM_cons] at failed
    cases head : step first with
    | error fault =>
      rw [head] at failed
      cases failed
      exact ⟨[], first, items, rfl, nofun, head⟩
    | ok value =>
      cases tail : items.mapM step with
      | ok rest =>
        rw [head, tail] at failed
        cases failed
      | error fault =>
        rw [head, tail] at failed
        cases failed
        obtain ⟨before, item, after, rfl, passed, wrong⟩ := ih tail
        refine ⟨first :: before, item, after, rfl, ?_, wrong⟩
        rintro earlier (_ | ⟨_, member⟩)
        · rw [head]
          rfl
        · exact passed earlier member

/-- Steps succeed together exactly if each of them does. -/
theorem isOk_mapM_iff {items : List α} :
    (items.mapM step).isOk ↔ ∀ item ∈ items, (step item).isOk := by
  cases result : items.mapM step with
  | ok values =>
    refine iff_of_true rfl fun item member ↦ ?_
    have yielded : step item ∈ values.map .ok :=
      mapM_eq_ok_iff_map_eq.mp result ▸ List.mem_map_of_mem member
    obtain ⟨value, _, own⟩ := List.mem_map.mp yielded
    rw [← own]
    rfl
  | error error =>
    refine iff_of_false Bool.false_ne_true fun all ↦ ?_
    obtain ⟨before, item, after, rfl, _, wrong⟩ := exists_of_mapM_eq_error result
    have passes := all item (by simp)
    rw [wrong] at passes
    cases passes

end

end Tagging
