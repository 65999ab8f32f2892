import Mathlib.Data.List.GetD
import Tagging.Time.Instant

/-!
# Days and dates

Every day has a date, and the date determines the day. The year is the one whose first day is not
after the day and whose next year begins after it; month and day are found by going through the
months of that year.
-/

namespace Tagging.Time

/-! ### Years -/

/-- A day lies in its year. -/
theorem yearOf_spec (day : Int) :
    daysBeforeYear (yearOf day) ≤ day ∧ day < daysBeforeYear (yearOf day + 1) := by
  unfold yearOf
  dsimp only
  split
  · next before =>
    rw [Int.sub_add_cancel]
    refine ⟨?_, before⟩
    unfold daysBeforeYear at before ⊢
    omega
  · next since =>
    split
    · next after =>
      unfold daysBeforeYear at since after ⊢
      omega
    · next until_ =>
      omega

/-- The days of a year. -/
def yearLength (year : Int) : Nat :=
  (monthLengths year).foldl (· + ·) 0

private theorem yearLength_eq (year : Int) :
    yearLength year = if isLeap year then 366 else 365 := by
  unfold yearLength monthLengths
  split <;> rfl

private theorem daysBeforeYear_succ (year : Int) :
    daysBeforeYear (year + 1) = daysBeforeYear year + yearLength year := by
  rw [yearLength_eq]
  by_cases leap : isLeap year
  · rw [if_pos leap]
    simp only [isLeap, decide_eq_true_eq] at leap
    unfold daysBeforeYear
    omega
  · rw [if_neg leap]
    simp only [isLeap, decide_eq_true_eq] at leap
    unfold daysBeforeYear
    omega

/-- Later years begin later. -/
theorem daysBeforeYear_mono {year other : Int} (le : year ≤ other) :
    daysBeforeYear year ≤ daysBeforeYear other := by
  unfold daysBeforeYear
  omega

/-- A later day lies in no earlier year. -/
theorem yearOf_mono {day other : Int} (le : day ≤ other) : yearOf day ≤ yearOf other := by
  apply Int.not_lt.mp
  intro later
  have before := yearOf_spec day
  have after := yearOf_spec other
  have between := daysBeforeYear_mono (show yearOf other + 1 ≤ yearOf day by omega)
  omega

/-! ### Parts of a length -/

private theorem foldl_add_cons (length : Nat) (lengths : List Nat) :
    (length :: lengths).foldl (· + ·) 0 = length + lengths.foldl (· + ·) 0 := by
  rw [List.foldl_cons, Nat.zero_add, ← Nat.add_zero length, List.foldl_assoc, Nat.add_zero]

/-- An offset lies in the part in which it is located, behind the parts before. -/
theorem locate_spec (lengths : List Nat) (offset : Nat)
    (within : offset < lengths.foldl (· + ·) 0) :
    (locate lengths offset).2 < lengths.getD (locate lengths offset).1 0 ∧
      (lengths.take (locate lengths offset).1).foldl (· + ·) 0 + (locate lengths offset).2 =
        offset := by
  induction lengths generalizing offset with
  | nil => cases within
  | cons length lengths ih =>
    rw [foldl_add_cons] at within
    unfold locate
    split
    · next first => simpa using first
    · next later =>
      obtain ⟨inPart, behind⟩ := ih (offset - length) (by omega)
      dsimp only
      rw [List.getD_cons_succ, List.take_succ_cons, foldl_add_cons]
      exact ⟨inPart, by omega⟩

/-- A greater offset lies in no earlier part. -/
theorem locate_mono (lengths : List Nat) {offset other : Nat} (le : offset ≤ other) :
    (locate lengths offset).1 ≤ (locate lengths other).1 := by
  induction lengths generalizing offset other with
  | nil => exact Nat.le_refl 0
  | cons length lengths ih =>
    unfold locate
    split
    · exact Nat.zero_le _
    · next later =>
      rw [if_neg (by omega)]
      exact Nat.succ_le_succ (ih (by omega))

/-! ### Dates -/

/-- The day of a year, counted from its first, is one of the days of that year. -/
theorem dayOfYear_lt (day : Int) :
    (day - daysBeforeYear (yearOf day)).toNat < yearLength (yearOf day) := by
  have bounds := yearOf_spec day
  rw [daysBeforeYear_succ] at bounds
  omega

/-- A later day lies in a later year, or in no earlier month of the same year. -/
theorem Date.ofDay_mono {day other : Int} (le : day ≤ other) :
    (ofDay day).year < (ofDay other).year ∨
      (ofDay day).year = (ofDay other).year ∧ (ofDay day).month ≤ (ofDay other).month := by
  simp only [ofDay]
  obtain less | same := Int.lt_or_eq_of_le (yearOf_mono le)
  · exact .inl less
  · refine .inr ⟨same, Nat.succ_le_succ ?_⟩
    rw [same]
    exact locate_mono _ (by omega)

/-- The date of a day determines the day. -/
theorem toDay_ofDay (day : Int) : (Date.ofDay day).toDay = day := by
  have bounds := yearOf_spec day
  have located := (locate_spec _ _ (dayOfYear_lt day)).2
  simp only [Date.ofDay, Date.toDay, daysBeforeMonth, Nat.add_sub_cancel]
  omega

/-- The date of a day exists. -/
theorem isValid_ofDay (day : Int) : (Date.ofDay day).isValid := by
  have located := (locate_spec _ _ (dayOfYear_lt day)).1
  simp only [Date.ofDay, Date.isValid, Nat.add_sub_cancel, decide_eq_true_eq]
  omega

private theorem getD_monthLengths (year : Int) (place : Nat) :
    (monthLengths year).getD place 0 ≤ 31 ∧
      (0 < (monthLengths year).getD place 0 → place < 12) := by
  have lengths : (monthLengths year).length = 12 := rfl
  refine ⟨?_, fun positive ↦ ?_⟩
  · by_cases inside : place < 12
    · have short : ∀ length ∈ monthLengths year, length ≤ 31 := by
        unfold monthLengths
        split <;> decide
      rw [List.getD_eq_getElem _ _ (by rwa [lengths])]
      exact short _ (List.getElem_mem _)
    · rw [List.getD_eq_default _ _ (by omega)]
      decide
  · by_cases inside : place < 12
    · exact inside
    · rw [List.getD_eq_default _ _ (by omega)] at positive
      cases positive

/-- The month and the day of a date that exists are small. -/
theorem Date.isValid_bounds {date : Date} (valid : date.isValid) :
    1 ≤ date.month ∧ date.month ≤ 12 ∧ 1 ≤ date.day ∧ date.day ≤ 31 := by
  simp only [Date.isValid, decide_eq_true_eq] at valid
  have lengths := getD_monthLengths date.year (date.month - 1)
  omega

end Tagging.Time
