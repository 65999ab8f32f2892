import Tagging.Text.Basic

/-!
# What splitting leaves

A text is split at its first or last mark into two parts that give it back with the mark between
them, the first or the second of which has no mark. At all its marks it is split into the parts
without marks of which it is put together.
-/

namespace Tagging.Text

variable {mark : Char} {text before after : List Char}

/-- A list of characters is told by the string of it. -/
theorem ofList_eq_iff {characters : List Char} {string : String} :
    String.ofList characters = string ↔ characters = string.toList := by
  rw [← String.toList_inj, String.toList_ofList]

/-! ### Splitting at one mark -/

/-- A text is split at its first mark. -/
theorem splitFirst?_eq_some_iff :
    splitFirst? mark text = some (before, after) ↔
      text = before ++ mark :: after ∧ mark ∉ before := by
  induction text generalizing before with
  | nil => simp [splitFirst?]
  | cons c rest ih =>
    rw [splitFirst?]
    split
    · next same =>
      -- A text that begins with the mark has nothing before it.
      subst same
      cases before with
      | nil => simp
      | cons d before =>
        simp only [Option.some.injEq, Prod.mk.injEq, reduceCtorEq, false_and, false_iff, not_and,
          List.cons_append, List.cons.injEq, List.mem_cons, not_or]
        rintro ⟨same, _⟩ differs
        exact absurd same differs
    · next differs =>
      cases before with
      | nil => simp [differs]
      | cons d before =>
        have split : (splitFirst? mark rest).map (fun parts ↦ (c :: parts.1, parts.2)) =
            some (d :: before, after) ↔ c = d ∧ splitFirst? mark rest = some (before, after) := by
          cases splitFirst? mark rest with
          | none => simp
          | some parts => simp [Prod.ext_iff, and_assoc]
        rw [split, ih, List.cons_append, List.cons.injEq, List.mem_cons, not_or, and_assoc]
        refine and_congr_right fun same ↦ and_congr_right fun _ ↦ ?_
        rw [← same, and_iff_right (Ne.symm differs)]

/-- A text is split at its last mark. -/
theorem splitLast?_eq_some_iff :
    splitLast? mark text = some (before, after) ↔
      text = before ++ mark :: after ∧ mark ∉ after := by
  have reversed (first second : List Char) :
      text.reverse = first ++ mark :: second ↔
        text = second.reverse ++ mark :: first.reverse := by
    rw [List.reverse_eq_iff]
    simp
  simp only [splitLast?, Option.map_eq_some_iff, Prod.exists, Prod.mk.injEq,
    splitFirst?_eq_some_iff, reversed]
  constructor
  · rintro ⟨first, second, ⟨whole, unmarked⟩, rfl, rfl⟩
    exact ⟨whole, mt List.mem_reverse.mp unmarked⟩
  · rintro ⟨rfl, unmarked⟩
    refine ⟨after.reverse, before.reverse, ⟨?_, mt List.mem_reverse.mp unmarked⟩, ?_, ?_⟩
    · rw [List.reverse_reverse, List.reverse_reverse]
    · exact List.reverse_reverse before
    · exact List.reverse_reverse after

/-! ### Splitting at all marks -/

/-- A text is put together of parts without marks by setting marks between them. -/
structure Joins (mark : Char) (parts : List (List Char)) (text : List Char) : Prop where
  ne_nil : parts ≠ []
  unmarked : ∀ part ∈ parts, mark ∉ part
  joined : [mark].intercalate parts = text

/-- To split at all marks is to split on the mark. -/
theorem splitAll_eq_splitOn (mark : Char) (text : List Char) :
    splitAll mark text = text.splitOn mark := by
  induction text with
  | nil => rfl
  | cons c rest ih =>
    rw [splitAll, List.splitOn_cons_eq_if_modifyHead, ih]
    by_cases same : c = mark
    · rw [if_pos same, if_pos (beq_iff_eq.mpr same)]
    · rw [if_neg same, if_neg (mt beq_iff_eq.mp same)]
      cases parts : rest.splitOn mark with
      | nil => exact absurd parts (List.splitOn_ne_nil mark rest)
      | cons part parts => rfl

private theorem not_mem_of_mem_splitAll {part : List Char} (member : part ∈ splitAll mark text) :
    mark ∉ part := by
  induction text generalizing part with
  | nil =>
    rw [List.mem_singleton.mp member]
    exact List.not_mem_nil
  | cons c rest ih =>
    rw [splitAll] at member
    split at member
    · obtain rfl | later := List.mem_cons.mp member
      · exact List.not_mem_nil
      · exact ih later
    · next differs =>
      split at member
      · rw [List.mem_singleton.mp member, List.mem_singleton]
        exact Ne.symm differs
      · next first parts split =>
        rw [split] at ih
        obtain rfl | later := List.mem_cons.mp member
        · rw [List.mem_cons, not_or]
          exact ⟨Ne.symm differs, ih List.mem_cons_self⟩
        · exact ih (List.mem_cons_of_mem _ later)

/-- At all its marks a text is split into the parts of which it is put together. -/
theorem splitAll_eq_iff {parts : List (List Char)} :
    splitAll mark text = parts ↔ Joins mark parts text := by
  constructor
  · rintro rfl
    refine ⟨?_, fun part ↦ not_mem_of_mem_splitAll, ?_⟩
    · rw [splitAll_eq_splitOn]
      exact List.splitOn_ne_nil mark text
    · rw [splitAll_eq_splitOn]
      exact List.intercalate_splitOn mark
  · intro joins
    rw [splitAll_eq_splitOn, ← joins.joined]
    exact List.splitOn_intercalate mark joins.unmarked joins.ne_nil

/-- Between the parts of which a text is put together there are only marks. -/
theorem Joins.mem {parts : List (List Char)} (joins : Joins mark parts text) {c : Char}
    (member : c ∈ text) : c = mark ∨ ∃ part ∈ parts, c ∈ part := by
  rw [← joins.joined] at member
  clear joins
  induction parts with
  | nil => cases member
  | cons first rest ih =>
    cases rest with
    | nil =>
      rw [List.intercalate_singleton] at member
      exact .inr ⟨first, List.mem_cons_self, member⟩
    | cons second rest =>
      rw [List.intercalate_cons_cons, List.mem_append, List.mem_append] at member
      obtain (inFirst | marks) | later := member
      · exact .inr ⟨first, List.mem_cons_self, inFirst⟩
      · exact .inl (List.mem_singleton.mp marks)
      · obtain rfl | ⟨part, listed, inPart⟩ := ih later
        · exact .inl rfl
        · exact .inr ⟨part, List.mem_cons_of_mem _ listed, inPart⟩

end Tagging.Text
