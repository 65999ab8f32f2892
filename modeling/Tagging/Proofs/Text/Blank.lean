import Mathlib.Data.List.TakeWhile
import Tagging.Text.Basic

/-!
# What trimming leaves

Trimming leaves the one part of a text that neither begins nor ends with white space and has nothing
but white space before it and after it. What it leaves it leaves again.
-/

namespace Tagging.Text

/-- The part of a text that is left without the white space around it. -/
structure Trims (text middle : List Char) : Prop where
  around : ∃ before after, text = before ++ middle ++ after ∧
    (∀ c ∈ before, isBlank c) ∧ ∀ c ∈ after, isBlank c
  first : ∀ c ∈ middle.head?, isBlank c = false
  last : ∀ c ∈ middle.getLast?, isBlank c = false

/-- Nothing is dropped before a visible character. -/
theorem trimStart_cons {c : Char} (rest : List Char) (visible : isBlank c = false) :
    trimStart (c :: rest) = c :: rest :=
  List.dropWhile_cons_of_neg (Bool.eq_false_iff.mp visible)

private theorem trimStart_eq_self {text : List Char} (first : ∀ c ∈ text.head?, isBlank c = false) :
    trimStart text = text := by
  cases text with
  | nil => rfl
  | cons c rest => exact trimStart_cons rest (first c rfl)

private theorem head?_trimStart (text : List Char) :
    ∀ c ∈ (trimStart text).head?, isBlank c = false := by
  intro c first
  have stopped := List.head?_dropWhile_not isBlank text
  rw [trimStart, Option.mem_def] at first
  rwa [first] at stopped

/-- Trimming leaves a part that has nothing but white space around it. -/
theorem trims_trim (text : List Char) : Trims text (trim text) := by
  let rest := trimStart text
  have front : text = text.takeWhile isBlank ++ rest := List.takeWhile_append_dropWhile.symm
  have back : rest = trim text ++ (rest.reverse.takeWhile isBlank).reverse :=
    calc rest
        = rest.reverse.reverse := (List.reverse_reverse rest).symm
      _ = (rest.reverse.takeWhile isBlank ++ trimStart rest.reverse).reverse :=
        congrArg List.reverse List.takeWhile_append_dropWhile.symm
      _ = trim text ++ (rest.reverse.takeWhile isBlank).reverse := List.reverse_append
  refine ⟨⟨text.takeWhile isBlank, (rest.reverse.takeWhile isBlank).reverse, ?_, ?_, ?_⟩, ?_, ?_⟩
  · rw [List.append_assoc, ← back]
    exact front
  · exact fun c member ↦ List.mem_takeWhile_imp member
  · exact fun c member ↦ List.mem_takeWhile_imp (List.mem_reverse.mp member)
  · intro c first
    refine head?_trimStart text c ?_
    change c ∈ rest.head?
    rw [back, List.head?_append, Option.mem_def.mp first]
    rfl
  · intro c last
    rw [trim, List.getLast?_reverse] at last
    exact head?_trimStart _ c last

/-- A part that has nothing but white space around it is what trimming leaves. -/
theorem Trims.trim_eq {text middle : List Char} (trims : Trims text middle) :
    trim text = middle := by
  obtain ⟨before, after, rfl, blank, blank'⟩ := trims.around
  -- If nothing is left, all white space goes with what is dropped at the front.
  cases empty : middle with
  | nil =>
    have all : trimStart (before ++ [] ++ after) = [] := by
      rw [trimStart, List.dropWhile_eq_nil_iff]
      intro c member
      rw [List.append_nil, List.mem_append] at member
      exact member.elim (blank c) (blank' c)
    rw [trim, all]
    rfl
  | cons c rest =>
    have front : trimStart (before ++ middle ++ after) = middle ++ after := by
      rw [trimStart, List.append_assoc, List.dropWhile_append_of_pos blank]
      refine trimStart_eq_self fun first member ↦ trims.first first ?_
      rw [empty] at member ⊢
      exact member
    have back : trimStart (middle ++ after).reverse = middle.reverse := by
      rw [trimStart, List.reverse_append, List.dropWhile_append_of_pos]
      · refine trimStart_eq_self fun last member ↦ trims.last last ?_
        rwa [List.head?_reverse] at member
      · exact fun c member ↦ blank' c (List.mem_reverse.mp member)
    rw [← empty, trim, front, back, List.reverse_reverse]

/-- Trimming is told by what it leaves. -/
theorem trim_eq_iff (text middle : List Char) : trim text = middle ↔ Trims text middle := by
  constructor
  · rintro rfl
    exact trims_trim text
  · exact Trims.trim_eq

/-- A text stays if there is no white space at its ends. -/
theorem trim_eq_self {text : List Char} (first : ∀ c ∈ text.head?, isBlank c = false)
    (last : ∀ c ∈ text.getLast?, isBlank c = false) : trim text = text := by
  apply Trims.trim_eq
  refine ⟨⟨[], [], ?_, nofun, nofun⟩, first, last⟩
  rw [List.nil_append, List.append_nil]

/-- What is left by trimming stays when it is trimmed again. -/
theorem trim_trim (text : List Char) : trim (trim text) = trim text :=
  trim_eq_self (trims_trim text).first (trims_trim text).last

/-- The characters of a trimmed text are what is left of its characters. -/
@[simp] theorem toList_trimmed (text : String) : (trimmed text).toList = trim text.toList :=
  String.toList_ofList

/-- A trimmed text stays when it is trimmed again. -/
theorem trimmed_trimmed (text : String) : trimmed (trimmed text) = trimmed text := by
  rw [trimmed, toList_trimmed, trim_trim]
  rfl

end Tagging.Text
