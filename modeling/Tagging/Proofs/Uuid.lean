import Mathlib.Tactic.NormNum
import Tagging.Proofs.Text.Digits
import Tagging.Uuid

/-!
# Identifiers read back

The written form of an identifier denotes it: the hyphens fall between groups of digits again, and
the digits denote the number.
-/

namespace Tagging.Uuid

/-! ### Groups of digits -/

private theorem length_joinGroups (sizes : List Nat) (digits : List Char) :
    (joinGroups sizes digits).length = digits.length + (sizes.length - 1) := by
  induction sizes generalizing digits with
  | nil => rfl
  | cons size sizes ih =>
    cases sizes with
    | nil => rfl
    | cons next sizes =>
      have joined : joinGroups (size :: next :: sizes) digits =
          digits.take size ++ '-' :: joinGroups (next :: sizes) (digits.drop size) := rfl
      rw [joined, List.length_append, List.length_cons, ih, List.length_take, List.length_drop]
      simp only [List.length_cons]
      omega

private theorem splitGroups_joinGroups (sizes : List Nat) (digits : List Char)
    (filled : digits.length = sizes.foldr (· + ·) 0) :
    splitGroups sizes (joinGroups sizes digits) = some digits := by
  induction sizes generalizing digits with
  | nil =>
    have none : digits = [] := List.length_eq_zero_iff.mp filled
    simp [joinGroups, splitGroups, none]
  | cons size sizes ih =>
    rw [List.foldr_cons] at filled
    cases sizes with
    | nil =>
      have fits : digits.length = size := filled
      simp [joinGroups, splitGroups, fits]
    | cons next sizes =>
      have front : (digits.take size).length = size := by
        rw [List.length_take]
        omega
      have joined : joinGroups (size :: next :: sizes) digits =
          digits.take size ++ '-' :: joinGroups (next :: sizes) (digits.drop size) := rfl
      have rest := ih (digits.drop size) (by rw [List.length_drop]; omega)
      rw [joined, splitGroups, List.drop_left' front, List.take_left' front]
      · simp only [rest, Option.map_some, List.take_append_drop]
      · simp

/-! ### The written form -/

private theorem length_digits (id : Uuid) : id.digits.length = 32 :=
  Text.length_fixedDigits 16 32 id.value

/-- The written form has 36 characters. -/
theorem length_toText (id : Uuid) : id.toText.length = 36 := by
  rw [toText, length_joinGroups, length_digits]
  rfl

private theorem ofDigits?_digits (id : Uuid) : ofDigits? id.digits = some id := by
  have room : id.value < 16 ^ 32 := Nat.lt_of_lt_of_eq id.value_lt (by norm_num [bound])
  have denotes : Text.hexadecimal? id.digits = some id.value :=
    Text.hexadecimal?_fixedDigits (by decide) room
  simp [ofDigits?, length_digits, denotes, id.value_lt]

private theorem ofGroups?_toText (id : Uuid) : ofGroups? id.toText = some id := by
  have split : splitGroups groups id.toText = some id.digits := by
    apply splitGroups_joinGroups
    rw [length_digits]
    rfl
  simp [ofGroups?, split, ofDigits?_digits]

private theorem toText_eq_cons (id : Uuid) :
    ∃ digit < 16, ∃ rest, id.toText = Nat.digitChar digit :: rest := by
  obtain ⟨c, rest, digits⟩ := List.exists_cons_of_length_eq_add_one (length_digits id)
  have member : c ∈ Text.fixedDigits 16 32 id.value := by
    change c ∈ id.digits
    rw [digits]
    exact List.mem_cons_self
  obtain ⟨digit, small, rfl⟩ := Text.mem_fixedDigits (by decide) member
  refine ⟨digit, small, rest.take 7 ++ '-' :: joinGroups [4, 4, 4, 12] (rest.drop 7), ?_⟩
  rw [toText, digits]
  rfl

private theorem digitChar_marks : ∀ digit < 16,
    Nat.digitChar digit ≠ '\x7b' ∧ 'u' ≠ (Nat.digitChar digit).toLower := by
  decide

/-- The written form of an identifier denotes it. -/
theorem ofText?_toText (id : Uuid) : ofText? id.toText = some id := by
  have long := length_toText id
  have denotes := ofGroups?_toText id
  obtain ⟨digit, small, rest, begins⟩ := toText_eq_cons id
  obtain ⟨notBrace, notMark⟩ := digitChar_marks digit small
  rw [begins] at long denotes ⊢
  have noStart : stripStart? "urn:uuid:".toList (Nat.digitChar digit :: rest) = none := by
    rw [show "urn:uuid:".toList = 'u' :: "rn:uuid:".toList from rfl, stripStart?, if_neg notMark]
  unfold ofText?
  split
  · next inner same => exact absurd (List.cons.inj same).1 notBrace
  · rw [noStart]
    simp only [long, denotes]
    rfl

/-- The written form of an identifier, as a string, denotes it. -/
@[simp] theorem ofString?_toString (id : Uuid) : ofString? id.toString = some id := by
  rw [ofString?, toString, String.toList_ofList, ofText?_toText]

/-- Different identifiers are written differently. -/
theorem toText_injective : Function.Injective toText := by
  intro a b same
  have denotes := ofText?_toText a
  rw [same, ofText?_toText] at denotes
  exact (Option.some.inj denotes).symm

end Tagging.Uuid
