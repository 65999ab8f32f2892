import Tagging.Json.Decoder
import Tagging.Proofs.Json.Text

/-!
# Values read back

A written value is read as the draft that takes down its parts, and reading stops where the value
ends. What may follow a value inside a list or an object is a mark that no number could swallow.
-/

namespace Tagging.Json

mutual

/-- The draft that takes down a value as it is written. -/
def draft : Json → Draft
  | .null => .null
  | .number value => .number ⟨false, Nat.toDigits 10 value, none, none⟩
  | .text value => .text (.ok value)
  | .list items => .list (draftItems items)
  | .object members => .object (draftMembers members)

/-- The drafts of items. -/
def draftItems : List Json → Items
  | [] => .closed
  | item :: items => .item item.draft (draftItems items)

/-- The drafts of members. -/
def draftMembers : List (String × Json) → Members
  | [] => .closed
  | (key, value) :: members => .member (.ok key) value.draft (draftMembers members)

end

/-- The input is at its end, or at a mark that ends a value. -/
def Ends : Input → Prop
  | [] => True
  | none :: _ => False
  | some c :: _ => c = ',' ∨ c = ']' ∨ c = '}'

/-! ### Numbers -/

private theorem takeDigits_append {digits : List Char} (all : ∀ c ∈ digits, Text.isDigit c)
    {rest : Input} (ends : Ends rest) :
    Number.takeDigits (digits.map some ++ rest) = (digits, rest) := by
  induction digits with
  | nil =>
    match rest, ends with
    | [], _ => rfl
    | some c :: rest, mark =>
      have notDigit : Text.isDigit c = false := by obtain rfl | rfl | rfl := mark <;> rfl
      simp [Number.takeDigits, notDigit]
  | cons c digits ih =>
    rw [List.forall_mem_cons] at all
    simp [Number.takeDigits, all.1, ih all.2]

private theorem head?_toDigits_ne_zero {n : Nat} (positive : 0 < n) :
    (Nat.toDigits 10 n).head? ≠ some '0' := by
  induction n using Nat.strongRecOn with
  | ind n ih =>
    by_cases small : n < 10
    · have digit : ∀ n < 10, 0 < n → Nat.digitChar n ≠ '0' := by decide
      rw [Nat.toDigits_of_lt_base small]
      simpa using digit n small positive
    · have front := ih (n / 10) (by omega) (by omega)
      have digits : Nat.toDigits 10 (n / 10) ≠ [] := Nat.toDigits_ne_nil
      rw [Nat.toDigits_of_base_le (by decide) (by omega), List.head?_append]
      cases written : Nat.toDigits 10 (n / 10) with
      | nil => exact absurd written digits
      | cons c rest => simpa [written] using front

private theorem toDigits_eq_cons (n : Nat) :
    ∃ c digits, Nat.toDigits 10 n = c :: digits ∧ Text.isDigit c := by
  obtain ⟨c, digits, written⟩ := List.exists_cons_of_ne_nil (Nat.toDigits_ne_nil (b := 10) (n := n))
  have member : c ∈ Text.decimal n := by simp [Text.decimal, written]
  exact ⟨c, digits, written, Text.isDigit_of_mem_decimal member⟩

private theorem takeWhole_toDigits (n : Nat) {rest : Input} (ends : Ends rest) :
    Number.takeWhole ((Nat.toDigits 10 n).map some ++ rest) = some (Nat.toDigits 10 n, rest) := by
  have taken := takeDigits_append (fun _ ↦ Text.isDigit_of_mem_decimal (n := n)) ends
  rw [Text.decimal] at taken
  rw [Number.takeWhole, taken]
  split
  · next empty => exact absurd (congrArg Prod.fst empty) Nat.toDigits_ne_nil
  · next second more _ zeros =>
    have digits : Nat.toDigits 10 n = '0' :: second :: more := congrArg Prod.fst zeros
    obtain rfl | positive := Nat.eq_zero_or_pos n
    · cases digits
    · exact absurd (by rw [digits]; rfl) (head?_toDigits_ne_zero positive)
  · rfl

/-- A written number is read as its digits. -/
theorem take_toDigits (n : Nat) {rest : Input} (ends : Ends rest) :
    Number.take ((Nat.toDigits 10 n).map some ++ rest) =
      some (⟨false, Nat.toDigits 10 n, none, none⟩, rest) := by
  have fraction : Number.takeFraction rest = some (none, rest) := by
    match rest, ends with
    | [], _ => rfl
    | some c :: rest, mark => obtain rfl | rfl | rfl := mark <;> rfl
  have exponent : Number.takeExponent rest = some (none, rest) := by
    match rest, ends with
    | [], _ => rfl
    | some c :: rest, mark => obtain rfl | rfl | rfl := mark <;> rfl
  have whole := takeWhole_toDigits n ends
  obtain ⟨c, digits, written, isDigit⟩ := toDigits_eq_cons n
  have noSign : c ≠ '-' := by rintro rfl; cases isDigit
  rw [written, List.map_cons, List.cons_append] at whole ⊢
  simp [Number.take, noSign, whole, fraction, exponent]

/-! ### First characters -/

/-- The input begins with the first character of a value: none that is passed over, and none that
closes a list or an object. -/
def Begins : Input → Prop
  | some c :: _ => isSpace (some c) = false ∧ c ≠ ']' ∧ c ≠ '}'
  | _ => False

/-- A written value begins one. -/
theorem begins_write (value : Json) (rest : Input) : Begins (value.write.map some ++ rest) := by
  cases value with
  | number n =>
    obtain ⟨c, digits, written, isDigit⟩ := toDigits_eq_cons n
    rw [write, written]
    refine ⟨?_, ?_, ?_⟩
    · simp only [isSpace, Option.some.injEq, decide_eq_false_iff_not]
      rintro (rfl | rfl | rfl | rfl) <;> cases isDigit
    · rintro rfl; cases isDigit
    · rintro rfl; cases isDigit
  | _ => exact ⟨by decide, by decide, by decide⟩

private theorem length_write_pos (value : Json) : 0 < value.write.length := by
  have begins := begins_write value []
  cases written : value.write with
  | nil => simp [written, Begins] at begins
  | cons c rest => simp

private theorem skipSpace_of_begins {input : Input} (begins : Begins input) :
    skipSpace input = input := by
  match input, begins with
  | some c :: rest, ⟨notSpace, _⟩ => simp [skipSpace, notSpace]

/-! ### Items and members -/

private theorem takeItems_closed (fuel : Nat) (first : Bool) (rest : Input) :
    takeItems (fuel + 1) first (some ']' :: rest) = (.closed, rest) :=
  rfl

private theorem takeItems_first {fuel : Nat} {input rest after : Input} {value : Draft}
    {items : Items} (begins : Begins input) (taken : takeValue fuel input = (value, rest))
    (others : takeItems fuel false rest = (items, after)) :
    takeItems (fuel + 1) true input = (.item value items, after) := by
  rw [takeItems, skipSpace_of_begins begins]
  split
  · exact absurd rfl begins.2.1
  · simp [takeComma, taken, others]

private theorem takeItems_next {fuel : Nat} {input rest after : Input} {value : Draft}
    {items : Items} (begins : Begins input) (taken : takeValue fuel input = (value, rest))
    (others : takeItems fuel false rest = (items, after)) :
    takeItems (fuel + 1) false (some ',' :: input) = (.item value items, after) := by
  have comma : skipSpace (some ',' :: input) = some ',' :: input := rfl
  rw [takeItems, comma]
  simp [takeComma, skipSpace_of_begins begins, taken, others]

private theorem takeMembers_closed (fuel : Nat) (first : Bool) (rest : Input) :
    takeMembers (fuel + 1) first (some '}' :: rest) = (.closed, rest) :=
  rfl

private theorem takeMembers_first {fuel : Nat} (key : String) {input rest after : Input}
    {value : Draft} {members : Members} (taken : takeValue fuel input = (value, rest))
    (others : takeMembers fuel false rest = (members, after)) :
    takeMembers (fuel + 1) true ((writeText key).map some ++ some ':' :: input) =
      (.member (.ok key) value members, after) := by
  have mark (rest : Input) : skipSpace (some '"' :: rest) = some '"' :: rest := rfl
  have colon : skipSpace (some ':' :: input) = some ':' :: input := rfl
  simp [takeMembers, writeText, mark, colon, takeComma, takeText_writeText, taken, others]

private theorem takeMembers_next {fuel : Nat} (key : String) {input rest after : Input}
    {value : Draft} {members : Members} (taken : takeValue fuel input = (value, rest))
    (others : takeMembers fuel false rest = (members, after)) :
    takeMembers (fuel + 1) false (some ',' :: ((writeText key).map some ++ some ':' :: input)) =
      (.member (.ok key) value members, after) := by
  have comma (rest : Input) : skipSpace (some ',' :: rest) = some ',' :: rest := rfl
  have mark (rest : Input) : skipSpace (some '"' :: rest) = some '"' :: rest := rfl
  have colon : skipSpace (some ':' :: input) = some ':' :: input := rfl
  simp [takeMembers, writeText, comma, mark, colon, takeComma, takeText_writeText, taken, others]

/-! ### Values -/

private theorem ends_writeMoreItems (items : List Json) (rest : Input) :
    Ends ((writeMoreItems items).map some ++ some ']' :: rest) := by
  cases items with
  | nil => exact .inr (.inl rfl)
  | cons item items => exact .inl rfl

private theorem ends_writeMoreMembers (members : List (String × Json)) (rest : Input) :
    Ends ((writeMoreMembers members).map some ++ some '}' :: rest) := by
  cases members with
  | nil => exact .inr (.inr rfl)
  | cons member members => exact .inl rfl

/-- A written number is read where a value is wanted. -/
theorem takeValue_number (n fuel : Nat) {rest : Input} (ends : Ends rest) :
    takeValue (fuel + 1) ((write (.number n)).map some ++ rest) = (draft (.number n), rest) := by
  obtain ⟨c, digits, written, isDigit⟩ := toDigits_eq_cons n
  have taken := take_toDigits n ends
  rw [takeValue, skipSpace_of_begins (begins_write (.number n) rest), write]
  rw [written, List.map_cons, List.cons_append] at taken ⊢
  generalize digits.map some ++ rest = tail at taken ⊢
  -- No word, mark or bracket begins with a digit.
  split
  case h_7 => rw [taken, draft, written]
  all_goals
    next first =>
      cases first
      cases isDigit

mutual

/-- A written value is read as its draft, and what follows it is left. -/
theorem takeValue_write (value : Json) (fuel : Nat) {rest : Input} (ends : Ends rest)
    (room : 2 * value.write.length ≤ fuel) :
    takeValue fuel (value.write.map some ++ rest) = (value.draft, rest) := by
  have positive := length_write_pos value
  obtain ⟨fuel, rfl⟩ : ∃ less, fuel = less + 1 := ⟨fuel - 1, by omega⟩
  match value with
  | .null => rfl
  | .number n => exact takeValue_number n fuel ends
  | .text value =>
    rw [takeValue, skipSpace_of_begins (begins_write _ rest)]
    simp [write, writeText, draft, takeText_writeText]
  | .list items =>
    simp only [write, List.length_cons, List.length_append, List.length_nil] at room
    have taken := takeItems_writeItems items fuel rest (by omega)
    rw [takeValue, skipSpace_of_begins (begins_write _ rest)]
    simp [write, draft, taken]
  | .object members =>
    simp only [write, List.length_cons, List.length_append, List.length_nil] at room
    have taken := takeMembers_writeMembers members fuel rest (by omega)
    rw [takeValue, skipSpace_of_begins (begins_write _ rest)]
    simp [write, draft, taken]

/-- Written items are read as their drafts. -/
theorem takeItems_writeItems (items : List Json) (fuel : Nat) (rest : Input)
    (room : 2 * (writeItems items).length + 1 ≤ fuel) :
    takeItems fuel true ((writeItems items).map some ++ some ']' :: rest) =
      (draftItems items, rest) := by
  obtain ⟨fuel, rfl⟩ : ∃ less, fuel = less + 1 := ⟨fuel - 1, by omega⟩
  match items with
  | [] => exact takeItems_closed fuel true rest
  | item :: items =>
    have positive := length_write_pos item
    simp only [writeItems, List.length_append] at room
    rw [writeItems, List.map_append, List.append_assoc]
    exact takeItems_first (begins_write item _)
      (takeValue_write item fuel (ends_writeMoreItems items rest) (by omega))
      (takeItems_writeMoreItems items fuel rest (by omega))

/-- Written items behind the first are read as their drafts. -/
theorem takeItems_writeMoreItems (items : List Json) (fuel : Nat) (rest : Input)
    (room : 2 * (writeMoreItems items).length + 1 ≤ fuel) :
    takeItems fuel false ((writeMoreItems items).map some ++ some ']' :: rest) =
      (draftItems items, rest) := by
  obtain ⟨fuel, rfl⟩ : ∃ less, fuel = less + 1 := ⟨fuel - 1, by omega⟩
  match items with
  | [] => exact takeItems_closed fuel false rest
  | item :: items =>
    have positive := length_write_pos item
    simp only [writeMoreItems, List.length_cons, List.length_append] at room
    rw [writeMoreItems, List.map_cons, List.map_append, List.cons_append, List.append_assoc]
    exact takeItems_next (begins_write item _)
      (takeValue_write item fuel (ends_writeMoreItems items rest) (by omega))
      (takeItems_writeMoreItems items fuel rest (by omega))

/-- Written members are read as their drafts. -/
theorem takeMembers_writeMembers (members : List (String × Json)) (fuel : Nat) (rest : Input)
    (room : 2 * (writeMembers members).length + 1 ≤ fuel) :
    takeMembers fuel true ((writeMembers members).map some ++ some '}' :: rest) =
      (draftMembers members, rest) := by
  obtain ⟨fuel, rfl⟩ : ∃ less, fuel = less + 1 := ⟨fuel - 1, by omega⟩
  match members with
  | [] => exact takeMembers_closed fuel true rest
  | (key, value) :: members =>
    have positive := length_write_pos value
    simp only [writeMembers, List.length_cons, List.length_append] at room
    rw [writeMembers, List.map_append, List.append_assoc, List.map_cons, List.cons_append,
      List.map_append, List.append_assoc]
    exact takeMembers_first key
      (takeValue_write value fuel (ends_writeMoreMembers members rest) (by omega))
      (takeMembers_writeMoreMembers members fuel rest (by omega))

/-- Written members behind the first are read as their drafts. -/
theorem takeMembers_writeMoreMembers (members : List (String × Json)) (fuel : Nat) (rest : Input)
    (room : 2 * (writeMoreMembers members).length + 1 ≤ fuel) :
    takeMembers fuel false ((writeMoreMembers members).map some ++ some '}' :: rest) =
      (draftMembers members, rest) := by
  obtain ⟨fuel, rfl⟩ : ∃ less, fuel = less + 1 := ⟨fuel - 1, by omega⟩
  match members with
  | [] => exact takeMembers_closed fuel false rest
  | (key, value) :: members =>
    have positive := length_write_pos value
    simp only [writeMoreMembers, List.length_cons, List.length_append] at room
    rw [writeMoreMembers, List.map_cons, List.cons_append, List.map_append, List.append_assoc,
      List.map_cons, List.cons_append, List.map_append, List.append_assoc]
    exact takeMembers_next key
      (takeValue_write value fuel (ends_writeMoreMembers members rest) (by omega))
      (takeMembers_writeMoreMembers members fuel rest (by omega))

end

/-- A written value is taken whole. -/
theorem take_write (value : Json) : take (value.write.map some) = (value.draft, []) := by
  have ends : Ends [] := trivial
  have room : 2 * value.write.length ≤ 2 * (value.write.map some).length + 2 := by
    rw [List.length_map]
    omega
  have taken := takeValue_write value _ ends room
  rwa [List.append_nil] at taken

/-- To read a written value is to decode its draft. -/
theorem read_render {α : Type} (decode : Decoder α) (value : Json) :
    read decode value.render = decode value.draft := by
  rw [read, render, String.toList_ofList, readInput, take_write]
  dsimp only
  cases decode value.draft <;> rfl

end Tagging.Json
