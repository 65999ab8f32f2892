import Tagging.Json.Basic
import Tagging.Json.Draft
import Tagging.Proofs.Text.Digits

/-!
# Texts read back

A written text is read as the text that was written, whatever characters it holds: each character
makes one piece between the marks, and the pieces are joined to the same characters.
-/

namespace Tagging.Json

/-! ### Pieces -/

/-- The character is written as the number of a code unit. -/
def isCoded (c : Char) : Bool :=
  c.toNat < 0x20 ∧ ¬ (c = '\x08' ∨ c = '\x0c' ∨ c = '\n' ∨ c = '\r' ∨ c = '\t')

/-- The piece that is read where a character was written. -/
def pieceOf (c : Char) : Piece :=
  if isCoded c then .unit c.toNat else .char c

private theorem takePieces_unescape {c : Char} (letter : Char) (rest : Input)
    (stands : unescape? letter = some c) (notUnit : letter ≠ 'u') :
    takePieces (some '\\' :: some letter :: rest) =
      (takePieces rest).map fun taken ↦ (.char c :: taken.1, taken.2) := by
  rw [takePieces, stands]
  · cases takePieces rest <;> rfl
  · rintro _ _ _ _ _ _ rfl
    exact notUnit rfl

private theorem hexadecimal?_unit {n : Nat} (small : n < 0x20) :
    Text.hexadecimal? ['0', '0', Nat.digitChar (n / 16), Nat.digitChar (n % 16)] = some n := by
  have digits : ['0', '0', Nat.digitChar (n / 16), Nat.digitChar (n % 16)] =
      Text.fixedDigits 16 4 n := by
    have first : n / 16 / 16 / 16 % 16 = 0 := by omega
    have second : n / 16 / 16 % 16 = 0 := by omega
    have third : n / 16 % 16 = n / 16 := by omega
    simp [Text.fixedDigits, first, second, third, Nat.digitChar]
  rw [digits]
  exact Text.hexadecimal?_fixedDigits (by decide) (by omega)

private theorem takePieces_escape (c : Char) (rest : Input) :
    takePieces ((escape c).map some ++ rest) =
      (takePieces rest).map fun taken ↦ (pieceOf c :: taken.1, taken.2) := by
  by_cases coded : isCoded c
  · have small := coded
    simp only [isCoded, decide_eq_true_eq, not_or] at small
    obtain ⟨small, notB, notF, notN, notR, notT⟩ := small
    have notMark : ¬ (c = '"' ∨ c = '\\') := by
      rintro (rfl | rfl) <;> exact absurd small (by decide)
    -- A control character that has no letter of its own is written by its code.
    have written : escape c =
        ['\\', 'u', '0', '0', Nat.digitChar (c.toNat / 16), Nat.digitChar (c.toNat % 16)] := by
      simp [escape, notMark, notB, notF, notN, notR, notT, small]
    simp only [written, List.map_cons, List.map_nil, List.cons_append, List.nil_append, takePieces,
      hexadecimal?_unit small, pieceOf, if_pos coded]
    cases takePieces rest <;> rfl
  · simp only [pieceOf, if_neg coded]
    unfold escape
    split
    · next mark => obtain rfl | rfl := mark <;> exact takePieces_unescape _ rest rfl (by decide)
    split
    · next b => subst b; exact takePieces_unescape _ rest rfl (by decide)
    split
    · next f => subst f; exact takePieces_unescape _ rest rfl (by decide)
    split
    · next n => subst n; exact takePieces_unescape _ rest rfl (by decide)
    split
    · next r => subst r; exact takePieces_unescape _ rest rfl (by decide)
    split
    · next t => subst t; exact takePieces_unescape _ rest rfl (by decide)
    · next notMark notB notF notN notR notT =>
      have large : ¬ c.toNat < 0x20 := by
        intro small
        exact coded (by simp [isCoded, small, notB, notF, notN, notR, notT])
      rw [if_neg large]
      have plain : ¬ (c = '\\' ∨ c.toNat < 0x20) := by
        rintro (rfl | small)
        · exact notMark (.inr rfl)
        · exact large small
      have notQuote : c ≠ '"' := fun same ↦ notMark (.inl same)
      have notBackslash : c ≠ '\\' := fun same ↦ notMark (.inr same)
      rw [List.map_singleton, List.singleton_append, takePieces, if_neg plain]
      · cases takePieces rest <;> rfl
      · exact notQuote
      · exact fun _ _ _ _ _ _ ↦ notBackslash
      · exact fun _ _ _ ↦ notBackslash

private theorem takePieces_flatMap (text : List Char) (rest : Input) :
    takePieces ((text.flatMap escape).map some ++ some '"' :: rest) =
      some (text.map pieceOf, rest) := by
  induction text with
  | nil => rfl
  | cons c text ih =>
    rw [List.flatMap_cons, List.map_append, List.append_assoc, takePieces_escape, ih]
    rfl

/-! ### Characters -/

private theorem bind_ok {α β : Type} (result : Except Flaw α) (f : α → β) :
    (result >>= fun value ↦ .ok (f value)) = result.map f := by
  cases result <;> rfl

private theorem join_pieceOf (c : Char) (rest : List Piece) :
    join (pieceOf c :: rest) = (join rest).map (c :: ·) := by
  by_cases coded : isCoded c
  · have small := coded
    simp only [isCoded, decide_eq_true_eq] at small
    have notHigh : isHigh c.toNat = false := by
      simp only [isHigh, decide_eq_false_iff_not]
      omega
    have notLow : isLow c.toNat = false := by
      simp only [isLow, decide_eq_false_iff_not]
      omega
    rw [pieceOf, if_pos coded]
    cases rest with
    | nil => simp [join, notHigh, notLow, Except.map]
    | cons piece rest =>
      cases piece <;> simp [join, notHigh, notLow, bind_ok]
  · rw [pieceOf, if_neg coded, join, bind_ok]

private theorem join_map_pieceOf (text : List Char) : join (text.map pieceOf) = .ok text := by
  induction text with
  | nil => rfl
  | cons c text ih =>
    rw [List.map_cons, join_pieceOf, ih]
    rfl

/-- A written text is read back, behind its opening mark. -/
theorem takeText_writeText (text : String) (rest : Input) :
    takeText ((text.toList.flatMap escape).map some ++ some '"' :: rest) =
      some (.ok text, rest) := by
  simp [takeText, takePieces_flatMap, join_map_pieceOf, Except.map]

end Tagging.Json
