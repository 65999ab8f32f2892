import Tagging.Proofs.Catalog.Validity
import Tagging.Proofs.Text.Blank

/-!
# Labels and colours

Which texts are labels and colours. A text is valid as one of them if it is one once the white space
around it has gone, and is then taken without that; so what has been taken is valid as it is. A
colour may be told by its bytes as well as by its characters.
-/

namespace Tagging

/-! ### Texts of the right form -/

/-- The text is a label: there is no white space around it, and it has 1 to 128 characters. -/
structure LabelForm (text : String) : Prop where
  trimmed : Text.trimmed text = text
  nonempty : 1 ≤ text.length
  short : text.length ≤ 128

/-- The character is a digit in base sixteen. -/
def Text.HexDigit (c : Char) : Prop :=
  '0' ≤ c ∧ c ≤ '9' ∨ 'a' ≤ c ∧ c ≤ 'f' ∨ 'A' ≤ c ∧ c ≤ 'F'

/-- The text is a colour: a hash sign and six digits in base sixteen. -/
def ColorForm (text : String) : Prop :=
  ∃ digits, text.toList = '#' :: digits ∧ digits.length = 6 ∧ ∀ c ∈ digits, Text.HexDigit c

namespace Text

/-- The digits in base sixteen are those that have a value. -/
theorem isHexDigit_iff (c : Char) : isHexDigit c ↔ HexDigit c := by
  unfold isHexDigit hexValue? HexDigit
  split
  · next decimal => simp [decimal]
  · next other =>
    split
    · next small => simp [small]
    · next other' => split <;> simp_all

private theorem HexDigit.range {c : Char} (digit : HexDigit c) :
    48 ≤ c.toNat ∧ c.toNat ≤ 57 ∨ 97 ≤ c.toNat ∧ c.toNat ≤ 102 ∨ 65 ≤ c.toNat ∧ c.toNat ≤ 70 := by
  simp only [HexDigit, Char.le_def, UInt32.le_iff_toNat_le] at digit
  exact digit

private theorem HexDigit.isBlank_eq {c : Char} (digit : HexDigit c) : isBlank c = false := by
  have range := digit.range
  simp only [isBlank, decide_eq_false_iff_not]
  omega

private theorem HexDigit.utf8Size_eq {c : Char} (digit : HexDigit c) : c.utf8Size = 1 := by
  have range := digit.range
  have ascii : c.val ≤ 127 := by
    rw [UInt32.le_iff_toNat_le]
    change c.toNat ≤ 127
    omega
  exact if_pos ascii

end Text

/-! ### Labels -/

private theorem labelForm_trimmed_iff (text : String) :
    LabelForm (Text.trimmed text) ↔
      Text.trim text.toList ≠ [] ∧ ¬ maxLabelLength < (Text.trim text.toList).length := by
  have length : (Text.trimmed text).length = (Text.trim text.toList).length := by
    rw [← String.length_toList, Text.toList_trimmed]
  constructor
  · rintro ⟨_, nonempty, short⟩
    rw [length] at nonempty short
    exact ⟨List.ne_nil_of_length_pos nonempty, Nat.not_lt.mpr short⟩
  · rintro ⟨nonempty, short⟩
    refine ⟨Text.trimmed_trimmed text, ?_, ?_⟩
    · rw [length]
      exact List.length_pos_iff.mpr nonempty
    · rw [length]
      exact Nat.not_lt.mp short

/-- A text is a valid label if it is one once it has been trimmed, and is stored so. -/
theorem validLabel_eq_ok_iff (text label : String) :
    validLabel text = .ok label ↔ LabelForm label ∧ label = Text.trimmed text := by
  constructor
  · intro valid
    simp only [validLabel] at valid
    split at valid
    · cases valid
    · next nonempty =>
      split at valid
      · cases valid
      · next short =>
        cases valid
        exact ⟨(labelForm_trimmed_iff text).mpr ⟨nonempty, short⟩, rfl⟩
  · rintro ⟨form, rfl⟩
    obtain ⟨nonempty, short⟩ := (labelForm_trimmed_iff text).mp form
    simp only [validLabel, nonempty, short, if_false]
    rfl

/-- A label is valid, and stays as it is. -/
theorem LabelForm.validLabel_eq {text : String} (form : LabelForm text) :
    validLabel text = .ok text :=
  (validLabel_eq_ok_iff text text).mpr ⟨form, form.trimmed.symm⟩

/-- Something is wrong with a text as a label exactly if it is none once it has been trimmed: it is
empty or too long. -/
theorem labelFaults_cases (text : String) :
    LabelForm (Text.trimmed text) ∧ labelFaults text = [] ∨
      ¬ LabelForm (Text.trimmed text) ∧ ∃ cause ∈ [Invalid.emptyLabel, .longLabel],
        labelFaults text = [.validation cause] := by
  rw [labelForm_trimmed_iff, labelFaults]
  by_cases empty : Text.trim text.toList = []
  · exact .inr ⟨fun form ↦ form.1 empty, .emptyLabel, by simp, by rw [if_pos empty]⟩
  · by_cases long : maxLabelLength < (Text.trim text.toList).length
    · exact .inr ⟨fun form ↦ form.2 long, .longLabel, by simp, by rw [if_neg empty, if_pos long]⟩
    · exact .inl ⟨⟨empty, long⟩, by rw [if_neg empty, if_neg long]⟩

/-! ### Colours -/

/-- The check of a colour finds its form. -/
theorem isColor_toList_iff (text : String) : isColor text.toList ↔ ColorForm text := by
  unfold isColor ColorForm
  split
  · next digits spelled => simp [spelled, Text.isHexDigit_iff]
  · next other =>
    refine iff_of_false nofun ?_
    rintro ⟨digits, spelled, _⟩
    exact other digits spelled

/-- Around a colour there is no white space. -/
theorem ColorForm.trimmed_eq {text : String} (form : ColorForm text) :
    Text.trimmed text = text := by
  obtain ⟨digits, spelled, count, all⟩ := form
  have visible : ∀ c ∈ text.toList, Text.isBlank c = false := by
    rw [spelled, List.forall_mem_cons]
    exact ⟨by decide, fun c member ↦ (all c member).isBlank_eq⟩
  have whole : Text.trim text.toList = text.toList := by
    apply Text.trim_eq_self
    · intro c first
      exact visible c (List.mem_of_head? first)
    · intro c last
      exact visible c (List.mem_of_getLast? last)
  rw [Text.trimmed, whole, String.ofList_toList]

/-- A text is a valid colour if it is one once it has been trimmed, and is stored so. -/
theorem validColor_eq_ok_iff (text color : String) :
    validColor text = .ok color ↔ ColorForm color ∧ color = Text.trimmed text := by
  have check : isColor (Text.trim text.toList) ↔ ColorForm (Text.trimmed text) := by
    rw [← Text.toList_trimmed]
    exact isColor_toList_iff _
  simp only [validColor]
  split
  · next valid =>
    constructor
    · intro same
      cases same
      exact ⟨check.mp valid, rfl⟩
    · rintro ⟨_, rfl⟩
      rfl
  · next invalid =>
    refine iff_of_false nofun ?_
    rintro ⟨form, rfl⟩
    exact invalid (check.mpr form)

/-- A colour is valid, and stays as it is. -/
theorem ColorForm.validColor_eq {text : String} (form : ColorForm text) :
    validColor text = .ok text :=
  (validColor_eq_ok_iff text text).mpr ⟨form, form.trimmed_eq.symm⟩

/-- Something is wrong with a text as a colour exactly if it is none once it has been trimmed. -/
theorem colorFaults_cases (text : String) :
    ColorForm (Text.trimmed text) ∧ colorFaults text = [] ∨
      ¬ ColorForm (Text.trimmed text) ∧
        colorFaults text = [.validation (.badColor (Text.trimmed text))] := by
  rw [colorFaults, ← Text.toList_trimmed, ← isColor_toList_iff, String.ofList_toList]
  split
  · next valid => exact .inl ⟨valid, rfl⟩
  · next invalid => exact .inr ⟨invalid, rfl⟩

/-- The colour that is taken where none is given has the form of one. -/
theorem colorForm_defaultColor : ColorForm defaultColor :=
  (isColor_toList_iff defaultColor).mp (by decide)

/-! ### Colours in bytes -/

private theorem utf8ByteSize_of_hexDigit {digits : List Char}
    (all : ∀ c ∈ digits, Text.HexDigit c) :
    (String.ofList digits).utf8ByteSize = digits.length := by
  induction digits with
  | nil => rfl
  | cons c digits ih =>
    obtain ⟨first, rest⟩ := List.forall_mem_cons.mp all
    rw [String.ofList_cons, String.utf8ByteSize_append, String.utf8ByteSize_singleton,
      first.utf8Size_eq, ih rest, List.length_cons, Nat.add_comm]

/-- A colour may be told by its bytes: there are seven, and after the first, which is a hash sign,
the text can be cut, since no character goes on there. -/
structure ToldInBytes (text : String) : Prop where
  boundary : text.utf8ByteSize = 7 → text.toList.head? = some '#' →
    String.Pos.Raw.IsValid text ⟨1⟩
  check : ColorForm text ↔
    text.utf8ByteSize = 7 ∧ ∃ rest, text = "#" ++ rest ∧ ∀ c ∈ rest.toList, Text.HexDigit c

/-- Every text may be told to be a colour or none by its bytes. -/
theorem toldInBytes (text : String) : ToldInBytes text where
  boundary _ first := by
    obtain ⟨rest, spelled⟩ := List.head?_eq_some_iff.mp first
    refine String.Pos.Raw.isValid_iff_exists_append.mpr ⟨"#", String.ofList rest, ?_, rfl⟩
    rw [← String.ofList_toList (s := text), spelled, String.ofList_cons]
    rfl
  check := by
    constructor
    · rintro ⟨digits, spelled, count, all⟩
      have whole : text = "#" ++ String.ofList digits := by
        rw [← String.ofList_toList (s := text), spelled, String.ofList_cons]
        rfl
      refine ⟨?_, String.ofList digits, whole, by rwa [String.toList_ofList]⟩
      rw [whole, String.utf8ByteSize_append, utf8ByteSize_of_hexDigit all, count]
      rfl
    · rintro ⟨bytes, rest, rfl, all⟩
      have length : rest.toList.length = 6 := by
        rw [String.utf8ByteSize_append, ← String.ofList_toList (s := rest),
          utf8ByteSize_of_hexDigit all] at bytes
        have hash : "#".utf8ByteSize = 1 := rfl
        omega
      exact ⟨rest.toList, String.toList_append, length, all⟩

end Tagging
