import Tagging.Proofs.Encoding
import Tagging.Proofs.Text.Blank
import Tagging.Proofs.Text.Split

/-!
# Grants as texts

A grant on all objects is configured as a text of three parts with colons between them. Only the
middle part, the name of the holder, may itself hold colons, so that there is one way at most to
take a text apart. Exactly the texts that are so put together are read, and each grant that is read
is given back from its own text.
-/

namespace Tagging

/-- A kind of holder and a name make a holder if the kind is one of the two that there are. -/
theorem Grant.holder?_eq_some_iff {kind : List Char} {name : String} {holder : Holder} :
    holder? kind name = some holder ↔ kind = holder.kind.toList ∧ name = holder.name := by
  constructor
  · unfold holder?
    intro made
    split at made
    · next user =>
      obtain rfl := Option.some.inj made
      exact ⟨user, rfl⟩
    · split at made
      · next role =>
        obtain rfl := Option.some.inj made
        exact ⟨role, rfl⟩
      · cases made
  · rintro ⟨rfl, rfl⟩
    cases holder with
    | user name => exact if_pos rfl
    | role name =>
      have differ : "role".toList ≠ "user".toList := by decide
      exact (if_neg differ).trans (if_pos rfl)

/-- A word names the permission that has it as its name. -/
theorem Permission.ofName?_eq_some_iff {word : String} {permission : Permission} :
    ofName? word = some permission ↔ word = permission.name := by
  constructor
  · intro found
    have named := List.find?_some found
    exact (of_decide_eq_true named).symm
  · rintro rfl
    exact ofName?_name permission

namespace Grant

open Text (ofList_eq_iff trim)

/-- The text of a grant on all objects. -/
def toText (grant : Grant) : String :=
  grant.holder.toString ++ ":" ++ grant.permission.name

/-- A text is put together of three parts with colons between them, of which only the middle one may
hold colons. -/
structure Parts (text : String) (kind name word : List Char) : Prop where
  whole : text.toList = (kind ++ ':' :: name) ++ ':' :: word
  kind : ':' ∉ kind
  word : ':' ∉ word

/-- A text denotes a grant on all objects by the kind of the holder, the name of the holder and the
name of the permission. White space around each of them does not count. -/
def Denotes (text : String) (grant : Grant) : Prop :=
  ∃ kind name word, Parts text kind name word ∧ grant.object = none ∧
    trim kind = grant.holder.kind.toList ∧
    trim name ≠ [] ∧ trim name = grant.holder.name.toList ∧
    trim word = grant.permission.name.toList

/-! ### Reading -/

private theorem parts_iff {text : String} {kind name word : List Char} :
    Parts text kind name word ↔ ∃ before,
      Text.splitLast? ':' text.toList = some (before, word) ∧
        Text.splitFirst? ':' before = some (kind, name) := by
  simp only [Text.splitLast?_eq_some_iff, Text.splitFirst?_eq_some_iff]
  constructor
  · intro parts
    exact ⟨_, ⟨parts.whole, parts.word⟩, rfl, parts.kind⟩
  · rintro ⟨_, ⟨whole, word⟩, rfl, kind⟩
    exact ⟨whole, kind, word⟩

private theorem parse_of_no_parts {text : String}
    (none : ∀ kind name word, ¬ Parts text kind name word) :
    parse text = .error (.validation (.badGrant text)) := by
  unfold parse
  cases last : Text.splitLast? ':' text.toList with
  | none => rfl
  | some found =>
    obtain ⟨before, word⟩ := found
    dsimp only
    cases first : Text.splitFirst? ':' before with
    | none => rfl
    | some found =>
      obtain ⟨kind, name⟩ := found
      exact absurd (parts_iff.mpr ⟨before, last, first⟩) (none kind name word)

/-- A text of three parts is read as what the parts stand for. -/
theorem Parts.parse_eq_ok_iff {text : String} {kind name word : List Char}
    (parts : Parts text kind name word) (grant : Grant) :
    parse text = .ok grant ↔ grant.object = none ∧ trim kind = grant.holder.kind.toList ∧
      trim name ≠ [] ∧ trim name = grant.holder.name.toList ∧
      trim word = grant.permission.name.toList := by
  obtain ⟨before, last, first⟩ := parts_iff.mp parts
  simp only [parse, last, first]
  constructor
  · intro parsed
    split at parsed
    · cases parsed
    · next named =>
      split at parsed
      · cases parsed
      · next holder held =>
        split at parsed
        · cases parsed
        · next permission allowed =>
          obtain rfl := Except.ok.inj parsed
          obtain ⟨kind, name⟩ := holder?_eq_some_iff.mp held
          exact ⟨rfl, kind, named, ofList_eq_iff.mp name,
            ofList_eq_iff.mp (Permission.ofName?_eq_some_iff.mp allowed)⟩
  · rintro ⟨everywhere, kind, named, name, word⟩
    have held := holder?_eq_some_iff.mpr ⟨kind, ofList_eq_iff.mpr name⟩
    have allowed := Permission.ofName?_eq_some_iff.mpr (ofList_eq_iff.mpr word)
    rw [if_neg named, held]
    dsimp only
    rw [allowed, ← everywhere]

/-- A text is read as the grant that it denotes, and if it denotes none it is not read. -/
theorem parse_eq_ok_iff (text : String) (grant : Grant) :
    parse text = .ok grant ↔ Denotes text grant := by
  constructor
  · intro parsed
    by_contra denotes
    have parts : ∀ kind name word, ¬ Parts text kind name word := by
      intro kind name word parts
      exact denotes ⟨kind, name, word, parts, (parts.parse_eq_ok_iff grant).mp parsed⟩
    rw [parse_of_no_parts parts] at parsed
    cases parsed
  · rintro ⟨kind, name, word, parts, stands⟩
    exact (parts.parse_eq_ok_iff grant).mpr stands

/-! ### Writing -/

private theorem kind_cases (holder : Holder) : holder.kind = "user" ∨ holder.kind = "role" := by
  cases holder with
  | user name => exact .inl rfl
  | role name => exact .inr rfl

private theorem not_mem_kind (holder : Holder) : ':' ∉ holder.kind.toList := by
  obtain user | role := kind_cases holder
  · rw [user]
    decide
  · rw [role]
    decide

private theorem not_mem_name (permission : Permission) : ':' ∉ permission.name.toList := by
  cases permission <;> decide

private theorem parts_toText (grant : Grant) :
    Parts grant.toText grant.holder.kind.toList grant.holder.name.toList
      grant.permission.name.toList where
  whole := by simp [toText, Holder.toString]
  kind := not_mem_kind grant.holder
  word := not_mem_name grant.permission

/-- The text of a grant is read as the grant if the grant is on all objects and its holder has a
name without white space at its ends. -/
theorem parse_toText_iff (grant : Grant) :
    parse grant.toText = .ok grant ↔
      grant.object = none ∧ grant.holder.name ≠ "" ∧
        Text.trimmed grant.holder.name = grant.holder.name := by
  have kind : trim grant.holder.kind.toList = grant.holder.kind.toList := by
    obtain user | role := kind_cases grant.holder
    · rw [user]
      decide
    · rw [role]
      decide
  have word : trim grant.permission.name.toList = grant.permission.name.toList := by
    cases grant.permission <;> decide
  rw [grant.parts_toText.parse_eq_ok_iff grant]
  simp only [kind, word, true_and, and_true, Text.trimmed, ofList_eq_iff]
  refine and_congr_right fun _ ↦ and_congr_left fun trimmed ↦ ?_
  rw [trimmed, ne_eq, String.toList_eq_nil_iff]

/-- A grant that is read has a holder whose name is not empty and without white space at its ends.
-/
theorem Denotes.name {text : String} {grant : Grant} (denotes : Denotes text grant) :
    grant.object = none ∧ grant.holder.name ≠ "" ∧
      Text.trimmed grant.holder.name = grant.holder.name := by
  obtain ⟨kind, name, word, _, everywhere, _, named, spelled, _⟩ := denotes
  refine ⟨everywhere, ?_, ?_⟩
  · intro empty
    rw [empty] at spelled
    exact named spelled
  · rw [Text.trimmed, ofList_eq_iff, ← spelled, Text.trim_trim]

/-! ### Notation -/

/-- A text is read exactly if it has three parts of which the first is the word for a user or a
role, the second is not empty, and the third is the name of a permission, white space at their ends
aside. It is then read as the grant that it denotes. A grant is read from its own text exactly if it
is on all objects and the name of its holder is neither empty nor has white space at its ends, which
is so for every grant that is read from any text. -/
theorem parse_notation (text : String) (grant : Grant) :
    ((∃ read, parse text = .ok read) ↔
      ∃ kind name word, Parts text kind name word ∧
        (trim kind = "user".toList ∨ trim kind = "role".toList) ∧ trim name ≠ [] ∧
        ∃ permission : Permission, trim word = permission.name.toList) ∧
    (parse text = .ok grant ↔ Denotes text grant) ∧
    (parse grant.toText = .ok grant ↔
      grant.object = none ∧ grant.holder.name ≠ "" ∧
        Text.trimmed grant.holder.name = grant.holder.name) ∧
    (parse text = .ok grant → parse grant.toText = .ok grant) := by
  refine ⟨?_, parse_eq_ok_iff text grant, grant.parse_toText_iff, fun parsed ↦ ?_⟩
  · simp only [parse_eq_ok_iff]
    constructor
    · rintro ⟨read, kind, name, word, parts, _, held, named, _, allowed⟩
      refine ⟨kind, name, word, parts, ?_, named, read.permission, allowed⟩
      rw [held]
      exact (kind_cases read.holder).imp (congrArg _) (congrArg _)
    · rintro ⟨kind, name, word, parts, user | role, named, permission, allowed⟩
      · exact ⟨⟨.user (String.ofList (trim name)), permission, none⟩, kind, name, word, parts, rfl,
          user, named, String.toList_ofList.symm, allowed⟩
      · exact ⟨⟨.role (String.ofList (trim name)), permission, none⟩, kind, name, word, parts, rfl,
          role, named, String.toList_ofList.symm, allowed⟩
  · exact grant.parse_toText_iff.mpr ((parse_eq_ok_iff text grant).mp parsed).name

/-- A name with a colon is read with the white space around it taken away, and is read again from
the text of the grant. -/
theorem parse_notation_colon :
    let grant : Grant := ⟨.role "staff:night", .tagView, none⟩
    parse " role :\tstaff:night : tag_view" = .ok grant ∧
      parse "role:staff:night:tag_view" = .ok grant := by
  intro grant
  have reads := parse_notation " role :\tstaff:night : tag_view" grant
  have parts : Parts " role :\tstaff:night : tag_view" " role ".toList "\tstaff:night ".toList
      " tag_view".toList := by
    constructor <;> decide
  have parsed := reads.2.1.mpr ⟨_, _, _, parts, rfl, by decide, by decide, by decide, by decide⟩
  exact ⟨parsed, reads.2.2.2 parsed⟩

end Grant

end Tagging
