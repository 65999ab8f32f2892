import Tagging.Proofs.Json.Members
import Tagging.Token.Verifier

/-!
# What the parts of a token say

The header and the payload of a token are records. What they say is told by the values under their
keys: the name of the algorithm, the user and the roles, and the expiry.
-/

namespace Tagging

open Json (Draft Items Members Decoder Field Takes)

namespace Json

/-- The items of a list of texts. -/
def Items.ofTexts : List String → Items
  | [] => .closed
  | value :: values => .item (.text (.ok value)) (ofTexts values)

/-- A text is read from itself only. -/
theorem Decoder.text_eq_ok {draft : Draft} {value : String} (read : text draft = .ok value) :
    draft = .text (.ok value) := by
  unfold text at read
  split at read
  · rw [Except.ok.inj read]
  · cases read

private theorem Decoder.items_text_eq_ok {items : Items} {values : List String}
    (read : Decoder.items text items = .ok values) : items = .ofTexts values := by
  match items with
  | .closed =>
    cases read
    rfl
  | .broken => cases read
  | .item draft rest =>
    obtain ⟨value, first, read⟩ := exists_of_bind read
    obtain ⟨values, others, same⟩ := exists_of_bind read
    rw [← Except.ok.inj same, text_eq_ok first, items_text_eq_ok others]
    rfl

/-- A list of texts is read from itself only. -/
theorem Decoder.listOf_text_eq_ok {draft : Draft} {values : List String}
    (read : listOf text draft = .ok values) : draft = .list (.ofTexts values) := by
  unfold listOf at read
  split at read
  · rw [items_text_eq_ok read]
  · cases read

/-- Nothing is read from `null` only. -/
theorem Decoder.nothing_eq_ok {draft : Draft} {value : Unit} (read : nothing draft = .ok value) :
    draft = .null := by
  unfold nothing at read
  split at read
  · rfl
  · cases read

/-- A name is read from itself, or from an object whose only key it is. -/
theorem Decoder.named_eq_ok {α : Type} {ofName? : String → Option α} {draft : Draft} {value : α}
    (read : named ofName? draft = .ok value) : ∃ name, ofName? name = some value ∧
      (draft = .text (.ok name) ∨ draft = .object (.member (.ok name) .null .closed)) := by
  unfold named choice at read
  split at read
  · next name =>
    cases known : ofName? name with
    | none =>
      rw [known] at read
      cases read
    | some found =>
      rw [known] at read
      cases read
      exact ⟨name, known, .inl rfl⟩
  · next name content rest =>
    cases known : ofName? name with
    | none =>
      simp only [known, Option.map_none] at read
      cases read
    | some found =>
      simp only [known, Option.map_some] at read
      obtain ⟨held, inner, closed⟩ := exists_of_bind read
      obtain ⟨_, empty, same⟩ := exists_of_bind inner
      cases same
      rw [nothing_eq_ok empty]
      split at closed
      · cases closed
        exact ⟨name, known, .inr rfl⟩
      · cases closed
  · cases read

end Json

/-! ### Claims -/

namespace Claims

private theorem field_subject : Field schema.slots "sub" Decoder.text Form.subject := by
  refine .of_slot rfl (fun _ _ ↦ rfl) ?_
  simp only [schema, List.mem_cons, List.not_mem_nil, or_false]
  rintro slot (rfl | rfl) other draft form filled done
  · exact absurd rfl other
  · obtain ⟨_, _, rfl⟩ := Json.slot_fill_ok done
    rfl

private theorem field_roles :
    Field schema.slots "roles" (Decoder.listOf Decoder.text) Form.roles := by
  refine .of_slot rfl (fun _ _ ↦ rfl) ?_
  simp only [schema, List.mem_cons, List.not_mem_nil, or_false]
  rintro slot (rfl | rfl) other draft form filled done
  · obtain ⟨_, _, rfl⟩ := Json.slot_fill_ok done
    rfl
  · exact absurd rfl other

/-- The claims are what an object says of the user and the roles. -/
structure Stand (claims : Claims) (members : Members) : Prop where
  subject : members.values "sub" = [.text (.ok claims.subject)]
  roles : members.values "roles" = [.list (.ofTexts claims.roles)] ∨
    members.values "roles" = [] ∧ claims.roles = []

/-- Claims are read from an object that says so. -/
theorem stand_of_decoder {claims : Claims} {members : Members}
    (read : decoder (.object members) = .ok claims) : claims.Stand members := by
  obtain ⟨form, filled, complete⟩ := exists_of_bind read
  have subject : Takes _ _ _ := field_subject.of_fill members filled
  have roles : Takes _ _ _ := field_roles.of_fill members filled
  obtain ⟨heldSubject, heldRoles⟩ := form
  cases heldSubject with
  | none => cases complete
  | some value =>
    cases complete
    obtain ⟨draft, only, text⟩ := subject.eq_singleton
    refine ⟨by rw [only, Decoder.text_eq_ok text], ?_⟩
    cases heldRoles with
    | none => exact .inr ⟨roles.eq_nil, rfl⟩
    | some values =>
      obtain ⟨draft, only, texts⟩ := roles.eq_singleton
      exact .inl (by rw [only, Decoder.listOf_text_eq_ok texts]; rfl)

/-- An expiry makes no difference to the claims, if its value is whole. -/
theorem decoder_without_expiry {members : Members}
    (whole : ∀ value ∈ members.values "exp", value.isWhole) :
    decoder (.object (members.without "exp")) = decoder (.object members) := by
  have same : (members.without "exp").fill schema.slots schema.empty =
      members.fill schema.slots schema.empty :=
    members.fill_without_unknown rfl whole schema.empty
  exact congrArg (· >>= schema.complete) same

end Claims

/-! ### Headers -/

namespace Token

/-- The value is the name of HMAC with SHA-256. A name may also be the only key of an object. -/
inductive NamesHs256 : Draft → Prop where
  | text : NamesHs256 (.text (.ok "HS256"))
  | key : NamesHs256 (.object (.member (.ok "HS256") .null .closed))

/-- The header says that the token is signed by HMAC with SHA-256: under the key of the algorithm,
or in its place in a list of the fields. -/
inductive HeaderNamesHs256 : Draft → Prop where
  | object {members : Members} {value : Draft} (only : members.values "alg" = [value])
      (names : NamesHs256 value) : HeaderNamesHs256 (.object members)
  | list {first value : Draft} {rest : Items} (names : NamesHs256 value) :
      HeaderNamesHs256 (.list (.item first (.item value rest)))

private theorem names_of_word {draft : Draft} {value : Unit}
    (read : Key.word ["HS256"] draft = .ok value) : NamesHs256 draft := by
  obtain ⟨name, known, read⟩ := Decoder.named_eq_ok read
  obtain rfl : name = "HS256" := by simpa using known
  obtain rfl | rfl := read
  · exact .text
  · exact .key

private theorem fill_header {slot : Json.Slot (List String)} (listed : slot ∈ headerSchema.slots)
    {draft : Draft} {names filled : List String} (done : slot.fill draft names = .ok filled) :
    filled = slot.name :: names := by
  simp only [headerSchema, Json.outline, List.mem_cons, List.not_mem_nil, or_false] at listed
  rcases listed with rfl | rfl | rfl | rfl | rfl | rfl | rfl | rfl | rfl | rfl
  all_goals
    obtain ⟨value, _, rfl⟩ := Json.mention_fill_ok done
    rfl

private theorem field_algorithm : Field headerSchema.slots "alg" (Key.word ["HS256"])
    (fun names ↦ if names.contains "alg" then some () else none) := by
  refine ⟨⟨_, rfl, fun names ↦ ?_, fun draft names filled done ↦ ?_⟩,
    fun slot listed other draft names filled done ↦ ?_⟩
  · change names.contains "alg" = _
    cases names.contains "alg" <;> rfl
  · obtain ⟨value, decoded, rfl⟩ := Json.mention_fill_ok done
    exact ⟨(), decoded, by simp⟩
  · rw [fill_header listed done, List.contains_cons, beq_eq_false_iff_ne.mpr (Ne.symm other),
      Bool.false_or]

/-- A header that is accepted says how the token is signed. -/
theorem names_of_header {draft : Draft} {value : Unit} (read : header draft = .ok value) :
    HeaderNamesHs256 draft := by
  unfold header Json.Schema.decode at read
  split at read
  · next members =>
    obtain ⟨names, filled, complete⟩ := exists_of_bind read
    have algorithm : Takes _ _ _ := field_algorithm.of_fill members filled
    have whole : (if ["alg"].all names.contains then some () else none) = some value :=
      Json.complete_ok complete
    have noted : names.contains "alg" := by simpa using whole
    rw [if_pos noted] at algorithm
    obtain ⟨value, only, word⟩ := algorithm.eq_singleton
    exact .object only (names_of_word word)
  · next items =>
    obtain ⟨names, filled, _⟩ := exists_of_bind read
    cases items with
    | closed | broken => cases filled
    | item first items =>
      obtain ⟨_, _, filled⟩ := exists_of_bind filled
      cases items with
      | closed | broken => cases filled
      | item second items =>
        obtain ⟨_, algorithm, _⟩ := exists_of_bind filled
        obtain ⟨_, word, _⟩ := Json.mention_fill_ok algorithm
        exact .list (names_of_word word)
  · cases read

/-! ### Terms -/

private theorem field_expiry : Field termsSchema.slots "exp" seconds Terms.expiry := by
  refine .of_slot rfl (fun _ _ ↦ rfl) ?_
  simp only [termsSchema, List.mem_cons, List.not_mem_nil, or_false]
  rintro slot (rfl | rfl | rfl | rfl) other draft form filled done
  · exact absurd rfl other
  all_goals
    obtain ⟨_, _, rfl⟩ := Json.slot_fill_ok done
    rfl

private theorem apart_expiry (expiry : Option Nat) :
    Json.Apart termsSchema.slots "exp" fun terms ↦ { terms with expiry := some expiry } := by
  constructor
  all_goals
    simp only [termsSchema, List.mem_cons, List.not_mem_nil, or_false]
    rintro slot (rfl | rfl | rfl | rfl) other
  case isFilled.inl | fill.inl => exact absurd rfl other
  case fill.inr.inl | fill.inr.inr.inl | fill.inr.inr.inr =>
    exact Json.slot_fill_update fun _ _ ↦ rfl
  all_goals exact fun _ ↦ rfl

/-- What an object says of the expiry of a token: nothing at all, or the value of a number. -/
theorem takes_expiry {members : Members} {terms : Terms}
    (read : Token.terms (.object members) = .ok terms) :
    Takes seconds (members.values "exp") terms.expiry := by
  obtain ⟨form, filled, complete⟩ := exists_of_bind read
  have expiry : Takes _ _ _ := field_expiry.of_fill members filled
  cases Json.complete_ok complete
  exact expiry

/-- The value is a number that is written without a point and an exponent. -/
def IsInteger (draft : Draft) : Prop :=
  ∃ number : Json.Number, draft = .number number ∧ number.fraction = none ∧ number.exponent = none

/-- An expiry is missing, or it is one whole number. -/
def HasPlainExpiry (members : Members) : Prop :=
  members.values "exp" = [] ∨ ∃ value, members.values "exp" = [value] ∧ IsInteger value

/-- A whole number is read to its end, whatever its size. -/
theorem seconds_of_isInteger {draft : Draft} (integer : IsInteger draft) :
    ∃ expiry, seconds draft = .ok expiry := by
  obtain ⟨number, rfl, _, plain⟩ := integer
  have flaw : number.flaw? ≠ some .early := by
    rw [Json.Number.flaw?, plain]
    split <;> simp
  rw [seconds]
  split
  · next early => exact absurd early flaw
  · exact ⟨_, rfl⟩

/-- A plain expiry is whole. -/
theorem HasPlainExpiry.whole {members : Members} (plain : HasPlainExpiry members) :
    ∀ value ∈ members.values "exp", value.isWhole := by
  obtain none | ⟨value, only, number, rfl, _⟩ := plain
  · simp [none]
  · simp [only, Draft.isWhole]

/-- A plain expiry makes no difference to whether there is an audience. -/
theorem audience_without_expiry {members : Members} (plain : HasPlainExpiry members) :
    (terms (.object members)).map Terms.audience =
      (terms (.object (members.without "exp"))).map Terms.audience := by
  obtain none | ⟨value, only, integer⟩ := plain
  · rw [members.without_eq_self none]
  · obtain ⟨expiry, read⟩ := seconds_of_isInteger integer
    have reads (form : Terms) :
        (Json.slot "exp" Terms.expiry (fun terms value ↦ { terms with expiry := some value })
          seconds false).fill value form = .ok { form with expiry := some expiry } := by
      simp only [Json.slot, read]
      rfl
    have filled : members.fill termsSchema.slots termsSchema.empty = _ :=
      members.fill_without field_expiry (apart_expiry expiry) rfl reads only rfl
    simp only [terms, Json.Schema.decode, filled]
    cases (members.without "exp").fill termsSchema.slots termsSchema.empty <;> rfl

end Token

end Tagging
