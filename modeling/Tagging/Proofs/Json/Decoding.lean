import Tagging.Proofs.Json.Reading

/-!
# Decoders that invert an encoding

A decoder inverts an encoding if it gives back every value from what is written for it. Each way of
putting decoders together keeps this, so that for a record it only remains to say which decoder
inverts the encoding of which field.
-/

namespace Tagging.Json

/-- The decoder gives back every value from its draft. -/
def Decoder.Inverts {α : Type} (decode : Decoder α) (encode : α → Json) : Prop :=
  ∀ value, decode (encode value).draft = .ok value

namespace Decoder

variable {α κ : Type}

/-- Texts are given back. -/
theorem text_inverts : text.Inverts .text :=
  fun _ ↦ rfl

/-- Values with a text that denotes them are given back. -/
theorem parsed_inverts {parse : String → Option α} {print : α → String}
    (denotes : ∀ value, parse (print value) = some value) :
    (parsed parse).Inverts fun value ↦ .text (print value) := by
  intro value
  simp only [parsed, draft, text, bind, Except.bind, denotes]

/-- Values with a name are given back. -/
theorem named_inverts {ofName? : String → Option α} {name : α → String}
    (denotes : ∀ value, ofName? (name value) = some value) :
    (named ofName?).Inverts fun value ↦ .text (name value) := by
  intro value
  simp [named, choice, draft, denotes]

/-- Values that may be absent are given back if no value is written like an absent one. -/
theorem optional_inverts {decode : Decoder α} {encode : Option α → Json}
    (inverts : decode.Inverts fun value ↦ encode (some value)) (absent : encode none = .null)
    (present : ∀ value, (encode (some value)).draft ≠ .null) :
    (optional decode).Inverts encode := by
  intro value
  cases value with
  | none =>
    rw [absent]
    rfl
  | some value =>
    rw [optional, inverts value]
    · rfl
    · exact present value

private theorem items_draftItems {decode : Decoder α} {encode : α → Json}
    (inverts : decode.Inverts encode) (values : List α) :
    items decode (draftItems (values.map encode)) = .ok values := by
  induction values with
  | nil => rfl
  | cons value values ih =>
    rw [List.map_cons, draftItems, items, inverts value, ih]
    rfl

/-- Lists are given back. -/
theorem listOf_inverts {decode : Decoder α} {encode : α → Json} (inverts : decode.Inverts encode) :
    (listOf decode).Inverts fun values ↦ .list (values.map encode) :=
  items_draftItems inverts

private theorem members_draftMembers {parse : String → Option κ} {print : κ → String}
    (denotes : ∀ key, parse (print key) = some key) {decode : Decoder α} {encode : α → Json}
    (inverts : decode.Inverts encode) (entries : List (κ × α)) :
    members parse decode
        (draftMembers (entries.map fun entry ↦ (print entry.1, encode entry.2))) =
      .ok entries := by
  induction entries with
  | nil => rfl
  | cons entry entries ih =>
    rw [List.map_cons, draftMembers, members, denotes]
    dsimp only
    rw [inverts entry.2, ih]
    rfl

/-- Objects whose keys denote something are given back with their members in order. -/
theorem mapOf_inverts {parse : String → Option κ} {print : κ → String}
    (denotes : ∀ key, parse (print key) = some key) {decode : Decoder α} {encode : α → Json}
    (inverts : decode.Inverts encode) :
    (mapOf parse decode).Inverts fun entries ↦
      .object (entries.map fun entry ↦ (print entry.1, encode entry.2)) :=
  members_draftMembers denotes inverts

end Decoder

/-! ### Records -/

/-- A written member fills the slot of its name, if that is still empty. -/
theorem fill_member {φ β : Type} {slots : List (Slot φ)} {name : String} {value : Json}
    {get : φ → Option β} {set : φ → β → φ} {decode : Decoder β} {isOpen : Bool} {form : φ} {x : β}
    (found : slots.find? (·.name = name) = some (slot name get set decode isOpen))
    (unfilled : get form = none) (reads : decode value.draft = .ok x)
    (rest : List (String × Json)) :
    (draftMembers ((name, value) :: rest)).fill slots form =
      (draftMembers rest).fill slots (set form x) := by
  rw [draftMembers, Members.fill, found]
  simp only [slot, unfilled, reads]
  rfl

/-- A record is given back if its written members fill the form to which it amounts. -/
theorem Schema.decode_object {φ α : Type} {schema : Schema φ α} {members : List (String × Json)}
    {form : φ} {value : α}
    (filled : (draftMembers members).fill schema.slots schema.empty = .ok form)
    (complete : schema.finish form = some value) :
    schema.decode (draft (.object members)) = .ok value := by
  rw [draft, decode, filled]
  simp only [bind, Except.bind, Schema.complete, complete]

end Tagging.Json
