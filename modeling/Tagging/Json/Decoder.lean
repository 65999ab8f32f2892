import Tagging.Json.Draft

/-!
# Reading values of a wanted kind

Decoders ask of a draft whether it holds what is wanted, in the order in which the text was
written. A record is read from an object with its fields in any order, unknown ones skipped, or
from a list of its fields in their declared order.
-/

namespace Tagging.Json

/-- Asks a draft for a value. -/
abbrev Decoder (α : Type) := Draft → Except Fault α

namespace Decoder

/-- A text. -/
def text : Decoder String
  | .text (.ok value) => .ok value
  | draft => .error draft.unexpected

/-- A text that denotes something. -/
def parsed {α : Type} (parse : String → Option α) : Decoder α := fun draft ↦ do
  match parse (← text draft) with
  | some value => .ok value
  | none => .error .mismatch

/-- Nothing: the word `null`. -/
def nothing : Decoder Unit
  | .null => .ok ()
  | draft => .error draft.unexpected

/-- A value, or `null` for its absence. -/
def optional {α : Type} (decode : Decoder α) : Decoder (Option α)
  | .null => .ok none
  | draft => do .ok (some (← decode draft))

/-- The values of the items, from left to right. -/
def items {α : Type} (decode : Decoder α) : Items → Except Fault (List α)
  | .closed => .ok []
  | .broken => .error .malformed
  | .item value rest => do
    let first ← decode value
    .ok (first :: (← items decode rest))

/-- A list of values of one kind. -/
def listOf {α : Type} (decode : Decoder α) : Decoder (List α)
  | .list found => items decode found
  | draft => .error draft.unexpected

/-- The keys and values of the members, from left to right. -/
def members {κ α : Type} (parse : String → Option κ) (decode : Decoder α) :
    Members → Except Fault (List (κ × α))
  | .closed => .ok []
  | .member (.ok key) value rest =>
    match parse key with
    | none => .error .mismatch
    | some key => do
      let first ← decode value
      .ok ((key, first) :: (← members parse decode rest))
  | _ => .error .malformed

/-- An object whose keys all denote something. -/
def mapOf {κ α : Type} (parse : String → Option κ) (decode : Decoder α) : Decoder (List (κ × α))
  | .object found => members parse decode found
  | draft => .error draft.unexpected

/-- One of several forms: a name alone, or an object whose only key is the name of a form and whose
value is the form's content. -/
def choice {α : Type} (plain : String → Option α) (tagged : String → Option (Decoder α)) :
    Decoder α
  | .text (.ok name) =>
    match plain name with
    | some value => .ok value
    | none => .error .mismatch
  | .object (.member (.ok name) content rest) =>
    match tagged name with
    | none => .error .mismatch
    | some decode => do
      let value ← decode content
      match rest with
      | .closed => .ok value
      | _ => .error .malformed
  | _ => .error .malformed

/-- One of several names. A name may also be the only key of an object, with `null` as its value. -/
def named {α : Type} (ofName? : String → Option α) : Decoder α :=
  choice ofName? fun name ↦ (ofName? name).map fun value draft ↦ do
    nothing draft
    .ok value

end Decoder

/-- A place for one field in the form that a record is read into. -/
structure Slot (φ : Type) where
  /-- The key of the field. -/
  name : String
  /-- The field was read already. -/
  isFilled : φ → Bool
  /-- Reads the field. -/
  fill : Draft → φ → Except Fault φ
  /-- The field may be left off at the end of a list. -/
  isOpen : Bool

/-- A slot that puts what a decoder reads into a form. -/
def slot {φ β : Type} (name : String) (get : φ → Option β) (set : φ → β → φ) (decode : Decoder β)
    (isOpen : Bool) : Slot φ where
  name := name
  isFilled form := (get form).isSome
  fill draft form := do .ok (set form (← decode draft))
  isOpen := isOpen

/-- How a record is read: an empty form, a slot for each field in their declared order, and what a
filled form amounts to, `none` if a field is missing. -/
structure Schema (φ α : Type) where
  empty : φ
  slots : List (Slot φ)
  finish : φ → Option α

/-- Fills a form from the members of an object. -/
def Members.fill {φ : Type} (slots : List (Slot φ)) : Members → φ → Except Fault φ
  | .closed, form => .ok form
  | .member (.ok key) value rest, form =>
    match slots.find? (·.name = key) with
    | none => if value.isWhole then rest.fill slots form else .error .malformed
    | some slot =>
      if slot.isFilled form then .error .mismatch
      else do rest.fill slots (← slot.fill value form)
  | _, _ => .error .malformed

/-- Fills a form from the items of a list. -/
def Items.fill {φ : Type} : Items → List (Slot φ) → φ → Except Fault φ
  | .closed, slots, form => if slots.all (·.isOpen) then .ok form else .error .mismatch
  | .item value rest, slot :: slots, form => do rest.fill slots (← slot.fill value form)
  | _, _, _ => .error .malformed

/-- What a filled form amounts to. -/
def Schema.complete {φ α : Type} (schema : Schema φ α) (form : φ) : Except Fault α :=
  match schema.finish form with
  | some value => .ok value
  | none => .error .mismatch

/-- A record. -/
def Schema.decode {φ α : Type} (schema : Schema φ α) : Decoder α
  | .object members => do schema.complete (← members.fill schema.slots schema.empty)
  | .list items => do schema.complete (← items.fill schema.slots schema.empty)
  | draft => .error draft.unexpected

/-- The draft holds what a schema describes. -/
def Schema.accepts {φ α : Type} (schema : Schema φ α) (draft : Draft) : Bool :=
  (schema.decode draft).toOption.isSome

/-- Reads all of an input as one value. -/
def readInput {α : Type} (decode : Decoder α) (input : Input) : Except Fault α := do
  let (draft, rest) := take input
  let value ← decode draft
  if skipSpace rest = [] then .ok value else .error .malformed

/-- Reads all of a text as one value. -/
def read {α : Type} (decode : Decoder α) (text : String) : Except Fault α :=
  readInput decode (text.toList.map some)

/-!
## Records that are only checked

Of some records nothing is kept but that they are in order: their fields are as wanted where they
are there, and those that are needed are there.
-/

/-- A slot that notes the name of a field that is as wanted. -/
def mention {α : Type} (name : String) (decode : Decoder α) : Slot (List String) where
  name := name
  isFilled names := names.contains name
  fill draft names := do
    let _ ← decode draft
    .ok (name :: names)
  isOpen := false

/-- How a record is checked: its slots, and the names of the fields that are needed. -/
def outline (slots : List (Slot (List String))) (needed : List String) :
    Schema (List String) Unit where
  empty := []
  slots := slots
  finish names := if needed.all names.contains then some () else none

end Tagging.Json
