import Tagging.Json.Decoder
import Tagging.Proofs.Result

/-!
# Records by their members

A record is read from an object one member after the other. What it holds in the end is told by the
values under each key: a field is read from the only value under its key, and a second one is
refused.
-/

namespace Tagging.Json

/-! ### Values under a key -/

/-- The values under a key, from left to right. -/
def Members.values (key : String) : Members → List Draft
  | .closed | .broken => []
  | .member (.ok name) value rest =>
    if name = key then value :: rest.values key else rest.values key
  | .member (.error _) _ rest => rest.values key

/-- The members that are not under a key. -/
def Members.without (key : String) : Members → Members
  | .closed => .closed
  | .broken => .broken
  | .member (.ok name) value rest =>
    if name = key then rest.without key else .member (.ok name) value (rest.without key)
  | .member (.error flaw) value rest => .member (.error flaw) value (rest.without key)

/-- What is taken from the values under a key: nothing if there is none, and otherwise what a
decoder makes of the only one. -/
inductive Takes {β : Type} (decode : Decoder β) : List Draft → Option β → Prop where
  | nothing : Takes decode [] none
  | value {draft : Draft} {value : β} (decoded : decode draft = .ok value) :
      Takes decode [draft] (some value)

section

variable {β : Type} {decode : Decoder β} {values : List Draft}

/-- Where nothing is taken, there is nothing. -/
theorem Takes.eq_nil (takes : Takes decode values none) : values = [] := by
  cases takes
  rfl

/-- What is taken is read from the only value. -/
theorem Takes.eq_singleton {value : β} (takes : Takes decode values (some value)) :
    ∃ draft, values = [draft] ∧ decode draft = .ok value := by
  cases takes with
  | value decoded => exact ⟨_, rfl, decoded⟩

end

/-! ### Fields -/

/-- A list of slots reads the values under a key by a decoder, and keeps in the form what that
makes of them. -/
structure Field {φ β : Type} (slots : List (Slot φ)) (key : String) (decode : Decoder β)
    (get : φ → Option β) : Prop where
  own : ∃ slot, slots.find? (·.name = key) = some slot ∧
    (∀ form, slot.isFilled form = (get form).isSome) ∧
    ∀ draft form filled, slot.fill draft form = .ok filled →
      ∃ value, decode draft = .ok value ∧ get filled = some value
  others : ∀ slot ∈ slots, slot.name ≠ key → ∀ draft form filled,
    slot.fill draft form = .ok filled → get filled = get form

section

variable {φ β : Type} {slots : List (Slot φ)} {key : String}

/-- A form that is complete amounts to a value. -/
theorem complete_ok {α : Type} {schema : Schema φ α} {form : φ} {value : α}
    (done : schema.complete form = .ok value) : schema.finish form = some value := by
  unfold Schema.complete at done
  split at done
  · next found =>
    rw [found, Except.ok.inj done]
  · cases done

/-- A slot for a field is filled with what its decoder makes of a value. -/
theorem slot_fill_ok {name : String} {get : φ → Option β} {set : φ → β → φ} {decode : Decoder β}
    {isOpen : Bool} {draft : Draft} {form filled : φ}
    (done : (slot name get set decode isOpen).fill draft form = .ok filled) :
    ∃ value, decode draft = .ok value ∧ filled = set form value := by
  simp only [slot] at done
  obtain ⟨value, decoded, same⟩ := exists_of_bind done
  exact ⟨value, decoded, (Except.ok.inj same).symm⟩

/-- A slot reads its own field. -/
theorem Field.of_slot {name : String} {get : φ → Option β} {set : φ → β → φ} {decode : Decoder β}
    {isOpen : Bool} (found : slots.find? (·.name = name) = some (slot name get set decode isOpen))
    (keeps : ∀ form value, get (set form value) = some value)
    (others : ∀ slot ∈ slots, slot.name ≠ name → ∀ draft form filled,
      slot.fill draft form = .ok filled → get filled = get form) :
    Field slots name decode get where
  own := by
    refine ⟨_, found, fun form ↦ rfl, fun draft form filled done ↦ ?_⟩
    obtain ⟨value, decoded, rfl⟩ := slot_fill_ok done
    exact ⟨value, decoded, keeps form value⟩
  others := others

/-- A slot for a field that is only checked notes its name. -/
theorem mention_fill_ok {name : String} {decode : Decoder β} {draft : Draft}
    {names filled : List String} (done : (mention name decode).fill draft names = .ok filled) :
    ∃ value, decode draft = .ok value ∧ filled = name :: names := by
  simp only [mention] at done
  obtain ⟨value, decoded, same⟩ := exists_of_bind done
  exact ⟨value, decoded, (Except.ok.inj same).symm⟩

private theorem Members.fill_member_ok {name : Except Flaw String} {value : Draft} {rest : Members}
    {form filled : φ} (done : (Members.member name value rest).fill slots form = .ok filled) :
    ∃ known, name = .ok known ∧
      (slots.find? (·.name = known) = none ∧ rest.fill slots form = .ok filled ∨
        ∃ slot next, slots.find? (·.name = known) = some slot ∧ slot.isFilled form = false ∧
          slot.fill value form = .ok next ∧ rest.fill slots next = .ok filled) := by
  cases name with
  | error flaw => cases done
  | ok known =>
    refine ⟨known, rfl, ?_⟩
    rw [Members.fill] at done
    cases found : slots.find? (·.name = known) with
    | none =>
      simp only [found] at done
      split at done
      · exact .inl ⟨rfl, done⟩
      · cases done
    | some slot =>
      simp only [found] at done
      split at done
      · cases done
      · next empty =>
        obtain ⟨next, read, done⟩ := exists_of_bind done
        exact .inr ⟨slot, next, rfl, Bool.eq_false_iff.mpr empty, read, done⟩

variable {decode : Decoder β} {get : φ → Option β}

/-- A field that holds something keeps it, and there is no further value under its key; one that
holds nothing takes what the members have under its key. -/
theorem Field.of_fill (field : Field slots key decode get) (members : Members) {form filled : φ}
    (done : members.fill slots form = .ok filled) :
    match get form with
    | some value => members.values key = [] ∧ get filled = some value
    | none => Takes decode (members.values key) (get filled) := by
  match members with
  | .closed =>
    cases done
    cases held : get form with
    | none => exact .nothing
    | some value => exact ⟨rfl, rfl⟩
  | .broken => cases done
  | .member name value rest =>
    obtain ⟨known, rfl, ⟨unknown, done⟩ | ⟨slot, next, found, empty, read, done⟩⟩ :=
      Members.fill_member_ok done
    · have ih := field.of_fill rest done
      have differs : known ≠ key := by
        rintro rfl
        obtain ⟨slot, found, _⟩ := field.own
        rw [unknown] at found
        cases found
      rwa [Members.values, if_neg differs]
    · have ih := field.of_fill rest done
      have named : slot.name = known := by simpa using List.find?_some found
      rw [Members.values]
      by_cases same : known = key
      · obtain ⟨own, foundOwn, isFilled, fills⟩ := field.own
        subst same
        obtain rfl : slot = own := Option.some.inj (found.symm.trans foundOwn)
        obtain ⟨taken, decoded, holds⟩ := fills _ _ _ read
        rw [isFilled, Option.isSome_eq_false_iff, Option.isNone_iff_eq_none] at empty
        rw [holds] at ih
        rw [empty, if_pos rfl, ih.1, ih.2]
        exact .value decoded
      · have differs : slot.name ≠ key := by rwa [named]
        have kept := field.others slot (List.mem_of_find?_eq_some found) differs _ _ _ read
        rw [if_neg same, ← kept]
        exact ih

end

/-! ### Members that make no difference -/

/-- What an update changes is neither looked at nor changed by the slots for other keys. -/
structure Apart {φ : Type} (slots : List (Slot φ)) (key : String) (update : φ → φ) : Prop where
  isFilled : ∀ slot ∈ slots, slot.name ≠ key → ∀ form,
    slot.isFilled (update form) = slot.isFilled form
  fill : ∀ slot ∈ slots, slot.name ≠ key → ∀ draft form,
    slot.fill draft (update form) = (slot.fill draft form).map update

section

variable {φ : Type} {slots : List (Slot φ)} {key : String}

/-- An update may be made before or after a slot is filled with what has nothing to do with it. -/
theorem slot_fill_update {β : Type} {name : String} {get : φ → Option β} {set : φ → β → φ}
    {decode : Decoder β} {isOpen : Bool} {update : φ → φ}
    (apart : ∀ form value, set (update form) value = update (set form value)) (draft : Draft)
    (form : φ) : (slot name get set decode isOpen).fill draft (update form) =
      ((slot name get set decode isOpen).fill draft form).map update := by
  simp only [slot]
  cases decode draft with
  | error fault => rfl
  | ok value => exact congrArg Except.ok (apart form value)

/-- If nothing is under a key, all members are under others. -/
theorem Members.without_eq_self (members : Members) (none : members.values key = []) :
    members.without key = members := by
  match members with
  | .closed | .broken => rfl
  | .member (.error flaw) value rest => rw [without, rest.without_eq_self none]
  | .member (.ok name) value rest =>
    rw [values] at none
    split at none
    · cases none
    · next differs => rw [without, if_neg differs, rest.without_eq_self none]

/-- Members under an unknown key may be left out, if their values are whole. -/
theorem Members.fill_without_unknown (members : Members)
    (unknown : slots.find? (·.name = key) = none)
    (whole : ∀ value ∈ members.values key, value.isWhole) (form : φ) :
    (members.without key).fill slots form = members.fill slots form := by
  match members with
  | .closed | .broken => rfl
  | .member (.error flaw) value rest => rfl
  | .member (.ok name) value rest =>
    rw [values] at whole
    rw [without]
    by_cases same : name = key
    · rw [if_pos same, List.forall_mem_cons] at whole
      rw [if_pos same, Members.fill, same, unknown]
      simp only [whole.1, if_true]
      exact rest.fill_without_unknown unknown whole.2 form
    · rw [if_neg same] at whole
      rw [if_neg same, Members.fill, Members.fill]
      cases slots.find? (·.name = name) with
      | none => simp only [rest.fill_without_unknown unknown whole form]
      | some slot =>
        simp only
        split
        · rfl
        · exact congrArg _ (funext (rest.fill_without_unknown unknown whole))

private theorem Members.fill_update {update : φ → φ} (apart : Apart slots key update)
    (members : Members) (none : members.values key = []) (form : φ) :
    members.fill slots (update form) = (members.fill slots form).map update := by
  match members with
  | .closed | .broken => rfl
  | .member (.error flaw) value rest => rfl
  | .member (.ok name) value rest =>
    rw [values] at none
    split at none
    · cases none
    · next differs =>
      rw [Members.fill, Members.fill]
      cases found : slots.find? (·.name = name) with
      | none =>
        simp only
        split
        · exact rest.fill_update apart none form
        · rfl
      | some slot =>
        have listed := List.mem_of_find?_eq_some found
        have named : slot.name = name := by simpa using List.find?_some found
        have other : slot.name ≠ key := by rwa [named]
        simp only [apart.isFilled slot listed other, apart.fill slot listed other]
        split
        · rfl
        · cases slot.fill value form with
          | error fault => rfl
          | ok next => exact rest.fill_update apart none next

/-- The only member under a key may be left out, but for the update that it makes. -/
theorem Members.fill_without {β : Type} {decode : Decoder β} {get : φ → Option β} {update : φ → φ}
    {slot : Slot φ} {draft : Draft} (field : Field slots key decode get)
    (apart : Apart slots key update) (own : slots.find? (·.name = key) = some slot)
    (reads : ∀ form, slot.fill draft form = .ok (update form)) (members : Members)
    (only : members.values key = [draft]) {form : φ} (empty : get form = none) :
    members.fill slots form = ((members.without key).fill slots form).map update := by
  match members with
  | .closed | .broken => cases only
  | .member (.error flaw) value rest => rfl
  | .member (.ok name) value rest =>
    rw [values] at only
    rw [without]
    by_cases same : name = key
    · rw [if_pos same] at only
      obtain ⟨rfl, none⟩ := List.cons.inj only
      obtain ⟨slot', found, isFilled, _⟩ := field.own
      obtain rfl : slot' = slot := Option.some.inj (found.symm.trans own)
      rw [if_pos same, Members.fill, same, own, rest.without_eq_self none,
        ← rest.fill_update apart none form]
      simp only [isFilled, empty, Option.isSome_none, reads]
      rfl
    · rw [if_neg same] at only
      rw [if_neg same, Members.fill, Members.fill]
      cases found : slots.find? (·.name = name) with
      | none =>
        simp only
        split
        · exact rest.fill_without field apart own reads only empty
        · rfl
      | some other =>
        have listed := List.mem_of_find?_eq_some found
        have named : other.name = name := by simpa using List.find?_some found
        have differs : other.name ≠ key := by rwa [named]
        simp only
        split
        · rfl
        · cases read : other.fill value form with
          | error fault => rfl
          | ok next =>
            have kept := field.others other listed differs _ _ _ read
            exact rest.fill_without field apart own reads only (kept.trans empty)

end

end Tagging.Json
