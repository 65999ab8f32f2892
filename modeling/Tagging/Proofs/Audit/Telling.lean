import Tagging.Proofs.Audit.History

/-!
# What events tell

An event may tell that an object exists from then on, or does no more, and that a tag is attached to
a document from then on, or is no more. Of all events that tell, the newest is the one that counts.
-/

namespace Tagging

/-! ### Single events -/

/-- The verb by which the creation of an object of a kind is recorded. -/
def Kind.created : Kind → Verb
  | .tag => .tagCreated
  | .document => .documentCreated

/-- The verb by which the deletion of an object of a kind is recorded. -/
def Kind.deleted : Kind → Verb
  | .tag => .tagDeleted
  | .document => .documentDeleted

namespace Event

/-- Whether an object exists after an event, if the event tells. -/
def presence (event : Event) (object : Object) : Option Bool :=
  match event.verb, object.kind with
  | .tagCreated, .tag | .documentCreated, .document =>
    if event.target = object then some true else none
  | .tagDeleted, .tag | .documentDeleted, .document =>
    if event.target = object then some false else none
  | _, _ => none

/-- The event is about this tag and this document. -/
def IsBetween (event : Event) (tag document : Uuid) : Prop :=
  event.target = .tag tag ∧ event.actionObject = some (.document document)

instance (event : Event) (tag document : Uuid) : Decidable (event.IsBetween tag document) :=
  inferInstanceAs (Decidable (_ ∧ _))

/-- Whether a tag is attached to a document after an event, if the event tells. -/
def attachment (event : Event) (tag document : Uuid) : Option Bool :=
  match event.verb with
  | .tagAttach => if event.IsBetween tag document then some true else none
  | .tagRemoved => if event.IsBetween tag document then some false else none
  | .tagDeleted => if event.target = .tag tag then some false else none
  | .documentDeleted => if event.target = .document document then some false else none
  | _ => none

section

variable {event : Event}

/-- A creation tells that its object exists, and nothing of others. -/
theorem presence_of_created (verb : event.verb = event.target.kind.created) (object : Object) :
    event.presence object = if event.target = object then some true else none := by
  obtain ⟨kind, id⟩ := object
  cases target : event.target with
  | mk own other =>
    rw [target] at verb
    cases own <;> cases kind <;> simp_all [presence, Kind.created]

/-- A deletion tells that its object does not exist, and nothing of others. -/
theorem presence_of_deleted (verb : event.verb = event.target.kind.deleted) (object : Object) :
    event.presence object = if event.target = object then some false else none := by
  obtain ⟨kind, id⟩ := object
  cases target : event.target with
  | mk own other =>
    rw [target] at verb
    cases own <;> cases kind <;> simp_all [presence, Kind.deleted]

/-- A creation tells nothing of attachments. -/
theorem attachment_of_created (verb : event.verb = event.target.kind.created)
    (tag document : Uuid) : event.attachment tag document = none := by
  cases kind : event.target.kind <;> simp_all [attachment, Kind.created]

/-- A deletion tells that nothing is attached to its object. -/
theorem attachment_of_deleted (verb : event.verb = event.target.kind.deleted)
    (tag document : Uuid) :
    event.attachment tag document =
      if event.target = .tag tag ∨ event.target = .document document then some false else none := by
  cases target : event.target with
  | mk kind id =>
    rw [target] at verb
    cases kind <;> simp_all [attachment, Kind.deleted, Object.tag, Object.document]

/-- An event that is neither a creation nor a deletion tells nothing of what exists. -/
theorem presence_eq_none
    (other : event.verb ∉ [Verb.tagCreated, .tagDeleted, .documentCreated, .documentDeleted])
    (object : Object) : event.presence object = none := by
  cases verb : event.verb <;> simp_all [presence]

private theorem isSome_told (condition : Prop) [Decidable condition] (value : Bool) :
    (if condition then some value else none).isSome = decide condition := by
  split <;> simp [*]

/-- An event tells whether an object exists if it is the creation or the deletion of the object. -/
theorem isSome_presence (event : Event) (object : Object) :
    (event.presence object).isSome =
      decide (event.target = object ∧
        (event.verb = object.kind.created ∨ event.verb = object.kind.deleted)) := by
  obtain ⟨kind, id⟩ := object
  cases kind <;> cases verb : event.verb <;>
    simp [presence, verb, Kind.created, Kind.deleted, isSome_told]

/-- An event that tells whether an object exists says so if it is a creation. -/
theorem verb_of_presence {object : Object} {value : Bool}
    (told : event.presence object = some value) :
    value = true ↔ event.verb = object.kind.created := by
  obtain ⟨kind, id⟩ := object
  cases kind <;> cases verb : event.verb <;> simp_all [presence, Kind.created]

/-- An event is about one tag and one document only. -/
theorem IsBetween.iff {tag document : Uuid} (between : event.IsBetween tag document)
    (other second : Uuid) : event.IsBetween other second ↔ tag = other ∧ document = second := by
  obtain ⟨target, actionObject⟩ := between
  simp [IsBetween, target, actionObject, Object.tag, Object.document]

/-- An event tells whether a tag is attached to a document if it attaches or detaches the two, or
deletes one of them. -/
theorem isSome_attachment (event : Event) (tag document : Uuid) :
    (event.attachment tag document).isSome =
      decide (event.IsBetween tag document ∧ (event.verb = .tagAttach ∨ event.verb = .tagRemoved) ∨
        event.target = .tag tag ∧ event.verb = .tagDeleted ∨
        event.target = .document document ∧ event.verb = .documentDeleted) := by
  cases verb : event.verb <;> simp [attachment, verb, isSome_told]

/-- An event that tells whether a tag is attached to a document says so if it attaches. -/
theorem verb_of_attachment {tag document : Uuid} {value : Bool}
    (told : event.attachment tag document = some value) :
    value = true ↔ event.verb = .tagAttach := by
  cases verb : event.verb <;> simp_all [attachment]

/-- An event that tells that a tag is attached to a document attaches the two. -/
theorem attaches {tag document : Uuid} (told : event.attachment tag document = some true) :
    event.verb = .tagAttach ∧ event.IsBetween tag document := by
  have verb := (verb_of_attachment told).mp rfl
  have relevant : (event.attachment tag document).isSome := by rw [told]; rfl
  rw [isSome_attachment] at relevant
  simp_all

/-- An event that tells that a document does not exist tells that nothing is attached to it. -/
theorem attachment_of_gone {document : Uuid}
    (gone : event.presence (.document document) = some false) (tag : Uuid) :
    event.attachment tag document = some false := by
  cases verb : event.verb with
  | documentCreated =>
    have affirmed := (verb_of_presence gone).mpr verb
    cases affirmed
  | _ => simp_all [presence, attachment, Object.document]

end

end Event

/-! ### Logs -/

namespace EventLog

/-- The newest event that meets a condition. -/
def newest? (log : EventLog) (condition : Event → Bool) : Option Event :=
  log.toList.reverse.find? condition

/-- What the newest event tells of those that tell; without any, nothing is the case. -/
def tells (log : EventLog) (told : Event → Option Bool) : Bool :=
  (log.toList.reverse.findSome? told).getD false

/-- An event that was recorded last is the newest. -/
theorem tells_record (log : EventLog) (event : Event) (told : Event → Option Bool) :
    (log.record event).tells told = (told event).getD (log.tells told) := by
  rw [tells, toList_record, List.reverse_append, List.reverse_singleton, List.singleton_append,
    List.findSome?_cons]
  cases told event <;> rfl

/-- Something is the case if the newest event that tells of it has the verb that affirms it. -/
theorem tells_iff {told : Event → Option Bool} {condition : Event → Bool} {affirming : Verb}
    (relevant : ∀ event, (told event).isSome = condition event)
    (affirms : ∀ event value, told event = some value → (value = true ↔ event.verb = affirming))
    (log : EventLog) :
    log.tells told ↔
      ∃ event, log.newest? condition = some event ∧ event.verb = affirming := by
  rw [tells, newest?]
  induction log.toList.reverse with
  | nil => simp
  | cons event events ih =>
    rw [List.findSome?_cons, List.find?_cons, ← relevant]
    cases heard : told event with
    | none => simpa using ih
    | some value => simp [affirms event value heard]

end EventLog

end Tagging
