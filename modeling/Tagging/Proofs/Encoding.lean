import Tagging.Encoding
import Tagging.Proofs.Access.Containment
import Tagging.Proofs.Audit.History
import Tagging.Proofs.Json.Decoding
import Tagging.Proofs.Time.Timestamp
import Tagging.Proofs.Uuid
import Tagging.Service.Disk

/-!
# What is written is read back

Grants, events, records and whole states are given back from what is written for them.
-/

namespace Tagging

/-!
## Grants read back

A grant is given back from what is written for it, and so is an index of grants: the list that it
is written as names exactly the grants that it contains, and an index is known by those.
-/

open Json (Decoder fill_member)

/-! ### Identifiers and instants -/

/-- Identifiers are given back. -/
theorem Uuid.decoder_inverts : decoder.Inverts toJson :=
  Decoder.parsed_inverts ofString?_toString

/-- Instants are given back, whatever their date. -/
theorem Instant.decoder_inverts : decoder.Inverts toJson :=
  Decoder.parsed_inverts Time.ofTimestamp?_timestamp

/-! ### Parts of a grant -/

/-- A permission is the one with its name. -/
theorem Permission.ofName?_name (permission : Permission) :
    ofName? permission.name = some permission := by
  cases permission <;> decide

/-- Permissions are given back. -/
theorem Permission.decoder_inverts : decoder.Inverts toJson :=
  Decoder.named_inverts ofName?_name

/-- A kind is the one with its name. -/
theorem Kind.ofName?_name (kind : Kind) : ofName? kind.name = some kind := by
  cases kind <;> decide

/-- Kinds are given back. -/
theorem Kind.decoder_inverts : decoder.Inverts toJson :=
  Decoder.named_inverts ofName?_name

/-- Objects are given back. -/
theorem Object.decoder_inverts : decoder.Inverts toJson := by
  intro object
  apply Json.Schema.decode_object
  · rw [fill_member rfl rfl (Kind.decoder_inverts object.kind),
      fill_member rfl rfl (Uuid.decoder_inverts object.id)]
    rfl
  · rfl

/-- Objects that may be absent are given back. -/
theorem Object.optional_inverts : (Decoder.optional decoder).Inverts optionToJson :=
  Decoder.optional_inverts decoder_inverts rfl fun _ ↦ nofun

/-- Holders are given back. -/
theorem Holder.decoder_inverts : decoder.Inverts toJson := by
  intro holder
  cases holder <;> rfl

/-- Grants are given back. -/
theorem Grant.decoder_inverts : decoder.Inverts toJson := by
  intro grant
  apply Json.Schema.decode_object
  · rw [fill_member rfl rfl (Holder.decoder_inverts grant.holder),
      fill_member rfl rfl (Permission.decoder_inverts grant.permission),
      fill_member rfl rfl (Object.optional_inverts grant.object)]
    rfl
  · rfl

/-- Indexes are given back. -/
theorem GrantIndex.decoder_inverts : decoder.Inverts toJson := by
  intro index
  have grants := Decoder.listOf_inverts Grant.decoder_inverts index.toList
  rw [decoder, toJson, grants]
  exact congrArg Except.ok index.ofList_toList

/-!
## Events read back

An event is given back from what is written for it, and a log from the list of its events, with the
index that belongs to them.
-/

/-- A verb is the one with its name. -/
theorem Verb.ofName?_name (verb : Verb) : ofName? verb.name = some verb := by
  cases verb <;> decide

/-- Verbs are told apart by their names. -/
theorem Verb.name_inj {a b : Verb} : a.name = b.name ↔ a = b := by
  refine ⟨fun same ↦ ?_, congrArg name⟩
  have names := congrArg ofName? same
  rw [ofName?_name, ofName?_name] at names
  exact Option.some.inj names

/-- Verbs are given back. -/
theorem Verb.decoder_inverts : decoder.Inverts toJson :=
  Decoder.named_inverts ofName?_name

/-- Events are given back. -/
theorem Event.decoder_inverts : decoder.Inverts toJson := by
  intro event
  apply Json.Schema.decode_object
  · rw [fill_member rfl rfl (Uuid.decoder_inverts event.id),
      fill_member rfl rfl (Verb.decoder_inverts event.verb),
      fill_member rfl rfl (Decoder.text_inverts event.actor),
      fill_member rfl rfl (Object.decoder_inverts event.target),
      fill_member rfl rfl (Object.optional_inverts event.actionObject),
      fill_member rfl rfl (Instant.decoder_inverts event.timestamp)]
    rfl
  · rfl

/-- A log is the log of its events. -/
theorem EventLog.ofList_toList (log : EventLog) : ofList log.toList = log :=
  eq_of_toList (toList_ofList log.toList)

/-- Logs are given back. -/
theorem EventLog.decoder_inverts : decoder.Inverts toJson := by
  intro log
  have events := Decoder.listOf_inverts Event.decoder_inverts log.toList
  rw [decoder, toJson, events]
  exact congrArg Except.ok log.ofList_toList

/-!
## The catalog read back

A record is given back from what is written for it, and the catalog from its records: a map is the
map of its entries in whatever order they are written, since no two of them have the same key.
-/

open Std (ExtTreeMap ExtTreeSet)

/-! ### Records -/

private theorem ofList_toList (ids : ExtTreeSet Uuid) : ExtTreeSet.ofList ids.toList = ids := by
  apply ExtTreeSet.ext_contains
  intro id
  rw [ExtTreeSet.contains_ofList, Bool.eq_iff_iff, List.contains_iff_mem, ExtTreeSet.mem_toList,
    ExtTreeSet.contains_iff_mem]

/-- Tags are given back, with the documents that they are attached to. -/
theorem Tag.decoder_inverts : decoder.Inverts toJson := by
  intro tag
  have documents := Decoder.listOf_inverts Uuid.decoder_inverts tag.documents.toList
  apply Json.Schema.decode_object
  · rw [fill_member rfl rfl (Uuid.decoder_inverts tag.id),
      fill_member rfl rfl (Decoder.text_inverts tag.label),
      fill_member rfl rfl (Decoder.text_inverts tag.color),
      fill_member rfl rfl (Instant.decoder_inverts tag.createdAt),
      fill_member rfl rfl documents]
    rfl
  · change some { tag with documents := ExtTreeSet.ofList tag.documents.toList } = some tag
    rw [ofList_toList]

/-- Documents are given back. -/
theorem Document.decoder_inverts : decoder.Inverts toJson := by
  intro document
  apply Json.Schema.decode_object
  · rw [fill_member rfl rfl (Uuid.decoder_inverts document.id),
      fill_member rfl rfl (Decoder.text_inverts document.label),
      fill_member rfl rfl (Instant.decoder_inverts document.createdAt)]
    rfl
  · rfl

/-! ### Maps -/

private theorem ofList_of_perm {α : Type} {records : ExtTreeMap Uuid α} {entries : List (Uuid × α)}
    (same : entries.Perm records.toList) : ExtTreeMap.ofList entries = records := by
  have distinct : entries.Pairwise fun a b ↦ ¬ compare a.1 b.1 = .eq :=
    same.symm.pairwise records.distinct_keys_toList fun apart together ↦
      apart (Std.OrientedCmp.eq_symm together)
  apply ExtTreeMap.ext_getElem?
  intro id
  cases found : records[id]? with
  | some record =>
    have member : (id, record) ∈ entries :=
      same.mem_iff.mpr (ExtTreeMap.mem_toList_iff_getElem?_eq_some.mpr found)
    exact ExtTreeMap.getElem?_ofList_of_mem Std.ReflCmp.compare_self distinct member
  | none =>
    apply ExtTreeMap.getElem?_ofList_of_contains_eq_false
    rw [Bool.eq_false_iff, ne_eq, List.contains_iff_mem, List.mem_map]
    rintro ⟨⟨key, record⟩, member, rfl⟩
    have present := ExtTreeMap.mem_toList_iff_getElem?_eq_some.mp (same.mem_iff.mp member)
    rw [found] at present
    cases present

namespace Catalog

/-- The value to write when the records come in a given order. -/
def toJsonOf (tags : List (Uuid × Tag)) (documents : List (Uuid × Document)) : Json :=
  .object [
    ("tags", .object (tags.map fun entry ↦ (entry.1.toString, entry.2.toJson))),
    ("documents", .object (documents.map fun entry ↦ (entry.1.toString, entry.2.toJson)))]

/-- A catalog is given back from its records in any order. -/
theorem decoder_toJsonOf {catalog : Catalog} {tags : List (Uuid × Tag)}
    {documents : List (Uuid × Document)} (sameTags : tags.Perm catalog.tags.toList)
    (sameDocuments : documents.Perm catalog.documents.toList) :
    decoder (toJsonOf tags documents).draft = .ok catalog := by
  have tagRecords := Decoder.mapOf_inverts Uuid.ofString?_toString Tag.decoder_inverts tags
  have documentRecords :=
    Decoder.mapOf_inverts Uuid.ofString?_toString Document.decoder_inverts documents
  apply Json.Schema.decode_object
  · rw [fill_member rfl rfl tagRecords, fill_member rfl rfl documentRecords]
    rfl
  · change some (Catalog.mk (ExtTreeMap.ofList tags) (ExtTreeMap.ofList documents)) = some catalog
    rw [ofList_of_perm sameTags, ofList_of_perm sameDocuments]

end Catalog

namespace State

/-!
## Snapshots read back

A snapshot holds the state that it was taken of, whatever its texts and dates are, whether its
records stand under their own identifiers, and in whatever order they are written.
-/

/-- The text is a snapshot of the state, with the tags and the documents in some order each. -/
def WrittenAs (state : State) (text : String) : Prop :=
  ∃ tags documents, tags.Perm state.catalog.tags.toList ∧
    documents.Perm state.catalog.documents.toList ∧
    text = (Json.object [("store", Catalog.toJsonOf tags documents),
      ("grants", state.grants.toJson), ("events", state.events.toJson)]).render

/-- The snapshot that is taken has the records in ascending order. -/
theorem writtenAs_snapshot (state : State) : state.WrittenAs state.snapshot :=
  ⟨_, _, .rfl, .rfl, rfl⟩

/-- A snapshot of a state, with its records in any order, is read as the state. -/
theorem ofSnapshot_of_writtenAs {state : State} {text : String} (written : state.WrittenAs text) :
    ofSnapshot text = .ok state := by
  obtain ⟨tags, documents, sameTags, sameDocuments, rfl⟩ := written
  rw [ofSnapshot, Json.read_render]
  apply Json.Schema.decode_object
  · rw [fill_member rfl rfl (Catalog.decoder_toJsonOf sameTags sameDocuments),
      fill_member rfl rfl (GrantIndex.decoder_inverts state.grants),
      fill_member rfl rfl (EventLog.decoder_inverts state.events)]
    rfl
  · rfl

end State

end Tagging
