import Tagging.Encoding
import Tagging.Http.Page
import Tagging.Service.Statistic

/-!
# What clients send and get

Tags and documents are answered with the addresses where more about them is found.
-/

namespace Tagging.Http

/-- A tag as clients get it. -/
def tagToJson (tag : Tag) : Json :=
  let url := "/tags/" ++ tag.id.toString
  .object [("id", tag.id.toJson), ("label", .text tag.label), ("color", .text tag.color),
    ("created_at", tag.createdAt.toJson), ("url", .text url),
    ("documents_url", .text (url ++ "/documents"))]

/-- A document as clients get it. -/
def documentToJson (document : Document) : Json :=
  let url := "/documents/" ++ document.id.toString
  .object [("id", document.id.toJson), ("label", .text document.label),
    ("created_at", document.createdAt.toJson), ("url", .text url),
    ("tags_url", .text (url ++ "/tags"))]

/-- A statistic on offer as clients get it. -/
def statisticToJson (statistic : Statistic) : Json :=
  .object [("slug", .text statistic.slug), ("label", .text statistic.label),
    ("url", .text ("/statistics/" ++ statistic.slug))]

/-- A tag to create. -/
structure NewTag where
  label : String
  color : Option String

/-- The fields of a tag to create as they are read. -/
structure NewTag.Form where
  label : Option String
  color : Option (Option String)

/-- How a tag to create is read. -/
def NewTag.schema : Json.Schema NewTag.Form NewTag where
  empty := ⟨none, none⟩
  slots := [
    Json.slot "label" (·.label) (fun form value ↦ { form with label := some value })
      Json.Decoder.text false,
    Json.slot "color" (·.color) (fun form value ↦ { form with color := some value })
      (Json.Decoder.optional Json.Decoder.text) false]
  finish form := do some ⟨← form.label, form.color.join⟩

/-- Reads a tag to create. -/
def NewTag.decoder : Json.Decoder NewTag :=
  schema.decode

/-- Reads a record with one field. -/
def fieldDecoder {α : Type} (name : String) (decode : Json.Decoder α) : Json.Decoder α :=
  Json.Schema.decode {
    empty := none
    slots := [Json.slot name id (fun _ value ↦ some value) decode false]
    finish := id }

/-- Reads the label of a document to create. -/
def newDocumentDecoder : Json.Decoder String :=
  fieldDecoder "label" Json.Decoder.text

/-- Reads the tag to attach to a document. -/
def attachmentDecoder : Json.Decoder Uuid :=
  fieldDecoder "tag" Uuid.decoder

end Tagging.Http
