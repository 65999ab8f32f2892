import Tagging.Encoding
import Tagging.Service.State

/-!
# Statistics

Figures over the whole state, each a series of labelled numbers.
-/

namespace Tagging

open Std (ExtTreeMap)

/-- A labelled number. -/
structure Point where
  label : String
  value : Nat
  deriving DecidableEq, Repr

/-- The figures on offer. -/
inductive Statistic where
  | totalTags
  | totalDocuments
  | taggedDocuments
  | untaggedDocuments
  | documentsPerTag
  | newTagsPerMonth
  | newDocumentsPerMonth
  | eventsPerVerb
  deriving DecidableEq, Repr

/-- A figure at a point in time. -/
structure Report where
  statistic : Statistic
  series : List Point
  computedAt : Instant

namespace Statistic

/-- Every figure, in the order in which they are offered. -/
def all : List Statistic :=
  [totalTags, totalDocuments, taggedDocuments, untaggedDocuments, documentsPerTag,
    newTagsPerMonth, newDocumentsPerMonth, eventsPerVerb]

/-- The name of a figure in addresses. -/
def slug : Statistic → String
  | totalTags => "total-tags"
  | totalDocuments => "total-documents"
  | taggedDocuments => "tagged-documents"
  | untaggedDocuments => "untagged-documents"
  | documentsPerTag => "documents-per-tag"
  | newTagsPerMonth => "new-tags-per-month"
  | newDocumentsPerMonth => "new-documents-per-month"
  | eventsPerVerb => "events-per-verb"

/-- The label shown to people. -/
def label : Statistic → String
  | totalTags => "Total tags"
  | totalDocuments => "Total documents"
  | taggedDocuments => "Documents with at least one tag"
  | untaggedDocuments => "Documents without tags"
  | documentsPerTag => "Documents per tag"
  | newTagsPerMonth => "New tags per month"
  | newDocumentsPerMonth => "New documents per month"
  | eventsPerVerb => "Recorded events per verb"

/-- The figure with a given name. -/
def ofSlug? (slug : String) : Option Statistic :=
  all.find? (·.slug = slug)

/-- How often each text occurs. -/
def occurrences (texts : List String) : ExtTreeMap String Nat :=
  texts.foldl (fun counts text ↦ counts.insert text (counts.getD text 0 + 1)) ∅

/-- How often each text occurs, in the order of the texts. -/
def tally (texts : List String) : List Point :=
  (occurrences texts).toList.map fun entry ↦ ⟨entry.1, entry.2⟩

/-- The number of documents with at least one tag. -/
def taggedCount (catalog : Catalog) : Nat :=
  catalog.listDocuments.countP fun document ↦ !(catalog.documentTags document.id).isEmpty

/-- The points of a figure. Tags with the same label are told apart by their identifiers. -/
def series (state : State) : Statistic → List Point
  | totalTags => [⟨"tags", state.catalog.tags.size⟩]
  | totalDocuments => [⟨"documents", state.catalog.documents.size⟩]
  | taggedDocuments => [⟨"documents", taggedCount state.catalog⟩]
  | untaggedDocuments => [⟨"documents", state.catalog.documents.size - taggedCount state.catalog⟩]
  | documentsPerTag => state.catalog.listTags.map fun tag ↦
    ⟨tag.label ++ " (" ++ tag.id.toString ++ ")", tag.documents.size⟩
  | newTagsPerMonth => tally (state.catalog.listTags.map fun tag ↦ Time.month tag.createdAt)
  | newDocumentsPerMonth =>
    tally (state.catalog.listDocuments.map fun document ↦ Time.month document.createdAt)
  | eventsPerVerb => tally (state.events.toList.map (·.verb.name))

/-- A figure computed now. -/
def report (state : State) (now : Instant) (statistic : Statistic) : Report :=
  ⟨statistic, statistic.series state, now⟩

end Statistic

/-- A point as a value to write. -/
def Point.toJson (point : Point) : Json :=
  .object [("label", .text point.label), ("value", .number point.value)]

/-- A report as a value to write. -/
def Report.toJson (report : Report) : Json :=
  .object [("slug", .text report.statistic.slug), ("label", .text report.statistic.label),
    ("series", .list (report.series.map Point.toJson)), ("computed_at", report.computedAt.toJson)]

namespace State

/-- The figures on offer to a principal. -/
def statistics (state : State) (principal : Principal) : Except Error (List Statistic) := do
  state.authorizeGlobal principal .statisticsView
  .ok Statistic.all

/-- A figure by name. -/
def statistic (state : State) (now : Instant) (principal : Principal) (slug : String) :
    Except Error Report := do
  state.authorizeGlobal principal .statisticsView
  match Statistic.ofSlug? slug with
  | some statistic => .ok (statistic.report state now)
  | none => .error .notFound

end State

end Tagging
