import Tagging.Error
import Tagging.Json.Basic
import Tagging.Text.Basic
import Tagging.Text.Bytes
import Tagging.Uuid

/-!
# Pages and queries

Long lists are answered in pages. The first page always exists; of the others only those that hold
something. Which page is asked for stands in the query of an address.
-/

namespace Tagging.Http

/-- The most items on a page. -/
def maxPageSize : Nat := 1000

/-- A size brought into the range of page sizes. -/
def clampPageSize (size : Nat) : Nat :=
  min (max size 1) maxPageSize

/-- The page asked for, the first one if none is named, and its size. -/
structure PageRequest where
  page : Option Nat
  size : Option Nat
  deriving DecidableEq, Repr

/-- A part of a list, with the length of the list and the neighbouring pages. -/
structure Page (α : Type) where
  count : Nat
  next : Option Nat
  previous : Option Nat
  results : List α
  deriving DecidableEq, Repr

/-- The page of a list that is asked for. -/
def Page.of {α : Type} (items : List α) (request : PageRequest) (defaultSize : Nat) :
    Except Error (Page α) :=
  let page := request.page.getD 1
  let size := clampPageSize (request.size.getD defaultSize)
  let start := (page - 1) * size
  if page = 0 then .error (.validation .pageZero)
  else if 1 < page ∧ items.length ≤ start then .error .notFound
  else
    let results := (items.drop start).take size
    .ok {
      count := items.length
      next := if start + results.length < items.length then some (page + 1) else none
      previous := if 1 < page then some (page - 1) else none
      results }

/-- A page as a value to write. -/
def Page.toJson {α : Type} (itemToJson : α → Json) (page : Page α) : Json :=
  .object [("count", .number page.count), ("next", Json.ofNumber? page.next),
    ("previous", Json.ofNumber? page.previous), ("results", .list (page.results.map itemToJson))]

/-!
## Queries

The part of an address after the question mark: pairs of keys and values, with ampersands between
them. A plus sign stands for a space, and bytes may be escaped.
-/

/-- A text of a query without its escapes. -/
def unescapeQuery (text : List Char) : String :=
  let spaced := text.map fun c ↦ if c = '+' then ' ' else c
  String.ofList <|
    Text.Utf8.lenient (Text.Percent.decode (Text.Utf8.encode (String.ofList spaced)))

/-- The key and value of a pair. Without a sign of equality the value is empty. -/
def queryPair (text : List Char) : String × String :=
  match Text.splitFirst? '=' text with
  | some (key, value) => (unescapeQuery key, unescapeQuery value)
  | none => (unescapeQuery text, "")

/-- The pairs of a query, in order. -/
def queryPairs (query : List Char) : List (String × String) :=
  ((Text.splitAll '&' query).filter (· ≠ [])).map queryPair

/-- The only value of a key, `none` if there are several, and nothing in it if there are none. -/
def only? (key : String) (pairs : List (String × String)) : Option (Option String) :=
  match pairs.filter (·.1 = key) with
  | [] => some none
  | [(_, value)] => some (some value)
  | _ => none

/-- The only value of a key as a number, if it is there. -/
def number? (key : String) (pairs : List (String × String)) : Option (Option Nat) := do
  match ← only? key pairs with
  | none => some none
  | some value => do some (some (← Text.unsigned64? value.toList))

/-- The page that a query asks for. -/
def PageRequest.ofQuery? (query : List Char) : Option PageRequest := do
  let pairs := queryPairs query
  some ⟨← number? "page" pairs, ← number? "page_size" pairs⟩

/-- An object, by the word for its kind, and a page of its grants. -/
structure GrantQuery where
  kind : String
  id : Uuid
  page : PageRequest

/-- The grants that a query asks for. -/
def GrantQuery.ofQuery? (query : List Char) : Option GrantQuery := do
  let pairs := queryPairs query
  let kind ← (← only? "kind" pairs)
  let id ← Uuid.ofString? (← (← only? "id" pairs))
  some ⟨kind, id, ← PageRequest.ofQuery? query⟩

end Tagging.Http
