import Tagging.Text.Basic
import Tagging.Text.Bytes
import Tagging.Uuid

/-!
# Routes

The addresses that are served, and the methods that each knows. A path is matched part by part, as
it was sent; only then the escapes in its variable parts are read.
-/

namespace Tagging.Http

/-- The methods that are served. -/
inductive Method where
  | get
  | post
  | put
  | patch
  | delete
  deriving DecidableEq, Repr

/-- The word for a method. -/
def Method.name : Method → String
  | get => "GET"
  | post => "POST"
  | put => "PUT"
  | patch => "PATCH"
  | delete => "DELETE"

/-- The method that a word stands for. -/
def Method.ofName? (name : String) : Option Method :=
  [get, post, put, patch, delete].find? (·.name = name)

/-- The addresses, with their variable parts as they were sent. -/
inductive Route where
  | tags
  | tag (id : String)
  | tagDocuments (id : String)
  | documents
  | document (id : String)
  | documentTags (id : String)
  | documentTag (id tagId : String)
  | grants
  | eventStream
  | events (kind id : String)
  | latestEvent (kind id : String)
  | statistics
  | statistic (slug : String)
  | health
  deriving DecidableEq, Repr

namespace Route

/-- The route with the given parts. -/
def ofParts? : List String → Option Route
  | ["tags"] => some tags
  | ["tags", id] => some (tag id)
  | ["tags", id, "documents"] => some (tagDocuments id)
  | ["documents"] => some documents
  | ["documents", id] => some (document id)
  | ["documents", id, "tags"] => some (documentTags id)
  | ["documents", id, "tags", tagId] => some (documentTag id tagId)
  | ["grants"] => some grants
  | ["events", "stream"] => some eventStream
  | ["events", kind, id] => some (events kind id)
  | ["events", kind, id, "latest"] => some (latestEvent kind id)
  | ["statistics"] => some statistics
  | ["statistics", slug] => some (statistic slug)
  | ["health"] => some health
  | _ => none

/-- The route of a path. Its last part may not be empty, but the others that vary may. -/
def ofPath? (path : List Char) : Option Route :=
  match Text.splitAll '/' path with
  | [] :: parts => if parts.getLast? = some [] then none else ofParts? (parts.map String.ofList)
  | _ => none

/-- The methods that a route knows, in the order in which they are listed. -/
def methods : Route → List Method
  | tags => [.get, .post]
  | tag _ => [.get, .put, .patch, .delete]
  | tagDocuments _ => [.get]
  | documents => [.get, .post]
  | document _ => [.get, .delete]
  | documentTags _ => [.get, .post]
  | documentTag _ _ => [.get, .delete]
  | grants => [.get, .post, .delete]
  | eventStream => [.get]
  | events _ _ => [.get]
  | latestEvent _ _ => [.get]
  | statistics => [.get]
  | statistic _ => [.get]
  | health => [.get]

/-- The methods that a route knows as one text. Where there is `GET` there is `HEAD`. -/
def allow (route : Route) : String :=
  ",".intercalate <| route.methods.flatMap fun method ↦
    if method = .get then ["GET", "HEAD"] else [method.name]

end Route

/-- A variable part of a path without its escapes, if it is a text. -/
def unescapePart? (part : String) : Option String :=
  (Text.Utf8.text? (Text.Percent.decode (Text.Utf8.encode part))).map String.ofList

/-- The identifier that a variable part of a path gives. -/
def idOfPart? (part : String) : Option Uuid := do
  Uuid.ofString? (← unescapePart? part)

end Tagging.Http
