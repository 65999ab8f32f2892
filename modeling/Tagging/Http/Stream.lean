import Tagging.Audit.Event
import Tagging.Encoding
import Tagging.Http.Message
import Tagging.Text.Basic

/-!
# On the wire

The texts in which requests come in, and responses and events go out.
-/

namespace Tagging.Http

/-!
## Messages on a connection

The lines that a request begins with, and the text that a response is sent as.
-/

/-- The method and the target that the first line of a request names. -/
def requestLine? (line : String) : Option (String × String) :=
  match Text.splitAll ' ' (Text.trim line.toList) with
  | [method, target, _] => some (String.ofList method, String.ofList target)
  | _ => none

/-- The name and the value that a header line gives. -/
def headerLine? (line : String) : Option (String × String) :=
  (Text.splitFirst? ':' line.toList).map fun (name, value) ↦
    (String.ofList name, String.ofList (Text.trim value))

/-- The number of bytes in the body that headers announce. -/
def bodyLength (headers : List (String × String)) : Nat :=
  let request : Request := ⟨"", "", headers, []⟩
  ((request.header? "Content-Length").bind fun value ↦ Text.decimal? value.toList).getD 0

/-- The text of a body. Of a stream there is none yet when it is opened. -/
def Body.toText : Body → String
  | .empty | .stream _ => ""
  | .json value => value.render
  | .text value => value

/-- A header line, if there is a value for it. -/
def headerLine (name : String) : Option String → String
  | some value => name ++ ": " ++ value ++ "\r\n"
  | none => ""

/-- The text of a response. -/
def Response.toText (response : Response) : String :=
  let length := toString response.body.toText.utf8ByteSize
  let shared := if response.sharedWithAll then some "*" else none
  s!"HTTP/1.1 {response.status} \r\n" ++ headerLine "content-type" response.contentType ++
    headerLine "allow" response.allow ++ headerLine "access-control-allow-origin" shared ++
    headerLine "content-length" (some length) ++ "\r\n" ++ response.content.toText

/-!
## The event stream

A client who follows the stream gets the events of the objects that it may watch, each with the
name of its verb. Notices that it missed leave no trace.
-/

/-- An item of a stream. -/
structure Frame where
  name : String
  data : Json

namespace Frame

/-- An event as an item of a stream. -/
def ofEvent (event : Event) : Frame :=
  ⟨event.verb.name, event.toJson⟩

/-- The lines that an item is sent as. The data never contain a line break. -/
def text (frame : Frame) : String :=
  "event: " ++ frame.name ++ "\ndata: " ++ frame.data.render ++ "\n\n"

end Frame

/-- What a principal is sent of the notices that wait. -/
def frames (watcher : Principal) (waiting : Waiting) : List Frame :=
  (waiting.notices.filter (·.visibleTo watcher)).map fun notice ↦ .ofEvent notice.event

end Tagging.Http
