import Tagging.Access.Grant
import Tagging.Error
import Tagging.Json.Basic
import Tagging.Json.Decoder
import Tagging.Text.Basic
import Tagging.Text.Bytes

/-!
# Requests and responses

What a client sends and is answered, and how the format of a body is declared.
-/

namespace Tagging.Http.MediaType

/-!
## Media types

A media type is a type and a subtype with a slash between them, and then parameters, each behind a
semicolon. The part of a subtype after its last plus sign names the format that it is written in.
-/

/-- The character may stand in a name. -/
def isToken (c : Char) : Bool :=
  c.isAlphanum || "!#$%&'*+-.^_`|~".toList.contains c

/-- The character may stand between quotation marks. -/
def isQuotable (c : Char) : Bool :=
  31 < c.toNat ∧ c.toNat ≠ 127

/-- How far a list of parameters has been read. -/
inductive Place where
  /-- Before a parameter. -/
  | gap
  | name
  /-- After the sign between a name and its value. -/
  | sign
  | value
  /-- After an opening quotation mark. -/
  | mark
  | quoted
  /-- After a closing quotation mark. -/
  | closed
  deriving DecidableEq, Repr

/-- The place after one more character. -/
def Place.step : Place → Char → Option Place
  | gap, c => if c = ' ' then some gap else if isToken c then some name else none
  | name, c => if c = '=' then some sign else if isToken c then some name else none
  | sign, c => if c = '"' then some mark else if isToken c then some value else none
  | value, c => if c = ';' then some gap else if isToken c then some value else none
  | mark, c => if isQuotable c then some quoted else none
  | quoted, c => if c = '"' then some closed else if isQuotable c then some quoted else none
  | closed, c => if c = ';' then some gap else if c = ' ' then some closed else none

/-- A list of parameters may end here. -/
def Place.isEnd : Place → Bool
  | gap | sign | value | closed => true
  | name | mark | quoted => false

/-- The text after the first semicolon is a list of parameters. -/
def areParameters (text : List Char) : Bool :=
  (text.foldlM Place.step .gap).any Place.isEnd

/-- The type and the subtype that a text names, in small letters. -/
def names? (text : List Char) : Option (List Char × List Char) :=
  let name := text.takeWhile isToken
  match text.dropWhile isToken with
  | '/' :: rest =>
    let subname := rest.takeWhile isToken
    let isWhole :=
      match rest.dropWhile isToken with
      | [] => true
      | ';' :: parameters => subname ≠ [] && areParameters parameters
      | _ => false
    if name ≠ [] && isWhole then some (name.map Char.toLower, subname.map Char.toLower)
    else none
  | _ => none

/-- The parts of a subtype before and after the last plus sign that does not open it. -/
def splitSubtype (subtype : List Char) : List Char × Option (List Char) :=
  match Text.splitLast? '+' subtype with
  | some (before, after) => if before = [] then (subtype, none) else (before, some after)
  | none => (subtype, none)

/-- The text names JSON, or a format written in it. -/
def isJson (text : List Char) : Bool :=
  match names? text with
  | none => false
  | some (type, subtype) =>
    let (stem, suffix) := splitSubtype subtype
    type = "application".toList ∧ (stem = "json".toList ∨ suffix = some "json".toList)

end Tagging.Http.MediaType

namespace Tagging.Http

/-! ## Messages -/

/-- What a client sends. -/
structure Request where
  method : String
  /-- The address: a path, before which a scheme and an authority may stand, and a query behind a
  question mark. -/
  target : String
  headers : List (String × String)
  body : List UInt8

/-- What stands in the body of a response. -/
inductive Body where
  | empty
  | json (value : Json)
  | text (value : String)
  /-- Events as they happen, as far as the principal may see them. -/
  | stream (watcher : Principal)

/-- What a client is answered. -/
structure Response where
  status : Nat
  body : Body
  /-- The methods that the address knows, if the one asked for is not among them. -/
  allow : Option String
  /-- Scripts of any origin may read the response. -/
  sharedWithAll : Bool
  /-- The body is kept back, and only its type is told. -/
  keepsBody : Bool

/-- Why a request is refused. -/
inductive Refusal where
  | unauthorized
  | failed (error : Error)
  /-- A part of the address is no text. -/
  | badAddress (part : String)
  deriving DecidableEq, Repr

namespace Request

/-- The character may stand in a scheme. -/
def isSchemeChar (c : Char) : Bool :=
  c.isAlphanum || c = '+' || c = '-' || c = '.'

/-- The address from its path on: without the scheme and the authority that may stand before it. An
address that has neither path nor scheme names no place here. -/
def location (request : Request) : List Char :=
  match request.target.toList with
  | '/' :: rest => '/' :: rest
  | target =>
    match target.dropWhile isSchemeChar with
    | ':' :: '/' :: '/' :: rest => rest.dropWhile fun c ↦ c ≠ '/' && c ≠ '?' && c ≠ '#'
    | _ => []

/-- The path of the address. -/
def path (request : Request) : List Char :=
  request.location.takeWhile fun c ↦ c ≠ '?' && c ≠ '#'

/-- The query of the address, without the question mark. -/
def query (request : Request) : List Char :=
  ((request.location.takeWhile (· ≠ '#')).dropWhile (· ≠ '?')).tail

/-- The value of the first header with a given name, the case of letters aside. -/
def header? (request : Request) (name : String) : Option String :=
  (request.headers.find? fun header ↦
    header.1.toList.map Char.toLower = name.toList.map Char.toLower).map (·.2)

/-- The character is a visible one, a space or a tab. -/
def isReadable (c : Char) : Bool :=
  (32 ≤ c.toNat ∧ c.toNat < 127) ∨ c = '\t'

/-- The value of the first header with a given name, if all its characters are readable. -/
def readable? (request : Request) (name : String) : Option String := do
  let value ← request.header? name
  guard (value.toList.all isReadable)
  some value

/-- The most bytes of a body that are read. -/
def maxBodyLength : Nat := 2097152

/-- The body is declared to be JSON. -/
def declaresJson (request : Request) : Bool :=
  (request.readable? "Content-Type").any fun value ↦ MediaType.isJson value.toList

/-- The body as a value of one kind. It must be declared to be JSON, and not be too long. -/
def decodeBody {α : Type} (request : Request) (decode : Json.Decoder α) : Except Error α :=
  if !request.declaresJson then .error (.validation .undeclaredBody)
  else if maxBodyLength < request.body.length then .error (.validation .longBody)
  else
    match Json.readInput decode (Text.Utf8.decode request.body) with
    | .ok value => .ok value
    | .error fault => .error (.validation (.badBody fault))

end Request

namespace Response

/-- A response with a status and a body. -/
def of (status : Nat) (body : Body) : Response :=
  ⟨status, body, none, false, false⟩

/-- The type of what stands in the body. -/
def contentType (response : Response) : Option String :=
  match response.body with
  | .empty => none
  | .json _ => some "application/json"
  | .text _ => some "text/plain; charset=utf-8"
  | .stream _ => some "text/event-stream"

/-- What is sent after the headers. -/
def content (response : Response) : Body :=
  if response.keepsBody then .empty else response.body

end Response

/-- The status of an error. -/
def statusOf : Error → Nat
  | .permissionDenied => 403
  | .notFound => 404
  | .validation _ => 400
  | .io _ | .serialization _ | .storage _ => 500

/-- An error as a response. -/
def errorResponse (status : Nat) (message : String) : Response :=
  .of status (.json (.object [("error", .text message), ("status", .number status)]))

/-- A refusal as a response. -/
def Refusal.response : Refusal → Response
  | .unauthorized => errorResponse 401 "missing or invalid credentials"
  | .failed error => errorResponse (statusOf error) error.message
  | .badAddress part => .of 400 (.text ("Invalid URL: Invalid UTF-8 in `" ++ part ++ "`"))

end Tagging.Http
