import Tagging.Json.Basic
import Tagging.Text.Quoted

/-!
# Errors

What an operation can fail with. The causes that a caller can mend are told apart from those it
cannot, and a caller who may not see an object is told that it was not found.
-/

namespace Tagging

/-- What is wrong with what a caller asked for. -/
inductive Invalid where
  | emptyLabel
  | longLabel
  | badColor (text : String)
  | labelMissing
  | emptyHolder
  | badGrant (text : String)
  | unknownPermission (text : String)
  | unknownKind (text : String)
  | objectMissing
  | grantNotGlobal
  | pageZero
  | badQuery
  /-- The body is not declared to be JSON. -/
  | undeclaredBody
  | longBody
  | badBody (fault : Json.Fault)
  /-- Any other reason, in words. -/
  | because (reason : String)
  deriving DecidableEq, Repr

/-- The most characters that a label may have. -/
def maxLabelLength : Nat := 128

/-- What is wrong with a body, in words. -/
def Invalid.bodyMessage : Json.Fault → String
  | .malformed => "Failed to parse the request body as JSON"
  | .mismatch => "Failed to deserialize the JSON body into the target type"

/-- What is wrong, in words. -/
def Invalid.message : Invalid → String
  | .emptyLabel => "label must not be empty"
  | .longLabel => s!"label must be at most {maxLabelLength} characters"
  | .badColor text => "color must look like #RRGGBB, got " ++ Text.Quoted.encode text
  | .labelMissing => "label is required"
  | .emptyHolder => "grant holder must not be empty"
  | .badGrant text =>
    "expected user:<id>:<permission> or role:<name>:<permission>, got " ++
      Text.Quoted.encode text
  | .unknownPermission text => "unknown permission: " ++ text
  | .unknownKind text => "unknown object kind: " ++ text
  | .objectMissing => "grant must name an object"
  | .grantNotGlobal => "bootstrap grants must be global"
  | .pageZero => "page numbers start at 1"
  | .badQuery => "Failed to deserialize query string"
  | .undeclaredBody => "Expected request with `Content-Type: application/json`"
  | .longBody => "Failed to buffer the request body: length limit exceeded"
  | .badBody fault => bodyMessage fault
  | .because reason => reason

/-- Why an operation failed. -/
inductive Error where
  | permissionDenied
  /-- The object does not exist, or the caller may not see it. -/
  | notFound
  | validation (cause : Invalid)
  | io (detail : String)
  | serialization (fault : Json.Fault)
  | storage (detail : String)
  deriving DecidableEq, Repr

namespace Error

/-- The error in words. -/
def message : Error → String
  | .permissionDenied => "permission denied"
  | .notFound => "not found"
  | .validation cause => "validation failed: " ++ cause.message
  | .io detail => "IO error: " ++ detail
  | .serialization fault => "serialization error: " ++ fault.message
  | .storage detail => "storage error: " ++ detail

/-- The caller is the cause, and not the medium or the data behind the service. -/
def isClient : Error → Bool
  | .permissionDenied | .notFound | .validation _ => true
  | .io _ | .serialization _ | .storage _ => false

end Error

end Tagging
