import Std.Data.ExtTreeSet
import Tagging.Http.Message
import Tagging.Http.Page
import Tagging.Text.Basic
import Tagging.Token.Verifier

/-!
# Who is asking

A request is made in the name of the principal that its bearer token gives, or, where they are
trusted and no other credentials are sent, that its headers name. A bad token is not made good by
headers.
-/

namespace Tagging.Http

open Std (ExtTreeSet)

/-- What holds for all requests. -/
structure Settings where
  /-- Headers may name the principal. -/
  trustsHeaders : Bool
  /-- The users who pass every check. -/
  admins : ExtTreeSet String
  defaultPageSize : Nat

/-- The settings where nothing is configured. -/
def Settings.default : Settings := ⟨true, ∅, 40⟩

/-- The principal with a given name and roles. -/
def Settings.principal (settings : Settings) (user : String) (roles : List String) : Principal :=
  ⟨user, roles, settings.admins.contains user⟩

/-- The texts between the commas of a list, without white space around them and without empty
ones. -/
def listed (text : String) : List String :=
  (((Text.splitAll ',' text.toList).map Text.trim).filter (· ≠ [])).map String.ofList

/-- What follows the word that announces a bearer token. -/
def bearer? (credentials : String) : Option String :=
  let word := "Bearer ".toList
  if word.isPrefixOf credentials.toList then
    some (String.ofList (credentials.toList.drop word.length))
  else none

/-- The claims of the token that the credentials carry. -/
def claims? (verifier : Option Token.Verifier) (now : Instant) (credentials : String) :
    Option Claims := do
  let token ← bearer? credentials
  (← verifier).verify now token

/-- The principal of a request. -/
def identify (settings : Settings) (verifier : Option Token.Verifier) (now : Instant)
    (request : Request) : Except Refusal Principal :=
  match request.readable? "Authorization" with
  | some credentials =>
    match claims? verifier now credentials with
    | some claims => .ok (settings.principal claims.subject claims.roles)
    | none => .error .unauthorized
  | none =>
    if settings.trustsHeaders then
      let user := Text.trimmed ((request.readable? "X-User-Id").getD "")
      if user = "" then .error .unauthorized
      else .ok (settings.principal user (((request.readable? "X-Roles").map listed).getD []))
    else .error .unauthorized

end Tagging.Http
