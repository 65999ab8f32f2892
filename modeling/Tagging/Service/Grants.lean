import Tagging.Service.Commit
import Tagging.Service.State

/-!
# Changes to grants

Grants on an object are given and revoked by whoever may edit its access list. Grants on all
objects come from the configuration only, and are not recorded as events.
-/

namespace Tagging.Service

/-- Gives a grant on an object. -/
def grant (service : Service) (stamp : Stamp) (actor : Principal) (grant : Grant) :
    Outcome Grant :=
  match grant.object with
  | none => service.refuse (.validation .objectMissing)
  | some object =>
    match service.state.authorize actor .aclEdit object with
    | .error error => service.refuse error
    | .ok () =>
      if Text.trim grant.holder.name.toList = [] then
        service.refuse (.validation .emptyHolder)
      else service.commit stamp actor fun state ↦
        let grants := (state.grants.insert grant).2
        (.ok (grant, .of .aclGranted object), { state with grants })

/-- Takes a grant on an object back. -/
def revoke (service : Service) (stamp : Stamp) (actor : Principal) (grant : Grant) :
    Outcome Unit :=
  match grant.object with
  | none => service.refuse (.validation .objectMissing)
  | some object =>
    match service.state.authorize actor .aclEdit object with
    | .error error => service.refuse error
    | .ok () => service.commit stamp actor fun state ↦
      let (found, grants) := state.grants.erase grant
      if found then (.ok ((), .of .aclRevoked object), { state with grants })
      else (.error .notFound, { state with grants })

/-- Installs global grants one after the other, up to the first that is not global. Tells how many
are new. -/
def install (index : GrantIndex) (added : Nat) : List Grant → Except Error Nat × GrantIndex
  | [] => (.ok added, index)
  | grant :: grants =>
    if grant.object.isSome then (.error (.validation .grantNotGlobal), index)
    else
      let (new, index) := index.insert grant
      install index (if new then added + 1 else added) grants

/-- Installs the configured grants, and saves the state if any of them is new. -/
def bootstrap (service : Service) (grants : List Grant) : Except Error Nat × Service :=
  let (result, index) := install service.state.grants 0 grants
  let service := { service with state := { service.state with grants := index } }
  match result with
  | .error error => (.error error, service)
  | .ok added =>
    if added = 0 then (.ok 0, service)
    else match service.flush with
      | .ok saved => (.ok added, saved)
      | .error error => (.error error, service)

end Tagging.Service
