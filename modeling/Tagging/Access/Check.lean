import Tagging.Access.GrantIndex

/-!
# Permissions and checks

What the grants in force allow to whom. A check that fails is told as a denial, or, where the
existence of an object is not to be given away, as if there were no such object.
-/

namespace Tagging

open Std (ExtTreeSet)

namespace GrantIndex

/-- The holders who may exercise a permission on an object. -/
def holdersOf (index : GrantIndex) (permission : Permission) (object : Object) :
    ExtTreeSet Holder :=
  ExtTreeSet.ofList <|
    ((index.everywhere.toList ++ (index.rights (some object)).toList).filter
      (·.permission = permission)).map (·.holder)

/-- One of the principal's holders has the right. -/
def holds (rights : ExtTreeSet Right) (principal : Principal) (permission : Permission) : Bool :=
  principal.holders.any fun holder ↦ rights.contains ⟨holder, permission⟩

/-- The principal may exercise a permission on an object, or on all of them. -/
def allows (index : GrantIndex) (principal : Principal) (permission : Permission)
    (object : Option Object) : Bool :=
  principal.superuser || holds index.everywhere principal permission ||
    object.any fun object ↦ holds (index.rights (some object)) principal permission

end GrantIndex

/-! ### Checks -/

/-- How a failed check is told. -/
inductive Denial where
  /-- For what concerns no single object. -/
  | forbid
  /-- For what concerns an object: as if it did not exist. -/
  | hide
  deriving DecidableEq, Repr

/-- The error by which a failed check is told. -/
def Denial.error : Denial → Error
  | .forbid => .permissionDenied
  | .hide => .notFound

namespace GrantIndex

/-- Passes if the principal may exercise the permission. -/
def check (index : GrantIndex) (principal : Principal) (permission : Permission)
    (object : Option Object) (denial : Denial) : Except Error Unit :=
  if index.allows principal permission object then .ok () else .error denial.error

/-- Passes if the principal may exercise each permission on its object. -/
def checkAll (index : GrantIndex) (principal : Principal) (denial : Denial) :
    List (Permission × Object) → Except Error Unit
  | [] => .ok ()
  | (permission, object) :: rest => do
    index.check principal permission (some object) denial
    index.checkAll principal denial rest

end GrantIndex

end Tagging
