import Tagging.Order
import Tagging.Text.Basic

/-!
# Identifiers

Numbers of 128 bits. They are written as 32 small digits in base sixteen in five groups, and are
also read without hyphens, in braces, or behind `urn:uuid:`.
-/

namespace Tagging

/-- Numbers of 128 bits are below it. -/
def Uuid.bound : Nat := 0x100000000000000000000000000000000

/-- An identifier. -/
structure Uuid where
  value : Nat
  value_lt : value < Uuid.bound
  deriving DecidableEq

namespace Uuid

private theorem value_inj {a b : Uuid} (h : a.value = b.value) : a = b := by
  cases a; cases b; cases h; rfl

/-- Identifiers are ordered as numbers, which is also the order of their bytes and texts. -/
instance : Ord Uuid := ⟨compareOn value⟩

instance : Std.TransOrd Uuid := inferInstanceAs (Std.TransCmp (compareOn value))

instance : Std.LawfulEqOrd Uuid := lawfulEqCmp_compareOn value fun _ _ ↦ value_inj

/-- The identifier with a given number, cut to its 128 low bits. -/
def ofNat (n : Nat) : Uuid :=
  ⟨n % bound, Nat.mod_lt _ (by decide)⟩

/-- The lengths of the five groups of digits. -/
def groups : List Nat := [8, 4, 4, 4, 12]

/-- Sets a hyphen between groups of digits. -/
def joinGroups : List Nat → List Char → List Char
  | [], digits => digits
  | [_], digits => digits
  | size :: sizes, digits => digits.take size ++ '-' :: joinGroups sizes (digits.drop size)

/-- Takes the hyphens between groups away, `none` if they are not where they belong. -/
def splitGroups : List Nat → List Char → Option (List Char)
  | [], text => if text = [] then some [] else none
  | [size], text => if text.length = size then some text else none
  | size :: sizes, text =>
    match text.drop size with
    | '-' :: rest => (splitGroups sizes rest).map (text.take size ++ ·)
    | _ => none

/-- The 32 digits of an identifier. -/
def digits (id : Uuid) : List Char :=
  Text.fixedDigits 16 32 id.value

/-- The written form of an identifier. -/
def toText (id : Uuid) : List Char :=
  joinGroups groups id.digits

/-- The written form of an identifier, as a string. -/
def toString (id : Uuid) : String :=
  String.ofList id.toText

instance : ToString Uuid := ⟨toString⟩

/-- The identifier with 32 given digits. -/
def ofDigits? (digits : List Char) : Option Uuid := do
  guard (digits.length = 32)
  let value ← Text.hexadecimal? digits
  if h : value < bound then some ⟨value, h⟩ else none

/-- The identifier with a given text of digits in hyphenated groups. -/
def ofGroups? (text : List Char) : Option Uuid := do
  ofDigits? (← splitGroups groups text)

/-- The text without the given start, the case of letters aside. -/
def stripStart? : List Char → List Char → Option (List Char)
  | [], text => some text
  | c :: start, d :: text => if c = d.toLower then stripStart? start text else none
  | _ :: _, [] => none

/-- The identifier that a text denotes. -/
def ofText? (text : List Char) : Option Uuid :=
  match text with
  | '{' :: rest =>
    match rest.reverse with
    | '}' :: inner => ofGroups? inner.reverse
    | _ => none
  | _ =>
    match stripStart? "urn:uuid:".toList text with
    | some rest => ofGroups? rest
    | none => if text.length = 32 then ofDigits? text else ofGroups? text

/-- The identifier that a string denotes. -/
def ofString? (text : String) : Option Uuid :=
  ofText? text.toList

end Uuid

end Tagging
