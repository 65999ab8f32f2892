/-!
# JSON

The values that are written, and what can be wrong with a value that is read.
-/

namespace Tagging

/-!
## Values written as JSON

The values that this library writes, and their one written form: no spaces, members in the order
given, and only those characters of a text escaped that must be.
-/

/-- A value to write. -/
inductive Json where
  | null
  | number (value : Nat)
  | text (value : String)
  | list (items : List Json)
  | object (members : List (String × Json))

namespace Json

/-- A character as it stands inside a written text. -/
def escape (c : Char) : List Char :=
  if c = '"' ∨ c = '\\' then ['\\', c]
  else if c = '\x08' then ['\\', 'b']
  else if c = '\x0c' then ['\\', 'f']
  else if c = '\n' then ['\\', 'n']
  else if c = '\r' then ['\\', 'r']
  else if c = '\t' then ['\\', 't']
  else if c.toNat < 0x20 then
    ['\\', 'u', '0', '0', Nat.digitChar (c.toNat / 16), Nat.digitChar (c.toNat % 16)]
  else [c]

/-- A text between its quotation marks. -/
def writeText (text : String) : List Char :=
  '"' :: (text.toList.flatMap escape ++ ['"'])

mutual

/-- A value in its written form. -/
def write : Json → List Char
  | .null => ['n', 'u', 'l', 'l']
  | .number value => Nat.toDigits 10 value
  | .text value => writeText value
  | .list items => '[' :: (writeItems items ++ [']'])
  | .object members => '{' :: (writeMembers members ++ ['}'])

/-- The items of a list, with commas between them. -/
def writeItems : List Json → List Char
  | [] => []
  | item :: items => item.write ++ writeMoreItems items

/-- The items after the first, each behind a comma. -/
def writeMoreItems : List Json → List Char
  | [] => []
  | item :: items => ',' :: (item.write ++ writeMoreItems items)

/-- The members of an object, with commas between them. -/
def writeMembers : List (String × Json) → List Char
  | [] => []
  | (key, value) :: members => writeText key ++ ':' :: (value.write ++ writeMoreMembers members)

/-- The members after the first, each behind a comma. -/
def writeMoreMembers : List (String × Json) → List Char
  | [] => []
  | (key, value) :: members =>
    ',' :: (writeText key ++ ':' :: (value.write ++ writeMoreMembers members))

end

/-- A value in its written form, as a string. -/
def render (value : Json) : String :=
  String.ofList value.write

/-- The value of a text that may be absent. -/
def ofText? : Option String → Json
  | some value => .text value
  | none => .null

/-- The value of a number that may be absent. -/
def ofNumber? : Option Nat → Json
  | some value => .number value
  | none => .null

/-!
## What can be wrong with a written value

A text may be no JSON at all, or JSON of another shape than the one wanted. Reading goes from left
to right, and the first fault found is the one reported.
-/

/-- Why a text was not read as a value of the kind wanted. -/
inductive Fault where
  /-- The text breaks the rules of JSON, or ends too soon, or goes on after the value. -/
  | malformed
  /-- The text is in order as far as it was read, but is not what was wanted. -/
  | mismatch
  deriving DecidableEq, Repr

/-- What keeps a value from use whose marks are in order: its characters make no text, its size is
out of range, or it lies too deep. The flaw shows at some point of reading. -/
inductive Flaw where
  /-- It shows before the end of the value, and the rest is left unread. -/
  | early
  /-- It shows when the value was read to its end. -/
  | late
  deriving DecidableEq, Repr

/-- The fault in words. -/
def Fault.message : Fault → String
  | .malformed => "the text is not in order"
  | .mismatch => "the value does not have the shape wanted"

end Json

end Tagging
