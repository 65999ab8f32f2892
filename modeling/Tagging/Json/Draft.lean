import Tagging.Json.Basic
import Tagging.Json.Number

/-!
# Values as they were read

Reading a text takes down all that is found in it, in order, up to the first place that breaks the
rules of JSON. What the text was wanted for is asked afterwards, of the draft, so that the fault
found first from the left is also the first that is met there.
-/

namespace Tagging.Json

mutual

/-- A value as it was read. The marks of a text may be in order, but not its characters: an escape
names half a pair, or bytes make no character. -/
inductive Draft where
  | null
  | truth (value : Bool)
  | number (value : Number)
  | text (value : Except Flaw String)
  | list (items : Items)
  | object (members : Members)
  | broken

/-- The items of a list as they were read. -/
inductive Items where
  | closed
  | broken
  | item (value : Draft) (rest : Items)

/-- The members of an object as they were read. -/
inductive Members where
  | closed
  | broken
  | member (key : Except Flaw String) (value : Draft) (rest : Members)

end

/-- The white space allowed between the parts of a value. -/
def isSpace (c : Option Char) : Bool :=
  c = some ' ' ∨ c = some '\n' ∨ c = some '\t' ∨ c = some '\r'

/-- What follows the white space. -/
def skipSpace (input : Input) : Input :=
  input.dropWhile isSpace

/-- A piece of a text between its marks. -/
inductive Piece where
  | char (c : Char)
  | unit (code : Nat)
  | gap

/-- The character that a backslash and a letter stand for. -/
def unescape? (c : Char) : Option Char :=
  if c = '"' ∨ c = '\\' ∨ c = '/' then some c
  else if c = 'b' then some '\x08'
  else if c = 'f' then some '\x0c'
  else if c = 'n' then some '\n'
  else if c = 'r' then some '\r'
  else if c = 't' then some '\t'
  else none

/-- The pieces up to the closing mark, and what follows it. -/
def takePieces : Input → Option (List Piece × Input)
  | [] => none
  | some '"' :: rest => some ([], rest)
  | some '\\' :: some 'u' :: some a :: some b :: some c :: some d :: rest => do
    let code ← Text.hexadecimal? [a, b, c, d]
    let (pieces, rest) ← takePieces rest
    some (.unit code :: pieces, rest)
  | some '\\' :: some c :: rest => do
    let c ← unescape? c
    let (pieces, rest) ← takePieces rest
    some (.char c :: pieces, rest)
  | some c :: rest =>
    if c = '\\' ∨ c.toNat < 0x20 then none
    else do
      let (pieces, rest) ← takePieces rest
      some (.char c :: pieces, rest)
  | none :: rest => do
    let (pieces, rest) ← takePieces rest
    some (.gap :: pieces, rest)

/-- The code opens a pair. -/
def isHigh (code : Nat) : Bool :=
  0xD800 ≤ code ∧ code ≤ 0xDBFF

/-- The code closes a pair. -/
def isLow (code : Nat) : Bool :=
  0xDC00 ≤ code ∧ code ≤ 0xDFFF

/-- The characters of a text, with the halves of each pair joined. A second half alone shows at
once, a first half by what follows it; that bytes make no character shows at the end. -/
def join : List Piece → Except Flaw (List Char)
  | [] => .ok []
  | .char c :: rest => do .ok (c :: (← join rest))
  | [.unit code] =>
    if isHigh code then .error .late
    else if isLow code then .error .early
    else .ok [Char.ofNat code]
  | .unit high :: .unit low :: rest =>
    if isHigh high then
      if isLow low then do
        let code := 0x10000 + (high - 0xD800) * 0x400 + (low - 0xDC00)
        .ok (Char.ofNat code :: (← join rest))
      else .error .early
    else if isLow high then .error .early
    else do .ok (Char.ofNat high :: (← join (.unit low :: rest)))
  | .unit code :: rest =>
    if isHigh code || isLow code then .error .early
    else do .ok (Char.ofNat code :: (← join rest))
  | .gap :: rest => do
    let _ ← join rest
    .error .late

/-- The text after an opening mark, and what follows its closing one. -/
def takeText (input : Input) : Option (Except Flaw String × Input) := do
  let (pieces, rest) ← takePieces input
  some ((join pieces).map String.ofList, rest)

/-- What follows the comma that every item or member but the first needs. -/
def takeComma (first : Bool) (input : Input) : Option Input :=
  if first then some input
  else match input with
    | some ',' :: rest => some (skipSpace rest)
    | _ => none

mutual

/-- The value at the start, and what follows it. The first argument bounds the depth. -/
def takeValue : Nat → Input → Draft × Input
  | 0, _ => (.broken, [])
  | fuel + 1, input =>
    match skipSpace input with
    | some 'n' :: some 'u' :: some 'l' :: some 'l' :: rest => (.null, rest)
    | some 't' :: some 'r' :: some 'u' :: some 'e' :: rest => (.truth true, rest)
    | some 'f' :: some 'a' :: some 'l' :: some 's' :: some 'e' :: rest => (.truth false, rest)
    | some '"' :: rest =>
      match takeText rest with
      | some (value, rest) => (.text value, rest)
      | none => (.broken, [])
    | some '[' :: rest =>
      let (items, rest) := takeItems fuel true rest
      (.list items, rest)
    | some '{' :: rest =>
      let (members, rest) := takeMembers fuel true rest
      (.object members, rest)
    | rest =>
      match Number.take rest with
      | some (value, rest) => (.number value, rest)
      | none => (.broken, [])

/-- The items up to the closing bracket, and what follows it. -/
def takeItems : Nat → Bool → Input → Items × Input
  | 0, _, _ => (.broken, [])
  | fuel + 1, first, input =>
    match skipSpace input with
    | some ']' :: rest => (.closed, rest)
    | input =>
      match takeComma first input with
      | none => (.broken, [])
      | some input =>
        let (value, rest) := takeValue fuel input
        let (items, rest) := takeItems fuel false rest
        (.item value items, rest)

/-- The members up to the closing brace, and what follows it. -/
def takeMembers : Nat → Bool → Input → Members × Input
  | 0, _, _ => (.broken, [])
  | fuel + 1, first, input =>
    match skipSpace input with
    | some '}' :: rest => (.closed, rest)
    | input =>
      match takeComma first input with
      | none => (.broken, [])
      | some (some '"' :: rest) =>
        match takeText rest with
        | none => (.broken, [])
        | some (key, rest) =>
          match skipSpace rest with
          | some ':' :: rest =>
            let (value, rest) := takeValue fuel rest
            let (members, rest) := takeMembers fuel false rest
            (.member key value members, rest)
          | _ => (.member key .broken .broken, [])
      | some _ => (.broken, [])

end

/-- The value at the start of a text, and what follows it. -/
def take (input : Input) : Draft × Input :=
  takeValue (2 * input.length + 2) input

mutual

/-- The value is in order to its end, whatever its texts and numbers hold. -/
def Draft.isWhole : Draft → Bool
  | .broken => false
  | .list items => items.isWhole
  | .object members => members.isWhole
  | _ => true

/-- The items are in order to their end. -/
def Items.isWhole : Items → Bool
  | .closed => true
  | .broken => false
  | .item value rest => value.isWhole && rest.isWhole

/-- The members are in order to their end. -/
def Members.isWhole : Members → Bool
  | .closed => true
  | .broken => false
  | .member _ value rest => value.isWhole && rest.isWhole

end

/-- How deep lists and objects may lie in one another where every part is looked at. -/
def maxDepth : Nat := 127

/-- How deep they may lie in one another in a field of an object. -/
def maxFieldDepth : Nat := maxDepth - 1

mutual

/-- What keeps a value from use whose lists and objects may lie in one another as deep as given. -/
def Draft.flaw? : Draft → Nat → Option Flaw
  | .broken, _ => some .early
  | .text (.error flaw), _ => some flaw
  | .number value, _ => value.flaw?
  | .list items, depth + 1 => items.flaw? depth
  | .object members, depth + 1 => members.flaw? depth
  | .list _, 0 => some .early
  | .object _, 0 => some .early
  | _, _ => none

/-- What keeps the items from use. A flaw shows late if it does so in the last of them. -/
def Items.flaw? : Items → Nat → Option Flaw
  | .closed, _ => none
  | .broken, _ => some .early
  | .item value .closed, depth => value.flaw? depth
  | .item value rest, depth =>
    if (value.flaw? depth).isSome then some .early else rest.flaw? depth

/-- What keeps the members from use. A flaw shows late if it does so in the last value. -/
def Members.flaw? : Members → Nat → Option Flaw
  | .closed, _ => none
  | .broken, _ => some .early
  | .member (.error _) _ _, _ => some .early
  | .member (.ok _) value .closed, depth => value.flaw? depth
  | .member (.ok _) value rest, depth =>
    if (value.flaw? depth).isSome then some .early else rest.flaw? depth

end

/-- Nothing keeps the value from use. -/
def Draft.isSound (draft : Draft) (depth : Nat) : Bool :=
  (draft.flaw? depth).isNone

/-- The fault of finding this value where one of another kind was wanted. -/
def Draft.unexpected : Draft → Fault
  | .broken => .malformed
  | .text (.error _) => .malformed
  | .number value => if value.inRange then .mismatch else .malformed
  | _ => .mismatch

end Tagging.Json
