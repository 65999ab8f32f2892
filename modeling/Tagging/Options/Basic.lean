import Tagging.Access.Grant
import Tagging.Http.Identity
import Tagging.Text.Basic

/-!
# Options

What whoever runs the service can set, and what follows from it: the grants to install, the
settings of the interface, and what tokens are checked against.
-/

namespace Tagging

/-!
## Listening addresses

An address of the Internet Protocol, in its fourth or its sixth version, with the number of a
socket. In the sixth version the longest run of zero groups may be left out when reading, and is
when writing; an address of the fourth version may stand in place of two groups.
-/

/-- An address to listen on. -/
inductive Address where
  | v4 (octets : Vector UInt8 4) (socket : UInt16)
  /-- The scope tells apart networks that use the same addresses; it is zero where that is not
  needed. -/
  | v6 (groups : Vector UInt16 8) (scope : UInt32) (socket : UInt16)
  deriving DecidableEq

namespace Address

/-! ### Reading -/

/-- The text after a character, if it begins with it. -/
def after? (mark : Char) : List Char → Option (List Char)
  | c :: rest => if c = mark then some rest else none
  | [] => none

/-- The decimal number below a bound that a text begins with, and what follows it. -/
def readNumber? (bound : Nat) (text : List Char) : Option (Nat × List Char) := do
  let value ← Text.decimal? (text.takeWhile Text.isDigit)
  guard (value < bound)
  some (value, text.dropWhile Text.isDigit)

/-- An octet has at most three digits, and none superfluous. -/
def readOctet? (text : List Char) : Option (Nat × List Char) := do
  let digits := text.takeWhile Text.isDigit
  guard (digits.length ≤ 3 && (digits.head? ≠ some '0' || digits.length = 1))
  readNumber? 256 text

/-- Four octets with points between them. -/
def readOctets? (text : List Char) : Option (Vector UInt8 4 × List Char) := do
  let (a, text) ← readOctet? text
  let (b, text) ← readOctet? (← after? '.' text)
  let (c, text) ← readOctet? (← after? '.' text)
  let (d, text) ← readOctet? (← after? '.' text)
  some (#v[UInt8.ofNat a, UInt8.ofNat b, UInt8.ofNat c, UInt8.ofNat d], text)

/-- A group has at most four digits in base sixteen. -/
def readGroup? (text : List Char) : Option (UInt16 × List Char) := do
  let digits := text.takeWhile Text.isHexDigit
  guard (digits.length ≤ 4)
  some (UInt16.ofNat (← Text.hexadecimal? digits), text.dropWhile Text.isHexDigit)

/-- The group that two octets make up. -/
def joinOctets (high low : UInt8) : UInt16 :=
  high.toUInt16 * 256 + low.toUInt16

/-- What was read of the groups of an address, and what follows. -/
structure Groups where
  groups : List UInt16
  /-- The last two were written as four octets. -/
  endsInOctets : Bool
  rest : List Char

/-- As many groups as there is room for, with colons between them, as far as the text goes. Four
octets need room for two groups and end the run. -/
def readGroups : Nat → Bool → List Char → Groups
  | 0, _, text => ⟨[], false, text⟩
  | room + 1, isFirst, text =>
    match if isFirst then some text else after? ':' text with
    | none => ⟨[], false, text⟩
    | some start =>
      match if room = 0 then none else readOctets? start with
      | some (octets, rest) =>
        ⟨[joinOctets octets[0] octets[1], joinOctets octets[2] octets[3]], true, rest⟩
      | none =>
        match readGroup? start with
        | none => ⟨[], false, text⟩
        | some (group, rest) =>
          let more := readGroups room false rest
          { more with groups := group :: more.groups }

/-- Eight groups. Two colons stand for the zeros that are left out, one group of them at least, and
octets only come last. -/
def readAllGroups? (text : List Char) : Option (List UInt16 × List Char) := do
  let head := readGroups 8 true text
  if head.groups.length = 8 then some (head.groups, head.rest)
  else
    guard (!head.endsInOctets)
    let tail := readGroups (7 - head.groups.length) true (← after? ':' (← after? ':' head.rest))
    let missing := 8 - head.groups.length - tail.groups.length
    some (head.groups ++ List.replicate missing 0 ++ tail.groups, tail.rest)

/-- The number of the socket, with which the text comes to an end. -/
def readSocket? (text : List Char) : Option UInt16 := do
  let (socket, rest) ← readNumber? 65536 (← after? ':' text)
  guard (rest = [])
  some (UInt16.ofNat socket)

/-- The scope, zero if there is none, and what follows it. -/
def readScope (text : List Char) : UInt32 × List Char :=
  match after? '%' text with
  | none => (0, text)
  | some start =>
    match readNumber? 4294967296 start with
    | some (scope, rest) => (UInt32.ofNat scope, rest)
    | none => (0, text)

/-- An address of the fourth version. -/
def readV4? (text : List Char) : Option Address := do
  let (octets, rest) ← readOctets? text
  some (.v4 octets (← readSocket? rest))

/-- An address of the sixth version, in brackets before the number of its socket. -/
def readV6? (text : List Char) : Option Address := do
  let (groups, rest) ← readAllGroups? (← after? '[' text)
  let (scope, rest) := readScope rest
  let socket ← readSocket? (← after? ']' rest)
  some (.v6 (Vector.ofFn fun i ↦ groups.getD i 0) scope socket)

/-- The address that a text denotes. -/
def ofString? (text : String) : Option Address :=
  readV4? text.toList <|> readV6? text.toList

/-! ### Writing -/

/-- Four octets with points between them. -/
def writeOctets (octets : List UInt8) : String :=
  ".".intercalate (octets.map fun octet ↦ toString octet.toNat)

/-- Groups in base sixteen with colons between them. -/
def writeGroups (groups : List UInt16) : String :=
  ":".intercalate (groups.map fun group ↦ String.ofList (Nat.toDigits 16 group.toNat))

/-- Where the longest run of zeros begins, the first of them if there are several, and its
length. -/
def longestZeros (groups : List UInt16) : Nat × Nat :=
  (List.range groups.length).foldl (fun best start ↦
    let run := ((groups.drop start).takeWhile (· = 0)).length
    if best.2 < run then (start, run) else best) (0, 0)

/-- The octets of a group. -/
def splitGroup (group : UInt16) : List UInt8 :=
  [(group / 256).toUInt8, group.toUInt8]

/-- Eight groups. A run of zeros is left out if it is longer than one, and the form that addresses
of the fourth version take here shows their octets. -/
def writeAllGroups (groups : List UInt16) : String :=
  if groups.take 6 = [0, 0, 0, 0, 0, 0xffff] then
    "::ffff:" ++ writeOctets ((groups.drop 6).flatMap splitGroup)
  else
    let (start, run) := longestZeros groups
    if 1 < run then
      writeGroups (groups.take start) ++ "::" ++ writeGroups (groups.drop (start + run))
    else writeGroups groups

/-- The written form of an address. -/
def toString : Address → String
  | .v4 octets socket => writeOctets octets.toList ++ s!":{socket.toNat}"
  | .v6 groups scope socket =>
    let scopeText := if scope = 0 then "" else s!"%{scope.toNat}"
    "[" ++ writeAllGroups groups.toList ++ scopeText ++ s!"]:{socket.toNat}"

end Address

/-! ## What can be set -/

/-- What can be set. -/
structure Options where
  /-- Where the service listens. -/
  address : Address
  /-- Where the state is kept. Without it the state is lost when the service ends. -/
  dataDirectory : Option String
  /-- What tokens are signed under. -/
  secret : Option String
  /-- Tokens must have an expiry that has not passed. -/
  checksExpiry : Bool
  /-- Headers may name the principal. -/
  trustsHeaders : Bool
  /-- The users who pass every check. -/
  admins : List String
  /-- The grants to install, in words. -/
  grants : List String
  pageSize : Nat
  /-- What is to be logged. -/
  logFilter : String

namespace Options

/-- The options where nothing is set. -/
def default : Options where
  address := .v4 #v[127, 0, 0, 1] 3000
  dataDirectory := none
  secret := none
  checksExpiry := false
  trustsHeaders := false
  admins := []
  grants := []
  pageSize := 40
  logFilter := "info"

instance : Inhabited Options := ⟨default⟩

/-- The entries of a list that are not blank, without white space around them. -/
def entries (texts : List String) : List String :=
  (texts.map Text.trimmed).filter (· ≠ "")

/-- The grants to install, or what is wrong with the first that is none. -/
def globalGrants (options : Options) : Except Error (List Grant) :=
  (entries options.grants).mapM Grant.parse

/-- The settings of the interface. -/
def settings (options : Options) : Http.Settings where
  trustsHeaders := options.trustsHeaders
  admins := Std.ExtTreeSet.ofList (entries options.admins)
  defaultPageSize := Http.clampPageSize options.pageSize

/-- What tokens are checked against, if there are any. -/
def verifier (options : Options) : Option Token.Verifier :=
  options.secret.map fun secret ↦ ⟨secret, options.checksExpiry⟩

end Options

end Tagging
