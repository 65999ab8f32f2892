import Tagging.Text.Basic
import Tagging.Time.Instant

/-!
# Timestamps

Instants in the form `2023-11-14T22:13:20.5Z`. They are written with the fewest groups of three
digits that give the fraction exactly. Reading is more tolerant: any offset, fields of one digit,
years with a sign, spaces inside the date and the time, and fractions of any length.
-/

namespace Tagging.Time

/-- A year: four digits, or a sign and at least four. -/
def writeYear (year : Int) : List Char :=
  if year < 0 then '-' :: Text.padded 4 year.natAbs
  else if year ≤ 9999 then Text.padded 4 year.toNat
  else '+' :: Text.padded 4 year.toNat

/-- The fraction of a second in 0, 3, 6 or 9 digits. -/
def writeFraction (nano : Nat) : List Char :=
  if nano = 0 then []
  else if nano % 1000000 = 0 then '.' :: Text.fixedDigits 10 3 (nano / 1000000)
  else if nano % 1000 = 0 then '.' :: Text.fixedDigits 10 6 (nano / 1000)
  else '.' :: Text.fixedDigits 10 9 nano

/-- Two digits. -/
def writePair (n : Nat) : List Char :=
  Text.fixedDigits 10 2 n

/-- An instant in its written form. -/
def write (instant : Instant) : List Char :=
  let date := instant.date
  let leap := if instant.nano < 1000000000 then 0 else 1
  writeYear date.year ++ '-' :: writePair date.month ++ '-' :: writePair date.day ++
    'T' :: writePair (instant.second / 3600) ++ ':' :: writePair (instant.second / 60 % 60) ++
    ':' :: writePair (instant.second % 60 + leap) ++
    writeFraction (instant.nano - leap * 1000000000) ++ ['Z']

/-- An instant in its written form, as a string. -/
def timestamp (instant : Instant) : String :=
  String.ofList (write instant)

/-- The year and month of an instant. -/
def month (instant : Instant) : String :=
  let date := instant.date
  String.ofList (writeYear date.year ++ '-' :: writePair date.month)

/-- The decimal digits at the start of a text, at most `width` of them, and what follows. -/
def spanDigits : Nat → List Char → List Char × List Char
  | width + 1, c :: rest =>
    if Text.isDigit c then
      let (digits, rest) := spanDigits width rest
      (c :: digits, rest)
    else ([], c :: rest)
  | _, rest => ([], rest)

/-- A number of at least one and at most `width` digits at the start of a text. -/
def takeNumber (width : Nat) (text : List Char) : Option (Nat × List Char) := do
  let (digits, rest) := spanDigits width text
  some (← Text.decimal? digits, rest)

/-- A field of one or two digits, after white space. -/
def takeField (text : List Char) : Option (Nat × List Char) :=
  takeNumber 2 (Text.trimStart text)

/-- A year, after white space: up to four digits, or a sign and any number of them. -/
def takeYear (text : List Char) : Option (Int × List Char) :=
  match Text.trimStart text with
  | '-' :: rest => (takeNumber rest.length rest).map fun (n, rest) ↦ (-(n : Int), rest)
  | '+' :: rest => (takeNumber rest.length rest).map fun (n, rest) ↦ ((n : Int), rest)
  | rest => (takeNumber 4 rest).map fun (n, rest) ↦ ((n : Int), rest)

/-- What follows a mark, which white space may come before. -/
def takeMark (mark : Char) (text : List Char) : Option (List Char) :=
  match Text.trimStart text with
  | c :: rest => if c = mark then some rest else none
  | [] => none

/-- The nanoseconds of a fraction, if there is one: its first nine digits, with zeros in place of
those that are not there. -/
def takeFraction : List Char → Option (Nat × List Char)
  | '.' :: rest =>
    let (digits, rest) := spanDigits 9 rest
    if digits = [] then none
    else (Text.decimal? (digits.rightpad 9 '0')).map fun n ↦ (n, rest.dropWhile Text.isDigit)
  | rest => some (0, rest)

/-- Two digits that make a number below `bound`. -/
def takePair (bound : Nat) : List Char → Option (Nat × List Char)
  | a :: b :: rest => do
    let n := (← Text.digitValue? a) * 10 + (← Text.digitValue? b)
    if n < bound then some (n, rest) else none
  | _ => none

/-- The minutes of an offset with a given sign: two digits of hours and two of minutes, with colons
and white space between them. -/
def takeOffset (sign : Int) (text : List Char) : Option (Int × List Char) := do
  let (hours, text) ← takePair 24 text
  let (minutes, text) ← takePair 60 (text.dropWhile fun c ↦ c = ':' || Text.isBlank c)
  some (sign * (hours * 60 + minutes : Nat), text)

/-- The minutes by which the clock was ahead: `UTC`, `Z`, or a sign with hours and minutes. -/
def takeZone : List Char → Option (Int × List Char)
  | '+' :: rest => takeOffset 1 rest
  | '-' :: rest => takeOffset (-1) rest
  | '\u2212' :: rest => takeOffset (-1) rest
  | 'Z' :: rest => some (0, rest)
  | 'z' :: rest => some (0, rest)
  | u :: t :: c :: rest =>
    if u.toLower = 'u' ∧ t.toLower = 't' ∧ c.toLower = 'c' then some (0, rest) else none
  | _ => none

/-- The instant at which a clock ahead by `offset` minutes showed a date and a time. -/
def instantOf? (date : Date) (hour minute second nano : Nat) (offset : Int) : Option Instant := do
  guard (date.isValid && hour < 24 && minute < 60 && second ≤ 60)
  let day := date.toDay - Instant.epoch
  let leap := second / 60
  let shown ← Instant.ofParts? day (hour * 3600 + minute * 60 + (second - leap))
    (nano + leap * 1000000000)
  let seconds := (shown.second : Int) - offset * 60
  Instant.ofParts? (shown.day + seconds / 86400) (seconds % 86400).toNat shown.nano

/-- The instant that a text denotes. -/
def ofText? (text : List Char) : Option Instant := do
  let (year, text) ← takeYear text
  let (month, text) ← takeField (← takeMark '-' text)
  let (day, text) ← takeField (← takeMark '-' text)
  let text ← match text with
    | c :: rest => if c = 'T' ∨ c = 't' ∨ c = ' ' then some rest else none
    | [] => none
  let (hour, text) ← takeField text
  let (minute, text) ← takeField (← takeMark ':' text)
  let (second, text) ← takeField (← takeMark ':' text)
  let (nano, text) ← takeFraction text
  let (offset, text) ← takeZone (Text.trimStart text)
  guard (Text.trimStart text = [])
  instantOf? ⟨year, month, day⟩ hour minute second nano offset

/-- The instant that a string denotes. -/
def ofTimestamp? (text : String) : Option Instant :=
  ofText? text.toList

end Tagging.Time
