import Tagging.Json.Basic
import Tagging.Text.Basic

/-!
# Numbers in JSON

A number is kept as it was written. Its value is a whole number if it is written as one and fits
64 bits, and otherwise the binary number of double width that the first nineteen or so digits and
the exponent give; a number too large for that has no value.
-/

namespace Tagging.Json

/-- What is left to read: characters, and gaps where bytes made none. -/
abbrev Input := List (Option Char)

/-- A number as written. -/
structure Number where
  negative : Bool
  whole : List Char
  fraction : Option (List Char)
  exponent : Option (Bool × List Char)

namespace Number

/-- The decimal digits at the start, and what follows them. -/
def takeDigits : Input → List Char × Input
  | some c :: rest =>
    if Text.isDigit c then
      let (digits, rest) := takeDigits rest
      (c :: digits, rest)
    else ([], some c :: rest)
  | rest => ([], rest)

/-- The digits before the point: a zero stands alone. -/
def takeWhole (input : Input) : Option (List Char × Input) :=
  match takeDigits input with
  | ([], _) => none
  | ('0' :: _ :: _, _) => none
  | digits => some digits

/-- The digits after the point, if there is one. -/
def takeFraction : Input → Option (Option (List Char) × Input)
  | some '.' :: rest =>
    match takeDigits rest with
    | ([], _) => none
    | (digits, rest) => some (some digits, rest)
  | rest => some (none, rest)

/-- The digits of an exponent with the given sign. -/
def takeExponentDigits (negative : Bool) (input : Input) :
    Option (Option (Bool × List Char) × Input) :=
  match takeDigits input with
  | ([], _) => none
  | (digits, rest) => some (some (negative, digits), rest)

/-- The exponent, if there is one. -/
def takeExponent : Input → Option (Option (Bool × List Char) × Input)
  | some c :: rest =>
    if c = 'e' ∨ c = 'E' then
      match rest with
      | some '-' :: rest => takeExponentDigits true rest
      | some '+' :: rest => takeExponentDigits false rest
      | rest => takeExponentDigits false rest
    else some (none, some c :: rest)
  | rest => some (none, rest)

/-- The number at the start, and what follows it. -/
def take (input : Input) : Option (Number × Input) := do
  let (negative, input) := match input with
    | some '-' :: rest => (true, rest)
    | rest => (false, rest)
  let (whole, input) ← takeWhole input
  let (fraction, input) ← takeFraction input
  let (exponent, input) ← takeExponent input
  some (⟨negative, whole, fraction, exponent⟩, input)

/-- The digits taken into account: as many as fit 64 bits, and the power of ten they are to be
multiplied by. -/
structure Significand where
  value : Nat
  power : Int

/-- The digit of a character known to be one. -/
def digit (c : Char) : Nat :=
  c.toNat - '0'.toNat

/-- Takes digits before the point. From the first that does not fit, each only adds to the power. -/
def Significand.takeWhole : Significand → List Char → Significand
  | s, [] => s
  | s, c :: rest =>
    if s.value * 10 + digit c < Text.wordBound then takeWhole ⟨s.value * 10 + digit c, s.power⟩ rest
    else ⟨s.value, s.power + (rest.length + 1)⟩

/-- Takes digits after the point, up to the first that does not fit. -/
def Significand.takeFraction : Significand → List Char → Significand
  | s, [] => s
  | s, c :: rest =>
    if s.value * 10 + digit c < Text.wordBound then
      takeFraction ⟨s.value * 10 + digit c, s.power - 1⟩ rest
    else s

/-- The power of ten of an exponent. -/
def exponentValue : Option (Bool × List Char) → Int
  | none => 0
  | some (negative, digits) =>
    let value : Int := ((Text.decimal? digits).getD 0 : Nat)
    if negative then -value else value

/-- The digits of a number that count, and their power of ten. -/
def significand (n : Number) : Significand :=
  let s := ((⟨0, 0⟩ : Significand).takeWhole n.whole).takeFraction (n.fraction.getD [])
  ⟨s.value, s.power + exponentValue n.exponent⟩

/-- A power of ten, correctly rounded. -/
def powerOfTen (k : Nat) : Float :=
  OfScientific.ofScientific 1 false k

/-- Divides by a power of ten, by at most `1e308` at a time. -/
def divide (f : Float) (k : Nat) : Float :=
  if k ≤ 308 then f / powerOfTen k
  else if f == 0 then f
  else divide (f / powerOfTen 308) (k - 308)
termination_by k

/-- The size of a number in double width, `none` when it is too large. -/
def size? (n : Number) : Option Float :=
  let s := n.significand
  let f := (UInt64.ofNat s.value).toFloat
  if s.power < 0 then some (divide f (-s.power).toNat)
  else if s.value = 0 then some f
  else if s.power ≤ 308 then
    let product := f * powerOfTen s.power.toNat
    if product.isInf then none else some product
  else none

/-- The number has a value. -/
def inRange (n : Number) : Bool :=
  n.size?.isSome

/-- Exponents of 31 bits are below this. -/
def exponentBound : Nat := 2147483648

/-- What keeps a number from use: it is out of range. Reading goes no further than the digit that
takes the exponent beyond 31 bits. -/
def flaw? (n : Number) : Option Flaw :=
  if n.inRange then none
  else
    match n.exponent with
    | none => some .late
    | some (_, digits) =>
      if (Text.decimal? digits.dropLast).getD 0 < exponentBound then some .late else some .early

/-- The whole number that is written without point, exponent or sign, if it fits 64 bits. -/
def natural? (n : Number) : Option Nat := do
  guard (!n.negative && n.fraction.isNone && n.exponent.isNone)
  let value ← Text.decimal? n.whole
  guard (value < Text.wordBound)
  some value

end Number

end Tagging.Json
