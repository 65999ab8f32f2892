/-!
# Texts

How texts are trimmed, split at marks, and written and read as numbers.
-/

namespace Tagging.Text

/-!
## White space

The characters that are dropped at both ends of a label, a name or a colour, and the dropping.
-/

/-- The characters with the Unicode property White_Space. -/
def isBlank (c : Char) : Bool :=
  let n := c.toNat
  (9 ≤ n ∧ n ≤ 13) ∨ n = 0x20 ∨ n = 0x85 ∨ n = 0xA0 ∨ n = 0x1680 ∨ (0x2000 ≤ n ∧ n ≤ 0x200A) ∨
    n = 0x2028 ∨ n = 0x2029 ∨ n = 0x202F ∨ n = 0x205F ∨ n = 0x3000

/-- The text without the white space before its first visible character. -/
def trimStart (text : List Char) : List Char :=
  text.dropWhile isBlank

/-- The text without the white space at either end. -/
def trim (text : List Char) : List Char :=
  (trimStart (trimStart text).reverse).reverse

/-- The text without the white space at either end, as a string. -/
def trimmed (text : String) : String :=
  String.ofList (trim text.toList)

/-! ## Splitting texts at marks -/

/-- The text before the first mark, and the text after it. -/
def splitFirst? (mark : Char) : List Char → Option (List Char × List Char)
  | [] => none
  | c :: rest =>
    if c = mark then some ([], rest)
    else (splitFirst? mark rest).map fun parts ↦ (c :: parts.1, parts.2)

/-- The text before the last mark, and the text after it. -/
def splitLast? (mark : Char) (text : List Char) : Option (List Char × List Char) :=
  (splitFirst? mark text.reverse).map fun parts ↦ (parts.2.reverse, parts.1.reverse)

/-- The texts between marks. There is always one more of them than there are marks. -/
def splitAll (mark : Char) : List Char → List (List Char)
  | [] => [[]]
  | c :: rest =>
    if c = mark then [] :: splitAll mark rest
    else match splitAll mark rest with
      | [] => [[c]]
      | part :: parts => (c :: part) :: parts

/-!
## Digits

Numbers written with a fixed or a least count of digits, and read back. Letters stand for the
digits above nine: small ones when writing, either size when reading.
-/

/-- The `width` low digits of a number in a base, the most significant first. -/
def fixedDigits (base : Nat) : Nat → Nat → List Char
  | 0, _ => []
  | width + 1, n => fixedDigits base width (n / base) ++ [Nat.digitChar (n % base)]

/-- The value of a decimal digit. -/
def digitValue? (c : Char) : Option Nat :=
  if '0' ≤ c ∧ c ≤ '9' then some (c.toNat - '0'.toNat) else none

/-- The value of a digit in base sixteen. -/
def hexValue? (c : Char) : Option Nat :=
  if '0' ≤ c ∧ c ≤ '9' then some (c.toNat - '0'.toNat)
  else if 'a' ≤ c ∧ c ≤ 'f' then some (c.toNat - 'a'.toNat + 10)
  else if 'A' ≤ c ∧ c ≤ 'F' then some (c.toNat - 'A'.toNat + 10)
  else none

/-- The character is a digit in base sixteen. -/
def isHexDigit (c : Char) : Bool :=
  (hexValue? c).isSome

/-- The character is a decimal digit. -/
def isDigit (c : Char) : Bool :=
  (digitValue? c).isSome

/-- Appending digits to a number already read, `none` at a character that is no digit. -/
def readDigits (digit? : Char → Option Nat) (base : Nat) : Nat → List Char → Option Nat
  | n, [] => some n
  | n, c :: rest => do readDigits digit? base (n * base + (← digit? c)) rest

/-- The number that a text of decimal digits denotes. -/
def decimal? (text : List Char) : Option Nat :=
  if text = [] then none else readDigits digitValue? 10 0 text

/-- The number that a text of digits in base sixteen denotes. -/
def hexadecimal? (text : List Char) : Option Nat :=
  if text = [] then none else readDigits hexValue? 16 0 text

/-- Numbers of 64 bits are below it. -/
def wordBound : Nat := 0x10000000000000000

/-- The number of 64 bits that a text of decimal digits denotes. A plus sign may come first. -/
def unsigned64? (text : List Char) : Option Nat := do
  let value ← decimal? (if text.head? = some '+' then text.tail else text)
  guard (value < wordBound)
  some value

/-- The decimal digits of a number, none superfluous. -/
def decimal (n : Nat) : List Char :=
  Nat.toDigits 10 n

/-- The decimal digits of a number, after zeros if there are fewer than `width`. -/
def padded (width n : Nat) : List Char :=
  (decimal n).leftpad width '0'

end Tagging.Text
