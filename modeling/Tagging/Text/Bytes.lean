import Tagging.Text.Basic

/-!
# Texts and bytes

The ways in which texts stand for bytes, and bytes for texts.
-/

namespace Tagging.Text.Utf8

/-!
## Characters in bytes

UTF-8 read one byte at a time. Bytes that belong to no character leave a gap, one for each longest
start of a character that the next byte does not continue.
-/

/-- A character whose first bytes have been read: its bits so far, how many bytes follow the next
one, and the range the next one must be in. -/
structure Open where
  bits : Nat
  more : Nat
  low : Nat
  high : Nat

/-- What a byte above the one-byte characters opens. -/
def lead (byte : Nat) : Option Open :=
  if 0xC2 ≤ byte ∧ byte ≤ 0xDF then some ⟨byte - 0xC0, 0, 0x80, 0xBF⟩
  else if byte = 0xE0 then some ⟨0, 1, 0xA0, 0xBF⟩
  else if byte = 0xED then some ⟨0xD, 1, 0x80, 0x9F⟩
  else if 0xE1 ≤ byte ∧ byte ≤ 0xEF then some ⟨byte - 0xE0, 1, 0x80, 0xBF⟩
  else if byte = 0xF0 then some ⟨0, 2, 0x90, 0xBF⟩
  else if 0xF1 ≤ byte ∧ byte ≤ 0xF3 then some ⟨byte - 0xF0, 2, 0x80, 0xBF⟩
  else if byte = 0xF4 then some ⟨4, 2, 0x80, 0x8F⟩
  else none

/-- A byte read between characters: what it yields, and what it leaves open. -/
def start (byte : Nat) : List (Option Char) × Option Open :=
  if byte < 0x80 then ([some (Char.ofNat byte)], none)
  else match lead byte with
    | some character => ([], some character)
    | none => ([none], none)

/-- A byte read with a character open or not: what it yields, and what it leaves open. -/
def step : Option Open → Nat → List (Option Char) × Option Open
  | none, byte => start byte
  | some character, byte =>
    if character.low ≤ byte ∧ byte ≤ character.high then
      let bits := character.bits * 64 + byte % 64
      match character.more with
      | 0 => ([some (Char.ofNat bits)], none)
      | more + 1 => ([], some ⟨bits, more, 0x80, 0xBF⟩)
    else
      let (yielded, left) := start byte
      (none :: yielded, left)

/-- Reading on with a character open or not. A character still open at the end leaves a gap. -/
def decodeFrom : Option Open → List UInt8 → List (Option Char)
  | none, [] => []
  | some _, [] => [none]
  | character, byte :: bytes =>
    let (yielded, left) := step character byte.toNat
    yielded ++ decodeFrom left bytes

/-- The characters of a byte sequence, with gaps where there are none. -/
def decode (bytes : List UInt8) : List (Option Char) :=
  decodeFrom none bytes

/-- The text of a byte sequence without gaps. -/
def text? (bytes : List UInt8) : Option (List Char) :=
  (decode bytes).mapM id

/-- The text of a byte sequence, with U+FFFD in every gap. -/
def lenient (bytes : List UInt8) : List Char :=
  (decode bytes).map (·.getD '\uFFFD')

/-- The bytes of a text. -/
def encode (text : String) : List UInt8 :=
  text.toUTF8.data.toList

end Tagging.Text.Utf8

namespace Tagging.Text.Percent

/-!
## Percent escapes

A byte of an address may be written as a percent sign and two digits in base sixteen. Anything
else stands for itself, a percent sign without its digits too.
-/

/-- The byte that two digits in base sixteen stand for. -/
def byte? (high low : UInt8) : Option UInt8 := do
  let high ← hexValue? (Char.ofNat high.toNat)
  let low ← hexValue? (Char.ofNat low.toNat)
  some (UInt8.ofNat (high * 16 + low))

/-- The bytes that an escaped byte sequence stands for. -/
def decode : List UInt8 → List UInt8
  | [] => []
  | byte :: high :: low :: rest =>
    match if byte = 0x25 then byte? high low else none with
    | some escaped => escaped :: decode rest
    | none => byte :: decode (high :: low :: rest)
  | byte :: rest => byte :: decode rest

end Tagging.Text.Percent

namespace Tagging.Text.Base64Url

/-!
## Bytes in the address-safe alphabet of 64 characters

Three bytes are four characters; one or two left over are two or three characters, whose unused low
bits are zero. There is no filling at the end.
-/

/-- The alphabet, each character at the place it stands for. -/
def alphabet : List Char :=
  "ABCDEFGHIJKLMNOPQRSTUVWXYZabcdefghijklmnopqrstuvwxyz0123456789-_".toList

/-- The six bits that a character stands for. -/
def sextet? (c : Char) : Option Nat :=
  alphabet.idxOf? c

/-- The character that stands for six bits. -/
def character (bits : Nat) : Char :=
  alphabet.getD bits 'A'

/-- The bytes that a text stands for. -/
def decode : List Char → Option (List UInt8)
  | [] => some []
  | [_] => none
  | [a, b] => do
    let bits := (← sextet? a) * 64 + (← sextet? b)
    if bits % 16 = 0 then some [UInt8.ofNat (bits / 16)] else none
  | [a, b, c] => do
    let bits := ((← sextet? a) * 64 + (← sextet? b)) * 64 + (← sextet? c)
    if bits % 4 = 0 then some [UInt8.ofNat (bits / 1024), UInt8.ofNat (bits / 4)] else none
  | a :: b :: c :: d :: rest => do
    let bits := (((← sextet? a) * 64 + (← sextet? b)) * 64 + (← sextet? c)) * 64 + (← sextet? d)
    let bytes ← decode rest
    some (UInt8.ofNat (bits / 65536) :: UInt8.ofNat (bits / 256) :: UInt8.ofNat bits :: bytes)

/-- The text that stands for a byte sequence. -/
def encode : List UInt8 → List Char
  | [] => []
  | [a] =>
    let bits := a.toNat * 16
    [character (bits / 64), character (bits % 64)]
  | [a, b] =>
    let bits := (a.toNat * 256 + b.toNat) * 4
    [character (bits / 4096), character (bits / 64 % 64), character (bits % 64)]
  | a :: b :: c :: rest =>
    let bits := (a.toNat * 256 + b.toNat) * 256 + c.toNat
    character (bits / 262144) :: character (bits / 4096 % 64) :: character (bits / 64 % 64) ::
      character (bits % 64) :: encode rest

end Tagging.Text.Base64Url
