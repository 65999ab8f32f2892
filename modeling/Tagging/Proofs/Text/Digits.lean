import Mathlib.Tactic.Ring
import Tagging.Text.Basic

/-!
# Digits read back

A number is the number that its written digits denote, whether they are written with a fixed or a
least width. A written digit is known by its value: what is read at a character is told by that
value and by nothing else.
-/

namespace Tagging.Text

/-! ### Single digits -/

/-- A small digit in base sixteen has its value. -/
theorem hexValue?_digitChar : ∀ n < 16, hexValue? (Nat.digitChar n) = some n := by
  decide

/-- A decimal digit has its value. -/
theorem digitValue?_digitChar : ∀ n < 10, digitValue? (Nat.digitChar n) = some n := by
  decide

/-- The text begins with no decimal digit. -/
def NoDigit (text : List Char) : Prop :=
  ∀ c ∈ text.head?, isDigit c = false

/-! ### Digits of a fixed width -/

/-- As many digits are written as the width says. -/
@[simp] theorem length_fixedDigits (base width n : Nat) :
    (fixedDigits base width n).length = width := by
  induction width generalizing n with
  | zero => rfl
  | succ width ih => simp [fixedDigits, ih]

/-- Where the width leaves room there is a digit. -/
theorem fixedDigits_ne_nil {base width : Nat} (wide : 0 < width) (n : Nat) :
    fixedDigits base width n ≠ [] := by
  rw [← List.length_pos_iff, length_fixedDigits]
  exact wide

/-- A written digit is that of a number below the base. -/
theorem mem_fixedDigits {base width n : Nat} {c : Char} (positive : 0 < base)
    (member : c ∈ fixedDigits base width n) : ∃ digit < base, c = Nat.digitChar digit := by
  induction width generalizing n with
  | zero => cases member
  | succ width ih =>
    simp only [fixedDigits, List.mem_append, List.mem_singleton] at member
    obtain member | rfl := member
    · exact ih member
    · exact ⟨n % base, Nat.mod_lt n positive, rfl⟩

/-- Decimal digits of a fixed width are digits. -/
theorem isDigit_of_mem_fixedDigits {width n : Nat} {c : Char}
    (member : c ∈ fixedDigits 10 width n) : isDigit c := by
  obtain ⟨digit, small, rfl⟩ := mem_fixedDigits (by decide) member
  simp [isDigit, digitValue?_digitChar digit small]

/-- Digits that follow others are read on with the number that the others denote. -/
theorem readDigits_append (digit? : Char → Option Nat) (base start : Nat)
    (front back : List Char) :
    readDigits digit? base start (front ++ back) =
      (readDigits digit? base start front).bind fun n ↦ readDigits digit? base n back := by
  induction front generalizing start with
  | nil => rfl
  | cons c front ih =>
    simp only [List.cons_append, readDigits]
    cases digit? c with
    | none => rfl
    | some digit => exact ih _

/-- What digits of a fixed width denote, read behind a number. -/
theorem readDigits_fixedDigits {digit? : Char → Option Nat} {base : Nat} (positive : 0 < base)
    (values : ∀ n < base, digit? (Nat.digitChar n) = some n) (start width n : Nat) :
    readDigits digit? base start (fixedDigits base width n) =
      some (start * base ^ width + n % base ^ width) := by
  induction width generalizing n with
  | zero => simp [fixedDigits, readDigits, Nat.mod_one]
  | succ width ih =>
    have last := values (n % base) (Nat.mod_lt n positive)
    have split : n % base ^ (width + 1) = n % base + base * (n / base % base ^ width) := by
      rw [Nat.pow_succ', Nat.mod_mul]
    rw [fixedDigits, readDigits_append, ih, Option.bind_some, split]
    simp only [readDigits, last, bind, Option.bind_some, Option.some.injEq]
    ring

/-- A number that has room in the width is the one that its decimal digits denote. -/
theorem decimal?_fixedDigits {width n : Nat} (wide : 0 < width) (room : n < 10 ^ width) :
    decimal? (fixedDigits 10 width n) = some n := by
  rw [decimal?, if_neg (fixedDigits_ne_nil wide n),
    readDigits_fixedDigits (by decide) digitValue?_digitChar, Nat.zero_mul, Nat.zero_add,
    Nat.mod_eq_of_lt room]

/-- A number that has room in the width is the one that its digits in base sixteen denote. -/
theorem hexadecimal?_fixedDigits {width n : Nat} (wide : 0 < width) (room : n < 16 ^ width) :
    hexadecimal? (fixedDigits 16 width n) = some n := by
  rw [hexadecimal?, if_neg (fixedDigits_ne_nil wide n),
    readDigits_fixedDigits (by decide) hexValue?_digitChar, Nat.zero_mul, Nat.zero_add,
    Nat.mod_eq_of_lt room]

private theorem digitChar_lt : ∀ n < 10, ∀ m < 10, n < m → Nat.digitChar n < Nat.digitChar m := by
  decide

/-- Of two numbers that have room in the width the lesser is written with lesser digits, whatever
follows them. -/
theorem fixedDigits_append_lt {width n m : Nat} (less : n < m) (room : m < 10 ^ width)
    (rest other : List Char) :
    fixedDigits 10 width n ++ rest < fixedDigits 10 width m ++ other := by
  induction width generalizing n m rest other with
  | zero => omega
  | succ width ih =>
    rw [Nat.pow_succ] at room
    have within : m / 10 < 10 ^ width := by omega
    simp only [fixedDigits, List.append_assoc, List.singleton_append]
    by_cases front : n / 10 < m / 10
    · exact ih front within _ _
    · -- The digits in front are the same, so that the last ones decide.
      have same : n / 10 = m / 10 := by omega
      have last : n % 10 < m % 10 := by omega
      rw [same]
      apply List.append_left_lt
      rw [List.cons_lt_cons_iff]
      exact .inl (digitChar_lt _ (Nat.mod_lt n (by decide)) _ (Nat.mod_lt m (by decide)) last)

/-- Zeros behind the digits of a number multiply it by the base. -/
theorem readDigits_zeros (start count : Nat) :
    readDigits digitValue? 10 start (List.replicate count '0') = some (start * 10 ^ count) := by
  induction count generalizing start with
  | zero => simp [readDigits]
  | succ count ih =>
    have zero : digitValue? '0' = some 0 := rfl
    rw [List.replicate_succ, readDigits, zero, Option.bind_eq_bind, Option.bind_some, ih,
      Nat.pow_succ']
    ring_nf

/-! ### Digits of a least width -/

/-- The decimal digits of a number are digits. -/
theorem isDigit_of_mem_decimal {n : Nat} {c : Char} (member : c ∈ decimal n) : isDigit c := by
  have digit := Nat.isDigit_of_mem_toDigits (by decide) (by decide) member
  have range : '0' ≤ c ∧ c ≤ '9' := by
    simpa [Char.isDigit, Char.le_def, UInt32.le_iff_toNat_le] using digit
  simp [isDigit, digitValue?, range]

/-- A number is the one that its decimal digits denote. -/
theorem readDigits_decimal (n : Nat) : readDigits digitValue? 10 0 (decimal n) = some n := by
  induction n using Nat.strongRecOn with
  | ind n ih =>
    by_cases small : n < 10
    · rw [decimal, Nat.toDigits_of_lt_base small]
      simp [readDigits, digitValue?_digitChar n small]
    · have last := digitValue?_digitChar (n % 10) (Nat.mod_lt n (by decide))
      have front := ih (n / 10) (by omega)
      rw [decimal] at front
      rw [decimal, Nat.toDigits_of_base_le (by decide) (by omega), readDigits_append, front]
      simp only [Option.bind_some, readDigits, last, bind, Option.some.injEq]
      omega

private theorem readDigits_leftpad (width : Nat) (digits : List Char) :
    readDigits digitValue? 10 0 (digits.leftpad width '0') =
      readDigits digitValue? 10 0 digits := by
  rw [List.leftpad, readDigits_append, readDigits_zeros, Nat.zero_mul, Option.bind_some]

/-- The digits of a least width are digits. -/
theorem isDigit_of_mem_padded {width n : Nat} {c : Char} (member : c ∈ padded width n) :
    isDigit c := by
  simp only [padded, List.leftpad, List.mem_append, List.mem_replicate] at member
  obtain ⟨_, rfl⟩ | member := member
  · rfl
  · exact isDigit_of_mem_decimal member

/-- A number written with a least width has at least one digit. -/
theorem padded_ne_nil (width n : Nat) : padded width n ≠ [] := by
  intro empty
  have none : decimal n = [] := (List.append_eq_nil_iff.mp empty).2
  exact Nat.toDigits_ne_nil none

/-- A number that has room in a least width has no more digits than that. -/
theorem length_padded {width n : Nat} (wide : 0 < width) (room : n < 10 ^ width) :
    (padded width n).length = width := by
  have short : (Nat.toDigits 10 n).length ≤ width :=
    (Nat.length_toDigits_le_iff (by decide) wide).mpr room
  rw [padded, List.length_leftpad, decimal]
  omega

private theorem fixedDigits_zero (width : Nat) :
    fixedDigits 10 width 0 = List.replicate width '0' := by
  induction width with
  | zero => rfl
  | succ width ih =>
    rw [fixedDigits, Nat.zero_div, ih, List.replicate_succ']
    rfl

/-- A number that has room in a least width is written as with that width. -/
theorem padded_eq_fixedDigits {width n : Nat} (wide : 0 < width) (room : n < 10 ^ width) :
    padded width n = fixedDigits 10 width n := by
  induction width generalizing n with
  | zero => cases wide
  | succ width ih =>
    rw [Nat.pow_succ] at room
    rw [fixedDigits]
    by_cases small : n < 10
    · rw [Nat.div_eq_of_lt small, fixedDigits_zero, padded, decimal,
        Nat.toDigits_of_lt_base small, Nat.mod_eq_of_lt small]
      simp [List.leftpad]
    · cases width with
      | zero => omega
      | succ width =>
        have front := ih (Nat.succ_pos width) (show n / 10 < 10 ^ (width + 1) by omega)
        rw [← front, padded, padded, decimal, decimal,
          Nat.toDigits_of_base_le (by decide) (by omega : 10 ≤ n)]
        simp [List.leftpad]

/-- A number is the one that its digits of a least width denote. -/
theorem decimal?_padded (width n : Nat) : decimal? (padded width n) = some n := by
  rw [decimal?, if_neg (padded_ne_nil width n), padded, readDigits_leftpad, readDigits_decimal]

end Tagging.Text
