import Tagging.Proofs.Text.Blank
import Tagging.Proofs.Text.Digits
import Tagging.Proofs.Time.Calendar
import Tagging.Time.Timestamp

/-!
# Timestamps and months

Timestamps are read back, and months sort by time.
-/

namespace Tagging.Time

/-!
## Timestamps read back

The written form of an instant denotes it, whatever its year and its fraction of a second are, and
in leap seconds too. Each part of the form is read up to the mark that follows it.
-/

open Text

/-! ### Digits up to a mark -/

private theorem isBlank_of_isDigit {c : Char} (digit : isDigit c) : isBlank c = false := by
  simp only [isDigit, digitValue?, Option.isSome_ite, Char.le_def, UInt32.le_iff_toNat_le] at digit
  have range : 48 ≤ c.toNat ∧ c.toNat ≤ 57 := digit
  simp only [isBlank, decide_eq_false_iff_not]
  omega

private theorem trimStart_digits {digits : List Char} (rest : List Char) (some_digit : digits ≠ [])
    (all : ∀ c ∈ digits, isDigit c) : trimStart (digits ++ rest) = digits ++ rest := by
  cases digits with
  | nil => exact absurd rfl some_digit
  | cons c digits => exact trimStart_cons _ (isBlank_of_isDigit (all c List.mem_cons_self))

private theorem digits_append_ne {digits : List Char} (rest text : List Char) {mark : Char}
    (some_digit : digits ≠ []) (all : ∀ c ∈ digits, isDigit c) (other : isDigit mark = false) :
    digits ++ rest ≠ mark :: text := by
  cases digits with
  | nil => exact absurd rfl some_digit
  | cons c digits =>
    intro same
    have digit := all c List.mem_cons_self
    rw [(List.cons.inj same).1, other] at digit
    cases digit

private theorem spanDigits_append {width : Nat} {digits rest : List Char}
    (all : ∀ c ∈ digits, isDigit c) (short : digits.length ≤ width)
    (ends : digits.length = width ∨ NoDigit rest) :
    spanDigits width (digits ++ rest) = (digits, rest) := by
  induction digits generalizing width with
  | nil =>
    obtain rfl | stops := ends
    · rfl
    · cases rest with
      | nil => cases width <;> rfl
      | cons c rest =>
        have mark : isDigit c = false := stops c rfl
        cases width <;> simp [spanDigits, mark]
  | cons c digits ih =>
    obtain ⟨first, others⟩ := List.forall_mem_cons.mp all
    cases width with
    | zero => cases short
    | succ width =>
      rw [List.length_cons] at short ends
      have later : spanDigits width (digits ++ rest) = (digits, rest) :=
        ih others (by omega) (ends.imp (by omega) id)
      simp [spanDigits, first, later]

private theorem takeNumber_append {width n : Nat} {digits rest : List Char}
    (all : ∀ c ∈ digits, isDigit c) (short : digits.length ≤ width)
    (ends : digits.length = width ∨ NoDigit rest) (denotes : decimal? digits = some n) :
    takeNumber width (digits ++ rest) = some (n, rest) := by
  simp [takeNumber, spanDigits_append all short ends, denotes]

private theorem noDigit_cons {mark : Char} (rest : List Char) (other : isDigit mark = false) :
    NoDigit (mark :: rest) := by
  rintro c ⟨⟩
  exact other

/-! ### The parts of a timestamp -/

private theorem takeMark_cons {mark : Char} (rest : List Char) (visible : isBlank mark = false) :
    takeMark mark (mark :: rest) = some rest := by
  simp [takeMark, trimStart_cons rest visible]

private theorem takeField_writePair {n : Nat} (rest : List Char) (small : n < 100) :
    takeField (writePair n ++ rest) = some (n, rest) := by
  have all : ∀ c ∈ fixedDigits 10 2 n, isDigit c := fun c member ↦
    isDigit_of_mem_fixedDigits member
  have long : (fixedDigits 10 2 n).length = 2 := length_fixedDigits 10 2 n
  rw [takeField, writePair, trimStart_digits rest (fixedDigits_ne_nil (by decide) n) all]
  exact takeNumber_append all (by omega) (.inl long)
    (decimal?_fixedDigits (by decide) (by simpa using small))

private theorem takeNumber_padded (n : Nat) (rest : List Char) (stops : NoDigit rest) :
    takeNumber (padded 4 n ++ rest).length (padded 4 n ++ rest) = some (n, rest) :=
  takeNumber_append (fun _ member ↦ isDigit_of_mem_padded member) (by simp) (.inr stops)
    (decimal?_padded 4 n)

private theorem takeYear_writeYear (year : Int) (rest : List Char) (stops : NoDigit rest) :
    takeYear (writeYear year ++ rest) = some (year, rest) := by
  unfold writeYear
  split
  · next before =>
    rw [List.cons_append, takeYear, trimStart_cons _ (by decide)]
    simp only [takeNumber_padded _ _ stops, Option.map_some, Option.some.injEq, Prod.mk.injEq,
      and_true]
    omega
  · next since =>
    split
    · next four =>
      have all : ∀ c ∈ padded 4 year.toNat, isDigit c := fun c member ↦
        isDigit_of_mem_padded member
      have long : (padded 4 year.toNat).length = 4 := length_padded (by decide) (by omega)
      have some_digit := padded_ne_nil 4 year.toNat
      have value : ((year.toNat : Nat) : Int) = year := by omega
      -- A year of four digits has no sign, and must not be taken for one that has.
      rw [takeYear, trimStart_digits rest some_digit all]
      split
      · next text same => exact absurd same (digits_append_ne _ _ some_digit all (by decide))
      · next text same => exact absurd same (digits_append_ne _ _ some_digit all (by decide))
      · simp [takeNumber_append all (by omega) (.inl long) (decimal?_padded 4 _), value]
    · next many =>
      rw [List.cons_append, takeYear, trimStart_cons _ (by decide)]
      simp only [takeNumber_padded _ _ stops, Option.map_some, Option.some.injEq, Prod.mk.injEq,
        and_true]
      omega

private theorem takeFraction_fixedDigits {width n : Nat} {rest : List Char} (wide : 0 < width)
    (short : width ≤ 9) (room : n < 10 ^ width) (stops : NoDigit rest) :
    takeFraction ('.' :: fixedDigits 10 width n ++ rest) = some (n * 10 ^ (9 - width), rest) := by
  have all : ∀ c ∈ fixedDigits 10 width n, isDigit c := fun c member ↦
    isDigit_of_mem_fixedDigits member
  have long : (fixedDigits 10 width n).length = width := length_fixedDigits 10 width n
  have filled : decimal? ((fixedDigits 10 width n).rightpad 9 '0') =
      some (n * 10 ^ (9 - width)) := by
    have some_digit : (fixedDigits 10 width n).rightpad 9 '0' ≠ [] := fun empty ↦
      fixedDigits_ne_nil wide n (List.append_eq_nil_iff.mp empty).1
    rw [decimal?, if_neg some_digit, List.rightpad, readDigits_append,
      readDigits_fixedDigits (by decide) digitValue?_digitChar, Option.bind_some,
      readDigits_zeros, long, Nat.zero_mul, Nat.zero_add, Nat.mod_eq_of_lt room]
  have done : rest.dropWhile isDigit = rest := by
    cases rest with
    | nil => rfl
    | cons c rest => rw [List.dropWhile_cons_of_neg (by simp [stops c rfl])]
  rw [List.cons_append, takeFraction, spanDigits_append all (by omega) (.inr stops)]
  simp only [fixedDigits_ne_nil wide n, if_false, filled, Option.map_some, done]

private theorem takeFraction_writeFraction {nano : Nat} (small : nano < 1000000000) :
    takeFraction (writeFraction nano ++ ['Z']) = some (nano, ['Z']) := by
  have stops : NoDigit ['Z'] := noDigit_cons [] (by decide)
  unfold writeFraction
  split
  · next zero =>
    rw [zero]
    rfl
  · split
    · next milli =>
      rw [takeFraction_fixedDigits (by decide) (by decide) (by omega) stops]
      simp only [Option.some.injEq, Prod.mk.injEq, and_true]
      omega
    · split
      · next micro =>
        rw [takeFraction_fixedDigits (by decide) (by decide) (by omega) stops]
        simp only [Option.some.injEq, Prod.mk.injEq, and_true]
        omega
      · rw [takeFraction_fixedDigits (by decide) (by decide) (by omega) stops]
        simp

/-! ### The instant -/

private theorem ofParts?_self (instant : Instant) :
    Instant.ofParts? instant.day instant.second instant.nano = some instant := by
  rw [Instant.ofParts?, dif_pos ⟨instant.day_ge, instant.day_le, instant.second_lt,
    instant.nano_lt⟩]

/-- One more if the instant lies in a leap second. -/
def leapOf (instant : Instant) : Nat :=
  if instant.nano < 1000000000 then 0 else 1

private theorem instantOf?_self (instant : Instant) :
    instantOf? instant.date (instant.second / 3600) (instant.second / 60 % 60)
      (instant.second % 60 + leapOf instant) (instant.nano - leapOf instant * 1000000000) 0 =
      some instant := by
  have valid : instant.date.isValid = true := isValid_ofDay _
  have day : instant.date.toDay - Instant.epoch = instant.day := by
    rw [Instant.date, toDay_ofDay]
    omega
  have second := instant.second_lt
  -- In a leap second the clock shows 60, since it lies at the end of a minute.
  have shown : instant.second % 60 + leapOf instant ≤ 60 ∧
      (instant.second % 60 + leapOf instant) / 60 = leapOf instant ∧
      leapOf instant * 1000000000 ≤ instant.nano := by
    have nano := instant.nano_lt
    unfold leapOf
    split <;> omega
  obtain ⟨le, leap, nano⟩ := shown
  have time : instant.second / 3600 * 3600 + instant.second / 60 % 60 * 60 +
      instant.second % 60 = instant.second := by
    omega
  have hour : instant.second / 3600 < 24 := by omega
  have minute : instant.second / 60 % 60 < 60 := by omega
  have fraction : instant.nano - leapOf instant * 1000000000 + leapOf instant * 1000000000 =
      instant.nano := by
    omega
  have quotient : (instant.second : Int) / 86400 = 0 := by omega
  have remainder : ((instant.second : Int) % 86400).toNat = instant.second := by omega
  simp [instantOf?, guard, valid, hour, minute, le, leap, day, time, fraction, ofParts?_self,
    quotient, remainder]

private theorem ofText?_of_parts
    {text afterYear afterMonth afterDay afterHour afterMinute afterSecond : List Char} {year : Int}
    {month day hour minute second nano : Nat}
    (years : takeYear text = some (year, '-' :: afterYear))
    (months : takeField afterYear = some (month, '-' :: afterMonth))
    (days : takeField afterMonth = some (day, 'T' :: afterDay))
    (hours : takeField afterDay = some (hour, ':' :: afterHour))
    (minutes : takeField afterHour = some (minute, ':' :: afterMinute))
    (seconds : takeField afterMinute = some (second, afterSecond))
    (fraction : takeFraction afterSecond = some (nano, ['Z'])) :
    ofText? text = instantOf? ⟨year, month, day⟩ hour minute second nano 0 := by
  have dash : ∀ rest, takeMark '-' ('-' :: rest) = some rest := fun rest ↦
    takeMark_cons rest (by decide)
  have colon : ∀ rest, takeMark ':' (':' :: rest) = some rest := fun rest ↦
    takeMark_cons rest (by decide)
  have zone : takeZone (trimStart ['Z']) = some (0, []) := rfl
  have ended : trimStart [] = [] := rfl
  have next : ∀ {α β : Type} (a : α) (f : α → Option β), (some a >>= f) = f a := fun _ _ ↦ rfl
  unfold ofText?
  dsimp only
  rw [years, next, dash, next, months, next, dash, next, days, next]
  dsimp only
  rw [if_pos (.inl rfl), next, hours, next, colon, next, minutes, next, colon, next, seconds, next,
    fraction, next, zone, next, ended]
  rfl

/-- The written form of an instant denotes it. -/
theorem ofText?_write (instant : Instant) : ofText? (write instant) = some instant := by
  have bounds := Date.isValid_bounds (isValid_ofDay (instant.day + Instant.epoch))
  have second := instant.second_lt
  have small : instant.second % 60 + leapOf instant < 100 ∧
      instant.nano - leapOf instant * 1000000000 < 1000000000 := by
    have nano := instant.nano_lt
    unfold leapOf
    split <;> omega
  have written : write instant =
      writeYear instant.date.year ++ '-' :: (writePair instant.date.month ++
        '-' :: (writePair instant.date.day ++ 'T' :: (writePair (instant.second / 3600) ++
          ':' :: (writePair (instant.second / 60 % 60) ++
            ':' :: (writePair (instant.second % 60 + leapOf instant) ++
              (writeFraction (instant.nano - leapOf instant * 1000000000) ++ ['Z'])))))) := by
    simp [write, leapOf]
  have parts := ofText?_of_parts (takeYear_writeYear instant.date.year _ (noDigit_cons _ rfl))
    (takeField_writePair _ (show instant.date.month < 100 by unfold Instant.date; omega))
    (takeField_writePair _ (show instant.date.day < 100 by unfold Instant.date; omega))
    (takeField_writePair _ (show instant.second / 3600 < 100 by omega))
    (takeField_writePair _ (show instant.second / 60 % 60 < 100 by omega))
    (takeField_writePair _ small.1) (takeFraction_writeFraction small.2)
  rw [written, parts]
  exact instantOf?_self instant

/-- The written form of an instant, as a string, denotes it. -/
@[simp] theorem ofTimestamp?_timestamp (instant : Instant) :
    ofTimestamp? (timestamp instant) = some instant := by
  rw [ofTimestamp?, timestamp, String.toList_ofList, ofText?_write]

end Tagging.Time

namespace Tagging

/-!
## Months in order

Years of four digits make the texts of months sort by time: of two instants in such years, the one
whose month has the lesser text comes on an earlier day.
-/

open Text

/-- The year of the instant has four digits at most, and no sign. -/
def Instant.HasPlainYear (instant : Instant) : Prop :=
  0 ≤ instant.date.year ∧ instant.date.year ≤ 9999

namespace Time

/-- The month of an instant in a plain year is written with four digits and two. -/
theorem toList_month {instant : Instant} (plain : instant.HasPlainYear) :
    (month instant).toList = fixedDigits 10 4 instant.date.year.toNat ++
      '-' :: fixedDigits 10 2 instant.date.month := by
  obtain ⟨positive, small⟩ := plain
  have room : instant.date.year.toNat < 10 ^ 4 := by omega
  rw [month, String.toList_ofList, writeYear, if_neg (Int.not_lt.mpr positive), if_pos small,
    padded_eq_fixedDigits (by decide) room, writePair]

/-- A month that comes before another, both in plain years, has the lesser text. -/
theorem month_lt {instant other : Instant} (plain : instant.HasPlainYear)
    (plainOther : other.HasPlainYear)
    (before : instant.date.year < other.date.year ∨
      instant.date.year = other.date.year ∧ instant.date.month < other.date.month) :
    month instant < month other := by
  change (month instant).toList < (month other).toList
  rw [toList_month plain, toList_month plainOther]
  obtain ⟨positive, _⟩ := plain
  obtain ⟨_, small⟩ := plainOther
  obtain year | ⟨year, month⟩ := before
  · exact fixedDigits_append_lt (by omega) (by omega) _ _
  · have bounds := Date.isValid_bounds (isValid_ofDay (other.day + Instant.epoch))
    have room : other.date.month < 10 ^ 2 := by
      unfold Instant.date
      omega
    have digits := fixedDigits_append_lt month room [] []
    rw [List.append_nil, List.append_nil] at digits
    rw [year]
    apply List.append_left_lt
    rw [List.cons_lt_cons_iff]
    exact .inr ⟨rfl, digits⟩

/-- Of two instants in plain years the one whose month has the lesser text comes on an earlier day.
-/
theorem day_lt_of_month_lt {instant other : Instant} (plain : instant.HasPlainYear)
    (plainOther : other.HasPlainYear) (less : month instant < month other) :
    instant.day < other.day := by
  apply Int.not_le.mp
  intro later
  have dates := Date.ofDay_mono (Int.add_le_add_right later Instant.epoch)
  obtain year | ⟨year, month⟩ := dates
  · exact String.lt_asymm less (month_lt plainOther plain (.inl year))
  · obtain month | month := Nat.lt_or_eq_of_le month
    · exact String.lt_asymm less (month_lt plainOther plain (.inr ⟨year, month⟩))
    · have same : Time.month other = Time.month instant := by
        simp only [Time.month, Instant.date, year, month]
      rw [same] at less
      exact String.lt_irrefl _ less

end Time

end Tagging
