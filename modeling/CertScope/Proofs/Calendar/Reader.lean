import CertScope.Proofs.Calendar
import Mathlib.Data.List.Basic

/-!
# Reading the interchange form

An instant is read back from its interchange form: the texts of its date and its time of day
have fixed widths but for the year, which is what stands in front of the rest, and the
fraction is what stands behind it.
-/

namespace CertScope.Instant

/-- Fractions of a second or more belong to leap seconds, which stand at the end of a minute. -/
def IsProper (instant : Instant) : Prop :=
  instant.nanos < 1000000000 ∨ instant.nanos < 2000000000 ∧ instant.seconds % 60 = 59

instance (instant : Instant) : Decidable instant.IsProper :=
  inferInstanceAs (Decidable (_ ∨ _ ∧ _))

def numberOf? (digits : List Char) : Option Nat :=
  if digits.isEmpty || !digits.all Char.isDigit then none else some (Nat.ofDigitChars 10 digits 0)

/-- A year, which may have a sign. -/
def yearOf? : List Char → Option Int
  | '-' :: digits => (numberOf? digits).map fun (number : Nat) => -(number : Int)
  | '+' :: digits => (numberOf? digits).map fun (number : Nat) => (number : Int)
  | digits => (numberOf? digits).map fun (number : Nat) => (number : Int)

/-- A date, the end of which is read first. -/
def dateOf? (text : List Char) : Option Date :=
  match text.reverse with
  | day :: ofDay :: '-' :: month :: ofMonth :: '-' :: year => do
      let day ← numberOf? [ofDay, day]
      let month ← numberOf? [ofMonth, month]
      let year ← yearOf? year.reverse
      return ⟨year, month, day⟩
  | _ => none

/-- The nanoseconds of a fraction in at most nine digits. -/
def nanosOf? : List Char → Option Nat
  | [] => some 0
  | '.' :: digits =>
      (numberOf? digits).map fun number => number * 10 ^ (9 - digits.length)
  | _ => none

/-- The instant of an interchange form. The sixtieth second of a minute is the leap second
behind the one before. -/
def ofIso? (text : String) : Option Instant := do
  let date ← dateOf? (text.toList.takeWhile (· != 'T'))
  match text.toList.dropWhile (· != 'T') with
  | 'T' :: ofHour :: hour :: ':' :: ofMinute :: minute :: ':' :: ofSecond :: second :: rest =>
      let hour ← numberOf? [ofHour, hour]
      let minute ← numberOf? [ofMinute, minute]
      let second ← numberOf? [ofSecond, second]
      if rest.getLast? = some 'Z' then
        let nanos ← nanosOf? rest.dropLast
        let leap := second / 60
        return ⟨secondsOf date hour minute (second - leap), nanos + leap * 1000000000⟩
      none
  | _ => none

/-! ## Numbers of fixed width -/

theorem toList_padded (width number : Nat) :
    (padded width number).toList =
      List.replicate (width - (Nat.toDigits 10 number).length) '0' ++ Nat.toDigits 10 number := by
  have zeros (count : Nat) : ("".pushn '0' count).toList = List.replicate count '0' := by
    rw [String.pushn_eq_repeat_push]
    induction count with
    | zero => rfl
    | succ count ih => rw [Nat.repeat, String.toList_push, ih, List.replicate_succ']
  rw [padded, String.toList_append, zeros, Nat.toString_eq_ofList_toDigits, String.toList_ofList,
    String.length_ofList]

theorem isDigit_of_mem_padded {width number : Nat} {char : Char}
    (member : char ∈ (padded width number).toList) : char.isDigit = true := by
  rw [toList_padded] at member
  rcases List.mem_append.1 member with zero | digit
  · rw [List.eq_of_mem_replicate zero]
    rfl
  · exact Nat.isDigit_of_mem_toDigits (by decide) (by decide) digit

theorem numberOf?_padded (width number : Nat) :
    numberOf? (padded width number).toList = some number := by
  have digits : (padded width number).toList.all Char.isDigit = true :=
    List.all_eq_true.2 fun _ => isDigit_of_mem_padded
  have filled : (padded width number).toList.isEmpty = false := by
    rw [toList_padded]
    simp
  rw [numberOf?, digits, filled, toList_padded, Nat.ofDigitChars_append,
    Nat.ofDigitChars_replicate_zero, Nat.mul_zero, Nat.ofDigitChars_ten_toDigits]
  rfl

theorem length_padded {width number : Nat} (filled : 0 < width) (small : number < 10 ^ width) :
    (padded width number).toList.length = width := by
  have short := (Nat.length_toDigits_le_iff (by decide) filled).2 small
  rw [toList_padded, List.length_append, List.length_replicate]
  omega

/-- A number below a hundred is written with two digits. -/
theorem exists_padded {number : Nat} (small : number < 100) :
    ∃ tens ones, (padded 2 number).toList = [tens, ones] ∧
      numberOf? [tens, ones] = some number := by
  obtain ⟨tens, ones, shape⟩ := List.length_eq_two.1 (length_padded (by decide) small)
  exact ⟨tens, ones, shape, shape ▸ numberOf?_padded 2 number⟩

/-! ## Dates -/

theorem yearOf?_yearText (year : Int) : yearOf? (yearText year).toList = some year := by
  unfold yearText
  split_ifs with past future
  · rw [String.toList_append, show "-".toList = ['-'] from rfl, List.singleton_append, yearOf?,
      numberOf?_padded, Option.map_some, Option.some.injEq]
    omega
  · rw [String.toList_append, show "+".toList = ['+'] from rfl, List.singleton_append, yearOf?,
      numberOf?_padded, Option.map_some, Option.some.injEq]
    omega
  · have read := numberOf?_padded 4 year.natAbs
    cases shape : (padded 4 year.natAbs).toList with
    | nil =>
        rw [shape] at read
        cases read
    | cons char rest =>
        have digit : char.isDigit = true := by
          apply isDigit_of_mem_padded
          rw [shape]
          exact List.mem_cons_self
        rw [shape] at read
        rw [yearOf?, read, Option.map_some, Option.some.injEq]
        · omega
        all_goals
          intro _ begun
          obtain ⟨rfl, -⟩ := List.cons.inj begun
          cases digit

theorem date_bounds (instant : Instant) : instant.date.month < 100 ∧ instant.date.day < 100 := by
  have valid := Date.isValid_ofDays (instant.seconds / 86400)
  have days := Date.daysIn_le (Date.ofDays (instant.seconds / 86400)).year
    (Date.ofDays (instant.seconds / 86400)).month
  simp only [Date.isValid, Bool.and_eq_true, decide_eq_true_eq] at valid
  unfold date
  omega

theorem toList_dateText (instant : Instant) :
    instant.dateText.toList = (yearText instant.date.year).toList ++
      '-' :: ((padded 2 instant.date.month).toList ++
        '-' :: (padded 2 instant.date.day).toList) := by
  simp [dateText, toString]

theorem dateOf?_dateText (instant : Instant) :
    dateOf? instant.dateText.toList = some instant.date := by
  obtain ⟨smallMonth, smallDay⟩ := date_bounds instant
  obtain ⟨ofMonth, month, writtenMonth, readMonth⟩ := exists_padded smallMonth
  obtain ⟨ofDay, day, writtenDay, readDay⟩ := exists_padded smallDay
  have backwards : instant.dateText.toList.reverse =
      day :: ofDay :: '-' :: month :: ofMonth :: '-' ::
        (yearText instant.date.year).toList.reverse := by
    rw [toList_dateText, writtenMonth, writtenDay]
    simp
  rw [dateOf?, backwards]
  simp only [readDay, readMonth, List.reverse_reverse, yearOf?_yearText, Option.bind_eq_bind,
    Option.bind_some, Option.pure_def]

theorem notMem_yearText (year : Int) : 'T' ∉ (yearText year).toList := by
  have digits : 'T' ∉ (padded 4 year.natAbs).toList := fun member =>
    absurd (isDigit_of_mem_padded member) (by decide)
  unfold yearText
  split_ifs
  · rw [String.toList_append, List.mem_append, not_or]
    exact ⟨by decide, digits⟩
  · rw [String.toList_append, List.mem_append, not_or]
    exact ⟨by decide, digits⟩
  · exact digits

theorem notMem_dateText (instant : Instant) : 'T' ∉ instant.dateText.toList := by
  have digits (number : Nat) : 'T' ∉ (padded 2 number).toList := fun member =>
    absurd (isDigit_of_mem_padded member) (by decide)
  rw [toList_dateText]
  simp [notMem_yearText, digits]

/-! ## Times of day -/

theorem toList_timeText (instant : Instant) :
    instant.timeText.toList = (padded 2 (instant.secondOfDay / 3600)).toList ++
      ':' :: ((padded 2 (instant.secondOfDay / 60 % 60)).toList ++
        ':' :: (padded 2 instant.secondOfMinute).toList) := by
  simp [timeText, toString]

theorem nanosOf?_fractionText (instant : Instant) :
    nanosOf? instant.fractionText.toList = some (instant.nanos % 1000000000) := by
  have point (width number : Nat) (filled : 0 < width) (small : number < 10 ^ width) :
      nanosOf? ("." ++ padded width number).toList = some (number * 10 ^ (9 - width)) := by
    rw [String.toList_append, show ".".toList = ['.'] from rfl, List.singleton_append, nanosOf?,
      numberOf?_padded, Option.map_some, length_padded filled small]
  unfold fractionText
  simp only
  split_ifs with whole milli micro
  · rw [whole]
    rfl
  · rw [point 3 _ (by decide) (by omega), Option.some.injEq]
    omega
  · rw [point 6 _ (by decide) (by omega), Option.some.injEq]
    omega
  · rw [point 9 _ (by decide) (by omega), Option.some.injEq]
    omega

/-! ## Instants -/

/-- An instant is read back from its interchange form. -/
theorem ofIso?_iso {instant : Instant} (proper : instant.IsProper) :
    ofIso? instant.iso = some instant := by
  have inDay := instant.secondOfDay_lt
  have whole := instant.secondOfDay_eq
  have counted : instant.secondOfMinute < 100 ∧
      instant.secondOfMinute - instant.secondOfMinute / 60 = instant.secondOfDay % 60 ∧
      instant.nanos % 1000000000 + instant.secondOfMinute / 60 * 1000000000 = instant.nanos := by
    unfold secondOfMinute
    rcases proper with small | ⟨small, last⟩
    · omega
    · omega
  obtain ⟨small, second, nanos⟩ := counted
  obtain ⟨ofHour, hour, writtenHour, readHour⟩ :=
    exists_padded (show instant.secondOfDay / 3600 < 100 by omega)
  obtain ⟨ofMinute, minute, writtenMinute, readMinute⟩ :=
    exists_padded (show instant.secondOfDay / 60 % 60 < 100 by omega)
  obtain ⟨ofSecond, unit, writtenSecond, readSecond⟩ := exists_padded small
  have written : instant.iso.toList = instant.dateText.toList ++
      'T' :: ofHour :: hour :: ':' :: ofMinute :: minute :: ':' :: ofSecond :: unit ::
        (instant.fractionText.toList ++ ['Z']) := by
    have clock := toList_timeText instant
    rw [writtenHour, writtenMinute, writtenSecond] at clock
    simp [iso, toString, clock]
  have passed : ∀ char ∈ instant.dateText.toList, (char != 'T') = true := by
    intro char member
    rw [bne_iff_ne]
    rintro rfl
    exact notMem_dateText instant member
  rw [ofIso?, written, List.takeWhile_append_of_pos passed, List.dropWhile_append_of_pos passed]
  have stops (rest : List Char) : ('T' :: rest).takeWhile (· != 'T') = [] := rfl
  have starts (rest : List Char) : ('T' :: rest).dropWhile (· != 'T') = 'T' :: rest := rfl
  simp only [stops, starts, List.append_nil, dateOf?_dateText, readHour, readMinute, readSecond,
    List.getLast?_concat, List.dropLast_concat, nanosOf?_fractionText, if_true, second, nanos,
    secondsOf_date, Option.bind_eq_bind, Option.bind_some, Option.pure_def]

example : ofIso? "2016-12-31T23:59:60.500Z" = some ⟨1483228799, 1500000000⟩ := by
  decide +kernel

end CertScope.Instant
