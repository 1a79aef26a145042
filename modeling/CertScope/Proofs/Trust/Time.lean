import CertScope.Proofs.Calendar
import CertScope.Proofs.Trust.Reading

/-!
# One second in two readings

Path building reads times in the one form that leaves no choice: all components down
to the seconds, and the letter for UTC.  The lenient reader takes such a time, too,
and comes to the same second, through its own widening of short years and its own
test of the date.
-/

namespace CertScope.PathReader

open Asn1

variable {bytes rest : Bytes}

/-! ## Digits -/

/-- Two octets are the digits of a number. -/
def Spells (tens ones : UInt8) (number : Nat) : Prop :=
  ∃ high low, decimalDigit? tens = some high ∧ decimalDigit? ones = some low ∧
    number = high * 10 + low

theorem decimalDigit?_eq_some {octet : UInt8} {number : Nat} :
    decimalDigit? octet = some number ↔ (48 ≤ octet ∧ octet ≤ 57) ∧ octet.toNat - 48 = number := by
  simp [decimalDigit?]

theorem digit_eq_ok {number : Nat} :
    digit bytes = .ok (number, rest) ↔
      ∃ octet, bytes = octet :: rest ∧ decimalDigit? octet = some number := by
  simp only [digit, bind_eq_ok, byte_eq_ok, decimalDigit?_eq_some]
  constructor
  · rintro ⟨octet, left, rfl, read⟩
    split at read
    · rename_i isDigit
      obtain ⟨rfl, rfl⟩ := Prod.mk.inj (pure_eq_ok.1 read)
      exact ⟨octet, rfl, isDigit, rfl⟩
    · exact (throw_eq_ok.1 read).elim
  · rintro ⟨octet, rfl, isDigit, rfl⟩
    refine ⟨octet, rest, rfl, ?_⟩
    rw [if_pos isDigit]
    exact pure_eq_ok.2 rfl

theorem spells_of_pair {low high number : Nat}
    (read : pair low high bytes = .ok (number, rest)) :
    ∃ tens ones, bytes = tens :: ones :: rest ∧ Spells tens ones number ∧ low ≤ number ∧
      number ≤ high := by
  simp only [pair, bind_eq_ok, digit_eq_ok] at read
  obtain ⟨first, _, ⟨tens, rfl, firstDigit⟩, second, _, ⟨ones, rfl, secondDigit⟩, read⟩ := read
  split at read
  · rename_i within
    obtain ⟨rfl, rfl⟩ := Prod.mk.inj (pure_eq_ok.1 read)
    exact ⟨tens, ones, rfl, ⟨first, second, firstDigit, secondDigit, rfl⟩, within⟩
  · exact (throw_eq_ok.1 read).elim

variable {tens ones : UInt8} {number : Nat}

theorem Spells.twoDigits (spells : Spells tens ones number) (tag : Nat) :
    twoDigits tag tens ones = .ok number := by
  obtain ⟨high, low, highDigit, lowDigit, rfl⟩ := spells
  simp only [Asn1.twoDigits, highDigit, lowDigit]

theorem Spells.bounds (spells : Spells tens ones number) :
    (48 ≤ tens ∧ tens ≤ 57) ∧ (48 ≤ ones ∧ ones ≤ 57) := by
  obtain ⟨high, low, highDigit, lowDigit, -⟩ := spells
  exact ⟨(decimalDigit?_eq_some.1 highDigit).1, (decimalDigit?_eq_some.1 lowDigit).1⟩

theorem isVisible_of_digit {octet : UInt8} (digit : 48 ≤ octet ∧ octet ≤ 57) :
    isVisible octet = true := by
  simp only [isVisible, Bool.and_eq_true, decide_eq_true_eq]
  exact ⟨UInt8.le_trans (by decide) digit.1, UInt8.le_trans digit.2 (by decide)⟩

/-! ## Times -/

/-- The octets behind the year of a time in UTC, with what they spell. -/
structure SpellsClock (octets : Bytes) (month day hour minute second : Nat) : Prop where
  digits : ∃ mo1 mo2 d1 d2 h1 h2 mi1 mi2 s1 s2,
    octets = [mo1, mo2, d1, d2, h1, h2, mi1, mi2, s1, s2, 90] ∧
    Spells mo1 mo2 month ∧ Spells d1 d2 day ∧ Spells h1 h2 hour ∧ Spells mi1 mi2 minute ∧
    Spells s1 s2 second
  month_le : month ≤ 12
  day_le : day ≤ 31
  hour_le : hour ≤ 23
  minute_le : minute ≤ 59
  second_le : second ≤ 59

/-- A valid date needs no more than a month and a day within it. -/
theorem isValid_of_le {year : Int} {month day : Nat} (begun : 1 ≤ month) (ended : month ≤ 12)
    (first : 1 ≤ day) (last : day ≤ Date.daysIn year month) :
    Date.isValid ⟨year, month, day⟩ = true := by
  simp [Date.isValid, begun, ended, first, last]

theorem time_eq_ok {second : Int} (read : time bytes = .ok (second, rest)) :
    ∃ short : Bool, ∃ contents left year month day hour minute seconds,
      Strict.expect? (if short then Strict.utcTimeTag else Strict.generalizedTimeTag) bytes =
        some (contents, rest) ∧
      PathReader.year short contents = .ok (year, left) ∧
      SpellsClock left month day hour minute seconds ∧
      Date.isValid ⟨year, month, day⟩ = true ∧
      second = Instant.secondsOf ⟨year, month, day⟩ hour minute seconds := by
  simp only [time, bind_eq_ok, peek_eq_ok, nested_eq_ok] at read
  obtain ⟨short, _, same, contents, found, year, left, readYear, month, _, readMonth, day, _,
    readDay, hour, _, readHour, minute, _, readMinute, seconds, _, readSeconds, zone, _, readZone,
    read⟩ := read
  obtain ⟨-, rfl⟩ := Prod.mk.inj same
  obtain ⟨mo1, mo2, rfl, monthSpelled, monthBegun, monthEnded⟩ := spells_of_pair readMonth
  obtain ⟨d1, d2, rfl, daySpelled, dayBegun, dayEnded⟩ := spells_of_pair readDay
  obtain ⟨h1, h2, rfl, hourSpelled, -, hourEnded⟩ := spells_of_pair readHour
  obtain ⟨mi1, mi2, rfl, minuteSpelled, -, minuteEnded⟩ := spells_of_pair readMinute
  obtain ⟨s1, s2, rfl, secondsSpelled, -, secondsEnded⟩ := spells_of_pair readSeconds
  obtain rfl := byte_eq_ok.1 readZone
  obtain ⟨accepted, read⟩ := guarded_eq_ok.1 read
  obtain ⟨rfl, rfl⟩ := Prod.mk.inj (pure_eq_ok.1 read)
  have utc : zone = 90 := Decidable.not_not.1 fun other => accepted (Or.inl other)
  subst utc
  have fits : day ≤ 31 := Nat.le_trans dayEnded (Date.daysIn_le year month)
  exact ⟨short, contents, _, year, month, day, hour, minute, seconds, found, readYear,
    ⟨⟨mo1, mo2, d1, d2, h1, h2, mi1, mi2, s1, s2, rfl, monthSpelled, daySpelled, hourSpelled,
      minuteSpelled, secondsSpelled⟩, monthEnded, fits, hourEnded, minuteEnded, secondsEnded⟩,
    isValid_of_le monthBegun monthEnded dayBegun dayEnded, rfl⟩

/-- The year of the short form, as the lenient reader widens it. -/
theorem year_short {left : Bytes} {year : Nat}
    (read : PathReader.year true bytes = .ok (year, left)) :
    ∃ y1 y2 short, bytes = y1 :: y2 :: left ∧ Spells y1 y2 short ∧
      year = if 50 ≤ short then short + 1900 else short + 2000 := by
  simp only [PathReader.year, if_true, bind_eq_ok] at read
  obtain ⟨short, _, readPair, read⟩ := read
  obtain ⟨y1, y2, rfl, spelled, -, -⟩ := spells_of_pair readPair
  obtain ⟨rfl, rfl⟩ := Prod.mk.inj (pure_eq_ok.1 read)
  exact ⟨y1, y2, short, rfl, spelled, by split <;> omega⟩

theorem year_long {left : Bytes} {year : Nat}
    (read : PathReader.year false bytes = .ok (year, left)) :
    ∃ y1 y2 y3 y4 century ofCentury, bytes = y1 :: y2 :: y3 :: y4 :: left ∧
      Spells y1 y2 century ∧ Spells y3 y4 ofCentury ∧ year = century * 100 + ofCentury := by
  simp only [PathReader.year, Bool.false_eq_true, if_false, bind_eq_ok] at read
  obtain ⟨century, _, readCentury, ofCentury, _, readRest, read⟩ := read
  obtain ⟨y1, y2, rfl, centurySpelled, -, -⟩ := spells_of_pair readCentury
  obtain ⟨y3, y4, rfl, restSpelled, -, -⟩ := spells_of_pair readRest
  obtain ⟨rfl, rfl⟩ := Prod.mk.inj (pure_eq_ok.1 read)
  exact ⟨y1, y2, y3, y4, century, ofCentury, rfl, centurySpelled, restSpelled, rfl⟩

/-! ## The lenient reading -/

variable {month day hour minute second : Nat}

theorem SpellsClock.inRange {octets : Bytes}
    (clock : SpellsClock octets month day hour minute second) :
    Asn1.inRange month day hour minute second = true := by
  simp [Asn1.inRange, clock.month_le, clock.day_le, clock.hour_le, clock.minute_le,
    clock.second_le]

theorem SpellsClock.all_isVisible {octets : Bytes}
    (clock : SpellsClock octets month day hour minute second) :
    octets.all isVisible = true := by
  obtain ⟨mo1, mo2, d1, d2, h1, h2, mi1, mi2, s1, s2, rfl, months, days, hours, minutes,
    seconds⟩ := clock.digits
  have zone : isVisible 90 = true := by decide
  simp [isVisible_of_digit, months.bounds, days.bounds, hours.bounds, minutes.bounds,
    seconds.bounds, zone]

theorem readUtcTime_of_clock {y1 y2 : UInt8} {year : Nat} {octets : Bytes}
    (spelled : Spells y1 y2 year)
    (clock : SpellsClock octets month day hour minute second) :
    readUtcTime (y1 :: y2 :: octets) =
      .ok ⟨year, month, day, hour, minute, second, none, .utc⟩ := by
  have within := clock.inRange
  obtain ⟨mo1, mo2, d1, d2, h1, h2, mi1, mi2, s1, s2, rfl, months, days, hours, minutes,
    seconds⟩ := clock.digits
  simp [readUtcTime, optionalPair, readZone, spelled.twoDigits, months.twoDigits,
    days.twoDigits, hours.twoDigits, minutes.twoDigits, seconds.twoDigits, within, pure,
    Except.pure, bind, Except.bind]

theorem readGeneralizedTime_of_clock {y1 y2 y3 y4 : UInt8} {century ofCentury : Nat}
    {octets : Bytes} (spelled : Spells y1 y2 century) (alsoSpelled : Spells y3 y4 ofCentury)
    (clock : SpellsClock octets month day hour minute second) :
    readGeneralizedTime (y1 :: y2 :: y3 :: y4 :: octets) =
      .ok ⟨century * 100 + ofCentury, month, day, hour, minute, second, none, .utc⟩ := by
  have within := clock.inRange
  obtain ⟨mo1, mo2, d1, d2, h1, h2, mi1, mi2, s1, s2, rfl, months, days, hours, minutes,
    seconds⟩ := clock.digits
  simp [readGeneralizedTime, optionalPair, optionalFraction, readZone, spelled.twoDigits,
    alsoSpelled.twoDigits, months.twoDigits, days.twoDigits, hours.twoDigits,
    minutes.twoDigits, seconds.twoDigits, within, pure, Except.pure, bind, Except.bind]

/-- The second of a date that exists, in UTC. -/
theorem seconds?_of_isValid {year : Nat} (valid : Date.isValid ⟨year, month, day⟩ = true) :
    CivilTime.seconds? ⟨year, month, day, hour, minute, second, none, .utc⟩ =
      some (Instant.secondsOf ⟨year, month, day⟩ hour minute second) := by
  simp [CivilTime.seconds?, CivilTime.zoneSeconds?, CivilTime.date, valid]

theorem SpellsClock.getLast? {octets : Bytes}
    (clock : SpellsClock octets month day hour minute second) (front : Bytes) :
    (front ++ octets).getLast? = some 90 := by
  obtain ⟨mo1, mo2, d1, d2, h1, h2, mi1, mi2, s1, s2, rfl, -⟩ := clock.digits
  simp

theorem comma_ne_of_digit {octet : UInt8} (digit : 48 ≤ octet ∧ octet ≤ 57) :
    (44 : UInt8) ≠ octet := by
  rintro rfl
  exact absurd digit.1 (by decide)

theorem SpellsClock.comma_notMem {octets : Bytes}
    (clock : SpellsClock octets month day hour minute second) : (44 : UInt8) ∉ octets := by
  obtain ⟨mo1, mo2, d1, d2, h1, h2, mi1, mi2, s1, s2, rfl, months, days, hours, minutes,
    seconds⟩ := clock.digits
  simp [comma_ne_of_digit, months.bounds, days.bounds, hours.bounds, minutes.bounds,
    seconds.bounds]

theorem readCivilTime?_short {y1 y2 : UInt8} {year : Nat} {left : Bytes}
    (found : Strict.expect? Strict.utcTimeTag bytes = some (y1 :: y2 :: left, rest))
    (spelled : Spells y1 y2 year) (clock : SpellsClock left month day hour minute second) :
    readCivilTime? bytes =
      some (⟨if 50 ≤ year then year + 1900 else year + 2000, month, day, hour, minute, second,
        none, .utc⟩, rest) := by
  have element := Strict.readElement_of_expect? found
  have tagged : (Strict.headerOf Strict.utcTimeTag (y1 :: y2 :: left)).tag = Tag.utcTime := rfl
  have visible : (y1 :: y2 :: left).all isVisible = true := by
    simp [isVisible_of_digit, spelled.bounds, clock.all_isVisible]
  have written : timeOf Tag.utcTime (y1 :: y2 :: left) =
      .ok ⟨year, month, day, hour, minute, second, none, .utc⟩ := by
    simp [timeOf, visible, readUtcTime_of_clock spelled clock]
  simp [readCivilTime?, element, tagged, written, Except.toOption, CivilTime.widenYear]

theorem readCivilTime?_long {y1 y2 y3 y4 : UInt8} {century ofCentury : Nat} {left : Bytes}
    (found : Strict.expect? Strict.generalizedTimeTag bytes =
      some (y1 :: y2 :: y3 :: y4 :: left, rest))
    (spelled : Spells y1 y2 century) (alsoSpelled : Spells y3 y4 ofCentury)
    (clock : SpellsClock left month day hour minute second) :
    readCivilTime? bytes =
      some (⟨century * 100 + ofCentury, month, day, hour, minute, second, none, .utc⟩,
        rest) := by
  have element := Strict.readElement_of_expect? found
  have tagged : (Strict.headerOf Strict.generalizedTimeTag
      (y1 :: y2 :: y3 :: y4 :: left)).tag = Tag.generalizedTime := rfl
  have long : Tag.generalizedTime ≠ Tag.utcTime := by decide
  have visible : (y1 :: y2 :: y3 :: y4 :: left).all isVisible = true := by
    simp [isVisible_of_digit, spelled.bounds, alsoSpelled.bounds, clock.all_isVisible]
  have written : timeOf Tag.generalizedTime (y1 :: y2 :: y3 :: y4 :: left) =
      .ok ⟨century * 100 + ofCentury, month, day, hour, minute, second, none, .utc⟩ := by
    simp [timeOf, visible, long, readGeneralizedTime_of_clock spelled alsoSpelled clock]
  have last := clock.getLast? [y1, y2, y3, y4]
  have noComma : (44 : UInt8) ∉ y1 :: y2 :: y3 :: y4 :: left := by
    simp [comma_ne_of_digit, spelled.bounds, alsoSpelled.bounds, clock.comma_notMem]
  have accepted : ¬ ((y1 :: y2 :: y3 :: y4 :: left).getLast? ≠ some 90 ∨
      (44 : UInt8) ∈ y1 :: y2 :: y3 :: y4 :: left) := by
    rintro (early | comma)
    · exact early last
    · exact noComma comma
  simp only [readCivilTime?, element, tagged, long, if_false, if_true, accepted, written,
    Except.toOption]
  rfl

/-- A time that path building reads is read leniently as the same second. -/
theorem readTime?_of_time {second : Int} (read : time bytes = .ok (second, rest)) :
    readTime? bytes = some (second, rest) := by
  obtain ⟨short, contents, left, year, month, day, hour, minute, seconds, found, readYear, clock,
    valid, rfl⟩ := time_eq_ok read
  cases short with
  | true =>
      obtain ⟨y1, y2, number, rfl, spelled, rfl⟩ := year_short readYear
      simp [readTime?, readCivilTime?_short found spelled clock, seconds?_of_isValid valid]
  | false =>
      obtain ⟨y1, y2, y3, y4, century, ofCentury, rfl, spelled, alsoSpelled, rfl⟩ :=
        year_long readYear
      simp [readTime?, readCivilTime?_long found spelled alsoSpelled clock,
        seconds?_of_isValid valid]

end CertScope.PathReader
