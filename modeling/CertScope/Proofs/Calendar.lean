import CertScope.Calendar
import Mathlib.Tactic.IntervalCases
import Mathlib.Tactic.SplitIfs

/-!
# Days and dates

Every day has a date, which exists and leads back to the day.  Years are counted from
March in both directions, so that the place of a day in such a year gives its month, and
only the last place needs the rule about leap years.
-/

namespace CertScope.Date

def yearOfEra (day : Int) : Int := (day - day / 1460 + day / 36524 - day / 146096) / 365

def dayOfYear (day : Int) : Int :=
  day - (365 * yearOfEra day + yearOfEra day / 4 - yearOfEra day / 100)

/-- The years of one century.  Leap days are left out of the count of four years with
every fourth year and put back with every century, so that both counts have to be near
those of the year itself. -/
theorem yearOfEra_of_century {day century : Int} (within : century = 0 ∨ century = 1 ∨
      century = 2 ∨ century = 3) (low : 36524 * century ≤ day)
    (high : day < 36524 * century + 36524) (last : day ≠ 146096) :
    100 * century ≤ yearOfEra day ∧ yearOfEra day < 100 * century + 100 ∧
      0 ≤ dayOfYear day ∧ dayOfYear day ≤ 365 ∧
      (dayOfYear day = 365 → yearOfEra day % 4 = 3 ∧ yearOfEra day % 100 ≠ 99) := by
  have short : day / 146096 = 0 := by omega
  have counted : day / 36524 = century := by omega
  unfold dayOfYear
  generalize given : yearOfEra day = year
  rw [yearOfEra, short, counted] at given
  have begun : 100 * century ≤ year := by omega
  have ended : year < 100 * century + 100 := by omega
  have hundreds : year / 100 = century := by omega
  have notBefore : year / 4 ≤ day / 1460 := by omega
  have notAfter : day / 1460 ≤ year / 4 + 1 := by omega
  refine ⟨begun, ended, by omega, by omega, fun leap => ?_⟩
  have reached : day / 1460 = year / 4 + 1 := by omega
  have fourth : year % 4 = 3 := by omega
  refine ⟨fourth, ?_⟩
  omega

theorem yearOfEra_bounds {day : Int} (low : 0 ≤ day) (high : day < 146097) :
    0 ≤ yearOfEra day ∧ yearOfEra day ≤ 399 ∧ 0 ≤ dayOfYear day ∧ dayOfYear day ≤ 365 ∧
      (dayOfYear day = 365 →
        yearOfEra day % 4 = 3 ∧ (yearOfEra day % 100 ≠ 99 ∨ yearOfEra day = 399)) := by
  by_cases last : day = 146096
  · subst day
    decide
  · have within : day / 36524 = 0 ∨ day / 36524 = 1 ∨ day / 36524 = 2 ∨ day / 36524 = 3 := by
      omega
    obtain ⟨begun, ended, first, most, leap⟩ :=
      yearOfEra_of_century within (by omega) (by omega) last
    refine ⟨by omega, by omega, first, most, fun reached => ?_⟩
    exact ⟨(leap reached).1, Or.inl (leap reached).2⟩

/-- The date of a day of an era.  The last two months of a year that begins in March are the
first two of the next calendar year. -/
theorem ofDays_eq {days era day place month : Int} (counted : days + 719468 = era * 146097 + day)
    (low : 0 ≤ day) (high : day < 146097) (placed : dayOfYear day = place)
    (named : (5 * place + 2) / 153 = month) :
    ofDays days =
      if month < 10 then
        ⟨yearOfEra day + era * 400, (month + 3).toNat, (place - (153 * month + 2) / 5 + 1).toNat⟩
      else
        ⟨yearOfEra day + era * 400 + 1, (month - 9).toNat,
          (place - (153 * month + 2) / 5 + 1).toNat⟩ := by
  have eras : (days + 719468) / 146097 = era := by omega
  have left : days + 719468 - era * 146097 = day := by omega
  obtain ⟨-, -, first, last, -⟩ := yearOfEra_bounds low high
  rw [placed] at first last
  unfold dayOfYear at placed
  unfold ofDays
  simp only [eras, left, ← yearOfEra.eq_1, placed, named]
  split_ifs with early soon soon
  · omega
  · simp
  · rfl
  · omega

theorem exists_era (days : Int) :
    ∃ era day, days + 719468 = era * 146097 + day ∧ 0 ≤ day ∧ day < 146097 :=
  ⟨(days + 719468) / 146097, (days + 719468) % 146097, by omega, by omega, by omega⟩

theorem toDays_ofDays (days : Int) : (ofDays days).toDays = days := by
  obtain ⟨era, day, counted, low, high⟩ := exists_era days
  obtain ⟨begun, ended, first, last, -⟩ := yearOfEra_bounds low high
  generalize placed : dayOfYear day = place at first last
  generalize named : (5 * place + 2) / 153 = month
  rw [ofDays_eq counted low high placed named]
  unfold dayOfYear at placed
  generalize yearOfEra day = year at *
  have dayCast : ((place - (153 * month + 2) / 5 + 1).toNat : Int) =
      place - (153 * month + 2) / 5 + 1 := by omega
  split_ifs with early
  · have monthCast : ((month + 3).toNat : Int) = month + 3 := by omega
    have late : ¬ (month + 3).toNat ≤ 2 := by omega
    have eras : (year + era * 400) / 400 = era := by omega
    have years : year + era * 400 - era * 400 = year := by omega
    have months : (month + 3 + 9) % 12 = month := by omega
    simp only [toDays, late, if_false, eras, years, monthCast, months, dayCast]
    omega
  · have monthCast : ((month - 9).toNat : Int) = month - 9 := by omega
    have soon : (month - 9).toNat ≤ 2 := by omega
    have eras : (year + era * 400 + 1 - 1) / 400 = era := by omega
    have years : year + era * 400 + 1 - 1 - era * 400 = year := by omega
    have months : (month - 9 + 9) % 12 = month := by omega
    simp only [toDays, soon, if_true, eras, years, monthCast, months, dayCast]
    omega

theorem daysIn_le (year : Int) (month : Nat) : daysIn year month ≤ 31 := by
  have february : (if isLeap year then 29 else 28) ≤ 31 := by split <;> omega
  unfold daysIn
  split <;> first | exact february | omega

/-- The day that only leap years have is in a leap year. -/
theorem isLeap_of_era {year era : Int} (fourth : year % 4 = 3)
    (hundredth : year % 100 ≠ 99 ∨ year = 399) : isLeap (year + era * 400 + 1) = true := by
  have divides : (year + era * 400 + 1) % 4 = 0 := by omega
  have exception : (year + era * 400 + 1) % 100 ≠ 0 ∨ (year + era * 400 + 1) % 400 = 0 := by
    omega
  simpa [isLeap, divides] using exception

theorem isValid_ofDays (days : Int) : (ofDays days).isValid = true := by
  obtain ⟨era, day, counted, low, high⟩ := exists_era days
  obtain ⟨-, -, first, last, leap⟩ := yearOfEra_bounds low high
  generalize placed : dayOfYear day = place at first last leap
  generalize named : (5 * place + 2) / 153 = month
  rw [ofDays_eq counted low high placed named]
  generalize yearOfEra day = year at leap
  by_cases reached : place = 365
  · obtain rfl : month = 11 := by omega
    obtain ⟨fourth, hundredth⟩ := leap reached
    simp [isValid, daysIn, isLeap_of_era fourth hundredth, reached]
  · have begun : 0 ≤ month := by omega
    have ended : month ≤ 11 := by omega
    have shortest : 28 ≤ if isLeap (year + era * 400 + 1) then 29 else 28 := by split <;> omega
    interval_cases month <;>
      simp only [isValid, daysIn, Int.reduceLT, if_true, if_false, Int.reduceAdd, Int.reduceSub,
        Int.reduceMul, Int.reduceDiv, Int.reduceToNat, Bool.and_eq_true, decide_eq_true_eq] <;>
      omega

/-! ## Years -/

/-- The first days of the years, counted with their leap days. -/
theorem toDays_firstDay (year : Int) :
    toDays ⟨year, 1, 1⟩ =
      365 * (year - 1) + (year - 1) / 4 - (year - 1) / 100 + (year - 1) / 400 - 719162 := by
  simp only [toDays, Nat.one_le_ofNat, if_true, Nat.cast_one]
  omega

/-- A date that exists lies between the first days of its year and of the next. -/
theorem toDays_bounds {date : Date} (valid : date.isValid = true) :
    toDays ⟨date.year, 1, 1⟩ ≤ date.toDays ∧ date.toDays < toDays ⟨date.year + 1, 1, 1⟩ := by
  obtain ⟨year, month, day⟩ := date
  have last := daysIn_le year month
  simp only [isValid, Bool.and_eq_true, decide_eq_true_eq] at valid
  obtain ⟨⟨⟨first, december⟩, begun⟩, ended⟩ := valid
  rw [toDays_firstDay, toDays_firstDay]
  simp only [toDays]
  split_ifs with early
  · omega
  · omega

/-- The years from one to another consist of the days from the first day of the one up to the
first day behind the other. -/
theorem year_ofDays_bounds_iff {days first last : Int} :
    (first ≤ (ofDays days).year ∧ (ofDays days).year ≤ last) ↔
      toDays ⟨first, 1, 1⟩ ≤ days ∧ days < toDays ⟨last + 1, 1, 1⟩ := by
  have bounds := toDays_bounds (isValid_ofDays days)
  rw [toDays_ofDays, toDays_firstDay, toDays_firstDay] at bounds
  rw [toDays_firstDay, toDays_firstDay]
  generalize (ofDays days).year = year at bounds ⊢
  omega

end CertScope.Date

namespace CertScope.Instant

/-- A whole second has begun if it is no later than the second of the other instant. -/
theorem ofSeconds_le_iff {seconds : Int} {instant : Instant} :
    ofSeconds seconds ≤ instant ↔ seconds ≤ instant.seconds := by
  change ¬ (instant.seconds < seconds ∨ instant.seconds = seconds ∧ instant.nanos < 0) ↔ _
  omega

theorem seconds_le_of_le {first second : Instant} (ordered : first ≤ second) :
    first.seconds ≤ second.seconds := by
  change ¬ (second.seconds < first.seconds ∨ _) at ordered
  omega

theorem secondOfDay_eq (instant : Instant) :
    (instant.secondOfDay : Int) = instant.seconds % 86400 := by
  unfold secondOfDay
  omega

theorem secondOfDay_lt (instant : Instant) : instant.secondOfDay < 86400 := by
  have whole := instant.secondOfDay_eq
  omega

/-- The second at which the time of day of an instant lies is its own. -/
theorem secondsOf_date (instant : Instant) :
    secondsOf instant.date (instant.secondOfDay / 3600) (instant.secondOfDay / 60 % 60)
      (instant.secondOfDay % 60) = instant.seconds := by
  have whole := instant.secondOfDay_eq
  rw [secondsOf, date, Date.toDays_ofDays]
  omega

end CertScope.Instant
