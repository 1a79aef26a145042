/-!
# Instants and the civil calendar

An instant is a count of seconds since the start of 1970 in UTC with a count of
nanoseconds behind it. The proleptic Gregorian calendar names its day; three
written forms show it.
-/

namespace CertScope

/-- A point in time: `seconds` since 1970 and `nanos` past that second. The leap
second that may follow a minute goes on counting nanoseconds behind its last
second. -/
structure Instant where
  seconds : Int
  nanos : Nat
  deriving DecidableEq, Repr, Inhabited

structure Date where
  year : Int
  month : Nat
  day : Nat
  deriving DecidableEq, Repr

namespace Date

def isLeap (year : Int) : Bool := year % 4 == 0 && (year % 100 != 0 || year % 400 == 0)

/-- The number of days of a month; none for a number that names no month. -/
def daysIn (year : Int) : Nat → Nat
  | 1 | 3 | 5 | 7 | 8 | 10 | 12 => 31
  | 4 | 6 | 9 | 11 => 30
  | 2 => if isLeap year then 29 else 28
  | _ => 0

def isValid (date : Date) : Bool :=
  1 ≤ date.month && date.month ≤ 12 &&
    1 ≤ date.day && date.day ≤ daysIn date.year date.month

/-- Days since the start of 1970. Years are counted from March, so that the
leap day ends them. -/
def toDays (date : Date) : Int :=
  let year := if date.month ≤ 2 then date.year - 1 else date.year
  let era := year / 400
  let yearOfEra := year - era * 400
  let month : Int := (date.month + 9) % 12
  let dayOfYear := (153 * month + 2) / 5 + date.day - 1
  let dayOfEra := yearOfEra * 365 + yearOfEra / 4 - yearOfEra / 100 + dayOfYear
  era * 146097 + dayOfEra - 719468

def ofDays (days : Int) : Date :=
  let shifted := days + 719468
  let era := shifted / 146097
  let dayOfEra := shifted - era * 146097
  let yearOfEra := (dayOfEra - dayOfEra / 1460 + dayOfEra / 36524 - dayOfEra / 146096) / 365
  let dayOfYear := dayOfEra - (365 * yearOfEra + yearOfEra / 4 - yearOfEra / 100)
  let shiftedMonth := (5 * dayOfYear + 2) / 153
  let day := dayOfYear - (153 * shiftedMonth + 2) / 5 + 1
  let month := if shiftedMonth < 10 then shiftedMonth + 3 else shiftedMonth - 9
  let year := yearOfEra + era * 400 + (if month ≤ 2 then 1 else 0)
  ⟨year, month.toNat, day.toNat⟩

end Date

namespace Instant

def ofSeconds (seconds : Int) : Instant := ⟨seconds, 0⟩

instance : LT Instant where
  lt first second :=
    first.seconds < second.seconds ∨
      first.seconds = second.seconds ∧ first.nanos < second.nanos

instance : LE Instant where
  le first second := ¬ second < first

instance (first second : Instant) : Decidable (first < second) :=
  inferInstanceAs (Decidable (_ ∨ _))

instance (first second : Instant) : Decidable (first ≤ second) :=
  inferInstanceAs (Decidable (¬ _))

def addSeconds (instant : Instant) (seconds : Int) : Instant :=
  { instant with seconds := instant.seconds + seconds }

def secondsOf (date : Date) (hour minute second : Nat) : Int :=
  date.toDays * 86400 + hour * 3600 + minute * 60 + second

def date (instant : Instant) : Date := Date.ofDays (instant.seconds / 86400)

def secondOfDay (instant : Instant) : Nat := (instant.seconds % 86400).toNat

def padded (width number : Nat) : String :=
  let digits := toString number
  "".pushn '0' (width - digits.length) ++ digits

/-- A year: four digits, and a sign outside the years 0 to 9999. -/
def yearText (year : Int) : String :=
  if year < 0 then "-" ++ padded 4 year.natAbs
  else if 9999 < year then "+" ++ padded 4 year.natAbs
  else padded 4 year.natAbs

def dateText (instant : Instant) : String :=
  let date := instant.date
  s!"{yearText date.year}-{padded 2 date.month}-{padded 2 date.day}"

/-- The second of the minute, in which a leap second is the sixtieth. -/
def secondOfMinute (instant : Instant) : Nat :=
  instant.secondOfDay % 60 + instant.nanos / 1000000000

def timeText (instant : Instant) : String :=
  let second := instant.secondOfDay
  s!"{padded 2 (second / 3600)}:{padded 2 (second / 60 % 60)}:{padded 2 instant.secondOfMinute}"

/-- The fraction of the second in three, six or nine digits, the fewest that
show it all; nothing at a whole second. -/
def fractionText (instant : Instant) : String :=
  let nanos := instant.nanos % 1000000000
  if nanos = 0 then ""
  else if nanos % 1000000 = 0 then "." ++ padded 3 (nanos / 1000000)
  else if nanos % 1000 = 0 then "." ++ padded 6 (nanos / 1000)
  else "." ++ padded 9 nanos

/-- The interchange form, `2024-01-01T00:00:00Z`. -/
def iso (instant : Instant) : String :=
  s!"{instant.dateText}T{instant.timeText}{instant.fractionText}Z"

def isoOffset (instant : Instant) : String :=
  s!"{instant.dateText}T{instant.timeText}{instant.fractionText}+00:00"

/-- The form used in messages, `2024-01-01 00:00:00 UTC`. -/
def spoken (instant : Instant) : String :=
  s!"{instant.dateText} {instant.timeText}{instant.fractionText} UTC"

def weekdayText : Nat → String
  | 0 => "Sun"
  | 1 => "Mon"
  | 2 => "Tue"
  | 3 => "Wed"
  | 4 => "Thu"
  | 5 => "Fri"
  | _ => "Sat"

def monthText : Nat → String
  | 1 => "Jan"
  | 2 => "Feb"
  | 3 => "Mar"
  | 4 => "Apr"
  | 5 => "May"
  | 6 => "Jun"
  | 7 => "Jul"
  | 8 => "Aug"
  | 9 => "Sep"
  | 10 => "Oct"
  | 11 => "Nov"
  | _ => "Dec"

/-- The form shown to operators, `Mon, 01 Jan 2024 00:00:00 UTC`, in whole
seconds. The first day of 1970 was a Thursday. -/
def display (instant : Instant) : String :=
  let date := instant.date
  let weekday := ((instant.seconds / 86400 + 4) % 7).toNat
  s!"{weekdayText weekday}, {padded 2 date.day} {monthText date.month} {yearText date.year}" ++
    s!" {instant.timeText} UTC"

end Instant

end CertScope
