import CertScope.Calendar
import CertScope.Asn1.Header

/-!
# Written times

The two time types spell a civil time in decimal digits, with a two-digit or a
four-digit year. Seconds may be left out, a fraction of up to three digits may
follow the seconds of the longer type, and a zone closes the text.
-/

namespace CertScope.Asn1

inductive Zone where
  | unstated
  | utc
  | offset (hours minutes : Int)
  deriving DecidableEq, Repr

/-- A time as written: its components need not name a moment that exists. -/
structure CivilTime where
  year : Nat
  month : Nat
  day : Nat
  hour : Nat
  minute : Nat
  second : Nat
  millis : Option Nat
  zone : Zone
  deriving DecidableEq, Repr

namespace CivilTime

def date (time : CivilTime) : Date := ⟨time.year, time.month, time.day⟩

/-- The components in digits, the fraction as the number that was read. -/
def text (time : CivilTime) : String :=
  let fraction := match time.millis with
    | some millis => s!".{millis}"
    | none => ""
  Instant.padded 4 time.year ++ Instant.padded 2 time.month ++ Instant.padded 2 time.day ++
    Instant.padded 2 time.hour ++ Instant.padded 2 time.minute ++
    Instant.padded 2 time.second ++ fraction ++ "Z"

/-- How far the zone is ahead of UTC, in seconds. The minutes take the sign of
the hours; hours of more than twenty-five or minutes of sixty name no zone. -/
def zoneSeconds? (time : CivilTime) : Option Int :=
  match time.zone with
  | .unstated | .utc => some 0
  | .offset hours minutes =>
      if 25 < hours.natAbs ∨ 59 < minutes.natAbs then none
      else if hours < 0 ∧ 0 < minutes then some (hours * 3600 - minutes * 60)
      else some (hours * 3600 + minutes * 60)

/-- The second at which a written time lies, if its date and zone exist. -/
def seconds? (time : CivilTime) : Option Int := do
  let ahead ← time.zoneSeconds?
  if time.date.isValid then
    return Instant.secondsOf time.date time.hour time.minute time.second - ahead
  else none

/-- A two-digit year stands for a year from 1950 to 2049. -/
def widenYear (time : CivilTime) : CivilTime :=
  { time with year := if 50 ≤ time.year then time.year + 1900 else time.year + 2000 }

end CivilTime

def decimalDigit? (byte : UInt8) : Option Nat :=
  if 48 ≤ byte ∧ byte ≤ 57 then some (byte.toNat - 48) else none

def twoDigits (tag : Nat) (high low : UInt8) : Except Error Nat :=
  match decimalDigit? high, decimalDigit? low with
  | some high, some low => .ok (high * 10 + low)
  | _, _ => .error (.invalidValue tag "expected digit")

/-- Two digits off the front, or zero when fewer than two bytes are left. -/
def optionalPair (tag : Nat) : Bytes → Except Error (Nat × Bytes)
  | high :: low :: rest => do
      let number ← twoDigits tag high low
      return (number, rest)
  | rest => .ok (0, rest)

def readZone (tag : Nat) : Bytes → Except Error Zone
  | [90] => .ok .utc
  | [43, h1, h2, m1, m2] => do
      let hours ← twoDigits tag h1 h2
      let minutes ← twoDigits tag m1 m2
      return .offset hours minutes
  | [45, h1, h2, m1, m2] => do
      let hours ← twoDigits tag h1 h2
      let minutes ← twoDigits tag m1 m2
      return .offset (-(hours : Int)) minutes
  | _ => .error (.invalidValue tag "malformed time string: no time zone")

/-- Whether each component lies in its range; a month or a day may still be
zero, and a day may lie behind the end of its month. -/
def inRange (month day hour minute second : Nat) : Bool :=
  month ≤ 12 && day ≤ 31 && hour ≤ 23 && minute ≤ 59 && second ≤ 59

def readUtcTime (contents : Bytes) : Except Error CivilTime := do
  let tag := Tag.utcTime
  match contents with
  | y1 :: y2 :: mo1 :: mo2 :: d1 :: d2 :: h1 :: h2 :: mi1 :: mi2 :: rest =>
      let year ← twoDigits tag y1 y2
      let month ← twoDigits tag mo1 mo2
      let day ← twoDigits tag d1 d2
      let hour ← twoDigits tag h1 h2
      let minute ← twoDigits tag mi1 mi2
      if rest.isEmpty then throw (.invalidValue tag "malformed time string")
      let (second, rest) ← optionalPair tag rest
      if !inRange month day hour minute second then
        throw (.invalidValue tag "time components with invalid values")
      if rest.isEmpty then throw (.invalidValue tag "malformed time string")
      let zone ← readZone tag rest
      return ⟨year, month, day, hour, minute, second, none, zone⟩
  | _ => throw (.invalidValue tag "malformed time string (not yymmddhhmm)")

/-- Read the digits behind a decimal mark: at most three, up to the zone or the
end. A fraction of one or two digits is scaled to thousandths. -/
def readFraction (tag : Nat) (number : Nat) : Nat → Bytes → Except Error (Nat × Bytes)
  | 0, [] =>
      .error (.invalidValue tag "malformed time string (dot or comma but no digits)")
  | count, [] => .ok (scale count number, [])
  | count, byte :: rest =>
      if count = 4 then
        .error (.invalidValue tag "malformed time string (invalid milliseconds)")
      else
        match decimalDigit? byte with
        | some digit => readFraction tag (number * 10 + digit) (count + 1) rest
        | none =>
            if byte = 90 ∨ byte = 43 ∨ byte = 45 then .ok (scale count number, byte :: rest)
            else
              .error (.invalidValue tag
                "malformed time string (invalid milliseconds/timezone)")
where
  scale (count number : Nat) : Nat :=
    match count with
    | 1 => number * 100
    | 2 => number * 10
    | _ => number

def optionalFraction (tag : Nat) : Bytes → Except Error (Option Nat × Bytes)
  | [] => .ok (none, [])
  | mark :: rest =>
      if mark = 46 ∨ mark = 44 then do
        let (millis, rest) ← readFraction tag 0 0 rest
        return (some millis, rest)
      else .ok (none, mark :: rest)

def readGeneralizedTime (contents : Bytes) : Except Error CivilTime := do
  let tag := Tag.generalizedTime
  match contents with
  | y1 :: y2 :: y3 :: y4 :: mo1 :: mo2 :: d1 :: d2 :: h1 :: h2 :: mi1 :: mi2 :: rest =>
      let century ← twoDigits tag y1 y2
      let ofCentury ← twoDigits tag y3 y4
      let year := century * 100 + ofCentury
      let month ← twoDigits tag mo1 mo2
      let day ← twoDigits tag d1 d2
      let hour ← twoDigits tag h1 h2
      let minute ← twoDigits tag mi1 mi2
      if rest.isEmpty then throw (.invalidValue tag "malformed time string")
      let (second, rest) ← optionalPair tag rest
      if !inRange month day hour minute second then
        throw (.invalidValue tag "time components with invalid values")
      let (millis, rest) ← optionalFraction tag rest
      let zone ← if rest.isEmpty then pure .unstated else readZone tag rest
      return ⟨year, month, day, hour, minute, second, millis, zone⟩
  | _ => throw (.invalidValue tag "malformed time string (not yymmddhhmm)")

def isVisible (byte : UInt8) : Bool := 0x20 ≤ byte && byte ≤ 0x7F

def timeOf (tag : Nat) (contents : Bytes) : Except Error CivilTime :=
  if !contents.all isVisible then .error .charset
  else if tag = Tag.utcTime then readUtcTime contents
  else readGeneralizedTime contents

end CertScope.Asn1
