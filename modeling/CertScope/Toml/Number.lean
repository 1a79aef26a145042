import CertScope.Bytes
import CertScope.Calendar
import CertScope.Toml.Reader

/-!
# Numbers and times

Whole numbers are signed and take 64 bits. A fractional number must not exceed
the range of a double-precision number, and a time has to exist; neither is
kept.
-/

namespace CertScope.Toml

open Reader

/-- The digits behind a first one; an underscore may stand between two. -/
def digitsBehind (isDigit : Char → Bool) : List Char → List Char × List Char
  | [] => ([], [])
  | '_' :: next :: rest =>
      if isDigit next then
        let (digits, rest) := digitsBehind isDigit rest
        (next :: digits, rest)
      else ([], '_' :: next :: rest)
  | next :: rest =>
      if isDigit next then
        let (digits, rest) := digitsBehind isDigit rest
        (next :: digits, rest)
      else ([], next :: rest)

def digits (isDigit : Char → Bool) : Reader (List Char) := do
  let first ← satisfy isDigit
  let others ← fun text => some (digitsBehind isDigit text)
  return first :: others

def numberOf (base : Nat) (digits : List Char) : Nat :=
  digits.foldl (fun total digit => total * base + (Bytes.hexValue? digit).getD 0) 0

/-- An optional sign: whether it is a minus. -/
def sign : Reader Bool := do
  if ← skip '-' then return true
  else
    let _ ← skip '+'
    return false

def decimalDigits : Reader (List Char) := do
  if ← skip '0' then return ['0'] else digits Char.isDigit

def within64 (number : Int) : Reader Int :=
  if -0x8000000000000000 ≤ number ∧ number < 0x8000000000000000 then return number else failure

def based (letter : Char) (base : Nat) (isDigit : Char → Bool) : Reader Int := do
  literal ['0', letter]
  within64 (numberOf base (← digits isDigit))

def integer : Reader Int :=
  based 'x' 16 (fun next => (Bytes.hexValue? next).isSome) <|>
  based 'o' 8 (fun next => '0' ≤ next && next ≤ '7') <|>
  based 'b' 2 (fun next => next == '0' || next == '1') <|>
  (do
    let negative ← sign
    let number : Int := numberOf 10 (← decimalDigits)
    within64 (if negative then -number else number))

/-- The least number that rounds to no finite double-precision number. -/
def overflow : Nat := (1 <<< 1024) - (1 <<< 970)

/-- Whether `digits` times ten to the power `exponent` is out of range. -/
def exceeds (digits : List Char) (exponent : Int) : Bool :=
  let number := numberOf 10 digits
  if number = 0 then false
  else if 0 ≤ exponent then
    400 < exponent || decide (overflow ≤ number * Nat.pow 10 exponent.toNat)
  else if (digits.length : Int) ≤ -exponent then false
  else decide (overflow * Nat.pow 10 (-exponent).toNat ≤ number)

def exponent : Reader Int := do
  let _ ← satisfy fun next => next == 'e' || next == 'E'
  let negative ← sign
  let number : Int := numberOf 10 (← digits Char.isDigit)
  return if negative then -number else number

def decimal : Reader Unit := do
  let negative ← sign
  let whole ← decimalDigits
  let (fraction, exponent) ←
    (do
      char '.'
      let fraction ← digits Char.isDigit
      return (fraction, ← exponent <|> pure 0)) <|>
    (do return ([], ← exponent))
  if !negative && exceeds (whole ++ fraction) (exponent - fraction.length) then failure

def float : Reader Unit :=
  decimal <|>
  (do
    let _ ← sign
    literal ['i', 'n', 'f'] <|> literal ['n', 'a', 'n'])

def fixed (count low high : Nat) : Reader Nat := do
  let digits ← (List.range count).mapM fun _ => satisfy Char.isDigit
  let number := numberOf 10 digits
  if low ≤ number ∧ number ≤ high then return number else failure

def date : Reader Unit := do
  let year ← fixed 4 0 9999
  char '-'
  let month ← fixed 2 1 12
  char '-'
  let _ ← fixed 2 1 (Date.daysIn year month)

def timeOfDay : Reader Unit := do
  let _ ← fixed 2 0 23
  char ':'
  let _ ← fixed 2 0 59
  char ':'
  let _ ← fixed 2 0 60
  if ← skip '.' then
    let _ ← satisfy Char.isDigit
    let _ ← takeWhile Char.isDigit

def offset : Reader Unit :=
  (do let _ ← satisfy fun next => next == 'Z' || next == 'z') <|>
  (do
    let _ ← satisfy fun next => next == '+' || next == '-'
    let _ ← fixed 2 0 23
    char ':'
    let _ ← fixed 2 0 59)

def time : Reader Unit :=
  (do
    date
    (do
      let _ ← satisfy fun next => next == 'T' || next == 't' || next == ' '
      timeOfDay
      offset <|> pure ()) <|> pure ()) <|>
  timeOfDay

end CertScope.Toml
