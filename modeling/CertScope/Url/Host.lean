import CertScope.Certificate.Address
import CertScope.Idna.Domain
import CertScope.Text.Utf8
import CertScope.Url.Error
import CertScope.Url.Percent

/-!
# Hosts

A host is a name or an address. An address of four octets has up to four
numbers, of which the last fills all octets that remain; they may be written in
octal and in hexadecimal. One of sixteen octets stands in brackets.
-/

namespace CertScope

inductive Host where
  | name (text : String)
  | ipv4 (octets : Bytes)
  | ipv6 (groups : List Nat)
  deriving DecidableEq, Repr

namespace Host

def text : Host → String
  | name text => text
  | ipv4 octets => Address.dotted octets
  | ipv6 groups => "[" ++ Address.contracted groups ++ "]"

/-! ## Addresses of four octets -/

def numeral (base : Nat) (digits : List Char) : Nat :=
  digits.foldl (fun total digit => total * base + (Bytes.hexValue? digit).getD 0) 0

/-- Read digits of a base; none at all denote zero. -/
def readNumeral? (base : Nat) (digits : List Char) : Option Nat :=
  if digits.all fun digit => (Bytes.hexValue? digit).any (· < base) then
    some (numeral base digits)
  else none

/-- Read a number of an address: `0x` begins a hexadecimal one, and a zero with
more after it an octal one. -/
def readNumber? : List Char → Option Nat
  | [] => none
  | '0' :: 'x' :: digits | '0' :: 'X' :: digits => readNumeral? 16 digits
  | '0' :: digit :: digits => readNumeral? 8 (digit :: digits)
  | digits => readNumeral? 10 digits

/-- The parts of a name without the empty one behind a last point. -/
def nameParts (name : List Char) : List (List Char) :=
  let parts := name.splitOn '.'
  if 1 < parts.length ∧ parts.getLast? = some [] then parts.dropLast else parts

/-- Whether a name has to be an address: its last part is a number. -/
def endsInNumber (name : List Char) : Bool :=
  match (nameParts name).getLast? with
  | some last => (!last.isEmpty && last.all Char.isDigit) || (readNumber? last).isSome
  | none => false

def octets? (numbers : List Nat) : Option Bytes := do
  let last ← numbers.getLast?
  let leading := numbers.dropLast
  if leading.length < 4 ∧ leading.all (· < 256) ∧ last < 1 <<< (8 * (4 - leading.length)) then
    some (leading.map UInt8.ofNat ++ Bytes.ofValue (4 - leading.length) last)
  else none

def readIpv4? (name : List Char) : Option Bytes :=
  ((nameParts name).mapM readNumber?).bind octets?

/-- Numbers may be left out in the middle and be written in other bases. -/
example : readIpv4? ['0', 'x', '7', 'f', '.', '1'] = some [127, 0, 0, 1] := by decide

/-! ## Addresses of sixteen octets -/

def readGroup? (digits : List Char) : Option Nat :=
  if digits.isEmpty || 4 < digits.length then none else readNumeral? 16 digits

/-- Read one of the four numbers of an address at the end of a longer one; it
has no zero in front. -/
def readOctet? (digits : List Char) : Option Nat :=
  match digits with
  | [] => none
  | first :: rest =>
      if first == '0' && !rest.isEmpty then none
      else (readNumeral? 10 digits).filter (· < 256)

def readTail? (text : List Char) : Option (List Nat) := do
  match ← (text.splitOn '.').mapM readOctet? with
  | [first, second, third, fourth] => some [first * 256 + second, third * 256 + fourth]
  | _ => none

/-- Read groups with colons between them, of which the last may be an address of
four octets. -/
def readGroups? (text : List Char) : Option (List Nat) := do
  let parts := text.splitOn ':'
  let last ← parts.getLast?
  let leading ← parts.dropLast.mapM readGroup?
  let last ←
    if last.contains '.' then readTail? last else (readGroup? last).map fun group => [group]
  return leading ++ last

def breakOnColons : List Char → Option (List Char × List Char)
  | ':' :: ':' :: rest => some ([], rest)
  | char :: rest => (breakOnColons rest).map fun parts => (char :: parts.1, parts.2)
  | [] => none

def readSide? (text : List Char) : Option (List Nat) :=
  if text.isEmpty then some [] else readGroups? text

/-- Read an address of sixteen octets. Two colons stand for one zero group or
more. -/
def readIpv6? (text : List Char) : Option (List Nat) :=
  match breakOnColons text with
  | some (before, after) => do
      let front ← if before.contains '.' then none else readSide? before
      let back ← readSide? after
      if front.length + back.length < 8 then
        some (front ++ List.replicate (8 - front.length - back.length) 0 ++ back)
      else none
  | none => (readGroups? text).filter (·.length == 8)

/-! ## Hosts -/

def readBracketed (text : List Char) : Except UrlError Host :=
  if text.getLast? = some ']' then
    match readIpv6? text.tail.dropLast with
    | some groups => .ok (.ipv6 groups)
    | none => .error .badIpv6
  else .error .badIpv6

def isForbidden (char : Char) : Bool :=
  ['\x00', '\t', '\n', '\x0d', ' ', '#', '/', ':', '<', '>', '?', '@', '[', '\\', ']', '^',
    '|'].contains char

/-- Read a host of a scheme without rules of its own. -/
def readPlain (text : List Char) : Except UrlError Host :=
  if text.head? = some '[' then readBracketed text
  else if text.any isForbidden then .error .badCharacter
  else .ok (.name (Percent.encode Percent.inControl text))

/-- Read a host of a scheme that has servers: a name is decoded and brought into
ASCII, and one that ends in a number is an address. -/
def readSpecial (text : List Char) : Except UrlError Host :=
  if text.head? = some '[' then readBracketed text
  else
    let decoded := Utf8.decode? (Percent.decode (Bytes.ofText (String.ofList text)))
    match decoded.bind (Idna.toAscii? ·.toList) with
    | none => .error .badName
    | some ascii =>
        if ascii.isEmpty then .error .emptyHost
        else if endsInNumber ascii.toList then
          match readIpv4? ascii.toList with
          | some octets => .ok (.ipv4 octets)
          | none => .error .badIpv4
        else .ok (.name ascii)

end Host

end CertScope
