/-!
# Tables of characters

Data about many characters is kept in a compact notation: rows with blanks
between them, each with a code point or two code points with a hyphen between
them, in hexadecimal. What the row says of its range may follow: `~` that every
second character, from the first on, goes to its successor; `=` and a code
point that the range is moved there; `:` and code points with plus signs between
them that every character goes to just these.
-/

namespace CertScope.CharTable

/-- What a row says of its characters. -/
inductive Entry where
  | listed
  /-- Every second, from the first on, goes to its successor. -/
  | paired
  /-- The range is moved to start at `start`. -/
  | moved (start : Nat)
  /-- They all go to the same. -/
  | constant (codes : List Nat)
  deriving DecidableEq, Repr

structure Row where
  first : Nat
  last : Nat
  entry : Entry
  deriving DecidableEq, Repr

def number (digits : List Char) : Nat :=
  digits.foldl (fun total digit =>
    total * 16 + (if digit ≤ '9' then digit.toNat - 48 else digit.toNat - 87)) 0

def numbers (separator : Char) (text : List Char) : List Nat :=
  if text.isEmpty then [] else (text.splitOn separator).map number

def isRangeChar (char : Char) : Bool := char.isAlphanum || char == '-'

def Row.read (text : List Char) : Row :=
  let range := numbers '-' (text.takeWhile isRangeChar)
  let entry := match text.dropWhile isRangeChar with
    | '~' :: _ => .paired
    | '=' :: start => .moved (number start)
    | ':' :: codes => .constant (numbers '+' codes)
    | _ => .listed
  ⟨range.headD 0, range.getLastD 0, entry⟩

def Row.covers (row : Row) (char : Char) : Bool :=
  row.first ≤ char.toNat && char.toNat ≤ row.last

def Row.codes (row : Row) (char : Char) : List Nat :=
  match row.entry with
  | .listed => [char.toNat]
  | .paired => [if (char.toNat - row.first) % 2 = 0 then char.toNat + 1 else char.toNat]
  | .moved start => [start + (char.toNat - row.first)]
  | .constant codes => codes

def read (lines : List String) : List Row :=
  lines.flatMap fun line => (line.toList.splitOn ' ').map Row.read

def find? (table : List Row) (char : Char) : Option Row := table.find? (·.covers char)

def lists (table : List Row) (char : Char) : Bool := table.any (·.covers char)

end CertScope.CharTable
