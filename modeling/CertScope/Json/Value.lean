import CertScope.Bytes

/-!
# JSON

Values in JSON and their text, laid out with one item or field on each line and
two more spaces on every level. Fields keep their order.
-/

namespace CertScope.Json

inductive Value where
  | null
  | boolean (value : Bool)
  | number (value : Nat)
  | text (value : String)
  | array (items : List Value)
  | object (fields : List (String × Value))
  deriving Repr, Inhabited

namespace Value

def texts (values : List String) : Value := .array (values.map .text)

def optional : Option String → Value
  | some value => .text value
  | none => .null

end Value

/-! ## Text in quotes -/

/-- A character as it stands between quotes. Quotes, backslashes and controls
are escaped, in their short form if they have one. -/
def escape (char : Char) : List Char :=
  if char = '\x22' then ['\\', '\x22']
  else if char = '\\' then ['\\', '\\']
  else if char = '\x08' then ['\\', 'b']
  else if char = '\t' then ['\\', 't']
  else if char = '\n' then ['\\', 'n']
  else if char = '\x0c' then ['\\', 'f']
  else if char = '\x0d' then ['\\', 'r']
  else if char.toNat < 0x20 then
    ['\\', 'u', '0', '0', Bytes.hexDigit true (char.toNat / 16),
      Bytes.hexDigit true (char.toNat % 16)]
  else [char]

def quote (value : String) : List Char := '\x22' :: (value.toList.flatMap escape ++ ['\x22'])

/-! ## Layout -/

def newline (level : Nat) : List Char := '\n' :: List.replicate (2 * level) ' '

mutual

def write (level : Nat) : Value → List Char
  | .null => ['n', 'u', 'l', 'l']
  | .boolean true => ['t', 'r', 'u', 'e']
  | .boolean false => ['f', 'a', 'l', 's', 'e']
  | .number value => Nat.toDigits 10 value
  | .text value => quote value
  | .array [] => ['[', ']']
  | .array (item :: items) =>
      '[' :: (newline (level + 1) ++ write (level + 1) item ++ writeItems (level + 1) items ++
        newline level ++ [']'])
  | .object [] => ['\x7b', '\x7d']
  | .object ((name, value) :: fields) =>
      '\x7b' :: (newline (level + 1) ++ quote name ++ [':', ' '] ++ write (level + 1) value ++
        writeFields (level + 1) fields ++ newline level ++ ['\x7d'])

/-- Items behind the first of an array. -/
def writeItems (level : Nat) : List Value → List Char
  | [] => []
  | item :: items => ',' :: (newline level ++ write level item ++ writeItems level items)

def writeFields (level : Nat) : List (String × Value) → List Char
  | [] => []
  | (name, value) :: fields =>
      ',' :: (newline level ++ quote name ++ [':', ' '] ++ write level value ++
        writeFields level fields)

end

def Value.pretty (value : Value) : String := String.ofList (write 0 value)

end CertScope.Json
