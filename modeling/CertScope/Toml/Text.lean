import CertScope.Bytes
import CertScope.Toml.Reader

/-!
# Quoted texts and keys

A text between double quotes may hold escapes, one between single quotes stands
for itself. Between three quotes of either kind a text may run over several
lines; a line end right behind the opening quotes does not belong to it.
-/

namespace CertScope.Toml

open Reader

def charOfDigits? (digits : List Char) : Option Char := do
  let values ← digits.mapM Bytes.hexValue?
  let code := values.foldl (fun total digit => total * 16 + digit) 0
  if code.isValidChar then some (Char.ofNat code) else none

def takeCount (count : Nat) : Reader (List Char) := fun text =>
  if text.length < count then none else some (text.take count, text.drop count)

def escape : Reader Char := do
  match ← satisfy fun _ => true with
  | 'b' => return '\x08'
  | 't' => return '\t'
  | 'n' => return '\n'
  | 'f' => return '\x0C'
  | 'r' => return '\r'
  | '"' => return '"'
  | '\\' => return '\\'
  | 'u' => charOfDigits? (← takeCount 4)
  | 'U' => charOfDigits? (← takeCount 8)
  | _ => failure

def isTextChar (next : Char) : Bool :=
  next == '\t' || (' ' ≤ next && next != '\x7F')

/-- The characters up to a closing double quote. `steps` bounds their number. -/
def quoted : Nat → Reader (List Char)
  | 0 => failure
  | steps + 1 => do
      match ← satisfy isTextChar with
      | '"' => return []
      | '\\' => return (← escape) :: (← quoted steps)
      | next => return next :: (← quoted steps)

def verbatim : Reader (List Char) := do
  let chars ← takeWhile fun next => isTextChar next && next != '\''
  char '\''
  return chars

/-- Up to two quotes that stand in front of three closing ones belong to the
text. -/
def surplus (quote : Char) : Reader (List Char) := do
  if !(← skip quote) then return []
  else if !(← skip quote) then return [quote]
  else return [quote, quote]

/-- Pass over blanks and line ends behind a backslash, of which the first line
end has to be there. -/
def continuation : Reader Unit := do
  blanks
  lineEnd
  let _ ← takeWhile fun next => [' ', '\t', '\n', '\r'].contains next

/-- One character of a text that runs over several lines; a line end counts as a
line feed. -/
def lineChar : Reader Char := (do lineEnd; return '\n') <|> satisfy isTextChar

def quotedLines : Nat → Reader (List Char)
  | 0 => failure
  | steps + 1 =>
      (do literal ['"', '"', '"']; surplus '"') <|>
      (do
        match ← lineChar with
        | '\\' =>
            (do continuation; quotedLines steps) <|>
              (do return (← escape) :: (← quotedLines steps))
        | next => return next :: (← quotedLines steps))

def verbatimLines : Nat → Reader (List Char)
  | 0 => failure
  | steps + 1 =>
      (do literal ['\'', '\'', '\'']; surplus '\'') <|>
      (do return (← lineChar) :: (← verbatimLines steps))

def left : Reader Nat := fun text => some (text.length, text)

def lineText : Reader String := do
  if ← skip '"' then return String.ofList (← quoted (← left))
  else
    char '\''
    return String.ofList (← verbatim)

def text : Reader String :=
  (do
    literal ['"', '"', '"']
    lineEnd <|> pure ()
    return String.ofList (← quotedLines (← left))) <|>
  (do
    literal ['\'', '\'', '\'']
    lineEnd <|> pure ()
    return String.ofList (← verbatimLines (← left))) <|>
  lineText

def isKeyChar (next : Char) : Bool := next.isAlphanum || next == '_' || next == '-'

def keyPart : Reader String := do
  match ← peek with
  | some '"' | some '\'' => lineText
  | _ =>
      let chars ← takeWhile isKeyChar
      if chars.isEmpty then failure else return String.ofList chars

def keyParts : Nat → Reader (List String)
  | 0 => failure
  | steps + 1 => do
      blanks
      let first ← keyPart
      blanks
      if ← skip '.' then return first :: (← keyParts steps) else return [first]

def maxKeyParts : Nat := 79

/-- A key as the path to its last part. -/
def key : Reader (List String × String) := do
  let parts ← keyParts maxKeyParts
  match parts.getLast? with
  | some last => return (parts.dropLast, last)
  | none => failure

end CertScope.Toml
