/-!
# Reading characters

Readers take characters off the front of a text. One that fails leaves another
free to try from the same place.
-/

namespace CertScope.Toml

abbrev Reader := StateT (List Char) Option

namespace Reader

def peek : Reader (Option Char) := fun text => some (text.head?, text)

/-- Whether the next character is the given one; then it is taken. -/
def skip (char : Char) : Reader Bool := fun text =>
  match text with
  | next :: rest => if next = char then some (true, rest) else some (false, text)
  | [] => some (false, [])

def satisfy (condition : Char → Bool) : Reader Char := fun text =>
  match text with
  | next :: rest => if condition next then some (next, rest) else none
  | [] => none

def char (expected : Char) : Reader Unit := do
  let _ ← satisfy (· == expected)

def literal (expected : List Char) : Reader Unit := fun text =>
  if expected.isPrefixOf text then some ((), text.drop expected.length) else none

def takeWhile (condition : Char → Bool) : Reader (List Char) := fun text =>
  some (text.takeWhile condition, text.dropWhile condition)

def blanks : Reader Unit := do
  let _ ← takeWhile fun next => next == ' ' || next == '\t'

def lineEnd : Reader Unit := literal ['\n'] <|> literal ['\r', '\n']

def isCommentChar (next : Char) : Bool :=
  next == '\t' || (' ' ≤ next && next != '\x7F')

def optionalComment : Reader Unit := do
  if ← skip '#' then
    let _ ← takeWhile isCommentChar

/-- What follows a value on its line: blanks, a comment, and the line end or the
end of the text. -/
def lineRest : Reader Unit := do
  blanks
  optionalComment
  if (← peek).isSome then lineEnd

/-- Pass over blanks, line ends and comments. `steps` bounds their number. -/
def gap : Nat → Reader Unit
  | 0 => pure ()
  | steps + 1 => do
      blanks
      match ← peek with
      | some '#' => optionalComment; lineEnd; gap steps
      | some '\n' | some '\r' => lineEnd; gap steps
      | _ => pure ()

end Reader

end CertScope.Toml
