import CertScope.Toml.Node
import CertScope.Toml.Number
import CertScope.Toml.Text

/-!
# Documents

A document is read line by line into what the lines say, and then built into a
table. A line gives a key a value or opens a table for the lines below it.
-/

namespace CertScope.Toml

open Reader

def scalar : Reader Node := do
  match ← peek with
  | some '"' | some '\'' => return .text (← text)
  | some 't' => literal "true".toList; return .boolean true
  | some 'f' => literal "false".toList; return .boolean false
  | _ =>
      (do time; return .time) <|>
      (do float; return .float) <|>
      (do return .integer (← integer))

/-- The items of an array up to the closing bracket. `steps` bounds their
number. -/
def arrayItems (item : Reader Node) : Nat → Reader (List Node)
  | 0 => failure
  | steps + 1 => do
      gap (← left)
      if ← skip ']' then return []
      else
        let first ← item
        gap (← left)
        if ← skip ',' then return first :: (← arrayItems item steps)
        else
          char ']'
          return [first]

def pair (item : Reader Node) : Reader ((List String × String) × Node) := do
  let key ← key
  char '='
  blanks
  return (key, ← item)

/-- The pairs of an inline table up to the closing brace, given the table so
far. `steps` bounds their number. -/
def inlinePairs (item : Reader Node) (table : Origin × Entries) :
    Nat → Reader (Origin × Entries)
  | 0 => failure
  | steps + 1 => do
      let ((path, key), value) ← pair item
      let table ← assign path key value table
      blanks
      if ← skip ',' then inlinePairs item table steps
      else
        char '\x7d'
        return table

def inlineTable (item : Reader Node) : Reader Node := do
  blanks
  if ← skip '\x7d' then return .table .inline []
  else
    let (_, entries) ← inlinePairs item (.inline, []) (← left)
    return .table .inline entries

def value : Nat → Reader Node
  | 0 => scalar
  | depth + 1 => do
      if ← skip '[' then return .array (← arrayItems (value depth) (← left))
      else if ← skip '\x7b' then inlineTable (value depth)
      else scalar

def maxDepth : Nat := 79

inductive Line where
  | assign (path : List String) (key : String) (value : Node)
  | openTable (path : List String) (key : String)
  | openElement (path : List String) (key : String)

def line : Reader Line :=
  (do
    literal ['[', '[']
    let (path, key) ← key
    literal [']', ']']
    return .openElement path key) <|>
  (do
    char '['
    let (path, key) ← key
    char ']'
    return .openTable path key) <|>
  (do
    let ((path, key), value) ← pair (value maxDepth)
    return .assign path key value)

/-- The lines up to the end of the text. `steps` bounds their number. -/
def lines : Nat → Reader (List Line)
  | 0 => failure
  | steps + 1 => do
      blanks
      match ← peek with
      | none => return []
      | some '#' | some '\n' | some '\r' => lineRest; lines steps
      | some _ =>
          let first ← line
          lineRest
          return first :: (← lines steps)

/-- A table under construction, and the path of the table that was opened
last. -/
structure Draft where
  root : Origin × Entries
  current : List String

def Draft.act (draft : Draft) : Line → Option Draft
  | .assign path key value => do
      let root ← change .parent (assign path key value) draft.current draft.root
      return { draft with root }
  | .openTable path key => do
      return ⟨← openTable path key draft.root, path ++ [key]⟩
  | .openElement path key => do
      return ⟨← openElement path key draft.root, path ++ [key]⟩

/-- The table that a text describes, unless it is malformed. A byte order mark
may stand in front. -/
def parse? (text : String) : Option Entries := do
  let chars := match text.toList with
    | '\uFEFF' :: rest => rest
    | other => other
  let (said, _) ← lines (chars.length + 1) chars
  let draft ← said.foldlM Draft.act ⟨(.header, []), []⟩
  return draft.root.2

end CertScope.Toml
