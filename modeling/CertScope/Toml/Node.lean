/-!
# Trees of settings

What a settings text says: values, arrays and tables. A table remembers how it
came to be, because a table may be opened once only and must not be extended
through another way of writing.
-/

namespace CertScope.Toml

/-- How a table came to be. -/
inductive Origin where
  /-- Opened by a header of its own, or the outermost table. -/
  | header
  /-- Implied by the header of a table in it. -/
  | parent
  /-- Implied by a dotted key. -/
  | dotted
  | inline
  deriving DecidableEq, Repr

/-- A value, an array or a table. The values of fractional numbers and of times
are not kept. -/
inductive Node where
  | text (value : String)
  | integer (value : Int)
  | float
  | boolean (value : Bool)
  | time
  | array (items : List Node)
  | table (origin : Origin) (entries : List (String × Node))
  /-- An array of tables, each opened by a header. -/
  | tables (elements : List (List (String × Node)))

abbrev Entries := List (String × Node)

/-- Give a key a value, in its place if it has one. -/
def put (key : String) (node : Node) : Entries → Entries
  | [] => [(key, node)]
  | (found, old) :: rest =>
      if found = key then (key, node) :: rest else (found, old) :: put key node rest

/-- Change the table that a path leads to. Tables on the way that are missing
are made, as `implied`; a dotted key must not lead through a table that a header
opened, and nothing leads through a value. In an array of tables the way goes
through the last. -/
def change (implied : Origin) (update : Origin × Entries → Option (Origin × Entries)) :
    List String → Origin × Entries → Option (Origin × Entries)
  | [], table => update table
  | key :: path, (origin, entries) => do
      match entries.lookup key with
      | none =>
          let (made, inner) ← change implied update path (implied, [])
          return (origin, put key (.table made inner) entries)
      | some (.table .inline _) => none
      | some (.table old inner) =>
          if implied = .dotted ∧ old = .header then none
          else
            let (old, inner) ← change implied update path (old, inner)
            return (origin, put key (.table old inner) entries)
      | some (.tables elements) =>
          let last ← elements.getLast?
          let (_, last) ← change implied update path (.header, last)
          return (origin, put key (.tables (elements.dropLast ++ [last])) entries)
      | some _ => none

/-- Give a key below a table a value that it does not have yet. A key without a
path belongs to the table itself, and a path has to end in a dotted table. -/
def assign (path : List String) (key : String) (node : Node) :
    Origin × Entries → Option (Origin × Entries) :=
  change .dotted
    (fun (origin, entries) =>
      if (origin == .dotted) == path.isEmpty || (entries.lookup key).isSome then none
      else some (origin, put key node entries))
    path

def openTable (path : List String) (key : String) :
    Origin × Entries → Option (Origin × Entries) :=
  change .parent
    (fun (origin, entries) =>
      match entries.lookup key with
      | none => some (origin, put key (.table .header []) entries)
      | some (.table .parent inner) => some (origin, put key (.table .header inner) entries)
      | some _ => none)
    path

def openElement (path : List String) (key : String) :
    Origin × Entries → Option (Origin × Entries) :=
  change .parent
    (fun (origin, entries) =>
      match entries.lookup key with
      | none => some (origin, put key (.tables [[]]) entries)
      | some (.tables elements) => some (origin, put key (.tables (elements ++ [[]])) entries)
      | some _ => none)
    path

end CertScope.Toml
