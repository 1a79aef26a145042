import CertScope.Report

/-!
# Reports on a terminal

Highlighting puts control sequences around a text: one for each style in front
of it, and one behind it that ends them all. Where colours are off nothing is
added.
-/

namespace CertScope

inductive Style where
  | bold
  | red
  | green
  | yellow
  | cyan
  deriving DecidableEq, Repr

namespace Style

def code : Style → Nat
  | bold => 1
  | red => 31
  | green => 32
  | yellow => 33
  | cyan => 36

def sequence (code : Nat) : String := s!"\x1b[{code}m"

def paint (colors : Bool) (styles : List Style) (text : String) : String :=
  if colors && !styles.isEmpty then
    String.join (styles.map (sequence ·.code)) ++ text ++ sequence 0
  else text

def ofTone : Tone → List Style
  | .plain => []
  | .good => [green]
  | .bad => [red, bold]
  | .warning => [yellow]

end Style

/-- A section with its title and labels highlighted, and each value in the tone
that its label has. -/
def Section.format (colors : Bool) (part : Section) : String :=
  Style.paint colors [.cyan, .bold] (part.title ++ ":") ++
    String.join (part.fields.map fun field =>
      "\n\t" ++ Style.paint colors [.bold] field.label ++ ": " ++
        Style.paint colors (Style.ofTone (part.tone field.label)) field.value)

def Report.format (colors : Bool) (report : Report) : String :=
  String.intercalate "\n\n" (report.sections.map (Section.format colors))

end CertScope
