import CertScope.Status

/-!
# Reports

A report is a list of titled sections, each a list of labelled values. It is
rendered as plain text, or with its titles, labels and toned values highlighted
for a terminal.
-/

namespace CertScope

structure Field where
  label : String
  value : String
  tone : Option Tone := none
  deriving DecidableEq, Repr, Inhabited

structure Section where
  title : String
  fields : List Field
  deriving DecidableEq, Repr, Inhabited

namespace Section

def titled (title : String) : Section := ⟨title, []⟩

def field (part : Section) (label value : String) : Section :=
  { part with fields := part.fields ++ [⟨label, value, none⟩] }

def tonedField (part : Section) (label value : String) (tone : Tone) : Section :=
  { part with fields := part.fields ++ [⟨label, value, some tone⟩] }

/-- The value of the first field with a label. -/
def value? (part : Section) (label : String) : Option String :=
  (part.fields.find? (·.label = label)).map (·.value)

/-- The tone of the first field with a label that carries one; plain if there is
none. -/
def tone (part : Section) (label : String) : Tone :=
  (part.fields.findSome? fun field => if field.label = label then field.tone else none).getD
    .plain

def render (part : Section) : String :=
  part.title ++ ":" ++
    String.join (part.fields.map fun field => "\n\t" ++ field.label ++ ": " ++ field.value)

end Section

structure Report where
  sections : List Section
  deriving DecidableEq, Repr, Inhabited

namespace Report

def section? (report : Report) (title : String) : Option Section :=
  report.sections.find? (·.title = title)

def render (report : Report) : String :=
  String.intercalate "\n\n" (report.sections.map Section.render)

end Report

end CertScope
