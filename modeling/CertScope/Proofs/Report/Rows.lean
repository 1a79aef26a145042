import CertScope.Proofs.Text.Row
import CertScope.Report
import Mathlib.Algebra.GroupWithZero.Nat

/-!
# The rows of a report

A report is shown as text without any escaping.  Cut at its line feeds, it is its sections
with an empty row between each two, and a section is its title and the rows of its fields.
A field takes one row, and one more for every line feed in its value.
-/

namespace CertScope

open Text

/-! ## Sections -/

/-- The text of a field: a tab, the label and the value. -/
def Field.line (field : Field) : String := "\t" ++ field.label ++ ": " ++ field.value

namespace Section

variable {part : Section}

/-- A title, and below it the rows of the fields. -/
def rows (part : Section) : List String :=
  (part.title ++ ":") :: part.fields.flatMap fun field => Text.rows field.line

theorem rows_fields (front : String) (fields : List Field) :
    Text.rows (front ++ String.join (fields.map fun field => "\n" ++ field.line)) =
      Text.rows front ++ fields.flatMap fun field => Text.rows field.line := by
  induction fields generalizing front with
  | nil => simp
  | cons field fields ih =>
      rw [List.map_cons, join_cons, List.flatMap_cons, ← ih field.line, ← rows_append_feed]
      simp only [String.append_assoc]

theorem render_eq (part : Section) :
    part.render =
      part.title ++ ":" ++ String.join (part.fields.map fun field => "\n" ++ field.line) := by
  have same (field : Field) :
      "\n\t" ++ field.label ++ ": " ++ field.value = "\n" ++ field.line := by
    simp only [Field.line, ← String.append_assoc]
    rfl
  simp only [render, same]

theorem rows_render (titled : IsRow part.title) : Text.rows part.render = part.rows := by
  have isRow : IsRow (part.title ++ ":") := isRow_append.2 ⟨titled, by decide⟩
  rw [render_eq, rows_fields, rows_of_isRow isRow]
  rfl

end Section

namespace Report

variable {report : Report}

/-- Sections are shown one below the other with an empty row between. -/
theorem rows_render (filled : report.sections ≠ [])
    (titled : ∀ part ∈ report.sections, IsRow part.title) :
    Text.rows report.render = [""].intercalate (report.sections.map Section.rows) := by
  rw [render, rows_intercalate (by simpa using filled), List.map_map]
  congr 1
  apply List.map_congr_left
  intro part member
  exact Section.rows_render (titled part member)

def fields (report : Report) : List Field := report.sections.flatMap Section.fields

theorem mem_intercalate {row : String} {part : List String} {parts : List (List String)}
    (listed : part ∈ parts) (among : row ∈ part) : row ∈ [""].intercalate parts := by
  induction parts with
  | nil => cases listed
  | cons first others ih =>
      cases others with
      | nil =>
          obtain rfl := List.mem_singleton.1 listed
          simpa using among
      | cons next others =>
          rw [List.intercalate_cons_cons]
          rcases List.mem_cons.1 listed with rfl | later
          · simp [among]
          · exact List.mem_append_right _ (ih later)

/-- Titles and labels that can be told from the rest of a report. -/
structure IsPlain (report : Report) : Prop where
  filled : report.sections ≠ []
  titled : ∀ part ∈ report.sections, IsRow part.title ∧ '\t' ∉ part.title.toList
  labelled : ∀ field ∈ report.fields, IsRow field.label ∧ ':' ∉ field.label.toList

/-- A row of a field is a row of the report. -/
theorem mem_rows_of_field (plain : report.IsPlain) {field : Field} (member : field ∈ report.fields)
    {row : String} (among : row ∈ Text.rows field.line) : row ∈ Text.rows report.render := by
  obtain ⟨part, listed, inside⟩ := List.mem_flatMap.1 member
  rw [rows_render plain.filled fun part member => (plain.titled part member).1]
  apply mem_intercalate (List.mem_map.2 ⟨part, listed, rfl⟩)
  exact List.mem_cons_of_mem _ (List.mem_flatMap.2 ⟨field, inside, among⟩)

/-! ## Counting rows -/

theorem length_intercalate {parts : List (List String)} (filled : parts ≠ []) :
    ([""].intercalate parts).length + 1 = parts.length + (parts.map List.length).sum := by
  induction parts with
  | nil => exact absurd rfl filled
  | cons part parts ih =>
      cases parts with
      | nil => simp [Nat.add_comm]
      | cons next others =>
          have later := ih (by simp)
          rw [List.intercalate_cons_cons]
          simp only [List.length_append, List.length_cons, List.length_nil, List.map_cons,
            List.sum_cons] at later ⊢
          omega

theorem length_rows_fields {fields : List Field} (labelled : ∀ field ∈ fields, IsRow field.label) :
    (fields.flatMap fun field => Text.rows field.line).length =
      fields.length + (fields.map fun field => feeds field.value).sum := by
  induction fields with
  | nil => rfl
  | cons field fields ih =>
      have later := ih fun other member => labelled other (List.mem_cons_of_mem field member)
      have label := feeds_eq_zero.2 (labelled field List.mem_cons_self)
      have tab : feeds "\t" = 0 := by decide
      have colon : feeds ": " = 0 := by decide
      have single : (Text.rows field.line).length = feeds field.value + 1 := by
        simp only [Text.length_rows, Field.line, feeds_append, label, tab, colon]
        omega
      simp only [List.flatMap_cons, List.length_append, single, later, List.length_cons,
        List.map_cons, List.sum_cons]
      omega

/-- Every section takes a row for its title, one for each field, and one between it and the
next; each line feed in a value adds one. -/
theorem length_rows (plain : report.IsPlain) :
    (Text.rows report.render).length + 1 =
      2 * report.sections.length + report.fields.length +
        (report.fields.map fun field => feeds field.value).sum := by
  have labelled : ∀ field ∈ report.fields, IsRow field.label := fun field member =>
    (plain.labelled field member).1
  rw [rows_render plain.filled fun part member => (plain.titled part member).1,
    length_intercalate (by simpa using plain.filled), List.map_map, List.length_map]
  unfold fields at labelled ⊢
  generalize report.sections = sections at labelled
  induction sections with
  | nil => rfl
  | cons part sections ih =>
      rw [List.flatMap_cons] at labelled
      have here := length_rows_fields fun field member =>
        labelled field (List.mem_append_left _ member)
      have later := ih fun field member => labelled field (List.mem_append_right _ member)
      simp only [List.map_cons, List.sum_cons, Function.comp_apply, Section.rows, List.length_cons,
        here, List.flatMap_cons, List.length_append, List.map_append, List.sum_append] at later ⊢
      omega

theorem sum_feeds_eq_zero {fields : List Field} :
    (fields.map fun field => feeds field.value).sum = 0 ↔
      ∀ field ∈ fields, IsRow field.value := by
  induction fields with
  | nil => simp
  | cons field fields ih =>
      rw [List.map_cons, List.sum_cons, Nat.add_eq_zero_iff, ih, feeds_eq_zero,
        List.forall_mem_cons]

/-! ## Searching for a field -/

def heading (label : String) : String := "\t" ++ label ++ ": "

def begins (front row : String) : Bool := front.toList.isPrefixOf row.toList

theorem eq_of_begins {mark : Char} {first second before after : List Char}
    (unmarked : mark ∉ first) (other : mark ∉ second)
    (starts : first ++ mark :: before <+: second ++ mark :: after) : first = second := by
  induction first generalizing second with
  | nil =>
      cases second with
      | nil => rfl
      | cons char chars =>
          obtain ⟨rfl, -⟩ := List.cons_prefix_cons.1 starts
          exact absurd List.mem_cons_self other
  | cons char chars ih =>
      cases second with
      | nil =>
          obtain ⟨rfl, -⟩ := List.cons_prefix_cons.1 starts
          exact absurd List.mem_cons_self unmarked
      | cons next others =>
          obtain ⟨rfl, later⟩ := List.cons_prefix_cons.1 starts
          rw [ih (fun member => unmarked (List.mem_cons_of_mem char member))
            (fun member => other (List.mem_cons_of_mem char member)) later]

theorem begins_heading_line {label : String} {field : Field} (simple : ':' ∉ label.toList)
    (named : ':' ∉ field.label.toList) :
    begins (heading label) field.line = true ↔ field.label = label := by
  rw [begins, List.isPrefixOf_iff_prefix]
  constructor
  · intro starts
    have parts : label.toList ++ ':' :: [' '] <+:
        field.label.toList ++ ':' :: (' ' :: field.value.toList) := by
      simpa [heading, Field.line] using starts
    exact String.toList_inj.1 (eq_of_begins simple named parts).symm
  · rintro rfl
    simp [heading, Field.line]

theorem not_begins_heading_title {label title : String} (untabbed : '\t' ∉ title.toList) :
    begins (heading label) (title ++ ":") = false := by
  rw [begins, Bool.eq_false_iff, ne_eq, List.isPrefixOf_iff_prefix]
  intro starts
  have member : '\t' ∈ (title ++ ":").toList := starts.subset (by simp [heading])
  simp [untabbed] at member

theorem filter_intercalate {keep : String → Bool} (separator : keep "" = false)
    (parts : List (List String)) :
    ([""].intercalate parts).filter keep = parts.flatMap (List.filter keep) := by
  induction parts with
  | nil => rfl
  | cons part parts ih =>
      cases parts with
      | nil => simp
      | cons next others =>
          rw [List.intercalate_cons_cons, List.filter_append, ih, List.filter_append]
          simp [separator]

/-- Where no value holds a line feed, every field is one row. -/
theorem rows_of_isRow_values (plain : report.IsPlain)
    (single : ∀ field ∈ report.fields, IsRow field.value) :
    Text.rows report.render =
      [""].intercalate (report.sections.map fun part =>
        (part.title ++ ":") :: part.fields.map Field.line) := by
  rw [rows_render plain.filled fun part member => (plain.titled part member).1]
  congr 1
  apply List.map_congr_left
  intro part member
  rw [Section.rows, List.map_eq_flatMap]
  congr 1
  apply List.flatMap_congr
  intro field inside
  have among : field ∈ report.fields := List.mem_flatMap.2 ⟨part, member, inside⟩
  apply rows_of_isRow
  have tab : IsRow "\t" := by decide
  have colon : IsRow ": " := by decide
  simp only [Field.line, isRow_append, tab, colon, (plain.labelled field among).1,
    single field among, and_self]

/-- Then the rows that begin like a field with a given label are the fields that bear it. -/
theorem filter_rows (label : String) (simple : ':' ∉ label.toList) (plain : report.IsPlain)
    (single : ∀ field ∈ report.fields, IsRow field.value) :
    (Text.rows report.render).filter (begins (heading label)) =
      (report.fields.filter fun field => field.label = label).map Field.line := by
  have empty : begins (heading label) "" = false := by
    simp [begins, heading]
  have titled := plain.titled
  have labelled := plain.labelled
  rw [rows_of_isRow_values plain single, filter_intercalate empty]
  unfold fields at labelled ⊢
  generalize report.sections = sections at titled labelled
  induction sections with
  | nil => rfl
  | cons part sections ih =>
      rw [List.flatMap_cons] at labelled
      have later := ih (fun other member => titled other (List.mem_cons_of_mem part member))
        fun field member => labelled field (List.mem_append_right _ member)
      have title : begins (heading label) (part.title ++ ":") = false :=
        not_begins_heading_title (titled part List.mem_cons_self).2
      have here : (part.fields.map Field.line).filter (begins (heading label)) =
          (part.fields.filter fun field => field.label = label).map Field.line := by
        rw [List.filter_map]
        congr 1
        apply List.filter_congr
        intro field member
        have named := (labelled field (List.mem_append_left _ member)).2
        rw [Function.comp_apply, Bool.eq_iff_iff, begins_heading_line simple named]
        simp
      simp only [List.map_cons, List.flatMap_cons, List.filter_cons, title, here, later,
        List.filter_append, List.map_append, Bool.false_eq_true, if_false]

end Report

end CertScope
