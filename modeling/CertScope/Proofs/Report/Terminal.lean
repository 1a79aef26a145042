import CertScope.Proofs.Text.Row
import CertScope.Report.Terminal

/-!
# What highlighting leaves of a text

Highlighting puts control sequences into a report and changes nothing else.  Where colours
are off there are none.  Where they are on, every escape character of a highlighted report
begins a control sequence, as long as the report itself holds no escape character; taking
the control sequences out again then gives the plain report.
-/

namespace CertScope

namespace Style

/-! ## Taking control sequences out -/

/-- What stands behind the control sequence at the front of some characters: an escape
character, a bracket, one digit or more and an `m`. -/
def behindSequence? : List Char → Option (List Char)
  | '\x1b' :: '[' :: chars =>
      match chars.takeWhile Char.isDigit, chars.dropWhile Char.isDigit with
      | _ :: _, 'm' :: rest => some rest
      | _, _ => none
  | _ => none

theorem length_behindSequence? {chars rest : List Char}
    (begins : behindSequence? chars = some rest) : rest.length < chars.length := by
  unfold behindSequence? at begins
  split at begins
  · rename_i inside
    split at begins
    · rename_i left _ behind
      obtain rfl := Option.some.inj begins
      have within := (List.dropWhile_suffix Char.isDigit : inside.dropWhile _ <:+ inside).length_le
      simp only [behind, List.length_cons] at within ⊢
      omega
    · cases begins
  · cases begins

/-- The characters without the control sequences among them. -/
def unstyled (chars : List Char) : List Char :=
  match _begins : behindSequence? chars with
  | some rest => unstyled rest
  | none =>
      match chars with
      | [] => []
      | char :: others => char :: unstyled others
termination_by chars.length
decreasing_by
  · exact length_behindSequence? ‹_›
  · simp

def withoutSequences (text : String) : String := String.ofList (unstyled text.toList)

variable {chars rest : List Char} {char : Char}

theorem unstyled_nil : unstyled [] = [] := by
  rw [unstyled]
  rfl

theorem unstyled_cons (other : char ≠ '\x1b') (chars : List Char) :
    unstyled (char :: chars) = char :: unstyled chars := by
  have begins : behindSequence? (char :: chars) = none := by
    unfold behindSequence?
    split
    · rename_i same
      exact absurd (List.cons.inj same).1 other
    · rfl
  rw [unstyled]
  split
  · rename_i found
    rw [begins] at found
    cases found
  · rfl

theorem unstyled_append (plain : '\x1b' ∉ chars) (rest : List Char) :
    unstyled (chars ++ rest) = chars ++ unstyled rest := by
  induction chars with
  | nil => rfl
  | cons char chars ih =>
      rw [List.mem_cons, not_or] at plain
      rw [List.cons_append, unstyled_cons (Ne.symm plain.1), ih plain.2, List.cons_append]

theorem toList_sequence (code : Nat) :
    (sequence code).toList = '\x1b' :: '[' :: (Nat.toDigits 10 code ++ ['m']) := by
  simp [sequence, toString]

theorem behindSequence?_sequence (code : Nat) (rest : List Char) :
    behindSequence? ((sequence code).toList ++ rest) = some rest := by
  have digits : ∀ char ∈ Nat.toDigits 10 code, char.isDigit = true := fun char member =>
    Nat.isDigit_of_mem_toDigits (by decide) (by decide) member
  obtain ⟨first, others, number⟩ := List.exists_cons_of_ne_nil (@Nat.toDigits_ne_nil code 10)
  rw [toList_sequence, List.cons_append, List.cons_append, List.append_assoc, behindSequence?,
    List.takeWhile_append_of_pos digits, List.dropWhile_append_of_pos digits]
  simp [number]

theorem unstyled_sequence (code : Nat) (rest : List Char) :
    unstyled ((sequence code).toList ++ rest) = unstyled rest := by
  rw [unstyled]
  split
  · rename_i found begins
    rw [behindSequence?_sequence] at begins
    rw [Option.some.inj begins]
  · rename_i begins
    rw [behindSequence?_sequence] at begins
    cases begins

/-! ## Texts that show another -/

/-- A text shows another one: without its control sequences it is the other text, whatever
stands behind it. -/
def Shows (styled plain : String) : Prop :=
  ∀ rest, unstyled (styled.toList ++ rest) = plain.toList ++ unstyled rest

variable {first second styled plain text : String}

theorem Shows.withoutSequences (shows_ : Shows styled plain) : withoutSequences styled = plain := by
  have whole := shows_ []
  rw [List.append_nil, unstyled_nil, List.append_nil] at whole
  rw [Style.withoutSequences, whole, String.ofList_toList]

theorem Shows.self (unescaped : '\x1b' ∉ text.toList) : Shows text text :=
  unstyled_append unescaped

theorem shows_sequence (code : Nat) : Shows (sequence code) "" := unstyled_sequence code

theorem Shows.append (begins : Shows first styled) (ends : Shows second plain) :
    Shows (first ++ second) (styled ++ plain) := by
  intro rest
  rw [String.toList_append, List.append_assoc, begins, ends, String.toList_append,
    List.append_assoc]

theorem Shows.join {value : Type} {styled plain : value → String} {values : List value}
    (each : ∀ value ∈ values, Shows (styled value) (plain value)) :
    Shows (String.join (values.map styled)) (String.join (values.map plain)) := by
  induction values with
  | nil => exact fun _ => rfl
  | cons value values ih =>
      rw [List.forall_mem_cons] at each
      rw [List.map_cons, List.map_cons, Text.join_cons, Text.join_cons]
      exact each.1.append (ih each.2)

theorem Shows.intercalate {value : Type} {separator : String} {styled plain : value → String}
    {values : List value} (unescaped : '\x1b' ∉ separator.toList)
    (each : ∀ value ∈ values, Shows (styled value) (plain value)) :
    Shows (separator.intercalate (values.map styled))
      (separator.intercalate (values.map plain)) := by
  induction values with
  | nil => exact fun _ => rfl
  | cons value values ih =>
      rw [List.forall_mem_cons] at each
      cases values with
      | nil => simpa using each.1
      | cons next others =>
          have later := ih each.2
          rw [List.map_cons, List.map_cons] at later ⊢
          rw [List.map_cons, List.map_cons, Text.intercalate_cons, Text.intercalate_cons]
          exact (each.1.append (Shows.self unescaped)).append later

theorem shows_sequences (styles : List Style) :
    Shows (String.join (styles.map (sequence ·.code))) "" := by
  induction styles with
  | nil => exact fun _ => rfl
  | cons style styles ih =>
      rw [List.map_cons, Text.join_cons]
      simpa using (shows_sequence style.code).append ih

/-- Highlighting a text adds control sequences alone. -/
theorem Shows.paint (colors : Bool) (styles : List Style) (unescaped : '\x1b' ∉ text.toList) :
    Shows (paint colors styles text) text := by
  unfold Style.paint
  split
  · simpa using ((shows_sequences styles).append (Shows.self unescaped)).append (shows_sequence 0)
  · exact Shows.self unescaped

theorem paint_false (styles : List Style) (text : String) : paint false styles text = text := by
  simp [paint]

end Style

/-! ## Reports -/

def Section.texts (part : Section) : List String :=
  part.title :: part.fields.flatMap fun field => [field.label, field.value]

def Report.texts (report : Report) : List String := report.sections.flatMap Section.texts

namespace Section

open Style

variable {part : Section}

theorem format_false (part : Section) : part.format false = part.render := by
  simp only [format, render, paint_false]

theorem shows_format (colors : Bool) (unescaped : ∀ text ∈ part.texts, '\x1b' ∉ text.toList) :
    Shows (part.format colors) part.render := by
  rw [texts, List.forall_mem_cons] at unescaped
  obtain ⟨title, fields⟩ := unescaped
  have heading : '\x1b' ∉ (part.title ++ ":").toList := by simpa using title
  refine (Shows.paint colors _ heading).append (Shows.join fun field member => ?_)
  have label : '\x1b' ∉ field.label.toList :=
    fields _ (List.mem_flatMap.2 ⟨field, member, by simp⟩)
  have value : '\x1b' ∉ field.value.toList :=
    fields _ (List.mem_flatMap.2 ⟨field, member, by simp⟩)
  have indented : Shows "\n\t" "\n\t" := Shows.self (by decide)
  have colon : Shows ": " ": " := Shows.self (by decide)
  exact ((indented.append (Shows.paint colors _ label)).append colon).append
    (Shows.paint colors _ value)

end Section

namespace Report

theorem format_false (report : Report) : report.format false = report.render := by
  have same : Section.format false = Section.render := funext Section.format_false
  rw [format, render, same]

/-- A report without colours is the plain report.  With colours it is the plain report and
control sequences, and nothing of the plain report is lost when these are taken out, as long
as no title, label or value holds an escape character. -/
theorem format_agrees_with_render (report : Report) :
    report.format false = report.render ∧
      ((∀ text ∈ report.texts, '\x1b' ∉ text.toList) →
        Style.withoutSequences (report.format true) = report.render) := by
  refine ⟨format_false report, fun unescaped => ?_⟩
  apply Style.Shows.withoutSequences
  refine Style.Shows.intercalate (by decide) fun part member => ?_
  apply Section.shows_format true
  intro text inside
  exact unescaped text (List.mem_flatMap.2 ⟨part, member, inside⟩)

/-- A value that looks like the end of a control sequence stays behind one that is taken out. -/
theorem format_agrees_with_render_bracketed :
    let report : Report :=
      ⟨[⟨"Debugging", [⟨"m", "[31m0;1m", some .bad⟩, ⟨"1m", "", some .plain⟩]⟩, ⟨"", []⟩]⟩
    report.format false = report.render ∧
      (∀ text ∈ report.texts, '\x1b' ∉ text.toList) ∧
      report.format true ≠ report.render ∧
      Style.withoutSequences (report.format true) =
        "Debugging:\n\tm: [31m0;1m\n\t1m: \n\n:" := by
  intro report
  have unescaped : ∀ text ∈ report.texts, '\x1b' ∉ text.toList := by decide
  obtain ⟨plain, colored⟩ := format_agrees_with_render report
  exact ⟨plain, unescaped, by decide, colored unescaped⟩

end Report

end CertScope
