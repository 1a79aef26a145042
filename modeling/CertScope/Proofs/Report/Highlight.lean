import CertScope.Proofs.Report.Inspection
import CertScope.Report.Terminal
import Mathlib.Data.List.Nodup

/-!
# The highlight of a field

A section finds the tone of a field by its label, and the tone that it finds is the first one
that was given to a field of that label.  Every field is therefore shown in its own tone
exactly if fields of one label have one tone.  Where a label recurs with another tone, a field
is shown in the tone of another one; the sections of an inspection have no label twice.
-/

namespace CertScope

/-- The tone that a field was appended with, which is plain if none was given. -/
def Field.ownTone (field : Field) : Tone := field.tone.getD .plain

namespace Section

/-! ## Sections and the calls that build them -/

inductive Call where
  | field (label value : String)
  | tonedField (label value : String) (tone : Tone)
  deriving DecidableEq, Repr

namespace Call

def apply (part : Section) : Call → Section
  | field label value => part.field label value
  | tonedField label value tone => part.tonedField label value tone

def appended : Call → Field
  | field label value => ⟨label, value, none⟩
  | tonedField label value tone => ⟨label, value, some tone⟩

theorem fields_apply (part : Section) (call : Call) :
    (call.apply part).fields = part.fields ++ [call.appended] := by
  cases call <;> rfl

end Call

/-- The section that calls make of a new one, one after the other. -/
def built (title : String) (calls : List Call) : Section :=
  calls.foldl Call.apply (.titled title)

theorem fields_foldl (part : Section) (calls : List Call) :
    (calls.foldl Call.apply part).fields = part.fields ++ calls.map Call.appended := by
  induction calls generalizing part with
  | nil => simp
  | cons call calls ih => simp [ih, Call.fields_apply]

theorem fields_built (title : String) (calls : List Call) :
    (built title calls).fields = calls.map Call.appended :=
  fields_foldl _ calls

variable {part : Section} {label : String} {field : Field}

/-! ## Looking a tone up -/

/-- The first field with a label. -/
def field? (part : Section) (label : String) : Option Field :=
  part.fields.find? (·.label = label)

/-- The first tone given to a field with a label. -/
def tone? (part : Section) (label : String) : Option Tone :=
  part.fields.findSome? fun field => if field.label = label then field.tone else none

theorem exists_of_tone? {tone : Tone} (found : part.tone? label = some tone) :
    ∃ field ∈ part.fields, field.label = label ∧ field.tone = some tone := by
  obtain ⟨field, member, given⟩ := List.exists_of_findSome?_eq_some found
  split at given
  · rename_i labelled
    exact ⟨field, member, labelled, given⟩
  · cases given

theorem tone_eq_none_of_tone? (missing : part.tone? label = none) (member : field ∈ part.fields)
    (labelled : field.label = label) : field.tone = none := by
  have passed := List.findSome?_eq_none_iff.1 missing field member
  rwa [if_pos labelled] at passed

/-- If the first field with a label was given a tone, this is the one that is found. -/
theorem tone?_of_field? {tone : Tone} (first : part.field? label = some field)
    (given : field.tone = some tone) : part.tone? label = some tone := by
  obtain ⟨labelled, before, after, split, others⟩ := List.find?_eq_some_iff_append.1 first
  have passed : before.findSome?
      (fun field => if field.label = label then field.tone else none) = none := by
    rw [List.findSome?_eq_none_iff]
    intro other member
    rw [if_neg (by simpa using others other member)]
  have here : field.label = label := by simpa using labelled
  rw [tone?, split, List.findSome?_append, passed]
  simp [here, given]

/-- The tone that is found is that of the first field with the label, unless that field was
given none and a later one was given one that shows. -/
theorem tone_eq_iff :
    part.tone label = ((part.field? label).map Field.ownTone).getD .plain ↔
      (∃ field, part.field? label = some field ∧ field.tone ≠ none) ∨
        part.tone label = .plain := by
  change (part.tone? label).getD .plain = _ ↔ _ ∨ (part.tone? label).getD .plain = _
  cases first : part.field? label with
  | none => simp
  | some field =>
      cases given : field.tone with
      | none => simp [Field.ownTone, given]
      | some tone => simp [Field.ownTone, given, tone?_of_field? first given]

/-- Every field has the tone that is found under its label exactly if fields of one label have
one tone. -/
theorem forall_tone_eq_iff :
    (∀ field ∈ part.fields, part.tone field.label = field.ownTone) ↔
      ∀ field ∈ part.fields, ∀ other ∈ part.fields, field.label = other.label →
        field.ownTone = other.ownTone := by
  constructor
  · intro own field member other among same
    rw [← own field member, ← own other among, same]
  · intro agree field member
    change (part.tone? field.label).getD .plain = field.ownTone
    cases found : part.tone? field.label with
    | none => simp [Field.ownTone, tone_eq_none_of_tone? found member rfl]
    | some tone =>
        obtain ⟨other, among, same, given⟩ := exists_of_tone? found
        rw [agree field member other among same.symm, Field.ownTone, given]

/-! ## What is painted -/

/-- A section with each value painted in a tone that is chosen field by field. -/
def formatIn (toneOf : Field → Tone) (colors : Bool) (part : Section) : String :=
  Style.paint colors [.cyan, .bold] (part.title ++ ":") ++
    String.join (part.fields.map fun field =>
      "\n\t" ++ Style.paint colors [.bold] field.label ++ ": " ++
        Style.paint colors (Style.ofTone (toneOf field)) field.value)

theorem format_eq_formatIn (colors : Bool) (part : Section) :
    part.format colors = part.formatIn (fun field => part.tone field.label) colors := rfl

theorem formatIn_congr {first second : Field → Tone} (colors : Bool)
    (same : ∀ field ∈ part.fields, first field = second field) :
    part.formatIn first colors = part.formatIn second colors := by
  rw [formatIn, formatIn, List.map_congr_left fun field member => by rw [same field member]]

end Section

namespace Style

def opening (tone : Tone) : List Char :=
  (String.join ((ofTone tone).map (sequence ·.code))).toList

def closing (tone : Tone) : List Char := if tone = .plain then [] else (sequence 0).toList

theorem toList_paint (tone : Tone) (value : String) :
    (paint true (ofTone tone) value).toList = opening tone ++ value.toList ++ closing tone := by
  cases tone <;> simp [paint, ofTone, opening, closing]

/-- Behind a value the text is over or the next row begins. -/
def EndsRow (rest : List Char) : Prop := rest.takeWhile (· != '\n') = []

/-- The first row of a painted value. -/
theorem takeWhile_painted (tone : Tone) (value : List Char) {rest : List Char}
    (ends : EndsRow rest) :
    (opening tone ++ value ++ closing tone ++ rest).takeWhile (· != '\n') =
      opening tone ++
        if '\n' ∈ value then value.takeWhile (· != '\n') else value ++ closing tone := by
  have opens : ∀ char ∈ opening tone, (char != '\n') = true :=
    List.all_eq_true.1 (by cases tone <;> decide)
  have closes : ∀ char ∈ closing tone, (char != '\n') = true :=
    List.all_eq_true.1 (by cases tone <;> decide)
  rw [List.append_assoc, List.append_assoc, List.takeWhile_append_of_pos opens]
  congr 1
  split
  · rename_i several
    rw [List.takeWhile_append, if_neg]
    intro whole
    rw [← (List.takeWhile_prefix _).eq_of_length whole] at several
    exact absurd (List.all_eq_true.1 List.all_takeWhile _ several) (by decide)
  · rename_i single
    have passes : ∀ char ∈ value, (char != '\n') = true := fun char member =>
      bne_iff_ne.2 fun same => single (same ▸ member)
    rw [List.takeWhile_append_of_pos passes, List.takeWhile_append_of_pos closes, ends,
      List.append_nil]

/-- Values in a tone that shows are told from plain ones by the length of their first row. -/
theorem plain_of_painted {tone : Tone} {value rest left : List Char} (ends : EndsRow rest)
    (alsoEnds : EndsRow left)
    (same : opening tone ++ value ++ closing tone ++ rest =
      opening .plain ++ value ++ closing .plain ++ left) : tone = .plain := by
  have rows := congrArg (fun chars => (chars.takeWhile (· != '\n')).length) same
  have without : (opening .plain).length = 0 ∧ (closing .plain).length = 0 := by decide
  simp only [takeWhile_painted _ _ ends, takeWhile_painted _ _ alsoEnds, List.length_append,
    without] at rows
  have opened : (opening tone).length = 0 := by
    split at rows
    · omega
    · simp only [List.length_append, without] at rows
      omega
  revert opened
  cases tone <;> decide

/-- The tones that show are told apart by the beginnings of their control sequences. -/
theorem tone_of_marked {tone other : Tone} {behind after : List Char} (marked : tone ≠ .plain)
    (alsoMarked : other ≠ .plain) (same : opening tone ++ behind = opening other ++ after) :
    tone = other := by
  have long : ∀ tone : Tone, tone ≠ .plain → 4 ≤ (opening tone).length := by
    intro tone marked
    cases tone <;> first | exact absurd rfl marked | decide
  have begins := congrArg (List.take 4) same
  rw [List.take_append_of_le_length (long tone marked),
    List.take_append_of_le_length (long other alsoMarked)] at begins
  revert begins
  cases tone <;> cases other <;>
    first | exact absurd rfl marked | exact absurd rfl alsoMarked | decide

/-- A painted value tells its tone. -/
theorem tone_of_painted {tone other : Tone} {value rest left : List Char} (ends : EndsRow rest)
    (alsoEnds : EndsRow left)
    (same : opening tone ++ value ++ closing tone ++ rest =
      opening other ++ value ++ closing other ++ left) : tone = other := by
  by_cases plain : other = .plain
  · subst plain
    exact plain_of_painted ends alsoEnds same
  by_cases alsoPlain : tone = .plain
  · subst alsoPlain
    exact (plain_of_painted alsoEnds ends same.symm).symm
  · simp only [List.append_assoc] at same
    exact tone_of_marked alsoPlain plain same

end Style

namespace Section

open Style

variable {part : Section} {first second : Field → Tone}

def cell (tone : Tone) (field : Field) : List Char :=
  ("\n\t" ++ paint true [.bold] field.label ++ ": " ++ paint true (ofTone tone) field.value).toList

theorem cell_append (tone : Tone) (field : Field) (rest : List Char) :
    cell tone field ++ rest = ("\n\t" ++ paint true [.bold] field.label ++ ": ").toList ++
      (opening tone ++ field.value.toList ++ closing tone ++ rest) := by
  rw [cell, String.toList_append, toList_paint, List.append_assoc]

theorem toList_formatIn (toneOf : Field → Tone) (part : Section) :
    (part.formatIn toneOf true).toList =
      (paint true [.cyan, .bold] (part.title ++ ":")).toList ++
        part.fields.flatMap fun field => cell (toneOf field) field := by
  rw [formatIn, String.toList_append, String.toList_join, List.flatMap_map]
  rfl

theorem endsRow_cells (toneOf : Field → Tone) (fields : List Field) :
    EndsRow (fields.flatMap fun field => cell (toneOf field) field) := by
  cases fields with
  | nil => rfl
  | cons field fields => simp [EndsRow, cell]

theorem tone_of_cells {fields : List Field}
    (same : (fields.flatMap fun field => cell (first field) field) =
      fields.flatMap fun field => cell (second field) field) :
    ∀ field ∈ fields, first field = second field := by
  induction fields with
  | nil => simp
  | cons field fields ih =>
      rw [List.flatMap_cons, List.flatMap_cons, cell_append, cell_append,
        List.append_cancel_left_eq] at same
      have here : first field = second field :=
        tone_of_painted (endsRow_cells first fields) (endsRow_cells second fields) same
      rw [here, List.append_cancel_left_eq] at same
      exact List.forall_mem_cons.2 ⟨here, ih same⟩

/-- On a terminal that shows colours, a section tells the tone that each value is painted in. -/
theorem formatIn_eq_iff :
    part.formatIn first true = part.formatIn second true ↔
      ∀ field ∈ part.fields, first field = second field := by
  constructor
  · intro same
    have cells := congrArg String.toList same
    rw [toList_formatIn, toList_formatIn, List.append_cancel_left_eq] at cells
    exact tone_of_cells cells
  · exact formatIn_congr true

/-- Every value is painted in its own tone exactly if fields of one label have one tone. -/
theorem format_eq_iff :
    part.format true = part.formatIn Field.ownTone true ↔
      ∀ field ∈ part.fields, ∀ other ∈ part.fields, field.label = other.label →
        field.ownTone = other.ownTone := by
  rw [format_eq_formatIn, formatIn_eq_iff, forall_tone_eq_iff]

/-! ## Sections in the making -/

/-- In a section that calls have built, a label leads to the value of the first field that was
appended with it, and to the first tone that was given to such a field.  The two belong to one
field unless that first field was given no tone and a later one was given one that shows.
Every value is painted in its own tone exactly if no label recurs with another tone. -/
theorem highlights_of_calls (title : String) (calls : List Call) :
    (∀ label,
      (built title calls).value? label =
          ((calls.map Call.appended).find? (·.label = label)).map (·.value) ∧
        (built title calls).tone label =
          ((calls.map Call.appended).findSome? fun field =>
            if field.label = label then field.tone else none).getD .plain ∧
        ((built title calls).tone label =
            (((calls.map Call.appended).find? (·.label = label)).map Field.ownTone).getD .plain ↔
          (∃ field, (calls.map Call.appended).find? (·.label = label) = some field ∧
              field.tone ≠ none) ∨
            (built title calls).tone label = .plain)) ∧
      ((built title calls).format true = (built title calls).formatIn Field.ownTone true ↔
        ∀ call ∈ calls, ∀ other ∈ calls, call.appended.label = other.appended.label →
          call.appended.ownTone = other.appended.ownTone) := by
  constructor
  · intro label
    have lookup := @tone_eq_iff (built title calls) label
    rw [field?, fields_built] at lookup
    refine ⟨?_, ?_, lookup⟩
    · rw [value?, fields_built]
    · rw [tone, fields_built]
  · rw [format_eq_iff, fields_built]
    simp only [List.forall_mem_map]

/-- A plain field in front of a toned one of the same label is found with the tone of the other
one, and is painted in it. -/
theorem not_own_highlight_of_repeated_label :
    let calls : List Call :=
      [.field "CRL Status" "Valid", .tonedField "CRL Status" "Revoked by x" .bad]
    let part := built "Debugging" calls
    part.value? "CRL Status" = some "Valid" ∧ part.tone "CRL Status" = .bad ∧
      (calls.map Call.appended).find? (·.label = "CRL Status") =
        some ⟨"CRL Status", "Valid", none⟩ ∧
      part.format true ≠ part.formatIn Field.ownTone true := by
  decide

end Section

namespace Inspection

/-- No section of an inspection has a label twice, so that each outcome is shown in its own
tone and nothing else is painted. -/
theorem format_eq_own (inspection : Inspection) (colors : Bool) {part : Section}
    (member : part ∈ inspection.report.sections) :
    part.format colors = part.formatIn Field.ownTone colors := by
  have distinct : ∀ entry ∈ outline, entry.2.Nodup := by decide
  have nodup : (part.fields.map Field.label).Nodup := by
    apply distinct (part.title, part.fields.map Field.label)
    rw [← outline_report inspection]
    exact List.mem_map.2 ⟨part, member, rfl⟩
  rw [Section.format_eq_formatIn]
  apply Section.formatIn_congr
  rw [Section.forall_tone_eq_iff]
  intro field among other alsoAmong same
  rw [List.inj_on_of_nodup_map nodup among alsoAmong same]

end Inspection

end CertScope
