import CertScope.Proofs.Pem.Frame
import CertScope.Proofs.Text.Base64

/-!
# Certificates written as text

The complete text of a certificate: an opening line, the Base64 form of the contents on
lines of any lengths, and a closing line with its dashes.  Lines end in any of the three
line breaks.  Such a text is a framed block, and it holds the contents that it was written
for.
-/

namespace CertScope.Pem

open Bytes

/-- A line of a body: some symbols and the break behind them. -/
structure BodyLine where
  symbols : Bytes
  lineBreak : Bytes
  filled : symbols ≠ []
  isLineBreak : IsLineBreak lineBreak

def BodyLine.text (line : BodyLine) : Bytes := line.symbols ++ line.lineBreak

/-- The contents of a certificate and the lines on which they are written. -/
structure WrittenCertificate where
  contents : Bytes
  lineBreak : Bytes
  isLineBreak : IsLineBreak lineBreak
  lines : List BodyLine
  spells : lines.flatMap BodyLine.symbols = Base64.encode contents

theorem IsLineBreak.mem {bytes : Bytes} (isLineBreak : IsLineBreak bytes) {byte : UInt8}
    (member : byte ∈ bytes) : byte = 10 ∨ byte = 13 := by
  rcases isLineBreak with rfl | rfl | rfl
  · left
    simpa using member
  · right
    simpa using member
  · simpa [or_comm] using member

/-! ## Blanks -/

theorem isBlank_of_isSymbol {byte : UInt8} (isSymbol : Base64.IsSymbol byte) :
    Text.isBlank (Char.ofNat byte.toNat) = false := by
  obtain ⟨above, below, -⟩ := isSymbol.bounds
  have code : (Char.ofNat byte.toNat).toNat = byte.toNat :=
    toNat_ofNat_of_lt (Nat.lt_trans below (by decide))
  simp only [Text.isBlank, code]
  grind

theorem dropBlanks_symbols {symbols : Bytes} (known : ∀ byte ∈ symbols, Base64.IsSymbol byte) :
    Text.dropBlanks (asciiChars symbols) = asciiChars symbols := by
  rw [Text.dropBlanks, List.filter_eq_self]
  intro char member
  obtain ⟨byte, among, rfl⟩ := List.mem_map.1 member
  simp [isBlank_of_isSymbol (known byte among)]

theorem dropBlanks_lineBreak {bytes : Bytes} (isLineBreak : IsLineBreak bytes) :
    Text.dropBlanks (asciiChars bytes) = [] := by
  rcases isLineBreak with rfl | rfl | rfl
  all_goals decide

theorem dropBlanks_append (first second : List Char) :
    Text.dropBlanks (first ++ second) = Text.dropBlanks first ++ Text.dropBlanks second :=
  List.filter_append first second

/-- Without its blanks a body is the symbols on its lines. -/
theorem dropBlanks_lines {lines : List BodyLine}
    (known : ∀ byte ∈ lines.flatMap BodyLine.symbols, Base64.IsSymbol byte) :
    Text.dropBlanks (asciiChars (lines.flatMap BodyLine.text)) =
      asciiChars (lines.flatMap BodyLine.symbols) := by
  induction lines with
  | nil => rfl
  | cons line lines ih =>
      rw [List.flatMap_cons] at known
      have later := ih fun byte member => known byte (List.mem_append_right _ member)
      have here : Text.dropBlanks (asciiChars line.symbols) = asciiChars line.symbols :=
        dropBlanks_symbols fun byte member => known byte (List.mem_append_left _ member)
      simp only [List.flatMap_cons, BodyLine.text, asciiChars, List.map_append,
        dropBlanks_append] at here later ⊢
      have ends := dropBlanks_lineBreak line.isLineBreak
      rw [asciiChars] at ends
      rw [here, ends, later, List.append_nil]

/-! ## No empty line -/

/-- A marker of line breaks that is longer than each of them stands in no body. -/
theorem not_infix_lines {marker : Bytes} (filled : marker ≠ [])
    (breaks : ∀ byte ∈ marker, byte = 10 ∨ byte = 13)
    (long : ∀ bytes, IsLineBreak bytes → ¬ marker <:+: bytes) {lines : List BodyLine}
    (known : ∀ byte ∈ lines.flatMap BodyLine.symbols, Base64.IsSymbol byte) :
    ¬ marker <:+: lines.flatMap BodyLine.text := by
  have foreign {byte : UInt8} (isSymbol : Base64.IsSymbol byte) : byte ∉ marker := by
    intro member
    obtain ⟨above, -⟩ := isSymbol.bounds
    rcases breaks byte member with rfl | rfl
    · exact absurd above (by decide)
    · exact absurd above (by decide)
  induction lines with
  | nil => simpa using filled
  | cons line lines ih =>
      rw [List.flatMap_cons] at known
      have knownHere byte (member : byte ∈ line.symbols) : Base64.IsSymbol byte :=
        known byte (List.mem_append_left _ member)
      have knownLater byte (member : byte ∈ lines.flatMap BodyLine.symbols) :
          Base64.IsSymbol byte := known byte (List.mem_append_right _ member)
      rw [List.flatMap_cons]
      refine not_infix_append ⟨?_, ?_⟩ (ih knownLater)
      · refine not_infix_append (Passes.of_getLast ?_ ?_ _) (long line.lineBreak line.isLineBreak)
        · intro stands
          obtain ⟨byte, member⟩ := List.exists_mem_of_ne_nil marker filled
          exact foreign (knownHere byte (stands.subset member)) member
        · intro byte last
          exact foreign (knownHere byte (List.mem_of_getLast? last))
      -- what follows the break of a line is a symbol, since no line is empty
      · apply Apart.of_next
        intro byte leading
        cases lines with
        | nil => cases leading
        | cons next others =>
            rw [List.flatMap_cons, BodyLine.text, List.append_assoc,
              List.head?_append_of_ne_nil _ next.filled] at leading
            apply foreign
            apply knownLater
            exact List.mem_flatMap.2 ⟨next, List.mem_cons_self, List.mem_of_mem_head? leading⟩

theorem splitHeaders_lines {lines : List BodyLine}
    (known : ∀ byte ∈ lines.flatMap BodyLine.symbols, Base64.IsSymbol byte) :
    splitHeaders (lines.flatMap BodyLine.text) = ([], lines.flatMap BodyLine.text) := by
  have absent {marker : Bytes} (filled : marker ≠ [])
      (breaks : ∀ byte ∈ marker, byte = 10 ∨ byte = 13)
      (long : ¬ marker <:+: [10] ∧ ¬ marker <:+: [13] ∧ ¬ marker <:+: [13, 10]) :
      cutAt? marker (lines.flatMap BodyLine.text) = none := by
    rw [cutAt?, Option.map_eq_none_iff]
    apply seek?_eq_none
    apply not_infix_lines filled breaks ?_ known
    rintro bytes (rfl | rfl | rfl)
    · exact long.1
    · exact long.2.1
    · exact long.2.2
  rw [splitHeaders, absent (by decide) (by simp) (by decide),
    absent (by decide) (by simp) (by decide)]
  rfl

/-! ## The block -/

namespace WrittenCertificate

variable (written : WrittenCertificate)

theorem isSymbol {byte : UInt8} (member : byte ∈ written.lines.flatMap BodyLine.symbols) :
    Base64.IsSymbol byte := by
  rw [written.spells] at member
  exact Base64.isSymbol_of_mem_encode member

theorem mem_body {byte : UInt8} (member : byte ∈ written.lines.flatMap BodyLine.text) :
    Base64.IsSymbol byte ∨ byte = 10 ∨ byte = 13 := by
  obtain ⟨line, among, inside⟩ := List.mem_flatMap.1 member
  rcases List.mem_append.1 inside with symbol | blank
  · left
    exact written.isSymbol (List.mem_flatMap.2 ⟨line, among, symbol⟩)
  · right
    exact line.isLineBreak.mem blank

theorem label_plain : hyphen ∉ ofText certificateLabel := by
  rw [certificateLabel_bytes]
  decide

theorem body_plain : hyphen ∉ written.lines.flatMap BodyLine.text := by
  intro member
  rcases written.mem_body member with isSymbol | feed | carriage
  · exact absurd rfl isSymbol.bounds.2.2
  · exact absurd feed (by decide)
  · exact absurd carriage (by decide)

theorem isAscii_body : IsAscii (written.lines.flatMap BodyLine.text) := by
  intro byte member
  rcases written.mem_body member with isSymbol | rfl | rfl
  · exact UInt8.lt_iff_toNat_lt.2 isSymbol.bounds.2.1
  · decide
  · decide

def block : FramedBlock where
  opening := ofText certificateLabel
  lineBreak := written.lineBreak
  body := written.lines.flatMap BodyLine.text
  closing := ofText certificateLabel
  opening_plain := label_plain
  isLineBreak := written.isLineBreak
  body_plain := written.body_plain
  closing_plain := label_plain

theorem skipBlank_body :
    skipBlank (written.lines.flatMap BodyLine.text) = written.lines.flatMap BodyLine.text := by
  cases shape : written.lines with
  | nil => rfl
  | cons line lines =>
      obtain ⟨byte, symbols, spelled⟩ := List.exists_cons_of_ne_nil line.filled
      have isSymbol : Base64.IsSymbol byte := written.isSymbol (by
        rw [shape, List.flatMap_cons, spelled]
        exact List.mem_cons_self)
      rw [List.flatMap_cons, BodyLine.text, spelled]
      apply List.dropWhile_cons_of_neg
      have above := isSymbol.bounds.1
      simp only [Bool.or_eq_true, beq_iff_eq, not_or, ← UInt8.toNat_inj]
      refine ⟨⟨⟨?_, ?_⟩, ?_⟩, ?_⟩
      all_goals
        intro same
        rw [same] at above
        exact absurd above (by decide)

/-- The block holds what it was written for. -/
theorem certificate?_block : written.block.certificate? = some written.contents := by
  have known byte (member : byte ∈ written.lines.flatMap BodyLine.symbols) :
      Base64.IsSymbol byte := written.isSymbol member
  have parts : splitHeaders (skipBlank written.block.body) = ([], written.block.body) := by
    change splitHeaders (skipBlank (written.lines.flatMap BodyLine.text)) = _
    rw [skipBlank_body, splitHeaders_lines known]
    rfl
  have ascii : IsAscii (Base64.encode written.contents) := by
    intro byte member
    exact UInt8.lt_iff_toNat_lt.2 (Base64.isSymbol_of_mem_encode member).bounds.2.1
  have held : written.block.frame.contents? = some written.contents := by
    rw [Frame.contents?_eq_some]
    refine ⟨String.ofList (asciiChars written.block.body), ?_, ?_, "", ?_, rfl⟩
    · change Utf8.decode (splitHeaders (skipBlank written.block.body)).2 = _
      rw [parts]
      exact Utf8.decode_ascii written.isAscii_body
    · have dropped : Text.dropBlanks (asciiChars written.block.body) =
          asciiChars (Base64.encode written.contents) := by
        rw [← written.spells]
        exact dropBlanks_lines known
      rw [String.toList_ofList, dropped, ofText_asciiChars ascii, Base64.decode_encode]
    · change Utf8.decode (splitHeaders (skipBlank written.block.body)).1 = _
      rw [parts]
      have empty : IsAscii [] := by decide
      exact Utf8.decode_ascii empty
  rw [FramedBlock.certificate?, if_pos ⟨rfl, rfl⟩]
  exact held

end WrittenCertificate

end CertScope.Pem
