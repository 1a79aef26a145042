import CertScope.Pem.Bundle
import CertScope.Proofs.Pem.Marker
import CertScope.Proofs.Text.Ascii

/-!
# Framed blocks

A framed block is written with hyphens in its markers only.  Both readers of texts then
agree on it: the cut of a bundle gives back exactly its text, whatever stands around it,
and the reader of frames gives back its parts, unless the text in front of it ends in the
midst of a marker.
-/

namespace CertScope.Pem

open Bytes

namespace Frame

/-- What the body of a frame stands for: Base64 with blanks anywhere, below header lines
that all have a colon. -/
def contents? (frame : Frame) : Option Bytes :=
  (Utf8.decode? frame.body).bind fun symbols =>
    (Base64.decode (ofText (String.ofList (Text.dropBlanks symbols.toList)))).toOption.bind
      fun contents => (Utf8.decode? frame.headers).bind fun headers =>
        if (badHeader? headers).isNone then some contents else none

variable {frame : Frame} {decoded : Block} {label : String}

theorem contents?_eq_some {contents : Bytes} :
    frame.contents? = some contents ↔ ∃ symbols, Utf8.decode frame.body = .ok symbols ∧
      Base64.decode (ofText (String.ofList (Text.dropBlanks symbols.toList))) = .ok contents ∧
        ∃ headers, Utf8.decode frame.headers = .ok headers ∧ badHeader? headers = none := by
  simp only [contents?, Utf8.decode?, Option.bind_eq_some_iff, Outcome.toOption_eq_some,
    Option.ite_none_right_eq_some, Option.isNone_iff_eq_none, Option.some.injEq]
  constructor
  · rintro ⟨symbols, read, contents, based, headers, headed, good, rfl⟩
    exact ⟨symbols, read, based, headers, headed, good⟩
  · rintro ⟨symbols, read, based, headers, headed, good⟩
    exact ⟨symbols, read, contents, based, headers, headed, good, rfl⟩

theorem decode_of_labels (opening : Utf8.decode frame.opening = .ok label)
    (closing : Utf8.decode frame.closing = .ok label) (filled : label ≠ "") :
    frame.decode = .ok decoded ↔
      label = decoded.label ∧ frame.contents? = some decoded.contents := by
  have nonempty : label.isEmpty = false := by
    simpa using filled
  simp only [decode, textOf, opening, closing, nonempty, Outcome.bind_eq_ok,
    Outcome.mapError_eq_ok, Except.ok.injEq, exists_eq_left', Bool.false_eq_true, if_false, ne_eq,
    not_true_eq_false, contents?_eq_some]
  constructor
  · rintro ⟨symbols, read, contents, based, headers, headed, verdict⟩
    split at verdict
    · cases verdict
    · rename_i good
      obtain rfl := Except.ok.inj verdict
      exact ⟨rfl, symbols, read, based, headers, headed, good⟩
  · rintro ⟨rfl, symbols, read, based, headers, headed, good⟩
    refine ⟨symbols, read, decoded.contents, based, headers, headed, ?_⟩
    rw [good]
    rfl

/-- A result shows that the tests in front of it were passed: same, filled labels. -/
theorem labels_of_decode (decodes : frame.decode = .ok decoded) :
    Utf8.decode frame.opening = .ok decoded.label ∧
      Utf8.decode frame.closing = .ok decoded.label ∧ decoded.label ≠ "" := by
  have steps := decodes
  rw [decode, Outcome.bind_eq_ok] at steps
  obtain ⟨opening, opened, steps⟩ := steps
  rw [textOf, Outcome.mapError_eq_ok] at opened
  by_cases blank : opening.isEmpty
  · simp only [blank, if_true, Outcome.bind_eq_ok, Outcome.throw_eq_ok, false_and,
      exists_false] at steps
  have nonempty : opening ≠ "" := by simpa using blank
  simp only [if_neg blank] at steps
  obtain ⟨closing, closed, steps⟩ := Outcome.bind_eq_ok.1 steps
  rw [textOf, Outcome.mapError_eq_ok] at closed
  by_cases same : opening = closing
  · subst same
    obtain ⟨rfl, -⟩ := (decode_of_labels opened closed nonempty).1 decodes
    exact ⟨opened, closed, nonempty⟩
  · simp only [same, ne_eq, not_false_eq_true, if_true] at steps
    split at steps
    · cases steps
    · cases steps

/-- A frame decodes exactly when both lines carry the same label and the body stands for
something. -/
theorem decode_eq_ok_iff :
    frame.decode = .ok decoded ↔ Utf8.decode frame.opening = .ok decoded.label ∧
      Utf8.decode frame.closing = .ok decoded.label ∧ decoded.label ≠ "" ∧
        frame.contents? = some decoded.contents := by
  constructor
  · intro decodes
    obtain ⟨opened, closed, filled⟩ := labels_of_decode decodes
    exact ⟨opened, closed, filled, ((decode_of_labels opened closed filled).1 decodes).2⟩
  · rintro ⟨opened, closed, filled, held⟩
    exact (decode_of_labels opened closed filled).2 ⟨rfl, held⟩

end Frame

/-! ## The label of certificates -/

theorem ascii_certificateLabel : ∀ char ∈ certificateLabel.toList, char.toNat < 0x80 := by
  have listed : certificateLabel.toList.all (·.toNat < 0x80) = true := by decide
  intro char member
  exact of_decide_eq_true (List.all_eq_true.1 listed char member)

theorem certificateLabel_bytes :
    ofText certificateLabel = [67, 69, 82, 84, 73, 70, 73, 67, 65, 84, 69] :=
  ofText_of_lt ascii_certificateLabel

theorem decode_certificateLabel {bytes : Bytes} :
    Utf8.decode bytes = .ok certificateLabel ↔ bytes = ofText certificateLabel := by
  constructor
  · intro decoded
    exact Utf8.eq_ofText_of_decode decoded ascii_certificateLabel
  · rintro rfl
    rw [certificateLabel_bytes, Utf8.decode_ascii (by decide)]
    rfl

/-! ## Closing lines -/

theorem closeSpan_of_some {label rest tail : Bytes}
    (found : breakOn? dashes tail = some (label, dashes ++ rest)) :
    closeSpan (endMarker ++ tail) = (endMarker ++ label ++ dashes, rest) := by
  unfold closeSpan
  rw [List.drop_left, found]
  simp only [List.drop_left]

theorem closeSpan_of_none {tail : Bytes} (missed : breakOn? dashes tail = none) :
    closeSpan (endMarker ++ tail) = (endMarker ++ tail, []) := by
  unfold closeSpan
  rw [List.drop_left, missed]

/-! ## Blocks -/

def hyphen : UInt8 := 45

def IsLineBreak (bytes : Bytes) : Prop := bytes = [10] ∨ bytes = [13] ∨ bytes = [13, 10]

theorem isLineBreak_feed : IsLineBreak [10] := Or.inl rfl

/-- The parts of a block in which hyphens stand in the markers only. -/
structure FramedBlock where
  opening : Bytes
  lineBreak : Bytes
  body : Bytes
  closing : Bytes
  opening_plain : hyphen ∉ opening
  isLineBreak : IsLineBreak lineBreak
  body_plain : hyphen ∉ body
  closing_plain : hyphen ∉ closing

namespace FramedBlock

/-- The text of a block, from its opening marker through the dashes of its closing line. -/
def text (block : FramedBlock) : Bytes :=
  beginMarker ++ (block.opening ++ (dashes ++ (block.lineBreak ++ (block.body ++
    (endMarker ++ (block.closing ++ dashes))))))

/-- The parts that are read: blanks in front of the body are passed over. -/
def frame (block : FramedBlock) : Frame :=
  let parts := splitHeaders (skipBlank block.body)
  ⟨block.opening, parts.1, parts.2, block.closing⟩

variable (block : FramedBlock) {filler marker rest : Bytes}

theorem text_append (rest : Bytes) :
    block.text ++ rest = beginMarker ++ (block.opening ++ (dashes ++ (block.lineBreak ++
      block.body ++ (endMarker ++ (block.closing ++ (dashes ++ rest)))))) := by
  simp only [text, List.append_assoc]

/-! ## No marker inside -/

theorem lineBreak_head? : ∃ byte, block.lineBreak.head? = some byte ∧ (byte = 10 ∨ byte = 13) := by
  rcases block.isLineBreak with single | single | pair
  · exact ⟨10, by rw [single]; rfl, Or.inl rfl⟩
  · exact ⟨13, by rw [single]; rfl, Or.inr rfl⟩
  · exact ⟨13, by rw [pair]; rfl, Or.inr rfl⟩

theorem lineBreak_plain : hyphen ∉ block.lineBreak := by
  rcases block.isLineBreak with single | single | pair
  · rw [single]; decide
  · rw [single]; decide
  · rw [pair]; decide

theorem plain_of_hyphen {part : Bytes} (begins : marker.head? = some hyphen)
    (plain : hyphen ∉ part) : ∀ byte ∈ marker.head?, byte ∉ part := by
  intro byte leading
  rw [begins] at leading
  rwa [← Option.some.inj leading]

/-- A marker longer than the dashes that holds no line break does not stand between the
opening marker and the closing one. -/
theorem not_infix_inside (begins : marker.head? = some hyphen)
    (long : dashes.length < marker.length)
    (noBreak : 10 ∉ marker ∧ 13 ∉ marker) :
    ¬ marker <:+: block.opening ++ (dashes ++ (block.lineBreak ++ block.body)) := by
  have filled : marker ≠ [] := by
    rintro rfl
    simp at begins
  have foreign := plain_of_hyphen begins block.opening_plain
  apply not_infix_append (Passes.of_head foreign filled _)
  apply not_infix_append
  · constructor
    · intro inside
      exact absurd inside.length_le (Nat.not_le.2 long)
    · obtain ⟨first, leading, either⟩ := block.lineBreak_head?
      apply Apart.of_next
      intro byte next
      rw [List.head?_append, leading, Option.some_or] at next
      obtain rfl := Option.some.inj next
      rcases either with rfl | rfl
      · exact noBreak.1
      · exact noBreak.2
  · apply not_infix_of_head (plain_of_hyphen begins ?_) filled
    rw [List.mem_append, not_or]
    exact ⟨block.lineBreak_plain, block.body_plain⟩

/-- The part of a block between the dashes that it begins with and those that it ends
with. -/
def inside : Bytes :=
  beginMarker.drop dashes.length ++ (block.opening ++ (dashes ++ block.lineBreak ++ (block.body ++
    (endMarker ++ block.closing))))

theorem text_eq_inside (rest : Bytes) :
    block.text ++ rest = dashes ++ (block.inside ++ (dashes ++ rest)) := by
  have marker : beginMarker = dashes ++ beginMarker.drop dashes.length := rfl
  rw [text_append, marker]
  simp only [inside, List.append_assoc]

/-- No block opens in it, nor at its end. -/
theorem passes_inside (rest : Bytes) : Passes beginMarker block.inside rest := by
  have plain {part : Bytes} (plain : hyphen ∉ part) (rest : Bytes) : Passes beginMarker part rest :=
    Passes.of_head (plain_of_hyphen rfl plain) (by decide) rest
  have breaks (rest : Bytes) : Passes beginMarker (dashes ++ block.lineBreak) rest := by
    rcases block.isLineBreak with single | single | pair
    · rw [single]
      exact ⟨by decide, Apart.of_take (by decide) rest⟩
    · rw [single]
      exact ⟨by decide, Apart.of_take (by decide) rest⟩
    · rw [pair]
      exact ⟨by decide, Apart.of_take (by decide) rest⟩
  have ended (rest : Bytes) : Passes beginMarker endMarker rest :=
    ⟨by decide, Apart.of_take (by decide) rest⟩
  refine (plain (by decide) _).append ?_
  refine (plain block.opening_plain _).append ?_
  refine (breaks _).append ?_
  refine (plain block.body_plain _).append ?_
  exact (ended _).append (plain block.closing_plain rest)

/-! ## The cut of a bundle -/

theorem beginMarker_unbordered : Unbordered beginMarker := by decide

theorem endMarker_unbordered : Unbordered endMarker := by decide

theorem breakOn?_beginMarker (absent : ¬ beginMarker <:+: filler) (rest : Bytes) :
    breakOn? beginMarker (filler ++ (beginMarker ++ rest)) = some (filler, beginMarker ++ rest) :=
  breakOn?_marker (Passes.of_marker beginMarker_unbordered absent _) (by decide)

def front : Bytes :=
  beginMarker ++ (block.opening ++ (dashes ++ (block.lineBreak ++ block.body)))

theorem not_infix_front : ¬ endMarker <:+: block.front := by
  apply not_infix_append ⟨by decide, Apart.of_take (by decide) _⟩
  exact block.not_infix_inside rfl (by decide) (by decide)

theorem breakOn?_endMarker (rest : Bytes) :
    breakOn? endMarker (block.front ++ (endMarker ++ rest)) =
      some (block.front, endMarker ++ rest) :=
  breakOn?_marker (Passes.of_marker endMarker_unbordered block.not_infix_front _) (by decide)

theorem breakOn?_inside : breakOn? beginMarker (block.front.drop beginMarker.length) = none := by
  rw [front, List.drop_left, breakOn?_eq_none_iff]
  exact block.not_infix_inside rfl (by decide) (by decide)

theorem closeSpan_closing (rest : Bytes) :
    closeSpan (endMarker ++ (block.closing ++ (dashes ++ rest))) =
      (endMarker ++ block.closing ++ dashes, rest) := by
  have foreign : ∀ byte ∈ dashes.head?, byte ∉ block.closing :=
    plain_of_hyphen rfl block.closing_plain
  have found : breakOn? dashes (block.closing ++ (dashes ++ rest)) =
      some (block.closing, dashes ++ rest) :=
    breakOn?_marker (Passes.of_head foreign (by decide) _) (by decide)
  exact closeSpan_of_some found

/-- A block is cut out exactly, and the cut goes on behind it. -/
theorem nextSpan?_text (absent : ¬ beginMarker <:+: filler) (rest : Bytes) :
    nextSpan? (filler ++ (block.text ++ rest)) = some (some block.text, rest) := by
  have whole : block.text ++ rest =
      block.front ++ (endMarker ++ (block.closing ++ (dashes ++ rest))) := by
    simp only [text, front, List.append_assoc]
  have opened : breakOn? beginMarker (filler ++ (block.text ++ rest)) =
      some (filler, block.text ++ rest) := by
    rw [text_append]
    exact breakOn?_beginMarker absent _
  have ended : breakOn? endMarker (block.text ++ rest) =
      some (block.front, endMarker ++ (block.closing ++ (dashes ++ rest))) := by
    rw [whole]
    exact block.breakOn?_endMarker _
  have span : block.front ++ (endMarker ++ block.closing ++ dashes) = block.text := by
    simp only [text, front, List.append_assoc]
  simp only [nextSpan?, opened, ended, breakOn?_inside, closeSpan_closing, span]

/-! ## The reader of frames -/

theorem skipBlank_payload (rest : Bytes) :
    skipBlank (block.lineBreak ++ block.body ++ (endMarker ++ rest)) =
      skipBlank block.body ++ (endMarker ++ rest) := by
  have stops : skipBlank (endMarker ++ rest) = endMarker ++ rest := rfl
  have passes : skipBlank (block.lineBreak ++ block.body ++ (endMarker ++ rest)) =
      skipBlank (block.body ++ (endMarker ++ rest)) := by
    rcases block.isLineBreak with single | single | pair
    · rw [single]; rfl
    · rw [single]; rfl
    · rw [pair]; rfl
  rw [passes]
  unfold skipBlank at stops ⊢
  rw [List.dropWhile_append]
  split
  · rename_i blank
    rw [List.isEmpty_iff.1 blank, stops, List.nil_append]
  · rfl

theorem skipBlank_plain {bytes : Bytes} (plain : hyphen ∉ bytes) : hyphen ∉ skipBlank bytes :=
  fun member => plain ((List.dropWhile_sublist _).subset member)

/-- The parts of a block are read back, and what is left starts behind the blanks that
follow the block. -/
theorem read?_text (absent : ¬ beginMarker <:+: filler) (settled : IsSettled beginMarker filler)
    (rest : Bytes) :
    Frame.read? (filler ++ (block.text ++ rest)) = some (block.frame, skipBlank rest) := by
  have opening (rest : Bytes) : cutAt? dashes (block.opening ++ (dashes ++ rest)) =
      some (block.opening, rest) :=
    cutAt?_of_head (plain_of_hyphen rfl block.opening_plain) (by decide) rest
  have inner (rest : Bytes) : cutAt? endMarker (skipBlank block.body ++ (endMarker ++ rest)) =
      some (skipBlank block.body, rest) :=
    cutAt?_of_head (plain_of_hyphen rfl (skipBlank_plain block.body_plain)) (by decide) rest
  have closing (rest : Bytes) : cutAt? dashes (block.closing ++ (dashes ++ rest)) =
      some (block.closing, rest) :=
    cutAt?_of_head (plain_of_hyphen rfl block.closing_plain) (by decide) rest
  rw [text_append]
  simp only [Frame.read?, cutAt?_marker absent settled, opening, skipBlank_payload, inner, closing,
    Option.bind_eq_bind, Option.bind_some, Option.pure_def]
  rfl

/-! ## What a block holds -/

def contents? : Option Bytes := block.frame.contents?

/-- The certificate that a block holds: its contents, if both lines name a certificate. -/
def certificate? : Option Bytes :=
  if block.opening = ofText certificateLabel ∧ block.closing = ofText certificateLabel then
    block.contents?
  else none

theorem decodeFirst_text : decodeFirst block.text = block.frame.decode := by
  have unopened : ¬ beginMarker <:+: ([] : Bytes) := by decide
  have read := block.read?_text unopened (by decide) []
  rw [List.nil_append, List.append_nil] at read
  rw [decodeFirst, read]

theorem certificate?_eq_some {contents : Bytes} :
    block.certificate? = some contents ↔
      block.frame.decode = .ok ⟨certificateLabel, contents⟩ := by
  rw [Frame.decode_eq_ok_iff, certificate?, Option.ite_none_right_eq_some]
  change _ ↔ Utf8.decode block.opening = _ ∧ Utf8.decode block.closing = _ ∧ _
  rw [decode_certificateLabel, decode_certificateLabel, and_assoc, contents?]
  simp only [ne_eq, show certificateLabel ≠ "" by decide, not_false_eq_true, true_and]

theorem certificate?_of_decode {decoded : Block} (decodes : block.frame.decode = .ok decoded) :
    block.certificate? =
      if decoded.label = certificateLabel then some decoded.contents else none := by
  ext contents
  rw [certificate?_eq_some, decodes, Except.ok.injEq, Option.ite_none_right_eq_some,
    Option.some.injEq]
  constructor
  · rintro rfl
    exact ⟨rfl, rfl⟩
  · rintro ⟨named, rfl⟩
    rw [← named]

theorem certificate?_of_error {fault : Fault} (refused : block.frame.decode = .error fault) :
    block.certificate? = none := by
  by_contra some_held
  obtain ⟨contents, held⟩ := Option.ne_none_iff_exists'.1 some_held
  rw [certificate?_eq_some, refused] at held
  cases held

theorem certificateOf?_text : certificateOf? block.text = block.certificate? := by
  rw [certificateOf?, decodeFirst_text]
  cases decodes : block.frame.decode with
  | ok decoded => rw [block.certificate?_of_decode decodes]
  | error fault => rw [block.certificate?_of_error decodes]

end FramedBlock

end CertScope.Pem
