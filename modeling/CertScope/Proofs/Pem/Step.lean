import CertScope.Proofs.Pem.Layout

/-!
# The steps of the cut

A step of the cut ends at a closing line, at the opening line of another block, or at the
end of the text for want of dashes; there is none where no block opens, or where one opens
and never ends.  All but the last kind stay within the text that they were made on, so that
they are the same in every longer text.
-/

namespace CertScope.Pem

open Bytes

variable {front before block upToEnd tail : Bytes}

/-! ## The ways of a step -/

theorem exists_behind {marker bytes before after : Bytes}
    (found : breakOn? marker bytes = some (before, after)) : ∃ rest, after = marker ++ rest := by
  obtain ⟨rest, whole⟩ := List.isPrefixOf_iff_prefix.1 (breakOn?_isPrefixOf found)
  exact ⟨rest, whole.symm⟩

/-- A block does not end within its opening marker. -/
theorem exists_inside (opened : breakOn? beginMarker front = some (before, block))
    (ended : breakOn? endMarker block = some (upToEnd, tail)) :
    ∃ inside, upToEnd = beginMarker ++ inside := by
  obtain ⟨rest, rfl⟩ := exists_behind opened
  have passes : Passes endMarker beginMarker rest := ⟨by decide, Apart.of_take (by decide) rest⟩
  rw [breakOn?_append_of_passes passes, Option.map_eq_some_iff] at ended
  obtain ⟨⟨inside, fromEnd⟩, -, parts⟩ := ended
  exact ⟨inside, (Prod.mk.inj parts).1.symm⟩

theorem nextSpan?_of_endless (opened : breakOn? beginMarker front = some (before, block))
    (absent : ¬ endMarker <:+: block) : nextSpan? front = none := by
  simp only [nextSpan?, opened, breakOn?_eq_none_iff.2 absent]

theorem nextSpan?_of_abandoned {skipped inner : Bytes}
    (opened : breakOn? beginMarker front = some (before, block))
    (ended : breakOn? endMarker block = some (upToEnd, tail))
    (again : breakOn? beginMarker (upToEnd.drop beginMarker.length) = some (skipped, inner)) :
    nextSpan? front = some (none, inner ++ tail) := by
  simp only [nextSpan?, opened, ended, again]

theorem nextSpan?_of_closed {label rest : Bytes}
    (opened : breakOn? beginMarker front = some (before, block))
    (ended : breakOn? endMarker block = some (upToEnd, endMarker ++ tail))
    (single : breakOn? beginMarker (upToEnd.drop beginMarker.length) = none)
    (closes : breakOn? dashes tail = some (label, dashes ++ rest)) :
    nextSpan? front = some (some (upToEnd ++ (endMarker ++ label ++ dashes)), rest) := by
  simp only [nextSpan?, opened, ended, single, closeSpan_of_some closes]

theorem nextSpan?_of_dangling (opened : breakOn? beginMarker front = some (before, block))
    (ended : breakOn? endMarker block = some (upToEnd, endMarker ++ tail))
    (single : breakOn? beginMarker (upToEnd.drop beginMarker.length) = none)
    (absent : ¬ dashes <:+: tail) :
    nextSpan? front = some (some (upToEnd ++ (endMarker ++ tail)), []) := by
  simp only [nextSpan?, opened, ended, single, closeSpan_of_none (breakOn?_eq_none_iff.2 absent)]

/-- Why there is no step. -/
inductive Stuck (bytes : Bytes) : Prop
  | unopened (absent : ¬ beginMarker <:+: bytes)
  | endless {before block : Bytes} (opened : breakOn? beginMarker bytes = some (before, block))
      (absent : ¬ endMarker <:+: block)

/-- How a step is made. -/
inductive Step (bytes : Bytes) : Option Bytes → Bytes → Prop
  /-- A second block opens before the first has ended. -/
  | abandoned {before block upToEnd tail skipped inner : Bytes}
      (opened : breakOn? beginMarker bytes = some (before, block))
      (ended : breakOn? endMarker block = some (upToEnd, endMarker ++ tail))
      (again : breakOn? beginMarker (upToEnd.drop beginMarker.length) = some (skipped, inner)) :
      Step bytes none (inner ++ (endMarker ++ tail))
  | closed {before block upToEnd tail label rest : Bytes}
      (opened : breakOn? beginMarker bytes = some (before, block))
      (ended : breakOn? endMarker block = some (upToEnd, endMarker ++ tail))
      (single : breakOn? beginMarker (upToEnd.drop beginMarker.length) = none)
      (closes : breakOn? dashes tail = some (label, dashes ++ rest)) :
      Step bytes (some (upToEnd ++ (endMarker ++ label ++ dashes))) rest
  /-- The closing line lacks its dashes. -/
  | dangling {before block upToEnd tail : Bytes}
      (opened : breakOn? beginMarker bytes = some (before, block))
      (ended : breakOn? endMarker block = some (upToEnd, endMarker ++ tail))
      (single : breakOn? beginMarker (upToEnd.drop beginMarker.length) = none)
      (absent : ¬ dashes <:+: tail) :
      Step bytes (some (upToEnd ++ (endMarker ++ tail))) []

theorem step_or_stuck (bytes : Bytes) :
    (∃ span rest, nextSpan? bytes = some (span, rest) ∧ Step bytes span rest) ∨
      nextSpan? bytes = none ∧ Stuck bytes := by
  cases opened : breakOn? beginMarker bytes with
  | none =>
      have absent := breakOn?_eq_none_iff.1 opened
      exact Or.inr ⟨nextSpan?_of_unopened absent, .unopened absent⟩
  | some parts =>
      obtain ⟨before, block⟩ := parts
      cases ended : breakOn? endMarker block with
      | none =>
          have absent := breakOn?_eq_none_iff.1 ended
          exact Or.inr ⟨nextSpan?_of_endless opened absent, .endless opened absent⟩
      | some parts =>
          left
          obtain ⟨upToEnd, fromEnd⟩ := parts
          obtain ⟨tail, rfl⟩ := exists_behind ended
          cases inside : breakOn? beginMarker (upToEnd.drop beginMarker.length) with
          | some parts =>
              exact ⟨_, _, nextSpan?_of_abandoned opened ended inside,
                .abandoned opened ended inside⟩
          | none =>
              cases closes : breakOn? dashes tail with
              | none =>
                  have absent := breakOn?_eq_none_iff.1 closes
                  exact ⟨_, _, nextSpan?_of_dangling opened ended inside absent,
                    .dangling opened ended inside absent⟩
              | some parts =>
                  obtain ⟨label, fromDashes⟩ := parts
                  obtain ⟨rest, rfl⟩ := exists_behind closes
                  exact ⟨_, _, nextSpan?_of_closed opened ended inside closes,
                    .closed opened ended inside closes⟩

theorem stuck_of_nextSpan? (none_found : nextSpan? front = none) : Stuck front := by
  rcases step_or_stuck front with ⟨span, rest, found, -⟩ | ⟨-, stuck⟩
  · rw [none_found] at found
    cases found
  · exact stuck

theorem step_of_nextSpan? {span : Option Bytes} {rest : Bytes}
    (found : nextSpan? front = some (span, rest)) : Step front span rest := by
  rcases step_or_stuck front with ⟨span, rest, other, step⟩ | ⟨none_found, -⟩
  · rw [found] at other
    obtain ⟨rfl, rfl⟩ := Prod.mk.inj (Option.some.inj other)
    exact step
  · rw [none_found] at found
    cases found

/-- A step takes the block that it finds out of the text and leaves what stands behind.  No
step takes less than an opening marker. -/
theorem split_of_nextSpan? {span : Option Bytes} {rest : Bytes}
    (found : nextSpan? front = some (span, rest)) :
    ∃ before, front = before ++ (span.getD [] ++ rest) ∧
      beginMarker.length ≤ (before ++ span.getD []).length := by
  cases step_of_nextSpan? found with
  | @abandoned before block upToEnd tail skipped inner opened ended again =>
      obtain ⟨inside, rfl⟩ := exists_inside opened ended
      rw [List.drop_left] at again
      refine ⟨before ++ (beginMarker ++ skipped), ?_, ?_⟩
      · rw [← breakOn?_append opened, ← breakOn?_append ended, ← breakOn?_append again]
        simp only [Option.getD_none, List.nil_append, List.append_assoc]
      · simp only [List.length_append]
        omega
  | @closed before block upToEnd tail label rest opened ended single closes =>
      obtain ⟨inside, rfl⟩ := exists_inside opened ended
      refine ⟨before, ?_, ?_⟩
      · rw [← breakOn?_append opened, ← breakOn?_append ended, ← breakOn?_append closes]
        simp only [Option.getD_some, List.append_assoc]
      · simp only [Option.getD_some, List.length_append]
        omega
  | @dangling before block upToEnd tail opened ended single absent =>
      obtain ⟨inside, rfl⟩ := exists_inside opened ended
      refine ⟨before, ?_, ?_⟩
      · rw [← breakOn?_append opened, ← breakOn?_append ended]
        simp only [Option.getD_some, List.append_nil]
      · simp only [Option.getD_some, List.length_append]
        omega

theorem not_suffix_dangling (absent : ¬ dashes <:+: tail) (upToEnd : Bytes) :
    ¬ dashes <:+ upToEnd ++ (endMarker ++ tail) := by
  intro ends
  rw [← List.append_assoc] at ends
  rcases List.suffix_or_suffix_of_suffix ends (List.suffix_append _ tail) with
    inside | ⟨label, split⟩
  · exact absent inside.isInfix
  · rw [← split, List.suffix_append_self_iff] at ends
    obtain ⟨front, whole⟩ := ends
    have last : label.getLast? = some 32 ∨ label = [] := by
      by_cases empty : label = []
      · exact Or.inr empty
      · left
        rw [← List.getLast?_append_of_ne_nil front empty, whole,
          List.getLast?_append_of_ne_nil upToEnd (by decide)]
        rfl
    rcases last with space | rfl
    · have member : (32 : UInt8) ∈ dashes := by
        rw [← split]
        exact List.mem_append_left tail (List.mem_of_getLast? space)
      exact absurd member (by decide)
    · rw [List.nil_append] at split
      exact absent ⟨[], [], by simp [split]⟩

/-! ## Texts that are gone on with -/

/-- A text that is empty or ends in a line break. -/
def EndsLine (bytes : Bytes) : Prop := ∀ byte ∈ bytes.getLast?, byte = 10 ∨ byte = 13

theorem EndsLine.of_suffix {bytes : Bytes} (ends : EndsLine front) (suffix : bytes <:+ front) :
    EndsLine bytes := by
  obtain ⟨before, rfl⟩ := suffix
  intro byte last
  apply ends
  rw [List.getLast?_append, last]
  rfl

/-- No marker without line breaks stands across the end of a line. -/
theorem EndsLine.passes {marker : Bytes} (ends : EndsLine front)
    (unbroken : 10 ∉ marker ∧ 13 ∉ marker) (absent : ¬ marker <:+: front) (back : Bytes) :
    Passes marker front back := by
  apply Passes.of_getLast absent
  intro byte last
  rcases ends byte last with rfl | rfl
  · exact unbroken.1
  · exact unbroken.2

theorem suffix_of_nextSpan? {span : Option Bytes} {rest : Bytes}
    (found : nextSpan? front = some (span, rest)) : rest <:+ front := by
  obtain ⟨before, split, -⟩ := split_of_nextSpan? found
  rw [split, ← List.append_assoc]
  exact List.suffix_append _ _

/-- A step that stays within a text is the same in every longer one. -/
theorem nextSpan?_append {span : Option Bytes} {rest : Bytes}
    (found : nextSpan? front = some (span, rest)) (closed : ∀ cut ∈ span, dashes <:+ cut)
    (back : Bytes) : nextSpan? (front ++ back) = some (span, rest ++ back) := by
  cases step_of_nextSpan? found with
  | abandoned opened ended again =>
      rw [nextSpan?_of_abandoned (breakOn?_append_right opened back)
        (breakOn?_append_right ended back) again]
      simp only [List.append_assoc]
  | closed opened ended single closes =>
      have endsLater := breakOn?_append_right ended back
      have closesLater := breakOn?_append_right closes back
      rw [List.append_assoc] at endsLater closesLater
      exact nextSpan?_of_closed (breakOn?_append_right opened back) endsLater single closesLater
  | dangling opened ended single absent =>
      exact absurd (closed _ rfl) (not_suffix_dangling absent _)

/-- A block with a closing line that lacks its dashes. -/
inductive Dangling : Bytes → Prop
  | intro {upToEnd tail : Bytes} (first : ¬ endMarker <:+: upToEnd) (absent : ¬ dashes <:+: tail)
      (ends : EndsLine tail) : Dangling (upToEnd ++ (endMarker ++ tail))

/-- A closing line without dashes takes the dashes of the next marker. -/
theorem nextSpan?_dangling {span : Option Bytes} {rest : Bytes}
    (found : nextSpan? front = some (span, rest)) (dangles : ¬ ∀ cut ∈ span, dashes <:+ cut)
    (ends : EndsLine front) (back : Bytes) :
    ∃ last, Dangling last ∧ span = some last ∧ rest = [] ∧
      nextSpan? (front ++ (dashes ++ back)) = some (some (last ++ dashes), back) := by
  cases step_of_nextSpan? found with
  | abandoned opened ended again => exact absurd (by simp) dangles
  | closed opened ended single closes =>
      refine absurd ?_ dangles
      rintro span ⟨⟩
      rw [← List.append_assoc]
      exact List.suffix_append _ _
  | @dangling before block upToEnd tail opened ended single absent =>
      have tailEnds : EndsLine tail := by
        apply ends.of_suffix
        rw [← breakOn?_append opened, ← breakOn?_append ended, ← List.append_assoc,
          ← List.append_assoc]
        exact List.suffix_append _ _
      have first := not_infix_of_breakOn? ended (by decide)
      refine ⟨_, .intro first absent tailEnds, rfl, rfl, ?_⟩
      have endsLater := breakOn?_append_right ended (dashes ++ back)
      rw [List.append_assoc] at endsLater
      have closesLater : breakOn? dashes (tail ++ (dashes ++ back)) = some (tail, dashes ++ back) :=
        breakOn?_marker (tailEnds.passes (by decide) absent _) (by decide)
      rw [nextSpan?_of_closed (breakOn?_append_right opened _) endsLater single closesLater]
      simp only [List.append_assoc]

end CertScope.Pem
