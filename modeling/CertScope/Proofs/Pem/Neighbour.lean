import CertScope.Certificate.Decode
import CertScope.Proofs.Pem.Step
import CertScope.Proofs.Pem.Written

/-!
# Blocks behind broken texts

The cut of a bundle goes on at the next opening line when a block does not end.  A framed
block is therefore found behind any text that ends a line, with one exception: where the
last closing line of that text lacks its dashes, the search for them runs into the opening
line of the block, which is then taken for the end of the broken one.
-/

namespace CertScope.Pem

open Bytes

variable {front before tail : Bytes}

/-! ## The block behind the text -/

variable (block : FramedBlock)

theorem nextSpan?_of_unended (absent : ¬ endMarker <:+: front) : nextSpan? front = none := by
  cases opened : breakOn? beginMarker front with
  | none => exact nextSpan?_of_unopened (breakOn?_eq_none_iff.1 opened)
  | some parts =>
      apply nextSpan?_of_endless opened
      intro stands
      rw [← breakOn?_append opened] at absent
      exact absent (stands.trans (List.suffix_append _ _).isInfix)

/-- A block that has not ended is abandoned at the latest where another one opens. -/
theorem nextSpan?_abandons
    (opened : breakOn? beginMarker front = some (before, beginMarker ++ tail))
    (absent : ¬ endMarker <:+: beginMarker ++ tail) (ends : EndsLine front) (back : Bytes) :
    ∃ inner, inner <:+ tail ∧
      nextSpan? (front ++ (block.text ++ back)) = some (none, inner ++ (block.text ++ back)) := by
  have whole := breakOn?_append opened
  have tailEnds : EndsLine (beginMarker ++ tail) :=
    ends.of_suffix (whole ▸ List.suffix_append _ _)
  have openedLater := breakOn?_append_right opened (block.text ++ back)
  obtain ⟨behind, parts⟩ : ∃ behind, block.text ++ back = block.front ++ (endMarker ++ behind) :=
    ⟨block.closing ++ (dashes ++ back), by simp only [FramedBlock.text, FramedBlock.front,
      List.append_assoc]⟩
  -- the first closing marker is that of the block, so a second opening is met before it
  have endsLater : breakOn? endMarker (beginMarker ++ tail ++ (block.text ++ back)) =
      some (beginMarker ++ tail ++ block.front, endMarker ++ behind) := by
    rw [parts, ← List.append_assoc]
    refine breakOn?_marker (Passes.of_marker FramedBlock.endMarker_unbordered ?_ _) (by decide)
    exact not_infix_append (tailEnds.passes (by decide) absent _) block.not_infix_front
  have inside : (beginMarker ++ tail ++ block.front).drop beginMarker.length =
      tail ++ block.front := by
    rw [List.append_assoc, List.drop_left]
  cases again : breakOn? beginMarker tail with
  | some cut =>
      obtain ⟨skipped, inner⟩ := cut
      have againLater := breakOn?_append_right again block.front
      rw [← inside] at againLater
      refine ⟨inner, ?_, ?_⟩
      · rw [← breakOn?_append again]
        exact List.suffix_append _ _
      · rw [nextSpan?_of_abandoned openedLater endsLater againLater, parts, List.append_assoc]
  | none =>
      have againLater : breakOn? beginMarker (tail ++ block.front) = some (tail, block.front) :=
        breakOn?_marker (Passes.of_marker FramedBlock.beginMarker_unbordered
          (breakOn?_eq_none_iff.1 again) _) (by decide)
      rw [← inside] at againLater
      refine ⟨[], List.nil_suffix, ?_⟩
      rw [nextSpan?_of_abandoned openedLater endsLater againLater, parts, List.nil_append]

theorem spans_stuck (stuck : nextSpan? front = none) (ends : EndsLine front) (back : Bytes) :
    spans (front ++ (block.text ++ back)) = block.text :: spans back := by
  -- on the length: what an abandoned opening leaves is shorter and stuck as well
  induction size : front.length using Nat.strong_induction_on generalizing front with
  | _ _ ih =>
    subst size
    cases stuck_of_nextSpan? stuck with
    | unopened absent => exact spans_of_some (block.nextSpan?_text absent back)
    | endless opened absent =>
        obtain ⟨tail, rfl⟩ := exists_behind opened
        obtain ⟨inner, suffix, step⟩ := nextSpan?_abandons block opened absent ends back
        have later : inner <:+ beginMarker ++ tail := suffix.trans (List.suffix_append _ _)
        have whole := breakOn?_append opened
        have unended : ¬ endMarker <:+: inner := fun stands => absent (stands.trans later.isInfix)
        have shorter : inner.length < front.length := by
          have bound := suffix.length_le
          have parts := congrArg List.length whole
          have eleven : beginMarker.length = 11 := rfl
          simp only [List.length_append] at parts
          omega
        have found := ih inner.length shorter (nextSpan?_of_unended unended)
          (ends.of_suffix (later.trans (whole ▸ List.suffix_append _ _))) rfl
        rw [spans_of_some step, found]
        rfl

/-- Every block that is cut out of a text has the dashes of its closing line. -/
def IsClosed (bytes : Bytes) : Prop := ∀ span ∈ spans bytes, dashes <:+ span

theorem isClosed_iff {span : Option Bytes} {rest : Bytes}
    (found : nextSpan? front = some (span, rest)) :
    IsClosed front ↔ (∀ cut ∈ span, dashes <:+ cut) ∧ IsClosed rest := by
  simp only [IsClosed, spans_of_some found, List.mem_append, Option.mem_toList, Option.mem_def,
    or_imp, forall_and]

/-- Behind a text whose blocks are closed, the block is found. -/
theorem spans_between (ends : EndsLine front) (closed : IsClosed front) (back : Bytes) :
    spans (front ++ (block.text ++ back)) = spans front ++ block.text :: spans back := by
  fun_induction spans front with
  | case1 front stuck => exact spans_stuck block stuck ends back
  | case2 front span rest found ih =>
      obtain ⟨here, later⟩ := (isClosed_iff found).1 closed
      rw [spans_of_some (nextSpan?_append found here _),
        ih (ends.of_suffix (suffix_of_nextSpan? found)) later, List.append_assoc]

theorem spans_inside (back : Bytes) :
    spans (block.inside ++ (dashes ++ back)) = spans (dashes ++ back) :=
  spans_append_of_passes (block.passes_inside _)

/-- Behind a text whose last block is not closed, the block is lost: its first dashes close
the block in front of it, and the cut goes on at its last dashes. -/
theorem spans_dangling (ends : EndsLine front) (dangles : ¬ IsClosed front) (back : Bytes) :
    ∃ earlier last, Dangling last ∧ spans front = earlier ++ [last] ∧
      spans (front ++ (block.text ++ back)) =
        earlier ++ (last ++ dashes) :: spans (dashes ++ back) := by
  fun_induction spans front with
  | case1 front stuck =>
      rw [IsClosed, spans_of_none stuck] at dangles
      exact absurd (by simp) dangles
  | case2 front span rest found ih =>
      by_cases here : ∀ cut ∈ span, dashes <:+ cut
      · have later : ¬ IsClosed rest := fun later => dangles ((isClosed_iff found).2 ⟨here, later⟩)
        obtain ⟨earlier, last, dangling, whole, joined⟩ :=
          ih (ends.of_suffix (suffix_of_nextSpan? found)) later
        refine ⟨span.toList ++ earlier, last, dangling, ?_, ?_⟩
        · rw [whole, List.append_assoc]
        · rw [spans_of_some (nextSpan?_append found here _), joined, List.append_assoc]
      -- a block that is not closed takes all that is left, so it is the last one
      · obtain ⟨last, dangling, rfl, rfl, step⟩ :=
          nextSpan?_dangling found here ends (block.inside ++ (dashes ++ back))
        refine ⟨[], last, dangling, ?_, ?_⟩
        · rw [spans_of_none (nextSpan?_of_unopened (by decide))]
          rfl
        · rw [FramedBlock.text_eq_inside, spans_of_some step, spans_inside]
          rfl

/-! ## Blocks without dashes hold nothing -/

theorem closing_of_read? {bytes rest : Bytes} {frame : Frame}
    (read : Frame.read? bytes = some (frame, rest)) :
    endMarker ++ (frame.closing ++ dashes) <:+: bytes := by
  simp only [Frame.read?, Option.bind_eq_bind, Option.bind_eq_some_iff, Option.pure_def,
    Option.some.injEq, Prod.mk.injEq, Prod.exists] at read
  obtain ⟨_, afterBegin, opened, _, afterLabel, labelled, inner, afterEnd, ended, closing, rest,
    closed, rfl, -⟩ := read
  have here : endMarker ++ (closing ++ dashes) <:+: skipBlank afterLabel := by
    refine ⟨inner, rest, ?_⟩
    rw [append_of_cutAt? ended, append_of_cutAt? closed]
    simp only [List.append_assoc]
  have behindLabel : skipBlank afterLabel <:+: afterBegin := by
    rw [append_of_cutAt? labelled, ← List.append_assoc]
    exact ((List.dropWhile_suffix _).trans (List.suffix_append _ _)).isInfix
  have behindBegin : afterBegin <:+: bytes := by
    rw [append_of_cutAt? opened, ← List.append_assoc]
    exact (List.suffix_append _ _).isInfix
  exact here.trans (behindLabel.trans behindBegin)

theorem closing_of_certificateOf? {span contents : Bytes}
    (found : certificateOf? span = some contents) :
    endMarker ++ (ofText certificateLabel ++ dashes) <:+: span := by
  unfold certificateOf? decodeFirst at found
  split at found
  · rename_i decoded decodes
    rw [Option.ite_none_right_eq_some] at found
    split at decodes
    · cases decodes
    · rename_i frame rest read
      have labelled := (Frame.labels_of_decode decodes).2.1
      rw [found.1, decode_certificateLabel] at labelled
      rw [← labelled]
      exact closing_of_read? read
  · cases found

/-- A closing line with a label stands nowhere if it does not stand at the first closing
marker and there is no second one. -/
theorem not_infix_closing {upToEnd rest label : Bytes} (first : ¬ endMarker <:+: upToEnd)
    (last : ¬ endMarker <:+: rest) (other : ¬ label <+: rest) :
    ¬ endMarker ++ label <:+: upToEnd ++ (endMarker ++ rest) := by
  have starts : endMarker <:+: endMarker ++ label := (List.prefix_append _ _).isInfix
  apply not_infix_append
  · exact (Passes.of_marker FramedBlock.endMarker_unbordered first rest).append_marker label
  · intro stands
    have later : ¬ endMarker <:+: endMarker.tail ++ rest :=
      not_infix_append ⟨by decide, Apart.of_take (by decide) rest⟩ last
    rcases List.infix_cons_iff.1 stands with here | behind
    · exact other ((List.prefix_append_right_inj endMarker).1 here)
    · exact later (starts.trans behind)

theorem certificateOf?_dangling {last : Bytes} (dangling : Dangling last) :
    certificateOf? last = none ∧ certificateOf? (last ++ dashes) = none := by
  obtain @⟨upToEnd, tail, first, absent, ends⟩ := dangling
  have unmarked : ¬ endMarker <:+: tail := by
    intro stands
    exact absent ((List.prefix_append dashes [69, 78, 68, 32]).isInfix.trans stands)
  have unclosed : ¬ ofText certificateLabel ++ dashes <+: tail := by
    intro begins
    exact absent ((List.suffix_append _ dashes).isInfix.trans begins.isInfix)
  have unfinished : ¬ ofText certificateLabel ++ dashes <+: tail ++ dashes := by
    intro begins
    rcases List.prefix_or_prefix_of_prefix begins (List.prefix_append tail dashes) with
      inside | short
    · exact unclosed inside
    · cases last : tail.getLast? with
      | none =>
          rw [List.getLast?_eq_none_iff.1 last, certificateLabel_bytes] at begins
          exact absurd begins (by decide)
      | some byte =>
          have member := short.subset (List.mem_of_getLast? last)
          rw [certificateLabel_bytes] at member
          rcases ends byte last with rfl | rfl
          · exact absurd member (by decide)
          · exact absurd member (by decide)
  constructor
  · by_contra some_found
    obtain ⟨contents, found⟩ := Option.ne_none_iff_exists'.1 some_found
    exact not_infix_closing first unmarked unclosed (closing_of_certificateOf? found)
  · by_contra some_found
    obtain ⟨contents, found⟩ := Option.ne_none_iff_exists'.1 some_found
    have closing := closing_of_certificateOf? found
    rw [List.append_assoc, List.append_assoc] at closing
    refine not_infix_closing first ?_ unfinished closing
    exact not_infix_append (ends.passes (by decide) unmarked _) (by decide)

/-! ## What is found -/

theorem certificates_between (ends : EndsLine front) (closed : IsClosed front)
    (written : WrittenCertificate) (back : Bytes) :
    certificates (front ++ (written.block.text ++ back)) =
      certificates front ++ written.contents :: certificates back := by
  have held : certificateOf? written.block.text = some written.contents := by
    rw [FramedBlock.certificateOf?_text, written.certificate?_block]
  simp only [certificates, spans_between written.block ends closed, List.filterMap_append,
    List.filterMap_cons, held]

theorem certificates_dangling (ends : EndsLine front) (dangles : ¬ IsClosed front)
    (back : Bytes) :
    certificates (front ++ (block.text ++ back)) =
      certificates front ++ certificates (dashes ++ back) := by
  obtain ⟨earlier, last, dangling, whole, joined⟩ := spans_dangling block ends dangles back
  obtain ⟨alone, closed⟩ := certificateOf?_dangling dangling
  simp only [certificates, whole, joined, List.filterMap_append, List.filterMap_cons, alone,
    closed, List.filterMap_nil, List.append_nil]

/-- A written certificate behind a text that ends a line is found between those of the texts
around it, unless the last block of the text in front lacks the dashes of its closing line.
Then it is lost, and its last dashes take part in what stands behind. -/
theorem splitBundle_between (ends : EndsLine front) (written : WrittenCertificate) (back : Bytes) :
    (IsClosed front → splitBundle (front ++ (written.block.text ++ back)) =
      .ok (certificates front ++ written.contents :: certificates back)) ∧
    (¬ IsClosed front → certificates (front ++ (written.block.text ++ back)) =
      certificates front ++ certificates (dashes ++ back)) := by
  constructor
  · intro closed
    rw [splitBundle_eq_ok, certificates_between ends closed]
    exact ⟨rfl, by simp⟩
  · intro dangles
    exact certificates_dangling written.block ends dangles back

def threeOctets : WrittenCertificate where
  contents := [1, 2, 3]
  lineBreak := [10]
  isLineBreak := isLineBreak_feed
  lines := [⟨[65, 81, 73, 68], [10], by decide, isLineBreak_feed⟩]
  spells := by decide

def openingLine : Bytes := beginMarker ++ ([88] ++ dashes ++ [10])

theorem endsLine_of_getLast? {byte : UInt8} (last : front.getLast? = some byte)
    (breaks : byte = 10 ∨ byte = 13) : EndsLine front := by
  intro other found
  rw [last] at found
  rwa [← Option.some.inj found]

theorem splitBundle_behind_unterminated :
    EndsLine openingLine ∧ IsClosed openingLine ∧
      splitBundle (openingLine ++ (threeOctets.block.text ++ [])) = .ok [[1, 2, 3]] := by
  have ends : EndsLine openingLine := endsLine_of_getLast? rfl (Or.inl rfl)
  have stuck : nextSpan? openingLine = none := by decide
  have closed : IsClosed openingLine := by
    simp [IsClosed, spans_of_none stuck]
  refine ⟨ends, closed, ?_⟩
  rw [(splitBundle_between ends threeOctets []).1 closed, certificates_of_none stuck,
    certificates_of_none (nextSpan?_of_unopened (by decide))]
  rfl

/-- A block whose closing line lacks its dashes. -/
def danglingBlock : Bytes := openingLine ++ (endMarker ++ [88, 10])

/-- The certificate behind such a block is lost. -/
theorem not_splitBundle_behind_dangling :
    EndsLine danglingBlock ∧
      splitBundle (danglingBlock ++ (threeOctets.block.text ++ [])) =
        .error .noCertificateData := by
  have ends : EndsLine danglingBlock := endsLine_of_getLast? rfl (Or.inl rfl)
  have step : nextSpan? danglingBlock = some (some danglingBlock, []) := by decide
  have dangles : ¬ IsClosed danglingBlock := by
    rw [isClosed_iff step]
    simp only [Option.mem_def, Option.some.injEq, forall_eq', not_and]
    intro closed
    exact absurd closed (by decide)
  have dangling : certificates danglingBlock = [] := by
    rw [certificates, spans_of_some step, spans_of_none (nextSpan?_of_unopened (by decide))]
    decide
  refine ⟨ends, splitBundle_eq_error.2 ⟨?_, rfl⟩⟩
  rw [certificates_dangling threeOctets.block ends dangles, dangling,
    certificates_of_none (nextSpan?_of_unopened (by decide))]
  rfl

end CertScope.Pem
