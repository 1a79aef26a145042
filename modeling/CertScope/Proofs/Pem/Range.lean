import CertScope.Proofs.Pem.Step
import Mathlib.Data.List.Forall2

/-!
# Blocks by their places

A bundle can also be cut by places: a marker is searched for, the text is sliced at the place
where it stands, and the next search is made in the slice.  A slice is refused unless its
ends lie in the text and in order.  None of the slices of the cut is refused, whatever the
text; every turn of the cut leaves less of it; and the blocks that are found are slices of
the text at places one behind the other.
-/

namespace CertScope.Bytes

variable {marker bytes first second part before after : Bytes} {place : Nat}

/-! ## Searches -/

/-- The marker stands at a place of the bytes. -/
def StandsAt (marker bytes : Bytes) (place : Nat) : Prop := marker <+: bytes.drop place

instance : Decidable (StandsAt marker bytes place) :=
  inferInstanceAs (Decidable (marker <+: bytes.drop place))

/-- The first place at which the marker stands. -/
def find? (marker bytes : Bytes) : Option Nat := bytes.tails.findIdx? marker.isPrefixOf

/-- A text is cut at the first place of the marker. -/
theorem find?_eq (marker bytes : Bytes) :
    find? marker bytes = (breakOn? marker bytes).map fun cut => cut.1.length := by
  induction bytes with
  | nil => cases marker <;> rfl
  | cons byte rest ih =>
      rw [find?] at ih ⊢
      rw [List.tails_cons, List.findIdx?_cons, ih, breakOn?]
      by_cases stands : marker.isPrefixOf (byte :: rest)
      · simp [stands]
      · simp [stands, Function.comp_def]

theorem find?_of_breakOn? (cut : breakOn? marker bytes = some (before, after)) :
    find? marker bytes = some before.length := by
  rw [find?_eq, cut, Option.map_some]

theorem find?_of_absent (absent : breakOn? marker bytes = none) : find? marker bytes = none := by
  rw [find?_eq, absent, Option.map_none]

theorem Passes.not_standsAt (passes : Passes marker first second) (within : place < first.length) :
    ¬ StandsAt marker (first ++ second) place := by
  have filled : first.drop place ≠ [] := by
    rw [ne_eq, List.drop_eq_nil_iff]
    omega
  rw [StandsAt, List.drop_append_of_le_length within.le]
  exact passes.not_prefix (List.drop_suffix place first) filled

/-! ## Slices -/

/-- A part of a byte string by its two ends, of which the second is no longer in it. -/
structure Range where
  start : Nat
  stop : Nat
  deriving DecidableEq, Repr

/-- The part of the bytes between two ends.  It is refused if these do not lie in the bytes or
run backwards. -/
def slice (bytes : Bytes) (range : Range) : Except Range Bytes :=
  if range.start ≤ range.stop ∧ range.stop ≤ bytes.length then
    .ok ((bytes.take range.stop).drop range.start)
  else .error range

theorem slice_eq_ok {range : Range} : slice bytes range = .ok part ↔
    ∃ before after, bytes = before ++ (part ++ after) ∧ before.length = range.start ∧
      (before ++ part).length = range.stop := by
  unfold slice
  constructor
  · intro sliced
    split at sliced
    · rename_i within
      obtain rfl := Except.ok.inj sliced
      refine ⟨(bytes.take range.stop).take range.start, bytes.drop range.stop, ?_, ?_, ?_⟩
      · rw [← List.append_assoc, List.take_append_drop, List.take_append_drop]
      · rw [List.length_take, List.length_take]
        omega
      · rw [List.take_append_drop, List.length_take, Nat.min_eq_left within.2]
    · cases sliced
  · rintro ⟨before, after, rfl, starts, stops⟩
    have within : range.start ≤ range.stop ∧
        range.stop ≤ (before ++ (part ++ after)).length := by
      simp only [List.length_append] at stops ⊢
      omega
    rw [if_pos within, ← stops, ← List.append_assoc, List.take_left, ← starts, List.drop_left]

/-- A place in a text cuts it into what stands in front of it and what stands behind. -/
theorem slice_parts (parts : bytes = first ++ second) :
    slice bytes ⟨0, first.length⟩ = .ok first ∧
      slice bytes ⟨first.length, bytes.length⟩ = .ok second := by
  subst parts
  exact ⟨slice_eq_ok.2 ⟨[], second, rfl, rfl, rfl⟩,
    slice_eq_ok.2 ⟨first, [], by rw [List.append_nil], rfl, rfl⟩⟩

/-- The range of the same part when `count` bytes are put in front. -/
def Range.shift (count : Nat) (range : Range) : Range :=
  ⟨count + range.start, count + range.stop⟩

theorem slice_shift {range : Range} (sliced : slice bytes range = .ok part) (front : Bytes) :
    slice (front ++ bytes) (range.shift front.length) = .ok part := by
  obtain ⟨before, after, rfl, starts, stops⟩ := slice_eq_ok.1 sliced
  refine slice_eq_ok.2 ⟨front ++ before, after, (List.append_assoc _ _ _).symm, ?_, ?_⟩
  · rw [List.length_append, starts, Range.shift]
  · rw [List.append_assoc, List.length_append, stops, Range.shift]

/-- The parts are the slices of the bytes at the ranges.  None of the ranges is empty, and each
ends before those behind it start. -/
structure AreSlices (bytes : Bytes) (ranges : List Range) (parts : List Bytes) : Prop where
  sliced : List.Forall₂ (fun range part => range.start < range.stop ∧
    slice bytes range = .ok part) ranges parts
  apart : ranges.Pairwise fun earlier later => earlier.stop ≤ later.start

namespace AreSlices

variable {ranges : List Range} {parts : List Bytes}

theorem nil (bytes : Bytes) : AreSlices bytes [] [] := ⟨.nil, .nil⟩

theorem shift (areSlices : AreSlices bytes ranges parts) (front : Bytes) :
    AreSlices (front ++ bytes) (ranges.map (Range.shift front.length)) parts where
  sliced := by
    rw [List.forall₂_map_left_iff]
    refine areSlices.sliced.imp fun range part ⟨filled, sliced⟩ => ⟨?_, slice_shift sliced front⟩
    exact Nat.add_lt_add_left filled front.length
  apart := by
    rw [List.pairwise_map]
    exact areSlices.apart.imp fun ordered => Nat.add_le_add_left ordered front.length

/-- A part in front of the others, with anything in front of it. -/
theorem cons (areSlices : AreSlices bytes ranges parts) (before : Bytes) (filled : part ≠ []) :
    ∃ ranges, AreSlices (before ++ (part ++ bytes)) ranges (part :: parts) := by
  have behind := areSlices.shift (before ++ part)
  rw [List.append_assoc] at behind
  refine ⟨⟨before.length, (before ++ part).length⟩ :: ranges.map (Range.shift _),
    .cons ⟨?_, slice_eq_ok.2 ⟨before, bytes, rfl, rfl, rfl⟩⟩ behind.sliced,
    .cons ?_ behind.apart⟩
  · rw [List.length_append]
    exact Nat.lt_add_of_pos_right (List.length_pos_iff.2 filled)
  · intro later member
    obtain ⟨range, -, rfl⟩ := List.mem_map.1 member
    exact Nat.le_add_right _ range.start

end AreSlices

end CertScope.Bytes

namespace CertScope.Pem

open Bytes Outcome

variable {bytes inside rest : Bytes} {span : Option Bytes}

/-! ## The cut by places -/

/-- What becomes of a block whose first closing marker stands at `stop`.  It is abandoned at the
next opening marker in front of that place; else it ends with the dashes behind, or where the
text ends if there are none. -/
def cutBlock (block : Bytes) (stop : Nat) : Except Range (Option Bytes × Bytes) := do
  match find? beginMarker (← slice block ⟨beginMarker.length, stop⟩) with
  | some next => return (none, ← slice block ⟨beginMarker.length + next, block.length⟩)
  | none =>
      let label := stop + endMarker.length
      let close := match find? dashes (← slice block ⟨label, block.length⟩) with
        | some place => label + place + dashes.length
        | none => block.length
      return (some (← slice block ⟨0, close⟩), ← slice block ⟨close, block.length⟩)

/-- One turn of the cut: a block that was found or none, and the text still to be cut. -/
def cutOnce (rest : Bytes) : Except Range (Option (Option Bytes × Bytes)) := do
  let some start := find? beginMarker rest | return none
  let block ← slice rest ⟨start, rest.length⟩
  let some stop := find? endMarker block | return none
  return some (← cutBlock block stop)

/-- The blocks that at most `turns` turns find in a text; nothing if the cut goes on behind
them. -/
def cutWithin : (turns : Nat) → Bytes → Except Range (Option (List Bytes))
  | 0, _ => .ok none
  | turns + 1, rest => do
      let some (span, left) ← cutOnce rest | return some []
      return (← cutWithin turns left).map (span.toList ++ ·)

/-- Where the block ends when no other opens in it: behind the dashes, or with the text. -/
theorem closeSpan_slices (front tail : Bytes) :
    let block := front ++ (endMarker ++ tail)
    let close := match find? dashes tail with
      | some place => front.length + endMarker.length + place + dashes.length
      | none => block.length
    slice block ⟨0, close⟩ = .ok (front ++ (closeSpan (endMarker ++ tail)).1) ∧
      slice block ⟨close, block.length⟩ = .ok (closeSpan (endMarker ++ tail)).2 := by
  cases closes : breakOn? dashes tail with
  | none =>
      simp only [find?_of_absent closes, closeSpan_of_none closes]
      exact slice_parts (List.append_nil _).symm
  | some parts =>
      obtain ⟨label, fromDashes⟩ := parts
      obtain ⟨rest, rfl⟩ := exists_behind closes
      obtain rfl := breakOn?_append closes
      have place : front.length + endMarker.length + label.length + dashes.length =
          (front ++ (endMarker ++ label ++ dashes)).length := by
        simp only [List.length_append]
        omega
      simp only [find?_of_breakOn? closes, closeSpan_of_some closes, place]
      exact slice_parts (by simp only [List.append_assoc])

/-- A block becomes what the step of the cut makes of it. -/
theorem cutBlock_eq (inside tail : Bytes) :
    cutBlock (beginMarker ++ inside ++ (endMarker ++ tail)) (beginMarker ++ inside).length =
      .ok (match breakOn? beginMarker inside with
        | some (_, inner) => (none, inner ++ (endMarker ++ tail))
        | none => (some (beginMarker ++ inside ++ (closeSpan (endMarker ++ tail)).1),
            (closeSpan (endMarker ++ tail)).2)) := by
  have within : slice (beginMarker ++ inside ++ (endMarker ++ tail))
      ⟨beginMarker.length, (beginMarker ++ inside).length⟩ = .ok inside :=
    slice_eq_ok.2 ⟨beginMarker, endMarker ++ tail, List.append_assoc _ _ _, rfl, rfl⟩
  rw [cutBlock, within, ok_bind]
  cases again : breakOn? beginMarker inside with
  | some parts =>
      obtain ⟨skipped, inner⟩ := parts
      obtain rfl := breakOn?_append again
      have parts : beginMarker ++ (skipped ++ inner) ++ (endMarker ++ tail) =
          beginMarker ++ skipped ++ (inner ++ (endMarker ++ tail)) := by
        simp only [List.append_assoc]
      have left := (slice_parts parts).2
      rw [List.length_append] at left
      simp only [find?_of_breakOn? again, left, ok_bind]
      rfl
  | none =>
      have behind := (slice_parts (List.append_assoc (beginMarker ++ inside) endMarker tail).symm).2
      obtain ⟨span, left⟩ := closeSpan_slices (beginMarker ++ inside) tail
      rw [List.length_append] at behind
      simp only [find?_of_absent again, behind, ok_bind, span, left]
      rfl

/-- The cut by places makes the steps of the cut. -/
theorem cutOnce_eq (bytes : Bytes) : cutOnce bytes = .ok (nextSpan? bytes) := by
  cases opened : breakOn? beginMarker bytes with
  | none =>
      simp only [cutOnce, nextSpan?, opened, find?_of_absent opened]
      rfl
  | some parts =>
      obtain ⟨before, block⟩ := parts
      obtain rfl := breakOn?_append opened
      have sliced := (slice_parts (rfl : before ++ block = before ++ block)).2
      cases ended : breakOn? endMarker block with
      | none =>
          simp only [cutOnce, nextSpan?, opened, ended, find?_of_breakOn? opened,
            find?_of_absent ended, sliced, ok_bind]
          rfl
      | some parts =>
          obtain ⟨upToEnd, fromEnd⟩ := parts
          obtain ⟨tail, rfl⟩ := exists_behind ended
          obtain ⟨inside, rfl⟩ := exists_inside opened ended
          obtain rfl := breakOn?_append ended
          simp only [cutOnce, nextSpan?, opened, ended, find?_of_breakOn? opened,
            find?_of_breakOn? ended, sliced, ok_bind, cutBlock_eq, List.drop_left]
          cases breakOn? beginMarker inside <;> rfl

/-- The cut by places ends with the blocks of the text.  Every turn takes at least an opening
marker off it, so that the length of the text bounds their number. -/
theorem cutWithin_eq {turns : Nat} (enough : bytes.length < beginMarker.length * turns) :
    cutWithin turns bytes = .ok (some (spans bytes)) := by
  induction turns generalizing bytes with
  | zero => omega
  | succ turns ih =>
      rw [cutWithin, cutOnce_eq, ok_bind]
      cases found : nextSpan? bytes with
      | none =>
          rw [spans_of_none found]
          rfl
      | some step =>
          obtain ⟨span, left⟩ := step
          obtain ⟨before, whole, taken⟩ := split_of_nextSpan? found
          have fewer : left.length < beginMarker.length * turns := by
            rw [whole, Nat.mul_succ] at enough
            simp only [List.length_append] at enough taken
            omega
          rw [spans_of_some found]
          simp only [ih fewer]
          rfl

/-! ## The blocks -/

/-- A block as it is cut out: it opens where it starts, and up to the first place where it ends
no other block opens. -/
structure IsBlock (span : Bytes) : Prop where
  opens : StandsAt beginMarker span 0
  ends : ∃ stop, StandsAt endMarker span stop ∧ ∀ place < stop,
    ¬ StandsAt endMarker span place ∧ (StandsAt beginMarker span place → place = 0)

/-- The second marker of the block is the closing one, also if one takes into account those
that share bytes with another. -/
theorem isBlock_of_parts (first : ¬ endMarker <:+: beginMarker ++ inside)
    (single : ¬ beginMarker <:+: inside) (more : Bytes) :
    IsBlock (beginMarker ++ inside ++ (endMarker ++ more)) where
  opens := by
    rw [List.append_assoc]
    exact List.prefix_append _ _
  ends := by
    refine ⟨(beginMarker ++ inside).length, ?_, fun place earlier => ⟨?_, ?_⟩⟩
    · rw [StandsAt, List.drop_left]
      exact List.prefix_append _ _
    · exact (Passes.of_marker FramedBlock.endMarker_unbordered first more).not_standsAt earlier
    · -- another opening marker would stand behind the first byte, in what the search passes over
      have back : Passes beginMarker inside (endMarker ++ more) :=
        ⟨single, Apart.of_start (by decide) (List.prefix_append endMarker more) inside⟩
      have passes : Passes beginMarker (beginMarker.tail ++ inside) (endMarker ++ more) :=
        Passes.append ⟨by decide, Apart.of_take (by decide) _⟩ back
      intro stands
      cases place with
      | zero => rfl
      | succ place => exact absurd stands (passes.not_standsAt (Nat.lt_of_succ_lt_succ earlier))

theorem isBlock_of_nextSpan? {span : Bytes} (found : nextSpan? bytes = some (some span, rest)) :
    IsBlock span := by
  cases step_of_nextSpan? found with
  | @closed before block upToEnd tail label rest opened ended single closes =>
      obtain ⟨inside, rfl⟩ := exists_inside opened ended
      rw [List.drop_left] at single
      rw [List.append_assoc endMarker]
      exact isBlock_of_parts (not_infix_of_breakOn? ended (by decide))
        (breakOn?_eq_none_iff.1 single) (label ++ dashes)
  | @dangling before block upToEnd tail opened ended single absent =>
      obtain ⟨inside, rfl⟩ := exists_inside opened ended
      rw [List.drop_left] at single
      exact isBlock_of_parts (not_infix_of_breakOn? ended (by decide))
        (breakOn?_eq_none_iff.1 single) tail

theorem IsBlock.ne_nil {span : Bytes} (isBlock : IsBlock span) : span ≠ [] := by
  rintro rfl
  exact absurd isBlock.opens (by decide)

theorem isBlock_of_mem_spans {span : Bytes} (member : span ∈ spans bytes) : IsBlock span := by
  fun_induction spans bytes with
  | case1 bytes stuck => cases member
  | case2 bytes cut rest found ih =>
      rw [List.mem_append, Option.mem_toList] at member
      rcases member with rfl | later
      · exact isBlock_of_nextSpan? found
      · exact ih later

/-- The blocks of a text are its parts at places one behind the other. -/
theorem exists_areSlices (bytes : Bytes) : ∃ ranges, AreSlices bytes ranges (spans bytes) := by
  fun_induction spans bytes with
  | case1 bytes stuck => exact ⟨[], .nil bytes⟩
  | case2 bytes span rest found ih =>
      obtain ⟨ranges, areSlices⟩ := ih
      obtain ⟨before, split, -⟩ := split_of_nextSpan? found
      subst split
      cases span with
      | none => exact ⟨_, areSlices.shift before⟩
      | some cut => exact areSlices.cons before (isBlock_of_nextSpan? found).ne_nil

/-- On every byte string the cut by places comes to its end, without a slice that is refused.
Each of its turns leaves a shorter end of the text, and what it finds are the blocks of the
text: parts of it at places one behind the other, in each of which a block opens at the
start, and no other up to the first place where it ends. -/
theorem spans_by_places (bytes : Bytes) :
    (∀ turns, bytes.length < beginMarker.length * turns →
      cutWithin turns bytes = .ok (some (spans bytes))) ∧
    (∀ rest, ∃ turn, cutOnce rest = .ok turn ∧
      ∀ span left, turn = some (span, left) → left <:+ rest ∧ left.length < rest.length) ∧
    (∃ ranges, AreSlices bytes ranges (spans bytes)) ∧
    ∀ span ∈ spans bytes, span ≠ [] ∧ IsBlock span := by
  refine ⟨fun turns => cutWithin_eq, fun rest => ⟨_, cutOnce_eq rest, ?_⟩,
    exists_areSlices bytes, fun span member => ?_⟩
  · intro span left found
    exact ⟨suffix_of_nextSpan? found, length_nextSpan? found⟩
  · have isBlock := isBlock_of_mem_spans member
    exact ⟨isBlock.ne_nil, isBlock⟩

/-- An opening line within another one, a closing line in front of bytes that lack the dashes of
an opening one, and a closing line without dashes. -/
def crowded : Bytes :=
  beginMarker ++ (beginMarker ++ [65] ++ (endMarker ++ [65] ++ dashes)) ++
    beginMarker.drop dashes.length ++ (beginMarker ++ [66] ++ (endMarker ++ [66]))

def crowdedBlocks : List Bytes :=
  [beginMarker ++ [65] ++ (endMarker ++ [65] ++ dashes), beginMarker ++ [66] ++ (endMarker ++ [66])]

/-- The first of the turns abandons a block, the next two find one each, and there is no other. -/
theorem spans_by_places_crowded :
    crowded.length < beginMarker.length * 7 ∧
      cutWithin 7 crowded = .ok (some (spans crowded)) ∧ spans crowded = crowdedBlocks ∧
      (∃ left, cutOnce crowded = .ok (some (none, left)) ∧ left <:+ crowded ∧
        left.length < crowded.length) ∧
      (∃ ranges, AreSlices crowded ranges crowdedBlocks) ∧
      ∃ span ∈ crowdedBlocks, span ≠ [] ∧ IsBlock span := by
  have enough : crowded.length < beginMarker.length * 7 := by decide
  obtain ⟨ends, turns, places, blocks⟩ := spans_by_places crowded
  have cut := ends 7 enough
  have found : cutWithin 7 crowded = .ok (some crowdedBlocks) := rfl
  have same : spans crowded = crowdedBlocks :=
    Option.some.inj (Except.ok.inj (cut.symm.trans found))
  obtain ⟨turn, made, shorter⟩ := turns crowded
  have abandons : cutOnce crowded =
      .ok (some (none, crowded.drop beginMarker.length)) := rfl
  obtain rfl := Except.ok.inj (made.symm.trans abandons)
  rw [same] at places blocks
  exact ⟨enough, cut, same, ⟨_, abandons, shorter _ _ rfl⟩, places, _, List.mem_cons_self,
    blocks _ List.mem_cons_self⟩

end CertScope.Pem
