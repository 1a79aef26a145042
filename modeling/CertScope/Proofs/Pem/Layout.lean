import CertScope.Certificate.Decode
import CertScope.Proofs.Pem.Frame

/-!
# Texts of many blocks

A layout is any number of framed blocks with fillers in front of them, between them and
behind them; the only thing that a filler may not hold is an opening marker.  The cut of
bundles finds the blocks of every layout.  The reader of frames finds them where no filler
ends in the midst of a marker, and passes over a block behind a filler that does.
-/

namespace CertScope.Pem

open Bytes

/-- A block with the text in front of it. -/
structure Item where
  filler : Bytes
  block : FramedBlock
  unopened : ¬ beginMarker <:+: filler

namespace Item

def text (item : Item) : Bytes := item.filler ++ item.block.text

end Item

/-- The blocks of a text, and what stands behind the last of them. -/
structure Layout where
  items : List Item
  ending : Bytes
  unopened : ¬ beginMarker <:+: ending

namespace Layout

def text (layout : Layout) : Bytes := layout.items.flatMap Item.text ++ layout.ending

def certificates (layout : Layout) : List Bytes :=
  layout.items.filterMap fun item => item.block.certificate?

def Decodes (layout : Layout) : Prop :=
  ∀ item ∈ layout.items, ∃ decoded, item.block.frame.decode = .ok decoded

/-- No filler in front of a block ends in the midst of an opening marker. -/
def IsSettled (layout : Layout) : Prop :=
  ∀ item ∈ layout.items, Pem.IsSettled beginMarker item.filler

end Layout

variable {ending rest : Bytes} {item : Item} {items : List Item}

/-! ## The cut of a bundle -/

theorem spans_of_none {bytes : Bytes} (ended : nextSpan? bytes = none) : spans bytes = [] := by
  rw [spans]
  split
  · rfl
  · rename_i step
    rw [ended] at step
    cases step

theorem certificates_of_none {bytes : Bytes} (ended : nextSpan? bytes = none) :
    certificates bytes = [] := by
  rw [certificates, spans_of_none ended]
  rfl

theorem spans_of_some {bytes : Bytes} {span : Option Bytes}
    (found : nextSpan? bytes = some (span, rest)) : spans bytes = span.toList ++ spans rest := by
  rw [spans]
  split
  · rename_i step
    rw [found] at step
    cases step
  · rename_i step
    rw [found] at step
    obtain ⟨rfl, rfl⟩ := Prod.mk.inj (Option.some.inj step)
    rfl

theorem nextSpan?_of_unopened (unopened : ¬ beginMarker <:+: ending) : nextSpan? ending = none := by
  rw [nextSpan?, breakOn?_eq_none_iff.2 unopened]

theorem spans_append_of_passes {filler : Bytes} (passes : Passes beginMarker filler rest) :
    spans (filler ++ rest) = spans rest := by
  have same : nextSpan? (filler ++ rest) = nextSpan? rest := by
    rw [nextSpan?, nextSpan?, breakOn?_append_of_passes passes]
    cases breakOn? beginMarker rest <;> rfl
  cases found : nextSpan? rest with
  | none => rw [spans_of_none found, spans_of_none (same.trans found)]
  | some step => rw [spans_of_some found, spans_of_some (same.trans found)]

theorem spans_items (items : List Item) (unopened : ¬ beginMarker <:+: ending) :
    spans (items.flatMap Item.text ++ ending) = items.map fun item => item.block.text := by
  induction items with
  | nil => exact spans_of_none (nextSpan?_of_unopened unopened)
  | cons item items ih =>
      have found := item.block.nextSpan?_text item.unopened (items.flatMap Item.text ++ ending)
      have first := spans_of_some found
      rw [ih] at first
      rw [List.flatMap_cons, Item.text, List.append_assoc, List.append_assoc, first]
      rfl

theorem certificates_text (layout : Layout) :
    Pem.certificates layout.text = layout.certificates := by
  rw [Pem.certificates, Layout.text, spans_items layout.items layout.unopened, List.filterMap_map,
    Layout.certificates]
  exact List.filterMap_congr fun item _ => item.block.certificateOf?_text

/-! ## The reader of frames -/

theorem seek?_skipBlank (bytes : Bytes) :
    seek? beginMarker beginMarker (skipBlank bytes) = seek? beginMarker beginMarker bytes := by
  induction bytes with
  | nil => rfl
  | cons byte bytes ih =>
      by_cases blank : byte == 32 || byte == 9 || byte == 10 || byte == 13
      · have passed : skipBlank (byte :: bytes) = skipBlank bytes :=
          List.dropWhile_cons_of_pos blank
        have differs : byte ≠ hyphen := by
          rintro rfl
          exact absurd blank (by decide)
        rw [passed, ih]
        exact (congrArg (seek? beginMarker · bytes) (if_neg differs)).symm
      · have kept : skipBlank (byte :: bytes) = byte :: bytes := List.dropWhile_cons_of_neg blank
        rw [kept]

/-- A frame is read from where the first opening marker is seen. -/
theorem read?_congr {first second : Bytes}
    (same : seek? beginMarker beginMarker first = seek? beginMarker beginMarker second) :
    Frame.read? first = Frame.read? second := by
  rw [Frame.read?, Frame.read?, cutAt?, cutAt?, same]
  cases seek? beginMarker beginMarker second <;> rfl

theorem read?_skipBlank (bytes : Bytes) : Frame.read? (skipBlank bytes) = Frame.read? bytes :=
  read?_congr (seek?_skipBlank bytes)

theorem decodeUpTo_skipBlank (limit : Nat) (bytes : Bytes) :
    decodeUpTo limit (skipBlank bytes) = decodeUpTo limit bytes := by
  cases limit with
  | zero => rfl
  | succ limit => rw [decodeUpTo, decodeUpTo, read?_skipBlank]

theorem read?_of_unopened (unopened : ¬ beginMarker <:+: ending) : Frame.read? ending = none := by
  rw [Frame.read?, cutAt?, seek?_eq_none unopened]
  rfl

/-- In the midst of an opening marker another one is not seen, and nothing of it is kept. -/
theorem seek?_midst {pending : Bytes} (suffix : pending <:+ beginMarker) (filled : pending ≠ [])
    (proper : pending ≠ beginMarker) :
    seek? beginMarker pending beginMarker = none ∧
      pendingAfter beginMarker pending beginMarker = beginMarker := by
  have listed : ∀ count < beginMarker.length, 0 < count →
      seek? beginMarker (beginMarker.drop count) beginMarker = none ∧
        pendingAfter beginMarker (beginMarker.drop count) beginMarker = beginMarker := by
    decide
  obtain ⟨front, split⟩ := suffix
  have short := congrArg List.length split
  rw [List.length_append] at short
  have ends : beginMarker.drop front.length = pending := by
    rw [← split, List.drop_left]
  have frontFilled : front ≠ [] := by
    rintro rfl
    exact proper split
  have frontLong := List.length_pos_iff.2 frontFilled
  have pendingLong := List.length_pos_iff.2 filled
  have both := listed front.length (by omega) frontLong
  rwa [ends] at both

/-- Behind a filler that ends in the midst of an opening marker, an opening marker goes
unseen. -/
theorem read?_of_unsettled {filler : Bytes} (unopened : ¬ beginMarker <:+: filler)
    (unsettled : ¬ IsSettled beginMarker filler) (rest : Bytes) :
    Frame.read? (filler ++ (beginMarker ++ rest)) = Frame.read? rest := by
  have missed := seek?_eq_none unopened
  obtain ⟨unseen, fresh⟩ := seek?_midst (pendingAfter_suffix List.suffix_rfl filler)
    (pendingAfter_ne_nil missed) unsettled
  apply read?_congr
  rw [seek?_append_of_none missed, seek?_append_of_none unseen, fresh]

theorem read?_unseen {filler : Bytes} (unopened : ¬ beginMarker <:+: filler)
    (unsettled : ¬ IsSettled beginMarker filler) (block : FramedBlock)
    (last : ¬ beginMarker <:+: dashes ++ rest) :
    Frame.read? (filler ++ (block.text ++ rest)) = none := by
  have absent := not_infix_append (block.passes_inside (dashes ++ rest)) last
  have inner : block.inside ++ (dashes ++ rest) =
      beginMarker.drop dashes.length ++ (block.opening ++ (dashes ++ (block.lineBreak ++
        block.body ++ (endMarker ++ (block.closing ++ (dashes ++ rest)))))) := by
    simp only [FramedBlock.inside, List.append_assoc]
  rw [inner] at absent
  rw [block.text_append, read?_of_unsettled unopened unsettled]
  apply read?_of_unopened
  exact fun stands => absent (stands.trans (List.suffix_append _ _).isInfix)

/-- A block behind a settled filler is decoded first, and then what stands behind it. -/
theorem decodeUpTo_text {filler : Bytes} (unopened : ¬ beginMarker <:+: filler)
    (settled : IsSettled beginMarker filler) (block : FramedBlock) (limit : Nat) (rest : Bytes) :
    decodeUpTo (limit + 1) (filler ++ (block.text ++ rest)) = do
      let decoded ← block.frame.decode
      let blocks ← decodeUpTo limit rest
      return decoded :: blocks := by
  rw [decodeUpTo, block.read?_text unopened settled rest]
  simp only [decodeUpTo_skipBlank]

/-- The reader finds every block behind a settled filler. -/
theorem decodeUpTo_items {limit : Nat} (enough : items.length ≤ limit)
    (unopened : ¬ beginMarker <:+: ending)
    (settled : ∀ item ∈ items, IsSettled beginMarker item.filler)
    (decodes : ∀ item ∈ items, ∃ decoded, item.block.frame.decode = .ok decoded) :
    ∃ blocks, decodeUpTo limit (items.flatMap Item.text ++ ending) = .ok blocks ∧
      List.Forall₂ (fun item decoded => item.block.frame.decode = .ok decoded) items blocks := by
  -- every block takes one of the rounds that the limit allows
  induction items generalizing limit with
  | nil =>
      refine ⟨[], ?_, .nil⟩
      cases limit with
      | zero => rfl
      | succ limit =>
        rw [List.flatMap_nil, List.nil_append, decodeUpTo, read?_of_unopened unopened]
  | cons item items ih =>
      obtain ⟨limit, rfl⟩ := Nat.exists_eq_add_one_of_ne_zero (Nat.ne_of_gt
        (Nat.lt_of_lt_of_le (Nat.succ_pos _) enough))
      obtain ⟨decoded, first⟩ := decodes item List.mem_cons_self
      obtain ⟨blocks, later, matched⟩ := ih (Nat.le_of_succ_le_succ enough)
        (fun other member => settled other (List.mem_cons_of_mem item member))
        (fun other member => decodes other (List.mem_cons_of_mem item member))
      refine ⟨decoded :: blocks, ?_, .cons first matched⟩
      rw [List.flatMap_cons, Item.text, List.append_assoc, List.append_assoc,
        decodeUpTo_text item.unopened (settled item List.mem_cons_self), first, later]
      rfl

/-- The reader refuses the whole text for one block behind a settled filler that does not
decode. -/
theorem decodeUpTo_items_of_undecoded {limit : Nat} (enough : items.length ≤ limit)
    (settled : ∀ item ∈ items, IsSettled beginMarker item.filler)
    (undecoded : ¬ ∀ item ∈ items, ∃ decoded, item.block.frame.decode = .ok decoded) :
    ∃ fault, decodeUpTo limit (items.flatMap Item.text ++ ending) = .error fault := by
  induction items generalizing limit with
  | nil => exact absurd (fun item member => absurd member List.not_mem_nil) undecoded
  | cons item items ih =>
      obtain ⟨limit, rfl⟩ := Nat.exists_eq_add_one_of_ne_zero (Nat.ne_of_gt
        (Nat.lt_of_lt_of_le (Nat.succ_pos _) enough))
      rw [List.flatMap_cons, Item.text, List.append_assoc, List.append_assoc,
        decodeUpTo_text item.unopened (settled item List.mem_cons_self)]
      cases first : item.block.frame.decode with
      | error fault => exact ⟨fault, rfl⟩
      | ok decoded =>
          have later : ¬ ∀ other ∈ items, ∃ decoded, other.block.frame.decode = .ok decoded :=
            fun all => undecoded (List.forall_mem_cons.2 ⟨⟨decoded, first⟩, all⟩)
          obtain ⟨fault, failed⟩ := ih (Nat.le_of_succ_le_succ enough)
            (fun other member => settled other (List.mem_cons_of_mem item member)) later
          exact ⟨fault, by rw [failed]; rfl⟩

theorem length_items (items : List Item) : items.length ≤ (items.flatMap Item.text).length := by
  induction items with
  | nil => exact Nat.le_refl 0
  | cons item items ih =>
      have marker : 0 < item.block.text.length := by
        rw [FramedBlock.text, List.length_append]
        exact Nat.add_pos_left (by decide) _
      simp only [List.flatMap_cons, Item.text, List.length_append, List.length_cons]
      omega

namespace Layout

variable (layout : Layout)

theorem length_items_le_text : layout.items.length ≤ layout.text.length := by
  have texts := length_items layout.items
  rw [text, List.length_append]
  omega

theorem decodeAll_text (decodes : layout.Decodes) (settled : layout.IsSettled) :
    ∃ blocks, decodeAll layout.text = .ok blocks ∧
      List.Forall₂ (fun item decoded => item.block.frame.decode = .ok decoded) layout.items
        blocks :=
  decodeUpTo_items layout.length_items_le_text layout.unopened settled decodes

theorem decodeAll_text_of_not_decodes (undecoded : ¬ layout.Decodes)
    (settled : layout.IsSettled) : ∃ fault, decodeAll layout.text = .error fault :=
  decodeUpTo_items_of_undecoded layout.length_items_le_text settled undecoded

/-- The decoded blocks with the label of a certificate hold the certificates. -/
theorem certificates_of_decoded {blocks : List Block}
    (matched : List.Forall₂ (fun item decoded => item.block.frame.decode = .ok decoded)
      layout.items blocks) :
    (blocks.filter (·.label == certificateLabel)).map Block.contents = layout.certificates := by
  rw [certificates]
  generalize layout.items = items at matched ⊢
  induction matched with
  | nil => rfl
  | @cons item decoded items blocks decodes matched ih =>
      rw [List.filterMap_cons, item.block.certificate?_of_decode decodes, List.filter_cons]
      by_cases named : decoded.label = certificateLabel
      · simp only [named, beq_self_eq_true, if_true, List.map_cons, ih]
      · simp only [named, beq_iff_eq, if_false, ih]

end Layout

end CertScope.Pem

namespace CertScope

/-! ## Bundles -/

variable {bundle : Bytes} {found : List Bytes} {failure : InspectError}

theorem splitBundle_eq_ok :
    splitBundle bundle = .ok found ↔ Pem.certificates bundle = found ∧ found ≠ [] := by
  rw [splitBundle]
  cases Pem.certificates bundle with
  | nil => simp [eq_comm]
  | cons first others =>
      rw [Except.ok.injEq]
      constructor
      · rintro rfl
        exact ⟨rfl, by simp⟩
      · exact And.left

theorem splitBundle_eq_error :
    splitBundle bundle = .error failure ↔
      Pem.certificates bundle = [] ∧ failure = .noCertificateData := by
  rw [splitBundle]
  cases Pem.certificates bundle with
  | nil => simp [eq_comm]
  | cons first others => simp

end CertScope
