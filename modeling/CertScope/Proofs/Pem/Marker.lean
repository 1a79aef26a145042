import CertScope.Pem
import Mathlib.Data.List.Infix

/-!
# Where markers are found

Two searches look for the markers of a block.  `Bytes.breakOn?` finds the first place at
which a marker stands.  `seek?` passes over the text once and forgets a marker that
breaks off, together with the byte at which it does, so that it may miss a marker that
`Bytes.breakOn?` finds.  Both are described on a text that is put together from parts:
what they find in the first part, and whether they go on into the second as if it stood
alone.
-/

namespace CertScope.Bytes

variable {marker first second before after : Bytes}

/-! ## The first place -/

theorem breakOn?_eq_none_iff : breakOn? marker first = none ↔ ¬ marker <:+: first := by
  induction first with
  | nil => simp [breakOn?]
  | cons byte rest ih =>
      by_cases stands : marker.isPrefixOf (byte :: rest)
      · simp [breakOn?, stands, List.infix_cons_iff, List.isPrefixOf_iff_prefix.1 stands]
      · have absent : ¬ marker <+: byte :: rest := mt List.isPrefixOf_iff_prefix.2 stands
        simp [breakOn?, stands, List.infix_cons_iff, absent, ih]

theorem breakOn?_append_right (found : breakOn? marker first = some (before, after))
    (second : Bytes) : breakOn? marker (first ++ second) = some (before, after ++ second) := by
  induction first generalizing before with
  | nil =>
      have empty : marker = [] := by
        by_contra nonempty
        simp [breakOn?, nonempty] at found
      subst empty
      obtain ⟨rfl, rfl⟩ : before = [] ∧ after = [] := by simpa [breakOn?, eq_comm] using found
      cases second <;> simp [breakOn?]
  | cons byte rest ih =>
      by_cases stands : marker.isPrefixOf (byte :: rest)
      · have longer : marker.isPrefixOf (byte :: (rest ++ second)) := by
          rw [List.isPrefixOf_iff_prefix] at stands ⊢
          exact stands.trans (List.prefix_append (byte :: rest) second)
        simp only [breakOn?, stands, if_true, Option.some.injEq, Prod.mk.injEq] at found
        obtain ⟨rfl, rfl⟩ := found
        simp [breakOn?, longer]
      · simp only [breakOn?, if_neg stands, Option.map_eq_some_iff] at found
        obtain ⟨⟨inner, behind⟩, found, same⟩ := found
        obtain ⟨rfl, rfl⟩ := Prod.mk.inj same
        have fits : marker.length ≤ (byte :: rest).length := by
          have begins := List.isPrefixOf_iff_prefix.1 (breakOn?_isPrefixOf found)
          have parts := congrArg List.length (breakOn?_append found)
          have short := begins.length_le
          simp only [List.length_append, List.length_cons] at parts ⊢
          omega
        have absent : ¬ marker.isPrefixOf (byte :: (rest ++ second)) := by
          rw [List.isPrefixOf_iff_prefix] at stands ⊢
          intro longer
          exact stands (List.prefix_of_prefix_length_le longer
            (List.prefix_append (byte :: rest) second) fits)
        simp [breakOn?, absent, ih found]

theorem not_infix_of_breakOn? (found : breakOn? marker first = some (before, after))
    (filled : marker ≠ []) : ¬ marker <:+: before := by
  intro stands
  have earlier : breakOn? marker before ≠ none := mt breakOn?_eq_none_iff.1 (not_not.2 stands)
  obtain ⟨⟨inner, behind⟩, met⟩ := Option.ne_none_iff_exists'.1 earlier
  have longer := breakOn?_append_right met after
  rw [breakOn?_append found, found] at longer
  obtain ⟨rfl, -⟩ := Prod.mk.inj (Option.some.inj longer)
  have empty : behind = [] := by simpa using breakOn?_append met
  have begins := List.isPrefixOf_iff_prefix.1 (breakOn?_isPrefixOf met)
  rw [empty, List.prefix_nil] at begins
  exact filled begins

/-- No marker stands across the end of one text and the start of another. -/
def Apart (marker first second : Bytes) : Prop :=
  ∀ head tail, marker = head ++ tail → head ≠ [] → tail ≠ [] → head <:+ first →
    ¬ tail <+: second

/-- A text that ends in a byte which the marker does not have keeps it apart from all that
follows. -/
theorem Apart.of_getLast (foreign : ∀ byte ∈ first.getLast?, byte ∉ marker) (second : Bytes) :
    Apart marker first second := by
  rintro head tail rfl headFilled - ⟨front, rfl⟩
  have last := List.getLast?_eq_some_getLast headFilled
  have member := foreign (head.getLast headFilled) (by
    rw [List.getLast?_append_of_ne_nil front headFilled]
    exact last)
  exact fun _ => member (List.mem_append_left tail (List.getLast_mem headFilled))

theorem Apart.of_take
    (foreign : ∀ count < marker.length, 0 < count → ¬ marker.take count <:+ first)
    (second : Bytes) : Apart marker first second := by
  rintro head tail rfl headFilled tailFilled ends
  have headLong := List.length_pos_iff.2 headFilled
  have tailLong := List.length_pos_iff.2 tailFilled
  have short : head.length < (head ++ tail).length := by
    rw [List.length_append]
    omega
  have starts := foreign head.length short headLong
  rw [List.take_left] at starts
  exact absurd ends starts

theorem Apart.of_head (foreign : ∀ byte ∈ marker.head?, byte ∉ first) (second : Bytes) :
    Apart marker first second := by
  rintro head tail rfl headFilled - ends
  have leading := foreign (head.head headFilled) (by
    rw [List.head?_append_of_ne_nil head headFilled]
    exact List.head?_eq_some_head headFilled)
  exact fun _ => leading (ends.subset (List.head_mem headFilled))

theorem Apart.of_next (foreign : ∀ byte ∈ second.head?, byte ∉ marker) (first : Bytes) :
    Apart marker first second := by
  rintro head tail rfl - tailFilled - ⟨rest, rfl⟩
  have leading := foreign (tail.head tailFilled) (by
    rw [List.head?_append_of_ne_nil tail tailFilled]
    exact List.head?_eq_some_head tailFilled)
  exact leading (List.mem_append_right head (List.head_mem tailFilled))

/-- A text keeps a marker apart from all that stands in front when no proper end of the marker
goes together with what the text starts with. -/
theorem Apart.of_start {start : Bytes} (differs : ∀ count < marker.length, 0 < count →
      ¬ marker.drop count <+: start ∧ ¬ start <+: marker.drop count)
    (begins : start <+: second) (first : Bytes) : Apart marker first second := by
  rintro head tail rfl headFilled tailFilled - goesOn
  have headLong := List.length_pos_iff.2 headFilled
  have tailLong := List.length_pos_iff.2 tailFilled
  have short : head.length < (head ++ tail).length := by
    rw [List.length_append]
    omega
  have neither := differs head.length short headLong
  rw [List.drop_left] at neither
  rcases List.prefix_or_prefix_of_prefix goesOn begins with inside | longer
  · exact neither.1 inside
  · exact neither.2 longer

/-- No proper end of the marker is a start of it. -/
def Unbordered (marker : Bytes) : Prop :=
  ∀ count < marker.length, 0 < count → ¬ marker.drop count <+: marker

instance : Decidable (Unbordered marker) :=
  inferInstanceAs (Decidable (∀ count < marker.length, 0 < count → ¬ marker.drop count <+: marker))

/-- A marker without such an end that starts a text starts no earlier. -/
theorem Apart.of_unbordered (unbordered : Unbordered marker) (begins : marker <+: second)
    (first : Bytes) : Apart marker first second := by
  refine Apart.of_start (fun count short positive => ⟨unbordered count short positive, ?_⟩)
    begins first
  intro whole
  have bound := whole.length_le
  rw [List.length_drop] at bound
  omega

/-! ## Texts that are passed over -/

/-- The search for a marker passes over the first text. -/
structure Passes (marker first second : Bytes) : Prop where
  absent : ¬ marker <:+: first
  apart : Apart marker first second

/-- No marker starts in a text that is passed over. -/
theorem Passes.not_prefix {rest : Bytes} (passes : Passes marker first second)
    (ends : rest <:+ first) (filled : rest ≠ []) : ¬ marker <+: rest ++ second := by
  intro stands
  rcases List.prefix_or_prefix_of_prefix stands (List.prefix_append rest second) with
    inside | ⟨tail, split⟩
  · exact passes.absent (inside.isInfix.trans ends.isInfix)
  · have tailFilled : tail ≠ [] := by
      rintro rfl
      rw [List.append_nil] at split
      exact passes.absent (split ▸ ends.isInfix)
    rw [← split] at stands
    exact passes.apart rest tail split.symm filled tailFilled ends
      ((List.prefix_append_right_inj rest).1 stands)

theorem not_infix_of_head (foreign : ∀ byte ∈ marker.head?, byte ∉ first)
    (filled : marker ≠ []) : ¬ marker <:+: first := by
  intro stands
  exact foreign (marker.head filled) (List.head?_eq_some_head filled)
    (stands.subset (List.head_mem filled))

theorem Passes.of_head (foreign : ∀ byte ∈ marker.head?, byte ∉ first) (filled : marker ≠ [])
    (second : Bytes) : Passes marker first second :=
  ⟨not_infix_of_head foreign filled, Apart.of_head foreign second⟩

theorem Passes.of_getLast (absent : ¬ marker <:+: first)
    (foreign : ∀ byte ∈ first.getLast?, byte ∉ marker) (second : Bytes) :
    Passes marker first second :=
  ⟨absent, Apart.of_getLast foreign second⟩

theorem Passes.of_marker (unbordered : Unbordered marker) (absent : ¬ marker <:+: first)
    (rest : Bytes) : Passes marker first (marker ++ rest) :=
  ⟨absent, Apart.of_unbordered unbordered (List.prefix_append marker rest) first⟩

/-- Behind a text that is passed over, the marker is searched for in the second. -/
theorem breakOn?_append_of_passes (passes : Passes marker first second) :
    breakOn? marker (first ++ second) =
      (breakOn? marker second).map fun cut => (first ++ cut.1, cut.2) := by
  induction first with
  | nil => simp
  | cons byte rest ih =>
      have behind : rest <:+ byte :: rest := List.suffix_cons byte rest
      have later := ih ⟨fun stands => passes.absent (stands.trans behind.isInfix),
        fun head tail split headFilled tailFilled ends =>
          passes.apart head tail split headFilled tailFilled (ends.trans behind)⟩
      have notHere : ¬ marker.isPrefixOf (byte :: (rest ++ second)) := by
        rw [List.isPrefixOf_iff_prefix]
        exact passes.not_prefix List.suffix_rfl (List.cons_ne_nil byte rest)
      simp [breakOn?, notHere, later, Function.comp_def]

theorem not_infix_append (passes : Passes marker first second) (later : ¬ marker <:+: second) :
    ¬ marker <:+: first ++ second := by
  rw [← breakOn?_eq_none_iff] at later ⊢
  rw [breakOn?_append_of_passes passes, later, Option.map_none]

theorem Passes.append {third : Bytes} (front : Passes marker first (second ++ third))
    (back : Passes marker second third) : Passes marker (first ++ second) third where
  absent := by
    refine not_infix_append ⟨front.absent, ?_⟩ back.absent
    intro head tail split headFilled tailFilled ends goesOn
    exact front.apart head tail split headFilled tailFilled ends
      (goesOn.trans (List.prefix_append second third))
  apart := by
    intro head tail split headFilled tailFilled ends goesOn
    rcases List.suffix_or_suffix_of_suffix ends (List.suffix_append first second) with
      inside | ⟨missing, whole⟩
    · exact back.apart head tail split headFilled tailFilled inside goesOn
    · subst whole
      by_cases complete : missing = []
      · subst complete
        exact back.apart second tail split headFilled tailFilled List.suffix_rfl goesOn
      · apply front.apart missing (second ++ tail) (by rw [split, List.append_assoc]) complete
        · simp [tailFilled]
        · exact List.suffix_append_self_iff.1 ends
        · exact (List.prefix_append_right_inj second).2 goesOn

/-- A text that is passed over for a marker is passed over for a longer one. -/
theorem Passes.append_marker (passes : Passes marker first second) (more : Bytes) :
    Passes (marker ++ more) first second where
  absent := fun stands => passes.absent ((List.prefix_append marker more).isInfix.trans stands)
  apart := by
    intro head tail split headFilled tailFilled ends goesOn
    rcases List.append_eq_append_iff.1 split with ⟨inside, rfl, rfl⟩ | ⟨missing, whole, rfl⟩
    · exact passes.absent ((List.prefix_append marker inside).isInfix.trans ends.isInfix)
    · by_cases complete : missing = []
      · subst complete
        rw [List.append_nil] at whole
        exact passes.absent (whole ▸ ends.isInfix)
      · exact passes.apart head missing whole headFilled complete ends
          ((List.prefix_append missing more).trans goesOn)

/-- A text that is passed over in front of a marker is cut off. -/
theorem breakOn?_marker (passes : Passes marker first (marker ++ second)) (filled : marker ≠ []) :
    breakOn? marker (first ++ (marker ++ second)) = some (first, marker ++ second) := by
  rw [breakOn?_append_of_passes passes]
  cases marker with
  | nil => exact absurd rfl filled
  | cons byte rest =>
      have stands : (byte :: rest).isPrefixOf (byte :: (rest ++ second)) :=
        List.isPrefixOf_iff_prefix.2 (List.prefix_append (byte :: rest) second)
      simp [breakOn?, stands]

end CertScope.Bytes

namespace CertScope.Pem

variable {marker pending first second rest : Bytes}

/-! ## The single pass -/

/-- What is missing of the marker behind a text when `pending` is missing in front of it. -/
def pendingAfter (marker : Bytes) : (pending : Bytes) → Bytes → Bytes
  | pending, [] => pending
  | [], _ :: _ => []
  | next :: pending, byte :: rest =>
      pendingAfter marker (if byte = next then pending else marker) rest

theorem seek?_append_of_none (missed : seek? marker pending first = none) (second : Bytes) :
    seek? marker pending (first ++ second) =
      seek? marker (pendingAfter marker pending first) second := by
  induction first generalizing pending with
  | nil => cases pending <;> rfl
  | cons byte bytes ih =>
      cases pending with
      | nil => simp [seek?] at missed
      | cons next pending => exact ih missed

/-- What is missing of a marker is an end of it. -/
theorem pendingAfter_suffix (suffix : pending <:+ marker) (first : Bytes) :
    pendingAfter marker pending first <:+ marker := by
  induction first generalizing pending with
  | nil => cases pending <;> exact suffix
  | cons byte bytes ih =>
      cases pending with
      | nil => exact suffix
      | cons next pending =>
          by_cases same : byte = next
          · simpa [pendingAfter, same] using ih ((List.suffix_cons next pending).trans suffix)
          · simpa [pendingAfter, same] using ih List.suffix_rfl

theorem pendingAfter_ne_nil (missed : seek? marker pending first = none) :
    pendingAfter marker pending first ≠ [] := by
  induction first generalizing pending with
  | nil =>
      cases pending with
      | nil => simp [seek?] at missed
      | cons next pending => simp [pendingAfter]
  | cons byte bytes ih =>
      cases pending with
      | nil => simp [seek?] at missed
      | cons next pending => exact ih missed

/-- What is missing of a marker is seen when it follows. -/
theorem seek?_pending (marker pending rest : Bytes) :
    seek? marker pending (pending ++ rest) = some rest := by
  induction pending with
  | nil => simp [seek?]
  | cons next pending ih => simpa [seek?] using ih

/-- A marker is only seen where it stands.  `done` is the part of it that stands in front of
the text. -/
theorem split_of_seek? (done : Bytes) (found : seek? marker pending first = some rest)
    (split : marker = done ++ pending) : ∃ before, done ++ first = before ++ (marker ++ rest) := by
  induction first generalizing pending done with
  | nil =>
      cases pending with
      | nil =>
          obtain rfl : [] = rest := by simpa [seek?] using found
          exact ⟨[], by simp [split]⟩
      | cons next pending => simp [seek?] at found
  | cons byte bytes ih =>
      cases pending with
      | nil =>
          obtain rfl : byte :: bytes = rest := by simpa [seek?] using found
          exact ⟨[], by simp [split]⟩
      | cons next pending =>
          by_cases same : byte = next
          · subst same
            have met := ih (done ++ [byte]) (by simpa [seek?] using found)
              (by simpa using split)
            simpa using met
          · obtain ⟨before, afresh⟩ := ih [] (by simpa [seek?, same] using found) rfl
            rw [List.nil_append] at afresh
            exact ⟨done ++ byte :: before, by simp [afresh]⟩

theorem seek?_eq_none (absent : ¬ marker <:+: first) : seek? marker marker first = none := by
  by_contra seen
  obtain ⟨rest, found⟩ := Option.ne_none_iff_exists'.1 seen
  obtain ⟨before, split⟩ := split_of_seek? [] found rfl
  rw [List.nil_append] at split
  exact absent ⟨before, rest, by rw [split, List.append_assoc]⟩

theorem append_of_cutAt? {before : Bytes} (found : cutAt? marker first = some (before, rest)) :
    first = before ++ (marker ++ rest) := by
  obtain ⟨seen, same⟩ : seek? marker marker first = some rest ∧
      first.take (first.length - rest.length - marker.length) = before := by
    simpa [cutAt?, and_comm] using found
  obtain ⟨front, split⟩ := split_of_seek? [] seen rfl
  rw [List.nil_append] at split
  have short : first.length - rest.length - marker.length = front.length := by
    rw [split]
    simp only [List.length_append]
    omega
  rw [short, split, List.take_left] at same
  rw [split, same]

/-- A text is settled for a marker when it does not end in the midst of one. -/
def IsSettled (marker text : Bytes) : Prop := pendingAfter marker marker text = marker

instance (text : Bytes) : Decidable (IsSettled marker text) :=
  inferInstanceAs (Decidable (_ = _))

theorem isSettled_of_head (foreign : ∀ byte ∈ marker.head?, byte ∉ first) :
    IsSettled marker first := by
  induction first with
  | nil => cases marker <;> rfl
  | cons byte bytes ih =>
      cases marker with
      | nil => rfl
      | cons next pending =>
          have differs : byte ≠ next := by
            rintro rfl
            exact foreign byte rfl List.mem_cons_self
          have later : IsSettled (next :: pending) bytes := ih (by
            intro found leading member
            exact foreign found leading (List.mem_cons_of_mem _ member))
          simpa [IsSettled, pendingAfter, differs] using later

/-- Behind a settled text a marker is searched for as in a text of its own. -/
theorem seek?_append_of_isSettled (absent : ¬ marker <:+: first)
    (settled : IsSettled marker first) (second : Bytes) :
    seek? marker marker (first ++ second) = seek? marker marker second := by
  rw [seek?_append_of_none (seek?_eq_none absent), settled]

theorem cutAt?_marker (absent : ¬ marker <:+: first) (settled : IsSettled marker first)
    (rest : Bytes) : cutAt? marker (first ++ (marker ++ rest)) = some (first, rest) := by
  have seen : seek? marker marker (first ++ (marker ++ rest)) = some rest := by
    rw [seek?_append_of_isSettled absent settled, seek?_pending]
  have front : (first ++ (marker ++ rest)).length - rest.length - marker.length =
      first.length := by
    simp only [List.length_append]
    omega
  rw [cutAt?, seen, Option.map_some, front, List.take_left]

theorem cutAt?_of_head (foreign : ∀ byte ∈ marker.head?, byte ∉ first) (filled : marker ≠ [])
    (rest : Bytes) : cutAt? marker (first ++ (marker ++ rest)) = some (first, rest) :=
  cutAt?_marker (Bytes.not_infix_of_head foreign filled) (isSettled_of_head foreign) rest

end CertScope.Pem
