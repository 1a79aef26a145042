import CertScope.Asn1.Node
import CertScope.Proofs.Outcome

/-!
# Reading off the front

A reader takes bytes off the front of a byte string.  What it takes and what it
makes of it depend on nothing that stands behind, so that a value can be cut out
of a longer byte string and read again on its own, or be followed by other
bytes.  The headers of the basic and of the distinguished rules are related
here, too: whatever is a header under the latter is the same header under the
former.
-/

namespace CertScope.Asn1

variable {cause first second value : Type}

/-- A reader takes some bytes off the front and does not look behind them. -/
def TakesFront (reader : Reader cause value) : Prop :=
  ∀ ⦃bytes result rest⦄, reader bytes = .ok (result, rest) →
    ∃ taken, bytes = taken ++ rest ∧
      ∀ behind, reader (taken ++ behind) = .ok (result, behind)

/-- What reads whole reads the same with anything behind it. -/
theorem TakesFront.append {reader : Reader cause value} (front : TakesFront reader)
    {bytes : Bytes} {result : value} (read : reader bytes = .ok (result, []))
    (behind : Bytes) : reader (bytes ++ behind) = .ok (result, behind) := by
  obtain ⟨taken, split, again⟩ := front read
  obtain rfl : bytes = taken := split.trans (List.append_nil taken)
  exact again behind

/-- What reads whole has no proper beginning that reads. -/
theorem TakesFront.eq_of_prefix {reader : Reader cause value} (front : TakesFront reader)
    {bytes part rest : Bytes} {result other : value} (read : reader bytes = .ok (result, []))
    (readPart : reader part = .ok (other, rest)) (begins : part <+: bytes) : part = bytes := by
  obtain ⟨more, rfl⟩ := begins
  obtain ⟨taken, rfl, again⟩ := front readPart
  rw [List.append_assoc, again] at read
  obtain ⟨-, nothing⟩ := Prod.mk.inj (Except.ok.inj read)
  obtain ⟨-, rfl⟩ := List.append_eq_nil_iff.1 nothing
  rw [List.append_nil]

theorem takesFront_pure (result : value) :
    TakesFront fun bytes => (pure (result, bytes) : Except (Failure cause) _) := by
  intro bytes given rest read
  obtain ⟨rfl, rfl⟩ := Prod.mk.inj (Outcome.pure_eq_ok.1 read)
  exact ⟨[], rfl, fun behind => rfl⟩

/-- Reading one thing after another looks no further than the second reader. -/
theorem TakesFront.bind {reader : Reader cause first} {next : first → Reader cause second}
    (front : TakesFront reader) (nextFront : ∀ result, TakesFront (next result)) :
    TakesFront fun bytes => reader bytes >>= fun read => next read.1 read.2 := by
  intro bytes result rest read
  obtain ⟨⟨middle, left⟩, readFirst, readNext⟩ := Outcome.bind_eq_ok.1 read
  obtain ⟨taken, rfl, again⟩ := front readFirst
  obtain ⟨takenNext, rfl, againNext⟩ := nextFront middle readNext
  refine ⟨taken ++ takenNext, by simp, ?_⟩
  intro behind
  rw [Outcome.bind_eq_ok]
  exact ⟨(middle, takenNext ++ behind), by simpa using again (takenNext ++ behind),
    againNext behind⟩

/-! ## Headers -/

theorem take_eq_ok {count : Nat} {bytes contents rest : Bytes} :
    (take count bytes : Except (Failure cause) _) = .ok (contents, rest) ↔
      bytes = contents ++ rest ∧ contents.length = count := by
  unfold take
  constructor
  · intro read
    split at read
    · simp at read
    · obtain ⟨rfl, rfl⟩ := Prod.mk.inj (Except.ok.inj read)
      exact ⟨(List.take_append_drop count bytes).symm, by simp; omega⟩
  · rintro ⟨rfl, rfl⟩
    simp

theorem take_takesFront (count : Nat) : TakesFront (take count : Reader cause Bytes) := by
  intro bytes contents rest read
  obtain ⟨rfl, counted⟩ := take_eq_ok.1 read
  exact ⟨contents, rfl, fun behind => take_eq_ok.2 ⟨rfl, counted⟩⟩

theorem readHighTag_takesFront (budget number : Nat) :
    TakesFront (readHighTag budget number) := by
  intro bytes tag rest read
  induction budget generalizing bytes number with
  | zero => cases bytes <;> simp [readHighTag] at read
  | succ budget ih =>
      cases bytes with
      | nil => simp [readHighTag] at read
      | cons octet bytes =>
          simp only [readHighTag] at read
          split at read
          · rename_i last
            obtain ⟨rfl, rfl⟩ := Prod.mk.inj (Except.ok.inj read)
            exact ⟨[octet], rfl, fun behind => by simp [readHighTag, last]⟩
          · rename_i more
            obtain ⟨taken, rfl, again⟩ := ih _ read
            refine ⟨octet :: taken, rfl, fun behind => ?_⟩
            simp only [List.cons_append, readHighTag, more, if_false]
            exact again behind

theorem readIdentifier_takesFront : TakesFront readIdentifier := by
  intro bytes identifier rest read
  cases bytes with
  | nil => simp [readIdentifier] at read
  | cons octet bytes =>
      by_cases high : octet.toNat % 32 = 31
      · simp only [readIdentifier, high, if_true, Outcome.bind_eq_ok, Outcome.pure_eq_ok] at read
        obtain ⟨⟨tag, left⟩, readTag, given⟩ := read
        obtain ⟨rfl, rfl⟩ := Prod.mk.inj given
        obtain ⟨taken, rfl, again⟩ := readHighTag_takesFront 5 0 readTag
        refine ⟨octet :: taken, rfl, fun behind => ?_⟩
        simp only [List.cons_append, readIdentifier, high, if_true, Outcome.bind_eq_ok]
        exact ⟨(tag, behind), again behind, rfl⟩
      · simp only [readIdentifier, high, if_false, Outcome.pure_eq_ok] at read
        obtain ⟨rfl, rfl⟩ := Prod.mk.inj read
        exact ⟨[octet], rfl, fun behind => by simp [readIdentifier, high]⟩

theorem readLength_takesFront (ifIndefinite : Except Error Unit) :
    TakesFront (readLength ifIndefinite) := by
  intro bytes length rest read
  cases bytes with
  | nil => simp [readLength] at read
  | cons octet bytes =>
      by_cases short : octet < 0x80
      · simp only [readLength, short, if_true, Outcome.pure_eq_ok] at read
        obtain ⟨rfl, rfl⟩ := Prod.mk.inj read
        exact ⟨[octet], rfl, fun behind => by simp [readLength, short]⟩
      by_cases indefinite : octet = 0x80
      · subst octet
        cases ifIndefinite with
        | error why => simp [readLength] at read
        | ok allowed =>
            simp only [readLength, short, if_false, if_true, Outcome.pure_eq_ok] at read
            obtain ⟨rfl, rfl⟩ := Prod.mk.inj read
            exact ⟨[0x80], rfl, fun behind => by simp [readLength]⟩
      by_cases reserved : octet = 0xFF
      · subst octet
        simp [readLength] at read
      · simp only [readLength, short, indefinite, reserved, if_false, Outcome.bind_eq_ok] at read
        obtain ⟨⟨digits, left⟩, readDigits, given⟩ := read
        obtain ⟨taken, rfl, again⟩ := take_takesFront _ readDigits
        by_cases fits : 1 <<< 64 ≤ Bytes.value digits
        · simp only [fits, if_true, Outcome.throw_eq_ok] at given
        simp only [fits, if_false, Outcome.pure_eq_ok] at given
        obtain ⟨rfl, rfl⟩ := Prod.mk.inj given
        refine ⟨octet :: taken, rfl, fun behind => ?_⟩
        simp only [List.cons_append, readLength, short, indefinite, reserved, if_false,
          Outcome.bind_eq_ok]
        exact ⟨(digits, behind), again behind, by simp only [fits, if_false]; rfl⟩

theorem readHeader_takesFront : TakesFront readHeader :=
  readIdentifier_takesFront.bind fun identifier =>
    (readLength_takesFront _).bind fun length =>
      takesFront_pure (⟨identifier.1, identifier.2.1, identifier.2.2, length⟩ : Header)

theorem readBasicHeader_takesFront : TakesFront readBasicHeader :=
  readIdentifier_takesFront.bind fun identifier =>
    (readLength_takesFront
      (if identifier.2.1 then .ok () else .error .constructExpected)).bind fun length =>
      takesFront_pure (⟨identifier.1, identifier.2.1, identifier.2.2, length⟩ : Header)

/-- Only definite lengths pass the distinguished rules. -/
theorem readLength_definite {why : Error} {bytes rest : Bytes} {length : Length}
    (read : readLength (.error why) bytes = .ok (length, rest)) :
    ∃ count, length = .definite count := by
  cases bytes with
  | nil => simp [readLength] at read
  | cons octet bytes =>
      simp only [readLength, ite_eq_iff, Outcome.bind_eq_ok, Outcome.pure_eq_ok,
        Outcome.throw_eq_ok, Prod.mk.injEq, and_false, false_or] at read
      obtain ⟨-, rfl, -⟩ | ⟨-, -, -, digits, -, -, rfl, -⟩ := read
      · exact ⟨_, rfl⟩
      · exact ⟨_, rfl⟩

/-- What is allowed about the indefinite form does not bear on a definite length. -/
theorem readLength_congr {first second : Except Error Unit} {bytes rest : Bytes} {count : Nat}
    (read : readLength first bytes = .ok (.definite count, rest)) :
    readLength second bytes = .ok (.definite count, rest) := by
  cases bytes with
  | nil => simp [readLength] at read
  | cons octet bytes =>
      by_cases indefinite : octet = 0x80
      · subst octet
        cases first <;> simp [readLength] at read
      · simp only [readLength, indefinite, if_false] at read ⊢
        exact read

/-- A header under the distinguished rules states a definite length. -/
theorem readHeader_definite {bytes rest : Bytes} {header : Header}
    (read : readHeader bytes = .ok (header, rest)) :
    header.length = .definite header.count := by
  simp only [readHeader, Outcome.bind_eq_ok, Outcome.pure_eq_ok, Prod.mk.injEq] at read
  obtain ⟨identifier, -, ⟨length, left⟩, readLength, rfl, -⟩ := read
  obtain ⟨count, rfl⟩ := readLength_definite readLength
  rfl

/-- A header under the distinguished rules is the same header under the basic
rules. -/
theorem readBasicHeader_of_readHeader {bytes rest : Bytes} {header : Header}
    (read : readHeader bytes = .ok (header, rest)) :
    readBasicHeader bytes = .ok (header, rest) := by
  have definite := readHeader_definite read
  simp only [readHeader, readBasicHeader, Outcome.bind_eq_ok, Outcome.pure_eq_ok] at read ⊢
  obtain ⟨identifier, readIdentifier, ⟨length, left⟩, readLength, given⟩ := read
  obtain ⟨rfl, rfl⟩ := Prod.mk.inj given
  dsimp only at definite
  rw [definite] at readLength
  exact ⟨identifier, readIdentifier, (length, left),
    definite ▸ readLength_congr readLength, rfl⟩

/-- A value under the distinguished rules is the same value under the basic
rules. -/
theorem readBasicElement_of_readElement {bytes rest : Bytes} {element : Element}
    (read : readElement bytes = .ok (element, rest)) :
    readBasicElement bytes = .ok (element, rest) := by
  simp only [readElement, readBasicElement, Outcome.bind_eq_ok, Outcome.pure_eq_ok] at read ⊢
  obtain ⟨⟨header, left⟩, headed, ⟨contents, behind⟩, taken, given⟩ := read
  refine ⟨(header, left), readBasicHeader_of_readHeader headed, (contents, behind), ?_, given⟩
  have shallow : maxDepth ≠ 0 := by decide
  simpa only [takeContents, readHeader_definite headed, shallow, if_false] using taken

end CertScope.Asn1
