import CertScope.Asn1.Strict
import CertScope.Proofs.X509.Reading

/-!
# Strict values read leniently

What is a value to the strict reader is the same value, with the same contents and
the same bytes behind it, to the lenient reader.  The converse fails, so that every
comparison of the two starts from a value that was read strictly.
-/

namespace CertScope.Strict

open Asn1 X509

variable {tag : UInt8} {bytes contents rest : Bytes} {value : Type}

theorem take?_eq_some {count : Nat} :
    take? count bytes = some (contents, rest) ↔
      bytes = contents ++ rest ∧ contents.length = count := by
  unfold take?
  constructor
  · intro taken
    split at taken
    · simp at taken
    · obtain ⟨rfl, rfl⟩ := Prod.mk.inj (Option.some.inj taken)
      refine ⟨(List.take_append_drop count bytes).symm, ?_⟩
      rw [List.length_take]
      omega
  · rintro ⟨rfl, rfl⟩
    simp

/-- The long form, with the digits of the length behind their number. -/
theorem readLength_long {verdict : Except Asn1.Error Unit} {octet : UInt8} (digits : Bytes)
    (long : 0x80 < octet) (reserved : octet ≠ 0xFF) (counted : digits.length = octet.toNat - 128)
    (fits : Bytes.value digits < 1 <<< 64) :
    readLength verdict (octet :: (digits ++ rest)) =
      .ok (.definite (Bytes.value digits), rest) := by
  have short : ¬ octet < 0x80 := UInt8.not_lt.2 (UInt8.le_of_lt long)
  have indefinite : octet ≠ 0x80 := (UInt8.ne_of_lt long).symm
  simp only [readLength, short, indefinite, reserved, if_false, Outcome.bind_eq_ok]
  exact ⟨(digits, rest), take_eq_ok.2 ⟨rfl, counted⟩, if_neg (Nat.not_le.2 fits)⟩

theorem readLength_of_length? (verdict : Except Asn1.Error Unit) {length : Nat}
    (read : length? bytes = some (length, rest)) :
    readLength verdict bytes = .ok (.definite length, rest) := by
  unfold length? at read
  split at read
  · simp at read
  · rename_i low behind
    split at read
    · simp at read
    · obtain ⟨rfl, rfl⟩ := Prod.mk.inj (Option.some.inj read)
      have value_low : Bytes.value [low] = low.toNat := by simp [Bytes.value]
      have fits : Bytes.value [low] < 1 <<< 64 := by
        have small := low.toNat_lt
        omega
      rw [← value_low]
      exact readLength_long [low] (by decide) (by decide) (by simp) fits
  · rename_i high low behind
    dsimp only at read
    split at read
    · simp at read
    · obtain ⟨rfl, rfl⟩ := Prod.mk.inj (Option.some.inj read)
      have value_pair : Bytes.value [high, low] = high.toNat * 256 + low.toNat := by
        simp [Bytes.value]
      have fits : Bytes.value [high, low] < 1 <<< 64 := by
        have small := high.toNat_lt
        have alsoSmall := low.toNat_lt
        omega
      rw [← value_pair]
      exact readLength_long [high, low] (by decide) (by decide) (by simp) fits
  · rename_i octet behind _ _
    split at read
    · rename_i short
      obtain ⟨rfl, rfl⟩ := Prod.mk.inj (Option.some.inj read)
      simp only [readLength, short, if_true]
      rfl
    · simp at read

/-- The lenient header of a strict value. -/
def headerOf (tag : UInt8) (contents : Bytes) : Header :=
  ⟨.ofOctet tag, tag.toNat / 32 % 2 == 1, tag.toNat % 32, .definite contents.length⟩

theorem expect?_eq_some :
    expect? tag bytes = some (contents, rest) ↔
      ∃ others, bytes = tag :: others ∧ tag.toNat % 32 ≠ 31 ∧
        length? others = some (contents.length, contents ++ rest) := by
  cases bytes with
  | nil => simp [expect?, value?]
  | cons octet others =>
      by_cases high : octet.toNat % 32 = 31
      · simp only [expect?, value?, high, if_true, Option.bind_eq_bind, Option.bind_none,
          reduceCtorEq, List.cons.injEq, false_iff]
        rintro ⟨_, ⟨rfl, -⟩, low, -⟩
        exact low high
      simp only [expect?, value?, high, if_false, Option.bind_eq_bind, Option.bind_eq_some_iff,
        Option.pure_def, Option.some.injEq, Prod.exists, Prod.mk.injEq,
        Option.ite_none_right_eq_some]
      constructor
      · rintro ⟨_, _, _, ⟨length, left, measured, _, _, took, rfl, rfl, rfl⟩, rfl, rfl, rfl⟩
        obtain ⟨rfl, rfl⟩ := take?_eq_some.1 took
        exact ⟨others, rfl, high, measured⟩
      · rintro ⟨_, equal, -, measured⟩
        obtain ⟨rfl, rfl⟩ := List.cons.inj equal
        exact ⟨_, _, _, ⟨_, _, measured, _, _, take?_eq_some.2 ⟨rfl, rfl⟩, rfl, rfl, rfl⟩,
          rfl, rfl, rfl⟩

theorem isEmpty_of_expect? (read : expect? tag bytes = some (contents, rest)) :
    bytes.isEmpty = false := by
  obtain ⟨others, rfl, -⟩ := expect?_eq_some.1 read
  rfl

theorem readHeader_of_expect? (read : expect? tag bytes = some (contents, rest)) :
    readHeader bytes = .ok (headerOf tag contents, contents ++ rest) := by
  obtain ⟨others, rfl, low, measured⟩ := expect?_eq_some.1 read
  simp only [readHeader, readIdentifier, low, if_false, Outcome.bind_eq_ok]
  exact ⟨_, rfl, _, readLength_of_length? _ measured, rfl⟩

/-- A value takes at least the octet of its tag. -/
theorem length_of_expect? (read : expect? tag bytes = some (contents, rest)) :
    rest.length < bytes.length := by
  obtain ⟨others, rfl, -, measured⟩ := expect?_eq_some.1 read
  have front := readLength_of_length? (.ok ()) measured
  obtain ⟨taken, rfl, -⟩ := readLength_takesFront _ front
  simp only [List.length_cons, List.length_append]
  omega

theorem readElement_of_expect? (read : expect? tag bytes = some (contents, rest)) :
    readElement bytes = .ok (⟨headerOf tag contents, contents⟩, rest) := by
  simp only [readElement, Outcome.bind_eq_ok]
  exact ⟨_, readHeader_of_expect? read, _, take_eq_ok.2 ⟨rfl, rfl⟩, rfl⟩

/-- A container that is a strict value is read from the contents of the value. -/
theorem readContainer_of_expect? {inner : Bytes → Except (Failure Fault) value}
    {number : Nat} {left : Bytes} {result : value}
    (read : expect? tag bytes = some (contents, rest))
    (readLenient : readContainer number inner bytes = .ok (result, left)) :
    inner contents = .ok result ∧ left = rest := by
  obtain ⟨header, inside, headed, counted, -, readInner⟩ := readContainer_eq_ok.1 readLenient
  rw [readHeader_of_expect? read] at headed
  obtain ⟨rfl, split⟩ := Prod.mk.inj (Except.ok.inj headed)
  obtain ⟨rfl, rfl⟩ := List.append_inj split counted.symm
  exact ⟨readInner, rfl⟩

/-- A container is read off a strict value when its contents are. -/
theorem readContainer_eq_ok_of_expect? {inner : Bytes → Except (Failure Fault) value}
    {result : value} (read : expect? tag bytes = some (contents, rest))
    (readInner : inner contents = .ok result) :
    readContainer (tag.toNat % 32) inner bytes = .ok (result, rest) :=
  readContainer_eq_ok.2 ⟨_, contents, readHeader_of_expect? read, rfl, rfl, readInner⟩

end CertScope.Strict
