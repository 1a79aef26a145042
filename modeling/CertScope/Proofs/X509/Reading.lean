import CertScope.Proofs.Asn1.Front
import CertScope.X509.SignedCertificate

/-!
# Containers and lists

A container is its header, the contents that its inner reader understands, and
what stands behind.  The values of a list are read one behind the other, each
from what the one before it left.
-/

namespace CertScope.X509

open Asn1

variable {cause value : Type}

theorem readContainer_eq_ok {tag : Nat} {inner : Bytes → Except (Failure Fault) value}
    {bytes rest : Bytes} {result : value} :
    readContainer tag inner bytes = .ok (result, rest) ↔
      ∃ header contents, readHeader bytes = .ok (header, contents ++ rest) ∧
        contents.length = header.count ∧ header.tag = tag ∧ inner contents = .ok result := by
  simp only [readContainer, expectTag, ite_eq_iff, Outcome.bind_eq_ok, Outcome.pure_eq_ok,
    Outcome.throw_eq_ok, lift_eq_ok, refuse_eq_ok, false_and, exists_false, and_false, false_or,
    or_false, and_true, exists_const, reduceCtorEq]
  constructor
  · rintro ⟨⟨header, left⟩, headed, enough, tagged, found, read, given⟩
    obtain ⟨rfl, rfl⟩ := Prod.mk.inj given
    refine ⟨header, left.take header.count, by rw [List.take_append_drop]; exact headed, ?_,
      tagged, read⟩
    dsimp only at enough
    rw [List.length_take]
    omega
  · rintro ⟨header, contents, headed, counted, tagged, read⟩
    refine ⟨(header, contents ++ rest), headed, ?_, tagged, result, ?_, ?_⟩
    · simp only [List.length_append]
      omega
    · simpa only [← counted, List.take_left] using read
    · simp only [← counted, List.drop_left]

/-- What a container leaves is the end of what it was read from. -/
theorem readContainer_suffix {tag : Nat} {inner : Bytes → Except (Failure Fault) value}
    {bytes rest : Bytes} {result : value}
    (read : readContainer tag inner bytes = .ok (result, rest)) : rest <:+ bytes := by
  obtain ⟨header, contents, headed, -⟩ := readContainer_eq_ok.1 read
  obtain ⟨taken, rfl, -⟩ := readHeader_takesFront headed
  exact ⟨taken ++ contents, by simp⟩

theorem readContainer_takesFront (tag : Nat) (inner : Bytes → Except (Failure Fault) value) :
    TakesFront (readContainer tag inner) := by
  intro bytes result rest read
  obtain ⟨header, contents, headed, counted, tagged, readInner⟩ := readContainer_eq_ok.1 read
  obtain ⟨taken, rfl, again⟩ := readHeader_takesFront headed
  refine ⟨taken ++ contents, by simp, fun behind => ?_⟩
  exact readContainer_eq_ok.2 ⟨header, contents, by simpa using again (contents ++ behind),
    counted, tagged, readInner⟩

theorem SignedCertificate.read_takesFront : TakesFront SignedCertificate.read :=
  readContainer_takesFront _ _

theorem SignedCertificate.read_nil (certificate : SignedCertificate) (rest : List UInt8) :
    SignedCertificate.read [] ≠ .ok (certificate, rest) := by
  intro read
  cases read

theorem readMany_nil (item : Reader cause value) (steps : Nat) :
    readMany item steps [] = ([], []) := by
  cases steps with
  | zero => rfl
  | succ steps =>
      cases taken : item [] with
      | error failure => simp [readMany, taken]
      | ok step => simp [readMany, taken]

/-- Every value of a list is read from some place in the bytes of the list. -/
theorem mem_readMany {item : Reader cause value}
    (suffix : ∀ {bytes result rest}, item bytes = .ok (result, rest) → rest <:+ bytes)
    {steps : Nat} {bytes : Bytes} {result : value}
    (member : result ∈ (readMany item steps bytes).1) :
    ∃ place rest, place <:+ bytes ∧ item place = .ok (result, rest) := by
  induction steps generalizing bytes with
  | zero => simp [readMany] at member
  | succ steps ih =>
      cases taken : item bytes with
      | error failure => simp [readMany, taken] at member
      | ok step =>
          obtain ⟨first, rest⟩ := step
          by_cases shorter : rest.length < bytes.length
          · simp only [readMany, taken, shorter, if_true, List.mem_cons] at member
            obtain rfl | later := member
            · exact ⟨bytes, rest, List.suffix_refl bytes, taken⟩
            · obtain ⟨place, left, within, read⟩ := ih later
              exact ⟨place, left, within.trans (suffix taken), read⟩
          · simp [readMany, taken, shorter] at member

/-- A value that is whole by itself is the first to be read. -/
theorem exists_readMany_append {item : Reader cause value} (front : TakesFront item)
    (nothing : ∀ result rest, item [] ≠ .ok (result, rest)) {part behind : Bytes}
    {result : value} {steps : Nat} (read : item part = .ok (result, []))
    (enough : (part ++ behind).length ≤ steps) :
    ∃ fewer, behind.length ≤ fewer ∧
      readMany item steps (part ++ behind) =
        (result :: (readMany item fewer behind).1, (readMany item fewer behind).2) := by
  have nonempty : part ≠ [] := by
    rintro rfl
    exact nothing _ _ read
  have positive := List.length_pos_iff.2 nonempty
  obtain ⟨taken, rfl, again⟩ := front read
  have first : item (taken ++ [] ++ behind) = .ok (result, behind) := by
    rw [List.append_nil]
    exact again behind
  have shorter : behind.length < (taken ++ [] ++ behind).length := by
    rw [List.length_append]
    omega
  cases steps with
  | zero => omega
  | succ fewer =>
      refine ⟨fewer, by omega, ?_⟩
      simp only [readMany, first, shorter, if_true]

/-- A list of values that stand one behind the other is read up to the first that cannot be
read, so that a value behind others that can be is among those read. -/
theorem mem_readMany_flatten {item : Reader cause value} (front : TakesFront item)
    (nothing : ∀ result rest, item [] ≠ .ok (result, rest)) {earlier : List Bytes}
    {part behind : Bytes} {result : value} {steps : Nat}
    (before : ∀ other ∈ earlier, ∃ found, item other = .ok (found, []))
    (read : item part = .ok (result, []))
    (enough : (earlier.flatten ++ (part ++ behind)).length ≤ steps) :
    result ∈ (readMany item steps (earlier.flatten ++ (part ++ behind))).1 := by
  induction earlier generalizing steps with
  | nil =>
      obtain ⟨fewer, -, taken⟩ := exists_readMany_append front nothing read enough
      rw [List.flatten_nil, List.nil_append, taken]
      exact List.mem_cons_self
  | cons other earlier ih =>
      obtain ⟨found, whole⟩ := before other List.mem_cons_self
      rw [List.flatten_cons, List.append_assoc] at enough ⊢
      obtain ⟨fewer, left, taken⟩ := exists_readMany_append front nothing whole enough
      rw [taken]
      exact List.mem_cons_of_mem _
        (ih (fun one member => before one (List.mem_cons_of_mem _ member)) left)

end CertScope.X509
