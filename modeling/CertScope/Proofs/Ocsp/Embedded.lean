import CertScope.Proofs.Ocsp.Check
import Mathlib.Data.List.Forall2

/-!
# The certificates that a response brings

Behind the header of their sequence the certificates are read one behind the other, from all
the bytes that are there, until these end or no certificate can be read.  A certificate is
never read from no bytes and does not depend on what stands behind it.  The reading therefore
ends on all bytes, and it gives exactly the certificates that they begin with.
-/

namespace CertScope.X509

open Asn1

variable {cause value : Type}

/-! ## Values one behind the other -/

/-- Read values one behind the other as long as there are bytes and a value can be read.  At most
`turns` turns give the values and what is left of the bytes, or nothing if the reading would
go on. -/
def readWithin (item : Reader cause value) : (turns : Nat) → Bytes → Option (List value × Bytes)
  | 0, _ => none
  | turns + 1, bytes =>
      if bytes.isEmpty then some ([], bytes)
      else
        match item bytes with
        | .error _ => some ([], bytes)
        | .ok (first, rest) =>
            (readWithin item turns rest).map fun others => (first :: others.1, others.2)

/-- The bytes list some values: in front stand their encodings, one behind the other, and what
is left is empty or does not begin with a value. -/
structure Lists (item : Reader cause value) (bytes : Bytes) (encodings : List Bytes)
    (values : List value) (rest : Bytes) : Prop where
  encoded : List.Forall₂ (fun encoding value => item encoding = .ok (value, [])) encodings values
  split : bytes = encodings.flatten ++ rest
  ends : rest = [] ∨ ∃ failure, item rest = .error failure

variable {item : Reader cause value} {bytes rest : Bytes} {encodings : List Bytes}
  {values : List value}

section

variable (front : TakesFront item) (nothing : ∀ result rest, item [] ≠ .ok (result, rest))

include front nothing

theorem length_lt_of_read {result : value} (read : item bytes = .ok (result, rest)) :
    rest.length < bytes.length := by
  obtain ⟨taken, rfl, again⟩ := front read
  have filled : taken ≠ [] := by
    rintro rfl
    exact nothing _ _ (again [])
  rw [List.length_append]
  exact Nat.lt_add_of_pos_left (List.length_pos_iff.2 filled)

theorem exists_lists (bytes : Bytes) :
    ∃ encodings values rest, Lists item bytes encodings values rest := by
  induction size : bytes.length using Nat.strong_induction_on generalizing bytes with
  | h size ih =>
      subst size
      cases read : item bytes with
      | error failure => exact ⟨[], [], bytes, .nil, rfl, Or.inr ⟨failure, read⟩⟩
      | ok step =>
          obtain ⟨first, left⟩ := step
          have shorter := length_lt_of_read front nothing read
          obtain ⟨taken, rfl, again⟩ := front read
          obtain ⟨encodings, values, rest, encoded, split, ends⟩ := ih left.length shorter left rfl
          have whole : item taken = .ok (first, []) := by simpa using again []
          refine ⟨taken :: encodings, first :: values, rest, .cons whole encoded, ?_, ends⟩
          rw [split, List.flatten_cons, List.append_assoc]

/-- The values that are listed are read, and nothing else is. -/
theorem Lists.readMany_eq (lists : Lists item bytes encodings values rest) {steps : Nat}
    (enough : bytes.length ≤ steps) : readMany item steps bytes = (values, rest) := by
  obtain ⟨encoded, split, ends⟩ := lists
  induction encoded generalizing bytes steps with
  | nil =>
      obtain rfl : bytes = rest := split
      obtain rfl | ⟨failure, failed⟩ := ends
      · exact readMany_nil item steps
      · cases steps with
        | zero => rfl
        | succ steps => rw [readMany, failed]
  | cons read _ ih =>
      rw [List.flatten_cons, List.append_assoc] at split
      subst split
      obtain ⟨fewer, left, taken⟩ := exists_readMany_append front nothing read enough
      rw [taken, ih left rfl]

/-- Reading ends behind the values that are listed.  Each turn takes some bytes, so that their
number bounds that of the turns. -/
theorem Lists.readWithin_eq (lists : Lists item bytes encodings values rest) {turns : Nat}
    (enough : bytes.length < turns) : readWithin item turns bytes = some (values, rest) := by
  obtain ⟨encoded, split, ends⟩ := lists
  induction encoded generalizing bytes turns with
  | nil =>
      obtain rfl : bytes = rest := split
      obtain ⟨turns, rfl⟩ := Nat.exists_eq_add_one_of_ne_zero (Nat.ne_zero_of_lt enough)
      obtain rfl | ⟨failure, failed⟩ := ends
      · rfl
      · rw [readWithin, failed, ite_self]
  | @cons encoding first encodings values read _ ih =>
      rw [List.flatten_cons, List.append_assoc] at split
      subst split
      obtain ⟨turns, rfl⟩ := Nat.exists_eq_add_one_of_ne_zero (Nat.ne_zero_of_lt enough)
      have here := front.append read (encodings.flatten ++ rest)
      have shorter := length_lt_of_read front nothing here
      have filled : (encoding ++ (encodings.flatten ++ rest)).isEmpty = false := by
        rw [List.isEmpty_eq_false_iff, ← List.length_pos_iff]
        omega
      have later : readWithin item turns (encodings.flatten ++ rest) = some (values, rest) :=
        ih (by omega) rfl
      simp only [readWithin, filled, here, later, Bool.false_eq_true, if_false, Option.map_some]

end

end CertScope.X509

namespace CertScope.Ocsp.BasicResponse

open Asn1 X509

variable {explicit content rest : Bytes} {header : Header} {encodings : List Bytes}
  {certificates : List SignedCertificate}

theorem readMany_of_lists
    (lists : Lists SignedCertificate.read content encodings certificates rest) :
    readMany SignedCertificate.read content.length content = (certificates, rest) :=
  lists.readMany_eq SignedCertificate.read_takesFront SignedCertificate.read_nil (Nat.le_refl _)

/-- Behind the header of a sequence the certificates are read that the bytes list. -/
theorem embeddedCertificates_of_lists (headed : readHeader explicit = .ok (header, content))
    (sequence : header.tag = Tag.sequence)
    (lists : Lists SignedCertificate.read content encodings certificates rest) :
    embeddedCertificates explicit = .ok certificates := by
  simp only [embeddedCertificates, Outcome.bind_eq_ok, readOrRefuse_eq_ok]
  refine ⟨_, headed, ?_⟩
  simp only [sequence, ne_eq, not_true_eq_false, if_false, readMany_of_lists lists]
  rfl

/-- Whatever stands behind the header of a sequence, reading the certificates in it comes to an
end.  The encodings of those that are read, one behind the other, are what the reading has
taken, and it stops only at the end of the bytes or in front of bytes that do not begin with
a certificate.  Where encodings of certificates stand in front of such bytes, it therefore
gives these certificates in their order and no others. -/
theorem embeddedCertificates_in_order (headed : readHeader explicit = .ok (header, content))
    (sequence : header.tag = Tag.sequence) :
    ∃ encodings certificates rest,
      Lists SignedCertificate.read content encodings certificates rest ∧
      (∀ turns, content.length < turns →
        readWithin SignedCertificate.read turns content = some (certificates, rest)) ∧
      embeddedCertificates explicit = .ok certificates ∧
      ∀ others found behind, Lists SignedCertificate.read content others found behind →
        embeddedCertificates explicit = .ok found ∧ behind = rest := by
  obtain ⟨encodings, certificates, rest, lists⟩ :=
    exists_lists SignedCertificate.read_takesFront SignedCertificate.read_nil content
  refine ⟨encodings, certificates, rest, lists,
    fun turns => lists.readWithin_eq SignedCertificate.read_takesFront SignedCertificate.read_nil,
    embeddedCertificates_of_lists headed sequence lists, fun others found behind same => ?_⟩
  have once := (readMany_of_lists same).symm.trans (readMany_of_lists lists)
  exact ⟨embeddedCertificates_of_lists headed sequence same, (Prod.mk.inj once).2⟩

/-- The sample issuer twice, and the beginning of another value. -/
def issuerTwice : Bytes := [Sample.issuer, Sample.issuer].flatten ++ [0x30]

/-- Both certificates are read, although the header in front of them announces no bytes. -/
theorem embeddedCertificates_issuerTwice :
    ∃ header issuer, readHeader (0x30 :: 0 :: issuerTwice) = .ok (header, issuerTwice) ∧
      header.tag = Tag.sequence ∧ header.count = 0 ∧
      Lists SignedCertificate.read issuerTwice [Sample.issuer, Sample.issuer] [issuer, issuer]
        [0x30] ∧
      readWithin SignedCertificate.read (issuerTwice.length + 1) issuerTwice =
        some ([issuer, issuer], [0x30]) ∧
      embeddedCertificates (0x30 :: 0 :: issuerTwice) = .ok [issuer, issuer] := by
  obtain ⟨⟨issuer, rest⟩, read, whole⟩ := @Outcome.exists_of_any_toOption _ _
    (SignedCertificate.read Sample.issuer) (fun read => read.2.isEmpty) (by decide +kernel)
  obtain rfl : rest = [] := List.isEmpty_iff.1 whole
  have headed : readHeader (0x30 :: 0 :: issuerTwice) =
      .ok (⟨.universal, true, Tag.sequence, .definite 0⟩, issuerTwice) := rfl
  have lists : Lists SignedCertificate.read issuerTwice [Sample.issuer, Sample.issuer]
      [issuer, issuer] [0x30] :=
    ⟨.cons read (.cons read .nil), rfl, Or.inr ⟨_, rfl⟩⟩
  obtain ⟨encodings, certificates, rest, -, ends, embedded, complete⟩ :=
    embeddedCertificates_in_order headed rfl
  obtain ⟨both, rfl⟩ := complete _ _ _ lists
  obtain rfl := Except.ok.inj (embedded.symm.trans both)
  exact ⟨_, issuer, headed, rfl, rfl, lists, ends _ (Nat.lt_succ_self _), embedded⟩

end CertScope.Ocsp.BasicResponse
