import CertScope.Proofs.Certificate
import CertScope.Proofs.SerialNumber
import CertScope.Proofs.X509.Reading

/-!
# Whole certificates

A certificate is decoded from its whole encoding and from nothing else: with bytes behind
it the encoding is refused for their number, and without its last bytes it does not read
at all.  The encoding is kept as it is, and the fingerprint is the digest of all of it.
-/

namespace CertScope

open Asn1 X509

variable {der : Bytes} {certificate : Certificate}

/-! ## Fingerprints -/

def upperDigits : List Char := "0123456789ABCDEF".toList

def upperPair (byte : UInt8) : List Char :=
  [upperDigits.getD (byte.toNat / 16) ' ', upperDigits.getD (byte.toNat % 16) ' ']

theorem Bytes.hexPair_eq (byte : UInt8) : hexPair false byte = upperPair byte := by
  have digits : ∀ digit < 16, hexDigit false digit = upperDigits.getD digit ' ' := by
    decide +kernel
  have small := byte.toNat_lt
  rw [hexPair, upperPair, digits _ (by omega), digits _ (by omega)]

/-- Colons stand between the pairs of digits, and nowhere else. -/
theorem Bytes.splitOn_hexColons {bytes : Bytes} (filled : bytes ≠ []) :
    (hexColons bytes).toList.splitOn ':' = bytes.map upperPair := by
  have digits : ∀ digit < 16, ':' ≠ upperDigits.getD digit ' ' := by decide +kernel
  have plain : ∀ pair ∈ bytes.map upperPair, ':' ∉ pair := by
    intro pair member
    obtain ⟨byte, -, rfl⟩ := List.mem_map.1 member
    have small := byte.toNat_lt
    have high := digits (byte.toNat / 16) (by omega)
    have low := digits (byte.toNat % 16) (by omega)
    simp only [upperPair, List.mem_cons, List.not_mem_nil, high, low, or_self,
      not_false_eq_true]
  have joined : (hexColons bytes).toList = [':'].intercalate (bytes.map upperPair) := by
    rw [hexColons, String.toList_intercalate, List.map_map]
    congr 1
    apply List.map_congr_left
    intro byte _
    exact (String.toList_ofList).trans (hexPair_eq byte)
  rw [joined]
  exact List.splitOn_intercalate ':' plain (by simpa using filled)

theorem Digest.Sha256.length_digest (message : Bytes) : (digest message).length = 32 := by
  simp [digest, run]

example : Bytes.hexColons (Digest.Sha256.digest (Bytes.ofText "abc")) =
    "BA:78:16:BF:8F:01:CF:EA:41:41:40:DE:5D:AE:22:23:" ++
      "B0:03:61:A3:96:17:7A:9C:B4:10:FF:61:F2:00:15:AD" := by
  decide +kernel

/-! ## The whole encoding -/

namespace Certificate

theorem fingerprint_of_decode (decoded : decode der = .ok certificate) :
    certificate.fingerprint = Bytes.hexColons (Digest.Sha256.digest der) := by
  obtain ⟨signed, -, rfl⟩ := exists_of_decode decoded
  rfl

/-- With bytes behind it a certificate is refused for their number. -/
theorem decode_append (decoded : decode der = .ok certificate) {behind : Bytes}
    (filled : behind ≠ []) : decode (der ++ behind) = .error (.trailing behind.length) := by
  obtain ⟨signed, read, -⟩ := exists_of_decode decoded
  obtain ⟨byte, rest, rfl⟩ := List.exists_cons_of_ne_nil filled
  rw [decode, SignedCertificate.read_takesFront.append read]

/-- Without its last bytes a certificate does not read. -/
theorem decode_of_prefix (decoded : decode der = .ok certificate) {front : Bytes}
    (begins : front <+: der) (proper : front ≠ der) :
    ∃ failure, decode front = .error (.malformed failure) := by
  obtain ⟨signed, read, -⟩ := exists_of_decode decoded
  cases readFront : SignedCertificate.read front with
  | error failure =>
      refine ⟨failure, ?_⟩
      rw [decode, readFront]
  | ok step =>
      exact (proper (SignedCertificate.read_takesFront.eq_of_prefix read readFront begins)).elim

end Certificate

/-- A certificate is decoded from its whole encoding only.  With bytes behind it, it is
refused for their number; no proper beginning of it reads; and what is decoded keeps the
encoding and shows the digest of all of it, two capital digits for each byte with colons
between them. -/
theorem decode_whole (decoded : Certificate.decode der = .ok certificate) :
    (∀ behind, behind ≠ [] →
      Certificate.decode (der ++ behind) = .error (.trailing behind.length) ∧
      (InspectError.trailing behind.length).message = "error when parsing certificate: " ++
        toString behind.length ++ " trailing bytes after certificate") ∧
    (∀ front, front <+: der → front ≠ der →
      ∃ failure, Certificate.decode front = .error (.malformed failure)) ∧
    certificate.rawDer = der ∧
    certificate.fingerprint.toList.splitOn ':' =
      (Digest.Sha256.digest der).map upperPair := by
  refine ⟨fun behind filled => ⟨Certificate.decode_append decoded filled, rfl⟩,
    fun front begins proper => Certificate.decode_of_prefix decoded begins proper,
    Certificate.rawDer_of_decode decoded, ?_⟩
  rw [Certificate.fingerprint_of_decode decoded]
  apply Bytes.splitOn_hexColons
  apply List.ne_nil_of_length_pos
  rw [Digest.Sha256.length_digest]
  decide

/-- A certificate with one byte behind it, and one that is cut short. -/
theorem decode_whole_sample :
    ∃ certificate, Certificate.decode (SerialSample.encoding [7]) = .ok certificate ∧
      Certificate.decode (SerialSample.encoding [7] ++ [0]) = .error (.trailing 1) ∧
      (∃ failure, Certificate.decode (SerialSample.encoding [7]).dropLast =
        .error (.malformed failure)) ∧
      certificate.rawDer = SerialSample.encoding [7] ∧
      (certificate.fingerprint.toList.splitOn ':').length = 32 := by
  obtain ⟨certificate, decoded, -⟩ := SerialSample.exists_decode_encoding [7] (by decide +kernel)
  obtain ⟨followed, cut, kept, shown⟩ := decode_whole decoded
  have shorter : (SerialSample.encoding [7]).dropLast ≠ SerialSample.encoding [7] := by
    decide +kernel
  refine ⟨certificate, decoded, (followed [0] (by decide)).1,
    cut _ (List.dropLast_prefix _) shorter, kept, ?_⟩
  rw [shown, List.length_map, Digest.Sha256.length_digest]

end CertScope
