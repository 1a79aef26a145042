import CertScope.Ocsp.Check
import CertScope.Proofs.Ocsp.Acceptance
import CertScope.Proofs.Transport

/-!
# What a verdict of the responder rests on

A leaf is reported as valid or as revoked by the status channel only on the strength
of a response that the first responder of the leaf delivered, that the issuer stands
behind, and that says so about the leaf.
-/

namespace CertScope.RevocationStatus

/-- A status tells that the certificate is valid or that it is revoked. -/
def IsVerdict (status : RevocationStatus) : Prop :=
  status = .valid ∨ ∃ source, status = .revoked source

theorem not_isVerdict_checkFailed {reason : String} : ¬ IsVerdict (.checkFailed reason) := by
  simp [IsVerdict]

theorem not_isVerdict_notApplicable {reason : String} :
    ¬ IsVerdict (.notApplicable reason) := by
  simp [IsVerdict]

end CertScope.RevocationStatus

namespace CertScope.Ocsp

open Asn1 X509 RevocationStatus

variable {leaf : Certificate} {intermediates : List Bytes} {authority : Option Bytes}
  {now : Instant} {transport : Transport} {watch : Watch}

/-- The issuer is chosen from the end of the chain behind the authority. -/
theorem selectIssuer_eq_getLast? :
    selectIssuer intermediates authority =
      ((authority.filter (!·.isEmpty)).toList ++ intermediates).getLast? := by
  rw [selectIssuer, List.getLast?_append]
  cases intermediates.getLast? with
  | none => cases authority.filter (!·.isEmpty) <;> rfl
  | some last => rfl

/-- What it takes to ask about a leaf: a first responder, an issuer at the end of the
chain, and a request that names the leaf by its issuer and its serial number. -/
structure Asks (leaf : Certificate) (intermediates : List Bytes) (authority : Option Bytes)
    (url : String) (issuer : SignedCertificate) (body : Bytes) : Prop where
  responder : leaf.ocspServers.head? = some url
  read_issuer : ∃ candidate rest,
    ((authority.filter (!·.isEmpty)).toList ++ intermediates).getLast? = some candidate ∧
    SignedCertificate.read (Pem.firstCertificate candidate) = .ok (issuer, rest)
  request_eq : request leaf.serial issuer = .ok body

/-- Only an accepted answer makes a verdict, and which one it makes is told by the tag of
its status. -/
theorem statusOf_isVerdict {url : String} {answer : Except Error SingleResponse}
    (verdict : IsVerdict (statusOf url answer)) :
    ∃ single, answer = .ok single ∧
      (single.status.tag = 0 ∧ statusOf url answer = .valid ∨
        single.status.tag = 1 ∧ statusOf url answer = .revoked url) := by
  match answer, verdict with
  | .ok ⟨.good, _, _⟩, _ => exact ⟨_, rfl, Or.inl ⟨rfl, rfl⟩⟩
  | .ok ⟨.revoked _, _, _⟩, _ => exact ⟨_, rfl, Or.inr ⟨rfl, rfl⟩⟩
  | .ok ⟨.unknown, _, _⟩, verdict => exact (not_isVerdict_checkFailed verdict).elim
  | .error _, verdict => exact (not_isVerdict_checkFailed verdict).elim

/-- A responder is asked with the request, and the answer is the one in what it
delivers. -/
theorem query_eq_ok {issuer : SignedCertificate} {url : String} {single : SingleResponse}
    (answered : (query leaf issuer url now transport watch).value = .ok single) :
    ∃ asked body, request leaf.serial issuer = .ok asked ∧
      (query leaf issuer url now transport watch).requests = [.ocsp url asked] ∧
      watch.Delivers transport (.ocsp url asked) 0 body ∧
      verify body leaf.serial issuer now = .ok single := by
  unfold query at answered ⊢
  cases requested : request leaf.serial issuer with
  | error error => simp [requested] at answered
  | ok asked =>
      simp only [requested] at answered ⊢
      cases fetched : (watch.fetch transport (.ocsp url asked) 0).value with
      | error cause => simp [fetched] at answered
      | ok body =>
          simp only [fetched] at answered
          have delivers := Watch.fetch_eq_ok_iff.1 fetched
          exact ⟨asked, body, rfl, delivers.requests_fetch, delivers, answered⟩

/-- A leaf is valid or revoked by its first responder alone: one request is made and
answered in time, and the answer attests of the leaf what is reported. -/
theorem attests_of_checkOcsp
    (verdict : IsVerdict (checkOcsp leaf intermediates authority now transport watch).value) :
    ∃ url issuer asked body,
      Asks leaf intermediates authority url issuer asked ∧
      (checkOcsp leaf intermediates authority now transport watch).requests =
        [.ocsp url asked] ∧
      watch.Delivers transport (.ocsp url asked) 0 body ∧
      ((checkOcsp leaf intermediates authority now transport watch).value = .valid ∧
          Attests body leaf.serial issuer now 0 ∨
        (checkOcsp leaf intermediates authority now transport watch).value = .revoked url ∧
          Attests body leaf.serial issuer now 1) := by
  unfold checkOcsp at verdict ⊢
  rw [selectIssuer_eq_getLast?] at verdict ⊢
  cases last : ((authority.filter (!·.isEmpty)).toList ++ intermediates).getLast? with
  | none =>
      rw [last] at verdict
      exact (not_isVerdict_notApplicable verdict).elim
  | some candidate =>
      simp only [last] at verdict ⊢
      cases read : SignedCertificate.read (Pem.firstCertificate candidate) with
      | error failure =>
          simp only [read] at verdict
          exact (not_isVerdict_checkFailed verdict).elim
      | ok step =>
          obtain ⟨issuer, rest⟩ := step
          cases first : leaf.ocspServers.head? with
          | none =>
              simp only [read, first] at verdict
              exact (not_isVerdict_notApplicable verdict).elim
          | some url =>
              simp only [read, first] at verdict ⊢
              obtain ⟨single, answered, told⟩ := statusOf_isVerdict verdict
              obtain ⟨asked, body, requested, once, delivers, verified⟩ := query_eq_ok answered
              have attests := attests_of_verify verified
              refine ⟨url, issuer, asked, body, ⟨first, ⟨candidate, rest, last, read⟩, requested⟩,
                once, delivers, ?_⟩
              obtain ⟨good, valid⟩ | ⟨revoked, listed⟩ := told
              · exact Or.inl ⟨valid, good ▸ attests⟩
              · exact Or.inr ⟨listed, revoked ▸ attests⟩

/-! ## A response that counts -/

namespace Sample

def key : Bytes :=
  encodeSequence
    [encodeInteger (0 :: Bytes.ofValue 128 (((1 <<< 512) + 145) * ((1 <<< 511) + 111))),
      encodeInteger [3]]

def algorithm : Bytes := encodeSequence [encodeOid (pkcs1Id 5), encodeNull]

/-- An issuer without a name. -/
def issuer : Bytes :=
  encodeSequence
    [encodeSequence
      [encodeInteger [1], algorithm, encodeSequence [],
        encodeSequence
          [encode 0x17 (Bytes.ofText "250101000000Z"),
            encode 0x17 (Bytes.ofText "350101000000Z")],
        encodeSequence [],
        encodeSequence
          [encodeSequence [encodeOid (pkcs1Id 1), encodeNull], encode 0x03 (0 :: key)]],
      algorithm, encode 0x03 [0]]

def certificateId : Bytes :=
  encodeSequence
    [encodeSequence [encodeOid sha1Id, encodeNull],
      encodeOctetString (Hash.sha1.digest (encodeSequence [])),
      encodeOctetString (Hash.sha1.digest key), encodeInteger [7]]

def issued : Bytes := encode 0x18 (Bytes.ofText "20260101000000Z")

def signedPart : Bytes :=
  encodeSequence
    [encode 0xA1 (encodeSequence []), issued,
      encodeSequence [encodeSequence [certificateId, encode 0x80 [], issued]]]

def signature : Bytes :=
  [0x0848047302ea6d870426e618a6f3d2532339c060338c3e07338a66023a6528ee,
    0xbf6ead34016942b0d01864912e668fc81b94b82dd6846c872e702bb5f3c71767,
    0x9698566c42d0915cb16fd3f7ca33432949b31657e239de1c7a8d705899d1e782,
    0x4314a657df3fc8ceb451def6d383468af860cdf42902be7bd662b717e9329c5a].flatMap
    (Bytes.ofValue 32)

def response : Bytes :=
  encodeSequence
    [encode 0x0A [0],
      encode 0xA0
        (encodeSequence
          [encodeOid basicResponseId,
            encodeOctetString
              (encodeSequence [signedPart, algorithm, encode 0x03 (0 :: signature)])])]

def certificate : Certificate :=
  { Certificate.blank with serial := [7], ocspServers := ["http://ocsp.test"] }

end Sample

/-- A responder that answers at once makes the sample a valid certificate. -/
theorem sample_attested :
    let checked := checkOcsp Sample.certificate [Sample.issuer] none (.ofSeconds 1767225600)
      (fun _ => .after 0 (.ok Sample.response)) ⟨5000, none⟩
    IsVerdict checked.value ∧
      ∃ url issuer asked body,
        Asks Sample.certificate [Sample.issuer] none url issuer asked ∧
        checked.requests = [.ocsp url asked] ∧
        Watch.Delivers ⟨5000, none⟩ (fun _ => .after 0 (.ok Sample.response))
          (.ocsp url asked) 0 body ∧
        (checked.value = .valid ∧
            Attests body Sample.certificate.serial issuer (.ofSeconds 1767225600) 0 ∨
          checked.value = .revoked url ∧
            Attests body Sample.certificate.serial issuer (.ofSeconds 1767225600) 1) := by
  intro checked
  have verdict : IsVerdict checked.value := Or.inl (by decide +kernel)
  exact ⟨verdict, attests_of_checkOcsp verdict⟩

end CertScope.Ocsp
