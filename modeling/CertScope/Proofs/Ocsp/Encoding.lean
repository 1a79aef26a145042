import CertScope.Proofs.Asn1.Moment
import CertScope.Proofs.Ocsp.Acceptance

/-!
# Written responses

A response that succeeded, as RFC 6960 has it written: an answer for each of some
certificates, with the signature over their encoded form.  What may be left out is
optional here, and what the reader passes over, such as extensions and the name of the
responder, consists of any bytes.  Each part is read as a tree from which the reader
takes what the part was written with.
-/

namespace CertScope.Ocsp.Encoding

open Asn1 X509
open Strict (headerOf)

/-! ## Tagged parts -/

/-- A part behind an explicit tag, if it is there. -/
def tagged (tag : UInt8) (part : Option Bytes) : List Bytes := (part.map (Asn1.encode tag)).toList

def rawNode (tag : UInt8) (contents : Bytes) : Node := .mk (headerOf tag contents) (.raw contents)

def taggedNodes (tag : UInt8) (part : Option Bytes) : List Node :=
  (part.map (rawNode tag)).toList

theorem writes_tagged (depth : Nat) {tag : UInt8} (part : Option Bytes)
    (low : tag.toNat % 32 ≠ 31) (foreign : TagClass.ofOctet tag ≠ .universal) :
    List.Forall₂ (Writes (depth + 1)) (tagged tag part) (taggedNodes tag part) := by
  cases part with
  | none => exact .nil
  | some contents => exact .cons (writes_raw low foreign) .nil

/-! ## Algorithms -/

structure Algorithm where
  id : Oid
  parameters : Option Bytes

namespace Algorithm

variable {algorithm : Algorithm} {depth : Nat}

def encode (algorithm : Algorithm) : Bytes :=
  encodeSequence (encodeOid algorithm.id :: algorithm.parameters.toList)

/-- The parameters are a tree, within the depth that is left to them. -/
def IsReadable (depth : Nat) (algorithm : Algorithm) : Prop :=
  ∀ parameters ∈ algorithm.parameters, ∃ node, Writes depth parameters node

/-- Parameters of the usual types can be read if they are not nested too deep. -/
theorem isReadable_of_isNested
    (nested : ∀ parameters ∈ algorithm.parameters, IsNested depth parameters) :
    algorithm.IsReadable (depth + 1) :=
  fun parameters given => (nested parameters given).exists_writes

theorem exists_writes (readable : algorithm.IsReadable (depth + 1)) :
    ∃ node identifier parameters, Writes (depth + 2) algorithm.encode node ∧
      node.asSequence = .ok (identifier :: parameters) ∧
      identifier.asOid = .ok algorithm.id := by
  obtain ⟨id, parameters⟩ := algorithm
  cases parameters with
  | none => exact ⟨_, _, _, writes_sequence (.cons (writes_oid id) .nil), rfl, rfl⟩
  | some encoded =>
      obtain ⟨node, writes⟩ := readable encoded rfl
      exact ⟨_, _, _, writes_sequence (.cons (writes_oid id) (.cons writes .nil)), rfl, rfl⟩

end Algorithm

/-! ## Names of certificates -/

structure CertificateId where
  algorithm : Algorithm
  nameDigest : Bytes
  keyDigest : Bytes
  serial : Bytes

namespace CertificateId

variable {certificateId : CertificateId} {depth : Nat}

def encode (certificateId : CertificateId) : Bytes :=
  encodeSequence
    [certificateId.algorithm.encode, encodeOctetString certificateId.nameDigest,
      encodeOctetString certificateId.keyDigest, encodeInteger certificateId.serial]

/-- The name is that of the certificate which an issuer gave a serial number: it has the
digests of the issuer's name and key under one of the two supported algorithms, and
the same serial number. -/
def IsOf (certificateId : CertificateId) (serial : Bytes) (issuer : SignedCertificate) : Prop :=
  ∃ hash, (certificateId.algorithm.id = sha1Id ∧ hash = .sha1 ∨
      certificateId.algorithm.id = sha256Id ∧ hash = .sha256) ∧
    certificateId.nameDigest = Hash.digest hash issuer.subject.raw ∧
    certificateId.keyDigest = Hash.digest hash issuer.publicKey.bits.octets ∧
    Bytes.value certificateId.serial = Bytes.value serial

theorem isOf_iff {serial : Bytes} {issuer : SignedCertificate} :
    certificateId.IsOf serial issuer ↔
      issuerDigests? issuer certificateId.algorithm.id =
          some (certificateId.nameDigest, certificateId.keyDigest) ∧
        Bytes.trimZeros certificateId.serial = Bytes.trimZeros serial := by
  simp only [IsOf, issuerDigests?_eq_some, Bytes.trimZeros_eq_iff]
  constructor
  · rintro ⟨hash, chosen, name, key, same⟩
    exact ⟨⟨hash, chosen, name, key⟩, same⟩
  · rintro ⟨⟨hash, chosen, name, key⟩, same⟩
    exact ⟨hash, chosen, name, key, same⟩

/-- A tree is judged, for every certificate, as the name that it was written for. -/
def IsJudged (certificateId : CertificateId) (node : Node) : Prop :=
  ∀ serial issuer, ∃ about, isAbout node serial issuer = .ok about ∧
    (about = true ↔ certificateId.IsOf serial issuer)

theorem exists_writes (readable : certificateId.algorithm.IsReadable (depth + 1)) :
    ∃ node, Writes (depth + 3) certificateId.encode node ∧ certificateId.IsJudged node := by
  obtain ⟨algorithm, identifier, parameters, writes, sequence, identified⟩ :=
    Algorithm.exists_writes readable
  have nameDigest : Writes (depth + 2) (encodeOctetString certificateId.nameDigest) _ :=
    writes_octetString _
  have keyDigest : Writes (depth + 2) (encodeOctetString certificateId.keyDigest) _ :=
    writes_octetString _
  have number : Writes (depth + 2) (encodeInteger certificateId.serial) _ := writes_integer _
  refine ⟨_, writes_sequence (.cons writes (.cons nameDigest (.cons keyDigest
    (.cons number .nil)))), fun serial issuer => ?_⟩
  rw [isOf_iff]
  cases digests : issuerDigests? issuer certificateId.algorithm.id with
  | none =>
      refine ⟨false, ?_, by simp⟩
      simp [isAbout, sequence, identified, digests]
  | some expected =>
      obtain ⟨name, key⟩ := expected
      by_cases named : certificateId.nameDigest = name
      · by_cases keyed : certificateId.keyDigest = key
        · refine ⟨Bytes.trimZeros certificateId.serial == Bytes.trimZeros serial, ?_, ?_⟩
          · simp [isAbout, sequence, identified, digests, Node.asOctets, Node.content, named,
              keyed]
          · simp [named, keyed]
        · refine ⟨false, ?_, ?_⟩
          · simp [isAbout, sequence, identified, digests, Node.asOctets, Node.content, named,
              keyed]
          · simp [Ne.symm keyed]
      · refine ⟨false, ?_, ?_⟩
        · simp [isAbout, sequence, identified, digests, Node.asOctets, Node.content, named]
        · simp [Ne.symm named]

end CertificateId

/-! ## Statuses -/

/-- The status of a certificate, with the code of the reason if one is given. -/
inductive Status where
  | good
  | revoked (since : Moment) (reason : Option UInt8)
  | unknown

namespace Status

def encode : Status → Bytes
  | good => Asn1.encode 0x80 []
  | revoked since reason =>
      Asn1.encode 0xA1
        (since.encode ++
          (tagged 0xA0 (reason.map fun code => Asn1.encode 0x0A [code])).flatten)
  | unknown => Asn1.encode 0x82 []

def meaning : Status → CertificateStatus
  | good => .good
  | revoked since _ => .revoked (some since.instant)
  | unknown => .unknown

end Status

theorem instantOf_node (moment : Moment) : instantOf moment.node = .ok moment.instant := by
  have utc : moment.civil.zone = .utc := rfl
  simp only [instantOf, Moment.node, Node.content, utc, ne_eq, not_true_eq_false, if_false,
    moment.seconds?_civil]
  rfl

theorem readTree_moment (moment : Moment) (rest : Bytes) :
    readTree (moment.encode ++ rest) = .ok moment.node :=
  readTree_eq_ok.2 ⟨rest, moment.readNode_encode rest⟩

theorem Status.exists_writes (depth : Nat) (status : Status) :
    ∃ node, Writes (depth + 1) status.encode node ∧
      node.header.tagClass = .contextSpecific ∧
      SingleResponse.statusOf node = .ok status.meaning := by
  cases status with
  | good => exact ⟨_, writes_raw (by decide) (by decide), rfl, rfl⟩
  | unknown => exact ⟨_, writes_raw (by decide) (by decide), rfl, rfl⟩
  | revoked since reason =>
      refine ⟨_, writes_raw (by decide) (by decide), rfl, ?_⟩
      generalize (tagged 0xA0 (reason.map fun code => Asn1.encode 0x0A [code])).flatten = behind
      have given : (since.encode ++ behind).isEmpty = false := rfl
      simp only [SingleResponse.statusOf, Node.header, headerOf, UInt8.reduceToNat, Nat.reduceMod,
        Node.asOctets, Node.content, Outcome.bind_eq_ok, view_eq_ok]
      refine ⟨_, rfl, ?_⟩
      simp only [given, Bool.false_eq_true, if_false, Outcome.bind_eq_ok]
      exact ⟨_, readTree_moment since behind, _, instantOf_node since, rfl⟩

/-! ## Answers -/

/-- The answer about one certificate. -/
structure Answer where
  certificateId : CertificateId
  status : Status
  thisUpdate : Moment
  nextUpdate : Option Moment
  extensions : Option Bytes

namespace Answer

variable {answer : Answer} {depth : Nat}

def encode (answer : Answer) : Bytes :=
  encodeSequence
    ([answer.certificateId.encode, answer.status.encode, answer.thisUpdate.encode] ++
      tagged 0xA0 (answer.nextUpdate.map Moment.encode) ++ tagged 0xA1 answer.extensions)

def meaning (answer : Answer) : SingleResponse where
  status := answer.status.meaning
  thisUpdate := answer.thisUpdate.instant
  nextUpdate := answer.nextUpdate.map Moment.instant

/-- A tree is taken for the answer that it was written for. -/
def IsTaken (answer : Answer) (node : Node) : Prop :=
  ∃ certificateId others, node.asSequence = .ok (certificateId :: others) ∧
    answer.certificateId.IsJudged certificateId ∧
    SingleResponse.ofFields (certificateId :: others) = .ok answer.meaning

/-- The fields of an answer say what it was written with. -/
theorem ofFields_nodes {certificateId status : Node}
    (contextual : status.header.tagClass = .contextSpecific)
    (told : SingleResponse.statusOf status = .ok answer.status.meaning) :
    SingleResponse.ofFields
        (certificateId :: status :: answer.thisUpdate.node ::
          (taggedNodes 0xA0 (answer.nextUpdate.map Moment.encode) ++
            taggedNodes 0xA1 answer.extensions)) = .ok answer.meaning := by
  obtain ⟨certificate, state, thisUpdate, nextUpdate, extensions⟩ := answer
  simp only [SingleResponse.ofFields, Outcome.bind_eq_ok, require_eq_ok]
  refine ⟨_, Option.filter_eq_some_iff.2 ⟨rfl, by simp [contextual]⟩, _, told, _, rfl, _,
    instantOf_node _, ?_⟩
  cases nextUpdate with
  | none => cases extensions <;> rfl
  | some nextUpdate =>
      have read := readTree_moment nextUpdate []
      rw [List.append_nil] at read
      change (do
        let inside ← view (.ok nextUpdate.encode)
        let tree ← readTree inside
        let time ← instantOf tree
        let due ← pure (some time)
        pure (SingleResponse.mk state.meaning thisUpdate.instant due)) = _
      simp only [Outcome.bind_eq_ok, view_eq_ok]
      exact ⟨_, rfl, _, read, _, instantOf_node nextUpdate, _, rfl, rfl⟩

theorem exists_writes (readable : answer.certificateId.algorithm.IsReadable (depth + 1)) :
    ∃ node, Writes (depth + 4) answer.encode node ∧ answer.IsTaken node := by
  obtain ⟨certificateId, writes, judged⟩ := CertificateId.exists_writes readable
  obtain ⟨status, writesStatus, contextual, told⟩ :=
    answer.status.exists_writes (depth + 2)
  have issued : Writes (depth + 3) answer.thisUpdate.encode answer.thisUpdate.node :=
    answer.thisUpdate.writes
  have due : List.Forall₂ (Writes (depth + 3))
      (tagged 0xA0 (answer.nextUpdate.map Moment.encode)) _ :=
    writes_tagged (depth + 2) _ (by decide) (by decide)
  have extended : List.Forall₂ (Writes (depth + 3)) (tagged 0xA1 answer.extensions) _ :=
    writes_tagged (depth + 2) _ (by decide) (by decide)
  have fields := List.rel_append (List.rel_append
    (.cons writes (.cons writesStatus (.cons issued .nil))) due) extended
  exact ⟨_, writes_sequence fields, certificateId, _, rfl, judged,
    ofFields_nodes contextual told⟩

end Answer

/-! ## Signed parts -/

/-- How a responder names itself: by its name or by a digest of its key. -/
inductive Responder where
  | byName (name : Bytes)
  | byKey (digest : Bytes)

def Responder.encode : Responder → Bytes
  | byName name => Asn1.encode 0xA1 name
  | byKey digest => Asn1.encode 0xA2 (encodeOctetString digest)

theorem Responder.exists_writes (depth : Nat) (responder : Responder) :
    ∃ node, Writes (depth + 1) responder.encode node ∧
      node.header.tagClass = .contextSpecific := by
  cases responder with
  | byName name => exact ⟨_, writes_raw (by decide) (by decide), rfl⟩
  | byKey digest => exact ⟨_, writes_raw (by decide) (by decide), rfl⟩

/-- The part of a response that is signed. -/
structure SignedPart where
  version : Option Bytes
  responder : Responder
  producedAt : Moment
  answers : List Answer
  extensions : Option Bytes

namespace SignedPart

variable {signed : SignedPart} {depth : Nat}

def encode (signed : SignedPart) : Bytes :=
  encodeSequence
    (tagged 0xA0 (signed.version.map encodeInteger) ++
      [signed.responder.encode, signed.producedAt.encode,
        encodeSequence (signed.answers.map Answer.encode)] ++
      tagged 0xA1 signed.extensions)

def IsReadable (depth : Nat) (signed : SignedPart) : Prop :=
  ∀ answer ∈ signed.answers, answer.certificateId.algorithm.IsReadable depth

/-- Neither the version nor the responder nor the time is taken for the answers. -/
theorem exists_writes (readable : signed.IsReadable (depth + 1)) :
    ∃ node nodes, Writes (depth + 6) signed.encode node ∧
      BasicResponse.responsesOf node = .ok nodes ∧
      List.Forall₂ Answer.IsTaken signed.answers nodes := by
  obtain ⟨nodes, writes, taken⟩ := exists_forall₂_writes fun answer member =>
    Answer.exists_writes (readable answer member)
  obtain ⟨responder, writesResponder, contextual⟩ :=
    signed.responder.exists_writes (depth + 4)
  have version : List.Forall₂ (Writes (depth + 5))
      (tagged 0xA0 (signed.version.map encodeInteger)) _ :=
    writes_tagged (depth + 4) _ (by decide) (by decide)
  have produced : Writes (depth + 5) signed.producedAt.encode signed.producedAt.node :=
    signed.producedAt.writes
  have answers := writes_sequence writes
  have extended : List.Forall₂ (Writes (depth + 5)) (tagged 0xA1 signed.extensions) _ :=
    writes_tagged (depth + 4) _ (by decide) (by decide)
  have parts := List.rel_append (List.rel_append version
    (.cons writesResponder (.cons produced (.cons answers .nil)))) extended
  refine ⟨_, nodes, writes_sequence parts, ?_, taken⟩
  simp only [BasicResponse.responsesOf, Outcome.bind_eq_ok, view_eq_ok, require_eq_ok]
  refine ⟨_, rfl, .ofParts (signed.answers.map Answer.encode) nodes, ?_, rfl⟩
  have time : signed.producedAt.node.header.tag ≠ Tag.sequence := by
    change 24 ≠ 16
    decide
  have own : (Node.ofParts (signed.answers.map Answer.encode) nodes).header.tagClass =
      .universal := rfl
  have sequence : (Node.ofParts (signed.answers.map Answer.encode) nodes).header.tag =
      Tag.sequence := rfl
  have foreign (contents : Bytes) : (rawNode 0xA0 contents).header.tagClass =
      .contextSpecific := rfl
  cases signed.version with
  | none => simp [taggedNodes, contextual, time, own, sequence]
  | some version => simp [taggedNodes, contextual, time, own, sequence, foreign]

end SignedPart

/-! ## Responses -/

/-- A response that succeeded. -/
structure Response where
  signedPart : SignedPart
  algorithm : Algorithm
  signature : Bytes
  certificates : Option (List Bytes)

namespace Response

/-- The basic response, which the response carries in octets of its own. -/
def basic (response : Response) : Bytes :=
  encodeSequence
    ([response.signedPart.encode, response.algorithm.encode,
        Asn1.encode 0x03 (0 :: response.signature)] ++
      tagged 0xA0 (response.certificates.map encodeSequence))

def encode (response : Response) : Bytes :=
  encodeSequence
    [Asn1.encode 0x0A [0],
      Asn1.encode 0xA0
        (encodeSequence [encodeOid basicResponseId, encodeOctetString response.basic])]

/-- The algorithms that the response names: that of the signature and those of the digests. -/
def algorithms (response : Response) : List Algorithm :=
  response.algorithm :: response.signedPart.answers.map (·.certificateId.algorithm)

end Response

end CertScope.Ocsp.Encoding
