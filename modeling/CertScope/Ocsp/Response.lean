import CertScope.Asn1.Node
import CertScope.Ocsp.Error
import CertScope.X509.SignedCertificate

/-!
# Status responses

A response that succeeded carries, in octets of its own, answers about
certificates together with a signature over exactly their encoded form and with
certificates that may help to verify it.
-/

namespace CertScope.Ocsp

open Asn1 X509

inductive CertificateStatus where
  | good
  | revoked (since : Option Instant)
  | unknown
  deriving DecidableEq, Repr

structure SingleResponse where
  status : CertificateStatus
  thisUpdate : Instant
  nextUpdate : Option Instant
  deriving DecidableEq, Repr

def refuseResponse {value : Type} (fault : ResponseFault) : Except Error value :=
  .error (.response fault)

def require {value : Type} (fault : ResponseFault) : Option value → Except Error value
  | some part => .ok part
  | none => refuseResponse fault

def view {value : Type} (outcome : Except Asn1.Error value) : Except Error value :=
  outcome.mapError fun _ => .response .unexpectedType

def readOrRefuse {value : Type} (outcome : Except (Failure Asn1.Error) value) :
    Except Error value :=
  outcome.mapError fun failure => .response (.encoding failure)

def readTree (bytes : Bytes) : Except Error Node := do
  return (← readOrRefuse (readNode bytes)).1

/-- The identifier of basic responses, 1.3.6.1.5.5.7.48.1.1. -/
def basicResponseId : Oid := ⟨[0x2B, 0x06, 0x01, 0x05, 0x05, 0x07, 0x30, 0x01, 0x01]⟩

/-- A basic response, with its answers still encoded as trees. -/
structure BasicResponse where
  signedPart : Bytes
  responses : List Node
  algorithm : Oid
  signature : Bytes
  certificates : List SignedCertificate

namespace BasicResponse

def octetsOf (bytes : Bytes) : Except Error Bytes := do
  let parts ← view (← readTree bytes).asSequence
  let status ← require .emptyResponse parts.head?
  if status.header.tag ≠ Tag.enumerated then refuseResponse .statusNotEnumerated
  let code ← view status.asUInt32
  if code ≠ 0 then throw (.responder code)
  let wrapper ← require .noResponseBytes (parts[1]?.filter (·.isContext 0))
  let inner ← readTree (← view wrapper.asOctets)
  match ← view inner.asSequence with
  | [kind, response] =>
      if (← view kind.asOid) ≠ basicResponseId then refuseResponse .notBasic
      if response.header.tag ≠ Tag.octetString then refuseResponse .notOctets
      view response.asOctets
  | _ => refuseResponse .malformedResponseBytes

/-- The first value in a sequence, exactly as it is encoded. -/
def signedSpan (basic : Bytes) : Except Error Bytes := do
  let (_, contents) ← readOrRefuse (readHeader basic)
  let (_, rest) ← readOrRefuse (readNode contents)
  return contents.take (contents.length - rest.length)

/-- The certificates of a sequence up to the first that cannot be read. What
stands behind the sequence is read on. -/
def embeddedCertificates (explicit : Bytes) : Except Error (List SignedCertificate) := do
  let (header, contents) ← readOrRefuse (readHeader explicit)
  if header.tag ≠ Tag.sequence then refuseResponse .certificatesNotSequence
  return (readMany SignedCertificate.read contents.length contents).1

def algorithmOf (node : Node) : Except Error Oid := do
  let first ← require .emptySignatureAlgorithm (← view node.asSequence).head?
  view first.asOid

def signatureOf (node : Node) : Except Error Bytes :=
  match node.content with
  | .bitString 0 octets => .ok octets
  | _ => refuseResponse .partialSignature

/-- The answers: the first sequence among the signed values. -/
def responsesOf (node : Node) : Except Error (List Node) := do
  let parts ← view node.asSequence
  let isSequence (part : Node) : Bool :=
    part.header.tagClass == .universal && part.header.tag == Tag.sequence
  let responses ← require .noResponses (parts.find? isSequence)
  view responses.asSequence

def ofOctets (basic : Bytes) : Except Error BasicResponse := do
  match ← view (← readTree basic).asSequence with
  | signed :: algorithm :: signature :: others =>
      let algorithm ← algorithmOf algorithm
      let signature ← signatureOf signature
      let certificates ← match others.head?.filter (·.isContext 0) with
        | some explicit => embeddedCertificates (← view explicit.asOctets)
        | none => pure []
      let responses ← responsesOf signed
      return ⟨← signedSpan basic, responses, algorithm, signature, certificates⟩
  | _ => refuseResponse .truncatedBasic

def ofBytes (bytes : Bytes) : Except Error BasicResponse := do
  ofOctets (← octetsOf bytes)

end BasicResponse

/-- The second that a written time names. Its zone has to be stated as UTC; a
fraction is dropped. -/
def instantOf (node : Node) : Except Error Instant :=
  match node.content with
  | .generalizedTime time =>
      if time.zone ≠ .utc then refuseResponse .notUtc
      else
        match time.seconds? with
        | some seconds => .ok (.ofSeconds seconds)
        | none => refuseResponse (.noSuchTime time)
  | _ => refuseResponse .notTime

namespace SingleResponse

def statusOf (node : Node) : Except Error CertificateStatus := do
  match node.header.tag with
  | 0 => return .good
  | 1 =>
      let information ← view node.asOctets
      if information.isEmpty then return .revoked none
      else return .revoked (some (← instantOf (← readTree information)))
  | 2 => return .unknown
  | tag => refuseResponse (.unknownStatusTag tag)

def ofFields (fields : List Node) : Except Error SingleResponse := do
  let isContextual (field : Node) : Bool := field.header.tagClass == .contextSpecific
  let status ← statusOf (← require .noStatus (fields[1]?.filter isContextual))
  let thisUpdate ← instantOf (← require .noThisUpdate fields[2]?)
  let nextUpdate ← match fields[3]?.filter (·.isContext 0) with
    | some explicit =>
        let time ← instantOf (← readTree (← view explicit.asOctets))
        pure (some time)
    | none => pure none
  return ⟨status, thisUpdate, nextUpdate⟩

/-- The seconds by which the clock of a responder may differ. -/
def clockSkew : Int := 300

/-- Refuse an answer that was issued in the future or that a newer one should
have replaced. -/
def checkCurrent (response : SingleResponse) (now : Instant) : Except Error Unit :=
  if now.addSeconds clockSkew < response.thisUpdate then
    .error (.stale (.early response.thisUpdate))
  else
    match response.nextUpdate with
    | some nextUpdate =>
        if nextUpdate.addSeconds clockSkew < now then .error (.stale (.late nextUpdate))
        else .ok ()
    | none => .ok ()

end SingleResponse

end CertScope.Ocsp
