import CertScope.Asn1.Primitive

/-!
# Why a certificate or a revocation list is refused

A refusal names the field that is at fault, or carries the cause that the
encoding itself is refused for.
-/

namespace CertScope.X509

open Asn1

inductive Fault where
  | encoding (cause : Asn1.Error)
  | endOfInput
  | version
  | serial
  | algorithm
  | name
  | date
  | publicKey
  | issuerId
  | subjectId
  | extensions
  | signature
  deriving DecidableEq, Repr

def Fault.text : Fault → String
  | .encoding cause => "Der(" ++ cause.name ++ ")"
  | .endOfInput => "NomError(Eof)"
  | .version => "InvalidVersion"
  | .serial => "InvalidSerial"
  | .algorithm => "InvalidAlgorithmIdentifier"
  | .name => "InvalidX509Name"
  | .date => "InvalidDate"
  | .publicKey => "InvalidSPKI"
  | .issuerId => "InvalidIssuerUID"
  | .subjectId => "InvalidSubjectUID"
  | .extensions => "InvalidExtensions"
  | .signature => "InvalidSignatureValue"

def failureText (failure : Failure Fault) : String := failure.message Fault.text

def lift {value : Type} (outcome : Except (Failure Asn1.Error) value) :
    Except (Failure Fault) value :=
  outcome.mapError (Failure.map .encoding)

def orElse {value cause : Type} (fault : Fault) (outcome : Except (Failure cause) value) :
    Except (Failure Fault) value :=
  outcome.mapError fun _ => .refused fault

/-- Read a value with tag `tag` whose contents `inner` reads; what `inner`
leaves of the contents is passed over. The length is looked at before the tag. -/
def readContainer {value : Type} (tag : Nat) (inner : Bytes → Except (Failure Fault) value) :
    Reader Fault value := fun bytes => do
  let (header, rest) ← lift (readHeader bytes)
  if rest.length < header.count then throw (.refused .endOfInput)
  lift (refuse (expectTag tag header))
  let value ← inner (rest.take header.count)
  return (value, rest.drop header.count)

/-- Read values as long as they can be read, and give what is left. A reader
that takes nothing ends the list. `steps` bounds their number. -/
def readMany {cause value : Type} (item : Reader cause value) :
    Nat → Bytes → List value × Bytes
  | 0, bytes => ([], bytes)
  | steps + 1, bytes =>
      match item bytes with
      | .error _ => ([], bytes)
      | .ok (first, rest) =>
          if rest.length < bytes.length then
            let others := readMany item steps rest
            (first :: others.1, others.2)
          else ([], bytes)

def readList {cause value : Type} (item : Reader cause value) (bytes : Bytes) :
    Except (Failure Fault) (List value) :=
  match readMany item bytes.length bytes with
  | (values, []) => .ok values
  | _ => .error (.refused .endOfInput)

end CertScope.X509
