import CertScope.X509.SignedCertificate

/-!
# Certificate revocation lists

A list names the serial numbers that its issuer has revoked, each with the
second from which it counts. Its signature is read but not verified here.
-/

namespace CertScope.X509

open Asn1

structure RevokedEntry where
  serial : Bytes
  since : Int
  deriving DecidableEq, Repr

structure RevocationList where
  issuer : Name
  entries : List RevokedEntry
  deriving DecidableEq, Repr

namespace RevocationList

/-- Read one entry; extensions that do not decode are passed over. -/
def readEntry : Reader Fault RevokedEntry :=
  readContainer Tag.sequence fun bytes => do
    let (serial, rest) ← readSerial bytes
    let (since, _) ← readDate rest
    return ⟨serial, since⟩

/-- Pass over the version, which may be left out. A value that is no version is
left for the next field; a version that is cut short refuses the list. -/
def skipVersion (bytes : Bytes) : Except (Failure Fault) Bytes :=
  match readUInt32 bytes with
  | .ok (_, rest) => .ok rest
  | .error (.needs _) => .error (.refused .version)
  | .error (.refused _) => .ok bytes

def maxLength : Nat := (1 <<< 32) - 1

/-- Pass over the time of the next list, which may be left out. A time that
names no moment, a short time that is not well-formed and a header that cannot
be read refuse the list; any other value is left for the next field. -/
def skipNextUpdate (bytes : Bytes) : Except (Failure Fault) Bytes :=
  if bytes.isEmpty then .ok bytes
  else
    match readCivilTime? bytes with
    | some (time, rest) =>
        if time.seconds?.isSome then .ok rest else .error (.refused .date)
    | none =>
        match readHeader bytes with
        | .error (.refused .invalidTag) => .ok bytes
        | .error _ => .error (.refused .date)
        | .ok (header, _) =>
            if maxLength < header.count ∨ header.tag = Tag.utcTime then
              .error (.refused .date)
            else .ok bytes

/-- The optional entries; what cannot be read as entries is left for the next
field. -/
def readEntries (bytes : Bytes) : List RevokedEntry × Bytes :=
  match readContainer Tag.sequence (readList readEntry) bytes with
  | .ok read => read
  | .error _ => ([], bytes)

def readFields (bytes : Bytes) : Except (Failure Fault) RevocationList := do
  let rest ← skipVersion bytes
  let (_, rest) ← AlgorithmId.read rest
  let (issuer, rest) ← readName rest
  let (_, rest) ← readDate rest
  let rest ← skipNextUpdate rest
  let (entries, rest) := readEntries rest
  let _ ← Extension.ofExplicit 0 rest
  return ⟨issuer, entries⟩

def read : Reader Fault RevocationList :=
  readContainer Tag.sequence fun bytes => do
    let (list, rest) ← readContainer Tag.sequence readFields bytes
    let (_, rest) ← AlgorithmId.read rest
    let _ ← orElse .signature (readBitString rest)
    return list

/-- Whether the list revokes a serial number at a time. Serial numbers are
compared as unsigned numbers, times to the second. -/
def revokes (list : RevocationList) (serial : Bytes) (now : Instant) : Bool :=
  list.entries.any fun entry =>
    Bytes.trimZeros entry.serial == Bytes.trimZeros serial && entry.since ≤ now.seconds

end RevocationList

end CertScope.X509
