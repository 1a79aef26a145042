import CertScope.X509.Name

/-!
# Certificate extensions

An extension carries an encoded value of its own. The values that bear on the
report are decoded here; one that does not decode is kept as unreadable and
never refuses the certificate.
-/

namespace CertScope.X509

open Asn1

inductive GeneralName where
  | mail (address : String)
  | dns (host : String)
  | uri (text : String)
  | address (octets : Bytes)
  | other
  deriving DecidableEq, Repr

def nameText (octets : Bytes) : Except Fault String :=
  match Utf8.decode? octets with
  | some text => .ok text
  | none => .error (.encoding .badValue)

def generalName (element : Element) : Except Fault GeneralName :=
  if element.header.tagClass ≠ .contextSpecific then
    .error (.encoding (.unexpectedClass .contextSpecific element.header.tagClass))
  else
    match element.header.tag with
    | 0 =>
        match readOid element.contents with
        | .ok _ => .ok .other
        | .error _ => .error .name
    | 1 => (nameText element.contents).map .mail
    | 2 => (nameText element.contents).map .dns
    | 3 | 5 | 8 => .ok .other
    | 4 =>
        match readName element.contents with
        | .ok (_, []) => .ok .other
        | _ => .error (.encoding .unsupported)
    | 6 => (nameText element.contents).map .uri
    | 7 => .ok (.address element.contents)
    | tag => .error (.encoding (.unexpectedTag none tag))

def readGeneralName : Reader Fault GeneralName := fun bytes => do
  let (element, rest) ← lift (readElement bytes)
  let name ← (generalName element).mapError .refused
  return (name, rest)

/-- The value of an extension, as far as the report needs it. -/
inductive ExtensionValue where
  /-- The first bit of the usage string is the lowest bit of `flags`. -/
  | keyUsage (flags : Nat)
  | extendedKeyUsage (purposes : List Oid)
  | basicConstraints (isCa : Bool)
  | alternativeNames (names : List GeneralName)
  | distributionPoints (points : List (List GeneralName))
  | authorityAccess (descriptions : List (Oid × GeneralName))
  | unreadable
  | other
  deriving DecidableEq, Repr

/-- A key purpose 1.3.6.1.5.5.7.3 followed by `arc`. -/
def purposeId (arc : UInt8) : Oid := ⟨[0x2B, 0x06, 0x01, 0x05, 0x05, 0x07, 0x03, arc]⟩

def ocspSigningId : Oid := purposeId 9

structure Extension where
  id : Oid
  critical : Bool
  value : ExtensionValue
  deriving DecidableEq, Repr

namespace Extension

/-- The extension identifier 2.5.29 followed by `arc`. -/
def standardId (arc : UInt8) : Oid := ⟨[0x55, 0x1D, arc]⟩

def keyUsageId : Oid := standardId 15
def alternativeNamesId : Oid := standardId 17
def basicConstraintsId : Oid := standardId 19
def distributionPointsId : Oid := standardId 31
def extendedKeyUsageId : Oid := standardId 37

/-- The identifier of authority information access, 1.3.6.1.5.5.7.1.1. -/
def authorityAccessId : Oid := ⟨[0x2B, 0x06, 0x01, 0x05, 0x05, 0x07, 0x01, 0x01]⟩

def reverseBits (octet : UInt8) : Nat :=
  (List.range 8).foldl
    (fun total bit => if octet.toNat.testBit bit then total + (1 <<< (7 - bit)) else total) 0

/-- The flags of a bit string whose first bit is flag zero; sixteen are kept. -/
def flagsOf (octets : Bytes) : Nat :=
  reverseBits (octets.getD 0 0) + 256 * reverseBits (octets.getD 1 0)

def keyUsage (bytes : Bytes) : Except (Failure Fault) ExtensionValue := do
  let (node, _) ← lift (readNode bytes)
  match node.content with
  | .bitString _ octets => return .keyUsage (flagsOf octets)
  | _ => throw (.refused (.encoding .typeMismatch))

def extendedKeyUsage (bytes : Bytes) : Except (Failure Fault) ExtensionValue := do
  let (element, _) ← lift (readElement bytes)
  lift (refuse (expectTag Tag.sequence element.header))
  return .extendedKeyUsage (← readList readOid element.contents)

def basicConstraints (bytes : Bytes) : Except (Failure Fault) ExtensionValue := do
  let (node, _) ← lift (readNode bytes)
  match ← lift (refuse node.asSequence) with
  | [] => return .basicConstraints false
  | [only] =>
      match only.asBool with
      | .ok isCa => return .basicConstraints isCa
      | .error _ =>
          let _ ← lift (refuse only.asUInt32)
          return .basicConstraints false
  | [first, second] =>
      let isCa ← lift (refuse first.asBool)
      let _ ← lift (refuse second.asUInt32)
      return .basicConstraints isCa
  | _ => throw (.refused (.encoding .invalidLength))

def alternativeNames (bytes : Bytes) : Except (Failure Fault) ExtensionValue := do
  let (names, _) ← readContainer Tag.sequence (readList readGeneralName) bytes
  return .alternativeNames names

/-- The name of a distribution point: full names, of which there is at least
one, or a name relative to the issuer. -/
def pointName (bytes : Bytes) : Except (Failure Fault) (List GeneralName) := do
  let (header, rest) ← lift (readHeader bytes)
  match header.tag with
  | 0 =>
      match readMany readGeneralName rest.length rest with
      | ([], _) => throw (.refused .endOfInput)
      | (names, _) => return names
  | 1 =>
      let _ ← readNamePart rest
      return []
  | _ => throw (.refused (.encoding .invalidTag))

/-- Read one distribution point. A point whose name does not decode has none. -/
def readPoint : Reader Fault (List GeneralName) :=
  readContainer Tag.sequence fun bytes =>
    let named : Except (Failure Fault) (List GeneralName × Bytes) := do
      let (header, rest) ← lift (readHeader bytes)
      if rest.length < header.count then throw (.refused .endOfInput)
      if header.tagClass ≠ .contextSpecific then throw (.refused (.encoding .invalidTag))
      lift (refuse (expectTag 0 header))
      let names ← pointName (rest.take header.count)
      return (names, rest.drop header.count)
    match named with
    | .ok (names, _) => .ok names
    | .error _ => .ok []

def distributionPoints (bytes : Bytes) : Except (Failure Fault) ExtensionValue := do
  let (points, _) ← readContainer Tag.sequence (readList readPoint) bytes
  return .distributionPoints points

def readAccess : Reader Fault (Oid × GeneralName) :=
  readContainer Tag.sequence fun bytes => do
    let (method, rest) ← lift (readOid bytes)
    let (location, _) ← readGeneralName rest
    return (method, location)

def authorityAccess (bytes : Bytes) : Except (Failure Fault) ExtensionValue := do
  let (descriptions, _) ← readContainer Tag.sequence (readList readAccess) bytes
  return .authorityAccess descriptions

def decoder? (id : Oid) : Option (Bytes → Except (Failure Fault) ExtensionValue) :=
  if id = keyUsageId then some keyUsage
  else if id = extendedKeyUsageId then some extendedKeyUsage
  else if id = basicConstraintsId then some basicConstraints
  else if id = alternativeNamesId then some alternativeNames
  else if id = distributionPointsId then some distributionPoints
  else if id = authorityAccessId then some authorityAccess
  else none

def decodeValue (id : Oid) (octets : Bytes) : ExtensionValue :=
  match decoder? id with
  | none => .other
  | some decode => (decode octets).toOption.getD .unreadable

/-- The criticality in front of the value, which is not critical when it is
left out; the basic rules apply to it. -/
def readCritical (bytes : Bytes) : Bool × Bytes :=
  match readBasicElement bytes with
  | .ok (⟨⟨_, _, 1, .definite 1⟩, [octet]⟩, rest) => (octet != 0, rest)
  | _ => (false, bytes)

def read : Reader Fault Extension := fun bytes =>
  orElse .extensions <|
    readContainer Tag.sequence
      (fun contents => do
        let (id, rest) ← lift (readOid contents)
        let (critical, rest) := readCritical rest
        let (octets, _) ← lift (readOctetString rest)
        return ⟨id, critical, decodeValue id octets⟩)
      bytes

def readSequence : Reader Fault (List Extension) :=
  readContainer Tag.sequence (readList read)

/-- The extensions behind an explicit tag, which take up all that is left; none
if nothing is left. Of the tag only its number is looked at. -/
def ofExplicit (tag : Nat) (bytes : Bytes) : Except (Failure Fault) (List Extension) :=
  if bytes.isEmpty then .ok []
  else do
    let (header, rest) ← orElse .extensions (readHeader bytes)
    if header.tag ≠ tag then throw (.refused .extensions)
    match ← readSequence rest with
    | (extensions, []) => return extensions
    | _ => throw (.refused .endOfInput)

/-- The value of the only extension with the given identifier; none if there
is none or more than one. -/
def findUnique (id : Oid) (extensions : List Extension) : Option ExtensionValue :=
  match extensions.filter (·.id == id) with
  | [extension] => some extension.value
  | _ => none

end Extension

end CertScope.X509
