import CertScope.Trust.Error
import CertScope.Bytes

/-!
# Host names and name constraints

When a host name in a certificate may be compared with a constraint, and when
it lies within one. Letters are compared without regard to case.
-/

namespace CertScope.HostName

def dot : UInt8 := 46
def hyphen : UInt8 := 45

def isDigit (byte : UInt8) : Bool := 48 ≤ byte && byte ≤ 57

def isLabelByte (byte : UInt8) : Bool :=
  isDigit byte || (97 ≤ byte && byte ≤ 122) || (65 ≤ byte && byte ≤ 90) ||
    byte == 95 || byte == hyphen

def labels (name : Bytes) : List Bytes := name.splitOn dot

/-- Whether a label is well-formed; an empty one is. -/
def isLabel (label : Bytes) : Bool :=
  label.all isLabelByte && label.length ≤ 63 && label.head? != some hyphen &&
    label.getLast? != some hyphen

/-- Whether a last label is well-formed: not empty, and not a number. -/
def isLastLabel (label : Bytes) : Bool := !label.isEmpty && !label.all isDigit

/-- Whether labels form a name. The first of several may be empty if
`relative` says so. -/
def areLabels (relative : Bool) : List Bytes → Bool
  | [] => false
  | [last] => isLabel last && isLastLabel last
  | first :: rest =>
      isLabel first && (relative || !first.isEmpty) && areLabels false rest

/-- Whether a host name in a certificate is well-formed. A wildcard stands for
a whole first label and needs at least two labels behind it. -/
def isPresented (name : Bytes) : Bool :=
  name.length ≤ 253 &&
    match name with
    | 42 :: 46 :: rest => areLabels false (labels rest) && 2 ≤ (labels rest).length
    | _ => areLabels false (labels name)

/-- Whether a constraint is well-formed. It may be empty or begin with a dot. -/
def isConstraint (name : Bytes) : Bool :=
  name.isEmpty || (name.length ≤ 253 && areLabels true (labels name))

def lower (byte : UInt8) : UInt8 := if 65 ≤ byte ∧ byte ≤ 90 then byte + 32 else byte

def same (first second : Bytes) : Bool := first.map lower == second.map lower

/-- Whether a name that may begin with a wildcard equals a reference; a wildcard
stands for the first byte of the reference and all up to the next dot. -/
def matchesReference (name reference : Bytes) : Bool :=
  match name with
  | 42 :: rest =>
      match reference with
      | [] => false
      | _ :: later => !rest.isEmpty && same rest (later.dropWhile (· != dot))
  | _ => same name reference

/-- The end of a name that is as long as a constraint, if the name is longer and
a label starts there. -/
def aligned? (name constraint : Bytes) : Option Bytes :=
  let surplus := name.length - constraint.length
  if name.length ≤ constraint.length then some name
  else if constraint.head? = some dot then some (name.drop surplus)
  else if (name.drop (surplus - 1)).head? = some dot then some (name.drop surplus)
  else none

def isWithin (name constraint : Bytes) : Except PathError Bool :=
  if !isPresented name then .error .malformedHost
  else if !isConstraint constraint then .error .malformedConstraint
  else if constraint.isEmpty then .ok true
  else .ok ((aligned? name constraint).any (matchesReference · constraint))

end CertScope.HostName
