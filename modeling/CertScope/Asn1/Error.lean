/-!
# Causes for refusing an encoding

Reading an encoded value either lacks bytes, and then says how many, or is
refused for a cause. Both have a written form that reaches the operator.
-/

namespace CertScope.Asn1

inductive TagClass where
  | universal
  | application
  | contextSpecific
  | privateUse
  deriving DecidableEq, Repr

def TagClass.name : TagClass → String
  | .universal => "Universal"
  | .application => "Application"
  | .contextSpecific => "ContextSpecific"
  | .privateUse => "Private"

/-- The rules of the distinguished encoding that a value can break. -/
inductive Constraint where
  | indefiniteLength
  | constructed
  | missingTimeZone
  | missingSeconds
  | unusedBitsNotZero
  | invalidBoolean
  | integerEmpty
  | integerLeadingZeroes
  | integerLeadingFF
  deriving DecidableEq, Repr

def Constraint.name : Constraint → String
  | .indefiniteLength => "IndefiniteLength"
  | .constructed => "Constructed"
  | .missingTimeZone => "MissingTimeZone"
  | .missingSeconds => "MissingSeconds"
  | .unusedBitsNotZero => "UnusedBitsNotZero"
  | .invalidBoolean => "InvalidBoolean"
  | .integerEmpty => "IntegerEmpty"
  | .integerLeadingZeroes => "IntegerLeadingZeroes"
  | .integerLeadingFF => "IntegerLeadingFF"

/-- Why an encoded value is refused. -/
inductive Error where
  | typeMismatch
  | badValue
  | invalidLength
  | invalidTag
  | invalidValue (tag : Nat) (detail : String)
  | unexpectedTag (expected : Option Nat) (actual : Nat)
  | unexpectedClass (expected : TagClass) (actual : TagClass)
  | constructExpected
  | constructUnexpected
  | integerTooLarge
  | integerNegative
  | tooDeep
  | constraint (rule : Constraint)
  | charset
  | unsupported
  /-- An element inside another one lacks so many bytes. -/
  | incomplete (missing : Nat)
  deriving DecidableEq, Repr

def tagText (number : Nat) : String := s!"Tag({number})"

def Error.name : Error → String
  | .typeMismatch => "BerTypeError"
  | .badValue => "BerValueError"
  | .invalidLength => "InvalidLength"
  | .invalidTag => "InvalidTag"
  | .invalidValue tag detail =>
      "InvalidValue \x7b tag: " ++ tagText tag ++ ", msg: \"" ++ detail ++ "\" \x7d"
  | .unexpectedTag expected actual =>
      let wanted := match expected with
        | some number => "Some(" ++ tagText number ++ ")"
        | none => "None"
      "UnexpectedTag \x7b expected: " ++ wanted ++ ", actual: " ++ tagText actual ++ " \x7d"
  | .unexpectedClass expected actual =>
      "UnexpectedClass \x7b expected: Some(" ++ expected.name ++ "), actual: " ++
        actual.name ++ " \x7d"
  | .constructExpected => "ConstructExpected"
  | .constructUnexpected => "ConstructUnexpected"
  | .integerTooLarge => "IntegerTooLarge"
  | .integerNegative => "IntegerNegative"
  | .tooDeep => "BerMaxDepth"
  | .constraint rule => "DerConstraintFailed(" ++ rule.name ++ ")"
  | .charset => "StringInvalidCharset"
  | .unsupported => "Unsupported"
  | .incomplete missing => s!"Incomplete(Size({missing}))"

/-- Reading failed: the input ended too early, or the value is refused. -/
inductive Failure (cause : Type) where
  | needs (count : Nat)
  | refused (why : cause)
  deriving DecidableEq, Repr

namespace Failure

variable {cause other : Type}

/-- Restate the cause of a refusal, leaving a lack of bytes as it is. -/
def map (restate : cause → other) : Failure cause → Failure other
  | .needs count => .needs count
  | .refused why => .refused (restate why)

def message (name : cause → String) : Failure cause → String
  | .needs count => s!"Parsing requires {count} bytes/chars"
  | .refused why => s!"Parsing Error: {name why}"

end Failure

/-- A function that reads one value off the front of a byte string and leaves
the bytes behind it. -/
abbrev Reader (cause value : Type) :=
  List UInt8 → Except (Failure cause) (value × List UInt8)

end CertScope.Asn1
