import CertScope.Bytes

/-!
# Files

What can be read, by path. A file that cannot be read says why in the words of
the system.
-/

namespace CertScope

inductive FileError where
  | notFound
  | permissionDenied
  | notADirectory
  | isADirectory
  /-- Another cause, in the words and under the number of the system. -/
  | other (text : String) (code : Nat)
  deriving DecidableEq, Repr

namespace FileError

def cause : FileError → String × Nat
  | notFound => ("No such file or directory", 2)
  | permissionDenied => ("Permission denied", 13)
  | notADirectory => ("Not a directory", 20)
  | isADirectory => ("Is a directory", 21)
  | other text code => (text, code)

def message (error : FileError) : String := s!"{error.cause.1} (os error {error.cause.2})"

def isAbsence : FileError → Bool
  | notFound | notADirectory => true
  | _ => false

end FileError

abbrev Files := String → Except FileError Bytes

end CertScope
