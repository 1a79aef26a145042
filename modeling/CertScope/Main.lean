import CertScope.Program
import Std.Time.Format

/-!
# The command line

The outer layer: it reads the files that a call names, hands them to the
program, and prints what comes of it. It has no connection to any network, so
every server counts as unreachable.
-/

open CertScope

def fileErrorOf : IO.Error → FileError
  | .noFileOrDirectory .. => .notFound
  | .permissionDenied .. => .permissionDenied
  | .inappropriateType .. => .isADirectory
  | error => .other (toString error) 0

def readWhole (path : String) : IO (Except FileError Bytes) := do
  try
    return .ok (← IO.FS.readBinFile path).toList
  catch error => return .error (fileErrorOf error)

def readAll (paths : List String) : IO (List (String × Except FileError Bytes)) :=
  paths.mapM fun path => return (path, ← readWhole path)

def lookIn (table : List (String × Except FileError Bytes)) : Files := fun path =>
  (table.lookup path).getD (.error .notFound)

def systemRootsPath : IO String := do
  return (← IO.getEnv "SSL_CERT_FILE").getD "/etc/ssl/certs/ca-certificates.crt"

/-- Read what a call names, and what the settings that it names name. -/
def gather (arguments : List String) : IO (List (String × Except FileError Bytes)) := do
  match CommandLine.parse arguments with
  | .error _ => return []
  | .ok arguments =>
      let named := arguments.authority.toList ++ arguments.config.toList
      let first ← readAll (Settings.defaultPath :: arguments.certificate :: named)
      match Program.settingsOf arguments (lookIn first) with
      | .error _ => return first
      | .ok settings => return first ++ (← readAll settings.trust.extraRoots.toList)

def readInput (arguments : List String) : IO (Except FileError Bytes) := do
  match CommandLine.parse arguments with
  | .ok parsed =>
      if parsed.fromStdin then
        try
          return .ok (← (← IO.getStdin).readBinToEnd).toList
        catch error => return .error (fileErrorOf error)
      else return .ok []
  | .error _ => return .ok []

def main (arguments : List String) : IO UInt32 := do
  let table ← gather arguments
  let output ← IO.getStdout
  let errors ← IO.getStderr
  let seconds := (← Std.Time.Timestamp.now).toSecondsSinceUnixEpoch.val
  let now := Instant.ofSeconds seconds
  let outcome := Program.run arguments {
    files := lookIn table
    input := ← readInput arguments
    systemRoots := (← readWhole (← systemRootsPath)).toOption
    colors := ← output.isTty
    now
    network := fun _ => .after 0 none
    cancelAt := none
    diagnosis := fun _ => "TOML parse error"
    logLine := fun _ warning => s!"{now.iso}  WARN {warning}\n" }
  output.putStr outcome.output
  errors.putStr outcome.errors
  return UInt32.ofNat outcome.exitCode
