import CertScope.CommandLine
import CertScope.Http
import CertScope.Inspection.Json
import CertScope.Inspection.Warning
import CertScope.Report.Terminal
import CertScope.Trust.SystemRoots

/-!
# The program

What one call of the program comes to, given all that it can see: its exit code,
what it prints, and the requests that it makes. It ends with zero when there is
an inspection to show, whatever the outcomes are; anything that prevents one is
told in one line. The log is written to standard output, in front of all else.
-/

namespace CertScope.Program

def versionText : String := "tls-secret-inspect 0.1.0\n"

def helpText : String := String.intercalate "\n" [
  "Inspect the certificate of a TLS secret: trust, CRL and OCSP status",
  "",
  "Usage: tls-secret-inspect [OPTIONS] <CERT>",
  "",
  "Arguments:",
  "  <CERT>  PEM certificate bundle (tls.crt): leaf first, then intermediates. Use - for stdin",
  "",
  "Options:",
  "      --ca <FILE>       Separate CA certificate (ca.crt)",
  "      --json            Print the inspection as JSON",
  "  -c, --config <FILE>   Settings file (defaults to config/default.toml when present)",
  "      --timeout <SECS>  Per-request timeout for CRL and OCSP in seconds",
  "      --skip-crl        Skip CRL checking",
  "      --skip-ocsp       Skip OCSP checking",
  "      --no-color        Disable colored output",
  "  -h, --help            Print help",
  "  -V, --version         Print version",
  ""]

/-- What a call of the program can see. -/
structure Surroundings where
  files : Files
  input : Except FileError Bytes
  systemRoots : SystemRoots
  /-- Whether colours are wanted where the output goes. -/
  colors : Bool
  now : Instant
  network : Http.Network
  /-- The milliseconds after which the call is interrupted, if it is. -/
  cancelAt : Option Nat
  /-- What the reader of TOML says of a text that it refuses. -/
  diagnosis : String → String := fun _ => ""
  /-- What the log makes of a warning, given the number of those before it: a
  line, or nothing where warnings are kept back. -/
  logLine : Nat → String → String := fun _ _ => ""
  /-- Whether the warning about the responder comes first if both checks end
  together. -/
  responderFirst : Bool := false

structure Outcome where
  exitCode : Nat
  output : String
  errors : String
  requests : List Request
  deriving DecidableEq, Repr

/-- Why there is no inspection to show. -/
inductive Failure where
  | config (error : ConfigError)
  | input (error : FileError)
  | file (path : String) (error : FileError)
  | bundle (error : InspectError)
  deriving DecidableEq, Repr

def Failure.message (diagnosis : String → String) : Failure → String
  | config error => error.message diagnosis
  | input error => "failed to read certificate bundle from stdin: " ++ error.message
  | file path error => s!"failed to read {path}: {error.message}"
  | bundle error => error.message

def settingsOf (arguments : Arguments) (files : Files) : Except Failure Settings := do
  let settings ← (match arguments.config with
    | some path => Settings.ofFile files path
    | none => Settings.ofDefaultFile files).mapError .config
  return arguments.applyTo settings

def readFile (files : Files) (path : String) : Except Failure Bytes :=
  (files path).mapError (.file path)

def readBundle (arguments : Arguments) (surroundings : Surroundings) : Except Failure Bytes :=
  if arguments.fromStdin then surroundings.input.mapError .input
  else readFile surroundings.files arguments.certificate

def readAuthority (arguments : Arguments) (files : Files) : Except Failure (Option Bytes) :=
  match arguments.authority with
  | some path => (readFile files path).map some
  | none => .ok none

structure Material where
  settings : Settings
  bundle : Bytes
  authority : Option Bytes

/-- Read the settings, the bundle and the authority, in this order. -/
def readMaterial (arguments : Arguments) (surroundings : Surroundings) :
    Except Failure Material := do
  let settings ← settingsOf arguments surroundings.files
  let bundle ← readBundle arguments surroundings
  let authority ← readAuthority arguments surroundings.files
  return ⟨settings, bundle, authority⟩

namespace Material

variable (material : Material) (surroundings : Surroundings)

def transport : Transport :=
  Http.transport surroundings.network material.settings.revocation.maxCrlBytes

def inspect : Except Failure (Inspection × List Request) := do
  let roots ← (RootStore.ofSettings material.settings.trust surroundings.systemRoots
    surroundings.files).mapError .config
  (CertScope.inspect material.bundle material.authority material.settings roots
    (material.transport surroundings) surroundings.now surroundings.cancelAt).mapError .bundle

def systemWarnings : List Warning :=
  surroundings.systemRoots.warnings material.settings.trust

def checkWarnings : List Warning :=
  match CertificateChain.ofBundle material.bundle material.authority with
  | .ok chain =>
      chain.warnings material.settings.revocation (material.transport surroundings)
        surroundings.now surroundings.cancelAt surroundings.responderFirst
  | .error _ => []

end Material

def Surroundings.logText (surroundings : Surroundings) (warnings : List Warning) : String :=
  String.join (warnings.mapIdx fun number warning => surroundings.logLine number warning.message)

def render (json colors : Bool) (inspection : Inspection) : String :=
  if json then inspection.jsonText else inspection.report.format colors

def Failure.outcome (failure : Failure) (colors : Bool) (surroundings : Surroundings)
    (warnings : List Warning) : Outcome :=
  ⟨1, surroundings.logText warnings,
    Style.paint colors [.red, .bold] "Error:" ++ s!" {failure.message surroundings.diagnosis}\n",
    []⟩

/-- What a call with accepted arguments comes to. -/
def act (arguments : Arguments) (surroundings : Surroundings) : Outcome :=
  let colors := surroundings.colors && !arguments.noColor
  match readMaterial arguments surroundings with
  | .error failure => failure.outcome colors surroundings []
  | .ok material =>
      let warned := material.systemWarnings surroundings
      match material.inspect surroundings with
      | .error failure => failure.outcome colors surroundings warned
      | .ok (inspection, requests) =>
          let log := surroundings.logText (warned ++ material.checkWarnings surroundings)
          ⟨0, log ++ render arguments.json colors inspection ++ "\n", "", requests⟩

/-- What a call of the program comes to. Help and the version are no errors. -/
def run (arguments : List String) (surroundings : Surroundings) : Outcome :=
  match CommandLine.parse arguments with
  | .ok arguments => act arguments surroundings
  | .error .displayHelp => ⟨0, helpText, "", []⟩
  | .error .displayVersion => ⟨0, versionText, "", []⟩
  | .error _ => ⟨2, "", "error: the arguments are refused; try '--help'\n", []⟩

end CertScope.Program
