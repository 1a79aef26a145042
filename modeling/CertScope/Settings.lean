import CertScope.Files
import CertScope.Text.Utf8
import CertScope.Toml.Document

/-!
# Settings

How long requests may take, which channels are asked, how large a revocation
list may be, and which roots are trusted. Settings are written in TOML; what is
left out keeps its default, and what is not known is passed over.
-/

namespace CertScope

structure RevocationSettings where
  /-- The seconds that the download of a revocation list may take. -/
  crlTimeout : Nat := 10
  ocspTimeout : Nat := 5
  checkCrl : Bool := true
  checkOcsp : Bool := true
  maxCrlBytes : Nat := 10 * 1024 * 1024
  deriving DecidableEq, Repr

structure TrustSettings where
  useSystemRoots : Bool := true
  /-- Whether the bundled roots stand in for missing system roots. -/
  useBundledRoots : Bool := true
  extraRoots : Option String := none
  deriving DecidableEq, Repr

structure Settings where
  revocation : RevocationSettings := {}
  trust : TrustSettings := {}
  deriving DecidableEq, Repr

inductive ConfigError where
  | fileNotFound (path : String)
  /-- The text is no TOML, or a value is of a wrong type. -/
  | malformed {text : String}
  | invalidValue (key : String) (detail : String)
  deriving DecidableEq, Repr

/-- The error in words. What is wrong with a malformed text is told by the
reader of TOML, whose `diagnosis` it is. -/
def ConfigError.message (error : ConfigError) (diagnosis : String → String := fun _ => "") :
    String :=
  match error with
  | fileNotFound path => "Configuration file not found: " ++ path
  | @malformed text => "Failed to parse configuration: " ++ diagnosis text
  | invalidValue key detail => "Invalid configuration value for " ++ key ++ ": " ++ detail

namespace Toml.Node

def asBoolean? : Toml.Node → Option Bool
  | .boolean value => some value
  | _ => none

def asNatural? : Toml.Node → Option Nat
  | .integer (.ofNat value) => some value
  | _ => none

def asText? : Toml.Node → Option String
  | .text value => some value
  | _ => none

/-- The fields of a group, in a given order: by name in a table, by position in
an array. A time has no fields. -/
def fields? (names : List String) : Toml.Node → Option (List (Option Toml.Node))
  | .table _ entries => some (names.map (entries.lookup ·))
  | .array items => some ((List.range names.length).map (items[·]?))
  | .tables elements =>
      some ((List.range names.length).map fun index => (elements[index]?).map (.table .header))
  | .time => some (names.map fun _ => none)
  | _ => none

end Toml.Node

/-- A field of a known type; a field that is left out has a default. -/
def decodeField? {value : Type} (decode : Toml.Node → Option value) (default : value) :
    Option Toml.Node → Option value
  | none => some default
  | some node => decode node

namespace RevocationSettings

def ofNode? (node : Toml.Node) : Option RevocationSettings := do
  match ← node.fields?
      ["crl_timeout_secs", "ocsp_timeout_secs", "check_crl", "check_ocsp", "max_crl_bytes"] with
  | [crlTimeout, ocspTimeout, checkCrl, checkOcsp, maxCrlBytes] =>
      return {
        crlTimeout := ← decodeField? Toml.Node.asNatural? 10 crlTimeout
        ocspTimeout := ← decodeField? Toml.Node.asNatural? 5 ocspTimeout
        checkCrl := ← decodeField? Toml.Node.asBoolean? true checkCrl
        checkOcsp := ← decodeField? Toml.Node.asBoolean? true checkOcsp
        maxCrlBytes := ← decodeField? Toml.Node.asNatural? (10 * 1024 * 1024) maxCrlBytes }
  | _ => none

end RevocationSettings

namespace TrustSettings

def ofNode? (node : Toml.Node) : Option TrustSettings := do
  match ← node.fields? ["use_system_roots", "use_bundled_roots", "extra_roots"] with
  | [useSystemRoots, useBundledRoots, extraRoots] =>
      return {
        useSystemRoots := ← decodeField? Toml.Node.asBoolean? true useSystemRoots
        useBundledRoots := ← decodeField? Toml.Node.asBoolean? true useBundledRoots
        extraRoots := ← decodeField? (fun node => node.asText?.map some) none extraRoots }
  | _ => none

end TrustSettings

namespace Settings

def ofEntries? (entries : Toml.Entries) : Option Settings := do
  let revocation ← decodeField? RevocationSettings.ofNode? {} (entries.lookup "revocation")
  let trust ← decodeField? TrustSettings.ofNode? {} (entries.lookup "trust")
  return ⟨revocation, trust⟩

def notPositive (key : String) : ConfigError := .invalidValue key "must be greater than zero"

def validate (settings : Settings) : Except ConfigError Settings :=
  if settings.revocation.crlTimeout = 0 then
    .error (notPositive "revocation.crl_timeout_secs")
  else if settings.revocation.ocspTimeout = 0 then
    .error (notPositive "revocation.ocsp_timeout_secs")
  else if settings.revocation.maxCrlBytes = 0 then
    .error (notPositive "revocation.max_crl_bytes")
  else .ok settings

def ofToml (text : String) : Except ConfigError Settings :=
  match (Toml.parse? text).bind ofEntries? with
  | none => .error (@ConfigError.malformed text)
  | some settings => settings.validate

/-- The settings in a file, which has to be UTF-8 text. -/
def ofFile (files : Files) (path : String) : Except ConfigError Settings :=
  match (files path).toOption.bind Utf8.decode? with
  | none => .error (.fileNotFound path)
  | some text => ofToml text

def defaultPath : String := "config/default.toml"

/-- The settings in the default file, or the defaults if there is none. -/
def ofDefaultFile (files : Files) : Except ConfigError Settings :=
  match files defaultPath with
  | .error error => if error.isAbsence then .ok {} else .error (.fileNotFound defaultPath)
  | .ok _ => ofFile files defaultPath

end Settings

end CertScope
