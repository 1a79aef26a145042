import CertScope.Settings

/-!
# The command line

Options may stand before and behind the certificate. A value may be attached to
its option or follow it; it is looked at when the next argument or the end shows
that it is complete. Behind `--` everything is a certificate.
-/

namespace CertScope

/-- What the command line asks for. -/
structure Arguments where
  certificate : String
  authority : Option String
  json : Bool
  config : Option String
  timeout : Option Nat
  skipCrl : Bool
  skipOcsp : Bool
  noColor : Bool
  deriving DecidableEq, Repr

/-- Why a command line is not acted on. -/
inductive UsageError where
  | unknownArgument
  | invalidValue
  | valueValidation
  | missingRequiredArgument
  | argumentConflict
  | tooManyValues
  | displayHelp
  | displayVersion
  deriving DecidableEq, Repr

namespace Arguments

def stdinName : String := "-"

def fromStdin (arguments : Arguments) : Bool := arguments.certificate == stdinName

/-- Let the command line override settings. -/
def applyTo (arguments : Arguments) (settings : Settings) : Settings :=
  let revocation := settings.revocation
  { settings with
    revocation := { revocation with
      crlTimeout := arguments.timeout.getD revocation.crlTimeout
      ocspTimeout := arguments.timeout.getD revocation.ocspTimeout
      checkCrl := revocation.checkCrl && !arguments.skipCrl
      checkOcsp := revocation.checkOcsp && !arguments.skipOcsp } }

end Arguments

namespace CommandLine

inductive ValueOption where
  | authority
  | config
  | timeout
  deriving DecidableEq, Repr

inductive Flag where
  | json
  | skipCrl
  | skipOcsp
  | noColor
  | help
  | version
  deriving DecidableEq, Repr

/-- What has been read so far. -/
structure Draft where
  certificate : Option String := none
  authority : Option String := none
  json : Bool := false
  config : Option String := none
  timeout : Option Nat := none
  skipCrl : Bool := false
  skipOcsp : Bool := false
  noColor : Bool := false
  deriving DecidableEq, Repr

/-- An argument whose value may still be to come, or to be looked at. -/
inductive Pending where
  | certificate (value : String)
  | option (option : ValueOption) (value : Option String)
  deriving DecidableEq, Repr

/-- The digits of a number, which a plus sign may precede. -/
def unsigned? (text : String) : Option Nat :=
  let digits := match text.toList with
    | '+' :: rest => rest
    | other => other
  if digits.isEmpty || !digits.all Char.isDigit then none
  else some (digits.foldl (fun total digit => total * 10 + (digit.toNat - 48)) 0)

/-- A number of seconds from 1 to 2^64 - 1. -/
def seconds (text : String) : Except UsageError Nat :=
  match unsigned? text with
  | some number =>
      if 1 ≤ number ∧ number < 1 <<< 64 then .ok number else .error .valueValidation
  | none => .error .valueValidation

def path (text : String) : Except UsageError String :=
  if text.isEmpty then .error .invalidValue else .ok text

/-- Refuse what was given before. -/
def once {value : Type} (old : Option value) : Except UsageError Unit :=
  if old.isSome then .error .argumentConflict else .ok ()

def Draft.give (draft : Draft) (value : String) : ValueOption → Except UsageError Draft
  | .authority => do
      once draft.authority
      return { draft with authority := some (← path value) }
  | .config => do
      once draft.config
      return { draft with config := some (← path value) }
  | .timeout => do
      once draft.timeout
      return { draft with timeout := some (← seconds value) }

def Draft.settle (draft : Draft) : Option Pending → Except UsageError Draft
  | none => .ok draft
  | some (.certificate value) => do
      return { draft with certificate := some (← path value) }
  | some (.option _ none) => .error .invalidValue
  | some (.option option (some value)) => draft.give value option

def Draft.set (draft : Draft) (flag : Flag) : Except UsageError Draft :=
  let fresh (old : Bool) (next : Draft) : Except UsageError Draft :=
    if old then .error .argumentConflict else .ok next
  match flag with
  | .json => fresh draft.json { draft with json := true }
  | .skipCrl => fresh draft.skipCrl { draft with skipCrl := true }
  | .skipOcsp => fresh draft.skipOcsp { draft with skipOcsp := true }
  | .noColor => fresh draft.noColor { draft with noColor := true }
  | .help => .error .displayHelp
  | .version => .error .displayVersion

def longName? : String → Option (ValueOption ⊕ Flag)
  | "ca" => some (.inl .authority)
  | "config" => some (.inl .config)
  | "timeout" => some (.inl .timeout)
  | "json" => some (.inr .json)
  | "skip-crl" => some (.inr .skipCrl)
  | "skip-ocsp" => some (.inr .skipOcsp)
  | "no-color" => some (.inr .noColor)
  | "help" => some (.inr .help)
  | "version" => some (.inr .version)
  | _ => none

def shortName? : Char → Option (ValueOption ⊕ Flag)
  | 'c' => some (.inl .config)
  | 'h' => some (.inr .help)
  | 'V' => some (.inr .version)
  | _ => none

structure State where
  draft : Draft := {}
  pending : Option Pending := none
  deriving DecidableEq, Repr

def State.settled (state : State) : Except UsageError Draft :=
  state.draft.settle state.pending

def State.option (state : State) (option : ValueOption) (attached : Option String) :
    Except UsageError State := do
  let draft ← state.settled
  match attached with
  | some value => return { draft := ← draft.give value option }
  | none => return { draft, pending := some (.option option none) }

def State.flag (state : State) (flag : Flag) : Except UsageError State := do
  let draft ← state.settled
  return { draft := ← draft.set flag }

/-- Take a long option: its name up to the first equals sign. -/
def State.long (state : State) (text : List Char) : Except UsageError State :=
  let name := String.ofList (text.takeWhile (· != '='))
  let attached := match text.dropWhile (· != '=') with
    | _ :: value => some (String.ofList value)
    | [] => none
  match longName? name, attached with
  | some (.inl option), attached => state.option option attached
  | some (.inr flag), none => state.flag flag
  | some (.inr _), some _ => .error .tooManyValues
  | none, _ => .error .unknownArgument

/-- Take a group of short options. The rest of the group behind an option with a
value is that value, without an equals sign in front. -/
def State.short (state : State) : List Char → Except UsageError State
  | [] => .ok state
  | name :: rest =>
      match shortName? name with
      | some (.inl option) =>
          let attached := match rest with
            | [] => none
            | '=' :: value => some (String.ofList value)
            | value => some (String.ofList value)
          state.option option attached
      | some (.inr flag) => do
          let state ← state.flag flag
          state.short rest
      | none => .error .unknownArgument

/-- Take a value: that of a pending option unless `trailing` says that options
are over, and else a certificate, of which there is one. -/
def State.value (state : State) (trailing : Bool) (text : String) :
    Except UsageError State := do
  match state.pending, trailing with
  | some (.option option none), false =>
      return { state with pending := some (.option option (some text)) }
  | some (.certificate _), _ => throw .unknownArgument
  | _, _ =>
      if state.draft.certificate.isSome then throw .unknownArgument
      return { draft := ← state.settled, pending := some (.certificate text) }

def State.argument (state : State) (text : String) : Except UsageError State :=
  match text.toList with
  | '-' :: '-' :: name => state.long name
  | '-' :: name => if name.isEmpty then state.value false text else state.short name
  | _ => state.value false text

def State.arguments (state : State) : List String → Except UsageError State
  | [] => .ok state
  | "--" :: rest => rest.foldlM (·.value true) state
  | text :: rest => do
      let state ← state.argument text
      state.arguments rest

def parse (arguments : List String) : Except UsageError Arguments := do
  let draft ← (← State.arguments {} arguments).settled
  match draft.certificate with
  | none => throw .missingRequiredArgument
  | some certificate =>
      return {
        certificate
        authority := draft.authority
        json := draft.json
        config := draft.config
        timeout := draft.timeout
        skipCrl := draft.skipCrl
        skipOcsp := draft.skipOcsp
        noColor := draft.noColor }

end CommandLine

end CertScope
