import CertScope.Settings
import CertScope.Text.Base64
import CertScope.Trust.RootStore

/-!
# The roots that settings describe

The system brings certificates in an order of its own, and says why others could
not be loaded; certificates that are no roots are passed over. The bundled roots
stand in for missing ones, and a file may add more.
-/

namespace CertScope

/-- What has been loaded of the roots of the system. -/
structure SystemRoots where
  certificates : List Bytes
  /-- Why others could not be loaded. -/
  errors : List String
  deriving DecidableEq, Repr

namespace SystemRoots

def anchors (system : SystemRoots) : List TrustAnchor :=
  system.certificates.filterMap fun der => (TrustAnchor.ofBytes der).toOption

/-! ## Roots in one text

A text is read line by line, and a section that cannot be read is passed over.
-/

structure Reading where
  found : List Bytes
  label : Option Bytes
  body : Bytes

def isLineEnd (byte : UInt8) : Bool := byte == 10 || byte == 13

def isBlank (byte : UInt8) : Bool := byte == 32 || (9 ≤ byte && byte ≤ 13)

def lines (text : Bytes) : List Bytes := text.splitOnP isLineEnd

/-- The label that an opening line gives: it ends with just five hyphens, and
blanks at the end do not count. -/
def labelOf? (line : Bytes) : Option Bytes :=
  let closing := (line.reverse.takeWhile fun byte => byte == 32 || byte == 45)
  if closing.count 45 = 5 then
    let dashed := (closing.reverse.dropWhile (· != 45)).length
    some ((line.take (line.length - dashed)).drop Pem.beginMarker.length)
  else none

def decode? (body : Bytes) : Option Bytes :=
  (Base64.decode (body.filter (!isBlank ·))).toOption

def Reading.take (state : Reading) (line : Bytes) : Reading :=
  if Pem.beginMarker.isPrefixOf line then
    match labelOf? line with
    | some label => { state with label := some label }
    | none => ⟨state.found, none, []⟩
  else
    match state.label with
    | none => state
    | some label =>
        if (Pem.endMarker ++ label ++ Pem.dashes).isPrefixOf line then
          let certificate :=
            if label = Bytes.ofText Pem.certificateLabel then decode? state.body else none
          ⟨certificate.toList ++ state.found, none, []⟩
        else { state with body := state.body ++ line }

/-- The certificates of a text, in ascending order and each once. -/
def ofText (text : Bytes) : SystemRoots :=
  let found := ((lines text).foldl Reading.take ⟨[], none, []⟩).found
  ⟨(found.mergeSort fun first second => first ≤ second).eraseDups, []⟩

/-- A text, if there is one, stands for the roots in it. -/
instance : Coe (Option Bytes) SystemRoots where
  coe text := (text.map ofText).getD ⟨[], []⟩

end SystemRoots

namespace RootStore

/-- The roots in front of those of the named file. -/
def ofSystem (settings : TrustSettings) (system : SystemRoots) : RootStore :=
  let store : RootStore := if settings.useSystemRoots then ⟨system.anchors⟩ else empty
  if store.isEmpty && settings.useBundledRoots then bundled else store

def ofSettings (settings : TrustSettings) (system : SystemRoots) (files : Files) :
    Except ConfigError RootStore :=
  let store := ofSystem settings system
  match settings.extraRoots with
  | none => .ok store
  | some path =>
      match files path with
      | .error _ => .error (.fileNotFound path)
      | .ok text =>
          match store.addPem text with
          | (store, .ok _) => .ok store
          | (_, .error error) => .error (.invalidValue "trust.extra_roots" error.message)

end RootStore

end CertScope
