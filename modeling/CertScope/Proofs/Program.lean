import CertScope.Program
import CertScope.Proofs.Inspection.Json
import CertScope.Proofs.Inspection.Warning
import CertScope.Proofs.Pem.First
import CertScope.Proofs.Pem.Readers
import CertScope.Proofs.Report.Terminal
import CertScope.Proofs.SerialNumber
import Mathlib.Logic.Function.Basic

/-!
# How a call ends

A call passes five stages: the settings, the bundle, the authority, the roots and the chain.
The first stage that fails ends it with a message, before anything is asked of the network.
Behind the last stage every call ends well, since the checks turn whatever befalls them into
an outcome to show.  What is warned of on the way stands on standard output as well, in front
of the one rendering of the inspection or, where a call fails, all alone.
-/

namespace CertScope

namespace CertificateChain

variable {bundle : Bytes} {authority : Option Bytes} {chain : CertificateChain}

end CertificateChain

namespace Program

variable {arguments : Arguments} {surroundings : Surroundings} {settings : Settings}
  {bundle : Bytes} {authority : Option Bytes} {roots : RootStore} {chain : CertificateChain}
  {failure : Failure} {warnings : List Warning}

/-! ## The stages -/

/-- What the checks of a call come to. -/
def evaluation (surroundings : Surroundings) (settings : Settings) (roots : RootStore)
    (chain : CertificateChain) : Evaluation :=
  evaluate chain settings roots
    (Http.transport surroundings.network settings.revocation.maxCrlBytes) surroundings.now
    surroundings.cancelAt

/-- What the exit code depends on.  Of the authority only that it can be read matters, and no
outcome of a check is looked at. -/
structure Ready (arguments : Arguments) (surroundings : Surroundings) : Prop where
  settings : ∃ settings, settingsOf arguments surroundings.files = .ok settings ∧
    ∃ roots, RootStore.ofSettings settings.trust surroundings.systemRoots surroundings.files =
      .ok roots
  bundle : ∃ bundle, readBundle arguments surroundings = .ok bundle ∧
    ∃ chain, CertificateChain.ofBundle bundle none = .ok chain
  authority : ∀ path ∈ arguments.authority, ∃ contents, surroundings.files path = .ok contents

section Update

variable {files : Files} {path : String} {contents : Bytes}

end Update

namespace Sample

/-- A call on standard input with an authority beside it, and without checks. -/
def texts : List String := ["-", "--ca", "ca.crt", "--json", "--skip-crl", "--skip-ocsp"]

def given : Arguments := ⟨"-", some "ca.crt", true, none, none, true, true, false⟩

def line (_ : Nat) (warning : String) : String :=
  "2026-01-01T00:00:00.000000Z  WARN " ++ warning ++ "\n"

/-- Standard input, and no files but the given ones. -/
def seen (input : Bytes) (files : Files) : Surroundings where
  files := files
  input := .ok input
  systemRoots := ⟨[], []⟩
  colors := false
  now := .ofSeconds 1767225600
  network _ := .never
  cancelAt := none
  logLine := line

def certificateText (der : Bytes) : Bytes := Pem.Block.encode ⟨Pem.certificateLabel, der⟩

def plain : Bytes := certificateText (SerialSample.encoding [7])

def noFiles : Files := fun _ => .error .notFound

def authorityFile : Files := Function.update noFiles "ca.crt" (.ok [])

theorem exists_ofBundle_text {der : Bytes} {leaf : Certificate}
    (decoded : Certificate.decode der = .ok leaf) :
    ∃ others, CertificateChain.ofBundle (certificateText der) none =
      .ok (.ofParts leaf others none) := by
  obtain ⟨others, split⟩ := List.head?_eq_some_iff.1 (Pem.isTextOf_encode der).certificates
  exact ⟨others, ofBundle_eq_ok.2 ⟨der, others, leaf, split, decoded, rfl⟩⟩

theorem ready : Ready given (seen plain authorityFile) where
  settings := ⟨given.applyTo {}, rfl, _, rfl⟩
  bundle := by
    obtain ⟨leaf, decoded, -⟩ := SerialSample.exists_decode_encoding [7] (by decide +kernel)
    obtain ⟨others, loaded⟩ := exists_ofBundle_text decoded
    exact ⟨_, rfl, _, loaded⟩
  authority := by
    intro path named
    obtain rfl := Option.mem_some_iff.1 named
    exact ⟨[], rfl⟩

end Sample

namespace Sample

open Asn1 X509

/-- The loader of the roots of the system meets an error. -/
def unreadable (surroundings : Surroundings) : Surroundings :=
  { surroundings with systemRoots := ⟨[], ["Permission denied (os error 13)"]⟩ }

end Sample

end Program

end CertScope
