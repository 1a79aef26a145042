import CertScope.Pem.Bundle
import CertScope.Trust.RootProgram

/-!
# Stores of roots

A store is a list of roots in the order in which they were added. A certificate
that is no root is refused without a change to the store; a text of several
blocks adds the roots in front of the one that is refused.
-/

namespace CertScope

/-- The roots that a verification may end at. -/
structure RootStore where
  anchors : List TrustAnchor
  deriving DecidableEq, Repr

inductive RootError where
  | text (fault : Pem.Fault)
  | anchor (error : PathError)
  deriving DecidableEq, Repr

def RootError.message : RootError → String
  | text fault => fault.message
  | anchor error => error.name

namespace RootStore

def empty : RootStore := ⟨[]⟩
def bundled : RootStore := ⟨RootProgram.anchors⟩

def size (store : RootStore) : Nat := store.anchors.length

def isEmpty (store : RootStore) : Bool := store.anchors.isEmpty

def append (store : RootStore) (anchors : List TrustAnchor) : RootStore :=
  ⟨store.anchors ++ anchors⟩

/-- The anchors of certificates up to the first that is refused, and why it
is. -/
def anchorsOf : List Bytes → List TrustAnchor × Option PathError
  | [] => ([], none)
  | der :: others =>
      match TrustAnchor.ofBytes der with
      | .error error => ([], some error)
      | .ok anchor => (anchor :: (anchorsOf others).1, (anchorsOf others).2)

def addDer (store : RootStore) (der : Bytes) : Except PathError RootStore := do
  return store.append [← TrustAnchor.ofBytes der]

/-- Add the certificate blocks of a text: the store with those that could be
added, and their number unless one was refused. -/
def addPem (store : RootStore) (text : Bytes) : RootStore × Except RootError Nat :=
  match Pem.decodeAll text with
  | .error fault => (store, .error (.text fault))
  | .ok blocks =>
      let certificates := blocks.filter (·.label == Pem.certificateLabel)
      match anchorsOf (certificates.map Pem.Block.contents) with
      | (anchors, none) => (store.append anchors, .ok anchors.length)
      | (anchors, some error) => (store.append anchors, .error (.anchor error))

end RootStore

end CertScope
