import CertScope.Proofs.Certificate
import CertScope.Proofs.Pem.Layout
import CertScope.Proofs.Pem.Written
import CertScope.Trust.RootStore
import Mathlib.Data.List.Forall2

/-!
# The readers of certificate texts

A bundle is cut into its certificates, loaded as a chain, or added to a store of roots.
All three take the same certificates from the same layout, in the same order; the store is
alone in refusing the whole text for one block that does not decode, and in not seeing a
block behind a filler that ends in the midst of an opening marker.
-/

namespace CertScope

open Pem

/-! ## Chains -/

section Chain

variable {bundle : Bytes} {authority : Option Bytes} {found : List Bytes}

/-- The chain of a bundle with certificates fails for its leaf only. -/
theorem ofBundle_of_cons {first : Bytes} {others : List Bytes}
    (split : certificates bundle = first :: others) :
    CertificateChain.ofBundle bundle authority =
      (Certificate.decode first).map fun leaf => .ofParts leaf others authority := by
  have whole : splitBundle bundle = .ok (first :: others) :=
    splitBundle_eq_ok.2 ⟨split, by simp⟩
  rw [CertificateChain.ofBundle, whole]
  cases decoded : Certificate.decode first with
  | error failure => simp [bind, Except.bind, decoded, Except.map]
  | ok leaf => simp [bind, Except.bind, decoded, Except.map, pure, Except.pure]

theorem ofBundle_of_nil (split : certificates bundle = []) :
    CertificateChain.ofBundle bundle authority = .error .noCertificateData := by
  have whole : splitBundle bundle = .error .noCertificateData :=
    splitBundle_eq_error.2 ⟨split, rfl⟩
  rw [CertificateChain.ofBundle, whole]
  rfl

/-- A chain is loaded exactly from a bundle whose first certificate decodes. -/
theorem ofBundle_eq_ok {chain : CertificateChain} :
    CertificateChain.ofBundle bundle authority = .ok chain ↔
      ∃ first others leaf, certificates bundle = first :: others ∧
        Certificate.decode first = .ok leaf ∧ chain = .ofParts leaf others authority := by
  cases split : certificates bundle with
  | nil => simp [ofBundle_of_nil split]
  | cons first others =>
      rw [ofBundle_of_cons split]
      cases decoded : Certificate.decode first with
      | error failure => simp [Except.map, decoded]
      | ok leaf => simp [Except.map, decoded, eq_comm]

/-- A chain that is loaded holds all certificates of the bundle in order. -/
theorem certificates_of_ofBundle {chain : CertificateChain}
    (loaded : CertificateChain.ofBundle bundle authority = .ok chain) :
    chain.leaf.rawDer :: chain.intermediates = certificates bundle := by
  obtain ⟨first, others, leaf, split, decoded, rfl⟩ := ofBundle_eq_ok.1 loaded
  change leaf.rawDer :: others = _
  rw [split, Certificate.rawDer_of_decode decoded]

/-- A chain that is refused lacks a leaf. -/
theorem leaf_of_ofBundle {failure : InspectError}
    (refused : CertificateChain.ofBundle bundle authority = .error failure) :
    certificates bundle = [] ∨
      ∃ first ∈ (certificates bundle).head?, Certificate.decode first = .error failure := by
  cases split : certificates bundle with
  | nil => exact Or.inl rfl
  | cons first others =>
      rw [ofBundle_of_cons split] at refused
      refine Or.inr ⟨first, rfl, ?_⟩
      cases decoded : Certificate.decode first with
      | error cause =>
          rw [decoded] at refused
          exact congrArg Except.error (Except.error.inj refused)
      | ok leaf =>
          rw [decoded] at refused
          cases refused

end Chain

/-! ## Stores -/

namespace RootStore

/-- The anchors are those of the certificates in front of the first that is refused. -/
theorem anchorsOf_spec (ders : List Bytes) :
    ∃ added refused, ders = added ++ refused ∧
      List.Forall₂ (fun der anchor => TrustAnchor.ofBytes der = .ok anchor) added
        (anchorsOf ders).1 ∧
      (refused = [] ∧ (anchorsOf ders).2 = none ∨
        ∃ der others error, refused = der :: others ∧ TrustAnchor.ofBytes der = .error error ∧
          (anchorsOf ders).2 = some error) := by
  induction ders with
  | nil => exact ⟨[], [], rfl, .nil, Or.inl ⟨rfl, rfl⟩⟩
  | cons der ders ih =>
      cases read : TrustAnchor.ofBytes der with
      | error error =>
          refine ⟨[], der :: ders, rfl, ?_, Or.inr ⟨der, ders, error, rfl, read, ?_⟩⟩
          · simp [anchorsOf, read]
          · simp [anchorsOf, read]
      | ok anchor =>
          obtain ⟨added, refused, split, matched, outcome⟩ := ih
          refine ⟨der :: added, refused, by rw [split, List.cons_append], ?_, ?_⟩
          · simpa [anchorsOf, read] using matched
          · simpa [anchorsOf, read] using outcome

/-- The certificates that a store is given by the text of a layout. -/
theorem addPem_text (layout : Layout) (decodes : layout.Decodes) (settled : layout.IsSettled)
    (store : RootStore) :
    store.addPem layout.text =
      (store.append (anchorsOf layout.certificates).1,
        match (anchorsOf layout.certificates).2 with
        | none => .ok (anchorsOf layout.certificates).1.length
        | some error => .error (.anchor error)) := by
  obtain ⟨blocks, decoded, matched⟩ := layout.decodeAll_text decodes settled
  have taken : (blocks.filter (·.label == certificateLabel)).map Block.contents =
      layout.certificates := layout.certificates_of_decoded matched
  simp only [addPem, decoded, taken]
  split
  · rename_i anchors outcome
    rw [outcome]
  · rename_i anchors error outcome
    rw [outcome]

end RootStore

/-! ## All readers -/

theorem splitBundle_text (layout : Layout) :
    splitBundle layout.text =
      if layout.certificates = [] then .error .noCertificateData else .ok layout.certificates := by
  split
  · rename_i empty
    rw [splitBundle_eq_error, certificates_text]
    exact ⟨empty, rfl⟩
  · rename_i filled
    rw [splitBundle_eq_ok, certificates_text]
    exact ⟨rfl, filled⟩

/-- What is taken from a layout: a bundle is cut into the certificates of its blocks, a chain
consists of all of them and fails for its leaf only, and a store is given the anchors of
those in front of the first that is refused, if every block decodes and no filler ends in
the midst of an opening marker. -/
theorem readers_of_layout (layout : Layout) (authority : Option Bytes) (store : RootStore) :
    splitBundle layout.text =
        (if layout.certificates = [] then .error .noCertificateData
          else .ok layout.certificates) ∧
      (∀ chain, CertificateChain.ofBundle layout.text authority = .ok chain →
        chain.leaf.rawDer :: chain.intermediates = layout.certificates) ∧
      (∀ failure, CertificateChain.ofBundle layout.text authority = .error failure →
        layout.certificates = [] ∨
          ∃ first ∈ layout.certificates.head?, Certificate.decode first = .error failure) ∧
      (layout.Decodes → layout.IsSettled → ∃ added refused anchors,
        layout.certificates = added ++ refused ∧
          List.Forall₂ (fun der anchor => TrustAnchor.ofBytes der = .ok anchor) added anchors ∧
          (store.addPem layout.text).1 = store.append anchors ∧
          (refused = [] ∧ (store.addPem layout.text).2 = .ok anchors.length ∨
            ∃ der others error, refused = der :: others ∧
              TrustAnchor.ofBytes der = .error error ∧
              (store.addPem layout.text).2 = .error (.anchor error))) := by
  refine ⟨splitBundle_text layout, ?_, ?_, ?_⟩
  · intro chain loaded
    rw [← certificates_text]
    exact certificates_of_ofBundle loaded
  · intro failure refused
    rw [← certificates_text]
    exact leaf_of_ofBundle refused
  · intro decodes settled
    have given := RootStore.addPem_text layout decodes settled store
    obtain ⟨added, refused, split, matched, outcome⟩ := RootStore.anchorsOf_spec layout.certificates
    refine ⟨added, refused, _, split, matched, congrArg Prod.fst given, ?_⟩
    rcases outcome with ⟨none_left, accepted⟩ | ⟨der, others, error, first, unread, reason⟩
    · left
      refine ⟨none_left, ?_⟩
      rw [given, accepted]
    · right
      refine ⟨der, others, error, first, unread, ?_⟩
      rw [given, reason]

/-! ## Two roots -/

namespace RootSample

/-- A root of the first version that names nothing. -/
def der : Bytes :=
  [0x30, 0x14, 0x30, 0x0D, 0x02, 0x01, 0x01, 0x30, 0x00, 0x30, 0x00, 0x30, 0x00, 0x30, 0x00, 0x30,
    0x00, 0x30, 0x00, 0x03, 0x01, 0x00]

theorem ofBytes_der : TrustAnchor.ofBytes der = .ok ⟨[], [], none⟩ :=
  Outcome.toOption_eq_some.1 (by decide +kernel)

def written : WrittenCertificate where
  contents := der
  lineBreak := [10]
  isLineBreak := isLineBreak_feed
  lines := [⟨Base64.encode der, [10], by decide, isLineBreak_feed⟩]
  spells := by simp

/-- The root twice, with a filler between. -/
def twice (filler : Bytes) (unopened : ¬ beginMarker <:+: filler) : Layout where
  items := [⟨[], written.block, by decide⟩, ⟨filler, written.block, unopened⟩]
  ending := [10]
  unopened := by decide

variable {filler : Bytes} (unopened : ¬ beginMarker <:+: filler)

theorem certificates_twice : (twice filler unopened).certificates = [der, der] := by
  have held : written.block.certificate? = some der := written.certificate?_block
  simp [Layout.certificates, twice, held]

theorem decode_written : written.block.frame.decode = .ok ⟨certificateLabel, der⟩ :=
  written.block.certificate?_eq_some.1 written.certificate?_block

theorem decodes_twice : (twice filler unopened).Decodes := by
  intro item member
  simp only [twice, List.mem_cons, List.not_mem_nil, or_false] at member
  rcases member with rfl | rfl
  · exact ⟨_, decode_written⟩
  · exact ⟨_, decode_written⟩

/-- Behind a filler that ends in the midst of an opening marker the root is not seen. -/
theorem decodeAll_twice (unsettled : ¬ IsSettled beginMarker filler) :
    decodeAll (twice filler unopened).text = .ok [⟨certificateLabel, der⟩] := by
  have parts : (twice filler unopened).text =
      [] ++ (written.block.text ++ (filler ++ (written.block.text ++ [10]))) := by
    simp [Layout.text, twice, Item.text]
  have unseen (limit : Nat) :
      decodeUpTo limit (filler ++ (written.block.text ++ [10])) = .ok [] := by
    cases limit with
    | zero => rfl
    | succ limit => rw [decodeUpTo, read?_unseen unopened unsettled written.block (by decide)]
  obtain ⟨limit, long⟩ : ∃ limit, (twice filler unopened).text.length = limit + 1 :=
    Nat.exists_eq_add_one_of_ne_zero (by rw [parts]; simp [FramedBlock.text, beginMarker])
  rw [decodeAll, long, parts, decodeUpTo_text (by decide) (by decide), decode_written, unseen]
  rfl

end RootSample

theorem readers_of_two_roots :
    (RootSample.twice [10] (by decide)).Decodes ∧ (RootSample.twice [10] (by decide)).IsSettled ∧
      splitBundle (RootSample.twice [10] (by decide)).text =
        .ok [RootSample.der, RootSample.der] ∧
      (RootStore.empty.addPem (RootSample.twice [10] (by decide)).text).2 = .ok 2 := by
  have decodes : (RootSample.twice [10] (by decide)).Decodes := RootSample.decodes_twice _
  have settled : (RootSample.twice [10] (by decide)).IsSettled := by
    intro item member
    simp only [RootSample.twice, List.mem_cons, List.not_mem_nil, or_false] at member
    rcases member with rfl | rfl
    · decide
    · decide
  obtain ⟨split, -, -, given⟩ :=
    readers_of_layout (RootSample.twice [10] (by decide)) none .empty
  obtain ⟨added, refused, anchors, parts, matched, -, outcome⟩ := given decodes settled
  rw [RootSample.certificates_twice] at split parts
  refine ⟨decodes, settled, split, ?_⟩
  rcases outcome with ⟨rfl, accepted⟩ | ⟨der, others, error, rfl, unread, -⟩
  · have both := matched.length_eq
    rw [List.append_nil] at parts
    rw [accepted, ← both, ← parts]
    rfl
  · have same : der = RootSample.der := by
      have member : der ∈ [RootSample.der, RootSample.der] := by
        rw [parts]
        simp
      simpa using member
    rw [same, RootSample.ofBytes_der] at unread
    cases unread

/-- A hyphen in front of the second root hides it from the store. -/
theorem not_addPem_behind_hyphen :
    (RootSample.twice [45] (by decide)).Decodes ∧
      splitBundle (RootSample.twice [45] (by decide)).text =
        .ok [RootSample.der, RootSample.der] ∧
      TrustAnchor.ofBytes RootSample.der = .ok ⟨[], [], none⟩ ∧
      RootStore.empty.addPem (RootSample.twice [45] (by decide)).text =
        (⟨[⟨[], [], none⟩]⟩, .ok 1) := by
  refine ⟨RootSample.decodes_twice _, ?_, RootSample.ofBytes_der, ?_⟩
  · rw [splitBundle_text, RootSample.certificates_twice]
    rfl
  · rw [RootStore.addPem, RootSample.decodeAll_twice _ (by decide)]
    simp [RootStore.anchorsOf, RootSample.ofBytes_der, RootStore.append, RootStore.empty]

end CertScope
