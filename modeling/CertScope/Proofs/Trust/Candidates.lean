import CertScope.Proofs.Trust.Faults
import CertScope.Proofs.Trust.RootStore
import CertScope.Proofs.Trust.Verify

/-!
# What the supplied certificates do to the search

A supplied certificate counts as a root and is a candidate for a path.  Roots are tried
before candidates, so that a leaf which leads to a root without any candidate does so with
all of them.  A byte string that is neither a certificate nor a root adds no root, and as a
candidate it fails for a reason that the search passes over: such byte strings may change
the reason that is reported, and nothing else.
-/

namespace CertScope

open Asn1 PathReader

/-! ## Lists with insertions -/

section Interspersed

variable {item other : Type} {extra : item → Prop} {items extended : List item}

/-- A list with further items of some kind at any places. -/
inductive Interspersed (extra : item → Prop) : List item → List item → Prop
  | nil : Interspersed extra [] []
  | keep (one : item) {items extended : List item} (rest : Interspersed extra items extended) :
      Interspersed extra (one :: items) (one :: extended)
  | insert {one : item} (inserted : extra one) {items extended : List item}
      (rest : Interspersed extra items extended) : Interspersed extra items (one :: extended)

theorem Interspersed.imp {kind : item → Prop} (interspersed : Interspersed extra items extended)
    (weaker : ∀ one, extra one → kind one) : Interspersed kind items extended := by
  induction interspersed with
  | nil => exact .nil
  | keep one _ ih => exact .keep one ih
  | insert inserted _ ih => exact .insert (weaker _ inserted) ih

theorem Interspersed.map {kind : other → Prop} {function : item → other}
    (interspersed : Interspersed extra items extended)
    (carries : ∀ one, extra one → kind (function one)) :
    Interspersed kind (items.map function) (extended.map function) := by
  induction interspersed with
  | nil => exact .nil
  | keep one _ ih => exact .keep _ ih
  | insert inserted _ ih => exact .insert (carries _ inserted) ih

/-- What an item stands for is not changed by items that stand for nothing. -/
theorem Interspersed.filterMap {function : item → Option other}
    (interspersed : Interspersed extra items extended)
    (nothing : ∀ one, extra one → function one = none) :
    extended.filterMap function = items.filterMap function := by
  induction interspersed with
  | nil => rfl
  | keep one _ ih => rw [List.filterMap_cons, List.filterMap_cons, ih]
  | insert inserted _ ih => rw [List.filterMap_cons_none (nothing _ inserted), ih]

end Interspersed

/-! ## Ends of a search -/

namespace Search

variable {item value : Type} {failure otherFailure : PathError} {budget : Budget}

/-- Two ends of a search that differ at most in a reason that the search passes over. -/
inductive Agrees : Except PathError value × Budget → Except PathError value × Budget → Prop
  | refl (result : Except PathError value × Budget) : Agrees result result
  | passed {failure otherFailure : PathError} (mild : failure.isFatal = false)
      (otherMild : otherFailure.isFatal = false) (budget : Budget) :
      Agrees (.error failure, budget) (.error otherFailure, budget)

theorem Agrees.ok_iff {first second : Except PathError value × Budget}
    (agrees : Agrees first second) {result : value} :
    first.1 = .ok result ↔ second.1 = .ok result := by
  cases agrees with
  | refl => rfl
  | passed => simp

theorem isFatal_mostTelling (mild : failure.isFatal = false)
    (otherMild : otherFailure.isFatal = false) :
    (failure.mostTelling otherFailure).isFatal = false := by
  unfold PathError.mostTelling
  split
  · exact mild
  · exact otherMild

/-- Attempts that fail for a reason that is passed over, and spend nothing, do not bear on
the others. -/
theorem agrees_firstSuccess {attempt otherAttempt : item → Search value}
    {items extended : List item}
    (agrees : ∀ one budget, Agrees (attempt one budget) (otherAttempt one budget))
    (interspersed : Interspersed
      (fun one => ∃ failure : PathError, failure.isFatal = false ∧
        ∀ budget, attempt one budget = (.error failure, budget)) items extended)
    (mild : failure.isFatal = false) (otherMild : otherFailure.isFatal = false) :
    Agrees (firstSuccess attempt failure extended budget)
      (firstSuccess otherAttempt otherFailure items budget) := by
  induction interspersed generalizing failure otherFailure budget with
  | nil => exact .passed mild otherMild budget
  | keep one _ ih =>
      simp only [firstSuccess]
      have ends := agrees one budget
      generalize attempt one budget = first at ends ⊢
      generalize otherAttempt one budget = second at ends ⊢
      cases ends with
      | refl =>
          obtain ⟨outcome, left⟩ := first
          cases outcome with
          | ok result => exact .refl _
          | error why =>
              cases fatal : why.isFatal with
              | true =>
                  simp only [fatal, if_true]
                  exact .refl _
              | false =>
                  simp only [fatal, Bool.false_eq_true, if_false]
                  exact ih (isFatal_mostTelling mild fatal) (isFatal_mostTelling otherMild fatal)
      | passed whyMild otherWhyMild left =>
          simp only [whyMild, otherWhyMild, Bool.false_eq_true, if_false]
          exact ih (isFatal_mostTelling mild whyMild) (isFatal_mostTelling otherMild otherWhyMild)
  | insert inserted _ ih =>
      obtain ⟨why, whyMild, fails⟩ := inserted
      simp only [firstSuccess, fails, whyMild, Bool.false_eq_true, if_false]
      exact ih (isFatal_mostTelling mild whyMild) otherMild

end Search

/-! ## Candidates that are no certificates -/

section

variable {anchors : List TrustAnchor} {now : Int} {path : Path} {budget : Budget}
  {candidates extended : List (Except PathError PathCertificate)}

/-- A candidate that could not be read, for a reason that the search passes over. -/
def IsUnread (candidate : Except PathError PathCertificate) : Prop :=
  ∃ failure : PathError, failure.isFatal = false ∧ candidate = .error failure

theorem agrees_tryIssuer {search otherSearch : Path → Search Unit}
    (agrees : ∀ path budget, Search.Agrees (search path budget) (otherSearch path budget))
    (path : Path) (candidate : Except PathError PathCertificate) (budget : Budget) :
    Search.Agrees (tryIssuer search path candidate budget)
      (tryIssuer otherSearch path candidate budget) := by
  cases candidate with
  | error failure => exact .refl _
  | ok issuer =>
      simp only [tryIssuer, Search.ofVerdict_ok_bind]
      split
      · exact .refl _
      · split
        · exact .refl _
        · obtain ⟨signatures, steps, comparisons⟩ := budget
          cases steps with
          | zero => exact .refl _
          | succ left => exact agrees _ _

theorem agrees_searchStep {search otherSearch : Path → Search Unit}
    (agrees : ∀ path budget, Search.Agrees (search path budget) (otherSearch path budget))
    (interspersed : Interspersed IsUnread candidates extended) :
    Search.Agrees (searchStep anchors extended now search path budget)
      (searchStep anchors candidates now otherSearch path budget) := by
  cases checked : checkHead path now with
  | error failure =>
      simp only [searchStep, checked]
      exact .refl _
  | ok accepted =>
      simp only [searchStep, checked, Search.ofVerdict_ok_bind]
      generalize Search.firstSuccess (tryAnchor path) .unknownIssuer anchors budget = tried
      obtain ⟨outcome, left⟩ := tried
      cases outcome with
      | ok reached => exact .refl _
      | error failure =>
          cases fatal : failure.isFatal with
          | true =>
              simp only [fatal, if_true]
              exact .refl _
          | false =>
              simp only [fatal, Bool.false_eq_true, if_false]
              have unread : Interspersed (fun candidate => ∃ why : PathError,
                  why.isFatal = false ∧
                    ∀ budget, tryIssuer search path candidate budget = (.error why, budget))
                  candidates extended := by
                refine interspersed.imp ?_
                rintro _ ⟨why, mild, rfl⟩
                exact ⟨why, mild, fun budget => rfl⟩
              exact Search.agrees_firstSuccess (agrees_tryIssuer agrees path) unread fatal fatal

/-- Candidates that could not be read change nothing but the reason of a failure, at every
depth of the search. -/
theorem agrees_searchPath (interspersed : Interspersed IsUnread candidates extended)
    (room : Nat) (path : Path) (budget : Budget) :
    Search.Agrees (searchPath anchors extended now room path budget)
      (searchPath anchors candidates now room path budget) := by
  induction room generalizing path budget with
  | zero => exact agrees_searchStep (fun _ _ => .refl _) interspersed
  | succ room ih => exact agrees_searchStep ih interspersed

/-- A path that a root has signed needs no candidates. -/
theorem searchStep_of_anchors {search otherSearch : Path → Search Unit} {left : Budget}
    (found : searchStep anchors [] now search path budget = (.ok (), left)) :
    searchStep anchors candidates now otherSearch path budget = (.ok (), left) := by
  cases checked : checkHead path now with
  | error failure =>
      simp only [searchStep, checked] at found
      cases found
  | ok accepted =>
      simp only [searchStep, checked, Search.ofVerdict_ok_bind] at found ⊢
      generalize Search.firstSuccess (tryAnchor path) .unknownIssuer anchors budget = tried
        at found ⊢
      obtain ⟨outcome, spent⟩ := tried
      cases outcome with
      | ok reached => exact found
      | error failure =>
          -- without candidates the failure of the roots is that of the search
          simp only [Search.firstSuccess] at found
          split at found
          · cases found
          · cases found

theorem searchPath_of_anchors {room : Nat} {left : Budget}
    (found : searchPath anchors [] now room path budget = (.ok (), left)) :
    searchPath anchors candidates now room path budget = (.ok (), left) := by
  cases room with
  | zero => exact searchStep_of_anchors found
  | succ room => exact searchStep_of_anchors found

end

/-! ## Verdicts -/

section Verdict

variable {leaf : Certificate} {intermediates extended : List Bytes} {roots : RootStore}
  {now : Instant}

theorem verifyTrust_eq_trusted :
    verifyTrust leaf intermediates roots now = .trusted ↔
      ∃ certificate, PathCertificate.ofBytes leaf.rawDer = .ok certificate ∧
        verifyPath certificate (roots.anchors ++ suppliedAnchors intermediates)
          (intermediates.map PathCertificate.ofBytes) (max 0 now.seconds) = .ok () := by
  rw [← Outcome.bind_eq_ok]
  unfold verifyTrust
  dsimp only
  split
  · rename_i verdict
    simp [verdict]
  · rename_i failure verdict
    simp [verdict]

/-- A byte string that is neither a certificate nor a root. -/
structure IsUndecodable (bytes : Bytes) : Prop where
  certificate : ∃ failure, PathCertificate.ofBytes bytes = .error failure
  anchor : ∃ failure, TrustAnchor.ofBytes bytes = .error failure

theorem IsUndecodable.isUnread {bytes : Bytes} (undecodable : IsUndecodable bytes) :
    IsUnread (PathCertificate.ofBytes bytes) := by
  obtain ⟨failure, refused⟩ := undecodable.certificate
  exact ⟨failure, PathCertificate.isFatal_of_ofBytes refused, refused⟩

theorem IsUndecodable.toOption {bytes : Bytes} (undecodable : IsUndecodable bytes) :
    (TrustAnchor.ofBytes bytes).toOption = none := by
  obtain ⟨failure, refused⟩ := undecodable.anchor
  rw [refused]
  rfl

/-- Byte strings that are neither certificates nor roots do not change whether a leaf is
trusted, wherever they stand among the supplied certificates and however many there are. -/
theorem trusted_iff_of_interspersed (leaf : Certificate) (roots : RootStore) (now : Instant)
    (interspersed : Interspersed IsUndecodable intermediates extended) :
    verifyTrust leaf extended roots now = .trusted ↔
      verifyTrust leaf intermediates roots now = .trusted := by
  have anchors : suppliedAnchors extended = suppliedAnchors intermediates :=
    interspersed.filterMap fun _ undecodable => undecodable.toOption
  have candidates : Interspersed IsUnread (intermediates.map PathCertificate.ofBytes)
      (extended.map PathCertificate.ofBytes) :=
    interspersed.map fun _ undecodable => undecodable.isUnread
  simp only [verifyTrust_eq_trusted, anchors, verifyPath,
    (agrees_searchPath candidates maxAuthorities _ _).ok_iff]

/-! ## A supplied root -/

namespace TrustedSample

/-- The root as a certificate of the first version, which is not signed. -/
def rootEncoding : Bytes :=
  encodeSequence
    [encodeSequence
        [encodeInteger [1], encodeSequence [algorithm], encodeSequence [], encodeSequence [],
          encodeSequence [], encode 0x30 root.publicKey],
      encodeSequence [algorithm], encode 0x03 [0]]

theorem ofBytes_rootEncoding : TrustAnchor.ofBytes rootEncoding = .ok root :=
  Outcome.toOption_eq_some.1 (by decide +kernel)

/-- The leaf is trusted if the root is in the store, whatever is supplied. -/
theorem exists_trusted_leaf :
    ∃ leaf, Certificate.decode encoding = .ok leaf ∧ ∀ intermediates,
      verifyTrust leaf intermediates ⟨[root]⟩ (.ofSeconds 1767225600) = .trusted := by
  obtain ⟨signed, decoded, -⟩ :
      ∃ signed, Certificate.decode encoding = .ok (.ofSigned encoding signed) ∧ true = true :=
    Certificate.exists_decode_of_any (fun _ => true) (by decide +kernel)
  obtain ⟨certificate, read, checked, named, same⟩ := ofBytes_encoding
  exact ⟨_, decoded, fun intermediates =>
    verifyTrust_of_verifySigned read checked named rfl (same ▸ verifySigned_root)⟩

theorem isUndecodable_octet : IsUndecodable [0xFF] := ⟨⟨_, rfl⟩, ⟨_, rfl⟩⟩

end TrustedSample

/-- An octet that is nothing, before and behind a supplied root. -/
theorem trusted_iff_of_octets :
    Interspersed IsUndecodable [TrustedSample.rootEncoding]
        [[0xFF], TrustedSample.rootEncoding, [0xFF], [0xFF]] ∧
      ∃ leaf, Certificate.decode TrustedSample.encoding = .ok leaf ∧
        verifyTrust leaf [[0xFF], TrustedSample.rootEncoding, [0xFF], [0xFF]]
          ⟨[TrustedSample.root]⟩ (.ofSeconds 1767225600) = .trusted := by
  have interspersed : Interspersed IsUndecodable [TrustedSample.rootEncoding]
      [[0xFF], TrustedSample.rootEncoding, [0xFF], [0xFF]] :=
    .insert TrustedSample.isUndecodable_octet <| .keep _ <|
      .insert TrustedSample.isUndecodable_octet <|
        .insert TrustedSample.isUndecodable_octet .nil
  obtain ⟨leaf, decoded, trusted⟩ := TrustedSample.exists_trusted_leaf
  exact ⟨interspersed, leaf, decoded,
    (trusted_iff_of_interspersed leaf _ _ interspersed).2 (trusted _)⟩

/-! ## Supplied roots -/

/-- Adding certificates to a store, of which those that are refused add nothing, adds the
roots that they count as when they are supplied. -/
theorem RootStore.performAll_der (store : RootStore) (ders : List Bytes) :
    (store.performAll (ders.map .der)).1 = store.append (suppliedAnchors ders) := by
  induction ders generalizing store with
  | nil => exact (store.append_nil).symm
  | cons der ders ih =>
      cases read : TrustAnchor.ofBytes der with
      | error failure =>
          simp only [List.map_cons, RootStore.performAll, ih,
            RootStore.perform_of_adds _ (.refusedDer read), RootStore.append_nil, suppliedAnchors,
            List.filterMap_cons, read, Except.toOption]
      | ok anchor =>
          simp only [List.map_cons, RootStore.performAll, ih,
            RootStore.perform_of_adds _ (.der read), RootStore.append_append, suppliedAnchors,
            List.filterMap_cons, read, Except.toOption, List.singleton_append]

/-- Supplied certificates count as roots as if they had been added to the store: a leaf that
is trusted with them in the store is trusted with them supplied. -/
theorem trusted_of_added (leaf : Certificate) (intermediates : List Bytes) (roots : RootStore)
    (now : Instant)
    (trusted : verifyTrust leaf [] (roots.performAll (intermediates.map .der)).1 now = .trusted) :
    verifyTrust leaf intermediates roots now = .trusted := by
  obtain ⟨certificate, read, verified⟩ := verifyTrust_eq_trusted.1 trusted
  refine verifyTrust_eq_trusted.2 ⟨certificate, read, ?_⟩
  rw [RootStore.performAll_der] at verified
  have none : suppliedAnchors [] = [] := rfl
  simp only [RootStore.append, none, List.append_nil, List.map_nil, verifyPath] at verified ⊢
  exact congrArg Prod.fst (searchPath_of_anchors (Prod.ext verified rfl))

/-- The root is no root of the store, but one of the supplied certificates. -/
theorem trusted_of_added_root :
    ∃ leaf, Certificate.decode TrustedSample.encoding = .ok leaf ∧
      verifyTrust leaf []
        (RootStore.empty.performAll ([[0xFF], TrustedSample.rootEncoding].map .der)).1
        (.ofSeconds 1767225600) = .trusted ∧
      verifyTrust leaf [[0xFF], TrustedSample.rootEncoding] .empty (.ofSeconds 1767225600) =
        .trusted := by
  obtain ⟨leaf, decoded, trusted⟩ := TrustedSample.exists_trusted_leaf
  have added : (RootStore.empty.performAll ([[0xFF], TrustedSample.rootEncoding].map .der)).1 =
      ⟨[TrustedSample.root]⟩ := by
    simp only [RootStore.performAll_der, suppliedAnchors, List.filterMap_cons,
      TrustedSample.ofBytes_rootEncoding, Except.toOption, List.filterMap_nil]
    rfl
  have inStore := trusted []
  rw [← added] at inStore
  exact ⟨leaf, decoded, inStore, trusted_of_added leaf _ _ _ inStore⟩

end Verdict

end CertScope
