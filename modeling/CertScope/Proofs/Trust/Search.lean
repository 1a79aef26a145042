import CertScope.Trust.Verify
import CertScope.Proofs.Trust.Reading

/-!
# The search for a path

Nothing about a leaf is looked at before its own check has passed, so a leaf that is
trusted has passed it.  In the other direction, a leaf that passes its own check is
trusted as soon as the first root has signed it.
-/

namespace CertScope

open PathReader

variable {now : Int} {certificate : PathCertificate}

/-! ## What the search has checked -/

/-- A search that succeeds has found nothing wrong with the head of its path. -/
theorem checkHead_of_searchPath {anchors : List TrustAnchor}
    {candidates : List (Except PathError PathCertificate)} {room : Nat} {path : Path}
    {budget : Budget} (found : (searchPath anchors candidates now room path budget).1 = .ok ()) :
    checkHead path now = .ok () := by
  cases checked : checkHead path now with
  | ok accepted => rfl
  | error error =>
      have failed (search : Path → Search Unit) :
          (searchStep anchors candidates now search path budget).1 = .error error := by
        simp only [searchStep, checked]
        rfl
      cases room with
      | zero =>
          rw [searchPath, failed] at found
          cases found
      | succ room =>
          rw [searchPath, failed] at found
          cases found

theorem checkHead_of_verifyTrust {leaf : Certificate} {intermediates : List Bytes}
    {roots : RootStore} {now : Instant}
    (trusted : verifyTrust leaf intermediates roots now = .trusted) :
    ∃ certificate, PathCertificate.ofBytes leaf.rawDer = .ok certificate ∧
      checkHead (.ofLeaf certificate) (max 0 now.seconds) = .ok () := by
  unfold verifyTrust at trusted
  dsimp only at trusted
  split at trusted
  · rename_i verdict
    simp only [Outcome.bind_eq_ok] at verdict
    obtain ⟨certificate, read, verified⟩ := verdict
    exact ⟨certificate, read, checkHead_of_searchPath verified⟩
  · cases trusted

/-- What the check of a leaf for itself establishes about its fields. -/
structure Accepted (certificate : PathCertificate) (now : Int) : Prop where
  validity : whole .malformed (readValidity now) certificate.validity = .ok ()
  role : ∀ value ∈ certificate.extensions.basicConstraints,
    whole .malformed (readBasicConstraints (.ofLeaf certificate)) value = .ok ()
  purposes : ∀ value ∈ certificate.extensions.purposes,
    whole .malformed (readPurposes (value.length + 1)) value = .ok ()

theorem accepted_of_checkHead (checked : checkHead (.ofLeaf certificate) now = .ok ()) :
    Accepted certificate now := by
  simp only [checkHead, Path.ofLeaf, Outcome.bind_eq_ok] at checked
  obtain ⟨_, validity, checked⟩ := checked
  refine ⟨validity, ?_, ?_⟩
  · intro value remembered
    simp only [Option.mem_def.1 remembered, Outcome.bind_eq_ok] at checked
    obtain ⟨_, role, -⟩ := checked
    exact role
  · intro value remembered
    cases constraints : certificate.extensions.basicConstraints with
    | none =>
        simp only [constraints, Option.mem_def.1 remembered, Outcome.bind_eq_ok] at checked
        obtain ⟨_, -, listed⟩ := checked
        exact listed
    | some _ =>
        simp only [constraints, Option.mem_def.1 remembered, Outcome.bind_eq_ok] at checked
        obtain ⟨_, -, listed⟩ := checked
        exact listed

theorem times_of_readValidity {contents : Bytes}
    (read : whole .malformed (readValidity now) contents = .ok ()) :
    ∃ notBefore notAfter rest, time contents = .ok (notBefore, rest) ∧
      time rest = .ok (notAfter, []) ∧ notBefore ≤ now ∧ now ≤ notAfter := by
  have read := whole_eq_ok.1 read
  simp only [readValidity, bind_eq_ok, guarded_eq_ok] at read
  obtain ⟨notBefore, rest, begins, notAfter, left, ends, -, begun, read⟩ := read
  split at read
  · exact (throw_eq_ok.1 read).elim
  · rename_i lasting
    obtain ⟨-, rfl⟩ := Prod.mk.inj (pure_eq_ok.1 read)
    exact ⟨notBefore, notAfter, rest, begins, ends, by omega, by omega⟩

/-! ## What the search finds -/

namespace Search

theorem ofVerdict_ok_bind {value result : Type} (read : value) (next : value → Search result) :
    ofVerdict (.ok read) >>= next = next read :=
  rfl

/-- The first attempt decides if it succeeds. -/
theorem firstSuccess_cons_of_eq_ok {item value : Type} {attempt : item → Search value}
    {failure : PathError} {first : item} {others : List item} {budget left : Budget}
    {result : value} (succeeds : attempt first budget = (.ok result, left)) :
    firstSuccess attempt failure (first :: others) budget = (.ok result, left) := by
  simp only [firstSuccess, succeeds]

end Search

/-- A path that the first root has signed needs no further certificate. -/
theorem searchPath_of_tryAnchor {anchor : TrustAnchor} {others : List TrustAnchor}
    {candidates : List (Except PathError PathCertificate)} {room : Nat} {path : Path}
    {budget left : Budget} (checked : checkHead path now = .ok ())
    (reached : tryAnchor path anchor budget = (.ok (), left)) :
    searchPath (anchor :: others) candidates now room path budget = (.ok (), left) := by
  have stepped (search : Path → Search Unit) :
      searchStep (anchor :: others) candidates now search path budget = (.ok (), left) := by
    simp only [searchStep, checked, Search.ofVerdict_ok_bind,
      Search.firstSuccess_cons_of_eq_ok reached]
  cases room with
  | zero => exact stepped _
  | succ room => exact stepped _

/-- The one algorithm that its identifier names decides about signed data. -/
theorem verifySigned_of_verify {key bits : Bytes} {data : SignedData} {algorithm : PathAlgorithm}
    (only : PathAlgorithm.supported.filter (·.signatureId == data.algorithm) = [algorithm])
    (read : whole (.trailing .publicKey) readKey key = .ok (algorithm.keyId, bits))
    (verifies : algorithm.scheme.verify bits data.message data.signature = true) :
    verifySigned key data = .ok () := by
  rw [verifySigned, only]
  refine Outcome.bind_eq_ok.2 ⟨_, read, ?_⟩
  change (if algorithm.keyId ≠ algorithm.keyId then _ else _) = Except.ok ()
  rw [if_neg (not_not_intro rfl), if_pos verifies]
  rfl

theorem tryAnchor_of_verifySigned {anchor : TrustAnchor}
    (named : certificate.issuer = anchor.subject) (free : anchor.nameConstraints = none)
    (signed : verifySigned anchor.publicKey certificate.signed = .ok ()) :
    tryAnchor (.ofLeaf certificate) anchor {} = (.ok (), { signatures := 99 }) := by
  have known : ¬ certificate.issuer ≠ anchor.subject := not_not_intro named
  simp only [tryAnchor, Path.ofLeaf, Path.certificates, free, checkSignatures, signed,
    if_neg known]
  rfl

/-- A leaf that passes its own check is trusted if the first root, which constrains no
names, has issued it. -/
theorem verifyTrust_of_verifySigned {leaf : Certificate} {intermediates : List Bytes}
    {anchor : TrustAnchor} {others : List TrustAnchor} {now : Instant}
    (read : PathCertificate.ofBytes leaf.rawDer = .ok certificate)
    (checked : checkHead (.ofLeaf certificate) (max 0 now.seconds) = .ok ())
    (named : certificate.issuer = anchor.subject) (free : anchor.nameConstraints = none)
    (signed : verifySigned anchor.publicKey certificate.signed = .ok ()) :
    verifyTrust leaf intermediates ⟨anchor :: others⟩ now = .trusted := by
  have tried := tryAnchor_of_verifySigned named free signed
  have verdict :
      (PathCertificate.ofBytes leaf.rawDer >>= fun certificate =>
        verifyPath certificate (anchor :: others ++ suppliedAnchors intermediates)
          (intermediates.map PathCertificate.ofBytes) (max 0 now.seconds)) = .ok () := by
    refine Outcome.bind_eq_ok.2 ⟨certificate, read, ?_⟩
    rw [verifyPath, List.cons_append, searchPath_of_tryAnchor checked tried]
  simp only [verifyTrust, verdict]

end CertScope
