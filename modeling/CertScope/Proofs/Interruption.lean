import CertScope.Crl.Check
import CertScope.Ocsp.Check
import CertScope.Proofs.Transport

/-!
# Checks under a tighter watch

A shorter deadline or an earlier cancellation replaces the outcome of a check by its
own, and never turns one verdict into another.  Two runs are compared call by call:
as long as no call is interrupted, both runs are in the same state at the same time,
and the first call that is interrupted ends the run.
-/

namespace CertScope

/-- A run was cut short by a watch, or it came out like another one.  It made no request
that the other one did not make. -/
structure Watch.Truncates (watch : Watch) (short long : Timed RevocationStatus) : Prop where
  value : short.value = long.value ∨
    short.value = .checkFailed (FetchError.timeout watch.timeout).message ∨
    short.value = .checkFailed "cancelled"
  requests : short.requests <+: long.requests

variable {tighter looser : Watch} {now : Instant} {transport : Transport}

theorem Watch.Truncates.refl (watch : Watch) (run : Timed RevocationStatus) :
    watch.Truncates run run :=
  ⟨Or.inl rfl, List.prefix_refl _⟩

theorem Watch.Interrupted.checkFailed {watch : Watch} {cause : FetchError}
    (interrupted : watch.Interrupted cause) :
    RevocationStatus.checkFailed cause.message =
        .checkFailed (FetchError.timeout watch.timeout).message ∨
      RevocationStatus.checkFailed cause.message = .checkFailed "cancelled" := by
  obtain rfl | rfl := interrupted
  · exact Or.inl rfl
  · exact Or.inr rfl

/-! ## Distribution points -/

namespace Crl

variable {serial : Bytes}

theorem query_within (within : tighter.Within looser) (url : Url) (start : Nat) :
    query serial now transport tighter url start = query serial now transport looser url start ∨
      (∃ cause, (query serial now transport tighter url start).value = .error (.fetch cause) ∧
        tighter.Interrupted cause) ∧
      (query serial now transport tighter url start).requests <+:
        (query serial now transport looser url start).requests := by
  obtain same | ⟨⟨cause, failed, interrupted⟩, fewer⟩ :=
    within.fetch transport (.crl url.text) start
  · left
    simp only [query, same]
  · right
    exact ⟨⟨cause, by simp only [query, failed], interrupted⟩, fewer⟩

theorem truncates_walk (within : tighter.Within looser) (asked : Bool) (start : Nat)
    (points : List String) :
    tighter.Truncates (walk serial now transport tighter asked start points)
      (walk serial now transport looser asked start points) := by
  induction points generalizing asked start with
  | nil => exact .refl _ _
  | cons point points ih =>
      cases parsed : Url.parse point with
      | error cause =>
          simp only [walk, parsed]
          exact .refl _ _
      | ok url =>
          by_cases supported : schemes.contains url.scheme = true
          · simp only [walk, parsed, supported, if_true]
            obtain same | ⟨⟨cause, failed, interrupted⟩, fewer⟩ := query_within within url start
            · -- The next point is reached at the same time, if this one does not decide.
              rw [same]
              cases answered : (query serial now transport looser url start).value with
              | error error => exact .refl _ _
              | ok listed =>
                  cases listed with
                  | true => exact .refl _ _
                  | false =>
                      obtain ⟨outcome, sameOrFewer⟩ :=
                        ih true (query serial now transport looser url start).time
                      exact ⟨outcome, (List.prefix_append_right_inj _).2 sameOrFewer⟩
            · rw [failed]
              refine ⟨Or.inr interrupted.checkFailed, ?_⟩
              cases (query serial now transport looser url start).value with
              | error error => exact fewer
              | ok listed =>
                  cases listed with
                  | true => exact fewer
                  | false => exact fewer.trans (List.prefix_append _ _)
          · simp only [walk, parsed, supported]
            exact ih asked start

theorem truncates_checkCrl (within : tighter.Within looser) (leaf : Certificate) :
    tighter.Truncates (checkCrl leaf now transport tighter)
      (checkCrl leaf now transport looser) := by
  unfold checkCrl
  cases leaf.crlDistributionPoints with
  | nil => exact .refl _ _
  | cons point points => exact truncates_walk within _ _ _

end Crl

/-! ## Responders -/

namespace Ocsp

theorem query_within (within : tighter.Within looser) (leaf : Certificate)
    (issuer : X509.SignedCertificate) (url : String) (now : Instant) (transport : Transport) :
    query leaf issuer url now transport tighter = query leaf issuer url now transport looser ∨
      (∃ cause, (query leaf issuer url now transport tighter).value = .error (.fetch cause) ∧
        tighter.Interrupted cause) ∧
      (query leaf issuer url now transport tighter).requests <+:
        (query leaf issuer url now transport looser).requests := by
  cases requested : request leaf.serial issuer with
  | error error =>
      left
      simp only [query, requested]
  | ok body =>
      obtain same | ⟨⟨cause, failed, interrupted⟩, fewer⟩ :=
        within.fetch transport (.ocsp url body) 0
      · left
        simp only [query, requested, same]
      · right
        simp only [query, requested, failed]
        exact ⟨⟨cause, rfl, interrupted⟩, fewer⟩

theorem truncates_checkOcsp (within : tighter.Within looser) (leaf : Certificate)
    (intermediates : List Bytes) (authority : Option Bytes) :
    tighter.Truncates (checkOcsp leaf intermediates authority now transport tighter)
      (checkOcsp leaf intermediates authority now transport looser) := by
  unfold checkOcsp
  cases selected : selectIssuer intermediates authority with
  | none => exact .refl _ _
  | some candidate =>
      cases read : X509.SignedCertificate.read (Pem.firstCertificate candidate) with
      | error failure =>
          simp only [read]
          exact .refl _ _
      | ok step =>
          obtain ⟨issuer, rest⟩ := step
          cases responder : leaf.ocspServers.head? with
          | none =>
              simp only [read]
              exact .refl _ _
          | some url =>
              simp only [read]
              obtain same | ⟨⟨cause, failed, interrupted⟩, fewer⟩ :=
                query_within within leaf issuer url now transport
              · rw [same]
                exact .refl _ _
              · rw [failed]
                exact ⟨Or.inr interrupted.checkFailed, fewer⟩

end Ocsp

/-- Under a tighter watch both checks come out as under the looser one, or are cut short
by the deadline or the cancellation of the tighter one, and their requests are the
first of those that the looser one lets through. -/
theorem checks_truncate (within : tighter.Within looser) (leaf : Certificate)
    (intermediates : List Bytes) (authority : Option Bytes) (now : Instant)
    (transport : Transport) :
    tighter.Truncates (checkCrl leaf now transport tighter)
        (checkCrl leaf now transport looser) ∧
      tighter.Truncates (checkOcsp leaf intermediates authority now transport tighter)
        (checkOcsp leaf intermediates authority now transport looser) :=
  ⟨Crl.truncates_checkCrl within leaf,
    Ocsp.truncates_checkOcsp within leaf intermediates authority⟩

/-- A deadline of three seconds and a cancellation after seven, against a deadline of five
and no cancellation. -/
theorem checks_truncate_unanswered :
    Watch.Within ⟨3000, some 7000⟩ ⟨5000, none⟩ ∧
      let leaf : Certificate :=
        { Certificate.blank with
          crlDistributionPoints := ["ldap:x", "ldap:y"]
          ocspServers := ["http://ocsp.test"] }
      Watch.Truncates ⟨3000, some 7000⟩
          (checkCrl leaf (.ofSeconds 0) (fun _ => .never) ⟨3000, some 7000⟩)
          (checkCrl leaf (.ofSeconds 0) (fun _ => .never) ⟨5000, none⟩) ∧
        Watch.Truncates ⟨3000, some 7000⟩
          (checkOcsp leaf [] none (.ofSeconds 0) (fun _ => .never) ⟨3000, some 7000⟩)
          (checkOcsp leaf [] none (.ofSeconds 0) (fun _ => .never) ⟨5000, none⟩) := by
  have within : Watch.Within ⟨3000, some 7000⟩ ⟨5000, none⟩ :=
    ⟨by decide, fun fired never => by simp at never⟩
  exact ⟨within, checks_truncate within _ [] none (.ofSeconds 0) fun _ => .never⟩

end CertScope
