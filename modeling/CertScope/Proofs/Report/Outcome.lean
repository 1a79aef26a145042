import CertScope.Inspection.Report
import CertScope.Proofs.Crl.Check
import CertScope.Proofs.Schedule.Interleaving
import Mathlib.Data.List.Basic

/-!
# Outcomes that are told from what is shown

The outcomes of an inspection are shown as texts.  A text does not tell every status: the
reason for which a check does not apply is shown without anything in front of it.  But there
are only three such reasons for each channel, and among the statuses that a channel can come
to the text tells the status.
-/

namespace CertScope

/-- The reasons for which the check of a channel does not apply. -/
def RevocationChannel.exemptions : RevocationChannel → List String
  | crl => ["check disabled", "no CRL endpoints set", "no supported CRL endpoints found"]
  | ocsp =>
      ["check disabled", "no CA or intermediate certificate provided",
        "no OCSP responder URL set"]

def RevocationChannel.label : RevocationChannel → String
  | crl => "CRL Status"
  | ocsp => "OCSP Status"

namespace RevocationStatus

/-! ## The statuses of a channel -/

/-- A status that a channel can come to: its reason not to apply is one of the three. -/
def IsOf (channel : RevocationChannel) : RevocationStatus → Prop
  | notApplicable reason => reason ∈ channel.exemptions
  | valid | revoked _ | checkFailed _ => True

end RevocationStatus

open RevocationStatus

section

variable {leaf : Certificate} {now : Instant} {transport : Transport} {watch : Watch}

/-- A point that decides never decides that the check does not apply. -/
theorem Crl.Decides.isOf {serial : Bytes} {time : Nat} {point : String}
    {status : RevocationStatus} (decides : Decides serial now transport watch time point status) :
    IsOf .crl status := by
  cases decides <;> trivial

theorem Crl.isOf_walk {serial : Bytes} {asked : Bool} {start : Nat} {points : List String} :
    IsOf .crl (walk serial now transport watch asked start points).value := by
  obtain ⟨position, status, first⟩ | passes :=
    firstDecides_or_not serial now transport watch start points
  · obtain ⟨point, -, decides⟩ := first.decides
    rw [(walk_of_firstDecides first).1]
    exact decides.isOf
  · rw [(walk_of_no_decision asked passes).1]
    split
    · trivial
    · simp [IsOf, RevocationChannel.exemptions]

theorem isOf_checkCrl : IsOf .crl (checkCrl leaf now transport watch).value := by
  unfold checkCrl
  split
  · simp [IsOf, RevocationChannel.exemptions]
  · exact Crl.isOf_walk

/-- An answer never says that the check does not apply. -/
theorem Ocsp.isOf_statusOf {channel : RevocationChannel} {url : String}
    {answer : Except Ocsp.Error Ocsp.SingleResponse} : IsOf channel (Ocsp.statusOf url answer) := by
  unfold Ocsp.statusOf
  split <;> trivial

theorem isOf_checkOcsp {intermediates : List Bytes} {authority : Option Bytes} :
    IsOf .ocsp (checkOcsp leaf intermediates authority now transport watch).value := by
  unfold checkOcsp
  split
  · simp [IsOf, RevocationChannel.exemptions]
  split
  · trivial
  split
  · simp [IsOf, RevocationChannel.exemptions]
  · exact Ocsp.isOf_statusOf

theorem isOf_disabled (channel : RevocationChannel) : IsOf channel disabled.value := by
  cases channel <;> simp [IsOf, disabled, RevocationChannel.exemptions]

theorem Setup.isOf_channel (setup : Setup) (channel : RevocationChannel) :
    IsOf channel (setup.evaluation.channel channel).value := by
  cases channel with
  | crl =>
      simp only [evaluation, evaluate, Evaluation.channel]
      split
      · exact isOf_checkCrl
      · exact isOf_disabled .crl
  | ocsp =>
      simp only [evaluation, evaluate, Evaluation.channel]
      split
      · exact isOf_checkOcsp
      · exact isOf_disabled .ocsp

end

/-! ## Reading a status back -/

def behind? (front text : String) : Option String :=
  (front.toList.isPrefixOf? text.toList).map String.ofList

theorem behind?_append (front text : String) : behind? front (front ++ text) = some text := by
  have split : front.toList.isPrefixOf? (front ++ text).toList = some text.toList := by
    simp
  rw [behind?, split, Option.map_some, String.ofList_toList]

theorem ne_of_head {first second : String} (other : first.toList.head? ≠ second.toList.head?) :
    first ≠ second := by
  rintro rfl
  exact other rfl

namespace RevocationStatus

/-- The status of a channel that is shown as a text. -/
def ofDescription? (channel : RevocationChannel) (text : String) : Option RevocationStatus :=
  if text = "Valid" then some .valid
  else
    match behind? "Revoked by " text, behind? ("Cannot check " ++ channel.name ++ ": ") text with
    | some source, _ => some (.revoked source)
    | none, some reason => some (.checkFailed reason)
    | none, none =>
        (channel.exemptions.find? (Upper.capitalized · = text)).map .notApplicable

/-- A status that a channel can come to is read back from its description. -/
theorem ofDescription?_describe {channel : RevocationChannel} {status : RevocationStatus}
    (own : status.IsOf channel) :
    ofDescription? channel (status.describe channel) = some status := by
  cases status with
  | notApplicable reason =>
      have listed : ∀ reason ∈ channel.exemptions,
          ofDescription? channel (Upper.capitalized reason) = some (.notApplicable reason) := by
        cases channel <;> decide +kernel
      exact listed reason own
  | valid => rfl
  | revoked source =>
      have other : "Revoked by " ++ source ≠ "Valid" := ne_of_head (by simp)
      rw [describe, ofDescription?, if_neg other, behind?_append]
  | checkFailed reason =>
      have other : "Cannot check " ++ channel.name ++ ": " ++ reason ≠ "Valid" :=
        ne_of_head (by simp)
      have unlike : behind? "Revoked by " ("Cannot check " ++ channel.name ++ ": " ++ reason) =
          none := by
        simp [behind?, List.isPrefixOf?]
      rw [describe, ofDescription?, if_neg other, unlike, behind?_append]

/-- Among the statuses that a channel can come to, no two have one description. -/
theorem describe_inj {channel : RevocationChannel} {first second : RevocationStatus}
    (own : first.IsOf channel) (alsoOwn : second.IsOf channel) :
    first.describe channel = second.describe channel ↔ first = second := by
  constructor
  · intro same
    have read := ofDescription?_describe own
    rw [same, ofDescription?_describe alsoOwn] at read
    exact (Option.some.inj read).symm
  · rintro rfl
    rfl

end RevocationStatus

theorem TrustResult.display_inj {first second : TrustResult} :
    first.display = second.display ↔ first = second := by
  cases first with
  | trusted =>
      cases second with
      | trusted => simp
      | untrusted reason => simpa [display] using ne_of_head (by simp)
  | untrusted reason =>
      cases second with
      | trusted => simpa [display] using ne_of_head (by simp)
      | untrusted other => simp [display, String.append_right_inj]

/-! ## What a report shows -/

namespace Setup

def inspection (setup : Setup) : Inspection := .ofEvaluation setup.chain setup.evaluation

/-- The value that the report shows under a label among the outcomes. -/
def shown? (setup : Setup) (label : String) : Option String :=
  (setup.inspection.report.section? "Debugging").bind (·.value? label)

theorem shown?_trust (setup : Setup) :
    setup.shown? "Trusted by this computer" = some setup.evaluation.trust.display := rfl

theorem shown?_channel (setup : Setup) (channel : RevocationChannel) :
    setup.shown? channel.label =
      some ((setup.evaluation.channel channel).value.describe channel) := by
  cases channel <;> rfl

/-- A channel is shown like a status that it can come to only if it has come to this status. -/
theorem shown?_eq_iff (setup : Setup) {channel : RevocationChannel} {status : RevocationStatus}
    (own : status.IsOf channel) :
    setup.shown? channel.label = some (status.describe channel) ↔
      (setup.evaluation.channel channel).value = status := by
  rw [shown?_channel, Option.some_inj, describe_inj (setup.isOf_channel channel) own]

/-- Two evaluations are shown with one value under the label of an outcome only if they agree in
this outcome.  A channel is shown as valid, as revoked or as not checked exactly if it came to
that; every other text is that of one of the three reasons not to apply. -/
theorem outcomes_of_shown (first second : Setup) :
    (first.shown? "Trusted by this computer" = second.shown? "Trusted by this computer" ↔
        first.evaluation.trust = second.evaluation.trust) ∧
      ∀ channel : RevocationChannel,
        (first.shown? channel.label = second.shown? channel.label ↔
            (first.evaluation.channel channel).value =
              (second.evaluation.channel channel).value) ∧
          (first.shown? channel.label = some "Valid" ↔
            (first.evaluation.channel channel).value = .valid) ∧
          (∀ source, first.shown? channel.label = some ("Revoked by " ++ source) ↔
            (first.evaluation.channel channel).value = .revoked source) ∧
          (∀ reason,
            first.shown? channel.label =
                some ("Cannot check " ++ channel.name ++ ": " ++ reason) ↔
              (first.evaluation.channel channel).value = .checkFailed reason) ∧
          ∀ reason, (first.evaluation.channel channel).value = .notApplicable reason →
            reason ∈ channel.exemptions := by
  constructor
  · rw [shown?_trust, shown?_trust, Option.some_inj, TrustResult.display_inj]
  · intro channel
    refine ⟨?_, ?_, fun source => ?_, fun reason => ?_, fun reason exempt => ?_⟩
    · rw [shown?_channel second, shown?_eq_iff first (second.isOf_channel channel)]
    · exact @shown?_eq_iff first channel .valid trivial
    · exact @shown?_eq_iff first channel (.revoked source) trivial
    · exact @shown?_eq_iff first channel (.checkFailed reason) trivial
    · have own := first.isOf_channel channel
      rwa [exempt] at own

end Setup

end CertScope
