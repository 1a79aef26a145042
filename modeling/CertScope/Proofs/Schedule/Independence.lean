import CertScope.Proofs.Schedule.Interleaving

/-!
# Channels by themselves

The parts of an evaluation do not bear on each other.  Under every schedule each of them
comes to what it comes to by itself, and a channel comes to the same in two evaluations
that agree in what the channel sees: the leaf, the time, the cancellation, its own
settings and the answers to its own requests, and, for status responses, the
certificates among which the issuer is looked for.
-/

namespace CertScope

def Request.channel : Request → RevocationChannel
  | .crl _ => .crl
  | .ocsp _ _ => .ocsp

/-- Two evaluations are given the same as far as a channel can see. -/
structure Setup.Shares (first second : Setup) (channel : RevocationChannel) : Prop where
  leaf : first.chain.leaf = second.chain.leaf
  now : first.now = second.now
  isEnabled : first.isEnabled channel = second.isEnabled channel
  watch : first.watch channel = second.watch channel
  issuers : channel = .ocsp → first.chain.intermediates = second.chain.intermediates ∧
    first.chain.authority = second.chain.authority
  answers : ∀ request : Request, request.channel = channel →
    first.transport request = second.transport request

namespace Setup

variable {first second : Setup} {channel : RevocationChannel}

theorem dialogue_asksOnly (setup : Setup) (channel : RevocationChannel) :
    (setup.dialogue channel).AsksOnly fun request => request.channel = channel := by
  unfold dialogue
  split
  · cases channel with
    | crl =>
        refine (Crl.dialogue_asksOnly setup.chain.leaf).imp ?_
        rintro request ⟨url, rfl⟩
        rfl
    | ocsp =>
        refine Ocsp.dialogue_asksOnly.imp ?_
        rintro request ⟨url, body, rfl⟩
        rfl
  · trivial

theorem Shares.dialogue (shares : first.Shares second channel) :
    first.dialogue channel = second.dialogue channel := by
  unfold Setup.dialogue
  rw [shares.isEnabled]
  cases channel with
  | crl => simp only [check, shares.leaf, shares.now]
  | ocsp =>
      obtain ⟨intermediates, authority⟩ := shares.issuers rfl
      simp only [check, shares.leaf, shares.now, intermediates, authority]

theorem Shares.outcome (shares : first.Shares second channel) :
    first.evaluation.channel channel = second.evaluation.channel channel := by
  rw [← run_dialogue, ← run_dialogue, shares.dialogue, shares.watch]
  exact Dialogue.run_congr shares.answers (second.dialogue_asksOnly channel)

theorem outcome_of_not_isEnabled {setup : Setup} (off : setup.isEnabled channel = false) :
    setup.evaluation.channel channel = disabled := by
  rw [← run_dialogue, Setup.dialogue, off]
  rfl

end Setup

namespace Schedule

variable {setup : Setup}

/-- An evaluation comes to the same under every schedule, and there is a last step to each of
them.  Every part comes to what its check comes to by itself, so that nothing but what
a channel sees bears on its status and its requests; a channel that is switched off makes
no request. -/
theorem outcome_of_every_schedule (setup : Setup) :
    (∀ schedule : Nat → State, schedule 0 = start setup →
      ¬ ∀ index, Step setup (schedule index) (schedule (index + 1))) ∧
    (∃ state, Completes setup state) ∧
    (∀ state, Completes setup state →
      let evaluation := evaluate setup.chain setup.settings setup.roots setup.transport setup.now
        setup.cancelAt
      state.trust = some evaluation.trust ∧
      (state.tasks .crl).status? = some evaluation.crl.value ∧
      state.requests .crl = evaluation.crl.requests ∧
      (state.tasks .ocsp).status? = some evaluation.ocsp.value ∧
      state.requests .ocsp = evaluation.ocsp.requests ∧
      evaluation.trust =
        verifyTrust setup.chain.leaf setup.chain.intermediates setup.roots setup.now ∧
      (setup.isEnabled .crl = true → evaluation.crl =
        checkCrl setup.chain.leaf setup.now setup.transport (setup.watch .crl)) ∧
      (setup.isEnabled .ocsp = true → evaluation.ocsp =
        checkOcsp setup.chain.leaf setup.chain.intermediates setup.chain.authority setup.now
          setup.transport (setup.watch .ocsp))) ∧
    (∀ other channel, setup.Shares other channel → ∀ state otherState,
      Completes setup state → Completes other otherState →
        (state.tasks channel).status? = (otherState.tasks channel).status? ∧
        state.requests channel = otherState.requests channel) ∧
    ∀ channel, setup.isEnabled channel = false → ∀ state, Reaches setup state →
      state.requests channel = [] := by
  refine ⟨fun schedule begun => not_forall_step begun, ?_, ?_, ?_, ?_⟩
  · have begun : Reaches setup (start setup) := .refl
    obtain ⟨last, completes, -⟩ := begun.exists_completes
    exact ⟨last, completes⟩
  · intro state completes evaluation
    obtain ⟨judged, channels⟩ := completes.finished
    refine ⟨judged, (channels .crl).1, (channels .crl).2, (channels .ocsp).1, (channels .ocsp).2,
      rfl, fun enabled => if_pos enabled, fun enabled => if_pos enabled⟩
  · intro other channel shares state otherState completes alsoCompletes
    obtain ⟨status, requests⟩ := completes.finished.2 channel
    obtain ⟨otherStatus, otherRequests⟩ := alsoCompletes.finished.2 channel
    rw [status, requests, otherStatus, otherRequests, shares.outcome]
    exact ⟨rfl, rfl⟩
  · intro channel off state reached
    have asked := reached.requests_prefix channel
    rw [Setup.outcome_of_not_isEnabled off] at asked
    exact List.prefix_nil.1 asked

/-- A leaf with a distribution point that no list comes from, and with a responder. -/
def evaluated (authority : Option Bytes) (responder : Answer) (ocspTimeout : Nat) : Setup where
  chain :=
    { leaf :=
        { Certificate.blank with
          serial := [7]
          crlDistributionPoints := ["ldap:x"]
          ocspServers := ["http://ocsp.test"] }
      intermediates := []
      authority }
  settings := { revocation := { ocspTimeout } }
  roots := ⟨[]⟩
  transport
    | .crl _ => .after 20 (.error (.unsupportedScheme "ldap"))
    | .ocsp _ _ => responder
  now := .ofSeconds 0
  cancelAt := some 5000

/-- Neither the authority nor the responder nor its deadline bears on the list; a channel
that is switched off asks for nothing. -/
theorem outcome_of_every_schedule_evaluated :
    let first := evaluated none .never 5
    let second := evaluated (some [0x30]) (.after 7 (.ok [])) 3
    let off : Setup := { first with settings := { revocation := { checkCrl := false } } }
    first.Shares second .crl ∧ off.isEnabled .crl = false ∧
      ∃ state otherState offState,
        Completes first state ∧ Completes second otherState ∧ Completes off offState ∧
        (state.tasks .crl).status? = some (.checkFailed "ldap CRL retrieval is not available") ∧
        (otherState.tasks .crl).status? = (state.tasks .crl).status? ∧
        otherState.requests .crl = state.requests .crl ∧
        offState.requests .crl = [] := by
  intro first second off
  have shares : first.Shares second .crl := by
    refine ⟨rfl, rfl, rfl, rfl, fun other => (by cases other), fun request kind => ?_⟩
    cases request with
    | crl url => rfl
    | ocsp url body => cases kind
  obtain ⟨-, ⟨state, completes⟩, outcome, share, -⟩ := outcome_of_every_schedule first
  obtain ⟨-, ⟨otherState, alsoCompletes⟩, -⟩ := outcome_of_every_schedule second
  obtain ⟨-, ⟨offState, offCompletes⟩, -, -, silent⟩ := outcome_of_every_schedule off
  obtain ⟨sameStatus, sameRequests⟩ := share second .crl shares state otherState completes
    alsoCompletes
  have failed : first.evaluation.crl.value =
      .checkFailed "ldap CRL retrieval is not available" := by decide +kernel
  exact ⟨shares, rfl, state, otherState, offState, completes, alsoCompletes, offCompletes,
    (outcome state completes).2.1.trans (congrArg some failed), sameStatus.symm,
    sameRequests.symm, silent .crl rfl offState offCompletes.1⟩

end Schedule

end CertScope
