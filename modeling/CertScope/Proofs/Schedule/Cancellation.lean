import CertScope.Proofs.Crl.Walk
import CertScope.Proofs.Ocsp.Check
import CertScope.Proofs.Schedule.Interleaving

/-!
# Requests and the cancellation

A request is made only while the cancellation has not fired.  This is an invariant of
every schedule: each request is on record with the time at which it was made, and the
step that makes it looks at the cancellation first.  A channel that stands at a call
when the cancellation has fired gets no answer any more, since a look at a call goes by
the cancellation before it goes by the answer.
-/

namespace CertScope

open RevocationStatus

/-! ## Runs that are cancelled before they begin -/

/-- A dialogue that ends without a call gives no verdict. -/
def Dialogue.IsWary : Dialogue → Prop
  | ended status => ¬ IsVerdict status
  | asks _ _ => True

theorem Crl.walkDialogue_isWary (serial : Bytes) (now : Instant) (points : List String) :
    (walkDialogue serial now false points).IsWary := by
  induction points with
  | nil => exact not_isVerdict_notApplicable
  | cons point points ih =>
      unfold walkDialogue
      cases Url.parse point with
      | error cause => exact not_isVerdict_checkFailed
      | ok url =>
          dsimp only
          split
          · trivial
          · exact ih

theorem Crl.dialogue_isWary (leaf : Certificate) (now : Instant) :
    (dialogue leaf now).IsWary := by
  unfold dialogue
  split
  · exact not_isVerdict_notApplicable
  · exact walkDialogue_isWary _ _ _

theorem Ocsp.dialogue_isWary (leaf : Certificate) (intermediates : List Bytes)
    (authority : Option Bytes) (now : Instant) :
    (dialogue leaf intermediates authority now).IsWary := by
  unfold dialogue queryDialogue
  split
  · exact not_isVerdict_notApplicable
  · split
    · exact not_isVerdict_checkFailed
    · split
      · exact not_isVerdict_notApplicable
      · split
        · exact not_isVerdict_checkFailed
        · trivial

theorem Setup.dialogue_isWary (setup : Setup) (channel : RevocationChannel) :
    (setup.dialogue channel).IsWary := by
  unfold dialogue
  split
  · cases channel with
    | crl => exact Crl.dialogue_isWary _ _
    | ocsp => exact Ocsp.dialogue_isWary _ _ _ _
  · exact not_isVerdict_notApplicable

/-- Once the cancellation has fired, a dialogue makes no request and gives no verdict. -/
theorem Dialogue.run_of_hasFired {transport : Transport} {watch : Watch} {start : Nat}
    {dialogue : Dialogue} (givesUp : dialogue.GivesUp) (wary : dialogue.IsWary)
    (fired : watch.hasFired start = true) :
    (dialogue.run transport watch start).requests = [] ∧
      ¬ IsVerdict (dialogue.run transport watch start).value := by
  cases dialogue with
  | ended status => exact ⟨rfl, wary⟩
  | asks request next =>
      simp only [run_asks, Watch.fetch_of_hasFired fired, givesUp.1, run_ended]
      exact ⟨rfl, not_isVerdict_checkFailed⟩

/-! ## Tasks -/

namespace Task

variable {transport : Transport} {watch : Watch} {time : Nat} {task next : Task}
  {issued : List Request}

/-- The task is about to make a call, or waits for one. -/
def IsCalling : Task → Prop
  | active (.asks _ _) => True
  | waiting _ _ _ => True
  | _ => False

/-- A call that brings no bytes ends the task with the cause. -/
def GivesUp : Task → Prop
  | active dialogue => dialogue.GivesUp
  | waiting _ request next => (Dialogue.asks request next).GivesUp
  | finished _ _ => True

theorem hasFired_of_issued {request : Request}
    (polled : task.poll transport watch time = some (next, issued)) (member : request ∈ issued) :
    watch.hasFired time = false := by
  obtain ⟨status, -, -, rfl⟩ | ⟨_, _, -, -, -, rfl⟩ | ⟨_, _, -, waiting, -, -⟩ |
    ⟨_, _, _, _, -, -, -, rfl⟩ := poll_cases polled
  · cases member
  · cases member
  · exact waiting
  · cases member

theorem GivesUp.poll (givesUp : task.GivesUp)
    (polled : task.poll transport watch time = some (next, issued)) : next.GivesUp := by
  obtain ⟨status, rfl, rfl, -⟩ | ⟨request, continuation, rfl, -, rfl, -⟩ |
    ⟨request, continuation, rfl, -, rfl, -⟩ |
    ⟨since, request, continuation, outcome, rfl, -, rfl, -⟩ := poll_cases polled
  · trivial
  · exact givesUp.2 _
  · exact givesUp
  · exact givesUp.2 outcome

/-- A task that stands at a call when the cancellation has fired comes to nothing else. -/
theorem value_outcome_of_hasFired (givesUp : task.GivesUp)
    (onTime : task.IsOnTime transport watch time) (calling : task.IsCalling)
    (fired : watch.hasFired time = true) :
    (task.outcome transport watch time).value = .checkFailed "cancelled" := by
  cases task with
  | finished status ended => cases calling
  | waiting since request continuation =>
      obtain ⟨made, notLater⟩ := onTime
      have cancelled := Watch.poll_eq made notLater
      rw [Watch.poll_of_hasFired fired] at cancelled
      split at cancelled
      · simp only [outcome, ← Option.some.inj cancelled, givesUp.1, Dialogue.run_ended]
        rfl
      · cases cancelled
  | active dialogue =>
      cases dialogue with
      | ended status => cases calling
      | asks request continuation =>
          simp only [outcome, Dialogue.run_asks, Watch.fetch_of_hasFired fired, givesUp.1,
            Dialogue.run_ended]
          rfl

end Task

/-! ## Every schedule -/

namespace Schedule

variable {setup : Setup} {state next : State}

variable (setup) in
/-- A state minds the cancellation: every request on record was made before it fired, and
every channel gives up at a call that brings no bytes. -/
structure Minds (state : State) : Prop where
  log : ∀ entry ∈ state.log, ∀ fired ∈ setup.cancelAt, entry.time < fired
  givesUp : ∀ channel, (state.tasks channel).GivesUp

theorem hasFired_watch {channel : RevocationChannel} {time : Nat} :
    (setup.watch channel).hasFired time = true ↔ ∃ fired ∈ setup.cancelAt, fired ≤ time := by
  rw [Watch.hasFired_iff]
  cases channel <;> rfl

theorem Minds.step (minds : Minds setup state) (step : Step setup state next) :
    Minds setup next := by
  cases step with
  | trust pending => exact ⟨minds.log, minds.givesUp⟩
  | clock judged idle unfinished => exact ⟨minds.log, minds.givesUp⟩
  | @channel channel task issued polled =>
      constructor
      · intro entry member fired scheduled
        obtain earlier | now := List.mem_append.1 member
        · exact minds.log entry earlier fired scheduled
        · obtain ⟨request, made, rfl⟩ := List.mem_map.1 now
          have waiting := Task.hasFired_of_issued polled made
          by_contra late
          have already : (setup.watch channel).hasFired state.clock = true :=
            hasFired_watch.2 ⟨fired, scheduled, Nat.not_lt.1 late⟩
          exact absurd already (by simp [waiting])
      · intro other
        by_cases same : channel = other
        · subst same
          simpa [State.goOn] using (minds.givesUp channel).poll polled
        · simpa [State.goOn, Function.update_of_ne (Ne.symm same)] using minds.givesUp other

theorem Reaches.minds (reached : Reaches setup state) : Minds setup state := by
  induction reached with
  | refl => exact ⟨by simp [start], setup.dialogue_givesUp⟩
  | tail _ step ih => exact ih.step step

theorem value_of_isCalling (reached : Reaches setup state) {channel : RevocationChannel}
    (calling : (state.tasks channel).IsCalling)
    (fired : ∃ fired ∈ setup.cancelAt, fired ≤ state.clock) :
    (setup.evaluation.channel channel).value = .checkFailed "cancelled" := by
  have agrees := reached.agrees
  rw [← agrees.outcome channel]
  exact Task.value_outcome_of_hasFired (reached.minds.givesUp channel) (agrees.onTime channel)
    calling (hasFired_watch.2 fired)

theorem evaluation_of_cancelled (cancelled : setup.cancelAt = some 0)
    (channel : RevocationChannel) :
    (setup.evaluation.channel channel).requests = [] ∧
      ¬ IsVerdict (setup.evaluation.channel channel).value := by
  have fired : (setup.watch channel).hasFired 0 = true :=
    hasFired_watch.2 ⟨0, cancelled, Nat.le_refl 0⟩
  rw [← setup.run_dialogue channel]
  exact Dialogue.run_of_hasFired (setup.dialogue_givesUp channel) (setup.dialogue_isWary channel)
    fired

/-- An inspection that is made rests on an evaluation of its chain. -/
theorem inspect_eq_ok {bundle : Bytes} {authority : Option Bytes} {settings : Settings}
    {roots : RootStore} {transport : Transport} {now : Instant} {cancelAt : Option Nat}
    {inspection : Inspection} {requests : List Request} :
    inspect bundle authority settings roots transport now cancelAt = .ok (inspection, requests) ↔
      ∃ chain, CertificateChain.ofBundle bundle authority = .ok chain ∧
        let evaluation := Setup.evaluation ⟨chain, settings, roots, transport, now, cancelAt⟩
        Inspection.ofEvaluation chain evaluation = inspection ∧
          evaluation.requests = requests := by
  simp only [inspect, Outcome.bind_eq_ok, Outcome.pure_eq_ok, Prod.mk.injEq]
  rfl

/-- No request is made once the cancellation has fired, and a channel that stands at a call
then ends as cancelled.  The requests and the statuses are those of the evaluation and
of the inspection that rests on it; if the cancellation fires before they begin, there is
no request and no verdict, and the trust is that of a run without a cancellation. -/
theorem no_request_after_cancellation (setup : Setup) :
    (∀ state, Reaches setup state →
      (∀ entry ∈ state.log, ∀ fired ∈ setup.cancelAt, entry.time < fired) ∧
      ∀ channel, (state.tasks channel).IsCalling →
        (∃ fired ∈ setup.cancelAt, fired ≤ state.clock) →
        (setup.evaluation.channel channel).value = .checkFailed "cancelled") ∧
    (∀ state, Completes setup state → ∀ channel,
      (state.tasks channel).status? = some (setup.evaluation.channel channel).value ∧
      state.requests channel = (setup.evaluation.channel channel).requests) ∧
    (setup.cancelAt = some 0 →
      setup.evaluation.requests = [] ∧ ¬ IsVerdict setup.evaluation.crl.value ∧
      ¬ IsVerdict setup.evaluation.ocsp.value) ∧
    setup.evaluation.trust = ({ setup with cancelAt := none } : Setup).evaluation.trust ∧
    ∀ bundle authority inspection requests,
      inspect bundle authority setup.settings setup.roots setup.transport setup.now
          setup.cancelAt = .ok (inspection, requests) →
        let inspected : Setup := { setup with chain := inspection.chain }
        (∀ state, Completes inspected state →
          (state.tasks .crl).status? = some inspection.crl ∧
          (state.tasks .ocsp).status? = some inspection.ocsp ∧
          requests = state.requests .crl ++ state.requests .ocsp) ∧
        (setup.cancelAt = some 0 →
          requests = [] ∧ ¬ IsVerdict inspection.crl ∧ ¬ IsVerdict inspection.ocsp) ∧
        ∃ undisturbed asked,
          inspect bundle authority setup.settings setup.roots setup.transport setup.now none =
            .ok (undisturbed, asked) ∧ undisturbed.trust = inspection.trust := by
  refine ⟨fun state reached => ⟨reached.minds.log, fun channel => value_of_isCalling reached⟩,
    fun state completes => completes.finished.2, fun cancelled => ?_, rfl, ?_⟩
  · have crl := evaluation_of_cancelled cancelled .crl
    have ocsp := evaluation_of_cancelled cancelled .ocsp
    exact ⟨List.append_eq_nil_iff.2 ⟨crl.1, ocsp.1⟩, crl.2, ocsp.2⟩
  · intro bundle authority inspection requests inspected
    obtain ⟨chain, loaded, rfl, rfl⟩ := inspect_eq_ok.1 inspected
    refine ⟨fun state completes => ?_, fun cancelled => ?_, ?_⟩
    · have crl := completes.finished.2 .crl
      have ocsp := completes.finished.2 .ocsp
      exact ⟨crl.1, ocsp.1, by rw [crl.2, ocsp.2]; rfl⟩
    · have atOnce : ({ setup with chain := chain } : Setup).cancelAt = some 0 := cancelled
      have crl := evaluation_of_cancelled atOnce .crl
      have ocsp := evaluation_of_cancelled atOnce .ocsp
      exact ⟨List.append_eq_nil_iff.2 ⟨crl.1, ocsp.1⟩, crl.2, ocsp.2⟩
    · exact ⟨_, _, inspect_eq_ok.2 ⟨chain, loaded, rfl, rfl⟩, rfl⟩

/-- A bundle with one certificate, which has the serial number 7 and the distribution point
`ldap:x`. -/
def bundle : Bytes :=
  Bytes.ofText
    ("-----BEGIN CERTIFICATE-----\n" ++
        "MGgwXKADAgECAgEHMAUGAytlcDAAMB4XDTI1MDEwMTAwMDAwMFoXDTM1MDEwMTAw\n" ++
        "MDAwMFowADAKMAUGAytlcAMBAKMbMBkwFwYDVR0fBBAwDjAMoAqgCIYGbGRhcDp4\n" ++
        "MAUGAytlcAMBAA==\n" ++
      "-----END CERTIFICATE-----\n")

/-- An evaluation that is cancelled before it begins, while every server would answer at
once. -/
def cancelled : Setup where
  chain :=
    { leaf := { Certificate.blank with serial := [7], crlDistributionPoints := ["ldap:x"] }
      intermediates := []
      authority := none }
  settings := {}
  roots := ⟨[]⟩
  transport _ := .after 0 (.ok [])
  now := .ofSeconds 0
  cancelAt := some 0

/-- No list is asked for, neither by the evaluation nor by an inspection. -/
theorem no_request_after_cancellation_cancelled :
    cancelled.cancelAt = some 0 ∧ Reaches cancelled (start cancelled) ∧
      ((start cancelled).tasks .crl).IsCalling ∧
      cancelled.evaluation.crl.value = .checkFailed "cancelled" ∧
      cancelled.evaluation.requests = [] ∧
      (∃ state, Completes cancelled state ∧
        (state.tasks .crl).status? = some (.checkFailed "cancelled") ∧
        state.requests .crl = []) ∧
      ∃ inspection requests,
        inspect bundle none cancelled.settings cancelled.roots cancelled.transport cancelled.now
          (some 0) = .ok (inspection, requests) ∧
        requests = [] ∧ ¬ IsVerdict inspection.crl ∧ ¬ IsVerdict inspection.ocsp := by
  obtain ⟨running, completing, before, -, inspecting⟩ := no_request_after_cancellation cancelled
  have begun : Reaches cancelled (start cancelled) := .refl
  have calling : ((start cancelled).tasks .crl).IsCalling := by
    obtain ⟨url, target⟩ : ∃ url, Crl.target? "ldap:x" = some url :=
      Option.isSome_iff_exists.1 (by decide +kernel)
    obtain ⟨parsed, supported⟩ := Crl.target?_eq_some.1 target
    simp [start, Setup.dialogue, Setup.isEnabled, Setup.check, cancelled, Crl.dialogue,
      Crl.walkDialogue, parsed, supported, Task.IsCalling]
  have status := (running _ begun).2 .crl calling ⟨0, rfl, Nat.le_refl 0⟩
  obtain ⟨silent, -, -⟩ := before rfl
  obtain ⟨last, completes, -⟩ := begun.exists_completes
  obtain ⟨ended, asked⟩ := completing last completes .crl
  have loads : (CertificateChain.ofBundle bundle none).toOption.isSome := by decide +kernel
  obtain ⟨chain, loaded⟩ := Option.isSome_iff_exists.1 loads
  have inspected : inspect bundle none cancelled.settings cancelled.roots cancelled.transport
      cancelled.now (some 0) = .ok (_, _) :=
    inspect_eq_ok.2 ⟨chain, Outcome.toOption_eq_some.1 loaded, rfl, rfl⟩
  refine ⟨rfl, begun, calling, status, silent,
    ⟨last, completes, ended.trans (congrArg some status), ?_⟩,
    _, _, inspected, (inspecting bundle none _ _ inspected).2.1 rfl⟩
  exact asked.trans (List.append_eq_nil_iff.1 silent).1

end Schedule

end CertScope
