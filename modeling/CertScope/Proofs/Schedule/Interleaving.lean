import CertScope.Proofs.Schedule.Task
import Mathlib.Logic.Function.Basic
import Mathlib.Logic.Relation

/-!
# Evaluations under a schedule

The three parts of an evaluation go on side by side.  They share the clock, the
cancellation and the transport, and whichever of them can go on may be the next to do
so; time passes only when none of them can.  A schedule is a sequence of such steps.
Each step leaves what every part comes to as it is, and every schedule ends, so that
the order of the steps bears on nothing but the order of the requests of different
channels.
-/

namespace CertScope

/-- Everything that an evaluation is given. -/
structure Setup where
  chain : CertificateChain
  settings : Settings
  roots : RootStore
  transport : Transport
  now : Instant
  cancelAt : Option Nat

def Evaluation.channel (evaluation : Evaluation) : RevocationChannel → Timed RevocationStatus
  | .crl => evaluation.crl
  | .ocsp => evaluation.ocsp

namespace Setup

/-- What the parts come to, each by itself. -/
def evaluation (setup : Setup) : Evaluation :=
  evaluate setup.chain setup.settings setup.roots setup.transport setup.now setup.cancelAt

def watch (setup : Setup) : RevocationChannel → Watch
  | .crl => ⟨millis setup.settings.revocation.crlTimeout, setup.cancelAt⟩
  | .ocsp => ⟨millis setup.settings.revocation.ocspTimeout, setup.cancelAt⟩

def isEnabled (setup : Setup) : RevocationChannel → Bool
  | .crl => setup.settings.revocation.checkCrl
  | .ocsp => setup.settings.revocation.checkOcsp

def check (setup : Setup) : RevocationChannel → Dialogue
  | .crl => Crl.dialogue setup.chain.leaf setup.now
  | .ocsp =>
      Ocsp.dialogue setup.chain.leaf setup.chain.intermediates setup.chain.authority setup.now

def dialogue (setup : Setup) (channel : RevocationChannel) : Dialogue :=
  if setup.isEnabled channel then setup.check channel
  else .ended (.notApplicable "check disabled")

theorem run_dialogue (setup : Setup) (channel : RevocationChannel) :
    (setup.dialogue channel).run setup.transport (setup.watch channel) 0 =
      setup.evaluation.channel channel := by
  cases channel with
  | crl =>
      simp only [dialogue, isEnabled, check, watch, evaluation, Evaluation.channel, evaluate]
      by_cases enabled : setup.settings.revocation.checkCrl = true
      · simp only [enabled, if_true]
        exact Crl.run_dialogue setup.chain.leaf
      · simp only [enabled]
        rfl
  | ocsp =>
      simp only [dialogue, isEnabled, check, watch, evaluation, Evaluation.channel, evaluate]
      by_cases enabled : setup.settings.revocation.checkOcsp = true
      · simp only [enabled, if_true]
        exact Ocsp.run_dialogue
      · simp only [enabled]
        rfl

theorem dialogue_givesUp (setup : Setup) (channel : RevocationChannel) :
    (setup.dialogue channel).GivesUp := by
  unfold dialogue
  split
  · cases channel with
    | crl => exact Crl.dialogue_givesUp _
    | ocsp => exact Ocsp.dialogue_givesUp
  · trivial

end Setup

/-! ## Steps -/

namespace Schedule

/-- A request, with the time at which it was made and the channel that made it. -/
structure Entry where
  time : Nat
  channel : RevocationChannel
  request : Request

structure State where
  clock : Nat
  trust : Option TrustResult
  tasks : RevocationChannel → Task
  log : List Entry

namespace State

def requests (state : State) (channel : RevocationChannel) : List Request :=
  (state.log.filter (·.channel = channel)).map (·.request)

def goOn (state : State) (channel : RevocationChannel) (task : Task) (issued : List Request) :
    State :=
  { state with
    tasks := Function.update state.tasks channel task
    log := state.log ++ issued.map fun request => ⟨state.clock, channel, request⟩ }

def IsFinished (state : State) : Prop :=
  state.trust.isSome ∧ ∀ channel, (state.tasks channel).status?.isSome

end State

variable (setup : Setup)

/-- How far a channel can go on where an evaluation stands. -/
def poll (state : State) (channel : RevocationChannel) : Option (Task × List Request) :=
  (state.tasks channel).poll setup.transport (setup.watch channel) state.clock

/-- One step of an evaluation: of one of its parts, or of the clock when no part can go
on. -/
inductive Step (state : State) : State → Prop
  | trust (pending : state.trust = none) :
      Step state
        { state with
          trust := some (verifyTrust setup.chain.leaf setup.chain.intermediates setup.roots
            setup.now) }
  | channel {channel : RevocationChannel} {task : Task} {issued : List Request}
      (polled : poll setup state channel = some (task, issued)) :
      Step state (state.goOn channel task issued)
  | clock (judged : state.trust.isSome) (idle : ∀ channel, poll setup state channel = none)
      (unfinished : ¬ state.IsFinished) : Step state { state with clock := state.clock + 1 }

/-- Where every evaluation begins. -/
def start : State :=
  { clock := 0
    trust := none
    tasks := fun channel => .active (setup.dialogue channel)
    log := [] }

/-- Some schedule leads to a state. -/
def Reaches (state : State) : Prop :=
  Relation.ReflTransGen (Step setup) (start setup) state

/-- Some schedule leads to a state in which nothing can go on. -/
def Completes (state : State) : Prop :=
  Reaches setup state ∧ ¬ ∃ next, Step setup state next

/-- Whatever has not finished can go on. -/
theorem exists_step {state : State} (unfinished : ¬ state.IsFinished) :
    ∃ next, Step setup state next := by
  cases judged : state.trust with
  | none => exact ⟨_, .trust judged⟩
  | some result =>
      by_cases idle : ∀ channel, poll setup state channel = none
      · exact ⟨_, .clock (by simp [judged]) idle unfinished⟩
      · rw [not_forall] at idle
        obtain ⟨channel, able⟩ := idle
        obtain ⟨⟨task, issued⟩, polled⟩ := Option.ne_none_iff_exists'.1 able
        exact ⟨_, .channel polled⟩

/-! ## What every step preserves -/

variable {setup} {state next : State}

@[simp]
theorem State.requests_goOn (state : State) (channel other : RevocationChannel) (task : Task)
    (issued : List Request) :
    (state.goOn channel task issued).requests other =
      state.requests other ++ if channel = other then issued else [] := by
  by_cases same : channel = other
  · subst same
    simp [State.requests, State.goOn, List.filter_map, Function.comp_def]
  · simp [State.requests, State.goOn, List.filter_map, Function.comp_def, same]

variable (setup) in
/-- A state agrees with an evaluation: its tasks are on time, and every part has come to,
or is on its way to, what it comes to by itself. -/
structure Agrees (state : State) : Prop where
  trust : ∀ result ∈ state.trust, result = setup.evaluation.trust
  onTime : ∀ channel,
    (state.tasks channel).IsOnTime setup.transport (setup.watch channel) state.clock
  outcome : ∀ channel,
    (state.tasks channel).outcomeAfter setup.transport (setup.watch channel) state.clock
      (state.requests channel) = setup.evaluation.channel channel

variable (setup) in
/-- How many steps are left at most. -/
def remaining (state : State) : Nat :=
  (state.trust.elim 1 fun _ => 0) +
    (state.tasks .crl).steps setup.transport (setup.watch .crl) state.clock +
    (state.tasks .ocsp).steps setup.transport (setup.watch .ocsp) state.clock +
    (setup.evaluation.time - state.clock)

theorem agrees_start : Agrees setup (start setup) := by
  refine ⟨?_, fun channel => trivial, fun channel => ?_⟩
  · simp [start]
  · rw [← setup.run_dialogue channel]
    rfl

theorem Agrees.time (agrees : Agrees setup state) (channel : RevocationChannel) :
    ((state.tasks channel).outcome setup.transport (setup.watch channel) state.clock).time =
      (setup.evaluation.channel channel).time := by
  rw [← agrees.outcome channel]
  rfl

/-- The step of an invariant, and of the measure that bounds every schedule. -/
theorem Agrees.step (agrees : Agrees setup state) (step : Step setup state next) :
    Agrees setup next ∧ remaining setup next < remaining setup state := by
  cases step with
  | trust pending =>
      refine ⟨⟨fun result judged => ?_, agrees.onTime, agrees.outcome⟩, ?_⟩
      · exact (Option.some.inj judged).symm
      · simp [remaining, pending]
  | @channel channel task issued polled =>
      obtain ⟨onTime, kept, fewer⟩ := Task.outcome_of_poll (agrees.onTime channel) polled
      refine ⟨⟨agrees.trust, fun other => ?_, fun other => ?_⟩, ?_⟩
      · by_cases same : channel = other
        · subst same
          simpa [State.goOn] using onTime
        · simpa [State.goOn, Function.update_of_ne (Ne.symm same)] using agrees.onTime other
      · by_cases same : channel = other
        · subst same
          rw [State.requests_goOn, if_pos rfl, ← agrees.outcome channel]
          simp only [State.goOn, Function.update_self]
          exact Task.outcomeAfter_append kept _
        · rw [State.requests_goOn, if_neg same, List.append_nil, ← agrees.outcome other]
          simp only [State.goOn, Function.update_of_ne (Ne.symm same)]
      · cases channel with
        | crl =>
            simp only [remaining, State.goOn, Function.update_self, Function.update_of_ne,
              ne_eq, reduceCtorEq, not_false_eq_true]
            omega
        | ocsp =>
            simp only [remaining, State.goOn, Function.update_self, Function.update_of_ne,
              ne_eq, reduceCtorEq, not_false_eq_true]
            omega
  | clock judged idle unfinished =>
      have later (channel : RevocationChannel) :=
        Task.isOnTime_succ (agrees.onTime channel) (idle channel)
      refine ⟨⟨agrees.trust, fun channel => (later channel).1, fun channel => ?_⟩, ?_⟩
      · rw [← agrees.outcome channel]
        simp only [Task.outcomeAfter, (later channel).2.1]
        rfl
      · have ahead : state.clock < setup.evaluation.time := by
          by_contra reached
          refine unfinished ⟨judged, fun channel => ?_⟩
          by_contra running
          have before := Task.lt_time_of_idle (agrees.onTime channel) (idle channel)
            (Option.not_isSome_iff_eq_none.1 running)
          rw [agrees.time] at before
          have within : (setup.evaluation.channel channel).time ≤ setup.evaluation.time := by
            cases channel with
            | crl => exact Nat.le_max_left _ _
            | ocsp => exact Nat.le_max_right _ _
          omega
        simp only [remaining, (later .crl).2.2, (later .ocsp).2.2]
        omega

theorem Reaches.agrees (reached : Reaches setup state) : Agrees setup state := by
  induction reached with
  | refl => exact agrees_start
  | tail _ step ih => exact (ih.step step).1

/-- What has been asked for is asked for by the check itself. -/
theorem Reaches.requests_prefix (reached : Reaches setup state) (channel : RevocationChannel) :
    state.requests channel <+: (setup.evaluation.channel channel).requests := by
  rw [← reached.agrees.outcome channel]
  exact List.prefix_append _ _

/-- Where nothing can go on any more, every part has come to what it comes to by itself. -/
theorem Completes.finished (completes : Completes setup state) :
    state.trust = some setup.evaluation.trust ∧
      ∀ channel,
        (state.tasks channel).status? = some (setup.evaluation.channel channel).value ∧
        state.requests channel = (setup.evaluation.channel channel).requests := by
  obtain ⟨reached, stuck⟩ := completes
  have agrees := reached.agrees
  have finished : state.IsFinished := by
    by_contra unfinished
    exact stuck (exists_step setup unfinished)
  obtain ⟨judged, ended⟩ := finished
  constructor
  · obtain ⟨result, given⟩ := Option.isSome_iff_exists.1 judged
    rw [given, agrees.trust result given]
  · intro channel
    have outcome := agrees.outcome channel
    have ended := ended channel
    cases stands : state.tasks channel with
    | finished status time =>
        rw [stands] at outcome
        simp [← outcome, Task.outcomeAfter, Task.outcome, Task.status?]
    | active dialogue => simp [stands, Task.status?] at ended
    | waiting since request next => simp [stands, Task.status?] at ended

/-- No schedule goes on for ever. -/
theorem not_forall_step {schedule : Nat → State} (begun : schedule 0 = start setup) :
    ¬ ∀ index, Step setup (schedule index) (schedule (index + 1)) := by
  intro steps
  have agrees (index : Nat) : Agrees setup (schedule index) := by
    induction index with
    | zero => exact begun ▸ agrees_start
    | succ index ih => exact (ih.step (steps index)).1
  have descends (index : Nat) :
      remaining setup (schedule index) + index ≤ remaining setup (schedule 0) := by
    induction index with
    | zero => exact Nat.le_refl _
    | succ index ih =>
        have fewer := ((agrees index).step (steps index)).2
        omega
  have tooMany := descends (remaining setup (schedule 0) + 1)
  omega

/-- From every state that is reached, some schedule leads to the end. -/
theorem Reaches.exists_completes (reached : Reaches setup state) :
    ∃ last, Completes setup last ∧ Relation.ReflTransGen (Step setup) state last := by
  induction left : remaining setup state using Nat.strongRecOn generalizing state with
  | ind left ih =>
      by_cases able : ∃ next, Step setup state next
      · obtain ⟨next, step⟩ := able
        have fewer := (reached.agrees.step step).2
        obtain ⟨last, completes, further⟩ := ih _ (left ▸ fewer) (reached.tail step) rfl
        exact ⟨last, completes, further.head step⟩
      · exact ⟨state, ⟨reached, able⟩, .refl⟩

end Schedule

end CertScope
