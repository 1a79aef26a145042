import CertScope.Proofs.Schedule.Dialogue
import Mathlib.Logic.Basic

/-!
# Tasks that are polled

While other things go on, a dialogue is a task that is looked at now and then.  A task
can be gone on with at once, or it waits for a call, or it has finished.  A look at
a waiting task goes by the cancellation first, then by the answer, and then by the
deadline.  A task that is looked at in time comes to what its dialogue comes to on
its own, whatever happens between two looks.
-/

namespace CertScope

/-! ## A call that is waited for -/

namespace Watch

variable {watch : Watch} {transport : Transport} {request : Request} {since time : Nat}

/-- What has come by some time of a call that was made at `since`. -/
def poll (watch : Watch) (since time : Nat) (answer : Answer) :
    Option (Except FetchError Bytes) :=
  if watch.hasFired time then some (.error .cancelled)
  else
    let overdue : Option (Except FetchError Bytes) :=
      if since + watch.timeout ≤ time then some (.error (.timeout watch.timeout)) else none
    match answer with
    | .after delay outcome => if since + delay ≤ time then some outcome else overdue
    | .never => overdue

theorem poll_of_hasFired {answer : Answer} (fired : watch.hasFired time = true) :
    watch.poll since time answer = some (.error .cancelled) := by
  simp [poll, fired]

/-- Without a cancellation, a call comes to its end at the time at which it settles. -/
theorem poll_of_not_hasFired {answer : Answer} (waiting : watch.hasFired time = false)
    (notLater : time ≤ (watch.settle since answer).2) :
    watch.poll since time answer =
      if time = (watch.settle since answer).2 then some (watch.settle since answer).1
      else none := by
  simp only [poll, waiting, Bool.false_eq_true, if_false]
  cases answer with
  | never =>
      simp only [settle] at notLater ⊢
      have due : since + watch.timeout ≤ time ↔ time = since + watch.timeout := by omega
      exact if_congr due rfl rfl
  | after delay outcome =>
      by_cases inTime : delay ≤ watch.timeout
      · simp only [settle, inTime, if_true] at notLater ⊢
        have due : since + delay ≤ time ↔ time = since + delay := by omega
        by_cases answered : time = since + delay
        · rw [if_pos (due.2 answered), if_pos answered]
        · have early : ¬ since + watch.timeout ≤ time := by omega
          simp only [due, answered, early, if_false]
      · simp only [settle, inTime, if_false] at notLater ⊢
        have unanswered : ¬ since + delay ≤ time := by omega
        have due : since + watch.timeout ≤ time ↔ time = since + watch.timeout := by omega
        rw [if_neg unanswered]
        exact if_congr due rfl rfl

theorem hasFired_mono {later : Nat} (fired : watch.hasFired time = true)
    (notLater : time ≤ later) : watch.hasFired later = true := by
  obtain ⟨when, scheduled, before⟩ := hasFired_iff.1 fired
  exact hasFired_iff.2 ⟨when, scheduled, Nat.le_trans before notLater⟩

/-- A call that has been made and is looked at no later than it ends comes to its outcome at
its end, and not before. -/
theorem poll_eq (made : watch.hasFired since = false)
    (notLater : time ≤ (watch.fetch transport request since).time) :
    watch.poll since time (transport request) =
      if time = (watch.fetch transport request since).time then
        some (watch.fetch transport request since).value
      else none := by
  rw [fetch_of_not_hasFired made] at notLater ⊢
  by_cases cancelled : watch.hasFired (watch.settle since (transport request)).2 = true
  · -- The cancellation comes while the call is under way.
    obtain ⟨fired, scheduled, before⟩ := hasFired_iff.1 cancelled
    simp only [cancelled, if_true, Option.mem_def.1 scheduled, Option.getD_some] at notLater ⊢
    by_cases due : time = fired
    · have now : watch.hasFired time = true :=
        hasFired_iff.2 ⟨fired, scheduled, Nat.le_of_eq due.symm⟩
      rw [poll_of_hasFired now, if_pos due]
    · have waiting : watch.hasFired time = false := by
        simp only [hasFired, Option.mem_def.1 scheduled, Option.any_some, decide_eq_false_iff_not]
        omega
      have early : time < (watch.settle since (transport request)).2 := by omega
      rw [poll_of_not_hasFired waiting (Nat.le_of_lt early), if_neg (Nat.ne_of_lt early),
        if_neg due]
  · simp only [cancelled] at notLater ⊢
    have waiting : watch.hasFired time = false :=
      Bool.eq_false_iff.2 fun fired => cancelled (hasFired_mono fired notLater)
    exact poll_of_not_hasFired waiting notLater

end Watch

/-! ## Tasks -/

/-- Where a dialogue stands while other things go on. -/
inductive Task where
  | active (dialogue : Dialogue)
  | waiting (since : Nat) (request : Request) (next : Except FetchError Bytes → Dialogue)
  | finished (status : RevocationStatus) (time : Nat)

namespace Task

/-- Go on with a task at a time: the task that it becomes, and the request that is made.  A
task that has to wait or that has finished stays as it is. -/
def poll (transport : Transport) (watch : Watch) (time : Nat) : Task → Option (Task × List Request)
  | active (.ended status) => some (finished status time, [])
  | active (.asks request next) =>
      if watch.hasFired time then some (active (next (.error .cancelled)), [])
      else some (waiting time request next, [request])
  | waiting since request next =>
      (watch.poll since time (transport request)).map fun outcome => (active (next outcome), [])
  | finished _ _ => none

def status? : Task → Option RevocationStatus
  | finished status _ => some status
  | _ => none

/-- What a task comes to when it is always gone on with in time. -/
def outcome (transport : Transport) (watch : Watch) (time : Nat) : Task → Timed RevocationStatus
  | active dialogue => dialogue.run transport watch time
  | waiting since request next =>
      let fetched := watch.fetch transport request since
      (next fetched.value).run transport watch fetched.time
  | finished status ended => ⟨status, [], ended⟩

/-- A task that waits has made its call, and has not been left alone when it could have been
gone on with. -/
def IsOnTime (transport : Transport) (watch : Watch) (time : Nat) : Task → Prop
  | waiting since request _ =>
      watch.hasFired since = false ∧ time ≤ (watch.fetch transport request since).time
  | _ => True

/-- The number of times that a task still has to be gone on with. -/
def steps (transport : Transport) (watch : Watch) (time : Nat) : Task → Nat
  | active dialogue => dialogue.steps transport watch time
  | waiting since request next =>
      let fetched := watch.fetch transport request since
      (next fetched.value).steps transport watch fetched.time + 1
  | finished _ _ => 0

variable {transport : Transport} {watch : Watch} {time : Nat} {task next : Task}
  {issued : List Request}

/-- What a task comes to behind some requests that it has made already. -/
def outcomeAfter (transport : Transport) (watch : Watch) (time : Nat) (made : List Request)
    (task : Task) : Timed RevocationStatus :=
  let rest := task.outcome transport watch time
  { rest with requests := made ++ rest.requests }

theorem poll_cases (polled : task.poll transport watch time = some (next, issued)) :
    (∃ status, task = active (.ended status) ∧ next = finished status time ∧ issued = []) ∨
    (∃ request continuation, task = active (.asks request continuation) ∧
      watch.hasFired time = true ∧ next = active (continuation (.error .cancelled)) ∧
      issued = []) ∨
    (∃ request continuation, task = active (.asks request continuation) ∧
      watch.hasFired time = false ∧ next = waiting time request continuation ∧
      issued = [request]) ∨
    ∃ since request continuation outcome, task = waiting since request continuation ∧
      watch.poll since time (transport request) = some outcome ∧
      next = active (continuation outcome) ∧ issued = [] := by
  cases task with
  | finished status ended => cases polled
  | waiting since request continuation =>
      simp only [poll, Option.map_eq_some_iff] at polled
      obtain ⟨outcome, arrived, given⟩ := polled
      obtain ⟨rfl, rfl⟩ := Prod.mk.inj given
      exact Or.inr (Or.inr (Or.inr
        ⟨since, request, continuation, outcome, rfl, arrived, rfl, rfl⟩))
  | active dialogue =>
      cases dialogue with
      | ended status =>
          obtain ⟨rfl, rfl⟩ := Prod.mk.inj (Option.some.inj polled)
          exact Or.inl ⟨status, rfl, rfl, rfl⟩
      | asks request continuation =>
          simp only [poll] at polled
          split at polled
          · rename_i fired
            obtain ⟨rfl, rfl⟩ := Prod.mk.inj (Option.some.inj polled)
            exact Or.inr (Or.inl ⟨request, continuation, rfl, fired, rfl, rfl⟩)
          · rename_i waiting
            obtain ⟨rfl, rfl⟩ := Prod.mk.inj (Option.some.inj polled)
            exact Or.inr (Or.inr (Or.inl
              ⟨request, continuation, rfl, Bool.eq_false_iff.2 waiting, rfl, rfl⟩))

/-- Going on with a task that is on time makes the next request of its dialogue, if any, and
leaves what the task comes to as it is. -/
theorem outcome_of_poll (onTime : task.IsOnTime transport watch time)
    (polled : task.poll transport watch time = some (next, issued)) :
    next.IsOnTime transport watch time ∧
      next.outcomeAfter transport watch time issued = task.outcome transport watch time ∧
      next.steps transport watch time < task.steps transport watch time := by
  obtain ⟨status, rfl, rfl, rfl⟩ | ⟨request, continuation, rfl, fired, rfl, rfl⟩ |
    ⟨request, continuation, rfl, made, rfl, rfl⟩ |
    ⟨since, request, continuation, outcome, rfl, arrived, rfl, rfl⟩ := poll_cases polled
  · exact ⟨trivial, rfl, Nat.zero_lt_one⟩
  · refine ⟨trivial, ?_, ?_⟩
    · simp [outcomeAfter, outcome, Dialogue.run_asks, Watch.fetch_of_hasFired fired]
    · simp [steps, Dialogue.steps, Watch.fetch_of_hasFired fired]
  · refine ⟨⟨made, Watch.le_time_fetch⟩, ?_, Nat.lt_succ_self _⟩
    simp [outcomeAfter, Task.outcome, Dialogue.run_asks, Watch.requests_fetch, made]
  · obtain ⟨made, notLater⟩ := onTime
    rw [Watch.poll_eq made notLater] at arrived
    split at arrived
    · rename_i due
      obtain rfl := Option.some.inj arrived
      subst due
      exact ⟨trivial, rfl, Nat.lt_succ_self _⟩
    · cases arrived

theorem outcomeAfter_append
    (kept : next.outcomeAfter transport watch time issued = task.outcome transport watch time)
    (made : List Request) :
    next.outcomeAfter transport watch time (made ++ issued) =
      task.outcomeAfter transport watch time made := by
  unfold outcomeAfter at kept ⊢
  rw [← kept]
  simp

/-- A task that cannot be gone on with now has finished or waits for a call that ends
later. -/
theorem stands_of_idle (onTime : task.IsOnTime transport watch time)
    (idle : task.poll transport watch time = none) :
    (∃ status ended, task = finished status ended) ∨
      ∃ since request continuation, task = waiting since request continuation ∧
        watch.hasFired since = false ∧ time < (watch.fetch transport request since).time := by
  cases task with
  | finished status ended => exact Or.inl ⟨status, ended, rfl⟩
  | waiting since request continuation =>
      obtain ⟨made, notLater⟩ := onTime
      simp only [poll, Watch.poll_eq made notLater, Option.map_eq_none_iff] at idle
      have early : time ≠ (watch.fetch transport request since).time := by
        intro due
        simp [← due] at idle
      exact Or.inr ⟨since, request, continuation, rfl, made, Nat.lt_of_le_of_ne notLater early⟩
  | active dialogue =>
      cases dialogue with
      | ended status => simp [poll] at idle
      | asks request continuation =>
          simp only [poll] at idle
          split at idle
          · cases idle
          · cases idle

theorem lt_time_of_idle (onTime : task.IsOnTime transport watch time)
    (idle : task.poll transport watch time = none) (unfinished : task.status? = none) :
    time < (task.outcome transport watch time).time := by
  obtain ⟨status, ended, rfl⟩ | ⟨since, request, continuation, rfl, -, early⟩ :=
    stands_of_idle onTime idle
  · cases unfinished
  · exact Nat.lt_of_lt_of_le early (Dialogue.le_time_run _ _)

/-- A task that cannot be gone on with now can wait until the next moment. -/
theorem isOnTime_succ (onTime : task.IsOnTime transport watch time)
    (idle : task.poll transport watch time = none) :
    task.IsOnTime transport watch (time + 1) ∧
      task.outcome transport watch (time + 1) = task.outcome transport watch time ∧
      task.steps transport watch (time + 1) = task.steps transport watch time := by
  obtain ⟨status, ended, rfl⟩ | ⟨since, request, continuation, rfl, made, early⟩ :=
    stands_of_idle onTime idle
  · exact ⟨trivial, rfl, rfl⟩
  · exact ⟨⟨made, early⟩, rfl, rfl⟩

end Task

end CertScope
