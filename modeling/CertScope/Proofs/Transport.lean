import CertScope.Transport

/-!
# Calls under a watch

A call brings bytes exactly when the server delivers them within the deadline
and before the cancellation fires.  A watch with a shorter deadline or an
earlier cancellation makes no call end otherwise: the call ends as it would have
ended, or by the deadline or the cancellation of that watch.
-/

namespace CertScope.Watch

variable {watch tighter looser : Watch} {transport : Transport} {request : Request}
  {start : Nat}

theorem hasFired_iff : watch.hasFired start = true ↔ ∃ fired ∈ watch.cancelAt, fired ≤ start := by
  simp [hasFired, Option.any_eq_true]

theorem hasFired_eq_false_iff :
    watch.hasFired start = false ↔ ∀ fired ∈ watch.cancelAt, start < fired := by
  rw [← Bool.not_eq_true, hasFired_iff]
  simp

theorem fetch_of_hasFired (fired : watch.hasFired start = true) :
    watch.fetch transport request start = ⟨.error .cancelled, [], start⟩ := by
  simp [fetch, fired]

theorem requests_fetch :
    (watch.fetch transport request start).requests =
      if watch.hasFired start then [] else [request] := by
  unfold fetch
  split
  · rfl
  · cases watch.cancelAt with
    | none => rfl
    | some fired => dsimp only; split <;> rfl

/-- The outcome of a call before the cancellation, with the time at which it is
there: the server's own unless the cancellation comes no later. -/
theorem fetch_of_not_hasFired (waiting : watch.hasFired start = false) :
    watch.fetch transport request start =
      if watch.hasFired (watch.settle start (transport request)).2 then
        ⟨.error .cancelled, [request], watch.cancelAt.getD 0⟩
      else
        ⟨(watch.settle start (transport request)).1, [request],
          (watch.settle start (transport request)).2⟩ := by
  unfold fetch
  rw [waiting]
  cases scheduled : watch.cancelAt with
  | none => simp [hasFired, scheduled]
  | some fired => simp [hasFired, scheduled]

theorem le_time_settle (answer : Answer) : start ≤ (watch.settle start answer).2 := by
  cases answer with
  | never => exact Nat.le_add_right _ _
  | after delay outcome =>
      by_cases inTime : delay ≤ watch.timeout
      · simp [settle, inTime]
      · simp [settle, inTime]

theorem le_time_fetch : start ≤ (watch.fetch transport request start).time := by
  by_cases made : watch.hasFired start = false
  · rw [fetch_of_not_hasFired made]
    split
    · rename_i cancelled
      obtain ⟨fired, scheduled, -⟩ := hasFired_iff.1 cancelled
      have later := hasFired_eq_false_iff.1 made fired scheduled
      rw [Option.mem_def.1 scheduled]
      exact Nat.le_of_lt later
    · exact le_time_settle _
  · have stopped : watch.hasFired start = true := by simpa using made
    simp only [fetch_of_hasFired stopped, Nat.le_refl]

/-- The server delivers bytes in time, and nothing has been cancelled by then. -/
def Delivers (watch : Watch) (transport : Transport) (request : Request) (start : Nat)
    (body : Bytes) : Prop :=
  ∃ delay, transport request = .after delay (.ok body) ∧ delay ≤ watch.timeout ∧
    ∀ fired ∈ watch.cancelAt, start + delay < fired

theorem fetch_eq_ok_iff {body : Bytes} :
    (watch.fetch transport request start).value = .ok body ↔
      watch.Delivers transport request start body := by
  constructor
  · intro delivered
    by_cases waiting : watch.hasFired start = false
    · rw [fetch_of_not_hasFired waiting] at delivered
      split at delivered
      · simp at delivered
      · rename_i undisturbed
        have undisturbed := Bool.eq_false_iff.2 undisturbed
        cases answered : transport request with
        | never => simp [settle, answered] at delivered
        | after delay outcome =>
            by_cases inTime : delay ≤ watch.timeout
            · simp only [settle, answered, inTime, if_true] at delivered undisturbed
              exact ⟨delay, delivered ▸ answered, inTime, hasFired_eq_false_iff.1 undisturbed⟩
            · simp [settle, answered, inTime] at delivered
    · rw [fetch_of_hasFired (by simpa using waiting)] at delivered
      simp at delivered
  · rintro ⟨delay, answered, inTime, undisturbed⟩
    have waiting : watch.hasFired start = false := by
      rw [hasFired_eq_false_iff]
      intro fired scheduled
      have later := undisturbed fired scheduled
      omega
    rw [fetch_of_not_hasFired waiting]
    simp [settle, answered, inTime, hasFired_eq_false_iff.2 undisturbed]

theorem Delivers.requests_fetch {body : Bytes}
    (delivers : watch.Delivers transport request start body) :
    (watch.fetch transport request start).requests = [request] := by
  have waiting : watch.hasFired start ≠ true := by
    intro fired
    have delivered := fetch_eq_ok_iff.2 delivers
    simp [fetch_of_hasFired fired] at delivered
  rw [Watch.requests_fetch, if_neg waiting]

/-- One watch interrupts every call no later than another. -/
structure Within (tighter looser : Watch) : Prop where
  timeout_le : tighter.timeout ≤ looser.timeout
  cancelAt_le : ∀ fired ∈ looser.cancelAt, ∃ earlier ∈ tighter.cancelAt, earlier ≤ fired

theorem Within.hasFired (within : tighter.Within looser) {time : Nat}
    (fired : looser.hasFired time = true) : tighter.hasFired time = true := by
  obtain ⟨latest, scheduled, before⟩ := hasFired_iff.1 fired
  obtain ⟨earlier, alsoScheduled, notLater⟩ := within.cancelAt_le latest scheduled
  exact hasFired_iff.2 ⟨earlier, alsoScheduled, Nat.le_trans notLater before⟩

/-- A watch ended a call by its own deadline or by its cancellation. -/
def Interrupted (watch : Watch) (cause : FetchError) : Prop :=
  cause = .timeout watch.timeout ∨ cause = .cancelled

/-- The step of a comparison of two runs: a call under the tighter watch ends as
under the looser one, or it is interrupted and no request is made that the looser
watch would not let through. -/
theorem Within.fetch (within : tighter.Within looser) (transport : Transport)
    (request : Request) (start : Nat) :
    tighter.fetch transport request start = looser.fetch transport request start ∨
      (∃ cause, (tighter.fetch transport request start).value = .error cause ∧
        tighter.Interrupted cause) ∧
      (tighter.fetch transport request start).requests <+:
        (looser.fetch transport request start).requests := by
  have sameOrFewer : (tighter.fetch transport request start).requests <+:
      (looser.fetch transport request start).requests := by
    rw [requests_fetch, requests_fetch]
    by_cases fired : tighter.hasFired start = true
    · simp [fired]
    · have waiting : looser.hasFired start ≠ true := fun late => fired (within.hasFired late)
      simp [fired, waiting]
  by_cases fired : tighter.hasFired start = true
  · right
    exact ⟨⟨.cancelled, by rw [fetch_of_hasFired fired], Or.inr rfl⟩, sameOrFewer⟩
  have waiting : tighter.hasFired start = false := Bool.eq_false_iff.2 fired
  have alsoWaiting : looser.hasFired start = false :=
    Bool.eq_false_iff.2 fun late => fired (within.hasFired late)
  by_cases cancelled : tighter.hasFired (tighter.settle start (transport request)).2 = true
  · right
    refine ⟨⟨.cancelled, ?_, Or.inr rfl⟩, sameOrFewer⟩
    simp [fetch_of_not_hasFired waiting, cancelled]
  -- What is left is the deadline: the answer comes within the shorter one or not.
  cases answered : transport request with
  | never =>
      right
      rw [answered] at cancelled
      refine ⟨⟨.timeout tighter.timeout, ?_, Or.inl rfl⟩, sameOrFewer⟩
      simp only [fetch_of_not_hasFired waiting, answered, cancelled]
      simp [settle]
  | after delay outcome =>
      rw [answered] at cancelled
      by_cases inTime : delay ≤ tighter.timeout
      · left
        have alsoInTime : delay ≤ looser.timeout := Nat.le_trans inTime within.timeout_le
        simp only [settle, inTime, if_true] at cancelled
        have undisturbed : looser.hasFired (start + delay) ≠ true :=
          fun late => cancelled (within.hasFired late)
        simp [fetch_of_not_hasFired waiting, fetch_of_not_hasFired alsoWaiting, settle, answered,
          inTime, alsoInTime, cancelled, undisturbed]
      · right
        refine ⟨⟨.timeout tighter.timeout, ?_, Or.inl rfl⟩, sameOrFewer⟩
        simp only [fetch_of_not_hasFired waiting, answered, cancelled]
        simp [settle, inTime]

end CertScope.Watch
