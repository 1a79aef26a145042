import CertScope.X509.Fault
import Mathlib.Logic.Basic

/-!
# Outcomes that are results

Readers and checks are compositions of steps, each of which gives a result or a
cause.  A composition gives a result exactly when every step gives one.  The
lemmas here take a composition apart from its last result to its first, so that
no proof about a reader has to look at the causes.
-/

namespace CertScope.Outcome

variable {cause other first second value : Type}

/-- A composition goes on with the result of its first step. -/
theorem ok_bind (given : first) (next : first → Except cause second) :
    Except.ok given >>= next = next given := rfl

@[simp]
theorem bind_eq_ok {outcome : Except cause first} {next : first → Except cause second}
    {result : second} :
    outcome >>= next = .ok result ↔
      ∃ value, outcome = .ok value ∧ next value = .ok result := by
  cases outcome with
  | error => simp [bind, Except.bind]
  | ok value => simp [bind, Except.bind]

/-- A composition is refused by its first step, or by what follows its result. -/
theorem bind_eq_error {outcome : Except cause first} {next : first → Except cause second}
    {error : cause} :
    outcome >>= next = .error error ↔
      outcome = .error error ∨ ∃ value, outcome = .ok value ∧ next value = .error error := by
  cases outcome with
  | error => simp [bind, Except.bind]
  | ok value => simp [bind, Except.bind]

@[simp]
theorem pure_eq_ok {given result : value} :
    (pure given : Except cause value) = .ok result ↔ given = result := by
  simp [pure, Except.pure]

@[simp]
theorem map_eq_ok {function : first → second} {outcome : Except cause first}
    {result : second} :
    function <$> outcome = .ok result ↔
      ∃ value, outcome = .ok value ∧ function value = result := by
  cases outcome <;> simp [Functor.map, Except.map]

@[simp]
theorem throw_eq_ok {error : cause} {result : value} :
    (throw error : Except cause value) = .ok result ↔ False := by
  simp [throw, throwThe, MonadExceptOf.throw]

@[simp]
theorem mapError_eq_ok {restate : cause → other} {outcome : Except cause value}
    {result : value} :
    outcome.mapError restate = .ok result ↔ outcome = .ok result := by
  cases outcome with
  | error why =>
      change Except.error (restate why) = Except.ok result ↔ _
      simp
  | ok given =>
      change Except.ok given = Except.ok result ↔ _
      simp

/-- A result survives as an option, and nothing else does. -/
theorem toOption_eq_some {outcome : Except cause value} {result : value} :
    outcome.toOption = some result ↔ outcome = .ok result := by
  cases outcome <;> simp [Except.toOption]

/-- A result that passes a test can be named. -/
theorem exists_of_any_toOption {outcome : Except cause value} (test : value → Bool)
    (passes : outcome.toOption.any test = true) :
    ∃ result, outcome = .ok result ∧ test result = true := by
  cases outcome with
  | error => cases passes
  | ok result => exact ⟨result, rfl, passes⟩

end CertScope.Outcome

namespace CertScope.Asn1

variable {value : Type}

@[simp]
theorem refuse_eq_ok {verdict : Except Error value} {result : value} :
    refuse verdict = .ok result ↔ verdict = .ok result :=
  Outcome.mapError_eq_ok

end CertScope.Asn1

namespace CertScope.X509

open Asn1

variable {cause value : Type}

@[simp]
theorem lift_eq_ok {outcome : Except (Failure Asn1.Error) value} {result : value} :
    lift outcome = .ok result ↔ outcome = .ok result :=
  Outcome.mapError_eq_ok

@[simp]
theorem orElse_eq_ok {fault : Fault} {outcome : Except (Failure cause) value}
    {result : value} :
    orElse fault outcome = .ok result ↔ outcome = .ok result :=
  Outcome.mapError_eq_ok

end CertScope.X509
