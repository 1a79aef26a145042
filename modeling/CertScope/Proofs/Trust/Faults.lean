import CertScope.Trust.PathCertificate
import CertScope.Proofs.Outcome
import Mathlib.Data.Prod.Basic

/-!
# What certificates are refused for

Only a budget that is spent ends the search for a path.  Readers spend nothing: whatever
a certificate is refused for is a reason that the search ranks and passes over.  The
property of readers is closed under composition, so that each reader has it because
its parts have it.
-/

namespace CertScope.PathReader

variable {first second value : Type} {fault : PathError} {reader : PathReader value}

/-- Every failure is one that the search passes over. -/
def IsMild (reader : PathReader value) : Prop :=
  ∀ ⦃bytes error⦄, reader bytes = .error error → error.isFatal = false

/-! ## Composition -/

theorem isMild_pure (given : value) : IsMild (pure given : PathReader value) := by
  intro bytes error failed
  cases failed

theorem isMild_throw (mild : fault.isFatal = false) :
    IsMild (throw fault : PathReader value) := by
  intro bytes error failed
  obtain rfl := Except.error.inj failed
  exact mild

theorem IsMild.bind {reader : PathReader first} {next : first → PathReader second}
    (mild : IsMild reader) (nextMild : ∀ result, IsMild (next result)) :
    IsMild (reader >>= next) := by
  intro bytes error failed
  change (reader bytes >>= fun read => next read.1 read.2) = .error error at failed
  obtain read | ⟨step, -, failed⟩ := Outcome.bind_eq_error.mp failed
  · exact mild read
  · exact nextMild step.1 failed

/-- A verdict that does not depend on the bytes. -/
theorem isMild_liftM {verdict : Except PathError value}
    (mild : ∀ error, verdict = .error error → error.isFatal = false) :
    IsMild (liftM verdict : PathReader value) := by
  intro bytes error failed
  obtain given | ⟨result, -, failed⟩ := Outcome.bind_eq_error.mp failed
  · exact mild error given
  · cases failed

/-- A condition that refuses, and what follows if it does not hold. -/
theorem IsMild.guarded {condition : Prop} [Decidable condition] (faultMild : fault.isFatal = false)
    (mild : IsMild reader) :
    IsMild (if condition then (throw fault : PathReader PUnit) >>= fun _ => reader
      else reader) := by
  split
  · exact (isMild_throw faultMild).bind fun _ => mild
  · exact mild

theorem isMild_whole {trailing error : PathError} {bytes : Bytes}
    (trailingMild : trailing.isFatal = false) (mild : IsMild reader)
    (failed : whole trailing reader bytes = .error error) : error.isFatal = false := by
  unfold whole at failed
  obtain read | ⟨⟨result, rest⟩, -, left⟩ := Outcome.bind_eq_error.mp failed
  · exact mild read
  · change (if rest.isEmpty then pure result else throw trailing) = Except.error error at left
    split at left
    · cases left
    · obtain rfl := Except.error.inj left
      exact trailingMild

/-! ## Values -/

theorem isMild_peek (tag : UInt8) : IsMild (peek tag) := by
  intro bytes error failed
  cases failed

theorem isMild_atEnd : IsMild atEnd := by
  intro bytes error failed
  cases failed

theorem isMild_remainder : IsMild remainder := by
  intro bytes error failed
  cases failed

theorem isMild_byte (mild : fault.isFatal = false) : IsMild (byte fault) := by
  intro bytes error failed
  cases bytes with
  | nil =>
      obtain rfl := Except.error.inj failed
      exact mild
  | cons octet bytes => cases failed

theorem isMild_expect (tag : UInt8) : IsMild (expect tag) := by
  intro bytes error failed
  unfold expect at failed
  split at failed
  · cases failed
  · obtain rfl := Except.error.inj failed
    rfl

theorem IsMild.nested {tag : UInt8} (faultMild : fault.isFatal = false) (mild : IsMild reader) :
    IsMild (nested tag fault reader) := by
  intro bytes error failed
  unfold PathReader.nested at failed
  split at failed
  · obtain read | ⟨result, -, failed⟩ := Outcome.bind_eq_error.mp failed
    · exact isMild_whole faultMild mild read
    · cases failed
  · obtain rfl := Except.error.inj failed
    exact faultMild

theorem isMild_bits : IsMild bits :=
  .nested rfl ((isMild_byte rfl).bind fun _ => .guarded rfl isMild_remainder)

theorem isMild_boolean : IsMild boolean := by
  refine (isMild_peek _).bind fun present => ?_
  split
  · refine .nested rfl ((isMild_byte rfl).bind fun octet => ?_)
    split
    · exact isMild_pure true
    · split
      · exact isMild_pure false
      · exact isMild_throw rfl
  · exact isMild_pure false

theorem isMild_small : IsMild small := by
  refine (isMild_expect _).bind fun contents => ?_
  split
  · exact isMild_pure _
  · exact isMild_throw rfl

end CertScope.PathReader

namespace CertScope.PathCertificate

open PathReader

/-! ## Certificates -/

theorem isMild_readSigned : IsMild readSigned := by
  intro bytes error failed
  unfold readSigned at failed
  obtain readBody | ⟨⟨body, rest⟩, -, failed⟩ := Outcome.bind_eq_error.mp failed
  · exact isMild_expect _ readBody
  -- What is left of the bytes is read as it would be from its start.
  · have mild : IsMild do
        let algorithm ← sequence
        let signature ← PathReader.bits
        return (body, (⟨bytes.take (bytes.length - rest.length), algorithm, signature⟩ :
          SignedData)) :=
      (isMild_expect _).bind fun algorithm => isMild_bits.bind fun signature => isMild_pure _
    exact mild failed

/-- A value that is remembered is refused mildly. -/
theorem isMild_once {old : Option Bytes} {reader : PathReader Bytes} {value : Bytes}
    {error : PathError} (mild : IsMild reader) (failed : once old reader value = .error error) :
    error.isFatal = false := by
  cases old with
  | some contents =>
      obtain rfl := Except.error.inj failed
      rfl
  | none =>
      cases read : whole .malformed reader value with
      | error why =>
          simp only [once, read] at failed
          obtain rfl := Except.error.inj failed
          exact isMild_whole rfl mild read
      | ok contents =>
          simp only [once, read] at failed
          cases failed

/-- An extension with a slot is refused for its slot, whatever the slot is. -/
theorem isMild_slot {old : Option Bytes} {reader : PathReader Bytes} {value : Bytes}
    {note : Option Bytes → PathExtensions} {error : PathError} (mild : IsMild reader)
    (failed : (once old reader value >>= fun contents => pure (note contents)) = .error error) :
    error.isFatal = false := by
  obtain taken | ⟨contents, -, failed⟩ := Outcome.bind_eq_error.mp failed
  · exact isMild_once mild taken
  · cases failed

theorem isMild_remember {known : PathExtensions} {id value : Bytes} {critical : Bool}
    {error : PathError} (failed : remember known id critical value = .error error) :
    error.isFatal = false := by
  unfold remember at failed
  split at failed
  case h_1 => exact isMild_slot isMild_remainder failed
  case h_7 =>
      split at failed
      · obtain rfl := Except.error.inj failed
        rfl
      · cases failed
  all_goals exact isMild_slot (isMild_expect _) failed

theorem isMild_readExtension (known : PathExtensions) : IsMild (readExtension known) :=
  .nested rfl <| (isMild_expect _).bind fun _ => isMild_boolean.bind fun _ =>
    (isMild_expect _).bind fun _ => isMild_liftM fun _ => isMild_remember

theorem isMild_readExtensions (known : PathExtensions) (steps : Nat) :
    IsMild (readExtensions known steps) := by
  induction steps generalizing known with
  | zero => exact isMild_throw rfl
  | succ steps ih =>
      refine (isMild_readExtension known).bind fun noted => isMild_atEnd.bind fun ended => ?_
      split
      · exact isMild_pure noted
      · exact ih noted

theorem isMild_readOptionalExtensions : IsMild readOptionalExtensions := by
  refine isMild_atEnd.bind fun ended => ?_
  split
  · exact isMild_pure _
  · exact .nested rfl <| .nested rfl fun bytes _ failed =>
      isMild_readExtensions {} bytes.length failed

theorem isMild_readVersion : IsMild readVersion :=
  .nested rfl (isMild_small.bind fun _ => .guarded rfl (isMild_pure _))

theorem isMild_readBody (signed : SignedData) : IsMild (readBody signed) := by
  refine isMild_readVersion.bind fun _ => (isMild_expect _).bind fun _ =>
    (isMild_expect _).bind fun algorithm => .guarded rfl ?_
  exact (isMild_expect _).bind fun _ => (isMild_expect _).bind fun _ =>
    (isMild_expect _).bind fun _ => (isMild_expect _).bind fun _ =>
      isMild_readOptionalExtensions.bind fun _ => isMild_pure _

/-- Whatever a certificate is refused for leaves the search going. -/
theorem isFatal_of_ofBytes {bytes : Bytes} {error : PathError}
    (refused : ofBytes bytes = .error error) : error.isFatal = false := by
  unfold ofBytes at refused
  obtain read | ⟨step, -, refused⟩ := Outcome.bind_eq_error.mp refused
  · exact isMild_whole rfl (.nested rfl isMild_readSigned) read
  · exact isMild_whole rfl (isMild_readBody step.2) refused

end CertScope.PathCertificate
