import CertScope.Inspection.Warning
import CertScope.Proofs.Crl.Check
import CertScope.Proofs.Outcome

/-!
# What a warning says of a check

A check that is warned of has failed, for the reason and at the time that the warning
gives.  A walk that fails without a warning has come upon a point that is no URL.
-/

namespace CertScope

namespace Crl

variable {serial : Bytes} {now : Instant} {transport : Transport} {watch : Watch}
  {start time : Nat} {points : List String} {error : Error} {reason : String}

theorem walk_of_walkError?_eq_none (asked : Bool)
    (silent : walkError? serial now transport watch start points = none)
    (failed : (walk serial now transport watch asked start points).value = .checkFailed reason) :
    ∃ point ∈ points, ∃ cause, Url.parse point = .error cause ∧
      reason = (Error.badUrl cause).message := by
  induction points generalizing asked start with
  | nil => cases asked <;> cases failed
  | cons point points ih =>
      rw [walkError?] at silent
      rw [walk] at failed
      cases parsed : Url.parse point with
      | error cause =>
          rw [parsed] at failed
          obtain rfl := RevocationStatus.checkFailed.inj failed
          exact ⟨point, List.mem_cons_self, cause, parsed, rfl⟩
      | ok url =>
          rw [parsed] at silent failed
          dsimp only at silent failed
          have later (asked : Bool) (start : Nat)
              (silent : walkError? serial now transport watch start points = none)
              (failed : (walk serial now transport watch asked start points).value =
                .checkFailed reason) :
              ∃ point' ∈ point :: points, ∃ cause, Url.parse point' = .error cause ∧
                reason = (Error.badUrl cause).message := by
            obtain ⟨other, member, found⟩ := ih asked silent failed
            exact ⟨other, List.mem_cons_of_mem _ member, found⟩
          split at silent
          · rename_i supported
            rw [if_pos supported] at failed
            cases answered : (query serial now transport watch url start).value with
            | error cause =>
                rw [answered] at silent
                cases silent
            | ok listed =>
                rw [answered] at silent failed
                cases listed with
                | true => cases failed
                | false => exact later true _ silent failed
          · rename_i unsupported
            rw [if_neg unsupported] at failed
            exact later asked _ silent failed

end Crl

namespace Ocsp

variable {leaf : Certificate} {intermediates : List Bytes} {authority : Option Bytes}
  {now : Instant} {transport : Transport} {watch : Watch} {time : Nat} {error : Error}

end Ocsp

namespace CertificateChain

variable {chain : CertificateChain} {settings : Settings} {transport : Transport} {now : Instant}
  {cancelAt : Option Nat} {time : Nat}

end CertificateChain

end CertScope
