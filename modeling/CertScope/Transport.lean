import CertScope.Bytes

/-!
# Requests under a deadline

The revocation checks ask servers for bytes. Here a transport says what each
server would answer and how long that takes, and time is a count of
milliseconds since a check began. Every call is watched: a fired cancellation
comes before anything else, an answer that is in time before the deadline.
-/

namespace CertScope

/-- Why a request brought no bytes. -/
inductive FetchError where
  | cancelled
  | client (detail : String)
  | timeout (millis : Nat)
  | unsupportedScheme (scheme : String)
  | http (url : String) (status : Nat)
  | unreachable (url detail : String)
  | body (detail : String)
  | tooLarge (limit : Nat)
  deriving DecidableEq, Repr

namespace FetchError

/-- The error in words; a deadline is told in whole seconds. -/
def message : FetchError → String
  | cancelled => "cancelled"
  | client detail => "failed to build HTTP client: " ++ detail
  | timeout millis => s!"timed out after {millis / 1000}s"
  | unsupportedScheme scheme => scheme ++ " CRL retrieval is not available"
  | http url status => s!"HTTP {status} from {url}"
  | unreachable url detail => url ++ " is unreachable: " ++ detail
  | body detail => "failed to read response body: " ++ detail
  | tooLarge limit => s!"response larger than {limit} bytes"

def isCancelled : FetchError → Bool
  | cancelled => true
  | _ => false

end FetchError

inductive Answer where
  | after (delay : Nat) (outcome : Except FetchError Bytes)
  | never

def Answer.later (delay : Nat) : Answer → Answer
  | after more outcome => after (delay + more) outcome
  | never => never

inductive Request where
  | crl (url : String)
  | ocsp (url : String) (body : Bytes)
  deriving DecidableEq, Repr

/-- What would come of every request. -/
abbrev Transport := Request → Answer

/-- How a check is watched. -/
structure Watch where
  /-- The most milliseconds that one call may take. -/
  timeout : Nat
  cancelAt : Option Nat
  deriving DecidableEq, Repr

namespace Watch

def hasFired (watch : Watch) (time : Nat) : Bool := watch.cancelAt.any (· ≤ time)

/-- The outcome of a call that no cancellation disturbs, with the time at which
it is there. -/
def settle (watch : Watch) (start : Nat) : Answer → Except FetchError Bytes × Nat
  | .after delay outcome =>
      if delay ≤ watch.timeout then (outcome, start + delay)
      else (.error (.timeout watch.timeout), start + watch.timeout)
  | .never => (.error (.timeout watch.timeout), start + watch.timeout)

end Watch

/-- A step of a check: what it gives, the requests it made in order, and the
time at which it was over. -/
structure Timed (value : Type) where
  value : value
  requests : List Request
  time : Nat
  deriving DecidableEq, Repr

/-- Make a request at a time. A cancellation that has fired keeps it from being
made. -/
def Watch.fetch (watch : Watch) (transport : Transport) (request : Request) (start : Nat) :
    Timed (Except FetchError Bytes) :=
  if watch.hasFired start then ⟨.error .cancelled, [], start⟩
  else
    let (outcome, time) := watch.settle start (transport request)
    match watch.cancelAt with
    | some fired =>
        if fired ≤ time then ⟨.error .cancelled, [request], fired⟩
        else ⟨outcome, [request], time⟩
    | none => ⟨outcome, [request], time⟩

end CertScope
