import CertScope.Crl.Check
import CertScope.Proofs.Bytes
import CertScope.Proofs.Transport

/-!
# The point that decides

The walk over the distribution points stops at the first point that decides, and what
that point decides is the status of the leaf.  Whether a point decides depends on the
time at which its turn comes, and this in turn on how long the lists of the points
before it took.  A step of the walk either ends it at a point that decides or goes
on behind a point that does not; the outcome of the whole walk follows by induction
on the points.
-/

namespace CertScope.Crl

open X509

/-! ## What a point decides -/

/-- Where the list of a distribution point is fetched from, if its scheme is one that
lists are fetched by. -/
def target? (point : String) : Option Url :=
  match Url.parse point with
  | .ok url => if schemes.contains url.scheme then some url else none
  | .error _ => none

theorem target?_eq_some {point : String} {url : Url} :
    target? point = some url ↔ Url.parse point = .ok url ∧ url.scheme ∈ schemes := by
  unfold target?
  cases Url.parse point with
  | error cause => simp
  | ok parsed =>
      by_cases supported : parsed.scheme ∈ schemes
      · simp only [List.contains_iff_mem, supported, if_true, Option.some.injEq, Except.ok.injEq]
        exact ⟨fun same => ⟨same, same ▸ supported⟩, fun found => found.1⟩
      · simp only [List.contains_iff_mem, supported, if_false, Except.ok.injEq, reduceCtorEq,
          false_iff, not_and]
        rintro rfl
        exact supported

def requestsOf (points : List String) : List Request :=
  points.filterMap fun point => (target? point).map fun url => .crl url.text

/-- The time at which the turn of the next point comes, when the first of some points is
reached at `start` and none of them decides. -/
def turn (transport : Transport) (watch : Watch) (start : Nat) : List String → Nat
  | [] => start
  | point :: points =>
      match target? point with
      | some url =>
          turn transport watch (watch.fetch transport (.crl url.text) start).time points
      | none => turn transport watch start points

/-- A distribution point that is reached at some time decides on a status: it is no URL,
its list cannot be had or cannot be read, or its list names the serial number with
a time that has come. -/
inductive Decides (serial : Bytes) (now : Instant) (transport : Transport) (watch : Watch)
    (time : Nat) (point : String) : RevocationStatus → Prop
  | badUrl {cause : UrlError} (malformed : Url.parse point = .error cause) :
      Decides serial now transport watch time point
        (.checkFailed (Error.badUrl cause).message)
  | notFetched {url : Url} {cause : FetchError} (target : target? point = some url)
      (failed : (watch.fetch transport (.crl url.text) time).value = .error cause) :
      Decides serial now transport watch time point
        (.checkFailed (Error.fetch cause).message)
  | unreadable {url : Url} {body : Bytes} {cause : Asn1.Failure Fault}
      (target : target? point = some url)
      (fetched : (watch.fetch transport (.crl url.text) time).value = .ok body)
      (refused : RevocationList.read (encoded body) = .error cause) :
      Decides serial now transport watch time point
        (.checkFailed (Error.unreadable url.text cause).message)
  | listed {url : Url} {body rest : Bytes} {list : RevocationList} {entry : RevokedEntry}
      (target : target? point = some url)
      (fetched : (watch.fetch transport (.crl url.text) time).value = .ok body)
      (read : RevocationList.read (encoded body) = .ok (list, rest))
      (member : entry ∈ list.entries)
      (named : Bytes.value entry.serial = Bytes.value serial)
      (begun : entry.since ≤ now.seconds) :
      Decides serial now transport watch time point (.revoked point)

variable {serial : Bytes} {now : Instant} {transport : Transport} {watch : Watch}
  {start : Nat} {asked : Bool} {point : String} {points : List String}
  {status : RevocationStatus}

theorem revokes_iff {list : RevocationList} :
    list.revokes serial now = true ↔
      ∃ entry ∈ list.entries, Bytes.value entry.serial = Bytes.value serial ∧
        entry.since ≤ now.seconds := by
  simp [RevocationList.revokes, Bytes.trimZeros_eq_iff]

/-! ## One step -/

/-- The walk ends at a point that decides.  The list of the point is asked for unless the
cancellation has fired before. -/
theorem walk_of_decides (decides : Decides serial now transport watch start point status) :
    (walk serial now transport watch asked start (point :: points)).value = status ∧
      (walk serial now transport watch asked start (point :: points)).requests =
        if watch.hasFired start then [] else requestsOf [point] := by
  cases decides with
  | badUrl malformed => simp [walk, malformed, requestsOf, target?]
  | notFetched target failed =>
      obtain ⟨parsed, supported⟩ := target?_eq_some.1 target
      simp [walk, parsed, supported, query, failed, Watch.requests_fetch, requestsOf, target]
  | unreadable target fetched refused =>
      obtain ⟨parsed, supported⟩ := target?_eq_some.1 target
      simp [walk, parsed, supported, query, fetched, isListed, refused, Watch.requests_fetch,
        requestsOf, target]
  | listed target fetched read member named begun =>
      obtain ⟨parsed, supported⟩ := target?_eq_some.1 target
      have revoked := revokes_iff.2 ⟨_, member, named, begun⟩
      simp [walk, parsed, supported, query, fetched, isListed, read, revoked,
        Watch.requests_fetch, requestsOf, target]

/-- The walk goes on behind a point that does not decide, after its list has been asked
for. -/
theorem walk_of_not_decides (asked : Bool) (points : List String)
    (passes : ∀ status, ¬ Decides serial now transport watch start point status) :
    (walk serial now transport watch asked start (point :: points)).value =
        (walk serial now transport watch (asked || (target? point).isSome)
          (turn transport watch start [point]) points).value ∧
      (walk serial now transport watch asked start (point :: points)).requests =
        requestsOf [point] ++
          (walk serial now transport watch (asked || (target? point).isSome)
            (turn transport watch start [point]) points).requests := by
  cases target : target? point with
  | none =>
      cases parsed : Url.parse point with
      | error cause => exact (passes _ (.badUrl parsed)).elim
      | ok url =>
          have unsupported : url.scheme ∉ schemes := by
            intro supported
            have found := target?_eq_some.2 ⟨parsed, supported⟩
            simp [target] at found
          simp [walk, parsed, unsupported, turn, target, requestsOf]
  | some url =>
      obtain ⟨parsed, supported⟩ := target?_eq_some.1 target
      cases fetched : (watch.fetch transport (.crl url.text) start).value with
      | error cause => exact (passes _ (.notFetched target fetched)).elim
      | ok body =>
          cases read : RevocationList.read (encoded body) with
          | error cause => exact (passes _ (.unreadable target fetched read)).elim
          | ok step =>
              obtain ⟨list, rest⟩ := step
              have unlisted : list.revokes serial now = false := by
                rw [Bool.eq_false_iff]
                intro revoked
                obtain ⟨entry, member, named, begun⟩ := revokes_iff.1 revoked
                exact passes _ (.listed target fetched read member named begun)
              have once := (Watch.fetch_eq_ok_iff.1 fetched).requests_fetch
              simp [walk, parsed, supported, query, fetched, isListed, read, unlisted, turn,
                target, requestsOf, once]

/-! ## The whole walk -/

/-- The point at a position decides on a status when its turn comes. -/
def DecidesAt (serial : Bytes) (now : Instant) (transport : Transport) (watch : Watch)
    (start : Nat) (points : List String) (position : Nat) (status : RevocationStatus) : Prop :=
  ∃ point, points[position]? = some point ∧
    Decides serial now transport watch (turn transport watch start (points.take position))
      point status

/-- The point at a position decides, and none before it does. -/
structure FirstDecides (serial : Bytes) (now : Instant) (transport : Transport) (watch : Watch)
    (start : Nat) (points : List String) (position : Nat) (status : RevocationStatus) :
    Prop where
  decides : DecidesAt serial now transport watch start points position status
  earlier : ∀ before < position, ∀ other,
    ¬ DecidesAt serial now transport watch start points before other

theorem decidesAt_zero :
    DecidesAt serial now transport watch start (point :: points) 0 status ↔
      Decides serial now transport watch start point status := by
  simp [DecidesAt, turn]

theorem turn_cons (point : String) (points : List String) :
    turn transport watch start (point :: points) =
      turn transport watch (turn transport watch start [point]) points := by
  cases target : target? point <;> simp [turn, target]

theorem decidesAt_succ {position : Nat} :
    DecidesAt serial now transport watch start (point :: points) (position + 1) status ↔
      DecidesAt serial now transport watch (turn transport watch start [point]) points position
        status := by
  simp only [DecidesAt, List.getElem?_cons_succ, List.take_succ_cons]
  rw [turn_cons]

theorem requestsOf_cons :
    requestsOf (point :: points) = requestsOf [point] ++ requestsOf points := by
  cases target : target? point <;> simp [requestsOf, target]

/-- The first point that decides makes the outcome of the walk. -/
theorem walk_of_firstDecides {position : Nat}
    (first : FirstDecides serial now transport watch start points position status) :
    (walk serial now transport watch asked start points).value = status ∧
      (walk serial now transport watch asked start points).requests =
        requestsOf (points.take
          (if watch.hasFired (turn transport watch start (points.take position)) then position
          else position + 1)) := by
  induction points generalizing start asked position with
  | nil =>
      obtain ⟨point, found, -⟩ := first.decides
      simp at found
  | cons point points ih =>
      cases position with
      | zero =>
          obtain ⟨decided, requested⟩ := walk_of_decides (decidesAt_zero.1 first.decides)
          refine ⟨decided, requested.trans ?_⟩
          by_cases fired : watch.hasFired start = true <;> simp [turn, fired, requestsOf]
      | succ position =>
          have passes (other : RevocationStatus) :
              ¬ Decides serial now transport watch start point other :=
            fun decides =>
              first.earlier 0 (Nat.succ_pos position) other (decidesAt_zero.2 decides)
          have rest : FirstDecides serial now transport watch (turn transport watch start [point])
              points position status :=
            ⟨decidesAt_succ.1 first.decides, fun before less other decides =>
              first.earlier (before + 1) (Nat.succ_lt_succ less) other
                (decidesAt_succ.2 decides)⟩
          obtain ⟨sameValue, moreRequests⟩ := walk_of_not_decides asked points passes
          obtain ⟨decided, requested⟩ := ih rest
          refine ⟨sameValue.trans decided, ?_⟩
          rw [moreRequests, requested, List.take_succ_cons,
            turn_cons point (points.take position), ← requestsOf_cons, ← List.take_succ_cons]
          congr 2
          split <;> rfl

/-- Without a point that decides, all lists are asked for, and the leaf is valid if there
are any. -/
theorem walk_of_no_decision (asked : Bool)
    (passes : ∀ position status,
      ¬ DecidesAt serial now transport watch start points position status) :
    (walk serial now transport watch asked start points).value =
        (if asked || points.any fun point => (target? point).isSome then .valid
        else .notApplicable "no supported CRL endpoints found") ∧
      (walk serial now transport watch asked start points).requests = requestsOf points := by
  induction points generalizing start asked with
  | nil => simp [walk, requestsOf]
  | cons point points ih =>
      have first (status : RevocationStatus) :
          ¬ Decides serial now transport watch start point status :=
        fun decides => passes 0 status (decidesAt_zero.2 decides)
      have rest (position : Nat) (status : RevocationStatus) :
          ¬ DecidesAt serial now transport watch (turn transport watch start [point]) points
            position status :=
        fun decides => passes (position + 1) status (decidesAt_succ.2 decides)
      obtain ⟨sameValue, moreRequests⟩ := walk_of_not_decides asked points first
      obtain ⟨ended, requested⟩ := ih (asked || (target? point).isSome) rest
      refine ⟨?_, ?_⟩
      · rw [sameValue, ended, List.any_cons, Bool.or_assoc]
      · rw [moreRequests, requested, ← requestsOf_cons]

end CertScope.Crl
