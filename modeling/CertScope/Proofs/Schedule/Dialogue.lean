import CertScope.Inspection
import CertScope.Proofs.Transport

/-!
# Checks as dialogues

A revocation check has ended with a status, or it asks for something and goes on from
whatever comes of it.  In this form a check can be stopped between two calls, so that
several checks can be interleaved.  Held from a time on without a pause, the dialogue
of each channel is the check of that channel.
-/

namespace CertScope

/-- A check between two calls. -/
inductive Dialogue where
  | ended (status : RevocationStatus)
  | asks (request : Request) (next : Except FetchError Bytes → Dialogue)

namespace Dialogue

variable {transport other : Transport} {watch : Watch} {start : Nat}

/-- The dialogue held from a time on, with nothing in between. -/
def run (transport : Transport) (watch : Watch) (start : Nat) : Dialogue → Timed RevocationStatus
  | ended status => ⟨status, [], start⟩
  | asks request next =>
      let fetched := watch.fetch transport request start
      let rest := (next fetched.value).run transport watch fetched.time
      { rest with requests := fetched.requests ++ rest.requests }

theorem run_ended (status : RevocationStatus) :
    (ended status).run transport watch start = ⟨status, [], start⟩ :=
  rfl

theorem run_asks (request : Request) (next : Except FetchError Bytes → Dialogue) :
    (asks request next).run transport watch start =
      let fetched := watch.fetch transport request start
      let rest := (next fetched.value).run transport watch fetched.time
      { rest with requests := fetched.requests ++ rest.requests } :=
  rfl

/-- The number of steps that the dialogue takes: one to end, and two for each call. -/
def steps (transport : Transport) (watch : Watch) (start : Nat) : Dialogue → Nat
  | ended _ => 1
  | asks request next =>
      let fetched := watch.fetch transport request start
      (next fetched.value).steps transport watch fetched.time + 2

/-- All requests of the dialogue are of one kind, whatever comes of them. -/
def AsksOnly (kind : Request → Prop) : Dialogue → Prop
  | ended _ => True
  | asks request next => kind request ∧ ∀ outcome, (next outcome).AsksOnly kind

theorem AsksOnly.imp {kind wider : Request → Prop} {dialogue : Dialogue}
    (only : dialogue.AsksOnly kind) (within : ∀ request, kind request → wider request) :
    dialogue.AsksOnly wider := by
  induction dialogue with
  | ended status => trivial
  | asks request next ih => exact ⟨within request only.1, fun outcome => ih _ (only.2 outcome)⟩

/-- A request that brings no bytes ends the dialogue with the cause. -/
def GivesUp : Dialogue → Prop
  | ended _ => True
  | asks _ next =>
      (∀ cause : FetchError, next (.error cause) = ended (.checkFailed cause.message)) ∧
        ∀ outcome, (next outcome).GivesUp

theorem le_time_run (dialogue : Dialogue) (start : Nat) :
    start ≤ (dialogue.run transport watch start).time := by
  induction dialogue generalizing start with
  | ended status => exact Nat.le_refl start
  | asks request next ih =>
      rw [run_asks]
      exact Nat.le_trans Watch.le_time_fetch (ih _ _)

/-- Only the answers to its own kind of request bear on a dialogue. -/
theorem run_congr {kind : Request → Prop} (same : ∀ request, kind request →
    transport request = other request) {dialogue : Dialogue} (only : dialogue.AsksOnly kind) :
    dialogue.run transport watch start = dialogue.run other watch start := by
  induction dialogue generalizing start with
  | ended status => rfl
  | asks request next ih =>
      obtain ⟨ofKind, others⟩ := only
      have fetched : watch.fetch transport request start = watch.fetch other request start := by
        unfold Watch.fetch
        rw [same request ofKind]
      simp only [run_asks, fetched]
      rw [ih _ (others _)]

end Dialogue

/-! ## Distribution points -/

namespace Crl

variable {serial : Bytes} {now : Instant} {transport : Transport} {watch : Watch}

/-- How the walk goes on once the list of a point has come or failed to come. -/
def resume (serial : Bytes) (now : Instant) (point : String) (url : Url) (rest : Dialogue) :
    Except FetchError Bytes → Dialogue
  | .error cause => .ended (.checkFailed (Error.fetch cause).message)
  | .ok body =>
      match isListed url serial now body with
      | .error error => .ended (.checkFailed error.message)
      | .ok true => .ended (.revoked point)
      | .ok false => rest

/-- The walk over distribution points, as a dialogue. -/
def walkDialogue (serial : Bytes) (now : Instant) (asked : Bool) : List String → Dialogue
  | [] => .ended (if asked then .valid else .notApplicable "no supported CRL endpoints found")
  | point :: points =>
      match Url.parse point with
      | .error cause => .ended (.checkFailed (Error.badUrl cause).message)
      | .ok url =>
          if schemes.contains url.scheme then
            .asks (.crl url.text)
              (resume serial now point url (walkDialogue serial now true points))
          else walkDialogue serial now asked points

theorem run_walkDialogue (asked : Bool) (start : Nat) (points : List String) :
    (walkDialogue serial now asked points).run transport watch start =
      walk serial now transport watch asked start points := by
  induction points generalizing asked start with
  | nil => rfl
  | cons point points ih =>
      unfold walkDialogue walk
      cases parsed : Url.parse point with
      | error cause => rfl
      | ok url =>
          by_cases supported : schemes.contains url.scheme = true
          · simp only [supported, if_true, Dialogue.run_asks, query]
            cases fetched : (watch.fetch transport (.crl url.text) start).value with
            | error cause => simp [resume, Dialogue.run_ended]
            | ok body =>
                cases listed : isListed url serial now body with
                | error error => simp [resume, listed, Dialogue.run_ended]
                | ok found => cases found <;> simp [resume, listed, Dialogue.run_ended, ih]
          · simp only [supported]
            exact ih asked start

/-- What every end of a dialogue has, and every request that goes on to a dialogue with
it, the walk has. -/
theorem walkDialogue_induction {property : Dialogue → Prop}
    (ended : ∀ status, property (.ended status))
    (asks : ∀ point url rest, property rest →
      property (.asks (.crl url.text) (resume serial now point url rest)))
    (asked : Bool) (points : List String) : property (walkDialogue serial now asked points) := by
  induction points generalizing asked with
  | nil => exact ended _
  | cons point points ih =>
      unfold walkDialogue
      cases Url.parse point with
      | error cause => exact ended _
      | ok url =>
          dsimp only
          split
          · exact asks point url _ (ih true)
          · exact ih asked

theorem resume_cases {property : Dialogue → Prop} (ended : ∀ status, property (.ended status))
    {rest : Dialogue} (continued : property rest) (point : String) (url : Url)
    (outcome : Except FetchError Bytes) :
    property (resume serial now point url rest outcome) := by
  cases outcome with
  | error cause => exact ended _
  | ok body =>
      unfold resume
      dsimp only
      split
      · exact ended _
      · exact ended _
      · exact continued

theorem walkDialogue_asksOnly (asked : Bool) (points : List String) :
    (walkDialogue serial now asked points).AsksOnly fun request => ∃ url, request = .crl url := by
  apply walkDialogue_induction
  · intro status
    trivial
  · intro point url rest only
    exact ⟨⟨url.text, rfl⟩, resume_cases (fun status => trivial) only point url⟩

theorem walkDialogue_givesUp (asked : Bool) (points : List String) :
    (walkDialogue serial now asked points).GivesUp := by
  apply walkDialogue_induction
  · intro status
    trivial
  · intro point url rest givesUp
    exact ⟨fun cause => rfl, resume_cases (fun status => trivial) givesUp point url⟩

def dialogue (leaf : Certificate) (now : Instant) : Dialogue :=
  match leaf.crlDistributionPoints with
  | [] => .ended (.notApplicable "no CRL endpoints set")
  | points => walkDialogue leaf.serial now false points

theorem run_dialogue (leaf : Certificate) :
    (dialogue leaf now).run transport watch 0 = checkCrl leaf now transport watch := by
  unfold dialogue checkCrl
  cases leaf.crlDistributionPoints with
  | nil => rfl
  | cons point points => exact run_walkDialogue false 0 (point :: points)

theorem dialogue_asksOnly (leaf : Certificate) :
    (dialogue leaf now).AsksOnly fun request => ∃ url, request = .crl url := by
  unfold dialogue
  split
  · trivial
  · exact walkDialogue_asksOnly false _

theorem dialogue_givesUp (leaf : Certificate) : (dialogue leaf now).GivesUp := by
  unfold dialogue
  split
  · trivial
  · exact walkDialogue_givesUp false _

end Crl

/-! ## Responders -/

namespace Ocsp

variable {leaf : Certificate} {intermediates : List Bytes} {authority : Option Bytes}
  {now : Instant} {transport : Transport} {watch : Watch}

def resume (url : String) (serial : Bytes) (issuer : X509.SignedCertificate) (now : Instant) :
    Except FetchError Bytes → Dialogue
  | .error cause => .ended (statusOf url (.error (.fetch cause)))
  | .ok response => .ended (statusOf url (verify response serial issuer now))

def queryDialogue (leaf : Certificate) (issuer : X509.SignedCertificate) (url : String)
    (now : Instant) : Dialogue :=
  match request leaf.serial issuer with
  | .error error => .ended (statusOf url (.error error))
  | .ok body => .asks (.ocsp url body) (resume url leaf.serial issuer now)

theorem run_queryDialogue (issuer : X509.SignedCertificate) (url : String) :
    (queryDialogue leaf issuer url now).run transport watch 0 =
      let asked := query leaf issuer url now transport watch
      ⟨statusOf url asked.value, asked.requests, asked.time⟩ := by
  unfold queryDialogue query
  cases request leaf.serial issuer with
  | error error => rfl
  | ok body =>
      simp only [Dialogue.run_asks]
      cases (watch.fetch transport (.ocsp url body) 0).value with
      | error cause => simp [resume, Dialogue.run_ended]
      | ok response => simp [resume, Dialogue.run_ended]

def dialogue (leaf : Certificate) (intermediates : List Bytes) (authority : Option Bytes)
    (now : Instant) : Dialogue :=
  match selectIssuer intermediates authority with
  | none => .ended (.notApplicable "no CA or intermediate certificate provided")
  | some candidate =>
      match X509.SignedCertificate.read (Pem.firstCertificate candidate) with
      | .error _ => .ended (.checkFailed "cannot parse issuer certificate")
      | .ok (issuer, _) =>
          match leaf.ocspServers.head? with
          | none => .ended (.notApplicable "no OCSP responder URL set")
          | some url => queryDialogue leaf issuer url now

theorem run_dialogue :
    (dialogue leaf intermediates authority now).run transport watch 0 =
      checkOcsp leaf intermediates authority now transport watch := by
  unfold dialogue checkOcsp
  cases selectIssuer intermediates authority with
  | none => rfl
  | some candidate =>
      dsimp only
      cases X509.SignedCertificate.read (Pem.firstCertificate candidate) with
      | error failure => rfl
      | ok step =>
          cases leaf.ocspServers.head? with
          | none => rfl
          | some url => exact run_queryDialogue step.1 url

/-- A dialogue with a responder has at most one request, behind which it ends. -/
theorem dialogue_induction {property : Dialogue → Prop}
    (ended : ∀ status, property (.ended status))
    (asks : ∀ url body issuer,
      property (.asks (.ocsp url body) (resume url leaf.serial issuer now))) :
    property (dialogue leaf intermediates authority now) := by
  unfold dialogue queryDialogue
  split
  · exact ended _
  · split
    · exact ended _
    · split
      · exact ended _
      · split
        · exact ended _
        · exact asks _ _ _

theorem resume_ended (url : String) (serial : Bytes) (issuer : X509.SignedCertificate)
    (now : Instant) (outcome : Except FetchError Bytes) :
    ∃ status, resume url serial issuer now outcome = .ended status := by
  cases outcome <;> exact ⟨_, rfl⟩

theorem dialogue_asksOnly :
    (dialogue leaf intermediates authority now).AsksOnly
      fun request => ∃ url body, request = .ocsp url body := by
  apply dialogue_induction
  · intro status
    trivial
  · intro url body issuer
    refine ⟨⟨url, body, rfl⟩, fun outcome => ?_⟩
    obtain ⟨status, ends⟩ := resume_ended url leaf.serial issuer now outcome
    rw [ends]
    trivial

theorem dialogue_givesUp : (dialogue leaf intermediates authority now).GivesUp := by
  apply dialogue_induction
  · intro status
    trivial
  · intro url body issuer
    refine ⟨fun cause => rfl, fun outcome => ?_⟩
    obtain ⟨status, ends⟩ := resume_ended url leaf.serial issuer now outcome
    rw [ends]
    trivial

end Ocsp

end CertScope
