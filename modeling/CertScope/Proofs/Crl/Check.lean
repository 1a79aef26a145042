import CertScope.Proofs.Crl.Walk

/-!
# The outcome of the revocation lists

The walk over the distribution points gives the check its outcome: the status that the
first point to decide decides on, and validity or its absence when none does.  The
requests are those of the points that were passed over and of the point that
decided; the list of that point is not asked for if the cancellation came before its
turn.
-/

namespace CertScope.Crl

variable {serial : Bytes} {now : Instant} {transport : Transport} {watch : Watch}
  {start : Nat} {points : List String}

/-- Some point is the first to decide, or none decides. -/
theorem firstDecides_or_not (serial : Bytes) (now : Instant) (transport : Transport)
    (watch : Watch) (start : Nat) (points : List String) :
    (∃ position status, FirstDecides serial now transport watch start points position status) ∨
      ∀ position status, ¬ DecidesAt serial now transport watch start points position status := by
  by_cases some : ∃ position status,
      DecidesAt serial now transport watch start points position status
  · classical
    left
    obtain ⟨status, decides⟩ := Nat.find_spec some
    refine ⟨Nat.find some, status, decides, fun before less other earlier => ?_⟩
    exact Nat.find_min some less ⟨other, earlier⟩
  · right
    intro position status decides
    exact some ⟨position, status, decides⟩

theorem mem_requestsOf {request : Request} :
    request ∈ requestsOf points ↔
      ∃ point ∈ points, ∃ url, Url.parse point = .ok url ∧ url.scheme ∈ schemes ∧
        request = .crl url.text := by
  simp only [requestsOf, List.mem_filterMap, Option.map_eq_some_iff, target?_eq_some, and_assoc,
    @eq_comm _ request]

theorem checkCrl_of_ne_nil {leaf : Certificate} (points : leaf.crlDistributionPoints ≠ []) :
    checkCrl leaf now transport watch =
      walk leaf.serial now transport watch false 0 leaf.crlDistributionPoints := by
  unfold checkCrl
  cases found : leaf.crlDistributionPoints with
  | nil => exact (points found).elim
  | cons point others => rfl

/-- The first point that decides makes the status of the leaf, and only the points
through it are asked.  Without one, the leaf is valid if some point could be asked,
and all of these have been.  No request is made but for the list of a supported
point. -/
theorem checkCrl_outcome (leaf : Certificate) (now : Instant) (transport : Transport)
    (watch : Watch) :
    let points := leaf.crlDistributionPoints
    let checked := checkCrl leaf now transport watch
    (∀ position status,
      FirstDecides leaf.serial now transport watch 0 points position status →
        checked.value = status ∧
        checked.requests = requestsOf (points.take
          (if watch.hasFired (turn transport watch 0 (points.take position)) then position
          else position + 1))) ∧
    ((∀ position status,
      ¬ DecidesAt leaf.serial now transport watch 0 points position status) →
        checked.value =
          (if points = [] then .notApplicable "no CRL endpoints set"
          else if points.any fun point => (target? point).isSome then .valid
          else .notApplicable "no supported CRL endpoints found") ∧
        checked.requests = requestsOf points) ∧
    ∀ request ∈ checked.requests, ∃ point ∈ points, ∃ url,
      Url.parse point = .ok url ∧ url.scheme ∈ schemes ∧ request = .crl url.text := by
  intro points checked
  have decided : ∀ position status,
      FirstDecides leaf.serial now transport watch 0 points position status →
        checked.value = status ∧
        checked.requests = requestsOf (points.take
          (if watch.hasFired (turn transport watch 0 (points.take position)) then position
          else position + 1)) := by
    intro position status first
    have nonempty : leaf.crlDistributionPoints ≠ [] := by
      intro empty
      obtain ⟨point, found, -⟩ := first.decides
      simp [points, empty] at found
    simp only [checked, checkCrl_of_ne_nil nonempty]
    exact walk_of_firstDecides first
  have undecided : (∀ position status,
      ¬ DecidesAt leaf.serial now transport watch 0 points position status) →
        checked.value =
          (if points = [] then .notApplicable "no CRL endpoints set"
          else if points.any fun point => (target? point).isSome then .valid
          else .notApplicable "no supported CRL endpoints found") ∧
        checked.requests = requestsOf points := by
    intro passes
    by_cases empty : leaf.crlDistributionPoints = []
    · simp [checked, points, checkCrl, empty, requestsOf]
    · obtain ⟨ended, requested⟩ := walk_of_no_decision false passes
      simp only [checked, checkCrl_of_ne_nil empty]
      exact ⟨by simpa [points, empty] using ended, requested⟩
  refine ⟨decided, undecided, fun request member => ?_⟩
  obtain ⟨position, status, first⟩ | passes :=
    firstDecides_or_not leaf.serial now transport watch 0 points
  · rw [(decided position status first).2] at member
    obtain ⟨point, among, rest⟩ := mem_requestsOf.1 member
    exact ⟨point, List.mem_of_mem_take among, rest⟩
  · rw [(undecided passes).2] at member
    exact mem_requestsOf.1 member

/-! ## Points that decide and points that do not -/

def pointed (points : List String) : Certificate :=
  { Certificate.blank with serial := [0x10, 0x01], crlDistributionPoints := points }

/-- A point of a scheme that lists are not fetched by is passed over, and a server that
never answers decides. -/
theorem firstDecides_unanswered :
    FirstDecides [0x10, 0x01] (.ofSeconds 0) (fun _ => .never) ⟨5000, none⟩ 0
      ["urn:x", "ldap:x"] 1 (.checkFailed (FetchError.timeout 5000).message) := by
  have passed : target? "urn:x" = none := by decide +kernel
  obtain ⟨url, target⟩ : ∃ url, target? "ldap:x" = some url :=
    Option.isSome_iff_exists.1 (by decide +kernel)
  refine ⟨⟨"ldap:x", rfl, ?_⟩, fun before less other decides => ?_⟩
  · have failed (time : Nat) : (Watch.fetch ⟨5000, none⟩ (fun _ => .never) (.crl url.text)
        time).value = .error (.timeout 5000) := rfl
    exact .notFetched target (failed _)
  · obtain rfl : before = 0 := by omega
    cases decidesAt_zero.1 decides with
    | badUrl malformed =>
        have parsed : (Url.parse "urn:x").toOption.isSome := by decide +kernel
        simp [malformed, Except.toOption] at parsed
    | notFetched target | unreadable target | listed target => simp [passed] at target

/-- One leaf whose second point decides, and one whose only point does not. -/
theorem checkCrl_unanswered :
    (FirstDecides [0x10, 0x01] (.ofSeconds 0) (fun _ => .never) ⟨5000, none⟩ 0
        ["urn:x", "ldap:x"] 1 (.checkFailed (FetchError.timeout 5000).message) ∧
      (checkCrl (pointed ["urn:x", "ldap:x"]) (.ofSeconds 0) (fun _ => .never)
        ⟨5000, none⟩).value =
          .checkFailed (FetchError.timeout 5000).message) ∧
    ((∀ position status, ¬ DecidesAt [0x10, 0x01] (.ofSeconds 0) (fun _ => .never)
        ⟨5000, none⟩ 0 [] position status) ∧
      (checkCrl (pointed []) (.ofSeconds 0) (fun _ => .never) ⟨5000, none⟩).value =
        .notApplicable "no CRL endpoints set") := by
  have decided := (checkCrl_outcome (pointed ["urn:x", "ldap:x"]) (.ofSeconds 0)
    (fun _ => .never) ⟨5000, none⟩).1 1 _ firstDecides_unanswered
  have nothing (position : Nat) (status : RevocationStatus) :
      ¬ DecidesAt [0x10, 0x01] (.ofSeconds 0) (fun _ => .never) ⟨5000, none⟩ 0 [] position
        status := by
    simp [DecidesAt]
  have undecided := (checkCrl_outcome (pointed []) (.ofSeconds 0) (fun _ => .never)
    ⟨5000, none⟩).2.1 nothing
  exact ⟨⟨firstDecides_unanswered, decided.1⟩, nothing, undecided.1⟩

/-- A point whose turn comes after the cancellation decides without being asked, so that
the requests need not be those of all points through the first that decides. -/
theorem checkCrl_cancelled_without_request :
    ¬ ∀ position status,
      FirstDecides [0x10, 0x01] (.ofSeconds 1748779200) (fun _ => .never) ⟨5000, some 0⟩ 0
          ["ldap:x"] position status →
        (checkCrl (pointed ["ldap:x"]) (.ofSeconds 1748779200) (fun _ => .never)
            ⟨5000, some 0⟩).value = status ∧
          (checkCrl (pointed ["ldap:x"]) (.ofSeconds 1748779200) (fun _ => .never)
            ⟨5000, some 0⟩).requests = requestsOf (["ldap:x"].take (position + 1)) := by
  intro all
  obtain ⟨url, target⟩ : ∃ url, target? "ldap:x" = some url :=
    Option.isSome_iff_exists.1 (by decide +kernel)
  have failed : (Watch.fetch ⟨5000, some 0⟩ (fun _ => .never) (.crl url.text) 0).value =
      .error .cancelled := rfl
  have first : FirstDecides [0x10, 0x01] (.ofSeconds 1748779200) (fun _ => .never)
      ⟨5000, some 0⟩ 0 ["ldap:x"] 0 (.checkFailed (FetchError.cancelled).message) :=
    ⟨⟨"ldap:x", rfl, .notFetched target failed⟩, fun _ less => (Nat.not_lt_zero _ less).elim⟩
  have requested := (all 0 _ first).2
  exact absurd requested (by decide +kernel)

end CertScope.Crl
