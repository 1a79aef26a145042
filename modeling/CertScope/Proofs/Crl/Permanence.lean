import CertScope.Proofs.Calendar
import CertScope.Proofs.Crl.Check
import CertScope.Proofs.Crl.Encoding

/-!
# Revocation lasts

What decides at one time decides at every later time, in the same way: an entry that
counts goes on counting, and a failure has nothing to do with the time.  What decides
only at the later time is an entry that has come to count, so that the walk may end
sooner than before, but with a revocation and with no request that it did not make
before.
-/

namespace CertScope.Crl

variable {serial : Bytes} {now later : Instant} {transport : Transport} {watch : Watch}
  {start time position : Nat} {point source : String} {points : List String}
  {status : RevocationStatus} {leaf : Certificate}

/-! ## One point -/

theorem Decides.at_later (ordered : now ≤ later)
    (decides : Decides serial now transport watch time point status) :
    Decides serial later transport watch time point status := by
  cases decides with
  | badUrl malformed => exact .badUrl malformed
  | notFetched target failed => exact .notFetched target failed
  | unreadable target fetched refused => exact .unreadable target fetched refused
  | listed target fetched read member named begun =>
      exact .listed target fetched read member named
        (Int.le_trans begun (Instant.seconds_le_of_le ordered))

/-- A failure does not depend on the time. -/
theorem Decides.at_any_time (now : Instant)
    (decides : Decides serial later transport watch time point status) :
    status = .revoked point ∨ Decides serial now transport watch time point status := by
  cases decides with
  | badUrl malformed => exact .inr (.badUrl malformed)
  | notFetched target failed => exact .inr (.notFetched target failed)
  | unreadable target fetched refused => exact .inr (.unreadable target fetched refused)
  | listed => exact .inl rfl

theorem Decides.ne_valid (decides : Decides serial now transport watch time point status) :
    status ≠ .valid := by
  cases decides <;> exact RevocationStatus.noConfusion

theorem Decides.point_eq
    (decides : Decides serial now transport watch time point (.revoked source)) :
    point = source := by
  cases decides with
  | listed => rfl

/-! ## All points -/

theorem DecidesAt.at_later (ordered : now ≤ later)
    (decides : DecidesAt serial now transport watch start points position status) :
    DecidesAt serial later transport watch start points position status := by
  obtain ⟨point, found, decides⟩ := decides
  exact ⟨point, found, decides.at_later ordered⟩

theorem DecidesAt.ne_valid
    (decides : DecidesAt serial now transport watch start points position status) :
    status ≠ .valid := by
  obtain ⟨point, -, decides⟩ := decides
  exact decides.ne_valid

/-- The point that revokes decides still at a later time, unless a point before it has come
to revoke. -/
theorem FirstDecides.at_later (ordered : now ≤ later)
    (first : FirstDecides serial now transport watch start points position (.revoked source)) :
    ∃ sooner ≤ position, ∃ other,
      FirstDecides serial later transport watch start points sooner (.revoked other) := by
  obtain ⟨sooner, status, earliest⟩ | never :=
    firstDecides_or_not serial later transport watch start points
  · have still := first.decides.at_later ordered
    have bound : sooner ≤ position := by
      by_contra beyond
      exact earliest.earlier position (Nat.lt_of_not_le beyond) _ still
    obtain rfl | less := Nat.eq_or_lt_of_le bound
    · exact ⟨sooner, Nat.le_refl _, source, still, earliest.earlier⟩
    · -- a failure in front of the old point would have decided before
      obtain ⟨point, found, decides⟩ := earliest.decides
      obtain rfl | before := decides.at_any_time now
      · exact ⟨sooner, bound, point, earliest⟩
      · exact (first.earlier sooner less _ ⟨point, found, before⟩).elim
  · exact (never _ _ (first.decides.at_later ordered)).elim

/-! ## The status of the leaf -/

/-- The distribution point at a position is the one that revokes the leaf. -/
structure RevokedBy (leaf : Certificate) (now : Instant) (transport : Transport) (watch : Watch)
    (position : Nat) (source : String) : Prop where
  point : leaf.crlDistributionPoints[position]? = some source
  status : (checkCrl leaf now transport watch).value = .revoked source
  first : FirstDecides leaf.serial now transport watch 0 leaf.crlDistributionPoints position
    (.revoked source)

theorem FirstDecides.revokedBy
    (first : FirstDecides leaf.serial now transport watch 0 leaf.crlDistributionPoints position
      (.revoked source)) :
    RevokedBy leaf now transport watch position source := by
  obtain ⟨point, found, decides⟩ := first.decides
  obtain rfl := decides.point_eq
  exact ⟨found, ((checkCrl_outcome leaf now transport watch).1 position _ first).1, first⟩

/-- A leaf whose status is a revocation is revoked by one of its points. -/
theorem exists_revokedBy (revoked : (checkCrl leaf now transport watch).value = .revoked source) :
    ∃ position, RevokedBy leaf now transport watch position source := by
  obtain ⟨decided, undecided, -⟩ := checkCrl_outcome leaf now transport watch
  obtain ⟨position, status, first⟩ | never :=
    firstDecides_or_not leaf.serial now transport watch 0 leaf.crlDistributionPoints
  · obtain rfl := revoked.symm.trans (decided position status first).1
    exact ⟨position, first.revokedBy⟩
  · have ended := revoked.symm.trans (undecided never).1
    split at ended
    · cases ended
    · split at ended <;> cases ended

theorem requestsOf_take_prefix {fewer more : Nat} (ordered : fewer ≤ more)
    (points : List String) :
    requestsOf (points.take fewer) <+: requestsOf (points.take more) :=
  (List.take_prefix_take_left ordered).filterMap _

/-- The walk to the point that revokes makes no request behind those of an earlier walk to
a point no nearer. -/
theorem RevokedBy.requests_prefix {sooner : Nat} {other : String}
    (byLater : RevokedBy leaf later transport watch sooner other)
    (byNow : RevokedBy leaf now transport watch position source) (bound : sooner ≤ position) :
    (checkCrl leaf later transport watch).requests <+:
      (checkCrl leaf now transport watch).requests := by
  obtain ⟨-, asksLater⟩ := (checkCrl_outcome leaf later transport watch).1 _ _ byLater.first
  obtain ⟨-, asksNow⟩ := (checkCrl_outcome leaf now transport watch).1 _ _ byNow.first
  rw [asksLater, asksNow]
  obtain rfl | less := Nat.eq_or_lt_of_le bound
  · exact List.prefix_refl _
  · apply requestsOf_take_prefix
    split <;> split <;> omega

theorem not_decidesAt_of_valid (valid : (checkCrl leaf now transport watch).value = .valid)
    (position : Nat) (status : RevocationStatus) :
    ¬ DecidesAt leaf.serial now transport watch 0 leaf.crlDistributionPoints position status := by
  obtain ⟨decided, -, -⟩ := checkCrl_outcome leaf now transport watch
  obtain ⟨nearest, found, first⟩ | never :=
    firstDecides_or_not leaf.serial now transport watch 0 leaf.crlDistributionPoints
  · exact (first.decides.ne_valid ((decided nearest found first).1.symm.trans valid)).elim
  · exact never position status

/-- A leaf that is valid at a later time is valid now: nothing decides at the later time, and
so nothing does now. -/
theorem valid_of_valid_later (ordered : now ≤ later)
    (valid : (checkCrl leaf later transport watch).value = .valid) :
    (checkCrl leaf now transport watch).value = .valid := by
  have neverLater := not_decidesAt_of_valid valid
  have never (position : Nat) (status : RevocationStatus)
      (decides : DecidesAt leaf.serial now transport watch 0 leaf.crlDistributionPoints position
        status) : False :=
    neverLater position status (decides.at_later ordered)
  obtain ⟨endedLater, -⟩ := (checkCrl_outcome leaf later transport watch).2.1 neverLater
  obtain ⟨ended, -⟩ := (checkCrl_outcome leaf now transport watch).2.1 never
  exact ended.trans (endedLater.symm.trans valid)

/-- Revocation lasts.  A leaf that some point revokes is revoked at every later time, by
that point or by one before it, and the requests of the later walk begin those of the
earlier.  A leaf that is valid at the later time is valid at the earlier. -/
theorem revocation_lasts (ordered : now ≤ later) (leaf : Certificate) (transport : Transport)
    (watch : Watch) :
    (∀ source, (checkCrl leaf now transport watch).value = .revoked source →
      ∃ position, RevokedBy leaf now transport watch position source) ∧
    (∀ position source, RevokedBy leaf now transport watch position source →
      (∃ sooner ≤ position, ∃ other, RevokedBy leaf later transport watch sooner other) ∧
      (checkCrl leaf later transport watch).requests <+:
        (checkCrl leaf now transport watch).requests) ∧
    ((checkCrl leaf later transport watch).value = .valid →
      (checkCrl leaf now transport watch).value = .valid) := by
  refine ⟨fun source => exists_revokedBy, fun position source byNow => ?_,
    valid_of_valid_later ordered⟩
  obtain ⟨sooner, bound, other, first⟩ := byNow.first.at_later ordered
  exact ⟨⟨sooner, bound, other, first.revokedBy⟩, first.revokedBy.requests_prefix byNow bound⟩

/-- Two servers: the list of the first names a certificate from 2030 on, that of the second
names it from 2020 on. -/
def twoLists : Transport
  | .crl "ldap:x" => .after 0 (.ok (Encoding.listOf [Encoding.later]).encode)
  | _ => .after 0 (.ok (Encoding.listOf [Encoding.sooner]).encode)

/-- The second point revokes in 2025 and the first in 2035; in 2019 the leaf is valid. -/
theorem revocation_lasts_two_points :
    let leaf := pointed ["ldap:x", "ldap:y"]
    let watch : Watch := ⟨5000, none⟩
    RevokedBy leaf (.ofSeconds 1735689600) twoLists watch 1 "ldap:y" ∧
      (∃ sooner ≤ 1, ∃ other,
        RevokedBy leaf (.ofSeconds 2051222400) twoLists watch sooner other) ∧
      (checkCrl leaf (.ofSeconds 2051222400) twoLists watch).requests <+:
        (checkCrl leaf (.ofSeconds 1735689600) twoLists watch).requests ∧
      (checkCrl leaf (.ofSeconds 1546300800) twoLists watch).value = .valid := by
  intro leaf watch
  have ordered : Instant.ofSeconds 1735689600 ≤ .ofSeconds 2051222400 := by decide
  have before : Instant.ofSeconds 1546300800 ≤ .ofSeconds 1546300801 := by decide
  have status : (checkCrl leaf (.ofSeconds 1735689600) twoLists watch).value =
      .revoked "ldap:y" := by
    decide +kernel
  have valid : (checkCrl leaf (.ofSeconds 1546300801) twoLists watch).value = .valid := by
    decide +kernel
  obtain ⟨byPoint, lasts, -⟩ := revocation_lasts ordered leaf twoLists watch
  obtain ⟨-, -, stays⟩ := revocation_lasts before leaf twoLists watch
  obtain ⟨position, revoked⟩ := byPoint _ status
  obtain rfl : position = 1 := by
    have found : ["ldap:x", "ldap:y"][position]? = some "ldap:y" := revoked.point
    match position, found with
    | 1, _ => rfl
  obtain ⟨again, fewer⟩ := lasts 1 _ revoked
  exact ⟨revoked, again, fewer, stays valid⟩

end CertScope.Crl
