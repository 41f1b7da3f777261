/- digest: The search for the next driver, and when it gives up with one left. -/

import Ayo.Dispatch.Scoring

namespace Ayo.Dispatch.Memory

open Kernel.UnitOfWork Kernel.KeyedTable Core.Values Models

structure AuditEvent where
  action : String
  resourceId : Uuid
  reason : String
  occurredAt : Instant
  policyVersion : String

structure DispatchMemory where
  rides : Table DispatchRide := .empty
  offers : Table DriverOffer := .empty
  candidates : Table DriverCandidate := .empty
  auditEvents : List AuditEvent := []

abbrev DispatchTransaction (α : Type) := Transaction DispatchMemory Failure α

def getRide (rideId : Uuid) : DispatchTransaction (Option DispatchRide) := do
  let store ← get
  pure (store.rides.find rideId)

def listCandidates (limit : Nat) : DispatchTransaction (List DriverCandidate) := do
  let store ← get
  pure (store.candidates.rows.take limit)

def reserveAndOffer (expectedRideVersion : Nat) (offer : DriverOffer) (auditEvent : AuditEvent) :
    DispatchTransaction DispatchRide := do
  let store ← get
  let ride ← demand (store.rides.find offer.rideId)
    (.conflict "Ride or driver is no longer offerable")
  let driver ← demand (store.candidates.find offer.driverId)
    (.conflict "Ride or driver is no longer offerable")
  require (ride.version = expectedRideVersion ∧ ride.state = .searching ∧
      driver.availability = .available) (.conflict "Ride or driver is no longer offerable")
  let candidates ← demand (store.candidates.replace? { driver with availability := .reserved })
    (.integrity "candidates")
  let updated : DispatchRide :=
    { ride with
      state := .offering, activeOfferId := some offer.offerId, updatedAt := offer.createdAt,
      version := ride.version + 1 }
  let rides ← demand (store.rides.replace? updated) (.integrity "rides")
  let offers ← demand (store.offers.insert? offer) (.integrity "offers")
  put { rides, offers, candidates, auditEvents := store.auditEvents ++ [auditEvent] }
  pure updated

def markNoDriver (rideId : Uuid) (expectedVersion : Nat) (now : Instant)
    (auditEvent : AuditEvent) : DispatchTransaction DispatchRide := do
  let store ← get
  let ride ← demand (store.rides.find rideId) (.conflict "Ride is no longer searching")
  require (ride.version = expectedVersion ∧ ride.state = .searching)
    (.conflict "Ride is no longer searching")
  let updated : DispatchRide :=
    { ride with state := .noDriverAvailable, updatedAt := now, version := ride.version + 1 }
  let rides ← demand (store.rides.replace? updated) (.integrity "rides")
  put { store with rides, auditEvents := store.auditEvents ++ [auditEvent] }
  pure updated

end Ayo.Dispatch.Memory

namespace Ayo.Dispatch.Service

open Kernel.UnitOfWork Kernel.KeyedTable Core.Values Models Scoring Memory

variable (policy : DispatchPolicy)

def systemEvent (ride : DispatchRide) (action reason : String) (now : Instant) : AuditEvent :=
  { action, resourceId := ride.rideId, reason, occurredAt := now, policyVersion := policy.version }

def dispatchNext (rideId : Uuid) (now : Instant) (offerId : Uuid) :
    DispatchTransaction (Option DriverOffer) := do
  let found ← getRide rideId
  let ride ← demand found (.conflict "Ride is not searching")
  require (ride.state = .searching) (.conflict "Ride is not searching")
  let candidates ← listCandidates policy.maximumCandidates.1.toNat
  match scoreCandidates ride policy now candidates with
  | [] => do
    let _ ← markNoDriver ride.rideId ride.version now
      (systemEvent policy ride "dispatch.ride.no_driver" "no_eligible_driver" now)
    pure none
  | score :: _ => do
    let offer : DriverOffer :=
      { offerId, rideId := ride.rideId, driverId := score.driverId, createdAt := now,
        expiresAt := now + policy.offerTimeoutSeconds.1 * 1000000,
        policyVersion := policy.version, score }
    let _ ← reserveAndOffer ride.version offer
      (systemEvent policy ride "dispatch.offer.create" "candidate_selected" now)
    pure (some offer)

section

variable (store : DispatchMemory)

def MarksNoDriver (ride : DispatchRide) (now : Instant) (offerId : Uuid) : Prop :=
  ride.state ≠ .noDriverAvailable ∧
    ∃ kept, (commit (dispatchNext policy ride.rideId now offerId) store).rides.find ride.rideId =
      some kept ∧ kept.state = .noDriverAvailable

/-- No candidate is eligible for a ride that is given up. -/
def GivesUpRightly (now : Instant) (offerId : Uuid) : Prop :=
  ∀ ride ∈ store.rides.rows, MarksNoDriver policy store ride now offerId →
    ∀ driver ∈ store.candidates.rows, ¬ Eligible ride policy now driver

/-- For every searching ride, an eligible driver is among the first candidates when there is one. -/
def WithinReach (now : Instant) : Prop :=
  ∀ ride ∈ store.rides.rows, ride.state = .searching →
    (∃ driver ∈ store.candidates.rows, Eligible ride policy now driver) →
      ∃ driver ∈ store.candidates.rows.take policy.maximumCandidates.1.toNat,
        Eligible ride policy now driver

variable {policy} {store : DispatchMemory} {ride : DispatchRide} {now : Instant} {offerId : Uuid}

theorem unscored_iff : scoreCandidates ride policy now
      (store.candidates.rows.take policy.maximumCandidates.1.toNat) = [] ↔
    ∀ driver ∈ store.candidates.rows.take policy.maximumCandidates.1.toNat,
      ¬ Eligible ride policy now driver := by
  rw [scoreCandidates_eq_nil_iff, List.take_take, Nat.min_self]

theorem find_of_updated {rides : Table DispatchRide} {updated : DispatchRide}
    (held : store.rides.find ride.rideId = some ride)
    (rows : rides.rows = store.rides.replaced updated) (same : ride.rideId = updated.rideId) :
    rides.find ride.rideId = some updated := by
  have key : ride.rideId = Row.key updated := same
  rw [Table.find_of_rows_replaced rows, if_pos key, held]
  rfl

theorem dispatchNext_ok {result : Option DriverOffer} {t : DispatchMemory}
    (ran : dispatchNext policy ride.rideId now offerId store = .ok (result, t))
    (mem : ride ∈ store.rides.rows) :
    ride.state = .searching ∧ ∃ updated, t.rides.find ride.rideId = some updated ∧
      ((scoreCandidates ride policy now
          (store.candidates.rows.take policy.maximumCandidates.1.toNat) = [] ∧
        updated.state = .noDriverAvailable) ∨
      (scoreCandidates ride policy now
          (store.candidates.rows.take policy.maximumCandidates.1.toNat) ≠ [] ∧
        updated.state = .offering)) := by
  have held : store.rides.find ride.rideId = some ride := Table.find_of_mem mem
  unfold dispatchNext getRide listCandidates at ran
  simp only [bind_assoc, pure_bind, ↓steps_ok] at ran
  obtain ⟨found, present, searching, ran⟩ := ran
  obtain rfl : ride = found := Option.some_inj.1 (held.symm.trans present)
  refine ⟨searching, ?_⟩
  cases scored : scoreCandidates ride policy now
      (store.candidates.rows.take policy.maximumCandidates.1.toNat) with
  | nil =>
    simp only [scored] at ran
    obtain ⟨updated, marking, _⟩ := bind_pure_ok.1 ran
    simp only [markNoDriver, ↓steps_ok, Table.replace?_eq_some] at marking
    obtain ⟨again, same, _, rides, rows, rfl, rfl⟩ := marking
    obtain rfl : ride = again := Option.some_inj.1 (held.symm.trans same)
    have found := find_of_updated held rows rfl
    exact ⟨_, found, .inl ⟨rfl, rfl⟩⟩
  | cons score rest =>
    simp only [scored] at ran
    obtain ⟨updated, offering, _⟩ := bind_pure_ok.1 ran
    simp only [reserveAndOffer, ↓steps_ok, Table.replace?_eq_some] at offering
    obtain ⟨again, same, _, _, _, _, _, rides, rows, _, _, rfl, rfl⟩ := offering
    obtain rfl : ride = again := Option.some_inj.1 (held.symm.trans same)
    have found := find_of_updated held rows rfl
    exact ⟨_, found, .inr ⟨List.cons_ne_nil _ _, rfl⟩⟩

theorem exists_marked (mem : ride ∈ store.rides.rows) (searching : ride.state = .searching)
    (unscored : scoreCandidates ride policy now
      (store.candidates.rows.take policy.maximumCandidates.1.toNat) = []) :
    ∃ t, dispatchNext policy ride.rideId now offerId store = .ok (none, t) := by
  have held : store.rides.find ride.rideId = some ride := Table.find_of_mem mem
  obtain ⟨rides, rows⟩ := store.rides.exists_replaced
    { ride with state := .noDriverAvailable, updatedAt := now, version := ride.version + 1 }
    fun _ _ same => same
  have marking : markNoDriver ride.rideId ride.version now
      (systemEvent policy ride "dispatch.ride.no_driver" "no_eligible_driver" now) store =
      .ok ({ ride with state := .noDriverAvailable, updatedAt := now, version := ride.version + 1 },
        { store with
        rides,
        auditEvents := store.auditEvents ++
          [systemEvent policy ride "dispatch.ride.no_driver" "no_eligible_driver" now] }) := by
    simp only [markNoDriver, ↓steps_ok, Table.replace?_eq_some]
    exact ⟨ride, held, ⟨rfl, searching⟩, rides, rows, rfl, rfl⟩
  apply Exists.intro
  unfold dispatchNext getRide listCandidates
  simp only [bind_assoc, pure_bind, ↓steps_ok]
  refine ⟨ride, held, searching, ?_⟩
  simp only [unscored]
  exact bind_ok.2 ⟨_, _, marking, rfl⟩

theorem marksNoDriver_iff (mem : ride ∈ store.rides.rows) :
    MarksNoDriver policy store ride now offerId ↔ ride.state = .searching ∧
        ∀ driver ∈ store.candidates.rows.take policy.maximumCandidates.1.toNat,
          ¬ Eligible ride policy now driver := by
  have held : store.rides.find ride.rideId = some ride := Table.find_of_mem mem
  constructor
  · rintro ⟨unmarked, kept, found, marked⟩
    rcases commit_cases (dispatchNext policy ride.rideId now offerId) store with
      stays | ⟨result, ran⟩
    · rw [stays, held] at found
      obtain rfl := Option.some_inj.1 found
      exact absurd marked unmarked
    · obtain ⟨searching, updated, present, ⟨unscored, _⟩ | ⟨_, offering⟩⟩ :=
        dispatchNext_ok ran mem
      · exact ⟨searching, unscored_iff.1 unscored⟩
      · obtain rfl := Option.some_inj.1 (found.symm.trans present)
        rw [marked] at offering
        exact absurd offering (by decide)
  · rintro ⟨searching, unseen⟩
    have unscored := unscored_iff.2 unseen
    obtain ⟨t, ran⟩ : ∃ t, dispatchNext policy ride.rideId now offerId store =
      .ok (none, t) := exists_marked mem searching unscored
    obtain ⟨_, updated, found, ⟨_, marked⟩ | ⟨scored, _⟩⟩ := dispatchNext_ok ran mem
    · refine ⟨by rw [searching]; decide, updated, ?_, marked⟩
      rw [commit_of_ok ran]
      exact found
    · exact absurd unscored scored

/-- The search gives up rightly exactly where the eligible drivers are within its reach. -/
theorem gives_up_rightly_iff (policy : DispatchPolicy) (store : DispatchMemory) (now : Instant)
    (offerId : Uuid) : GivesUpRightly policy store now offerId ↔ WithinReach policy store now := by
  constructor
  · intro rightly ride member searching someone
    by_contra beyond
    have unseen : ∀ driver ∈ store.candidates.rows.take policy.maximumCandidates.1.toNat,
        ¬ Eligible ride policy now driver := by
      intro driver first eligible
      exact beyond ⟨driver, first, eligible⟩
    obtain ⟨driver, listed, eligible⟩ := someone
    exact rightly ride member ((marksNoDriver_iff member).2 ⟨searching, unseen⟩) driver listed
      eligible
  · intro within ride member marks driver listed eligible
    obtain ⟨searching, unseen⟩ := (marksNoDriver_iff member).1 marks
    obtain ⟨first, early, suits⟩ := within ride member searching ⟨driver, listed, eligible⟩
    exact unseen first early suits

end

/-! A searching ride, a suspended driver and one who is available, of whom one is considered. -/

def considerOne : DispatchPolicy where
  version := "dispatch.v1"
  offerTimeoutSeconds := ⟨15, by decide⟩
  maximumLocationAgeSeconds := ⟨45, by decide⟩
  minimumReputationHistory := ⟨20, by decide⟩
  maximumFairnessEtaTradeoffSeconds := ⟨20, by decide⟩
  reliabilityPenaltySeconds := ⟨10, by decide⟩
  maximumCandidates := ⟨1, by decide⟩

def sampleDriver (driverId : Uuid) (availability : DriverAvailability) : DriverCandidate where
  driverId
  availability
  verified := true
  safetyEligible := true
  serviceTypes := ["ayo_go"]
  pickupEtaSeconds := ⟨120, by decide⟩
  locationObservedAt := 0
  opportunityDeficit := ⟨0, by norm_num⟩
  reputation := ⟨0, 0, 0, Nat.le_refl 0⟩

def sampleRide : DispatchRide :=
  { rideId := 10, riderId := 1, serviceType := "ayo_go", updatedAt := 0 }

theorem two_drivers : [sampleDriver 7 .suspended, sampleDriver 8 .available].Pairwise
    fun a b => ¬ Row.clash a b := by
  refine List.pairwise_pair.2 ?_
  exact (by decide : (7 : Uuid) ≠ 8)

def twoDrivers : DispatchMemory where
  rides := ⟨[sampleRide], List.pairwise_singleton _ _⟩
  candidates := ⟨[sampleDriver 7 .suspended, sampleDriver 8 .available], two_drivers⟩

/-- The ride is given up for the suspended driver who stands first, with the other one eligible. -/
theorem gives_up_beyond_reach :
    ¬ ∀ (policy : DispatchPolicy) (store : DispatchMemory) (now : Instant) (offerId : Uuid),
      GivesUpRightly policy store now offerId := by
  intro rightly
  have marks : MarksNoDriver considerOne twoDrivers sampleRide 0 90 := by
    have marked : ((commit (dispatchNext considerOne sampleRide.rideId 0 90)
        twoDrivers).rides.find sampleRide.rideId).map DispatchRide.state =
          some .noDriverAvailable := by
      decide +kernel
    obtain ⟨kept, found, state⟩ := Option.map_eq_some_iff.1 marked
    exact ⟨by decide, kept, found, state⟩
  have listed : sampleRide ∈ twoDrivers.rides.rows := List.mem_singleton_self _
  have second : sampleDriver 8 .available ∈ twoDrivers.candidates.rows :=
    List.mem_cons_of_mem _ (List.mem_singleton_self _)
  have eligible : Eligible sampleRide considerOne 0 (sampleDriver 8 .available) :=
    ⟨by decide, rfl, rfl, rfl, by decide, Int.le_refl 0, by decide⟩
  exact rightly considerOne twoDrivers 0 90 sampleRide listed marks _ second eligible

end Ayo.Dispatch.Service
