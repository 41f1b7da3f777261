/- digest: When a commitment lasts as long as its reservation needs a driver. -/

import Ayo.Scheduled.Effects

namespace Ayo.Scheduled.Commitments

open Kernel.UnitOfWork Kernel.KeyedTable Kernel.Run Core.Values
open Application (Draws ScheduledConfig)
open Effects Engine Integration Models Repository Scheduled.System

def released : List ReservationState := .reassigning :: terminalStates

def engaged : List ReservationState :=
  [.driverCommitted, .revalidating, .fallbackDispatch, .driverEnRoute, .readyForPickup,
   .activatedAsRide, .operationalReview]

variable (store : ScheduledStore)

/-- The lock of a reservation names its one committed commitment. -/
def Locked (item : ScheduledReservation) : Prop :=
  (committedOf store item.reservationId).map DriverCommitment.commitmentId =
    item.activeCommitmentId.toList

/-- Every lock names the one committed commitment, and a reservation that has no driver any more
has none. -/
def CommitmentsFollow : Prop :=
  ∀ item ∈ store.reservations.rows, Locked store item ∧
    (item.state ∈ released → committedOf store item.reservationId = [])

/-- The action does not take a reservation away from a driver who is committed to it. -/
def LeavesCommitted (action : ScheduledAction) : Prop :=
  ∀ asked ∈ asks action, ∀ target ∈ asked.2, target ∈ released →
    ∀ item ∈ store.reservations.find asked.1, target ∈ allowedTransitions item.state →
      Granted store action item → item.activeCommitmentId = none

/-- What runs that leave committed reservations to their drivers keep. -/
structure CommitmentsKept (store : ScheduledStore) : Prop where
  locked : ∀ item ∈ store.reservations.rows, Locked store item
  engaged : ∀ item ∈ store.reservations.rows, item.activeCommitmentId ≠ none →
    item.state ∈ engaged
  known : ∀ row ∈ store.commitments.rows, ∃ item ∈ store.reservations.rows,
    item.reservationId = row.reservationId

theorem engaged_of_allowed {s next : ReservationState} (old : s ∈ engaged)
    (allowed : next ∈ allowedTransitions s) : next ∈ engaged ∨ next ∈ released := by
  cases s <;> cases next <;> revert old allowed <;> decide

theorem not_released_of_engaged {state : ReservationState} (old : state ∈ engaged) :
    state ∉ released := by
  cases state <;> revert old <;> decide

theorem CommitmentsKept.follow {store : ScheduledStore} (kept : CommitmentsKept store) :
    CommitmentsFollow store := by
  intro item held
  have locked := kept.locked item held
  refine ⟨locked, fun withdrawn => ?_⟩
  have free : item.activeCommitmentId = none := by
    by_contra active
    exact not_released_of_engaged (kept.engaged item held active) withdrawn
  unfold Locked at locked
  rw [free] at locked
  exact List.map_eq_nil_iff.1 locked

section

variable {config : ScheduledConfig} {store t : ScheduledStore} {commitment : DriverCommitment}
  {item : ScheduledReservation} {reservationId : Uuid} {action : ScheduledAction}

theorem committedOf_of_same (commitments : t.commitments = store.commitments)
    (reservationId : Uuid) : committedOf t reservationId = committedOf store reservationId := by
  unfold committedOf
  rw [commitments]

theorem committedOf_of_append
    (commitments : t.commitments.rows = store.commitments.rows ++ [commitment])
    (committed : commitment.state = .committed) (reservationId : Uuid) :
    committedOf t reservationId = committedOf store reservationId ++
      (if commitment.reservationId = reservationId then [commitment] else []) := by
  unfold committedOf
  rw [commitments, List.filter_append]
  congr 1
  by_cases own : commitment.reservationId = reservationId
  · rw [if_pos own, List.filter_cons_of_pos (by simp [own, committed])]
    rfl
  · rw [if_neg own, List.filter_cons_of_neg (by simp [own])]
    rfl

theorem CommitmentsKept.opened (kept : CommitmentsKept store)
    (reservations : t.reservations.rows = store.reservations.rows ++ [item])
    (commitments : t.commitments = store.commitments) (free : item.activeCommitmentId = none) :
    CommitmentsKept t := by
  have absent := Table.find_eq_none.1 (Table.find_eq_none_of_rows_append reservations)
  refine ⟨fun other held => ?_, fun other held active => ?_, fun row added => ?_⟩
  · unfold Locked
    rw [committedOf_of_same commitments]
    rcases (mem_appended reservations).1 held with earlier | rfl
    · exact kept.locked other earlier
    · have unknown : committedOf store other.reservationId = [] := by
        refine List.filter_eq_nil_iff.2 fun row mem => ?_
        obtain ⟨known, held, own⟩ := kept.known row mem
        have apart : row.reservationId ≠ other.reservationId := fun same =>
          absent known held (own.trans same)
        simp [apart]
      rw [unknown, free]
      rfl
  · rcases (mem_appended reservations).1 held with earlier | rfl
    · exact kept.engaged other earlier active
    · exact absurd free active
  · rw [commitments] at added
    obtain ⟨known, held, own⟩ := kept.known row added
    rw [reservations]
    exact ⟨known, List.mem_append_left _ held, own⟩

theorem known_of_replaced {new : ScheduledReservation} {id : Uuid}
    (reservations : t.reservations.rows = store.reservations.replaced new)
    (known : ∃ item ∈ store.reservations.rows, item.reservationId = id) :
    ∃ item ∈ t.reservations.rows, item.reservationId = id := by
  obtain ⟨item, held, own⟩ := known
  rw [reservations]
  by_cases replaced : item.reservationId = new.reservationId
  · exact ⟨new, Table.mem_replaced.2 (.inl ⟨rfl, item, held, replaced⟩), replaced.symm.trans own⟩
  · exact ⟨item, Table.mem_replaced.2 (.inr ⟨held, replaced⟩), own⟩

theorem CommitmentsKept.mutated {target : Option ReservationState}
    (kept : CommitmentsKept store) (mutates : Mutates store t reservationId target)
    (commitments : t.commitments = store.commitments)
    (leaves : ∀ next ∈ target, next ∈ released → ∀ item ∈ store.reservations.find reservationId,
      next ∈ allowedTransitions item.state → item.activeCommitmentId = none) :
    CommitmentsKept t := by
  obtain ⟨row, new, found, follows, mutation, rows⟩ := mutates
  have held := Table.mem_of_find found
  refine ⟨fun item mem => ?_, fun item mem active => ?_, fun other added => ?_⟩
  · unfold Locked
    rw [committedOf_of_same commitments]
    rw [rows] at mem
    rcases Table.mem_replaced.1 mem with ⟨rfl, _⟩ | ⟨earlier, _⟩
    · rw [mutation.reservationId, mutation.activeCommitmentId]
      exact kept.locked row held
    · exact kept.locked item earlier
  · rw [rows] at mem
    rcases Table.mem_replaced.1 mem with ⟨rfl, _⟩ | ⟨earlier, _⟩
    · rw [mutation.activeCommitmentId] at active
      have old := kept.engaged row held active
      rw [mutation.state]
      cases target with
      | none => exact old
      | some next =>
        rcases follows next rfl with rfl | allowed
        · exact old
        · rcases engaged_of_allowed old allowed with still | withdrawn
          · exact still
          · exact absurd (leaves next rfl withdrawn row found allowed) active
    · exact kept.engaged item earlier active
  · rw [commitments] at added
    exact known_of_replaced rows (kept.known other added)

theorem CommitmentsKept.committed {reservation row : ScheduledReservation}
    (kept : CommitmentsKept store)
    (unlocked : Unlocked store reservation row)
    (own : commitment.reservationId = reservation.reservationId)
    (state : commitment.state = .committed)
    (commitments : t.commitments.rows = store.commitments.rows ++ [commitment])
    (reservations : t.reservations.rows =
      store.reservations.replaced (committedRow row commitment)) : CommitmentsKept t := by
  obtain ⟨found, _, free⟩ := unlocked
  have held := Table.mem_of_find found
  have named : row.reservationId = reservation.reservationId := id_of_find found
  refine ⟨fun item mem => ?_, fun item mem active => ?_, fun other added => ?_⟩
  · unfold Locked
    rw [committedOf_of_append commitments state]
    rw [reservations] at mem
    rcases Table.mem_replaced.1 mem with ⟨rfl, _⟩ | ⟨earlier, other⟩
    · have empty := kept.locked row held
      unfold Locked at empty
      rw [free] at empty
      have mine : commitment.reservationId = (committedRow row commitment).reservationId :=
        own.trans named.symm
      rw [if_pos mine, List.map_append]
      exact congrArg (· ++ [commitment.commitmentId]) empty
    · have apart : commitment.reservationId ≠ item.reservationId := fun same =>
        other (same.symm.trans (own.trans named.symm))
      rw [if_neg apart, List.append_nil]
      exact kept.locked item earlier
  · rw [reservations] at mem
    rcases Table.mem_replaced.1 mem with ⟨rfl, _⟩ | ⟨earlier, _⟩
    · exact List.mem_cons_self
    · exact kept.engaged item earlier active
  · rcases (mem_appended commitments).1 added with earlier | rfl
    · exact known_of_replaced reservations (kept.known other earlier)
    · exact known_of_replaced reservations ⟨row, held, named.trans own.symm⟩

theorem step_keeps_commitments (leaves : LeavesCommitted store action)
    (kept : CommitmentsKept store) : CommitmentsKept (scheduledStep config store action) := by
  have effect := step_effect config store action
  generalize scheduledStep config store action = t at effect
  cases effect with
  | kept reservations participants commitments =>
    refine ⟨?_, ?_, ?_⟩
    · intro item mem
      unfold Locked
      rw [committedOf_of_same commitments]
      exact kept.locked item (reservations ▸ mem)
    · exact reservations ▸ kept.engaged
    · exact reservations ▸ commitments ▸ kept.known
  | opened reservations participants commitments =>
    exact kept.opened reservations commitments rfl
  | mutated asked granted mutates participants commitments =>
    exact kept.mutated mutates commitments fun next written withdrawn item found allowed =>
      leaves _ asked next written withdrawn item found allowed (granted item found)
  | answered pending mutates held role participants commitments =>
    refine kept.mutated mutates commitments fun next written withdrawn item found allowed => ?_
    by_contra active
    have old := kept.engaged item (Table.mem_of_find found) active
    rw [pending item found] at old
    exact absurd old (by decide)
  | committed unlocked commitments reservations =>
    exact kept.committed unlocked rfl rfl commitments reservations
  | planned selects free unlocked reservations participants commitments =>
    exact kept.mutated (mutates_of_planned unlocked reservations) commitments nofun

theorem withdrawn_of_asked {target : ReservationState}
    (asked : asks action = some (reservationId, some target)) (withdrawn : target ∈ released)
    (found : store.reservations.find reservationId = some item)
    (allowed : target ∈ allowedTransitions item.state) (granted : Granted store action item) :
    Mutates store (scheduledStep config store action) reservationId (some target) ∧
      (scheduledStep config store action).commitments = store.commitments := by
  have follows : Follows item.state (some target) := by
    rintro _ ⟨⟩
    exact .inr allowed
  -- the held reservation is mutated, and the step ends where the mutation does
  have carried : ∀ now : Instant, ∃ answer t,
      mutate item item.version (some target) {} now store = .ok (answer, t) ∧
        Mutates store t reservationId (some target) ∧ t.commitments = store.commitments := by
    intro now
    obtain ⟨answer, t, ran⟩ := exists_mutate_ok found follows {} now rfl
    obtain ⟨mutates, reservations, rfl⟩ := mutates_of_ok found ran
    exact ⟨answer, _, ran, mutates, rfl⟩
  cases action with
  | cancel subject draws =>
    cases asked
    obtain ⟨answer, t, ran, carried⟩ := carried draws.now
    have leaves : item.state ≠ .activatedAsRide ∧ item.state ≠ .fulfilled := by
      revert allowed
      cases item.state <;> decide
    have ends : scheduledStep config store (.cancel subject draws reservationId) = t :=
      commit_of_ok (owned_bind_ok.2 ⟨item, found, granted, require_bind_ok.2 ⟨leaves, ran⟩⟩)
    rwa [ends]
  | driverCommitmentResponse subject draws id accepted =>
    cases accepted with
    | true => cases asked
    | false =>
      cases asked
      obtain ⟨driver, drives, rfl⟩ := granted
      obtain ⟨answer, t, ran, carried⟩ := carried draws.now
      have ends : scheduledStep config store
          (.driverCommitmentResponse subject draws reservationId false item.version) = t :=
        commit_of_ok (committedItem_bind_ok.2 ⟨driver, item, found, drives, ran⟩)
      rwa [ends]
  | moveTo draws =>
    cases asked
    obtain ⟨answer, t, ran, carried⟩ := carried draws.now
    have ends : scheduledStep config store (.moveTo draws reservationId target) = t :=
      commit_of_ok (getReservation_bind_ok.2 (demand_bind_ok.2 ⟨item, found, ran⟩))
    rwa [ends]
  | driverProgress subject draws id ready =>
    cases ready <;> cases asked <;> exact absurd withdrawn (by decide)
  | verifyPickup =>
    cases asked
    exact absurd withdrawn (by decide)
  | update => cases asked
  | supportHandoff => cases asked
  | plan => cases asked
  | create => cases asked
  | confirmOrDecline => cases asked
  | createPickupCode => cases asked
  | commit => cases asked

theorem leaves_of_follow (s : CommitmentsFollow store)
    (follow : CommitmentsFollow (scheduledStep config store action)) :
    LeavesCommitted store action := by
  rintro ⟨reservationId, _⟩ asked target ⟨⟩ withdrawn item found allowed granted
  obtain ⟨mutates, commitments⟩ :=
    withdrawn_of_asked asked withdrawn found allowed granted
  obtain ⟨row, new, read, _, mutation, rows⟩ := mutates
  cases found.symm.trans read
  have held := Table.mem_of_find found
  have written : new ∈ (scheduledStep config store action).reservations.rows := by
    rw [rows]
    exact Table.mem_replaced.2 (.inl ⟨rfl, item, held, mutation.reservationId.symm⟩)
  have none_left := (follow new written).2 (mutation.state ▸ withdrawn)
  rw [mutation.reservationId, committedOf_of_same commitments] at none_left
  have locked := (s item held).1
  unfold Locked at locked
  rw [none_left] at locked
  cases active : item.activeCommitmentId with
  | none => rfl
  | some id =>
    rw [active] at locked
    cases locked

end

theorem commitmentsKept_empty : CommitmentsKept {} :=
  ⟨fun _ held => absurd held List.not_mem_nil, fun _ held => absurd held List.not_mem_nil,
    fun _ held => absurd held List.not_mem_nil⟩

/-- In a run the commitments follow the reservations all along exactly when none of its actions
takes a reservation away from a driver who is committed to it. -/
theorem commitments_follow_iff (config : ScheduledConfig) (actions : List ScheduledAction) :
    (∀ n, CommitmentsFollow (run (scheduledStep config) {} (actions.take n))) ↔
      Along (scheduledStep config) LeavesCommitted {} actions := by
  constructor
  · intro follow
    refine along_of_taken fun n action taken => ?_
    have later := follow (n + 1)
    rw [run_take_succ taken] at later
    exact leaves_of_follow (follow n) later
  · intro along n
    have kept : CommitmentsKept (run (scheduledStep config) {} (actions.take n)) :=
      run_invariant_between (fun _ _ leaves => step_keeps_commitments leaves) along
        (Nat.zero_le n) commitmentsKept_empty
    exact kept.follow

/-! Rider 1 books a ride, and driver 2 is committed to it. -/

def scheduledPolicy : ReservationPolicy where
  version := "scheduled.v1"
  valid := by decide

def keyedDigest (reservationId : Uuid) (code : String) : Digest :=
  code.toList.foldl (fun digest letter => 256 * digest + letter.toNat) reservationId

def scheduledConfig : ScheduledConfig where
  policy := scheduledPolicy
  hash payload := payload.length
  fingerprint := keyedDigest 0
  pickupDigest := keyedDigest
  decisionId reservationId driverId _ := reservationId + driverId

def drawsAt (second : Nat) : Draws where
  now := seconds second
  reservationId := 10
  bookerParticipantId := 1000 + second
  passengerParticipantId := 2000 + second
  contactParticipantId := 3000 + second
  payerParticipantId := 4000 + second
  verificationId := 5000 + second
  rideId := 6000 + second
  softPlanId := 7000 + second
  commitmentId := 8000 + second

def rider : ScheduledSubject := { identityId := 1, identityType := .rider }

def driver : ScheduledSubject := { identityId := 2, identityType := .driver }

def bole : BoundedText 8 128 := ⟨"place.addis.bole", by decide⟩

def saris : BoundedText 8 128 := ⟨"place.addis.saris", by decide⟩

theorem bole_ne_saris : bole ≠ saris := by
  decide

def bookingThrough (channel : PassengerChannel) (contact : Option (BoundedText 16 128))
    (referenced : channel = .identity ↔ contact = none) : CreateCommand where
  pickupPlaceId := bole
  destinationPlaceId := saris
  distinct := bole_ne_saris
  serviceType := "standard"
  service := by decide
  quoteId := 11
  requestedPickupAt := seconds 100000
  passengerChannel := channel
  passengerContactReference := contact
  referenced

def ownBooking : CreateCommand := bookingThrough .identity none (iff_of_true rfl rfl)

def decisionOnDriver : CandidateDecision where
  decisionId := 12
  driverId := 2
  policyVersion := "scheduled.v1"
  conservativeEtaSeconds := 540
  reliabilityBps := ⟨9000, by decide⟩
  fairnessCreditBps := 0
  effectiveReliabilityBps := 9000
  reasonCodes := ["eligible", "conservative_eta", "policy_versioned"]

def plannedReservation : ScheduledReservation :=
  { reservationFor (drawsAt 1) rider ownBooking with
    state := .planning, updatedAt := seconds 2, version := 2, counted := Nat.le_succ 1 }

def committedTrip : List ScheduledAction :=
  [.create rider (drawsAt 1) ownBooking "own-booking", .moveTo (drawsAt 2) 10 .planning,
   .commit (drawsAt 3) plannedReservation decisionOnDriver]

def declinedTrip : List ScheduledAction :=
  committedTrip ++ [.driverCommitmentResponse driver (drawsAt 4) 10 false 3]

/-- The reservation waits for another driver, and the commitment of the one who declined stays. -/
theorem committed_after_decline :
    ¬ ∀ (config : ScheduledConfig) (actions : List ScheduledAction) (n : Nat),
      CommitmentsFollow (run (scheduledStep config) {} (actions.take n)) := by
  intro claimed
  have follow := claimed scheduledConfig declinedTrip 4
  have stays : ∃ item ∈ (run (scheduledStep scheduledConfig) {}
      (declinedTrip.take 4)).reservations.rows, item.state = .reassigning ∧
        (committedOf (run (scheduledStep scheduledConfig) {} (declinedTrip.take 4))
          item.reservationId).length = 1 := by
    decide +kernel
  obtain ⟨item, stored, reassigning, one⟩ := stays
  rw [(follow item stored).2 (reassigning ▸ List.mem_cons_self)] at one
  cases one

end Ayo.Scheduled.Commitments
