/- digest: What each command on reservations checks and writes, and when it succeeds. -/

import Ayo.Scheduled.Integration

namespace Ayo.Scheduled.Effects

open Kernel.UnitOfWork Kernel.KeyedTable Core.Values
open Application (Draws ScheduledConfig commitmentFor)
open Engine Integration Models Repository Scheduled.System

def CommittedDriver (store : ScheduledStore) (reservationId driverId : Uuid) : Prop :=
  (committedOf store reservationId).map DriverCommitment.driverId = [driverId]
deriving Decidable

def Owned (store : ScheduledStore) (subject : ScheduledSubject) (item : ScheduledReservation)
    (bookerOnly allowDriver : Bool) : Prop :=
  item.bookerId = subject.identityId ∨ (bookerOnly = false ∧
      ∃ passenger ∈ passengerOf (participantsOf store item.reservationId),
        passenger.identityId = some subject.identityId) ∨
    (allowDriver = true ∧ CommittedDriver store item.reservationId subject.identityId)

/-- A state that a mutation may write over another. -/
def Follows (s : ReservationState) (target : Option ReservationState) : Prop :=
  ∀ next ∈ target, next = s ∨ next ∈ allowedTransitions s

structure Mutated (row changed : ScheduledReservation) (target : Option ReservationState) :
    Prop where
  reservationId : changed.reservationId = row.reservationId
  bookerId : changed.bookerId = row.bookerId
  state : changed.state = target.getD row.state
  version : changed.version = row.version + 1
  activeCommitmentId : changed.activeCommitmentId = row.activeCommitmentId

section

variable {α : Type} {s t : ScheduledStore} {reservationId : Uuid} {b : α}
  {item : ScheduledReservation} {subject : ScheduledSubject}
  {f : ScheduledReservation → ScheduledTransaction α}

theorem getReservation_bind_ok {f : Option ScheduledReservation → ScheduledTransaction α} :
    (getReservation reservationId >>= f) s = .ok (b, t) ↔
      f (s.reservations.find reservationId) s = .ok (b, t) := by
  unfold getReservation
  simp only [bind_assoc, pure_bind, get_bind_ok]

theorem id_of_find (found : s.reservations.find reservationId = some item) :
    item.reservationId = reservationId :=
  Table.key_of_find found

theorem committedDriverId_bind_ok {f : Option Uuid → ScheduledTransaction α} :
    (committedDriverId reservationId >>= f) s = .ok (b, t) ↔
      (committedOf s reservationId = [] ∧ f none s = .ok (b, t)) ∨
        ∃ driverId, CommittedDriver s reservationId driverId ∧
          f (some driverId) s = .ok (b, t) := by
  unfold committedDriverId CommittedDriver
  simp only [bind_assoc, get_bind_ok]
  cases rows : committedOf s reservationId with
  | nil => simp
  | cons row rest =>
    cases rest with
    | nil => simp
    | cons second others => simp

theorem owned_bind_ok {bookerOnly allowDriver : Bool} :
    (owned subject reservationId bookerOnly allowDriver >>= f) s = .ok (b, t) ↔
      ∃ item, s.reservations.find reservationId = some item ∧
        Owned s subject item bookerOnly allowDriver ∧ f item s = .ok (b, t) := by
  unfold owned Owned
  simp only [bind_assoc, getReservation_bind_ok, steps_ok]
  refine exists_congr fun item => and_congr_right fun found => ?_
  rw [id_of_find found]
  by_cases booked : item.bookerId = subject.identityId
  · simp [booked]
  by_cases rides : bookerOnly = false ∧ ∃ passenger ∈ passengerOf (participantsOf s reservationId),
        passenger.identityId = some subject.identityId
  · rw [if_neg booked, if_pos rides]
    exact ⟨fun rest => ⟨.inr (.inl rides), pure_bind item f ▸ rest⟩,
      fun both => (pure_bind item f).symm ▸ both.2⟩
  rw [if_neg booked, if_neg rides]
  cases allowDriver with
  | false =>
    refine iff_of_false (by simp) ?_
    rintro ⟨books | passengers | ⟨drives, _⟩, _⟩
    · exact booked books
    · exact rides passengers
    · cases drives
  | true =>
    rw [if_pos rfl]
    simp only [bind_assoc, committedDriverId_bind_ok, require_bind_ok, pure_bind,
      Option.some.injEq, reduceCtorEq, false_and, and_false, false_or]
    constructor
    · rintro ⟨driverId, drives, rfl, rest⟩
      exact ⟨.inr (.inr ⟨trivial, drives⟩), rest⟩
    · rintro ⟨books | passengers | ⟨_, drives⟩, rest⟩
      · exact absurd books booked
      · exact absurd passengers rides
      · exact ⟨_, drives, rfl, rest⟩

theorem committedItem_bind_ok :
    (committedItem subject reservationId >>= f) s = .ok (b, t) ↔ subject.identityType = .driver ∧
      ∃ item, s.reservations.find reservationId = some item ∧
        CommittedDriver s reservationId subject.identityId ∧ f item s = .ok (b, t) := by
  unfold committedItem requireType
  simp only [bind_assoc, require_bind_ok, owned_bind_ok, committedDriverId_bind_ok, pure_bind,
    Option.some.injEq, reduceCtorEq, false_and, and_false, false_or]
  refine and_congr_right fun _ => exists_congr fun item => and_congr_right fun found => ?_
  constructor
  · rintro ⟨_, driverId, drives, rfl, rest⟩
    exact ⟨drives, rest⟩
  · rintro ⟨drives, rest⟩
    exact ⟨.inr (.inr ⟨rfl, (id_of_find found).symm ▸ drives⟩), _, drives, rfl, rest⟩

theorem committedItem_ok : committedItem subject reservationId s = .ok (item, t) ↔
      subject.identityType = .driver ∧ s.reservations.find reservationId = some item ∧
        CommittedDriver s reservationId subject.identityId ∧ t = s := by
  have whole : (committedItem subject reservationId >>= fun item => pure item) s = .ok (item, t) ↔
      _ := committedItem_bind_ok
  rw [bind_pure] at whole
  rw [whole]
  constructor
  · rintro ⟨driver, other, found, drives, finished⟩
    obtain ⟨rfl, rfl⟩ := pure_ok.1 finished
    exact ⟨driver, found, drives, rfl⟩
  · rintro ⟨driver, found, drives, rfl⟩
    exact ⟨driver, item, found, drives, pure_ok.2 ⟨rfl, rfl⟩⟩

end

section

variable {s t : ScheduledStore} {target : Option ReservationState} {values : ReservationChanges}
  {now : Instant} {answer item reservation : ScheduledReservation} {expected : Nat}
  {reservationId : Uuid}

theorem mutated_of_changed {row changed : ScheduledReservation}
    (ran : ScheduledReservation.changed? row target values now = some changed) :
    Mutated row changed target := by
  unfold ScheduledReservation.changed? at ran
  dsimp only at ran
  split at ran
  · cases ran
    exact ⟨rfl, rfl, rfl, rfl, rfl⟩
  · cases ran

theorem exists_changed {row : ScheduledReservation} (stays : values.destinationPlaceId = none) :
    ∃ changed, ScheduledReservation.changed? row target values now = some changed := by
  unfold ScheduledReservation.changed?
  rw [stays]
  exact ⟨_, dif_pos row.distinct⟩

theorem mutate_ok :
    mutate item expected target values now s = .ok (answer, t) ↔ Follows item.state target ∧
      ∃ row, s.reservations.find item.reservationId = some row ∧ row.version = expected ∧
        ScheduledReservation.changed? row target values now = some answer ∧
        ∃ reservations : Table ScheduledReservation,
          reservations.rows = s.reservations.replaced answer ∧ t = { s with reservations } := by
  unfold mutate rowAtVersion updateReservation Follows
  simp only [bind_assoc, pure_bind, steps_ok, getReservation_bind_ok, Table.replace?_eq_some]
  constructor
  · rintro ⟨follows, row, found, version, changed, changes, reservations, rows, rfl, rfl⟩
    exact ⟨follows, row, found, version, changes, reservations, rows, rfl⟩
  · rintro ⟨follows, row, found, version, changes, reservations, rows, rfl⟩
    exact ⟨follows, row, found, version, answer, changes, reservations, rows, rfl, rfl⟩

def Mutates (store t : ScheduledStore) (reservationId : Uuid)
    (target : Option ReservationState) : Prop :=
  ∃ row changed, store.reservations.find reservationId = some row ∧ Follows row.state target ∧
    Mutated row changed target ∧ t.reservations.rows = store.reservations.replaced changed

theorem mutates_of_ok (found : s.reservations.find reservationId = some item)
    (ran : mutate item expected target values now s = .ok (answer, t)) :
    Mutates s t reservationId target ∧ ∃ reservations, t = { s with reservations } := by
  obtain ⟨follows, row, read, _, changes, reservations, rows, rfl⟩ := mutate_ok.1 ran
  rw [id_of_find found, found] at read
  cases read
  exact ⟨⟨item, answer, found, follows, mutated_of_changed changes, rows⟩, reservations, rfl⟩

theorem exists_mutate_ok (found : s.reservations.find reservationId = some item)
    (follows : Follows item.state target) (values : ReservationChanges) (now : Instant)
    (stays : values.destinationPlaceId = none) :
    ∃ answer t, mutate item item.version target values now s = .ok (answer, t) := by
  obtain ⟨new, changes⟩ := exists_changed stays
  obtain ⟨reservations, rows⟩ := s.reservations.exists_replaced new fun a b same => same
  refine ⟨new, { s with reservations }, mutate_ok.2 ⟨follows, item, ?_, rfl, changes,
    reservations, rows, rfl⟩⟩
  rw [id_of_find found]
  exact found

def committedRow (row : ScheduledReservation) (commitment : DriverCommitment) :
    ScheduledReservation :=
  { row with
    activeCommitmentId := some commitment.commitmentId, state := .driverCommitted,
    updatedAt := commitment.committedAt, version := row.version + 1,
    counted := row.next_counted }

def plannedRow (row reservation : ScheduledReservation) (plan : SoftPlan) : ScheduledReservation :=
  { row with
    activeSoftPlanId := some plan.softPlanId,
    softReplacementCount := reservation.softReplacementCount +
      (if plan.supersedesSoftPlanId.isSome then 1 else 0),
    updatedAt := plan.selectedAt, version := row.version + 1,
    counted := row.next_counted }

def Unlocked (store : ScheduledStore) (reservation row : ScheduledReservation) : Prop :=
  store.reservations.find reservation.reservationId = some row ∧
    row.version = reservation.version ∧ row.activeCommitmentId = none

theorem commit_ok {config : ScheduledConfig} {draws : Draws} {decision : CandidateDecision} :
    Application.commit config draws reservation decision s = .ok (answer, t) ↔
      ∃ commitments : Table DriverCommitment, commitments.rows =
          s.commitments.rows ++ [commitmentFor config draws reservation decision] ∧
        ∃ row, Unlocked s reservation row ∧
          answer = committedRow row (commitmentFor config draws reservation decision) ∧
          ∃ reservations : Table ScheduledReservation,
            reservations.rows = s.reservations.replaced answer ∧
            t = { s with commitments, reservations } := by
  unfold Application.commit commitDriver unlockedRow rowAtVersion updateReservation Unlocked
    committedRow
  simp only [bind_assoc, pure_bind, steps_ok, getReservation_bind_ok, Table.insert?_eq_some,
    Table.replace?_eq_some]
  constructor
  · rintro ⟨commitments, added, row, found, version, free, reservations, rows, rfl, rfl⟩
    exact ⟨commitments, added, row, ⟨found, version, free⟩, rfl, reservations, rows, rfl⟩
  · rintro ⟨commitments, added, row, ⟨found, version, free⟩, rfl, reservations, rows, rfl⟩
    exact ⟨commitments, added, row, found, version, free, reservations, rows, rfl, rfl⟩

theorem saveSoftPlan_ok {plan : SoftPlan} :
    saveSoftPlan reservation plan reservation.version s = .ok (answer, t) ↔
      ∃ softPlans : Table SoftPlan, softPlans.rows = s.softPlans.rows ++ [plan] ∧
        ∃ row, Unlocked s reservation row ∧ answer = plannedRow row reservation plan ∧
          ∃ reservations : Table ScheduledReservation,
            reservations.rows = s.reservations.replaced answer ∧
            t = { s with softPlans, reservations } := by
  unfold saveSoftPlan unlockedRow rowAtVersion updateReservation Unlocked plannedRow
  simp only [bind_assoc, pure_bind, steps_ok, getReservation_bind_ok, Table.insert?_eq_some,
    Table.replace?_eq_some]
  constructor
  · rintro ⟨softPlans, added, row, found, version, free, reservations, rows, rfl, rfl⟩
    exact ⟨softPlans, added, row, ⟨found, version, free⟩, rfl, reservations, rows, rfl⟩
  · rintro ⟨softPlans, added, row, ⟨found, version, free⟩, rfl, reservations, rows, rfl⟩
    exact ⟨softPlans, added, row, found, version, free, reservations, rows, rfl, rfl⟩

end

section

variable (config : ScheduledConfig) (draws : Draws) (reservation : ScheduledReservation)
  (candidates : List ScheduledCandidate) (incumbent : Option CandidateDecision)

def selection : Option CandidateDecision :=
  (rank config.policy config.decisionId reservation candidates draws.now).head?.filter
    fun selected => ∀ current ∈ incumbent,
      (shouldReplaceSoftCandidate config.policy current selected reservation).1 = true

def softPlanFor (decision : CandidateDecision) : SoftPlan where
  softPlanId := draws.softPlanId
  reservationId := reservation.reservationId
  driverId := decision.driverId
  decision
  selectedAt := draws.now
  expiresAt := draws.now + seconds config.policy.softPlanningLeadSeconds
  supersedesSoftPlanId := none

variable {config draws reservation candidates incumbent} {s t : ScheduledStore}
  {answer : ScheduledReservation}

theorem plan_of_selection {decision : CandidateDecision}
    (selects : selection config draws reservation candidates incumbent = some decision) :
    Application.plan config draws reservation candidates incumbent s = .ok (answer, t) ↔
      reservation.activeCommitmentId = none ∧
        saveSoftPlan reservation (softPlanFor config draws reservation decision)
          reservation.version s = .ok (answer, t) := by
  obtain ⟨first, replaces⟩ := Option.filter_eq_some_iff.1 selects
  obtain ⟨rest, ranked⟩ := List.head?_eq_some_iff.1 first
  unfold Application.plan
  rw [ranked]
  simp only [if_pos (of_decide_eq_true replaces), planSoftCandidate, bind_assoc, pure_bind,
    require_bind_ok]
  rfl

theorem plan_of_no_selection
    (refuses : selection config draws reservation candidates incumbent = none) :
    ReadOnly (Application.plan config draws reservation candidates incumbent) := by
  intro s answer t ran
  unfold Application.plan transition at ran
  unfold selection at refuses
  cases ranked : rank config.policy config.decisionId reservation candidates draws.now with
  | nil =>
    rw [ranked] at ran
    simp only [steps_ok] at ran
    exact ran.2.2
  | cons selected rest =>
    rw [ranked] at ran refuses
    have stays := Option.filter_eq_none_iff.1 refuses selected rfl
    rw [decide_eq_true_eq] at stays
    dsimp only at ran
    rw [if_neg stays] at ran
    exact (pure_ok.1 ran).2

end

def asks : ScheduledAction → Option (Uuid × Option ReservationState)
  | .update _ _ reservationId _ | .supportHandoff _ _ reservationId => some (reservationId, none)
  | .cancel _ _ reservationId => some (reservationId, some .riderCancelled)
  | .verifyPickup _ _ reservationId _ => some (reservationId, some .activatedAsRide)
  | .driverCommitmentResponse _ _ reservationId accepted _ =>
    some (reservationId, if accepted = true then none else some .reassigning)
  | .driverProgress _ _ reservationId ready =>
    some (reservationId, some (if ready = true then .readyForPickup else .driverEnRoute))
  | .moveTo _ reservationId target => some (reservationId, some target)
  | .create _ _ _ _ | .confirmOrDecline _ _ _ _ _ | .createPickupCode _ _ _ | .plan _ _ _ _
  | .commit _ _ _ => none

def Granted (store : ScheduledStore) : ScheduledAction → ScheduledReservation → Prop
  | .cancel subject _ _, item => Owned store subject item false false
  | .driverCommitmentResponse subject _ reservationId _ expectedVersion, item =>
    subject.identityType = .driver ∧ CommittedDriver store reservationId subject.identityId ∧
      item.version = expectedVersion
  | _, _ => True

def consentOf (confirmed : Bool) : ConsentState :=
  if confirmed = true then .confirmed else .declined

def answerOf (confirmed : Bool) : ReservationState :=
  if confirmed = true then .accepted else .passengerDeclined

def codedRow (config : ScheduledConfig) (draws : Draws) (reservationId : Uuid) (code : String) :
    PickupVerification where
  verificationId := draws.verificationId
  reservationId
  codeHash := config.pickupDigest reservationId code
  expiresAt := draws.now + seconds (10 * 60)
  createdAt := draws.now

def verifiedRow (row : PickupVerification) (now : Instant) : PickupVerification :=
  { row with verifiedAt := some now }

inductive PinEffect (config : ScheduledConfig) (store t : ScheduledStore) :
    ScheduledAction → Prop where
  | kept {action : ScheduledAction} (same : t.verifications = store.verifications) :
      PinEffect config store t action
  | coded {draws : Draws} {reservationId : Uuid} {code : String}
      (rows : t.verifications.rows =
        store.verifications.rows ++ [codedRow config draws reservationId code]) :
      PinEffect config store t (.createPickupCode draws reservationId code)
  | verified {subject : ScheduledSubject} {draws : Draws} {reservationId : Uuid} {code : String}
      {row : PickupVerification} (compares : comparable store reservationId draws.now = some row)
      (rows : t.verifications.rows =
        store.verifications.replaced (verifiedRow row draws.now)) :
      PinEffect config store t (.verifyPickup subject draws reservationId code)

/-- What one action does to the reservations, their participants, their commitments and their soft
plans. -/
inductive ScheduledEffect (config : ScheduledConfig) (store t : ScheduledStore) :
    ScheduledAction → Prop where
  | kept {action : ScheduledAction} (reservations : t.reservations = store.reservations)
      (participants : t.participants = store.participants)
      (commitments : t.commitments = store.commitments)
      (softPlans : t.softPlans = store.softPlans)
      (pins : PinEffect config store t action) :
      ScheduledEffect config store t action
  | opened {subject : ScheduledSubject} {draws : Draws} {command : CreateCommand} {key : String}
      (reservations : t.reservations.rows =
        store.reservations.rows ++ [reservationFor draws subject command])
      (participants : t.participants.rows = store.participants.rows ++
        (participantsFor draws subject command).map (ParticipantRow.mk draws.reservationId))
      (commitments : t.commitments = store.commitments)
      (softPlans : t.softPlans = store.softPlans)
      (verifications : t.verifications = store.verifications) :
      ScheduledEffect config store t (.create subject draws command key)
  | mutated {action : ScheduledAction} {reservationId : Uuid} {target : Option ReservationState}
      (asked : asks action = some (reservationId, target))
      (granted : ∀ item ∈ store.reservations.find reservationId, Granted store action item)
      (mutates : Mutates store t reservationId target)
      (participants : t.participants = store.participants)
      (commitments : t.commitments = store.commitments)
      (softPlans : t.softPlans = store.softPlans)
      (pins : PinEffect config store t action) :
      ScheduledEffect config store t action
  | answered {resolver : PassengerResolver} {subject : ScheduledSubject} {draws : Draws}
      {reservationId : Uuid} {confirmed : Bool} {passenger : Participant}
      (pending : ∀ item ∈ store.reservations.find reservationId,
        item.state = .passengerConfirmationPending)
      (mutates : Mutates store t reservationId (some (answerOf confirmed)))
      (stored : ⟨reservationId, passenger⟩ ∈ store.participants.rows)
      (role : passenger.role = .passenger)
      (participants : t.participants.rows = store.participants.replaced
        ⟨reservationId, { passenger with consentState := consentOf confirmed }⟩)
      (commitments : t.commitments = store.commitments)
      (softPlans : t.softPlans = store.softPlans)
      (verifications : t.verifications = store.verifications) :
      ScheduledEffect config store t
        (.confirmOrDecline resolver subject draws reservationId confirmed)
  | committed {draws : Draws} {reservation row : ScheduledReservation}
      {decision : CandidateDecision} (unlocked : Unlocked store reservation row)
      (commitments : t.commitments.rows =
        store.commitments.rows ++ [commitmentFor config draws reservation decision])
      (reservations : t.reservations.rows = store.reservations.replaced
        (committedRow row (commitmentFor config draws reservation decision)))
      (participants : t.participants = store.participants)
      (softPlans : t.softPlans = store.softPlans)
      (verifications : t.verifications = store.verifications) :
      ScheduledEffect config store t (.commit draws reservation decision)
  | planned {draws : Draws} {reservation row : ScheduledReservation}
      {candidates : List ScheduledCandidate} {incumbent : Option CandidateDecision}
      {decision : CandidateDecision}
      (selects : selection config draws reservation candidates incumbent = some decision)
      (free : reservation.activeCommitmentId = none) (unlocked : Unlocked store reservation row)
      (reservations : t.reservations.rows = store.reservations.replaced
        (plannedRow row reservation (softPlanFor config draws reservation decision)))
      (participants : t.participants = store.participants)
      (commitments : t.commitments = store.commitments)
      (softPlans : t.softPlans.rows =
        store.softPlans.rows ++ [softPlanFor config draws reservation decision])
      (verifications : t.verifications = store.verifications) :
      ScheduledEffect config store t (.plan draws reservation candidates incumbent)

theorem mutates_of_planned {store t : ScheduledStore} {reservation row : ScheduledReservation}
    {plan : SoftPlan} (unlocked : Unlocked store reservation row)
    (rows : t.reservations.rows = store.reservations.replaced (plannedRow row reservation plan)) :
    Mutates store t reservation.reservationId none :=
  ⟨row, plannedRow row reservation plan, unlocked.1, nofun, ⟨rfl, rfl, rfl, rfl, rfl⟩, rows⟩

section

variable {config : ScheduledConfig} {s t : ScheduledStore} {draws : Draws}
  {subject : ScheduledSubject} {reservationId : Uuid} {answer reservation : ScheduledReservation}
  {action : ScheduledAction} {code : String}

private theorem mutated_of_ok {item : ScheduledReservation} {expected : Nat}
    {target : Option ReservationState} {values : ReservationChanges} {now : Instant}
    (asked : asks action = some (reservationId, target))
    (found : s.reservations.find reservationId = some item) (granted : Granted s action item)
    (ran : mutate item expected target values now s = .ok (answer, t)) :
    ScheduledEffect config s t action := by
  obtain ⟨mutates, reservations, rfl⟩ := mutates_of_ok found ran
  refine .mutated asked (fun other read => ?_) mutates rfl rfl rfl (.kept rfl)
  cases found.symm.trans read
  exact granted

theorem oneOfRole_ok {participants : List Participant} {role : ParticipantRole}
    {found : Participant} (ran : Application.oneOfRole participants role s = .ok (found, t)) :
    (participants.filter fun participant => participant.role = role) = [found] ∧ t = s := by
  unfold Application.oneOfRole at ran
  cases rows : participants.filter fun participant => participant.role = role with
  | nil =>
    rw [rows] at ran
    exact (throw_ok.1 ran).elim
  | cons first rest =>
    rw [rows] at ran
    cases rest with
    | nil =>
      obtain ⟨rfl, rfl⟩ := pure_ok.1 ran
      exact ⟨rfl, rfl⟩
    | cons second others => exact (throw_ok.1 ran).elim

theorem create_effect {command : CreateCommand} {key : String}
    {answer : ScheduledReservation × Bool}
    (ran : Integration.create config draws subject command key s = .ok (answer, t)) :
    ScheduledEffect config s t (.create subject draws command key) := by
  unfold Integration.create requireType Application.create Repository.create insertReservation
    insertParticipants insertRecord at ran
  simp only [bind_assoc, require_bind_ok] at ran
  obtain ⟨_, _, asked⟩ := ran
  obtain ⟨booker, between, read, asked⟩ := bind_ok.1 asked
  cases (oneOfRole_ok read).2
  obtain ⟨passenger, between, read, asked⟩ := bind_ok.1 asked
  cases (oneOfRole_ok read).2
  simp only [steps_ok, whenSome_ok] at asked
  obtain ⟨_, _, ⟨_, _, _, _, _, _, rfl⟩ | ⟨_, written⟩⟩ := asked
  · exact .kept rfl rfl rfl rfl (.kept rfl)
  · obtain ⟨_, inserted, _⟩ := bind_pure_ok.1 written
    simp only [recast_ok, steps_ok, Table.insert?_eq_some, Table.insertAll?_eq_some] at inserted
    obtain ⟨reservations, opened, participants, joined, records, _, rfl⟩ := inserted
    refine .opened opened ?_ rfl rfl rfl
    rw [joined]
    rfl

theorem confirmOrDecline_effect {resolver : PassengerResolver} {confirmed : Bool}
    (ran : confirmOrDecline draws subject reservationId resolver confirmed s = .ok (answer, t)) :
    ScheduledEffect config s t
      (.confirmOrDecline resolver subject draws reservationId confirmed) := by
  unfold confirmOrDecline recordConsent updateParticipant at ran
  simp only [bind_assoc, getReservation_bind_ok, steps_ok, Table.replace?_eq_some] at ran
  obtain ⟨item, found, waits, passenger, asked, _, role, participants, joined, mutated⟩ := ran
  obtain ⟨mutates, reservations, rfl⟩ := mutates_of_ok (s := { s with participants }) found mutated
  have mem : passenger ∈ participantsOf s reservationId := List.mem_of_find?_eq_some asked
  obtain ⟨row, listed, rfl⟩ := List.mem_map.1 mem
  obtain ⟨held, own⟩ := List.mem_filter.1 listed
  obtain ⟨id, passenger⟩ := row
  obtain rfl : id = reservationId := of_decide_eq_true own
  rw [id_of_find found] at joined
  refine .answered (fun other read => ?_) mutates held role joined rfl rfl rfl
  cases found.symm.trans read
  exact waits

theorem commit_effect {decision : CandidateDecision}
    (ran : Application.commit config draws reservation decision s = .ok (answer, t)) :
    ScheduledEffect config s t (.commit draws reservation decision) := by
  obtain ⟨commitments, added, row, unlocked, rfl, reservations, rows, rfl⟩ := commit_ok.1 ran
  exact .committed unlocked added rows rfl rfl rfl

theorem plan_effect {candidates : List ScheduledCandidate} {incumbent : Option CandidateDecision}
    (ran : Application.plan config draws reservation candidates incumbent s = .ok (answer, t)) :
    ScheduledEffect config s t (.plan draws reservation candidates incumbent) := by
  cases selects : selection config draws reservation candidates incumbent with
  | none =>
    cases plan_of_no_selection selects s answer t ran
    exact .kept rfl rfl rfl rfl (.kept rfl)
  | some decision =>
    obtain ⟨free, saved⟩ := (plan_of_selection selects).1 ran
    obtain ⟨softPlans, added, row, unlocked, rfl, reservations, rows, rfl⟩ :=
      saveSoftPlan_ok.1 saved
    exact .planned selects free unlocked rows rfl rfl added rfl

theorem verifyPickup_ok
    (ran : Integration.verifyPickup config draws subject reservationId code s = .ok (answer, t)) :
    ∃ item row, s.reservations.find reservationId = some item ∧
      comparable s reservationId draws.now = some row ∧
      row.codeHash = config.pickupDigest reservationId code ∧
      ∃ verifications : Table PickupVerification,
        verifications.rows = s.verifications.replaced (verifiedRow row draws.now) ∧
        mutate item item.version (some .activatedAsRide) { activatedRideId := some draws.rideId }
          draws.now { s with verifications } = .ok (answer, t) := by
  obtain ⟨_, item, found, _, asked⟩ := committedItem_bind_ok.1 ran
  obtain ⟨result, between, compared, decided⟩ := bind_ok.1 asked
  obtain ⟨rfl, mutated⟩ := require_bind_ok.1 decided
  unfold Repository.verifyPickup updateVerification at compared
  rw [id_of_find found] at compared
  simp only [bind_assoc, steps_ok, whenSome_ok, Table.replace?_eq_some, reduceCtorEq, false_and,
    and_false, or_false, decide_eq_true_eq]
    at compared
  obtain ⟨row, comparing, verifications, rows, same, rfl⟩ := compared
  refine ⟨item, row, found, comparing, same, verifications, ?_, mutated⟩
  simpa [same, verifiedRow] using rows

theorem verifyPickup_effect
    (ran : Integration.verifyPickup config draws subject reservationId code s = .ok (answer, t)) :
    ScheduledEffect config s t (.verifyPickup subject draws reservationId code) := by
  obtain ⟨item, row, found, comparing, _, verifications, rows, mutated⟩ := verifyPickup_ok ran
  obtain ⟨mutates, reservations, rfl⟩ := mutates_of_ok (s := { s with verifications }) found mutated
  exact .mutated rfl (fun _ _ => trivial) mutates rfl rfl rfl (.verified comparing rows)

private theorem effect_of_commit {α : Type} {body : ScheduledTransaction α}
    (ran : ∀ a t, body s = .ok (a, t) → ScheduledEffect config s t action) :
    ScheduledEffect config s (commit body s) action :=
  commit_related (R := fun s t => ScheduledEffect config s t action) body s
    (.kept rfl rfl rfl rfl (.kept rfl)) ran

theorem step_effect (config : ScheduledConfig) (store : ScheduledStore) (action : ScheduledAction) :
    ScheduledEffect config store (scheduledStep config store action) action := by
  cases action with
  | create =>
    exact effect_of_commit fun _ _ => create_effect
  | update =>
    refine effect_of_commit fun _ _ ran => ?_
    unfold update requireStepUp at ran
    simp only [require_bind_ok, owned_bind_ok] at ran
    obtain ⟨_, item, found, _, _, mutated⟩ := ran
    exact mutated_of_ok rfl found trivial mutated
  | confirmOrDecline =>
    exact effect_of_commit fun _ _ => confirmOrDecline_effect
  | cancel =>
    refine effect_of_commit fun _ _ ran => ?_
    obtain ⟨item, found, owned, allowed⟩ := owned_bind_ok.1 ran
    exact mutated_of_ok rfl found owned (require_bind_ok.1 allowed).2
  | createPickupCode =>
    refine effect_of_commit fun _ _ ran => ?_
    unfold createPickupCode createPickupVerification at ran
    simp only [steps_ok] at ran
    obtain ⟨verifications, added, rfl⟩ := ran
    exact .kept rfl rfl rfl rfl (.coded (Table.insert?_eq_some.1 added))
  | verifyPickup =>
    exact effect_of_commit fun _ _ => verifyPickup_effect
  | driverCommitmentResponse subject draws reservationId accepted expected =>
    refine effect_of_commit fun _ _ ran => ?_
    obtain ⟨driver, item, found, drives, mutated⟩ := committedItem_bind_ok.1 ran
    have version : item.version = expected := by
      obtain ⟨_, row, read, version, _⟩ := mutate_ok.1 mutated
      rw [id_of_find found, found] at read
      cases read
      exact version
    exact mutated_of_ok rfl found ⟨driver, drives, version⟩ mutated
  | driverProgress =>
    refine effect_of_commit fun _ _ ran => ?_
    obtain ⟨_, asked⟩ := require_bind_ok.1 ran
    obtain ⟨item, found, _, mutated⟩ := owned_bind_ok.1 asked
    exact mutated_of_ok rfl found trivial mutated
  | supportHandoff =>
    refine effect_of_commit fun _ _ ran => ?_
    unfold supportHandoff requireStepUp at ran
    simp only [steps_ok, getReservation_bind_ok] at ran
    obtain ⟨_, _, item, found, mutated⟩ := ran
    exact mutated_of_ok rfl found trivial mutated
  | plan =>
    exact effect_of_commit fun _ _ => plan_effect
  | commit =>
    exact effect_of_commit fun _ _ => commit_effect
  | moveTo =>
    refine effect_of_commit fun _ _ ran => ?_
    unfold moveTo at ran
    simp only [getReservation_bind_ok, demand_bind_ok] at ran
    obtain ⟨item, found, mutated⟩ := ran
    exact mutated_of_ok rfl found trivial mutated

theorem step_pins (config : ScheduledConfig) (store : ScheduledStore) (action : ScheduledAction) :
    PinEffect config store (scheduledStep config store action) action := by
  cases step_effect config store action with
  | kept reservations participants commitments softPlans pins => exact pins
  | opened reservations participants commitments softPlans verifications =>
    exact .kept verifications
  | mutated asked granted mutates participants commitments softPlans pins => exact pins
  | answered pending mutates held role participants commitments softPlans verifications =>
    exact .kept verifications
  | committed unlocked commitments reservations participants softPlans verifications =>
    exact .kept verifications
  | planned selects free unlocked reservations participants commitments softPlans verifications =>
    exact .kept verifications

end

end Ayo.Scheduled.Effects
