/- digest: A code is guessed at exactly as often as its driver tries. -/

import Ayo.Scheduled.Commitments

namespace Ayo.Scheduled.PickupCodes

open Kernel.KeyedTable Core.Values
open Application (ScheduledConfig)
open Commitments Effects Integration Models Repository Scheduled.System

def wrongComparison (config : ScheduledConfig) (store : ScheduledStore) :
    ScheduledAction → Option PickupVerification
  | .verifyPickup subject draws reservationId code =>
    match committedItem subject reservationId store with
    | .ok (item, _) =>
      (comparable store item.reservationId draws.now).filter fun row =>
        row.codeHash ≠ config.pickupDigest reservationId code
    | .error _ => none
  | _ => none

def openVerification (store : ScheduledStore) (reservationId : Uuid) (now : Instant) :
    Option PickupVerification :=
  (store.verifications.rows.find? fun row => row.reservationId = reservationId).filter fun row =>
    row.verifiedAt = none ∧ now < row.expiresAt

/-- The open verification of the reservation, for which its committed driver passes another code. -/
def wrongGuess (config : ScheduledConfig) (store : ScheduledStore) :
    ScheduledAction → Option PickupVerification
  | .verifyPickup subject draws reservationId code =>
    if subject.identityType = .driver ∧ (store.reservations.find reservationId).isSome = true ∧
        CommittedDriver store reservationId subject.identityId then
      (openVerification store reservationId draws.now).filter fun row =>
        row.codeHash ≠ config.pickupDigest reservationId code
    else none
  | _ => none

def observed (config : ScheduledConfig)
    (observe : ScheduledStore → ScheduledAction → Option PickupVerification) :
    ScheduledStore → List ScheduledAction → List Uuid
  | _, [] => []
  | store, action :: rest =>
    (observe store action).toList.map PickupVerification.verificationId ++
      observed config observe (scheduledStep config store action) rest

def wrongComparisons (config : ScheduledConfig) (actions : List ScheduledAction) : List Uuid :=
  observed config (wrongComparison config) {} actions

/-- The open verifications for which committed drivers pass other codes in a run. -/
def wrongGuesses (config : ScheduledConfig) (actions : List ScheduledAction) : List Uuid :=
  observed config (wrongGuess config) {} actions

def Uncounted (store : ScheduledStore) : Prop :=
  ∀ row ∈ store.verifications.rows, row.attemptCount = 0

section

variable {config : ScheduledConfig} {store : ScheduledStore}

theorem mem_of_comparable {reservationId : Uuid} {now : Instant} {row : PickupVerification}
    (compares : comparable store reservationId now = some row) : row ∈ store.verifications.rows :=
  List.mem_of_find?_eq_some (Option.filter_eq_some_iff.1 compares).1

theorem step_keeps_uncounted (action : ScheduledAction) (uncounted : Uncounted store) :
    Uncounted (scheduledStep config store action) := by
  have effect := step_pins config store action
  generalize scheduledStep config store action = t at effect
  intro row held
  cases effect with
  | kept same => exact uncounted row (same ▸ held)
  | coded rows =>
    rcases (mem_appended rows).1 held with earlier | rfl
    · exact uncounted row earlier
    · rfl
  | verified compares rows =>
    rw [rows] at held
    rcases Table.mem_replaced.1 held with ⟨rfl, _⟩ | ⟨earlier, _⟩
    · have before := uncounted _ (mem_of_comparable compares)
      exact before
    · exact uncounted row earlier

theorem comparable_eq_open (uncounted : Uncounted store) (reservationId : Uuid) (now : Instant) :
    comparable store reservationId now = openVerification store reservationId now := by
  unfold comparable openVerification
  cases found : store.verifications.rows.find? fun row => row.reservationId = reservationId with
  | none => rfl
  | some row =>
    have left : row.attemptCount < 5 := by
      rw [uncounted row (List.mem_of_find?_eq_some found)]
      decide
    simp [Option.filter, left]

theorem wrongComparison_eq_guess (uncounted : Uncounted store) (action : ScheduledAction) :
    wrongComparison config store action = wrongGuess config store action := by
  cases action with
  | verifyPickup subject draws reservationId =>
    unfold wrongComparison wrongGuess
    dsimp only
    cases answered : committedItem subject reservationId store with
    | error =>
      refine (if_neg ?_).symm
      rintro ⟨driver, found, drives⟩
      obtain ⟨item, found⟩ := Option.isSome_iff_exists.1 found
      have answers := committedItem_ok.2 ⟨driver, found, drives, rfl⟩
      rw [answered] at answers
      cases answers
    | ok answer =>
      obtain ⟨item, between⟩ := answer
      obtain ⟨driver, found, drives, _⟩ := committedItem_ok.1 answered
      rw [if_pos ⟨driver, found ▸ rfl, drives⟩, ← comparable_eq_open uncounted]
      dsimp only
      rw [id_of_find found]
  | _ => rfl

theorem observed_eq (uncounted : Uncounted store) (actions : List ScheduledAction) :
    observed config (wrongComparison config) store actions =
      observed config (wrongGuess config) store actions := by
  induction actions generalizing store with
  | nil => rfl
  | cons action rest ih =>
    unfold observed
    rw [wrongComparison_eq_guess uncounted, ih (step_keeps_uncounted action uncounted)]

end

/-- In a run at most five wrong codes are compared with each verification exactly when its
committed drivers pass at most five of them while the verification is open. -/
theorem wrong_codes_bounded_iff (config : ScheduledConfig) (actions : List ScheduledAction) :
    (∀ verificationId, (wrongComparisons config actions).count verificationId ≤ 5) ↔
      ∀ verificationId, (wrongGuesses config actions).count verificationId ≤ 5 := by
  have empty : Uncounted {} := fun _ stored => absurd stored List.not_mem_nil
  unfold wrongComparisons wrongGuesses
  rw [observed_eq empty]

def guessedPickup : List ScheduledAction :=
  committedTrip ++ [.createPickupCode (drawsAt 4) 10 "123456"] ++
    ["000000", "000001", "000002", "000003", "000004", "000005"].map
      (.verifyPickup driver (drawsAt 5) 10)

theorem compared_six_times :
    ¬ ∀ (config : ScheduledConfig) (actions : List ScheduledAction) (verificationId : Uuid),
      (wrongComparisons config actions).count verificationId ≤ 5 := by
  intro claimed
  have bounded := claimed scheduledConfig guessedPickup 5004
  have six : wrongComparisons scheduledConfig guessedPickup = List.replicate 6 5004 := by
    decide +kernel
  rw [six] at bounded
  exact absurd bounded (by decide)

end Ayo.Scheduled.PickupCodes
