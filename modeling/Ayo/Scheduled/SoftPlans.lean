/- digest: When the soft plans of a reservation stay within the limit. -/

import Ayo.Scheduled.Commitments

namespace Ayo.Scheduled.SoftPlans

open Kernel.UnitOfWork Kernel.KeyedTable Kernel.Run Core.Values
open Application (Draws ScheduledConfig)
open Commitments Effects Integration Models Repository Scheduled.System

def softPlansOf (store : ScheduledStore) (reservationId : Uuid) : List SoftPlan :=
  store.softPlans.rows.filter fun plan => plan.reservationId = reservationId

/-- After the first soft plan of a reservation there are at most as many as may replace it. -/
def PlansWithinLimit (config : ScheduledConfig) (store : ScheduledStore) : Prop :=
  ∀ reservationId, (softPlansOf store reservationId).length - 1 ≤
    config.policy.maximumSoftReplacements

/-- A call of the planner that passes its checks comes before the limit is reached. -/
def AsksWithinLimit (config : ScheduledConfig) (store : ScheduledStore) : ScheduledAction → Prop
  | .plan draws reservation candidates incumbent =>
    (selection config draws reservation candidates incumbent).isSome = true →
    reservation.activeCommitmentId = none → store.softPlans.find draws.softPlanId = none →
    ∀ row ∈ store.reservations.find reservation.reservationId,
      row.version = reservation.version → row.activeCommitmentId = none →
      (softPlansOf store reservation.reservationId).length ≤ config.policy.maximumSoftReplacements
  | _ => True

section

variable {config : ScheduledConfig} {store after : ScheduledStore} {action : ScheduledAction}

theorem softPlansOf_of_same (softPlans : after.softPlans = store.softPlans) (reservationId : Uuid) :
    softPlansOf after reservationId = softPlansOf store reservationId := by
  unfold softPlansOf
  rw [softPlans]

theorem softPlansOf_of_append {plan : SoftPlan}
    (softPlans : after.softPlans.rows = store.softPlans.rows ++ [plan]) (reservationId : Uuid) :
    (softPlansOf after reservationId).length = (softPlansOf store reservationId).length +
      (if plan.reservationId = reservationId then 1 else 0) := by
  unfold softPlansOf
  rw [softPlans, List.filter_append, List.length_append]
  congr 1
  by_cases own : plan.reservationId = reservationId
  · simp [own]
  · simp [own]

theorem step_within_limit (asks : AsksWithinLimit config store action)
    (within : PlansWithinLimit config store) :
    PlansWithinLimit config (scheduledStep config store action) := by
  have effect := step_effect config store action
  generalize scheduledStep config store action = t at effect
  intro reservationId
  cases effect with
  | kept reservations participants commitments softPlans
  | opened reservations participants commitments softPlans
  | mutated asked granted mutates participants commitments softPlans
  | answered pending mutates held role participants commitments softPlans
  | committed unlocked commitments reservations participants softPlans =>
    rw [softPlansOf_of_same softPlans]
    exact within reservationId
  | @planned draws reservation row _ _ decision selects free unlocked reservations participants
      commitments softPlans verifications =>
    have before := within reservationId
    rw [softPlansOf_of_append softPlans]
    by_cases own : (softPlanFor config draws reservation decision).reservationId = reservationId
    · obtain rfl : reservation.reservationId = reservationId := own
      have limited := asks (by rw [selects]; rfl) free (Table.find_eq_none_of_rows_append softPlans)
        row unlocked.1 unlocked.2.1 unlocked.2.2
      have mine : (softPlanFor config draws reservation decision).reservationId =
        reservation.reservationId := rfl
      rw [if_pos mine]
      omega
    · rw [if_neg own]
      exact before

theorem saved_of_asked {draws : Draws} {reservation row : ScheduledReservation}
    {candidates : List ScheduledCandidate} {incumbent : Option CandidateDecision}
    (selects : (selection config draws reservation candidates incumbent).isSome = true)
    (free : reservation.activeCommitmentId = none)
    (fresh : store.softPlans.find draws.softPlanId = none)
    (unlocked : Unlocked store reservation row) :
    (softPlansOf (scheduledStep config store (.plan draws reservation candidates incumbent))
      reservation.reservationId).length =
        (softPlansOf store reservation.reservationId).length + 1 := by
  obtain ⟨decision, selects⟩ := Option.isSome_iff_exists.1 selects
  obtain ⟨softPlans, added⟩ : ∃ softPlans : Table SoftPlan, softPlans.rows =
      store.softPlans.rows ++ [softPlanFor config draws reservation decision] :=
    Table.exists_inserted fun other held same => Table.find_eq_none.1 fresh other held same
  obtain ⟨reservations, rows⟩ := store.reservations.exists_replaced
    (plannedRow row reservation (softPlanFor config draws reservation decision))
    fun a b same => same
  have ends : scheduledStep config store (.plan draws reservation candidates incumbent) =
      { store with softPlans, reservations } :=
    commit_of_ok ((plan_of_selection selects).2 ⟨free, saveSoftPlan_ok.2
      ⟨softPlans, added, row, unlocked, rfl, reservations, rows, rfl⟩⟩)
  rw [ends, softPlansOf_of_append added]
  exact congrArg _ (if_pos rfl)

theorem asks_of_within (within : PlansWithinLimit config (scheduledStep config store action)) :
    AsksWithinLimit config store action := by
  cases action with
  | plan draws reservation =>
    intro selects free fresh row found version unlocked
    have saved := saved_of_asked selects free fresh ⟨found, version, unlocked⟩
    have limited := within reservation.reservationId
    omega
  | _ => trivial

end

/-- In a run the soft plans of every reservation stay within the limit exactly when every call of
the planner that passes its checks comes while at most as many as may be replaced are saved. -/
theorem plans_within_limit_iff (config : ScheduledConfig) (actions : List ScheduledAction) :
    (∀ n, PlansWithinLimit config (run (scheduledStep config) {} (actions.take n))) ↔
      Along (scheduledStep config) (AsksWithinLimit config) {} actions := by
  constructor
  · intro within
    refine along_of_taken fun n action taken => ?_
    have later := within (n + 1)
    rw [run_take_succ taken] at later
    exact asks_of_within later
  · intro along n
    have empty : PlansWithinLimit config {} := fun reservationId => Nat.zero_le _
    exact run_invariant_between (fun _ _ asks => step_within_limit asks) along (Nat.zero_le n) empty

def candidateAway (etaSeconds : Nat) : ScheduledCandidate where
  driverId := 2
  eligible := true
  safetyEligible := true
  pickupEtaHighSeconds := etaSeconds
  pickupWindowSuccessBps := ⟨10000 - etaSeconds, Nat.sub_le 10000 etaSeconds⟩
  opportunityDeficitBps := ⟨0, Nat.zero_le 10000⟩
  currentTripCompletionHighSeconds := 0
  predictionConfidenceBps := ⟨10000, Nat.le_refl 10000⟩
  locationObservedAt := seconds 1
  hasConflictingCommitment := false

/-- The planner is called for the reservation as it is stored, with the last soft plan's decision
as the incumbent. -/
def replanned (actions : List ScheduledAction) (second etaSeconds : Nat) : List ScheduledAction :=
  let store := run (scheduledStep scheduledConfig) {} actions
  actions ++
    [.plan (drawsAt second)
      ((store.reservations.find 10).getD (reservationFor (drawsAt 1) rider ownBooking))
      [candidateAway etaSeconds] (store.softPlans.rows.getLast?.map SoftPlan.decision)]

def improvedThrice : List ScheduledAction :=
  replanned (replanned (replanned (replanned
    [.create rider (drawsAt 1) ownBooking "own-booking"] 2 4000) 3 3000) 4 2000) 5 1000

/-- The policy allows two replacements, and three are saved. -/
theorem replaced_beyond_limit :
    ¬ ∀ (config : ScheduledConfig) (actions : List ScheduledAction) (n : Nat),
      PlansWithinLimit config (run (scheduledStep config) {} (actions.take n)) := by
  intro claimed
  have within := claimed scheduledConfig improvedThrice 5 10
  have saved : (softPlansOf (run (scheduledStep scheduledConfig) {} (improvedThrice.take 5))
      10).length = 4 := by
    decide +kernel
  rw [saved] at within
  exact absurd within (by decide)

end Ayo.Scheduled.SoftPlans
