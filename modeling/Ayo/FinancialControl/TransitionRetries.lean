/- digest: When a repeated transition of a hold moves the hold again. -/

import Ayo.FinancialControl.Effects
import Ayo.Payment.SingleCapture

namespace Ayo.FinancialControl.TransitionRetries

open Kernel.UnitOfWork Kernel.Run Core.Values Core.Authorization Core.Retries
open Payment.SingleCapture (sampleHash)
open Settlement.Repository (SettlementStore)
open Models
open Repository hiding createHold transitionHold
open Application Effects

structure Retries (actor again : AuthorizationSubject)
    (first retry : FinancialHoldTransitionCommand) : Prop where
  actor : again.identityId = actor.identityId
  key : retry.idempotencyKey = first.idempotencyKey
  holdId : retry.holdId = first.holdId
  target : retry.targetState = first.targetState
  reason : reasonPayload retry.reason = reasonPayload first.reason

def eventsOf (store : HoldStore) (holdId : Uuid) : List Event :=
  store.events.filter fun event => event.aggregateId = holdId

/-- The state of a hold, its history and its events are the same in both stores. -/
structure HoldUntouched (holdId : Uuid) (before after : HoldStore) : Prop where
  state : (after.holds.find holdId).map FinancialHold.state =
    (before.holds.find holdId).map FinancialHold.state
  history : trail after holdId = trail before holdId
  events : eventsOf after holdId = eventsOf before holdId

def MovesAgain (reads : HoldReads) (subject : AuthorizationSubject)
    (retry : FinancialHoldTransitionCommand) (store : HoldStore) : Prop :=
  ∃ hold ∈ store.holds.find retry.holdId, Moves reads subject retry store hold
deriving Decidable

theorem outlives_run {hash : Payload → Digest} {store : HoldStore} {inputs : List HoldInput} :
    Outlives store.idempotency (run (holdStep hash) store inputs).idempotency := by
  refine run_related (R := fun s t : HoldStore =>
    Outlives s.idempotency t.idempotency) ?_ ?_ ?_ store inputs
  · exact fun store => .refl store.idempotency
  · exact fun earlier later => earlier.trans later
  · exact fun store input => (step_effect hash store input).2

section

variable {hash : Payload → Digest} {reads : HoldReads} {actor subject : AuthorizationSubject}
  {first retry : FinancialHoldTransitionCommand} {store : HoldStore} {settlements : SettlementStore}

private theorem onRecord_of_retries (retries : Retries actor subject first retry)
    (recorded : OnRecord hash store.idempotency actor.identityId (transitionOperation first)
      first.idempotencyKey.1 (transitionPayload first) first.holdId) :
    OnRecord hash store.idempotency subject.identityId (transitionOperation retry)
      retry.idempotencyKey.1 (transitionPayload retry) retry.holdId := by
  have operation : transitionOperation retry = transitionOperation first := by
    unfold transitionOperation
    rw [retries.target]
  have payload : transitionPayload retry = transitionPayload first := by
    unfold transitionPayload
    rw [retries.holdId, retries.target, retries.reason]
  rwa [operation, payload, retries.actor, retries.key, retries.holdId]

theorem untouched_of_not_moves (stays : ¬ MovesAgain reads subject retry store) (holdId : Uuid) :
    HoldUntouched holdId store
      (holdStep hash store (settlements, ⟨reads, subject, .transitionHold retry⟩)) := by
  cases (step_effect hash store (settlements, ⟨reads, subject, .transitionHold retry⟩)).1 with
  | quiet holds history events =>
    refine ⟨by rw [holds], ?_, ?_⟩
    · unfold trail
      rw [history]
    · unfold eventsOf
      rw [events]
  | moved command old new requested found moves =>
    cases requested
    exact absurd ⟨old, found, moves⟩ stays
  | created command hold row requested => cases requested

theorem touched_of_moves
    (recorded : OnRecord hash store.idempotency subject.identityId (transitionOperation retry)
      retry.idempotencyKey.1 (transitionPayload retry) retry.holdId)
    (moves : MovesAgain reads subject retry store) :
    ¬ HoldUntouched retry.holdId store
      (holdStep hash store (settlements, ⟨reads, subject, .transitionHold retry⟩)) := by
  obtain ⟨old, found, moves⟩ := moves
  obtain ⟨result, t, ran, target⟩ := exists_moved found moves recorded.reservable
  have finished : holdStep hash store (settlements, ⟨reads, subject, .transitionHold retry⟩) =
      t := commit_of_ok ran
  intro untouched
  have same := untouched.state
  rw [finished, target, found] at same
  exact ne_of_mem_allowedTransitions moves.1 (Option.some.inj same).symm

end

/-- After a transition that succeeded in any run and any further calls, a retry of it leaves the
hold's state, history and events as they are exactly when it does not move its hold again. -/
theorem transition_retry_untouched_iff (hash : Payload → Digest) (earlier later : List HoldInput)
    (settlements : SettlementStore) (reads again : HoldReads)
    (actor subject : AuthorizationSubject) (first retry : FinancialHoldTransitionCommand)
    (result : FinancialHoldResult) (after : HoldStore)
    (succeeded : transitionHold hash reads actor first (run (holdStep hash) {} earlier) =
      .ok (result, after))
    (retries : Retries actor subject first retry) :
    let reached := run (holdStep hash) after later
    HoldUntouched first.holdId reached
        (holdStep hash reached (settlements, ⟨again, subject, .transitionHold retry⟩)) ↔
      ¬ MovesAgain again subject retry reached := by
  intro reached
  have recorded : OnRecord hash reached.idempotency subject.identityId (transitionOperation retry)
      retry.idempotencyKey.1 (transitionPayload retry) retry.holdId :=
    onRecord_of_retries retries
      ((transitionHold_ok succeeded).2.2.outlives outlives_run)
  rw [← retries.holdId]
  constructor
  · intro untouched moves
    exact touched_of_moves recorded moves untouched
  · intro stays
    exact untouched_of_not_moves stays retry.holdId

/-! A fraud hold 100 on identity 1, created and moved by service 9. -/

def holdReads : HoldReads :=
  { grants := fun _ _ _ => true, payments := {}, refunds := {},
    walletAccountExists := fun _ => false, postingExists := fun _ => false,
    identityExists := fun id => id = 1 }

def holdService : AuthorizationSubject := ⟨9, .service⟩

def fraudReason : HoldReason := ⟨.fraudReviewRequired, none⟩

def createFraudHold : HoldInput :=
  ({}, ⟨holdReads, holdService, .createHold
    { holdType := .fraudReview, sourceType := .identity, sourceId := 1, reason := fraudReason,
      idempotencyKey := ⟨"hold-create-00001", by decide⟩, correlationId := 50, causationId := 50,
      occurredAt := 0, candidateId := 100, historyId := 200 }⟩)

def moveTo (targetState : FinancialHoldState) (key : BoundedText 16 128) (historyId : Uuid)
    (occurredAt : Instant) : FinancialHoldTransitionCommand :=
  { holdId := 100, targetState, reason := fraudReason, idempotencyKey := key, correlationId := 51,
    causationId := 51, occurredAt, historyId }

def moveCall (command : FinancialHoldTransitionCommand) : HoldInput :=
  ({}, ⟨holdReads, holdService, .transitionHold command⟩)

def firstKey : BoundedText 16 128 := ⟨"hold-transition-1", by decide⟩

def secondKey : BoundedText 16 128 := ⟨"hold-transition-2", by decide⟩

def thirdKey : BoundedText 16 128 := ⟨"hold-transition-3", by decide⟩

def activated : List HoldInput :=
  [createFraudHold, moveCall (moveTo .active firstKey 201 1)]

private theorem review_succeeds : ∃ result t,
    transitionHold sampleHash holdReads holdService (moveTo .underReview secondKey 202 2)
      (run (holdStep sampleHash) {} activated) = .ok (result, t) := by
  have ok : (transitionHold sampleHash holdReads holdService (moveTo .underReview secondKey 202 2)
      (run (holdStep sampleHash) {} activated)).isOk = true := by decide +kernel
  obtain ⟨⟨result, t⟩, ran⟩ := exists_of_isOk ok
  exact ⟨result, t, ran⟩

theorem review_retried_at_once : ∃ result after,
    transitionHold sampleHash holdReads holdService (moveTo .underReview secondKey 202 2)
        (run (holdStep sampleHash) {} activated) = .ok (result, after) ∧
      HoldUntouched 100 after
        (holdStep sampleHash after (moveCall (moveTo .underReview secondKey 203 3))) := by
  obtain ⟨result, after, success⟩ := review_succeeds
  have reached := commit_of_ok success
  refine ⟨result, after, success, ?_⟩
  have retried := transition_retry_untouched_iff sampleHash activated [] {} holdReads holdReads
    holdService holdService (moveTo .underReview secondKey 202 2)
    (moveTo .underReview secondKey 203 3) result after success ⟨rfl, rfl, rfl, rfl, rfl⟩
  refine retried.2 ?_
  rw [← reached]
  decide +kernel

/-- The review is repeated after the hold went back to active. -/
theorem review_acts_again : ∃ result after,
    transitionHold sampleHash holdReads holdService (moveTo .underReview secondKey 202 2)
        (run (holdStep sampleHash) {} activated) = .ok (result, after) ∧
      let reached := run (holdStep sampleHash) after [moveCall (moveTo .active thirdKey 203 3)]
      ¬ HoldUntouched 100 reached
        (holdStep sampleHash reached (moveCall (moveTo .underReview secondKey 204 4))) := by
  obtain ⟨result, after, success⟩ := review_succeeds
  have finished := commit_of_ok success
  refine ⟨result, after, success, ?_⟩
  intro reached untouched
  have sameHistory := congrArg List.length untouched.history
  revert sameHistory
  subst finished
  decide +kernel

end Ayo.FinancialControl.TransitionRetries
