/- digest: When refunds of a payment can exceed it in sum. -/

import Ayo.Payment.SingleCapture
import Ayo.Refund.Effects

namespace Ayo.Refund.CumulativeBound

open Kernel.Run Kernel.KeyedTable Core.Values Core.Authorization Core.Lifecycle
open Payment.Repository (PaymentStore)
open Payment.Application (PaymentCall PaymentConfig)
open Payment.Effects (step_attempt_origin step_attempt_survives)
open Payment.SingleCapture (sampleConfig sampleReads moment captureOnce)
open Models Repository Application Effects

/-- The payment store and the refund store under one sequence of calls. -/
structure RefundSystem where
  payments : PaymentStore := {}
  refunds : RefundStore := {}

inductive SystemCall where
  | payment (call : PaymentCall)
  | refund (call : RefundCall)

def systemStep (config : PaymentConfig) (system : RefundSystem) : SystemCall → RefundSystem
  | .payment call =>
    { system with payments := Payment.Application.step config system.payments call }
  | .refund call => { system with refunds := step config.hash system.payments system.refunds call }

def standingAmount (attemptId : Uuid) (request : RefundRequest) : Int :=
  if request.paymentAttemptId = attemptId ∧ request.state ≠ .rejected then
    request.amountMinor.value
  else
    0

def standingRefunds (store : RefundStore) (attemptId : Uuid) : Int :=
  (store.requests.rows.map (standingAmount attemptId)).sum

/-- No captured attempt has standing refunds above its amount. -/
def RefundsBounded (system : RefundSystem) : Prop :=
  ∀ attempt ∈ system.payments.attempts.rows, attempt.state = .captured →
    standingRefunds system.refunds attempt.paymentAttemptId ≤ attempt.amountMinor.value
deriving Decidable

def refundRequest? : SystemCall → Option (AuthorizationSubject × RequestRefundRequest)
  | .refund ⟨_, subject, .requestRefund request⟩ => some (subject, request)
  | _ => none

/-- A call that would write a new request fits in what the standing refunds leave of its attempt. -/
def RequestFits (system : RefundSystem) (call : SystemCall) : Prop :=
  ∀ requested ∈ refundRequest? call,
    system.refunds.requests.find (canonicalReference system.refunds.idempotency
        requested.1.identityId "refund.request.create" requested.2.idempotencyKey
        requested.2.candidateId) = none →
      ∀ attempt ∈ system.payments.attempts.rows,
        attempt.paymentAttemptId = requested.2.paymentAttemptId →
          standingRefunds system.refunds attempt.paymentAttemptId + requested.2.amountMinor ≤
            attempt.amountMinor.value
deriving Decidable

instance (table : Table RefundRequest) (id : Uuid) : Decidable (table.find id = none) :=
  decidable_of_iff _ Option.isNone_iff_eq_none

/-- Requests refund attempts that exist, and never more than their amount. -/
structure Covered (system : RefundSystem) : Prop where
  linked : ∀ request ∈ system.refunds.requests.rows, ∃ attempt ∈ system.payments.attempts.rows,
    attempt.paymentAttemptId = request.paymentAttemptId
  bounded : ∀ attempt ∈ system.payments.attempts.rows,
    standingRefunds system.refunds attempt.paymentAttemptId ≤ attempt.amountMinor.value

variable {config : PaymentConfig} {system : RefundSystem}

private theorem covered_of_payment {call : PaymentCall} (covered : Covered system) :
    Covered (systemStep config system (.payment call)) := by
  refine ⟨?_, ?_⟩
  · intro request mem
    obtain ⟨attempt, held, id⟩ := covered.linked request mem
    obtain ⟨kept, stays, same⟩ := step_attempt_survives config system.payments call held
    exact ⟨kept, stays, same.trans id⟩
  · intro attempt mem
    obtain ⟨old, held, id, amount⟩ | absent :=
      step_attempt_origin config system.payments call mem
    · rw [← id, ← amount]
      exact covered.bounded old held
    · -- a new attempt has no refund requests yet
      have none_standing : standingRefunds system.refunds attempt.paymentAttemptId = 0 := by
        refine List.sum_eq_zero fun value occurs => ?_
        obtain ⟨request, held, rfl⟩ := List.mem_map.1 occurs
        obtain ⟨linked, present, id⟩ := covered.linked request held
        have different : request.paymentAttemptId ≠ attempt.paymentAttemptId := fun same =>
          Table.find_eq_none.1 absent linked present (id.trans same)
        simp [standingAmount, different]
      show standingRefunds system.refunds attempt.paymentAttemptId ≤ attempt.amountMinor.value
      rw [none_standing]
      exact attempt.amountMinor.nonneg

private theorem standing_of_moved {current new : RefundRequest} {s t : RefundStore}
    (found : s.requests.find current.refundRequestId = some current)
    (id : new.refundRequestId = current.refundRequestId)
    (attemptId : new.paymentAttemptId = current.paymentAttemptId)
    (amount : new.amountMinor = current.amountMinor)
    (follows : Follows allowedRequestTransitions current.state new.state)
    (requests : t.requests.rows = s.requests.replaced new) (paymentAttemptId : Uuid) :
    standingRefunds t paymentAttemptId ≤ standingRefunds s paymentAttemptId := by
  unfold standingRefunds
  rw [requests]
  refine Table.sum_replaced_le _ _ fun old mem key => ?_
  have one : old = current :=
    s.requests.eq_of_key mem (Table.mem_of_find found) (key.trans id)
  rw [one]
  unfold standingAmount
  rw [attemptId, amount]
  by_cases rejected : current.state = .rejected
  · have stays : new.state = .rejected := eq_of_follows_rejected (rejected ▸ follows)
    simp [rejected, stays]
  · by_cases addressed : current.paymentAttemptId = paymentAttemptId
    · simp only [addressed, rejected, true_and, ne_eq, not_false_eq_true, if_true]
      split
      · exact le_refl _
      · exact current.amountMinor.nonneg
    · simp [addressed]

private theorem covered_of_refund {call : RefundCall} (guard : RequestFits system (.refund call))
    (covered : Covered system) : Covered (systemStep config system (.refund call)) := by
  cases step_effect config.hash system.payments system.refunds call with
  | idle requests =>
    refine ⟨?_, ?_⟩
    · simpa only [systemStep, requests] using covered.linked
    · simpa only [systemStep, standingRefunds, requests] using covered.bounded
  | requested request row attempt command new found attemptId amount requests =>
    obtain ⟨reads, subject, _⟩ := call
    cases command
    have held := Table.mem_of_find found
    have id : attempt.paymentAttemptId = request.paymentAttemptId := Table.key_of_find found
    refine ⟨?_, ?_⟩
    · intro other mem
      have mem : other ∈ (step config.hash system.payments system.refunds
        ⟨reads, subject, .requestRefund request⟩).requests.rows := mem
      rcases (mem_appended requests).1 mem with old | rfl
      · exact covered.linked other old
      · exact ⟨attempt, held, id.trans attemptId.symm⟩
    · intro other mem
      have standing : standingRefunds (step config.hash system.payments system.refunds
          ⟨reads, subject, .requestRefund request⟩) other.paymentAttemptId =
            standingRefunds system.refunds other.paymentAttemptId +
              standingAmount other.paymentAttemptId row := by
        simp [standingRefunds, requests]
      show standingRefunds (step config.hash system.payments system.refunds
        ⟨reads, subject, .requestRefund request⟩) other.paymentAttemptId ≤ other.amountMinor.value
      rw [standing]
      have bounded := covered.bounded other mem
      by_cases same : other.paymentAttemptId = request.paymentAttemptId
      · have fits : standingRefunds system.refunds other.paymentAttemptId + request.amountMinor ≤
            other.amountMinor.value := guard (subject, request) rfl new other mem same
        have small : standingAmount other.paymentAttemptId row ≤ request.amountMinor := by
          unfold standingAmount
          rw [← amount]
          split
          · exact le_refl _
          · exact row.amountMinor.nonneg
        omega
      · have elsewhere : standingAmount other.paymentAttemptId row = 0 := by
          simp [standingAmount, attemptId, Ne.symm same]
        omega
  | moved current changed found id attemptId amount follows requests =>
    refine ⟨?_, ?_⟩
    · intro request mem
      have mem : request ∈ (step config.hash system.payments system.refunds call).requests.rows :=
        mem
      rw [requests] at mem
      obtain ⟨rfl, _⟩ | ⟨old, _⟩ := Table.mem_replaced.1 mem
      · rw [attemptId]
        exact covered.linked current (Table.mem_of_find found)
      · exact covered.linked request old
    · intro attempt mem
      exact (standing_of_moved found id attemptId amount follows requests _).trans
        (covered.bounded attempt mem)

/-- In a run whose new refund requests each fit in what the standing ones leave of their attempt,
no captured attempt ever has standing refunds above its amount. -/
theorem refunds_bounded_along (config : PaymentConfig) (calls : List SystemCall)
    (along : Along (systemStep config) RequestFits {} calls) :
    RefundsBounded (run (systemStep config) {} calls) := by
  have covered : Covered (run (systemStep config) {} calls) := by
    refine run_invariant_along (fun system call guard covered => ?_) along ⟨?_, ?_⟩
    · cases call with
      | payment call => exact covered_of_payment covered
      | refund call => exact covered_of_refund guard covered
    · intro request member
      simp at member
    · intro attempt member
      simp at member
  exact fun attempt member _ => covered.bounded attempt member

def refundOf (amountMinor : Int) (key : String) (candidateId decisionId : Uuid) : SystemCall :=
  .refund
    { reads :=
        { grants := sampleReads.grants, calculations := sampleReads.calculations,
          journals := sampleReads.journals },
      subject := ⟨1, .rider⟩,
      command := .requestRefund
        { rideId := 10, fareCalculationId := 20, paymentIntentId := 100, paymentAttemptId := 101,
          ledgerJournalId := 30, refundType := .partialRefund, amountMinor,
          reasonCode := "refund.partial", idempotencyKey := key, correlationId := 51,
          causationId := 51, time := moment 200, candidateId, decisionId } }

def refundHalves : List SystemCall :=
  captureOnce.map SystemCall.payment ++
    [refundOf 250 "refund-request-0001" 301 401, refundOf 250 "refund-request-0002" 302 402]

/-- Two refunds of 400 out of a payment of 500. -/
def refundTooMuch : List SystemCall :=
  captureOnce.map SystemCall.payment ++
    [refundOf 400 "refund-request-0001" 301 401, refundOf 400 "refund-request-0002" 302 402]

theorem refunds_bounded_halves : RefundsBounded (run (systemStep sampleConfig) {} refundHalves) :=
  refunds_bounded_along sampleConfig refundHalves (by decide)

theorem refunds_exceed_payment :
    ¬ RefundsBounded (run (systemStep sampleConfig) {} refundTooMuch) := by
  decide

end Ayo.Refund.CumulativeBound
