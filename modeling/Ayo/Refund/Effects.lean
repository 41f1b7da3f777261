/- digest: What each successful refund command does to the refund requests. -/

import Ayo.Kernel.Run
import Ayo.Refund.Application

namespace Ayo.Refund.Effects

open Kernel.UnitOfWork Kernel.KeyedTable Core.Values Core.Authorization Core.Lifecycle
  Payment.Models
open Payment.Repository (PaymentStore)
open Models Repository Application
open Kernel.Evolution (Evolves)

inductive RequestsEffect (payments : PaymentStore) (before : RefundStore) (call : RefundCall)
    (after : RefundStore) : Prop where
  | idle (requests : after.requests = before.requests)
  | requested (request : RequestRefundRequest) (row : RefundRequest) (attempt : PaymentAttempt)
      (command : call.command = .requestRefund request)
      (new : before.requests.find (canonicalReference before.idempotency call.subject.identityId
        "refund.request.create" request.idempotencyKey request.candidateId) = none)
      (found : payments.attempts.find request.paymentAttemptId = some attempt)
      (attemptId : row.paymentAttemptId = request.paymentAttemptId)
      (amount : row.amountMinor.value = request.amountMinor)
      (requests : after.requests.rows = before.requests.rows ++ [row])
  | moved (current changed : RefundRequest)
      (found : before.requests.find current.refundRequestId = some current)
      (id : changed.refundRequestId = current.refundRequestId)
      (attemptId : changed.paymentAttemptId = current.paymentAttemptId)
      (amount : changed.amountMinor = current.amountMinor)
      (follows : Follows allowedRequestTransitions current.state changed.state)
      (requests : after.requests.rows = before.requests.replaced changed)

section

variable {hash : Payload → Digest} {reads : RefundReads} {payments : PaymentStore}
  {subject : AuthorizationSubject} {s t : RefundStore} {u : Unit}
  {decisionType : RefundDecisionType} {request : AdvanceRequest}
  {refundRequestId correlationId causationId : Uuid} {result : RefundRequest}
  {target : RefundRequestState}

private theorem appendDecision_frame {decision : RefundDecision}
    (ran : appendDecision decision s = .ok (u, t)) : t.requests = s.requests := by
  unfold appendDecision at ran
  simp only [↓steps_ok] at ran
  obtain ⟨_, _, rfl⟩ := ran
  rfl

private theorem appendAuthorization_frame {authorization : RefundAuthorization}
    (ran : appendAuthorization authorization s = .ok (u, t)) : t.requests = s.requests := by
  unfold appendAuthorization at ran
  simp only [↓steps_ok] at ran
  obtain ⟨_, _, rfl⟩ := ran
  rfl

private theorem appendEvidence_frame {evidence : RefundEvidence}
    (ran : appendEvidence evidence s = .ok (u, t)) : t.requests = s.requests := by
  unfold appendEvidence at ran
  simp only [↓steps_ok] at ran
  obtain ⟨_, _, rfl⟩ := ran
  rfl

private theorem recordDecision_frame {outcome : String}
    (ran : recordDecision subject request refundRequestId decisionType outcome s =
      .ok (u, t)) : t.requests = s.requests := by
  unfold recordDecision utc at ran
  simp only [bind_assoc, pure_bind, ↓steps_ok] at ran
  obtain ⟨_, _, _, appended⟩ := ran
  exact appendDecision_frame appended

private theorem recordEvent_bind_ok {α : Type} {aggregateId : Uuid}
    {eventType : String} {occurredAt : Instant} {f : Unit → RefundTransaction α} {a : α} :
    (recordEvent aggregateId eventType occurredAt correlationId causationId >>= f) s = .ok (a, t) ↔
      f () { s with
        events := s.events ++
          [{ aggregateType := "refund_request", aggregateId, eventType, occurredAt, correlationId,
             causationId }] } = .ok (a, t) := by
  simp only [recordEvent, bind_assoc, steps_ok]

theorem getRequest_bind_ok {α : Type} {id : Uuid} {f : Option RefundRequest → RefundTransaction α}
    {a : α} : (getRequest id >>= f) s = .ok (a, t) ↔ f (s.requests.find id) s = .ok (a, t) := by
  simp only [getRequest, bind_assoc, pure_bind, get_bind_ok]

theorem transitionRequest_ok {time : DateTime}
    (ran : transitionRequest refundRequestId target time correlationId causationId s =
      .ok (result, t)) :
    ∃ old, s.requests.find old.refundRequestId = some old ∧
      result.refundRequestId = old.refundRequestId ∧
      result.paymentAttemptId = old.paymentAttemptId ∧
      result.amountMinor = old.amountMinor ∧
      Follows allowedRequestTransitions old.state result.state ∧
      t.requests.rows = s.requests.replaced result := by
  unfold transitionRequest at ran
  simp only [↓getRequest_bind_ok, ↓ensureRequestTransitionAllowed_bind_ok, ↓steps_ok,
    ↓recordEvent_bind_ok, Table.replace?_eq_some, Option.dite_none_right_eq_some,
    Option.some.injEq] at ran
  obtain ⟨old, found, follows, _, new, ⟨later, built⟩, requests, rows, rfl, rfl⟩ := ran
  have id : old.refundRequestId = refundRequestId := Table.key_of_find found
  subst built
  exact ⟨old, by rwa [id], rfl, rfl, rfl, follows, rows⟩

theorem createRequest_ok {request : RefundRequest}
    (ran : createRequest request s = .ok (result, t)) :
    result = request ∧ t.requests.rows = s.requests.rows ++ [request] := by
  unfold createRequest at ran
  simp only [↓steps_ok, ↓recordEvent_bind_ok, Table.insert?_eq_some] at ran
  obtain ⟨_, _, requests, rows, rfl, rfl⟩ := ran
  exact ⟨rfl, rows⟩

theorem advance_ok {operation outcome : String} {authorize : RefundTransaction Unit}
    {call : RefundCall}
    (authorizes : ∀ (s : RefundStore) u t, authorize s = .ok (u, t) → t.requests = s.requests)
    (ran : advance hash subject request operation target authorize decisionType outcome s =
      .ok (result, t)) : RequestsEffect payments s call t := by
  unfold advance at ran
  simp only [↓validateIdempotencyKey_bind_ok] at ran
  obtain ⟨_, ran⟩ := ran
  obtain ⟨idempotency, ran⟩ := reserving_ok ran
  obtain ⟨new, afterMove, transitioned, ran⟩ := bind_ok.1 ran
  obtain ⟨old, found, id, attemptId, amount, follows, rows⟩ := transitionRequest_ok transitioned
  obtain ⟨_, afterAuthorization, authorized, ran⟩ := bind_ok.1 ran
  obtain ⟨_, decided, _⟩ := bind_pure_ok.1 ran
  refine .moved old new found id attemptId amount follows ?_
  rw [recordDecision_frame decided, authorizes _ _ _ authorized, rows]

variable {request : RequestRefundRequest}

private theorem validateLinkage_ok {payment : PaymentIntent × PaymentAttempt}
    (ran : validateLinkage reads payments subject request s = .ok (payment, t)) :
    s = t ∧ payments.attempts.find request.paymentAttemptId = some payment.2 := by
  unfold validateLinkage at ran
  simp only [↓steps_ok] at ran
  obtain ⟨_, _, attempt, found, _, _, _, _, _, _, _, _, _, _, _, rfl, same⟩ := ran
  exact ⟨same, found⟩

theorem validateRequestAmount_readOnly {refundType : RefundType} {amount payment : Int} :
    ReadOnly (validateRequestAmount refundType amount payment) :=
  .requires <| .requires <| .requires <| .require

theorem requestRefund_ok
    (ran : requestRefund hash reads payments subject request s = .ok (result, t)) :
    RequestsEffect payments s ⟨reads, subject, .requestRefund request⟩ t := by
  unfold requestRefund at ran
  simp only [↓guards_ok] at ran
  obtain ⟨_, _, _, _, ran⟩ := ran
  obtain ⟨idempotency, ran⟩ := reserving_ok ran
  simp only [↓getRequest_bind_ok, whenSome_ok, pure_ok] at ran
  obtain ⟨_, _, _, rfl⟩ | ⟨new, ran⟩ := ran
  · exact .idle rfl
  · obtain ⟨⟨intent, attempt⟩, _, linked, ran⟩ := bind_ok.1 ran
    obtain ⟨rfl, found⟩ := validateLinkage_ok linked
    obtain ⟨_, _, ran⟩ := (validateRequestAmount_readOnly).bind_ok ran
    simp only [utc, bind_assoc, pure_bind, ↓steps_ok, MinorAmount.ofInt?_eq_some] at ran
    obtain ⟨amount, amountValue, _, _, _, ran⟩ := ran
    obtain ⟨created, _, inserted, ran⟩ := bind_ok.1 ran
    obtain ⟨row, rows⟩ := createRequest_ok inserted
    obtain ⟨_, appended, _⟩ := bind_pure_ok.1 ran
    refine .requested request created attempt rfl new found (by rw [row])
      (by rw [row]; exact amountValue) ?_
    rw [appendDecision_frame appended, rows, row]

private theorem investigateRequest_frame {request : InvestigateRequest}
    (ran : investigateRequest hash reads subject request s = .ok (u, t)) :
    t.requests = s.requests := by
  unfold investigateRequest at ran
  simp only [↓guards_ok] at ran
  obtain ⟨_, _, _, ran⟩ := ran
  obtain ⟨idempotency, ran⟩ := reserving_ok ran
  simp only [utc, bind_assoc, pure_bind, ↓getRequest_bind_ok, ↓steps_ok] at ran
  obtain ⟨_, _, _, _, _, _, _, _, ran⟩ := ran
  obtain ⟨_, _, appended, decided⟩ := bind_ok.1 ran
  rw [recordDecision_frame decided, appendEvidence_frame appended]

end

theorem RequestsEffect.of_success {α : Type} {payments : PaymentStore} {s : RefundStore}
    {call : RefundCall} {body : RefundTransaction α}
    (ran : ∀ a t, body s = .ok (a, t) → RequestsEffect payments s call t) :
    RequestsEffect payments s call (commit body s) :=
  commit_related (R := fun s => RequestsEffect payments s call) body s (.idle rfl) ran

theorem step_effect (hash : Payload → Digest) (payments : PaymentStore) (store : RefundStore)
    (call : RefundCall) : RequestsEffect payments store call (step hash payments store call) := by
  obtain ⟨reads, subject, command⟩ := call
  have unauthorized : ∀ (s : RefundStore) (u : Unit) t,
      (pure () : RefundTransaction Unit) s = .ok (u, t) → t.requests = s.requests := by
    intro s u t ran
    rw [(pure_ok.1 ran).2]
  cases command with
  | requestRefund =>
    refine .of_success fun result t ran => ?_
    exact requestRefund_ok ran
  | reviewRequest =>
    refine .of_success fun result t ran => ?_
    unfold reviewRequest at ran
    simp only [↓requirePermission_bind_ok] at ran
    exact advance_ok unauthorized ran.2.2
  | investigateRequest =>
    refine .of_success fun result t ran => ?_
    exact .idle (investigateRequest_frame ran)
  | approveRequest =>
    refine .of_success fun result t ran => ?_
    unfold approveRequest at ran
    simp only [↓requirePermission_bind_ok] at ran
    refine advance_ok (fun s u t authorized => ?_) ran.2.2
    simp only [utc, bind_assoc, pure_bind, ↓steps_ok] at authorized
    obtain ⟨_, _, _, appended⟩ := authorized
    exact appendAuthorization_frame appended
  | scheduleRequest =>
    refine .of_success fun result t ran => ?_
    unfold scheduleRequest at ran
    simp only [↓requirePermission_bind_ok] at ran
    exact advance_ok unauthorized ran.2.2
  | completeRequest =>
    refine .of_success fun result t ran => ?_
    unfold completeRequest at ran
    simp only [↓guards_ok] at ran
    exact advance_ok unauthorized ran.2.2.2
  | rejectRequest =>
    refine .of_success fun result t ran => ?_
    unfold rejectRequest at ran
    simp only [↓requirePermission_bind_ok] at ran
    exact advance_ok unauthorized ran.2.2

/-- One change of a refund request: along its graph, of the same attempt and amount. -/
structure RequestStep (current changed : RefundRequest) : Prop where
  attemptId : changed.paymentAttemptId = current.paymentAttemptId
  amount : changed.amountMinor = current.amountMinor
  follows : Follows allowedRequestTransitions current.state changed.state

theorem RequestsEffect.evolves {payments : PaymentStore} {s t : RefundStore} {call : RefundCall}
    (effect : RequestsEffect payments s call t) : Evolves RequestStep s.requests t.requests := by
  cases effect with
  | idle requests => exact .of_eq requests
  | requested _ _ _ _ _ _ _ _ requests => exact .of_append requests
  | moved current changed found id attemptId amount follows requests =>
    exact .of_replaced requests (Table.mem_of_find found) id (.single ⟨attemptId, amount, follows⟩)

end Ayo.Refund.Effects
