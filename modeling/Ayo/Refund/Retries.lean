/- digest: When a repeated refund command acts again. -/

import Ayo.Refund.CumulativeBound

namespace Ayo.Refund.Retries

open Kernel.UnitOfWork Kernel.KeyedTable Kernel.Related Kernel.Run Core.Values Core.Authorization
  Core.Lifecycle Core.Retries
open Payment.Repository (PaymentStore)
open Payment.SingleCapture (sampleConfig sampleHash sampleReads moment captureOnce)
open Effects (getRequest_bind_ok)
open Models Repository Application

/-- One input of the refund service: the payments that a call reads, and the call. -/
abbrev RefundInput := PaymentStore × RefundCall

variable (hash : Payload → Digest)

def refundStep (store : RefundStore) (input : RefundInput) : RefundStore :=
  step hash input.1 store input.2

structure Advance where
  request : AdvanceRequest
  permission : String
  serviceOnly : Bool := false
  operation : String
  targetState : RefundRequestState
  authorizationId : Option Uuid := none
  decisionType : RefundDecisionType
  decisionOutcome : String

def advanceOf? : RefundCommand → Option Advance
  | .requestRefund _ => none
  | .reviewRequest request => some
      { request, permission := "refund.review.perform", operation := "refund.request.review",
        targetState := .underReview, decisionType := .review, decisionOutcome := "under_review" }
  | .investigateRequest _ => none
  | .approveRequest request => some
      { request := request.toAdvanceRequest, permission := "refund.approve",
        operation := "refund.request.approve", targetState := .approved,
        authorizationId := some request.authorizationId, decisionType := .approval,
        decisionOutcome := "approved" }
  | .scheduleRequest request => some
      { request, permission := "refund.schedule", operation := "refund.request.schedule",
        targetState := .scheduled, decisionType := .scheduling, decisionOutcome := "scheduled" }
  | .completeRequest request => some
      { request, permission := "refund.workflow.run", serviceOnly := true,
        operation := "refund.request.complete", targetState := .completed,
        decisionType := .completion, decisionOutcome := "completed" }
  | .rejectRequest request => some
      { request, permission := "refund.review.perform", operation := "refund.request.reject",
        targetState := .rejected, decisionType := .rejection, decisionOutcome := "rejected" }

def advancePayload (request : AdvanceRequest) : Payload :=
  [("refund_request_id", .uuid request.refundRequestId), ("reason_code", .text request.reasonCode)]

def authorizeWith (subject : AuthorizationSubject) (request : AdvanceRequest) :
    Option Uuid → RefundTransaction Unit
  | none => pure ()
  | some authorizationId => do
    let reasonCode ← demand (code? request.reasonCode) (.field "reason_code")
    let authorizedAt ← utc request.time
    appendAuthorization
      { authorizationId, refundRequestId := request.refundRequestId,
        authorizedByIdentityId := subject.identityId, authorityPermission := "refund.approve",
        reasonCode, authorizedAt, correlationId := request.correlationId,
        causationId := request.refundRequestId }

def performAdvance (subject : AuthorizationSubject) (advancing : Advance) :
    RefundTransaction RefundRequest :=
  advance hash subject advancing.request advancing.operation advancing.targetState
    (authorizeWith subject advancing.request advancing.authorizationId) advancing.decisionType
    advancing.decisionOutcome

def Succeeds (payments : PaymentStore) (call : RefundCall) (s t : RefundStore) : Prop :=
  match call.command with
  | .requestRefund request =>
    ∃ result, requestRefund hash call.reads payments call.subject request s = .ok (result, t)
  | .reviewRequest request =>
    ∃ result, reviewRequest hash call.reads call.subject request s = .ok (result, t)
  | .investigateRequest request =>
    ∃ result, investigateRequest hash call.reads call.subject request s = .ok (result, t)
  | .approveRequest request =>
    ∃ result, approveRequest hash call.reads call.subject request s = .ok (result, t)
  | .scheduleRequest request =>
    ∃ result, scheduleRequest hash call.reads call.subject request s = .ok (result, t)
  | .completeRequest request =>
    ∃ result, completeRequest hash call.reads call.subject request s = .ok (result, t)
  | .rejectRequest request =>
    ∃ result, rejectRequest hash call.reads call.subject request s = .ok (result, t)

section

variable {hash : Payload → Digest} {payments : PaymentStore} {call : RefundCall} {s t : RefundStore}

theorem step_of_succeeds (succeeds : Succeeds hash payments call s t) :
    step hash payments s call = t := by
  obtain ⟨reads, subject, command⟩ := call
  cases command <;> exact commit_of_ok succeeds.choose_spec

theorem step_cases (hash : Payload → Digest) (payments : PaymentStore) (call : RefundCall)
    (s : RefundStore) :
    step hash payments s call = s ∨ Succeeds hash payments call s (step hash payments s call) := by
  obtain ⟨reads, subject, command⟩ := call
  cases command <;> exact commit_cases _ s

theorem succeeds_advance_iff {advancing : Advance}
    (advances : advanceOf? call.command = some advancing) :
    Succeeds hash payments call s t ↔ advancing.request.time.aware = true ∧
        call.reads.grants call.subject.identityId advancing.permission advancing.request.time =
          true ∧
        (advancing.serviceOnly = true → call.subject.identityType = .service) ∧
        ∃ result, performAdvance hash call.subject advancing s = .ok (result, t) := by
  obtain ⟨reads, subject, command⟩ := call
  cases command <;> cases advances <;>
    simp only [Succeeds, reviewRequest, approveRequest, scheduleRequest, completeRequest,
      rejectRequest, ↓requirePermission_bind_ok, ↓require_bind_ok, exists_and_left,
      performAdvance, Bool.false_eq_true, false_implies, true_and, true_implies] <;> rfl

end

/-- Reservations and evidence that were written stay written. -/
structure Persists (s t : RefundStore) : Prop where
  idempotency : Outlives s.idempotency t.idempotency
  evidence : ∀ row ∈ s.evidence.rows, row ∈ t.evidence.rows

instance : IsPreorder RefundStore Persists where
  refl store := ⟨.refl store.idempotency, fun _ stored => stored⟩
  trans _ _ _ first second :=
    ⟨first.idempotency.trans second.idempotency,
      fun row stored => second.evidence row (first.evidence row stored)⟩

section

variable {hash : Payload → Digest} {subject : AuthorizationSubject} {s t : RefundStore}
  {time : DateTime} {reads : RefundReads} {payments : PaymentStore} {request : RequestRefundRequest}

private theorem persists_of_same (idempotency : t.idempotency = s.idempotency)
    (evidence : t.evidence = s.evidence) : Persists s t := by
  refine ⟨?_, ?_⟩
  · rw [idempotency]
    exact .refl s.idempotency
  · rw [evidence]
    exact fun _ held => held

private theorem reserve_relates {actorId : Uuid} {operation key : String} {payload : Payload}
    {responseReference : Uuid} :
    Relates Persists
      (reserveIdempotency hash actorId operation key payload responseReference time) := by
  intro s canonical t ran
  obtain ⟨idempotency, reserved, rfl⟩ := within_ok.1 ran
  exact ⟨outlives_of_reserved reserved, fun _ held => held⟩

private theorem getRequest_relates {id : Uuid} : Relates Persists (getRequest id) :=
  .bind .get fun _ => .pure

private theorem refundUtc_relates : Relates Persists (utc time) :=
  .requires <| .pure

private theorem appendDecision_relates {decision : RefundDecision} :
    Relates Persists (appendDecision decision) := by
  intro s _ t ran
  unfold appendDecision at ran
  simp only [↓steps_ok] at ran
  obtain ⟨_, _, rfl⟩ := ran
  exact persists_of_same rfl rfl

private theorem authorizeWith_relates {request : AdvanceRequest} {authorizationId : Option Uuid} :
    Relates Persists (authorizeWith subject request authorizationId) := by
  cases authorizationId with
  | none => exact .pure
  | some id =>
    refine .demands fun _ => .bind refundUtc_relates fun _ => ?_
    intro s _ t ran
    unfold appendAuthorization at ran
    simp only [↓steps_ok] at ran
    obtain ⟨_, _, rfl⟩ := ran
    exact persists_of_same rfl rfl

private theorem appendEvidence_relates {evidence : RefundEvidence} :
    Relates Persists (appendEvidence evidence) := by
  intro s _ t ran
  unfold appendEvidence at ran
  simp only [↓steps_ok, Table.insert?_eq_some] at ran
  obtain ⟨evidence, rows, rfl⟩ := ran
  refine ⟨.refl s.idempotency, fun row held => ?_⟩
  rw [rows]
  exact List.mem_append_left _ held

private theorem createRequest_relates {request : RefundRequest} :
    Relates Persists (createRequest request) := by
  intro s _ t ran
  unfold createRequest recordEvent at ran
  simp only [bind_assoc, ↓steps_ok] at ran
  obtain ⟨_, _, _, _, _, rfl⟩ := ran
  exact persists_of_same rfl rfl

private theorem transitionRequest_relates {refundRequestId : Uuid}
    {targetState : RefundRequestState} {correlationId causationId : Uuid} :
    Relates Persists
      (transitionRequest refundRequestId targetState time correlationId causationId) := by
  refine .bind getRequest_relates fun _ => .demands fun _ => ?_
  intro s _ t ran
  unfold recordEvent at ran
  simp only [bind_assoc, ↓ensureRequestTransitionAllowed_bind_ok, ↓steps_ok] at ran
  obtain ⟨_, _, _, _, _, _, _, rfl⟩ := ran
  exact persists_of_same rfl rfl

private theorem recordDecision_relates (request : AdvanceRequest) (refundRequestId : Uuid)
    (decisionType : RefundDecisionType) (outcome : String) :
    Relates Persists (recordDecision subject request refundRequestId decisionType outcome) :=
  .demands fun _ => .bind refundUtc_relates fun _ => appendDecision_relates

private theorem performAdvance_relates {advancing : Advance} :
    Relates Persists (performAdvance hash subject advancing) :=
  .requires <| .bind reserve_relates fun _ =>
    .bind transitionRequest_relates fun _ => .bind authorizeWith_relates fun _ =>
    .bind (recordDecision_relates _ _ _ _) fun _ => .pure

private theorem validateLinkage_relates :
    Relates Persists (validateLinkage reads payments subject request) :=
  .demands fun _ => .demands fun _ => .requires <| .requires <| .requires <| .requires <|
    .requires <| .requires <| .demands fun _ =>
    .demands fun _ => .requires <| .pure

private theorem requestRefund_relates :
    Relates Persists (requestRefund hash reads payments subject request) := by
  refine .bind (.of_readOnly requirePermission_readOnly) fun _ =>
    .requires <| .requires <|
    .bind reserve_relates fun _ => .bind getRequest_relates fun _ =>
    .whenSome (fun _ => .pure) ?_
  refine .bind validateLinkage_relates fun ⟨intent, attempt⟩ => ?_
  have amountChecked : Relates Persists
      (validateRequestAmount request.refundType request.amountMinor attempt.amountMinor.value) :=
    .requires <| .requires <| .requires <| .require
  exact .bind amountChecked fun _ => .demands fun _ => .demands fun _ =>
    .bind refundUtc_relates fun _ => .bind createRequest_relates fun _ =>
    .bind appendDecision_relates fun _ => .pure

private theorem investigateRequest_relates {request : InvestigateRequest} :
    Relates Persists (investigateRequest hash reads subject request) :=
  .bind (.of_readOnly requirePermission_readOnly) fun _ => .requires <|
    .bind reserve_relates fun _ => .bind getRequest_relates fun _ =>
    .demands fun _ => .requires <| .demands fun _ =>
    .demands fun _ => .bind refundUtc_relates fun _ =>
    .bind appendEvidence_relates fun _ => recordDecision_relates _ _ _ _

end

section

variable {hash : Payload → Digest} {payments : PaymentStore} {call : RefundCall} {s t : RefundStore}

theorem persists_of_succeeds (succeeds : Succeeds hash payments call s t) : Persists s t := by
  obtain ⟨reads, subject, command⟩ := call
  cases advances : advanceOf? command with
  | some advancing =>
    obtain ⟨_, _, _, result, ran⟩ := (succeeds_advance_iff advances).1 succeeds
    exact performAdvance_relates s result t ran
  | none =>
    cases command with
    | requestRefund request =>
      obtain ⟨result, ran⟩ := succeeds
      exact requestRefund_relates s result t ran
    | investigateRequest request =>
      obtain ⟨result, ran⟩ := succeeds
      exact investigateRequest_relates s result t ran
    | reviewRequest => cases advances
    | approveRequest => cases advances
    | scheduleRequest => cases advances
    | completeRequest => cases advances
    | rejectRequest => cases advances

theorem run_persists (hash : Payload → Digest) (store : RefundStore) (inputs : List RefundInput) :
    Persists store (run (refundStep hash) store inputs) := by
  refine run_related (R := Persists) Std.Refl.refl (IsTrans.trans _ _ _) ?_ store inputs
  intro store input
  rcases step_cases hash input.1 input.2 store with stays | succeeds
  · rw [refundStep, stays]
    exact Std.Refl.refl store
  · exact persists_of_succeeds succeeds

end

def decisionOf (subject : AuthorizationSubject) (advancing : Advance) (reasonCode : Code) :
    RefundDecision :=
  { decisionId := advancing.request.decisionId,
    refundRequestId := advancing.request.refundRequestId, decisionType := advancing.decisionType,
    decisionOutcome := advancing.decisionOutcome, decidedByIdentityId := subject.identityId,
    reasonCode, decidedAt := advancing.request.time.instant,
    correlationId := advancing.request.correlationId,
    causationId := advancing.request.refundRequestId }

/-- With its key reserved and its reason well formed, an advance goes through: its request is in
the target state or one step before it, the time is not before the request and the rows to be
written are new. -/
@[mk_iff]
structure GoesThrough (store : RefundStore) (advancing : Advance) (stored : RefundRequest) :
    Prop where
  follows : Follows allowedRequestTransitions stored.state advancing.targetState
  later : stored.requestedAt ≤ advancing.request.time.instant
  newDecision : store.decisions.find advancing.request.decisionId = none
  newAuthorization : ∀ authorizationId ∈ advancing.authorizationId,
    store.authorizations.find authorizationId = none

instance (store : RefundStore) (advancing : Advance) (stored : RefundRequest) :
    Decidable (GoesThrough store advancing stored) :=
  decidable_of_iff _ (goesThrough_iff store advancing stored).symm

section

variable {hash : Payload → Digest} {subject : AuthorizationSubject} {s t : RefundStore}
  {advancing : Advance} {targetState : RefundRequestState}
  {refundRequestId correlationId causationId : Uuid} {time : DateTime}
  {authorizationId : Option Uuid} {request : AdvanceRequest} {held : RefundRequest}
  {reasonCode : Code}

private theorem transition_ok {new : RefundRequest}
    (ran : transitionRequest refundRequestId targetState time correlationId causationId s =
      .ok (new, t)) :
    ∃ held requests events, s.requests.find refundRequestId = some held ∧
      Follows allowedRequestTransitions held.state targetState ∧
      held.requestedAt ≤ time.instant ∧ new.refundRequestId = refundRequestId ∧
      t = { s with requests, events } := by
  unfold transitionRequest recordEvent at ran
  simp only [bind_assoc, ↓getRequest_bind_ok, ↓ensureRequestTransitionAllowed_bind_ok, ↓steps_ok,
    Option.dite_none_right_eq_some, Option.some.injEq]
    at ran
  obtain ⟨held, found, follows, _, new, ⟨later, built⟩, requests, _, rfl, rfl⟩ := ran
  subst built
  exact ⟨held, requests, _, found, follows, later.1, Table.key_of_find found, rfl⟩

private theorem authorizeWith_ok {u : Unit}
    (ran : authorizeWith subject request authorizationId s = .ok (u, t)) :
    (∀ id ∈ authorizationId, s.authorizations.find id = none) ∧
      ∃ authorizations, t = { s with authorizations } := by
  cases authorizationId with
  | none =>
    obtain ⟨_, rfl⟩ := pure_ok.1 ran
    refine ⟨?_, s.authorizations, rfl⟩
    rintro id ⟨⟩
  | some authorizationId =>
    unfold authorizeWith utc appendAuthorization at ran
    simp only [bind_assoc, pure_bind, ↓steps_ok, Table.insert?_eq_some] at ran
    obtain ⟨_, _, _, authorizations, rows, rfl⟩ := ran
    refine ⟨?_, authorizations, rfl⟩
    rintro id ⟨⟩
    exact Table.find_eq_none_of_rows_append rows

theorem performAdvance_ok {result : RefundRequest}
    (ran : performAdvance hash subject advancing s = .ok (result, t)) :
    (16 ≤ advancing.request.idempotencyKey.length ∧ advancing.request.idempotencyKey.length ≤ 128) ∧
      (∃ reference, OnRecord hash t.idempotency subject.identityId advancing.operation
        advancing.request.idempotencyKey (advancePayload advancing.request) reference) ∧
      (∃ held, s.requests.find advancing.request.refundRequestId = some held ∧
        GoesThrough s advancing held) ∧
      ∃ reasonCode, code? advancing.request.reasonCode = some reasonCode ∧
        t.decisions.rows = s.decisions.rows ++ [decisionOf subject advancing reasonCode] := by
  unfold performAdvance advance at ran
  simp only [↓validateIdempotencyKey_bind_ok] at ran
  obtain ⟨validKey, ran⟩ := ran
  obtain ⟨canonical, _, answered, ran⟩ := bind_ok.1 ran
  obtain ⟨idempotency, reserved, rfl⟩ := within_ok.1 answered
  obtain ⟨new, _, transitioned, ran⟩ := bind_ok.1 ran
  obtain ⟨held, requests, events, found, follows, later, id, rfl⟩ := transition_ok transitioned
  obtain ⟨_, _, authorized, ran⟩ := bind_ok.1 ran
  obtain ⟨newAuthorization, authorizations, rfl⟩ := authorizeWith_ok authorized
  unfold recordDecision utc appendDecision at ran
  simp only [bind_assoc, pure_bind, ↓steps_ok, Table.insert?_eq_some, id] at ran
  obtain ⟨reasonCode, valid, _, decisions, rows, _, rfl⟩ := ran
  refine ⟨validKey, ⟨canonical, onRecord_of_reserved reserved⟩, ⟨held, found, follows, later,
    Table.find_eq_none_of_rows_append rows, newAuthorization⟩, reasonCode, valid, rows⟩

private theorem exists_transition (found : s.requests.find refundRequestId = some held)
    (follows : Follows allowedRequestTransitions held.state targetState)
    (later : held.requestedAt ≤ time.instant) (aware : time.aware = true) :
    ∃ new requests events, new.refundRequestId = refundRequestId ∧
      transitionRequest refundRequestId targetState time correlationId causationId s =
        .ok (new, { s with requests, events }) := by
  have either : ∀ (moved : Prop) [Decidable moved] (kept : Option Instant),
      (∀ time ∈ kept, held.requestedAt ≤ time) →
        ∀ other ∈ (if moved then some time.instant else kept), held.requestedAt ≤ other := by
    intro moved _ kept bound
    split
    · exact some_later later
    · exact bound
  have completion := either (targetState = .completed) held.completedAt held.completedLater
  have rejection := either (targetState = .rejected) held.rejectedAt held.rejectedLater
  let new : RefundRequest :=
    { held with
      state := targetState, lastTransitionAt := time.instant,
      completedAt := if targetState = .completed then some time.instant else held.completedAt,
      rejectedAt := if targetState = .rejected then some time.instant else held.rejectedAt,
      transitionLater := later, completedLater := completion, rejectedLater := rejection }
  obtain ⟨requests, rows⟩ := s.requests.exists_replaced new fun _ _ same => same
  let moved : Event :=
    { aggregateType := "refund_request", aggregateId := new.refundRequestId,
      eventType := "refund.request_" ++ new.state.value, occurredAt := time.instant,
      correlationId, causationId }
  refine ⟨new, requests, s.events ++ [moved], Table.key_of_find found, ?_⟩
  unfold transitionRequest recordEvent
  simp only [bind_assoc, ↓getRequest_bind_ok, ↓ensureRequestTransitionAllowed_bind_ok, ↓steps_ok,
    Option.dite_none_right_eq_some, Option.some.injEq, Table.replace?_eq_some]
  exact ⟨held, found, follows, fun _ => aware, new, ⟨⟨later, completion, rejection⟩, rfl⟩,
    requests, rows, rfl, rfl⟩

private theorem exists_authorized
    (valid : code? request.reasonCode = some reasonCode) (aware : request.time.aware = true)
    (new : ∀ id ∈ authorizationId, s.authorizations.find id = none) :
    ∃ authorizations, authorizeWith subject request authorizationId s =
      .ok ((), { s with authorizations }) := by
  cases authorizationId with
  | none => exact ⟨s.authorizations, rfl⟩
  | some authorizationId =>
    let row : RefundAuthorization :=
      { authorizationId, refundRequestId := request.refundRequestId,
        authorizedByIdentityId := subject.identityId, authorityPermission := "refund.approve",
        reasonCode, authorizedAt := request.time.instant, correlationId := request.correlationId,
        causationId := request.refundRequestId }
    have free : ∀ other ∈ s.authorizations.rows, ¬ Row.clash other row :=
      Table.find_eq_none.1 (new authorizationId rfl)
    obtain ⟨authorizations, rows⟩ := Table.exists_inserted free
    refine ⟨authorizations, ?_⟩
    unfold authorizeWith utc appendAuthorization
    simp only [bind_assoc, pure_bind, ↓steps_ok, Table.insert?_eq_some]
    exact ⟨reasonCode, valid, aware, authorizations, rows, rfl⟩

theorem exists_performed {reference : Uuid}
    (validKey : 16 ≤ advancing.request.idempotencyKey.length ∧
      advancing.request.idempotencyKey.length ≤ 128)
    (recorded : OnRecord hash s.idempotency subject.identityId advancing.operation
      advancing.request.idempotencyKey (advancePayload advancing.request) reference)
    (valid : code? advancing.request.reasonCode = some reasonCode)
    (aware : advancing.request.time.aware = true)
    (found : s.requests.find advancing.request.refundRequestId = some held)
    (goes : GoesThrough s advancing held) :
    ∃ result t, performAdvance hash subject advancing s = .ok (result, t) := by
  obtain ⟨new, requests, events, id, transitioned⟩ :=
    exists_transition found
      goes.follows goes.later aware
  obtain ⟨authorizations, authorized⟩ : ∃ authorizations,
      authorizeWith subject advancing.request advancing.authorizationId
        { s with requests, events } = .ok ((), { s with requests, events, authorizations }) :=
    exists_authorized valid aware goes.newAuthorization
  have free : ∀ other ∈ s.decisions.rows,
      ¬ Row.clash other (decisionOf subject advancing reasonCode) :=
    Table.find_eq_none.1 goes.newDecision
  obtain ⟨decisions, rows⟩ := Table.exists_inserted free
  refine ⟨new, { s with requests, events, authorizations, decisions }, ?_⟩
  unfold performAdvance advance
  refine validateIdempotencyKey_bind_ok.2 ⟨validKey, ?_⟩
  refine bind_ok.2 ⟨reference, s, within_ok.2 ⟨s.idempotency,
    recorded.reserves advancing.request.refundRequestId advancing.request.time, rfl⟩, ?_⟩
  refine bind_ok.2 ⟨new, _, transitioned, bind_ok.2 ⟨(), _, authorized, ?_⟩⟩
  unfold recordDecision utc appendDecision
  simp only [bind_assoc, pure_bind, ↓steps_ok, Table.insert?_eq_some, id]
  exact ⟨reasonCode, valid, aware, decisions, rows, trivial, rfl⟩

end

section

variable {hash : Payload → Digest} {reads : RefundReads} {subject : AuthorizationSubject}
  {s t : RefundStore} {request : InvestigateRequest} {u : Unit}

def Investigated (store : RefundStore) (request : InvestigateRequest) : Prop :=
  ∃ row ∈ store.evidence.rows, row.refundRequestId = request.refundRequestId ∧
    row.evidenceType.1 = request.evidenceType ∧
    row.evidenceReference.1 = request.evidenceReference

theorem investigateRequest_ok (ran : investigateRequest hash reads subject request s = .ok (u, t)) :
    ¬ Investigated s request ∧ Investigated t request := by
  unfold investigateRequest at ran
  simp only [↓guards_ok] at ran
  obtain ⟨_, _, _, ran⟩ := ran
  obtain ⟨_, _, answered, ran⟩ := bind_ok.1 ran
  obtain ⟨idempotency, _, rfl⟩ := within_ok.1 answered
  unfold appendEvidence recordDecision utc appendDecision at ran
  simp only [bind_assoc, pure_bind, ↓getRequest_bind_ok, ↓steps_ok, Table.insert?_eq_some] at ran
  obtain ⟨_, _, _, evidenceType, typed, evidenceReference, referred, _, evidence, rows, _, _, _,
    _, _, rfl⟩ := ran
  have typeText : evidenceType.1 = request.evidenceType := refine?_eq_some.1 typed
  have referenceText : evidenceReference.1 = request.evidenceReference := refine?_eq_some.1 referred
  constructor
  · rintro ⟨row, held, sameRefund, sameType, sameReference⟩
    refine Table.apart_of_rows_append rows row held (.inr ?_)
    refine Prod.ext sameRefund (Prod.ext (Subtype.ext ?_) (Subtype.ext ?_))
    · exact sameType.trans typeText.symm
    · exact sameReference.trans referenceText.symm
  · show ∃ row ∈ evidence.rows, _
    rw [rows]
    exact ⟨_, List.mem_append_right _ (List.mem_singleton_self _), rfl, typeText, referenceText⟩

end

def SameAdvance (first retry : AdvanceRequest) : Prop :=
  retry.refundRequestId = first.refundRequestId ∧ retry.reasonCode = first.reasonCode ∧
    retry.idempotencyKey = first.idempotencyKey

/-- The commands are of one kind, with the same payload and key; a new refund is none of them. -/
def SameRequest : RefundCommand → RefundCommand → Prop
  | .reviewRequest first, .reviewRequest retry => SameAdvance first retry
  | .investigateRequest first, .investigateRequest retry =>
    SameAdvance first.toAdvanceRequest retry.toAdvanceRequest ∧
      retry.evidenceType = first.evidenceType ∧ retry.evidenceReference = first.evidenceReference
  | .approveRequest first, .approveRequest retry =>
    SameAdvance first.toAdvanceRequest retry.toAdvanceRequest
  | .scheduleRequest first, .scheduleRequest retry => SameAdvance first retry
  | .completeRequest first, .completeRequest retry => SameAdvance first retry
  | .rejectRequest first, .rejectRequest retry => SameAdvance first retry
  | _, _ => False

def refundIdOf : RefundCommand → Uuid
  | .requestRefund request => request.candidateId
  | .reviewRequest request => request.refundRequestId
  | .investigateRequest request => request.refundRequestId
  | .approveRequest request => request.refundRequestId
  | .scheduleRequest request => request.refundRequestId
  | .completeRequest request => request.refundRequestId
  | .rejectRequest request => request.refundRequestId

/-- A refund, its decisions, authorizations, evidence and events are the same in both stores. -/
structure RefundUntouched (refundRequestId : Uuid) (s t : RefundStore) : Prop where
  request : t.requests.find refundRequestId = s.requests.find refundRequestId
  decisions : t.decisions.rows.filter (fun row => row.refundRequestId = refundRequestId) =
    s.decisions.rows.filter fun row => row.refundRequestId = refundRequestId
  authorizations :
    t.authorizations.rows.filter (fun row => row.refundRequestId = refundRequestId) =
      s.authorizations.rows.filter fun row => row.refundRequestId = refundRequestId
  evidence : t.evidence.rows.filter (fun row => row.refundRequestId = refundRequestId) =
    s.evidence.rows.filter fun row => row.refundRequestId = refundRequestId
  events : t.events.filter (fun event => event.aggregateId = refundRequestId) =
    s.events.filter fun event => event.aggregateId = refundRequestId

/-- The retry is an advance that its subject may request and that goes through. -/
def ActsAgain (store : RefundStore) (retry : RefundCall) : Prop :=
  ∃ advancing ∈ advanceOf? retry.command, advancing.request.time.aware = true ∧
    retry.reads.grants retry.subject.identityId advancing.permission advancing.request.time = true ∧
    (advancing.serviceOnly = true → retry.subject.identityType = .service) ∧
    ∃ stored ∈ store.requests.find advancing.request.refundRequestId,
      GoesThrough store advancing stored
deriving Decidable

section

variable {hash : Payload → Digest} {payments : PaymentStore} {store t : RefundStore}
  {first retry : RefundCall} {advancing : Advance}

private theorem advance_of_same {again : Advance} (same : SameRequest first.command retry.command)
    (repeats : advanceOf? retry.command = some again) :
    refundIdOf retry.command = again.request.refundRequestId ∧
      ∃ advancing, advanceOf? first.command = some advancing ∧
        SameAdvance advancing.request again.request ∧ again.operation = advancing.operation := by
  obtain ⟨_, _, firstCommand⟩ := first
  obtain ⟨_, _, retryCommand⟩ := retry
  cases firstCommand <;> cases retryCommand <;> first
    | exact same.elim
    | (cases repeats; exact ⟨rfl, _, rfl, same, rfl⟩)
    | cases repeats

private theorem investigation_of_same (same : SameRequest first.command retry.command)
    (none : advanceOf? retry.command = none) :
    ∃ request again, first.command = .investigateRequest request ∧
      retry.command = .investigateRequest again ∧
      again.refundRequestId = request.refundRequestId ∧
      again.evidenceType = request.evidenceType ∧
      again.evidenceReference = request.evidenceReference := by
  obtain ⟨_, _, firstCommand⟩ := first
  obtain ⟨_, _, retryCommand⟩ := retry
  cases firstCommand <;> cases retryCommand <;> first
    | exact same.elim
    | exact ⟨_, _, rfl, rfl, same.1.1, same.2.1, same.2.2⟩
    | cases none

private theorem answered_of_same (succeeded : Succeeds hash payments first store t)
    (actor : retry.subject.identityId = first.subject.identityId)
    (same : SameRequest first.command retry.command)
    (repeats : advanceOf? retry.command = some advancing) :
    refundIdOf retry.command = advancing.request.refundRequestId ∧ ∃ reference reasonCode,
        (16 ≤ advancing.request.idempotencyKey.length ∧
          advancing.request.idempotencyKey.length ≤ 128) ∧
        OnRecord hash t.idempotency retry.subject.identityId advancing.operation
          advancing.request.idempotencyKey (advancePayload advancing.request) reference ∧
        code? advancing.request.reasonCode = some reasonCode := by
  obtain ⟨about, advanced, advances, ⟨refund, reason, key⟩, operation⟩ :=
    advance_of_same same repeats
  obtain ⟨_, _, _, result, ran⟩ := (succeeds_advance_iff advances).1 succeeded
  obtain ⟨validKey, ⟨reference, recorded⟩, _, reasonCode, valid, _⟩ := performAdvance_ok ran
  refine ⟨about, reference, reasonCode, ?_, ?_, ?_⟩
  · rwa [key]
  · rwa [advancePayload, actor, operation, key, refund, reason]
  · rwa [reason]

private theorem investigation_refused {again : PaymentStore} {reached result : RefundStore}
    (succeeded : Succeeds hash payments first store t)
    (same : SameRequest first.command retry.command) (none : advanceOf? retry.command = none)
    (persists : Persists t reached) : ¬ Succeeds hash again retry reached result := by
  obtain ⟨request, repeated, command, command', refund, type, reference⟩ :=
    investigation_of_same same none
  intro succeeds
  unfold Succeeds at succeeded succeeds
  rw [command] at succeeded
  rw [command'] at succeeds
  obtain ⟨_, ran⟩ := succeeded
  obtain ⟨_, successAgain⟩ := succeeds
  obtain ⟨row, held, about, sameType, sameReference⟩ := (investigateRequest_ok ran).2
  refine (investigateRequest_ok successAgain).1 ⟨row, persists.evidence row held, ?_, ?_, ?_⟩
  · exact about.trans refund.symm
  · exact sameType.trans type.symm
  · exact sameReference.trans reference.symm

theorem RefundUntouched.refl (refundRequestId : Uuid) (store : RefundStore) :
    RefundUntouched refundRequestId store store :=
  ⟨rfl, rfl, rfl, rfl, rfl⟩

private theorem actsAgain_of_succeeds (advances : advanceOf? retry.command = some advancing)
    (succeeds : Succeeds hash payments retry store t) : ActsAgain store retry := by
  obtain ⟨aware, granted, service, result, ran⟩ := (succeeds_advance_iff advances).1 succeeds
  obtain ⟨_, _, goes, _⟩ := performAdvance_ok ran
  exact ⟨advancing, advances, aware, granted, service, goes⟩

private theorem touched_of_actsAgain {reference : Uuid} {reasonCode : Code}
    (advances : advanceOf? retry.command = some advancing)
    (validKey : 16 ≤ advancing.request.idempotencyKey.length ∧
      advancing.request.idempotencyKey.length ≤ 128)
    (recorded : OnRecord hash store.idempotency retry.subject.identityId advancing.operation
      advancing.request.idempotencyKey (advancePayload advancing.request) reference)
    (valid : code? advancing.request.reasonCode = some reasonCode) (acts : ActsAgain store retry) :
    ¬ RefundUntouched advancing.request.refundRequestId store
      (refundStep hash store (payments, retry)) := by
  obtain ⟨again, repeats, aware, granted, service, held, found, goes⟩ := acts
  cases advances.symm.trans repeats
  obtain ⟨result, t, ran⟩ := exists_performed validKey recorded valid aware found goes
  have succeeds : Succeeds hash payments retry store t :=
    (succeeds_advance_iff advances).2 ⟨aware, granted, service, result, ran⟩
  obtain ⟨_, _, _, reason, _, rows⟩ := performAdvance_ok ran
  intro untouched
  have same := untouched.decisions
  rw [refundStep, step_of_succeeds succeeds, rows, List.filter_append] at same
  simp [decisionOf] at same

end

/-- After a refund command that succeeded in any run and any further calls, a retry of it with the
same actor, key and payload leaves the refund as it is exactly when it does not act again. -/
theorem refund_retry_untouched_iff (hash : Payload → Digest) (earlier later : List RefundInput)
    (payments again : PaymentStore) (first retry : RefundCall) (after : RefundStore)
    (succeeded : Succeeds hash payments first (run (refundStep hash) {} earlier) after)
    (actor : retry.subject.identityId = first.subject.identityId)
    (same : SameRequest first.command retry.command) :
    let reached := run (refundStep hash) after later
    RefundUntouched (refundIdOf retry.command) reached (refundStep hash reached (again, retry)) ↔
      ¬ ActsAgain reached retry := by
  intro reached
  have persists : Persists after reached := run_persists hash after later
  have unchanged : step hash again reached retry = reached →
      RefundUntouched (refundIdOf retry.command) reached
        (refundStep hash reached (again, retry)) := by
    intro same
    rw [refundStep, same]
    exact .refl _ reached
  cases repeats : advanceOf? retry.command with
  | some advancing =>
    obtain ⟨about, reference, reasonCode, validKey, recorded, valid⟩ :=
      answered_of_same succeeded actor same repeats
    constructor
    · intro untouched acts
      rw [about] at untouched
      exact touched_of_actsAgain repeats validKey (recorded.outlives persists.idempotency) valid
        acts untouched
    · intro inert
      rcases step_cases hash again retry reached with same | succeeds
      · exact unchanged same
      · exact absurd (actsAgain_of_succeeds repeats succeeds) inert
  | none =>
    have inert : ¬ ActsAgain reached retry := by
      rintro ⟨advancing, advances, _⟩
      cases repeats.symm.trans advances
    refine iff_of_true ?_ inert
    rcases step_cases hash again retry reached with unmoved | succeeds
    · exact unchanged unmoved
    · exact absurd succeeds (investigation_refused succeeded same repeats persists)

/-! A refund 301 of the captured sample payment, requested by its rider, handled by staff 7. -/

def capturedPayments : PaymentStore :=
  run (Payment.Application.step sampleConfig) {} captureOnce

def inputBy (subject : AuthorizationSubject) (command : RefundCommand) : RefundInput :=
  (capturedPayments,
    { reads :=
        { grants := sampleReads.grants, calculations := sampleReads.calculations,
          journals := sampleReads.journals },
      subject, command })

def requestHalf : RefundInput :=
  inputBy ⟨1, .rider⟩ (.requestRefund
    { rideId := 10, fareCalculationId := 20, paymentIntentId := 100, paymentAttemptId := 101,
      ledgerJournalId := 30, refundType := .partialRefund, amountMinor := 250,
      reasonCode := "refund.partial", idempotencyKey := "refund-request-0001", correlationId := 51,
      causationId := 51, time := moment 200, candidateId := 301, decisionId := 401 })

def handle (key : String) (decisionId : Uuid) (time : Instant) : AdvanceRequest :=
  { refundRequestId := 301, reasonCode := "refund.handled", idempotencyKey := key,
    correlationId := 52, time := moment time, decisionId }

def approveAt (decisionId authorizationId : Uuid) (time : Instant) : RefundInput :=
  inputBy ⟨7, .staff⟩ (.approveRequest
    { toAdvanceRequest := handle "refund-approve-0001" decisionId time, authorizationId })

def scheduleAt (decisionId : Uuid) (time : Instant) : RefundInput :=
  inputBy ⟨7, .staff⟩ (.scheduleRequest (handle "refund-schedule-001" decisionId time))

def reviewed : List RefundInput :=
  [requestHalf, inputBy ⟨7, .staff⟩ (.reviewRequest (handle "refund-review-00001" 402 201))]

private theorem approval_succeeds : Succeeds sampleHash capturedPayments (approveAt 403 501 202).2
      (run (refundStep sampleHash) {} reviewed)
      (run (refundStep sampleHash) {} (reviewed ++ [approveAt 403 501 202])) := by
  rcases step_cases sampleHash capturedPayments (approveAt 403 501 202).2
    (run (refundStep sampleHash) {} reviewed) with stays | succeeds
  · have events := congrArg (fun store => store.events.length) stays
    exact absurd events (by decide +kernel)
  · rwa [run_append]

theorem approval_retried_late :
    let reached := run (refundStep sampleHash)
      (run (refundStep sampleHash) {} (reviewed ++ [approveAt 403 501 202])) [scheduleAt 404 203]
    RefundUntouched 301 reached (refundStep sampleHash reached (approveAt 405 502 204)) := by
  refine (refund_retry_untouched_iff sampleHash reviewed [scheduleAt 404 203] capturedPayments
    capturedPayments (approveAt 403 501 202).2 (approveAt 405 502 204).2 _ approval_succeeds rfl
    ⟨rfl, rfl, rfl⟩).2 ?_
  decide +kernel

/-- The approval is repeated at once: the refund is authorized twice. -/
theorem approval_acts_again :
    Succeeds sampleHash capturedPayments (approveAt 403 501 202).2
        (run (refundStep sampleHash) {} reviewed)
        (run (refundStep sampleHash) {} (reviewed ++ [approveAt 403 501 202])) ∧
      SameRequest (approveAt 403 501 202).2.command (approveAt 405 502 204).2.command ∧
      let reached := run (refundStep sampleHash) {} (reviewed ++ [approveAt 403 501 202])
      ¬ RefundUntouched 301 reached (refundStep sampleHash reached (approveAt 405 502 204)) := by
  refine ⟨approval_succeeds, ⟨rfl, rfl, rfl⟩, ?_⟩
  intro reached untouched
  have events := congrArg List.length untouched.events
  revert events
  decide +kernel

end Ayo.Refund.Retries
