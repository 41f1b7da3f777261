/- digest: When a repeated reconciliation or approval is recorded again. -/

import Ayo.Settlement.Reservations

namespace Ayo.Settlement.Reruns

open Kernel.UnitOfWork Kernel.KeyedTable Kernel.Run Core.Values Core.Authorization Core.Lifecycle
  Core.Retries
open Payment.SingleCapture (sampleHash moment)
open Models
open Repository hiding createBatch
open Application Effects Settlement.System Reservations

structure Unappended (s t : SettlementStore) : Prop where
  records : t.records = s.records
  exceptions : t.exceptions = s.exceptions
  approvals : t.approvals = s.approvals
  events : t.events = s.events

/-- A repeated command fails or returns the original outcome, and either way nothing is appended. -/
def RerunIdempotent {α : Type} (original : α) (store : SettlementStore)
    (rerun : SettlementTransaction α) : Prop :=
  (∀ result t, rerun store = .ok (result, t) → result = original) ∧
    Unappended store (commit rerun store)

def SameReconciliation (first retry : ReconcileItemRequest) : Prop :=
  retry.settlementBatchId = first.settlementBatchId ∧
    retry.settlementItemId = first.settlementItemId ∧ retry.result = first.result ∧
    retry.reasonCode = first.reasonCode ∧ retry.idempotencyKey = first.idempotencyKey

def SameApproval (first retry : BatchRequest) : Prop :=
  retry.settlementBatchId = first.settlementBatchId ∧ retry.reasonCode = first.reasonCode ∧
    retry.idempotencyKey = first.idempotencyKey

/-- A reconciliation finds its batch open to it, its item in the batch, its times in order and its
rows new, and the service may request it. -/
structure ReconcilesAgain (reads : SettlementReads) (subject : AuthorizationSubject)
    (store : SettlementStore) (retry : ReconcileItemRequest) (batch : SettlementBatch)
    (item : SettlementItem) : Prop where
  aware : retry.time.aware = true
  granted : reads.grants subject.identityId "settlement.reconcile.run" retry.time = true
  service : subject.identityType = .service
  found : store.batches.find retry.settlementBatchId = some batch
  unfinished : batch.state ∈ [.created, .collecting, .reconciling]
  later : batch.state ≠ .reconciling ∨ raisesException retry.result = true →
    batch.createdAt ≤ retry.time.instant
  collected : store.items.find retry.settlementItemId = some item
  inBatch : item.settlementBatchId = retry.settlementBatchId
  newRecord : store.records.find retry.recordId = none
  newException : raisesException retry.result = true →
    ∀ exception ∈ store.exceptions.rows, exception.reconciliationExceptionId ≠ retry.exceptionId

/-- An approval finds its batch balanced and made by another, its human approver permitted, and no
equal decision of the same time recorded. -/
structure ApprovesAgain (reads : SettlementReads) (subject : AuthorizationSubject)
    (store : SettlementStore) (retry : BatchRequest) (batch : SettlementBatch) : Prop where
  aware : retry.time.aware = true
  granted : reads.grants subject.identityId "settlement.ready.approve" retry.time = true
  human : subject.identityType = .staff ∨ subject.identityType = .administrator
  found : store.batches.find retry.settlementBatchId = some batch
  balanced : batch.state = .balanced
  maker : batch.createdByIdentityId ≠ subject.identityId
  newApproval : ∀ approval ∈ store.approvals.rows,
    approval.settlementApprovalId ≠ retry.evidenceId ∧
      ¬ (approval.settlementBatchId = retry.settlementBatchId ∧ approval.decision = .approved ∧
        approval.decidedByIdentityId = subject.identityId ∧
        approval.decidedAt = retry.time.instant)

section

variable {s t : SettlementStore} {id correlationId causationId : Uuid}
  {target : SettlementBatchState} {time : DateTime} {batch changed : SettlementBatch}

structure WentOn (s t : SettlementStore) (batch changed : SettlementBatch)
    (target : SettlementBatchState) : Prop where
  state : changed.state = target
  id : changed.settlementBatchId = batch.settlementBatchId
  createdAt : changed.createdAt = batch.createdAt
  found : t.batches.find batch.settlementBatchId = some changed
  store : ∃ batches events, t = { s with batches, events }

private theorem wentOn_of_transition
    (ran : transitionBatch id target time correlationId causationId s =
      .ok (changed, t)) (found : s.batches.find id = some batch) :
    Follows allowedBatchTransitions batch.state target ∧ batch.createdAt ≤ time.instant ∧
      WentOn s t batch changed target := by
  unfold transitionBatch at ran
  simp only [↓getBatch_bind_ok, ↓ensureBatchTransitionAllowed_bind_ok, ↓steps_ok,
    ↓recordSettlementEvent_bind_ok, found, Option.some.injEq, Table.replace?_eq_some,
    Option.dite_none_right_eq_some] at ran
  obtain ⟨_, rfl, follows, _, changed, ⟨later, built⟩, batches, rows, rfl, rfl⟩ := ran
  have sameId : batch.settlementBatchId = id := Table.key_of_find found
  have kept : batches.find batch.settlementBatchId = some changed := by
    have sameKey : batch.settlementBatchId = Row.key changed := by
      subst built
      rfl
    rw [Table.find_of_rows_replaced rows, if_pos sameKey, sameId, found]
    rfl
  subst built
  exact ⟨follows, later.1, rfl, rfl, rfl, kept, batches, _, rfl⟩

private theorem exists_wentOn (found : s.batches.find id = some batch)
    (follows : Follows allowedBatchTransitions batch.state target)
    (later : batch.createdAt ≤ time.instant) (aware : time.aware = true) :
    ∃ new t, transitionBatch id target time correlationId causationId s =
      .ok (new, t) ∧ WentOn s t batch new target := by
  have readyLater : ∀ ready ∈ (if target = .readyForSettlement then some time.instant
      else batch.readyForSettlementAt), batch.createdAt ≤ ready := by
    split
    · exact some_later later
    · exact batch.readyLater
  let new : SettlementBatch :=
    { batch with
      state := target, lastTransitionAt := time.instant,
      readyForSettlementAt := if target = .readyForSettlement then some time.instant
        else batch.readyForSettlementAt,
      transitionLater := later, readyLater }
  obtain ⟨batches, rows⟩ := s.batches.exists_replaced new fun _ _ same => same
  let moved : Event :=
    { aggregateType := "settlement_batch", aggregateId := new.settlementBatchId,
      eventType := "settlement.batch_" ++ new.state.value, occurredAt := time.instant,
      correlationId, causationId }
  have ran : transitionBatch id target time correlationId causationId s =
      .ok (new, { s with batches, events := s.events ++ [moved] }) := by
    unfold transitionBatch
    simp only [↓getBatch_bind_ok, ↓ensureBatchTransitionAllowed_bind_ok, ↓steps_ok,
      ↓recordSettlementEvent_bind_ok, found, Option.some.injEq, Table.replace?_eq_some,
      Option.dite_none_right_eq_some]
    exact ⟨batch, rfl, follows, fun _ => aware, new, ⟨⟨later, readyLater⟩, rfl⟩, batches, rows,
      rfl, rfl⟩
  exact ⟨new, _, ran, (wentOn_of_transition ran found).2.2⟩

end

def reconcilePayload (request : ReconcileItemRequest) : Payload :=
  [("settlement_batch_id", .uuid request.settlementBatchId),
   ("settlement_item_id", .uuid request.settlementItemId),
   ("result", .text request.result.value), ("reason_code", .text request.reasonCode)]

def approvePayload (request : BatchRequest) : Payload :=
  [("settlement_batch_id", .uuid request.settlementBatchId),
   ("reason_code", .text request.reasonCode)]

def recordOf (subject : AuthorizationSubject) (request : ReconcileItemRequest)
    (item : SettlementItem) (reasonCode : Code) : ReconciliationRecord :=
  { reconciliationRecordId := request.recordId, settlementBatchId := request.settlementBatchId,
    settlementItemId := request.settlementItemId, reconciliationType := item.reconciliationType,
    result := request.result, reasonCode, decisionSafe := request.decisionSafe,
    recordedByIdentityId := subject.identityId, recordedAt := request.time.instant,
    correlationId := request.correlationId, causationId := request.settlementItemId }

section

variable {hash : Payload → Digest} {reads : SettlementReads} {subject : AuthorizationSubject}
  {s t : SettlementStore} {request : ReconcileItemRequest} {batch started : SettlementBatch}
  {item : SettlementItem}

private theorem started_ok
    (ran : startedBatch batch [.created, .collecting] .reconciling request.time
      request.correlationId request.settlementItemId s = .ok (started, t))
    (found : s.batches.find request.settlementBatchId = some batch)
    (reconciling : started.state = .reconciling) :
    batch.state ∈ [.created, .collecting, .reconciling] ∧
      (batch.state ≠ .reconciling → batch.createdAt ≤ request.time.instant) ∧
      started.createdAt = batch.createdAt ∧
      t.batches.find request.settlementBatchId = some started ∧
      ∃ batches events, t = { s with batches, events } := by
  have sameId : batch.settlementBatchId = request.settlementBatchId := Table.key_of_find found
  unfold startedBatch at ran
  simp only [ite_ok, pure_ok] at ran
  obtain ⟨listed, transitioned⟩ | ⟨_, rfl, rfl⟩ := ran
  · rw [← sameId] at found
    obtain ⟨_, later, went⟩ := wentOn_of_transition transitioned found
    have unfinished : batch.state ∈ [SettlementBatchState.created, .collecting, .reconciling] :=
      List.mem_append_left [SettlementBatchState.reconciling] listed
    refine ⟨unfinished, fun _ => later, went.createdAt, ?_, went.store⟩
    rw [← sameId]
    exact went.found
  · exact ⟨by simp [reconciling], fun differs => absurd reconciling differs, rfl, found,
      s.batches, s.events, rfl⟩

private theorem raised_ok {u : Unit} (ran : raiseException subject request s = .ok (u, t))
    (found : s.batches.find request.settlementBatchId = some batch) :
    (raisesException request.result = true → batch.createdAt ≤ request.time.instant ∧
      ∀ exception ∈ s.exceptions.rows, exception.reconciliationExceptionId ≠ request.exceptionId) ∧
      t.records = s.records ∧ t.idempotency = s.idempotency := by
  unfold raiseException at ran
  simp only [ite_ok, ↓settlementUtc_bind_ok, ↓appendException_bind_ok, pure_ok] at ran
  obtain ⟨raises, _, _, exceptions, rows, ran⟩ | ⟨silent, _, rfl⟩ := ran
  · obtain ⟨new, transitioned, _⟩ := bind_pure_ok.1 ran
    obtain ⟨_, later, _, _, _, _, batches, events, rfl⟩ := wentOn_of_transition transitioned found
    exact ⟨fun _ => ⟨later, Table.apart_of_rows_append rows⟩, rfl, rfl⟩
  · exact ⟨fun raises => absurd raises silent, rfl, rfl⟩

theorem reconciled_ok {record : ReconciliationRecord}
    (ran : reconcileItem hash reads subject request s = .ok (record, t)) :
    (16 ≤ request.idempotencyKey.length ∧ request.idempotencyKey.length ≤ 128) ∧
      (∃ reference, OnRecord hash t.idempotency subject.identityId "settlement.item.reconcile"
        request.idempotencyKey (reconcilePayload request) reference) ∧
      (∃ reasonCode, code? request.reasonCode = some reasonCode) ∧
      (∃ batch item, ReconcilesAgain reads subject s request batch item) ∧
      t.records.rows = s.records.rows ++ [record] := by
  unfold reconcileItem requireServiceIdentity at ran
  simp only [↓guards_ok] at ran
  obtain ⟨aware, granted, service, validKey, ran⟩ := ran
  obtain ⟨reference, _, answered, ran⟩ := bind_ok.1 ran
  obtain ⟨idempotency, reserved, rfl⟩ := within_ok.1 answered
  obtain ⟨batch, found, ran⟩ := batchOf_bind_ok.1 ran
  obtain ⟨started, _, starts, ran⟩ := bind_ok.1 ran
  obtain ⟨reconciling, ran⟩ := require_bind_ok.1 ran
  obtain ⟨unfinished, later, created, stillFound, batches, events, rfl⟩ :=
    started_ok starts found reconciling
  unfold appendReconciliationRecord at ran
  simp only [bind_assoc, pure_bind, ↓steps_ok, ↓getItem_bind_ok, ↓settlementUtc_bind_ok,
    Table.insert?_eq_some] at ran
  obtain ⟨item, collected, inBatch, reasonCode, valid, _, records, rows, ran⟩ := ran
  obtain ⟨_, raised, rfl⟩ := bind_pure_ok.1 ran
  obtain ⟨raises, sameRecords, sameReserved⟩ := raised_ok raised stillFound
  rw [sameReserved, sameRecords]
  refine ⟨validKey, ⟨reference, onRecord_of_reserved reserved⟩, ⟨reasonCode, valid⟩,
    ⟨batch, item, aware, granted, service, found, unfinished, ?_, collected, inBatch,
      Table.find_eq_none_of_rows_append rows, fun raising => (raises raising).2⟩, rows⟩
  rintro (differs | raising)
  · exact later differs
  · rw [← created]
    exact (raises raising).1

private theorem exists_started (found : s.batches.find request.settlementBatchId = some batch)
    (unfinished : batch.state ∈ [.created, .collecting, .reconciling])
    (later : batch.state ≠ .reconciling → batch.createdAt ≤ request.time.instant)
    (aware : request.time.aware = true) :
    ∃ started t, startedBatch batch [.created, .collecting] .reconciling request.time
      request.correlationId request.settlementItemId s = .ok (started, t) ∧
        started.state = .reconciling := by
  have sameId : batch.settlementBatchId = request.settlementBatchId := Table.key_of_find found
  by_cases reconciling : batch.state = .reconciling
  · exact ⟨batch, s, by simp [startedBatch, reconciling], reconciling⟩
  · have listed : batch.state ∈ [SettlementBatchState.created, .collecting] := by
      simpa [reconciling] using unfinished
    have follows : Follows allowedBatchTransitions batch.state .reconciling := by
      simp only [List.mem_cons, List.not_mem_nil, or_false] at listed
      rcases listed with same | same <;> rw [same] <;> decide
    rw [← sameId] at found
    obtain ⟨started, t, ran, went⟩ := exists_wentOn found follows (later reconciling) aware
    exact ⟨started, t, by rwa [startedBatch, if_pos listed], went.state⟩

private theorem exists_raised (found : s.batches.find request.settlementBatchId = some batch)
    (reconciling : batch.state = .reconciling)
    (collected : s.items.find request.settlementItemId = some item)
    (raises : raisesException request.result = true → batch.createdAt ≤ request.time.instant ∧
      ∀ exception ∈ s.exceptions.rows, exception.reconciliationExceptionId ≠ request.exceptionId)
    (aware : request.time.aware = true) : ∃ t, raiseException subject request s = .ok ((), t) := by
  by_cases raising : raisesException request.result = true
  · obtain ⟨later, new⟩ := raises raising
    let exception : ReconciliationException :=
      { reconciliationExceptionId := request.exceptionId,
        settlementBatchId := request.settlementBatchId,
        settlementItemId := request.settlementItemId,
        exceptionType := exceptionFromResult request.result, exceptionState := .exception,
        detailsSafe := [("reason_code", request.reasonCode)],
        raisedByIdentityId := subject.identityId, raisedAt := request.time.instant,
        resolutionCode := none, resolvedByIdentityId := none, resolvedAt := none,
        correlationId := request.correlationId, causationId := request.settlementItemId,
        chronological := none_later request.time.instant }
    have free : ∀ other ∈ s.exceptions.rows, ¬ Row.clash other exception := new
    obtain ⟨exceptions, rows⟩ := Table.exists_inserted free
    have follows : Follows allowedBatchTransitions batch.state .exception := by
      rw [reconciling]
      decide
    obtain ⟨changed, t, ran, _⟩ : ∃ changed t,
        transitionBatch request.settlementBatchId .exception request.time request.correlationId
          request.settlementItemId { s with exceptions } = .ok (changed, t) ∧
            WentOn { s with exceptions } t batch changed .exception :=
      exists_wentOn found follows later aware
    refine ⟨t, ?_⟩
    unfold raiseException
    rw [if_pos raising]
    refine settlementUtc_bind_ok.2 ⟨aware, appendException_bind_ok.2 ⟨?_, exceptions, rows, ?_⟩⟩
    · rw [collected]
      rfl
    · exact bind_ok.2 ⟨changed, t, ran, pure_ok.2 ⟨rfl, rfl⟩⟩
  · exact ⟨s, by simp [raiseException, raising]⟩

theorem exists_reconciled {reference : Uuid} {reasonCode : Code}
    (validKey : 16 ≤ request.idempotencyKey.length ∧ request.idempotencyKey.length ≤ 128)
    (recorded : OnRecord hash s.idempotency subject.identityId "settlement.item.reconcile"
      request.idempotencyKey (reconcilePayload request) reference)
    (valid : code? request.reasonCode = some reasonCode)
    (reconciles : ReconcilesAgain reads subject s request batch item) :
    ∃ record t, reconcileItem hash reads subject request s = .ok (record, t) := by
  obtain ⟨aware, granted, service, found, unfinished, later, collected, inBatch, newRecord,
    newException⟩ := reconciles
  obtain ⟨started, middle, starts, reconciling⟩ :=
    exists_started found unfinished (fun differs => later (.inl differs)) aware
  obtain ⟨_, _, created, stillFound, batches, events, rfl⟩ := started_ok starts found reconciling
  let record := recordOf subject request item reasonCode
  have free : ∀ other ∈ s.records.rows, ¬ Row.clash other record :=
    Table.find_eq_none.1 newRecord
  obtain ⟨records, rows⟩ := Table.exists_inserted free
  obtain ⟨t, raised⟩ : ∃ t,
      raiseException subject request { s with batches, events, records } = .ok ((), t) := by
    refine exists_raised stillFound reconciling collected (fun raising => ⟨?_, ?_⟩) aware
    · rw [created]
      exact later (.inr raising)
    · exact newException raising
  refine ⟨record, t, ?_⟩
  unfold reconcileItem requireServiceIdentity
  refine requirePermission_bind_ok.2 ⟨aware, granted, require_bind_ok.2 ⟨service,
    validateIdempotencyKey_bind_ok.2 ⟨validKey, ?_⟩⟩⟩
  refine bind_ok.2 ⟨reference, s, within_ok.2 ⟨s.idempotency,
    recorded.reserves request.settlementItemId request.time, rfl⟩, ?_⟩
  refine batchOf_bind_ok.2 ⟨batch, found, bind_ok.2 ⟨started, _, starts, ?_⟩⟩
  unfold appendReconciliationRecord
  simp only [bind_assoc, pure_bind, ↓steps_ok, ↓getItem_bind_ok, ↓settlementUtc_bind_ok,
    Table.insert?_eq_some]
  exact ⟨reconciling, item, collected, inBatch, reasonCode, valid, aware, records, rows,
    bind_ok.2 ⟨(), t, raised, pure_ok.2 ⟨rfl, rfl⟩⟩⟩

end

section

variable {hash : Payload → Digest} {reads : SettlementReads} {subject : AuthorizationSubject}
  {s t : SettlementStore} {request : BatchRequest} {batch : SettlementBatch}

theorem approved_ok {approval : SettlementApproval}
    (ran : approveSettlementReadiness hash reads subject request s = .ok (approval, t)) :
    (16 ≤ request.idempotencyKey.length ∧ request.idempotencyKey.length ≤ 128) ∧
      (∃ reference, OnRecord hash t.idempotency subject.identityId
        "settlement.batch.finance_approve" request.idempotencyKey (approvePayload request)
          reference) ∧
      (∃ reasonCode, code? request.reasonCode = some reasonCode) ∧
      (∃ batch, ApprovesAgain reads subject s request batch) ∧
      t.approvals.rows = s.approvals.rows ++ [approval] := by
  unfold approveSettlementReadiness recordDecision appendApproval at ran
  simp only [↓guards_ok] at ran
  obtain ⟨aware, granted, validKey, ran⟩ := ran
  obtain ⟨reference, _, answered, ran⟩ := bind_ok.1 ran
  obtain ⟨idempotency, reserved, rfl⟩ := within_ok.1 answered
  simp only [↓batchOf_bind_ok, ↓steps_ok, ↓settlementUtc_bind_ok, Table.insert?_eq_some,
    Option.dite_none_right_eq_some, Option.some.injEq] at ran
  obtain ⟨batch, found, balanced, human, maker, reasonCode, valid, actorType, typed, _, approval,
    ⟨_, built⟩, approvals, rows, rfl, rfl⟩ := ran
  refine ⟨validKey, ⟨reference, onRecord_of_reserved reserved⟩, ⟨reasonCode, valid⟩,
    ⟨batch, aware, granted, human, found, balanced, maker, ?_⟩, rows⟩
  intro other held
  have apart := Table.apart_of_rows_append rows other held
  subst built
  refine ⟨fun same => apart (.inl same), ?_⟩
  rintro ⟨sameBatch, decision, decider, decidedAt⟩
  exact apart (.inr (Prod.ext sameBatch (Prod.ext decision (Prod.ext decider decidedAt))))

theorem exists_approved {reference : Uuid} {reasonCode : Code}
    (validKey : 16 ≤ request.idempotencyKey.length ∧ request.idempotencyKey.length ≤ 128)
    (recorded : OnRecord hash s.idempotency subject.identityId
      "settlement.batch.finance_approve" request.idempotencyKey (approvePayload request) reference)
    (valid : code? request.reasonCode = some reasonCode)
    (approves : ApprovesAgain reads subject s request batch) :
    ∃ approval t, approveSettlementReadiness hash reads subject request s = .ok (approval, t) := by
  obtain ⟨aware, granted, human, found, balanced, maker, newApproval⟩ := approves
  obtain ⟨actorType, typed⟩ : ∃ actorType : { text : String //
      text = "staff" ∨ text = "administrator" },
      refine? _ subject.identityType.actorType = some actorType := by
    rcases human with staff | administrator
    · exact ⟨⟨"staff", .inl rfl⟩, by rw [staff, refine?_eq_some]; rfl⟩
    · exact ⟨⟨"administrator", .inr rfl⟩, by rw [administrator, refine?_eq_some]; rfl⟩
  let approval : SettlementApproval :=
    { settlementApprovalId := request.evidenceId, settlementBatchId := request.settlementBatchId,
      decision := .approved, reasonCode, preparedByIdentityId := batch.createdByIdentityId,
      decidedByIdentityId := subject.identityId, decidedByActorType := actorType,
      decidedAt := request.time.instant, correlationId := request.correlationId,
      causationId := request.settlementBatchId, separationOfDuties := maker }
  have free : ∀ other ∈ s.approvals.rows, ¬ Row.clash other approval := by
    rintro other held (sameId | same)
    · exact (newApproval other held).1 sameId
    · simp only [Prod.mk.injEq] at same
      exact (newApproval other held).2 same
  obtain ⟨approvals, rows⟩ := Table.exists_inserted free
  refine ⟨approval, { s with approvals }, ?_⟩
  unfold approveSettlementReadiness
  refine requirePermission_bind_ok.2 ⟨aware, granted, validateIdempotencyKey_bind_ok.2
    ⟨validKey, ?_⟩⟩
  refine bind_ok.2 ⟨reference, s, within_ok.2 ⟨s.idempotency,
    recorded.reserves request.settlementBatchId request.time, rfl⟩, ?_⟩
  unfold recordDecision appendApproval
  simp only [↓batchOf_bind_ok, ↓steps_ok, ↓settlementUtc_bind_ok, Table.insert?_eq_some,
    Option.dite_none_right_eq_some, Option.some.injEq]
  exact ⟨batch, found, balanced, human, maker, reasonCode, valid, actorType, typed, aware, approval,
    ⟨maker, rfl⟩, approvals, rows, rfl, rfl⟩

end

section

variable {α : Type} {original : α} {store s t reached : SettlementStore}
  {rerun : SettlementTransaction α} {hash : Payload → Digest} {reads again : SettlementReads}
  {actor subject : AuthorizationSubject}

private theorem rerunIdempotent_of_fails (fails : ∀ result t, rerun store ≠ .ok (result, t)) :
    RerunIdempotent original store rerun := by
  refine ⟨fun result t ran => absurd ran (fails result t), ?_⟩
  rcases commit_cases rerun store with stays | ⟨result, ran⟩
  · rw [stays]
    exact ⟨rfl, rfl, rfl, rfl⟩
  · exact absurd ran (fails result _)

private theorem rows_ne_append {ρ κ : Type} [Row ρ κ] {s t : Table ρ} {row : ρ}
    (rows : t.rows = s.rows ++ [row]) : t ≠ s := by
  rintro rfl
  simp at rows

private theorem reconciliation_rerun_iff {first retry : ReconcileItemRequest}
    {record : ReconciliationRecord} (sameActor : subject.identityId = actor.identityId)
    (same : SameReconciliation first retry)
    (ran : reconcileItem hash reads actor first s = .ok (record, t))
    (kept : KeepsReserved t reached) :
    RerunIdempotent record reached (reconcileItem hash again subject retry) ↔
      ¬ ∃ batch item, ReconcilesAgain again subject reached retry batch item := by
  obtain ⟨validKey, ⟨reference, recorded⟩, ⟨reasonCode, valid⟩, _, _⟩ := reconciled_ok ran
  obtain ⟨sameBatch, sameItem, sameResult, sameReason, sameKey⟩ := same
  have stillRecorded := recorded.outlives kept
  rw [reconcilePayload, ← sameBatch, ← sameItem, ← sameResult, ← sameReason, ← sameKey,
    ← sameActor] at stillRecorded
  rw [← sameKey] at validKey
  rw [← sameReason] at valid
  constructor
  · rintro ⟨_, unappended⟩ ⟨batch, item, reconciles⟩
    obtain ⟨result, final, succeeds⟩ := exists_reconciled validKey stillRecorded valid reconciles
    rw [commit_of_ok succeeds] at unappended
    exact rows_ne_append (reconciled_ok succeeds).2.2.2.2 unappended.records
  · intro refused
    exact rerunIdempotent_of_fails fun result final succeeds =>
      refused (reconciled_ok succeeds).2.2.2.1

private theorem approval_rerun_iff {first retry : BatchRequest} {approval : SettlementApproval}
    (sameActor : subject.identityId = actor.identityId) (same : SameApproval first retry)
    (ran : approveSettlementReadiness hash reads actor first s = .ok (approval, t))
    (kept : KeepsReserved t reached) :
    RerunIdempotent approval reached (approveSettlementReadiness hash again subject retry) ↔
      ¬ ∃ batch, ApprovesAgain again subject reached retry batch := by
  obtain ⟨validKey, ⟨reference, recorded⟩, ⟨reasonCode, valid⟩, _, _⟩ := approved_ok ran
  obtain ⟨sameBatch, sameReason, sameKey⟩ := same
  have stillRecorded := recorded.outlives kept
  rw [approvePayload, ← sameBatch, ← sameReason, ← sameKey, ← sameActor] at stillRecorded
  rw [← sameKey] at validKey
  rw [← sameReason] at valid
  constructor
  · rintro ⟨_, unappended⟩ ⟨batch, approves⟩
    obtain ⟨result, final, succeeds⟩ := exists_approved validKey stillRecorded valid approves
    rw [commit_of_ok succeeds] at unappended
    exact rows_ne_append (approved_ok succeeds).2.2.2.2 unappended.approvals
  · intro refused
    exact rerunIdempotent_of_fails fun result final succeeds =>
      refused (approved_ok succeeds).2.2.2.1

end

/-- After a reconciliation or an approval that succeeded in any run and any further calls, running
it again with the same actor, key and payload fails or returns the original outcome, and appends
nothing, exactly when it does not find everything in place again. -/
theorem rerun_idempotent_iff (hash : Payload → Digest) (earlier later : List SystemCall)
    (reads again : SettlementReads) (actor subject : AuthorizationSubject)
    (sameActor : subject.identityId = actor.identityId) :
    let start := run (systemStep hash) {} earlier
    (∀ first retry record after, SameReconciliation first retry →
      reconcileItem hash reads actor first start.settlements = .ok (record, after) →
        let reached := (run (systemStep hash) { start with settlements := after } later).settlements
        RerunIdempotent record reached (reconcileItem hash again subject retry) ↔
          ¬ ∃ batch item, ReconcilesAgain again subject reached retry batch item) ∧
      (∀ first retry approval after, SameApproval first retry →
        approveSettlementReadiness hash reads actor first start.settlements =
          .ok (approval, after) →
        let reached := (run (systemStep hash) { start with settlements := after } later).settlements
        RerunIdempotent approval reached (approveSettlementReadiness hash again subject retry) ↔
          ¬ ∃ batch, ApprovesAgain again subject reached retry batch) := by
  intro start
  have kept : ∀ after, KeepsReserved after
      (run (systemStep hash) { start with settlements := after } later).settlements :=
    fun after => run_keepsReserved hash { start with settlements := after } later
  constructor
  · intro first retry record after same success
    exact reconciliation_rerun_iff sameActor same success (kept after)
  · intro first retry approval after same success
    exact approval_rerun_iff sameActor same success (kept after)

def checkMatched (recordId : Uuid) : ReconcileItemRequest :=
  { settlementBatchId := 500, settlementItemId := 601, result := .matched,
    reasonCode := "settlement.reconciled", idempotencyKey := "settlement-check-0001",
    correlationId := 52, time := moment 302, recordId, exceptionId := recordId }

def collectedBatch : List SystemCall :=
  [openBatch 500 "settlement-batch-0001", collect 500 601 "settlement-item-00001"]

private theorem check_succeeds : ∃ record t,
    reconcileItem sampleHash settlementReads ⟨9, .service⟩ (checkMatched 701)
      (run (systemStep sampleHash) {} collectedBatch).settlements = .ok (record, t) := by
  have ok : (reconcileItem sampleHash settlementReads ⟨9, .service⟩ (checkMatched 701)
      (run (systemStep sampleHash) {} collectedBatch).settlements).isOk = true := by decide +kernel
  obtain ⟨⟨record, t⟩, ran⟩ := exists_of_isOk ok
  exact ⟨record, t, ran⟩

def approvalAt (evidenceId : Uuid) (time : Instant) : BatchRequest :=
  batchRequest 500 "settlement-approve-1" time evidenceId

private theorem settlement_approval_succeeds : ∃ approval t,
    approveSettlementReadiness sampleHash settlementReads ⟨8, .staff⟩ (approvalAt 801 304)
      (run (systemStep sampleHash) {} balancedBatch).settlements = .ok (approval, t) := by
  have ok : (approveSettlementReadiness sampleHash settlementReads ⟨8, .staff⟩ (approvalAt 801 304)
      (run (systemStep sampleHash) {} balancedBatch).settlements).isOk = true := by decide +kernel
  obtain ⟨⟨approval, t⟩, ran⟩ := exists_of_isOk ok
  exact ⟨approval, t, ran⟩

/-- The reconciliation is repeated after the batch was balanced, the approval at its own time. -/
theorem rerun_without_effect :
    (∃ record after,
      let start := run (systemStep sampleHash) {} collectedBatch
      reconcileItem sampleHash settlementReads ⟨9, .service⟩ (checkMatched 701)
          start.settlements = .ok (record, after) ∧
        RerunIdempotent record
          (run (systemStep sampleHash) { start with settlements := after }
            [balance 500 "settlement-balance-01"]).settlements
          (reconcileItem sampleHash settlementReads ⟨9, .service⟩ (checkMatched 702))) ∧
      ∃ approval after,
        approveSettlementReadiness sampleHash settlementReads ⟨8, .staff⟩ (approvalAt 801 304)
            (run (systemStep sampleHash) {} balancedBatch).settlements = .ok (approval, after) ∧
          RerunIdempotent approval after
            (approveSettlementReadiness sampleHash settlementReads ⟨8, .staff⟩
              (approvalAt 802 304)) := by
  obtain ⟨record, reconciled, success⟩ := check_succeeds
  obtain ⟨approval, approved, succeeds⟩ := settlement_approval_succeeds
  have finished := commit_of_ok success
  have decided := commit_of_ok succeeds
  refine ⟨⟨record, reconciled, success, ?_⟩, approval, approved, succeeds, ?_⟩
  · refine ((rerun_idempotent_iff sampleHash collectedBatch [balance 500 "settlement-balance-01"]
      settlementReads settlementReads ⟨9, .service⟩ ⟨9, .service⟩ rfl).1 (checkMatched 701)
      (checkMatched 702) record reconciled ⟨rfl, rfl, rfl, rfl, rfl⟩ success).2 ?_
    rintro ⟨batch, item, reconciles⟩
    have state := congrArg (Option.map SettlementBatch.state) reconciles.found
    have balanced : ((run (systemStep sampleHash)
        { run (systemStep sampleHash) {} collectedBatch with settlements := reconciled }
        [balance 500 "settlement-balance-01"]).settlements.batches.find 500).map
          SettlementBatch.state = some .balanced := by
      rw [← finished]
      decide +kernel
    have stays : SettlementBatchState.balanced = batch.state :=
      Option.some.inj (balanced.symm.trans state)
    have unfinished := reconciles.unfinished
    rw [← stays] at unfinished
    simp at unfinished
  · refine ((rerun_idempotent_iff sampleHash balancedBatch [] settlementReads settlementReads
      ⟨8, .staff⟩ ⟨8, .staff⟩ rfl).2 (approvalAt 801 304) (approvalAt 802 304) approval approved
      ⟨rfl, rfl, rfl⟩ succeeds).2 ?_
    rintro ⟨batch, approves⟩
    have recorded : ∃ row ∈ approved.approvals.rows, row.settlementBatchId = 500 ∧
        row.decision = .approved ∧ row.decidedByIdentityId = 8 ∧ row.decidedAt = 304 := by
      rw [← decided]
      decide +kernel
    obtain ⟨row, stored, same⟩ := recorded
    exact (approves.newApproval row stored).2 same

/-- The reconciliation is repeated at once, and the approval a moment later. -/
theorem rerun_appends_again :
    (∃ record after,
      let start := run (systemStep sampleHash) {} collectedBatch
      reconcileItem sampleHash settlementReads ⟨9, .service⟩ (checkMatched 701)
          start.settlements = .ok (record, after) ∧
        ¬ RerunIdempotent record after
          (reconcileItem sampleHash settlementReads ⟨9, .service⟩ (checkMatched 702))) ∧
      ∃ approval after,
        approveSettlementReadiness sampleHash settlementReads ⟨8, .staff⟩ (approvalAt 801 304)
            (run (systemStep sampleHash) {} balancedBatch).settlements = .ok (approval, after) ∧
          ¬ RerunIdempotent approval after
            (approveSettlementReadiness sampleHash settlementReads ⟨8, .staff⟩
              (approvalAt 802 305)) := by
  obtain ⟨record, reconciled, success⟩ := check_succeeds
  obtain ⟨approval, approved, succeeds⟩ := settlement_approval_succeeds
  have finished := commit_of_ok success
  have decided := commit_of_ok succeeds
  refine ⟨⟨record, reconciled, success, ?_⟩, approval, approved, succeeds, ?_⟩
  · rintro ⟨_, unappended⟩
    have records := congrArg (fun table => table.rows.length) unappended.records
    revert records
    rw [← finished]
    decide +kernel
  · rintro ⟨_, unappended⟩
    have approvals := congrArg (fun table => table.rows.length) unappended.approvals
    revert approvals
    rw [← decided]
    decide +kernel

end Ayo.Settlement.Reruns
