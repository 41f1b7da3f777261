/- digest: What each successful settlement command does. -/

import Ayo.Payment.SingleCapture
import Ayo.Settlement.Application

namespace Ayo.Settlement.Effects

open Kernel.UnitOfWork Kernel.KeyedTable Core.Values Core.Authorization
open FinancialControl.Models (blocksReadiness)
open FinancialControl.Repository (HoldStore mem_holdsForSource)
open Models
open Repository hiding createBatch
open Application
open Kernel.Evolution (Evolves Extends)
open Core.Lifecycle (Follows)

/-- One batch was written back, with its identity and its creator. -/
structure BatchMoved (s t : Table SettlementBatch) (current changed : SettlementBatch) :
    Prop where
  found : current ∈ s.rows
  id : changed.settlementBatchId = current.settlementBatchId
  creator : changed.createdByIdentityId = current.createdByIdentityId
  rows : t.rows = s.replaced changed

namespace BatchMoved

variable {s t : Table SettlementBatch} {current changed batch : SettlementBatch}

theorem refl (found : current ∈ s.rows) : BatchMoved s s current current :=
  ⟨found, rfl, rfl, (Table.replaced_of_mem found).symm⟩

theorem trans {between : Table SettlementBatch} {middle : SettlementBatch}
    (first : BatchMoved s between current middle)
    (second : BatchMoved between t middle changed) : BatchMoved s t current changed where
  found := first.found
  id := second.id.trans first.id
  creator := second.creator.trans first.creator
  rows := second.rows.trans (Table.replaced_of_rows_replaced first.rows second.id.symm)

theorem origin (moved : BatchMoved s t current changed) (mem : batch ∈ t.rows) : batch = changed ∨
      (batch ∈ s.rows ∧ batch.settlementBatchId ≠ current.settlementBatchId) := by
  rw [moved.rows] at mem
  obtain ⟨rfl, _⟩ | ⟨old, different⟩ := Table.mem_replaced.1 mem
  · exact .inl rfl
  · exact .inr ⟨old, fun same => different (same.trans moved.id.symm)⟩

theorem survives (moved : BatchMoved s t current changed) (mem : batch ∈ s.rows) :
    ∃ kept ∈ t.rows, kept.settlementBatchId = batch.settlementBatchId ∧
      kept.createdByIdentityId = batch.createdByIdentityId := by
  rw [moved.rows]
  by_cases same : batch.settlementBatchId = changed.settlementBatchId
  · obtain rfl : batch = current := s.eq_of_key mem moved.found (same.trans moved.id)
    exact ⟨changed, Table.mem_replaced.2 (.inl ⟨rfl, batch, mem, same⟩), moved.id, moved.creator⟩
  · exact ⟨batch, Table.mem_replaced.2 (.inr ⟨mem, same⟩), rfl, rfl⟩

theorem eq_of_state_ne (moved : BatchMoved s t current changed) {kept : SettlementBatch}
    (mem : batch ∈ s.rows) (stays : kept ∈ t.rows)
    (same : kept.settlementBatchId = batch.settlementBatchId) (differs : kept.state ≠ batch.state) :
    batch = current ∧ kept = changed := by
  obtain rfl | ⟨old, _⟩ := moved.origin stays
  · exact ⟨s.eq_of_key mem moved.found (same.symm.trans moved.id), rfl⟩
  · exact absurd (congrArg SettlementBatch.state (s.eq_of_key old mem same)) differs

end BatchMoved

inductive StoreEffect (holds : HoldStore) (s : SettlementStore) (call : SettlementCall)
    (t : SettlementStore) : Prop where
  | idle (batches : t.batches = s.batches) (items : t.items = s.items)
      (records : t.records = s.records)
      (exceptions : t.exceptions = s.exceptions)
      (approvals : t.approvals = s.approvals)
  | opened (batch : SettlementBatch) (state : batch.state = .created)
      (batches : t.batches.rows = s.batches.rows ++ [batch])
      (items : t.items = s.items) (records : t.records = s.records)
      (exceptions : t.exceptions = s.exceptions)
      (approvals : t.approvals = s.approvals)
  | collected (request : CollectItemRequest) (item : SettlementItem)
      (current changed : SettlementBatch) (command : call.command = .collectItem request)
      (new : s.items.find (canonicalReference s.idempotency call.subject.identityId
        "settlement.item.collect" request.idempotencyKey request.candidateId) = none)
      (moved : BatchMoved s.batches t.batches current changed)
      (source : current.state = .created ∨ current.state = .collecting)
      (target : changed.state = .collecting)
      (batchId : item.settlementBatchId = current.settlementBatchId)
      (attemptId : item.paymentAttemptId = request.paymentAttemptId)
      (reconciliationType : item.reconciliationType = request.reconciliationType)
      (refundId : item.refundRequestId = request.refundRequestId)
      (items : t.items.rows = s.items.rows ++ [item])
      (records : t.records = s.records)
      (exceptions : t.exceptions = s.exceptions)
      (approvals : t.approvals = s.approvals)
  | reconciled (item : SettlementItem) (record : ReconciliationRecord)
      (current changed : SettlementBatch)
      (moved : BatchMoved s.batches t.batches current changed)
      (source : current.state ∈ [.created, .collecting, .reconciling])
      (target : changed.state ∈ [.reconciling, .exception])
      (collected : item ∈ s.items.rows)
      (batchId : item.settlementBatchId = current.settlementBatchId)
      (recordItemId : record.settlementItemId = item.settlementItemId)
      (recordBatchId : record.settlementBatchId = current.settlementBatchId)
      (items : t.items = s.items)
      (records : t.records.rows = s.records.rows ++ [record])
      (kept : ∀ exception ∈ s.exceptions.rows, exception ∈ t.exceptions.rows)
      (raised : raisesException record.result = true → ∃ exception ∈ t.exceptions.rows,
        exception.settlementBatchId = record.settlementBatchId)
      (approvals : t.approvals = s.approvals)
  | balanced (request : BatchRequest) (current changed : SettlementBatch)
      (command : call.command = .markBalanced request)
      (moved : BatchMoved s.batches t.batches current changed)
      (requested : current.settlementBatchId = request.settlementBatchId)
      (source : current.state = .reconciling) (target : changed.state = .balanced)
      (unexcepted : ∀ exception ∈ s.exceptions.rows,
        exception.settlementBatchId ≠ current.settlementBatchId)
      (items : t.items = s.items) (records : t.records = s.records)
      (exceptions : t.exceptions = s.exceptions)
      (approvals : t.approvals = s.approvals)
  | decided (approval : SettlementApproval) (current : SettlementBatch)
      (found : current ∈ s.batches.rows)
      (batchId : approval.settlementBatchId = current.settlementBatchId)
      (prepared : approval.preparedByIdentityId = current.createdByIdentityId)
      (batches : t.batches = s.batches) (items : t.items = s.items)
      (records : t.records = s.records)
      (exceptions : t.exceptions = s.exceptions)
      (approvals : t.approvals.rows = s.approvals.rows ++ [approval])
  | readied (request : BatchRequest) (current changed : SettlementBatch)
      (last : SettlementApproval) (command : call.command = .markReadyForSettlement request)
      (moved : BatchMoved s.batches t.batches current changed)
      (requested : current.settlementBatchId = request.settlementBatchId)
      (source : current.state = .balanced) (target : changed.state = .readyForSettlement)
      (listed : (approvalsOfBatch s current.settlementBatchId).getLast? = some last)
      (approved : last.decision = .approved)
      (unheld : ∀ hold ∈ holds.holds.rows, hold.sourceType = .settlementBatch →
        hold.sourceId = current.settlementBatchId → blocksReadiness hold.state = false)
      (items : t.items = s.items) (records : t.records = s.records)
      (exceptions : t.exceptions = s.exceptions)
      (approvals : t.approvals = s.approvals)
  | excepted (current changed : SettlementBatch)
      (moved : BatchMoved s.batches t.batches current changed)
      (source : current.state ∈ [.exception, .manualReview])
      (target : changed.state ∈ [.manualReview, .resolved])
      (items : t.items = s.items) (records : t.records = s.records)
      (kept : ∀ exception ∈ s.exceptions.rows, exception ∈ t.exceptions.rows)
      (approvals : t.approvals = s.approvals)

section

variable {hash : Payload → Digest} {holds : HoldStore} {reads : SettlementReads}
  {subject : AuthorizationSubject} {s t : SettlementStore} {time : DateTime}
  {correlationId causationId id : Uuid} {α : Type} {a : α} {f : Unit → SettlementTransaction α}
  {target : SettlementBatchState} {held batch result : SettlementBatch}
  {request : CollectItemRequest}

theorem recordSettlementEvent_bind_ok {aggregateType eventType : String} {aggregateId : Uuid}
    {occurredAt : Instant} :
    (recordEvent aggregateType aggregateId eventType occurredAt correlationId causationId >>= f)
        s = .ok (a, t) ↔
      f () { s with
        events := s.events ++
          [{ aggregateType, aggregateId, eventType, occurredAt, correlationId, causationId }] } =
        .ok (a, t) := by
  simp only [recordEvent, bind_assoc, steps_ok]

theorem getBatch_bind_ok {f : Option SettlementBatch → SettlementTransaction α} :
    (getBatch id >>= f) s = .ok (a, t) ↔ f (s.batches.find id) s = .ok (a, t) := by
  simp only [getBatch, bind_assoc, pure_bind, get_bind_ok]

theorem getItem_bind_ok {f : Option SettlementItem → SettlementTransaction α} :
    (getItem id >>= f) s = .ok (a, t) ↔ f (s.items.find id) s = .ok (a, t) := by
  simp only [getItem, bind_assoc, pure_bind, get_bind_ok]

theorem batchOf_bind_ok {f : SettlementBatch → SettlementTransaction α} :
    (batchOf id >>= f) s = .ok (a, t) ↔
      ∃ batch, s.batches.find id = some batch ∧ f batch s = .ok (a, t) := by
  simp only [batchOf, bind_assoc, getBatch_bind_ok, demand_bind_ok]

theorem settlementUtc_bind_ok {text : String} {f : Instant → SettlementTransaction α} :
    (utc text time >>= f) s = .ok (a, t) ↔ time.aware = true ∧ f time.instant s = .ok (a, t) := by
  simp only [utc, bind_assoc, pure_bind, require_bind_ok]

theorem appendException_bind_ok {exception : ReconciliationException} :
    (appendException exception >>= f) s = .ok (a, t) ↔
      (s.items.find exception.settlementItemId).isSome = true ∧
        ∃ exceptions : Table ReconciliationException,
          exceptions.rows = s.exceptions.rows ++ [exception] ∧
            f () { s with exceptions } = .ok (a, t) := by
  simp only [appendException, bind_assoc, steps_ok, Table.insert?_eq_some]

theorem transitionBatch_ok {settlementBatchId : Uuid} {new : SettlementBatch}
    (ran : transitionBatch settlementBatchId target time correlationId causationId s = .ok (new, t))
    (present : held ∈ s.batches.rows) (id : held.settlementBatchId = settlementBatchId) :
    ∃ batches events, t = { s with batches, events } ∧ BatchMoved s.batches batches held new ∧
      new.state = target := by
  unfold transitionBatch at ran
  simp only [↓getBatch_bind_ok, ↓ensureBatchTransitionAllowed_bind_ok, ↓steps_ok,
    ↓recordSettlementEvent_bind_ok, Table.replace?_eq_some, Option.dite_none_right_eq_some,
    Option.some.injEq] at ran
  obtain ⟨old, found, _, _, new, ⟨later, built⟩, batches, rows, rfl, rfl⟩ := ran
  subst built
  obtain rfl : old = held :=
    s.batches.eq_of_key (Table.mem_of_find found) present ((Table.key_of_find found).trans id.symm)
  exact ⟨batches, _, rfl, ⟨present, rfl, rfl, rows⟩, rfl⟩

theorem startedBatch_ok {states : List SettlementBatchState}
    (ran : startedBatch held states target time correlationId causationId s = .ok (batch, t))
    (found : held ∈ s.batches.rows) :
    ∃ batches events, t = { s with batches, events } ∧ BatchMoved s.batches batches held batch ∧
      ((held.state ∈ states ∧ batch.state = target) ∨ batch = held) := by
  unfold startedBatch at ran
  simp only [ite_ok, pure_ok] at ran
  obtain ⟨listed, transitioned⟩ | ⟨_, rfl, rfl⟩ := ran
  · obtain ⟨batches, events, rfl, moved, reached⟩ := transitionBatch_ok transitioned found rfl
    exact ⟨batches, events, rfl, moved, .inl ⟨listed, reached⟩⟩
  · exact ⟨s.batches, s.events, rfl, .refl found, .inr rfl⟩

private theorem itemLineage_readOnly : ReadOnly (itemLineage reads request) := by
  unfold itemLineage
  refine .demands fun _ => .demands fun _ => .demands fun _ =>
    .demands fun _ => .requires <| .requires <|
    .requires <| .requires <| .requires <|
    .requires <| .bind (.whenSome (fun _ => ?_) .pure) fun _ => .pure
  exact .demands fun _ => .require

theorem createBatch_ok {request : CreateBatchRequest}
    (ran : createBatch hash reads subject request s = .ok (result, t)) :
    StoreEffect holds s ⟨reads, subject, .createBatch request⟩ t := by
  unfold createBatch requireServiceIdentity at ran
  simp only [↓guards_ok] at ran
  obtain ⟨_, _, _, _, ran⟩ := ran
  obtain ⟨idempotency, ran⟩ := reserving_ok ran
  simp only [↓getBatch_bind_ok, whenSome_ok, pure_ok, ↓settlementUtc_bind_ok] at ran
  obtain ⟨_, _, _, rfl⟩ | ⟨_, _, ran⟩ := ran
  · exact .idle rfl rfl rfl rfl rfl
  · unfold Repository.createBatch at ran
    simp only [↓steps_ok, ↓recordSettlementEvent_bind_ok, Table.insert?_eq_some] at ran
    obtain ⟨_, batches, rows, _, rfl⟩ := ran
    refine .opened _ ?_ rows rfl rfl rfl rfl
    rfl

private theorem addItem_ok {item result : SettlementItem} (ran : addItem item s = .ok (result, t)) :
    ∃ items events, t = { s with items, events } ∧ items.rows = s.items.rows ++ [item] := by
  unfold addItem at ran
  simp only [↓steps_ok, ↓recordSettlementEvent_bind_ok, Table.insert?_eq_some] at ran
  obtain ⟨_, items, rows, _, rfl⟩ := ran
  exact ⟨items, _, rfl, rows⟩

theorem collectItem_ok {result : SettlementItem}
    (ran : collectItem hash reads subject request s = .ok (result, t)) :
    StoreEffect holds s ⟨reads, subject, .collectItem request⟩ t := by
  unfold collectItem requireServiceIdentity at ran
  simp only [↓guards_ok] at ran
  obtain ⟨_, _, _, _, ran⟩ := ran
  obtain ⟨idempotency, ran⟩ := reserving_ok ran
  simp only [↓getItem_bind_ok, whenSome_ok, pure_ok, ↓batchOf_bind_ok] at ran
  obtain ⟨_, _, _, rfl⟩ | ⟨new, held, found, ran⟩ := ran
  · exact .idle rfl rfl rfl rfl rfl
  · obtain ⟨batch, _, started, ran⟩ := bind_ok.1 ran
    obtain ⟨batches, events, rfl, moved, reached⟩ :=
      startedBatch_ok started (Table.mem_of_find found)
    obtain ⟨collecting, ran⟩ := require_bind_ok.1 ran
    obtain ⟨⟨currency, traceability⟩, _, ran⟩ := (itemLineage_readOnly).bind_ok ran
    simp only [↓demand_bind_ok, ↓settlementUtc_bind_ok] at ran
    obtain ⟨amount, _, _, ran⟩ := ran
    obtain ⟨items, _, rfl, rows⟩ := addItem_ok ran
    have source : held.state = .created ∨ held.state = .collecting := by
      obtain ⟨listed, _⟩ | rfl := reached
      · exact .inl (by simpa using listed)
      · exact .inr collecting
    exact .collected request _ held batch rfl new moved source collecting
      (Table.key_of_find found).symm rfl rfl rfl rows rfl rfl rfl

variable {request : ReconcileItemRequest}

private theorem raiseException_ok {u : Unit} (ran : raiseException subject request s = .ok (u, t))
    (found : batch ∈ s.batches.rows) (id : batch.settlementBatchId = request.settlementBatchId) :
    ∃ batches exceptions events new, t = { s with batches, exceptions, events } ∧
      BatchMoved s.batches batches batch new ∧
      (new = batch ∨ new.state = .exception) ∧
      (∀ exception ∈ s.exceptions.rows, exception ∈ exceptions.rows) ∧
      (raisesException request.result = true → ∃ exception ∈ exceptions.rows,
        exception.settlementBatchId = request.settlementBatchId) := by
  unfold raiseException at ran
  simp only [ite_ok, ↓settlementUtc_bind_ok, ↓appendException_bind_ok, pure_ok] at ran
  obtain ⟨raises, _, _, exceptions, rows, ran⟩ | ⟨silent, _, rfl⟩ := ran
  · obtain ⟨new, transitioned, _⟩ := bind_pure_ok.1 ran
    obtain ⟨batches, events, rfl, moved, reached⟩ := transitionBatch_ok transitioned found id
    refine ⟨batches, exceptions, events, new, rfl, moved, .inr reached, ?_, fun _ => ?_⟩
    · intro exception mem
      rw [rows]
      exact List.mem_append_left _ mem
    · exact ⟨_, by rw [rows]; exact List.mem_append_right _ (List.mem_singleton_self _), rfl⟩
  · exact ⟨s.batches, s.exceptions, s.events, batch, rfl, .refl found, .inl rfl,
      fun _ mem => mem, fun raises => absurd raises silent⟩

theorem reconcileItem_ok {result : ReconciliationRecord}
    (ran : reconcileItem hash reads subject request s = .ok (result, t)) :
    StoreEffect holds s ⟨reads, subject, .reconcileItem request⟩ t := by
  unfold reconcileItem requireServiceIdentity at ran
  simp only [↓guards_ok] at ran
  obtain ⟨_, _, _, _, ran⟩ := ran
  obtain ⟨idempotency, ran⟩ := reserving_ok ran
  obtain ⟨held, found, ran⟩ := batchOf_bind_ok.1 ran
  obtain ⟨batch, _, started, ran⟩ := bind_ok.1 ran
  obtain ⟨batches, events, rfl, moved, reached⟩ := startedBatch_ok started (Table.mem_of_find found)
  unfold appendReconciliationRecord at ran
  simp only [bind_assoc, pure_bind, ↓steps_ok, ↓getItem_bind_ok, ↓settlementUtc_bind_ok,
    Table.insert?_eq_some] at ran
  obtain ⟨reconciling, item, collected, batchId, reasonCode, _, _, records, rows, ran⟩ :=
    ran
  obtain ⟨_, raised, _⟩ := bind_pure_ok.1 ran
  have id : held.settlementBatchId = request.settlementBatchId := Table.key_of_find found
  have present : batch ∈ batches.rows := by
    rw [moved.rows]
    exact Table.mem_replaced.2 (.inl ⟨rfl, held, moved.found, moved.id.symm⟩)
  obtain ⟨batches', exceptions, events', new, rfl, movedOn, last, kept, raised⟩ :=
    raiseException_ok raised present (moved.id.trans id)
  have source : held.state ∈ [.created, .collecting, .reconciling] := by
    obtain ⟨listed, _⟩ | rfl := reached
    · exact List.mem_append_left [.reconciling] listed
    · simp [reconciling]
  have target : new.state ∈ [.reconciling, .exception] := by
    rcases last with rfl | escalated
    · simp [reconciling]
    · simp [escalated]
  exact .reconciled item _ held new (moved.trans movedOn) source target
    (Table.mem_of_find collected) (batchId.trans id.symm) (Table.key_of_find collected).symm
    id.symm rfl rows kept raised rfl

variable {request : BatchRequest}

theorem markBalanced_ok (ran : markBalanced hash reads subject request s = .ok (result, t)) :
    StoreEffect holds s ⟨reads, subject, .markBalanced request⟩ t := by
  unfold markBalanced requireServiceIdentity at ran
  simp only [↓guards_ok] at ran
  obtain ⟨_, _, _, _, ran⟩ := ran
  obtain ⟨idempotency, ran⟩ := reserving_ok ran
  unfold listExceptions listItems at ran
  simp only [bind_assoc, pure_bind, ↓batchOf_bind_ok, ↓steps_ok, List.isEmpty_iff] at ran
  obtain ⟨held, found, reconciling, unexcepted, _, ran⟩ := ran
  have id := Table.key_of_find found
  obtain ⟨batches, events, rfl, moved, target⟩ :=
    transitionBatch_ok ran (Table.mem_of_find found) id
  refine .balanced request held result rfl moved id reconciling target ?_ rfl rfl rfl rfl
  intro exception mem same
  have listed := mem_exceptionsOfBatch.2 ⟨mem, same.trans id⟩
  exact List.ne_nil_of_mem listed unexcepted

private theorem recordReadinessDecision_ok {decision : SettlementApprovalDecision}
    {approval : SettlementApproval}
    (ran : recordDecision subject request batch decision s = .ok (approval, t)) :
    ∃ approvals, t = { s with approvals } ∧ approvals.rows = s.approvals.rows ++ [approval] ∧
      approval.settlementBatchId = request.settlementBatchId ∧
      approval.preparedByIdentityId = batch.createdByIdentityId := by
  unfold recordDecision appendApproval at ran
  simp only [↓steps_ok, ↓settlementUtc_bind_ok, Table.insert?_eq_some,
    Option.dite_none_right_eq_some, Option.some.injEq] at ran
  obtain ⟨_, _, reasonCode, _, actorType, _, _, row, ⟨separate, built⟩, approvals, rows, rfl, rfl⟩ :=
    ran
  subst built
  exact ⟨approvals, rfl, rows, rfl, rfl⟩

theorem approveSettlementReadiness_ok {result : SettlementApproval}
    (ran : approveSettlementReadiness hash reads subject request s = .ok (result, t)) :
    StoreEffect holds s ⟨reads, subject, .approveSettlementReadiness request⟩ t := by
  unfold approveSettlementReadiness at ran
  simp only [↓guards_ok] at ran
  obtain ⟨_, _, _, ran⟩ := ran
  obtain ⟨idempotency, ran⟩ := reserving_ok ran
  simp only [↓batchOf_bind_ok, ↓require_bind_ok] at ran
  obtain ⟨batch, found, _, ran⟩ := ran
  obtain ⟨approvals, rfl, rows, batchId, prepared⟩ := recordReadinessDecision_ok ran
  exact .decided result batch (Table.mem_of_find found)
    (batchId.trans (Table.key_of_find found).symm) prepared rfl rfl rfl rfl rows

theorem rejectSettlementReadiness_ok {result : SettlementApproval}
    (ran : rejectSettlementReadiness hash reads subject request s = .ok (result, t)) :
    StoreEffect holds s ⟨reads, subject, .rejectSettlementReadiness request⟩ t := by
  unfold rejectSettlementReadiness at ran
  simp only [↓guards_ok] at ran
  obtain ⟨_, _, _, ran⟩ := ran
  obtain ⟨idempotency, ran⟩ := reserving_ok ran
  obtain ⟨batch, found, ran⟩ := batchOf_bind_ok.1 ran
  obtain ⟨approvals, rfl, rows, batchId, prepared⟩ := recordReadinessDecision_ok ran
  exact .decided result batch (Table.mem_of_find found)
    (batchId.trans (Table.key_of_find found).symm) prepared rfl rfl rfl rfl rows

theorem markReadyForSettlement_ok
    (ran : markReadyForSettlement hash holds reads subject request s = .ok (result, t)) :
    StoreEffect holds s ⟨reads, subject, .markReadyForSettlement request⟩ t := by
  unfold markReadyForSettlement requireServiceIdentity at ran
  simp only [↓guards_ok] at ran
  obtain ⟨_, _, _, _, ran⟩ := ran
  obtain ⟨idempotency, ran⟩ := reserving_ok ran
  unfold listApprovals appendHoldEvidence at ran
  simp only [bind_assoc, pure_bind, ↓batchOf_bind_ok, ↓steps_ok, ↓settlementUtc_bind_ok,
    Option.isNone_iff_eq_none] at ran
  obtain ⟨held, found, balanced, last, listed, approved, _, holdEvidence, _, unheld, ran⟩ :=
    ran
  have id : held.settlementBatchId = request.settlementBatchId := Table.key_of_find found
  obtain ⟨batches, events, rfl, moved, target⟩ :=
    transitionBatch_ok ran (Table.mem_of_find found) id
  refine .readied request held result last rfl moved id balanced target (by rw [id]; exact listed)
    approved ?_ rfl rfl rfl rfl
  intro hold mem sourceType sourceId
  have listedHold := mem_holdsForSource.2 ⟨mem, sourceType, sourceId.trans id⟩
  simpa using List.find?_eq_none.1 unheld hold (List.mem_reverse.2 listedHold)

theorem investigateException_ok {request : InvestigateRequest}
    (ran : investigateException hash reads subject request s = .ok (result, t)) :
    StoreEffect holds s ⟨reads, subject, .investigateException request⟩ t := by
  unfold investigateException at ran
  simp only [↓guards_ok] at ran
  obtain ⟨_, _, _, ran⟩ := ran
  obtain ⟨idempotency, ran⟩ := reserving_ok ran
  simp only [↓batchOf_bind_ok, ↓require_bind_ok, ↓settlementUtc_bind_ok, ↓appendException_bind_ok]
    at ran
  obtain ⟨held, found, excepted, _, _, exceptions, rows, ran⟩ := ran
  have id := Table.key_of_find found
  obtain ⟨batches, events, rfl, moved, target⟩ :=
    transitionBatch_ok ran (Table.mem_of_find found) id
  refine .excepted held result moved (by simp [excepted]) (by simp [target]) rfl rfl ?_ rfl
  intro exception mem
  simp [rows, mem]

theorem resolveException_ok {request : ResolveRequest}
    (ran : resolveException hash reads subject request s = .ok (result, t)) :
    StoreEffect holds s ⟨reads, subject, .resolveException request⟩ t := by
  unfold resolveException at ran
  simp only [↓guards_ok] at ran
  obtain ⟨_, _, _, ran⟩ := ran
  obtain ⟨idempotency, ran⟩ := reserving_ok ran
  simp only [↓batchOf_bind_ok, ↓steps_ok, ↓settlementUtc_bind_ok, ↓appendException_bind_ok] at ran
  obtain ⟨held, found, excepted, code, _, _, _, exceptions, rows, ran⟩ := ran
  have id := Table.key_of_find found
  obtain ⟨batches, events, rfl, moved, target⟩ :=
    transitionBatch_ok ran (Table.mem_of_find found) id
  refine .excepted held result moved (by simp [excepted]) (by simp [target]) rfl rfl ?_ rfl
  intro exception mem
  simp [rows, mem]

theorem recordExternalEvidence_ok {request : ExternalEvidenceRequest}
    {result : SettlementExternalEvidence}
    (ran : recordExternalEvidence hash reads subject request s = .ok (result, t)) :
    StoreEffect holds s ⟨reads, subject, .recordExternalEvidence request⟩ t := by
  unfold recordExternalEvidence requireServiceIdentity at ran
  simp only [↓guards_ok] at ran
  obtain ⟨_, _, _, _, ran⟩ := ran
  obtain ⟨idempotency, ran⟩ := reserving_ok ran
  unfold listExternalEvidence appendExternalEvidence at ran
  simp only [bind_assoc, pure_bind, ↓batchOf_bind_ok, ↓steps_ok, ↓settlementUtc_bind_ok] at ran
  obtain ⟨_, _, _, _, _, _, _, _, _, _, externalEvidence, _, _, rfl⟩ := ran
  exact .idle rfl rfl rfl rfl rfl

end

theorem step_effect (hash : Payload → Digest) (holds : HoldStore) (store : SettlementStore)
    (call : SettlementCall) : StoreEffect holds store call (step hash holds store call) := by
  obtain ⟨reads, subject, command⟩ := call
  cases command
  all_goals
    refine commit_related (R := fun _ => StoreEffect holds store _) _ store
      (.idle rfl rfl rfl rfl rfl) fun result t ran => ?_
  case createBatch => exact createBatch_ok ran
  case collectItem => exact collectItem_ok ran
  case reconcileItem => exact reconcileItem_ok ran
  case markBalanced => exact markBalanced_ok ran
  case approveSettlementReadiness => exact approveSettlementReadiness_ok ran
  case rejectSettlementReadiness => exact rejectSettlementReadiness_ok ran
  case markReadyForSettlement => exact markReadyForSettlement_ok ran
  case investigateException => exact investigateException_ok ran
  case resolveException => exact resolveException_ok ran
  case recordExternalEvidence => exact recordExternalEvidence_ok ran

/-- One change of a batch: along its graph, by the same creator. -/
structure BatchStep (current changed : SettlementBatch) : Prop where
  creator : changed.createdByIdentityId = current.createdByIdentityId
  follows : Follows allowedBatchTransitions current.state changed.state

theorem BatchMoved.evolves {s t : Table SettlementBatch} {current changed : SettlementBatch}
    (moved : BatchMoved s t current changed) (middle : SettlementBatchState)
    (first : Follows allowedBatchTransitions current.state middle)
    (second : Follows allowedBatchTransitions middle changed.state) : Evolves BatchStep s t :=
  .of_replaced moved.rows moved.found moved.id
    (.tail (.single (show BatchStep current { current with state := middle } from ⟨rfl, first⟩))
      ⟨moved.creator, second⟩)

theorem StoreEffect.batches_evolve {holds : HoldStore} {s t : SettlementStore}
    {call : SettlementCall} (effect : StoreEffect holds s call t) :
    Evolves BatchStep s.batches t.batches := by
  cases effect with
  | idle batches => exact .of_eq batches
  | decided _ _ _ _ _ batches => exact .of_eq batches
  | opened _ _ batches => exact .of_append batches
  | collected _ _ current _ _ _ moved source target =>
    refine moved.evolves current.state (.inl rfl) ?_
    rw [target]
    rcases source with state | state <;> rw [state] <;> decide
  | reconciled _ _ _ _ moved source target =>
    refine moved.evolves .reconciling ?_ ?_
    · exact (by decide : ∀ state ∈ [.created, .collecting, .reconciling],
        Follows allowedBatchTransitions state .reconciling) _ source
    · exact (by decide : ∀ state ∈ [.reconciling, .exception],
        Follows allowedBatchTransitions .reconciling state) _ target
  | balanced _ current _ _ moved _ source target
  | readied _ current _ _ _ moved _ source target =>
    refine moved.evolves current.state (.inl rfl) ?_
    rw [source, target]
    decide
  | excepted _ _ moved source target =>
    refine moved.evolves .manualReview ?_ ?_
    · exact (by decide : ∀ state ∈ [.exception, .manualReview],
        Follows allowedBatchTransitions state .manualReview) _ source
    · exact (by decide : ∀ state ∈ [.manualReview, .resolved],
        Follows allowedBatchTransitions .manualReview state) _ target

/-- What is collected, reconciled, raised or decided stays on record. -/
structure EvidenceKept (s t : SettlementStore) : Prop where
  items : Extends s.items t.items
  records : Extends s.records t.records
  exceptions : Extends s.exceptions t.exceptions
  approvals : Extends s.approvals t.approvals

theorem StoreEffect.evidenceKept {holds : HoldStore} {s t : SettlementStore}
    {call : SettlementCall} (effect : StoreEffect holds s call t) : EvidenceKept s t := by
  cases effect with
  | idle _ items records exceptions approvals
  | opened _ _ _ items records exceptions approvals
  | balanced _ _ _ _ _ _ _ _ _ items records exceptions approvals
  | readied _ _ _ _ _ _ _ _ _ _ _ _ items records exceptions approvals =>
    exact ⟨.of_eq items, .of_eq records, .of_eq exceptions, .of_eq approvals⟩
  | collected _ _ _ _ _ _ _ _ _ _ _ _ _ items records exceptions approvals =>
    exact ⟨.of_append items, .of_eq records, .of_eq exceptions, .of_eq approvals⟩
  | reconciled _ _ _ _ _ _ _ _ _ _ _ items records kept _ approvals =>
    exact ⟨.of_eq items, .of_append records, .of_kept kept, .of_eq approvals⟩
  | decided _ _ _ _ _ _ items records exceptions approvals =>
    exact ⟨.of_eq items, .of_eq records, .of_eq exceptions, .of_append approvals⟩
  | excepted _ _ _ _ _ items records kept approvals =>
    exact ⟨.of_eq items, .of_eq records, .of_kept kept, .of_eq approvals⟩

end Ayo.Settlement.Effects

/-! Settlements and holds under one sequence of calls, with sample calls on a captured payment. -/

namespace Ayo.Settlement.System

open Kernel.Run Core.Values
open FinancialControl.Application (HoldCall)
open FinancialControl.Repository (HoldStore)
open Payment.SingleCapture (sampleConfig sampleReads moment captureOnce)
open Models Repository Application

/-- The two stores; what a call reads of the other stores it brings along. -/
structure SettlementSystem where
  settlements : SettlementStore := {}
  holds : HoldStore := {}

inductive SystemCall where
  | settlement (call : SettlementCall)
  | hold (call : HoldCall)

def systemStep (hash : Payload → Digest) (system : SettlementSystem) : SystemCall → SettlementSystem
  | .settlement call =>
    { system with settlements := step hash system.holds system.settlements call }
  | .hold call =>
    { system with
      holds := FinancialControl.Application.step hash system.settlements system.holds call }

variable {Inv : SettlementStore → Prop} {hash : Payload → Digest}

theorem settlements_invariant_along
    {guard : SettlementSystem → SystemCall → Prop}
    (start : Inv {})
    (preserves : ∀ system call, guard system (.settlement call) → Inv system.settlements →
      Inv (step hash system.holds system.settlements call))
    {calls : List SystemCall} (along : Along (systemStep hash) guard {} calls) :
    Inv (run (systemStep hash) {} calls).settlements := by
  refine @run_invariant_along _ _ (systemStep hash) (fun system => Inv system.settlements) _ ?_ _ _
    along start
  intro system call allowed inv
  cases call with
  | settlement call => exact preserves system call allowed inv
  | hold call => exact inv

theorem settlements_invariant (start : Inv {})
    (preserves : ∀ holds store call, Inv store → Inv (step hash holds store call))
    (calls : List SystemCall) : Inv (run (systemStep hash) {} calls).settlements := by
  refine @run_invariant _ _ (systemStep hash) (fun system => Inv system.settlements) ?_ _ calls
    start
  intro system call inv
  cases call with
  | settlement call => exact preserves system.holds system.settlements call inv
  | hold call => exact inv

/-! Calls on the batches 500 and 501, created by service 9, and on payments of rider 1. -/

def settlementReads : SettlementReads :=
  { grants := fun _ _ _ => true,
    payments := run (Payment.Application.step sampleConfig) {} captureOnce, refunds := {},
    calculations := sampleReads.calculations, journals := sampleReads.journals }

def serviceCall (command : SettlementCommand) : SystemCall :=
  .settlement { reads := settlementReads, subject := ⟨9, .service⟩, command }

def staffCall (command : SettlementCommand) : SystemCall :=
  .settlement { reads := settlementReads, subject := ⟨8, .staff⟩, command }

def openBatch (batchId : Uuid) (key : String) : SystemCall :=
  serviceCall <| .createBatch
    { idempotencyKey := key, correlationId := 52, causationId := 52, time := moment 300,
      candidateId := batchId }

def collect (batchId itemId : Uuid) (key : String) : SystemCall :=
  serviceCall <| .collectItem
    { settlementBatchId := batchId, rideId := 10, fareCalculationId := 20, paymentIntentId := 100,
      paymentAttemptId := 101, ledgerJournalId := 30, reconciliationType := .paymentReconciliation,
      amountMinor := 500, refundRequestId := none, idempotencyKey := key, correlationId := 52,
      time := moment 301, candidateId := itemId }

def reconcileAs (result : ReconciliationResult) (batchId itemId recordId : Uuid) (key : String) :
    SystemCall :=
  serviceCall <| .reconcileItem
    { settlementBatchId := batchId, settlementItemId := itemId, result,
      reasonCode := "settlement.reconciled", idempotencyKey := key, correlationId := 52,
      time := moment 302, recordId, exceptionId := recordId }

def batchRequest (batchId : Uuid) (key : String) (time : Instant) (evidenceId : Uuid) :
    BatchRequest :=
  { settlementBatchId := batchId, reasonCode := "settlement.checked", idempotencyKey := key,
    correlationId := 52, time := moment time, evidenceId }

def balance (batchId : Uuid) (key : String) : SystemCall :=
  serviceCall <| .markBalanced (batchRequest batchId key 303 0)

/-- A batch with one item that is reconciled as matched and balanced. -/
def balancedBatch : List SystemCall :=
  [openBatch 500 "settlement-batch-0001", collect 500 601 "settlement-item-00001",
   reconcileAs .matched 500 601 701 "settlement-check-0001",
   balance 500 "settlement-balance-01"]

end Ayo.Settlement.System
