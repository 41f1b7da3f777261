/- digest: Reservations of the settlement service outlive every command of it. -/

import Ayo.Settlement.Effects

namespace Ayo.Settlement.Reservations

open Kernel.UnitOfWork Kernel.Related Kernel.Run Core.Values Core.Authorization Core.Retries
open FinancialControl.Repository (HoldStore)
open Models
open Repository hiding createBatch
open Application Settlement.System

def KeepsReserved (s t : SettlementStore) : Prop :=
  Outlives s.idempotency t.idempotency

instance : IsPreorder SettlementStore KeepsReserved where
  refl store := .refl store.idempotency
  trans _ _ _ first second := Outlives.trans first second

/-- A relation of stores that allows every change but that of reservations and of hold evidence,
and what a reservation writes. -/
class Admits (R : SettlementStore → SettlementStore → Prop) : Prop
    extends IsPreorder SettlementStore R where
  unread : ∀ s t : SettlementStore, t.idempotency = s.idempotency →
    t.holdEvidence = s.holdEvidence → R s t
  reserving : ∀ (hash : Payload → Digest) (actorId : Uuid) (operation key : String)
    (payload : Payload) (responseReference : Uuid) (time : DateTime),
    Relates R (reserveIdempotency hash actorId operation key payload responseReference time)

section

variable {R : SettlementStore → SettlementStore → Prop} [Admits R] {hash : Payload → Digest}
  {subject : AuthorizationSubject} {time : DateTime} {id correlationId causationId : Uuid}
  {batch : SettlementBatch}

private theorem settlementReserve_relates {actorId : Uuid} {operation key : String}
    {payload : Payload} {responseReference : Uuid} :
    Relates R (reserveIdempotency hash actorId operation key payload responseReference time) := by
  exact Admits.reserving hash actorId operation key payload responseReference time

private theorem permission_relates {grants : Grants} {permission : String} :
    Relates R (requirePermission grants subject permission time) :=
  .of_readOnly requirePermission_readOnly

private theorem getBatch_relates : Relates R (getBatch id) :=
  .bind .get fun _ => .pure

private theorem getItem_relates : Relates R (getItem id) :=
  .bind .get fun _ => .pure

private theorem batchOf_relates : Relates R (batchOf id) :=
  .bind getBatch_relates fun _ => .demand

private theorem settlementUtc_relates {text : String} : Relates R (utc text time) :=
  .requires <| .pure

private theorem recordEvent_relates {aggregateType : String} {aggregateId : Uuid}
    {eventType : String} {occurredAt : Instant} :
    Relates R
      (recordEvent aggregateType aggregateId eventType occurredAt correlationId causationId) := by
  refine .get_bind fun store _ t ran => ?_
  cases put_ok.1 ran
  exact Admits.unread _ _ rfl rfl

private theorem write_relates {ρ α : Type} {written? : SettlementStore → Option ρ}
    {failure : Failure} {written : SettlementStore → ρ → SettlementStore}
    {rest : SettlementStore → ρ → SettlementTransaction α}
    (apart : ∀ store table, (written store table).idempotency = store.idempotency ∧
      (written store table).holdEvidence = store.holdEvidence)
    (related : ∀ store table, Relates R (rest store table)) : Relates R (do
      let store ← get
      let table ← demand (written? store) failure
      put (written store table)
      rest store table) := by
  refine .get_bind fun store a t ran => ?_
  obtain ⟨table, _, ran⟩ := demand_bind_ok.1 ran
  have finished := related store table _ a t (put_bind_ok.1 ran)
  have unwritten : R store (written store table) :=
    Admits.unread _ _ (apart store table).1 (apart store table).2
  exact IsTrans.trans _ _ _ unwritten finished

private theorem addItem_relates {item : SettlementItem} : Relates R (addItem item) :=
  .requires <| write_relates (fun _ _ => ⟨rfl, rfl⟩) fun _ _ =>
    .bind recordEvent_relates fun _ => .pure

private theorem storedBatch_relates : Relates R (Repository.createBatch batch) :=
  .requires <| write_relates (fun _ _ => ⟨rfl, rfl⟩) fun _ _ =>
    .bind recordEvent_relates fun _ => .pure

private theorem transitionBatch_relates {targetState : SettlementBatchState} :
    Relates R (transitionBatch id targetState time correlationId causationId) := by
  refine .bind getBatch_relates fun _ => .demands fun _ => .bind ?_ fun _ =>
    .demands fun _ => write_relates (fun _ _ => ⟨rfl, rfl⟩) fun _ _ =>
    .bind recordEvent_relates fun _ => .pure
  exact .ite .pure (.requires <| .require)

private theorem appendRecord_relates {record : ReconciliationRecord} :
    Relates R (appendReconciliationRecord record) :=
  write_relates (fun _ _ => ⟨rfl, rfl⟩) fun _ _ => .pure

private theorem appendApproval_relates {approval : SettlementApproval} :
    Relates R (appendApproval approval) :=
  write_relates (fun _ _ => ⟨rfl, rfl⟩) fun _ _ => .pure

private theorem appendExternalEvidence_relates {evidence : SettlementExternalEvidence} :
    Relates R (appendExternalEvidence evidence) :=
  write_relates (fun _ _ => ⟨rfl, rfl⟩) fun _ _ => .pure

private theorem appendException_relates {exception : ReconciliationException} :
    Relates R (appendException exception) := by
  refine .get_bind fun store _ t ran => ?_
  simp only [↓steps_ok] at ran
  obtain ⟨_, _, _, rfl⟩ := ran
  exact Admits.unread _ _ rfl rfl

private theorem startedBatch_relates {states : List SettlementBatchState}
    {targetState : SettlementBatchState} :
    Relates R (startedBatch batch states targetState time correlationId causationId) :=
  .ite transitionBatch_relates .pure

end

section

variable {R : SettlementStore → SettlementStore → Prop} [Admits R]
  (hash : Payload → Digest) (holds : HoldStore) (reads : SettlementReads)
  (subject : AuthorizationSubject)

private theorem createBatch_relates (request : CreateBatchRequest) :
    Relates R (createBatch hash reads subject request) :=
  .bind permission_relates fun _ => .requires <|
    .requires <| .bind settlementReserve_relates fun _ =>
    .bind getBatch_relates fun _ => .whenSome (fun _ => .pure)
      (.bind settlementUtc_relates fun _ => storedBatch_relates)

private theorem collectItem_relates (request : CollectItemRequest) :
    Relates R (collectItem hash reads subject request) := by
  refine .bind permission_relates fun _ => .requires <|
    .requires <| .bind settlementReserve_relates fun _ =>
    .bind getItem_relates fun _ => .whenSome (fun _ => .pure)
      (.bind batchOf_relates fun _ => .bind startedBatch_relates fun _ =>
        .requires <| .bind ?_ fun _ => .demands fun _ =>
        .bind settlementUtc_relates fun _ => addItem_relates)
  refine .demands fun _ => .demands fun _ => .demands fun _ =>
    .demands fun _ => .requires <| .requires <|
    .requires <| .requires <| .requires <|
    .requires <| .bind (.whenSome (fun _ => ?_) .pure) fun _ => .pure
  exact .demands fun _ => .require

private theorem reconcileItem_relates (request : ReconcileItemRequest) :
    Relates R (reconcileItem hash reads subject request) := by
  refine .bind permission_relates fun _ => .requires <|
    .requires <| .bind settlementReserve_relates fun _ =>
    .bind batchOf_relates fun _ => .bind startedBatch_relates fun _ =>
    .requires <| .bind getItem_relates fun _ => .demands fun _ =>
    .requires <| .demands fun _ =>
    .bind settlementUtc_relates fun _ => .bind appendRecord_relates fun _ =>
    .bind ?_ fun _ => .pure
  exact .ite (.bind settlementUtc_relates fun _ => .bind appendException_relates fun _ =>
    .bind transitionBatch_relates fun _ => .pure) .pure

private theorem markBalanced_relates (request : BatchRequest) :
    Relates R (markBalanced hash reads subject request) :=
  .bind permission_relates fun _ => .requires <|
    .requires <| .bind settlementReserve_relates fun _ =>
    .bind batchOf_relates fun _ => .requires <|
    .bind (.bind .get fun _ => .pure) fun _ => .requires <|
    .bind (.bind .get fun _ => .pure) fun _ => .requires <|
    transitionBatch_relates

private theorem recordDecision_relates (request : BatchRequest) (batch : SettlementBatch)
    (decision : SettlementApprovalDecision) :
    Relates R (recordDecision subject request batch decision) :=
  .requires <| .requires <| .demands fun _ =>
    .demands fun _ => .bind settlementUtc_relates fun _ =>
    .demands fun _ => appendApproval_relates

private theorem approve_relates (request : BatchRequest) :
    Relates R (approveSettlementReadiness hash reads subject request) :=
  .bind permission_relates fun _ => .requires <|
    .bind settlementReserve_relates fun _ => .bind batchOf_relates fun _ =>
    .requires <| recordDecision_relates _ _ _ _

private theorem reject_relates (request : BatchRequest) :
    Relates R (rejectSettlementReadiness hash reads subject request) :=
  .bind permission_relates fun _ => .requires <|
    .bind settlementReserve_relates fun _ => .bind batchOf_relates fun _ =>
    recordDecision_relates _ _ _ _

private theorem investigate_relates (request : InvestigateRequest) :
    Relates R (investigateException hash reads subject request) :=
  .bind permission_relates fun _ => .requires <|
    .bind settlementReserve_relates fun _ => .bind batchOf_relates fun _ =>
    .requires <| .bind settlementUtc_relates fun _ =>
    .bind appendException_relates fun _ => transitionBatch_relates

private theorem resolve_relates (request : ResolveRequest) :
    Relates R (resolveException hash reads subject request) :=
  .bind permission_relates fun _ => .requires <|
    .bind settlementReserve_relates fun _ => .bind batchOf_relates fun _ =>
    .requires <| .demands fun _ =>
    .bind settlementUtc_relates fun _ => .bind appendException_relates fun _ =>
    transitionBatch_relates

private theorem recordExternalEvidence_relates (request : ExternalEvidenceRequest) :
    Relates R (recordExternalEvidence hash reads subject request) :=
  .bind permission_relates fun _ => .requires <|
    .requires <| .bind settlementReserve_relates fun _ =>
    .bind batchOf_relates fun _ => .bind (.bind .get fun _ => .pure) fun _ =>
    .requires <| .demands fun _ => .demands fun _ =>
    .demands fun _ => .bind settlementUtc_relates fun _ =>
    appendExternalEvidence_relates

theorem step_related (ready : ∀ reads subject request,
      Relates R (markReadyForSettlement hash holds reads subject request))
    (store : SettlementStore) (call : SettlementCall) : R store (step hash holds store call) := by
  obtain ⟨reads, subject, command⟩ := call
  cases command with
  | createBatch request => exact (createBatch_relates hash reads subject request).commit store
  | collectItem request => exact (collectItem_relates hash reads subject request).commit store
  | reconcileItem request => exact (reconcileItem_relates hash reads subject request).commit store
  | markBalanced request => exact (markBalanced_relates hash reads subject request).commit store
  | approveSettlementReadiness request =>
    exact (approve_relates hash reads subject request).commit store
  | rejectSettlementReadiness request =>
    exact (reject_relates hash reads subject request).commit store
  | markReadyForSettlement request =>
    exact (ready reads subject request).commit store
  | investigateException request =>
    exact (investigate_relates hash reads subject request).commit store
  | resolveException request => exact (resolve_relates hash reads subject request).commit store
  | recordExternalEvidence request =>
    exact (recordExternalEvidence_relates hash reads subject request).commit store

end

/-! The reservations themselves outlive every command. -/

instance : Admits KeepsReserved where
  unread s t same _ := by
    rw [KeepsReserved, same]
    exact .refl s.idempotency
  reserving hash actorId operation key payload responseReference time := by
    refine .within reserveIdempotency_relates ?_
    exact fun _ _ outlives => outlives

private theorem appendHoldEvidence_relates {evidence : SettlementHoldEvidence} :
    Relates KeepsReserved (appendHoldEvidence evidence) := by
  refine .get_bind fun store _ t ran => ?_
  simp only [↓steps_ok] at ran
  obtain ⟨_, _, rfl⟩ := ran
  exact .refl store.idempotency

private theorem markReady_relates (hash : Payload → Digest) (holds : HoldStore)
    (reads : SettlementReads) (subject : AuthorizationSubject) (request : BatchRequest) :
    Relates KeepsReserved (markReadyForSettlement hash holds reads subject request) :=
  .bind permission_relates fun _ => .requires <|
    .requires <| .bind settlementReserve_relates fun _ =>
    .bind batchOf_relates fun _ => .requires <|
    .bind (.bind .get fun _ => .pure) fun _ => .demands fun _ =>
    .requires <| .bind settlementUtc_relates fun _ =>
    .bind appendHoldEvidence_relates fun _ => .requires <|
    transitionBatch_relates

theorem step_keepsReserved {hash : Payload → Digest} {holds : HoldStore} {store : SettlementStore}
    {call : SettlementCall} : KeepsReserved store (step hash holds store call) :=
  step_related hash holds (markReady_relates hash holds) store call

/-- Whatever the settlement and hold services do, the settlement reservations stay. -/
theorem run_keepsReserved (hash : Payload → Digest) (system : SettlementSystem)
    (calls : List SystemCall) :
    KeepsReserved system.settlements (run (systemStep hash) system calls).settlements := by
  refine run_related (R := fun s t : SettlementSystem =>
    KeepsReserved s.settlements t.settlements) ?_ ?_ ?_ system calls
  · exact fun system => .refl system.settlements.idempotency
  · exact fun first second => Outlives.trans first second
  · intro system call
    cases call with
    | settlement call => exact step_keepsReserved
    | hold call => exact .refl system.settlements.idempotency

end Ayo.Settlement.Reservations
