/- digest: What is left of a readiness that a financial hold refuses. -/

import Ayo.Settlement.Readiness
import Ayo.Settlement.Reservations

namespace Ayo.Settlement.BlockedReadiness

open Kernel.UnitOfWork Kernel.KeyedTable Kernel.Related Kernel.Run Core.Values Core.Authorization
  FinancialControl.Models
open FinancialControl.Application (HoldReads)
open FinancialControl.Repository (HoldStore holdsForSource)
open Payment.SingleCapture (sampleHash)
open Models Repository Application Effects Reservations Settlement.System

def blockingHold (holds : HoldStore) (settlementBatchId : Uuid) : Option FinancialHold :=
  (holdsForSource holds .settlementBatch settlementBatchId).reverse.find? fun hold =>
    blocksReadiness hold.state

/-- A hold makes the command refuse the batch. -/
def RefusedByHold (hash : Payload → Digest) (holds : HoldStore) (reads : SettlementReads)
    (subject : AuthorizationSubject) (request : BatchRequest) (store : SettlementStore) : Prop :=
  markReadyForSettlement hash holds reads subject request store =
    .error (.conflict "settlement_blocked_by_financial_hold")

def Evidences (store : SettlementStore) (settlementBatchId : Uuid) (hold : FinancialHold) : Prop :=
  ∃ evidence ∈ store.holdEvidence.rows, evidence.settlementBatchId = settlementBatchId ∧
    evidence.blocksReadiness = true ∧ evidence.financialHoldId = some hold.holdId

structure RefusalEvidenced (hash : Payload → Digest) (system : SettlementSystem)
    (reads : SettlementReads) (subject : AuthorizationSubject) (request : BatchRequest) : Prop where
  evidenced : ∃ hold, blockingHold system.holds request.settlementBatchId = some hold ∧
    Evidences (systemStep hash system
      (.settlement ⟨reads, subject, .markReadyForSettlement request⟩)).settlements
        request.settlementBatchId hold
  unmoved : ((systemStep hash system
      (.settlement ⟨reads, subject, .markReadyForSettlement request⟩)).settlements.batches.find
        request.settlementBatchId).map SettlementBatch.state =
    (system.settlements.batches.find request.settlementBatchId).map SettlementBatch.state

/-- What the second store has in evidence beyond the first blocks nothing. -/
def OnlyUnblocked (before after : SettlementStore) : Prop :=
  ∀ evidence ∈ after.holdEvidence.rows,
    evidence ∈ before.holdEvidence.rows ∨ evidence.blocksReadiness = false

theorem onlyUnblocked_of_same {s t : SettlementStore}
    (same : t.holdEvidence = s.holdEvidence) : OnlyUnblocked s t := by
  intro evidence mem
  rw [same] at mem
  exact .inl mem

instance : Admits OnlyUnblocked where
  refl _ := onlyUnblocked_of_same rfl
  trans first second third earlier later := by
    intro evidence member
    rcases later evidence member with old | unblocked
    · exact earlier evidence old
    · exact .inr unblocked
  unread _ _ _ same := onlyUnblocked_of_same same
  reserving hash actorId operation key payload responseReference time := by
    intro store canonical after success
    obtain ⟨idempotency, _, rfl⟩ := within_ok.1 success
    exact onlyUnblocked_of_same rfl

theorem markReady_onlyUnblocked (hash : Payload → Digest) (holds : HoldStore)
    (reads : SettlementReads) (subject : AuthorizationSubject) (request : BatchRequest) :
    Relates OnlyUnblocked (markReadyForSettlement hash holds reads subject request) := by
  intro s result t ran
  unfold markReadyForSettlement requireServiceIdentity at ran
  simp only [↓guards_ok] at ran
  obtain ⟨_, _, _, _, ran⟩ := ran
  obtain ⟨idempotency, ran⟩ := reserving_ok ran
  unfold listApprovals appendHoldEvidence at ran
  simp only [bind_assoc, pure_bind, ↓batchOf_bind_ok, ↓steps_ok, ↓settlementUtc_bind_ok,
    Table.insert?_eq_some, Option.isNone_iff_eq_none] at ran
  obtain ⟨_, found, _, _, _, _, _, holdEvidence, rows, unheld, ran⟩ := ran
  obtain ⟨_, _, rfl, _⟩ :=
    transitionBatch_ok ran (Table.mem_of_find found) (Table.key_of_find found)
  intro evidence mem
  rcases List.mem_append.1 (rows ▸ mem) with old | new
  · exact .inl old
  · rw [List.mem_singleton.1 new]
    right
    simp only [unheld, Option.isSome_none]

theorem evidence_never_blocks (hash : Payload → Digest) (calls : List SystemCall) :
    ∀ evidence ∈ (run (systemStep hash) {} calls).settlements.holdEvidence.rows,
      evidence.blocksReadiness = false := by
  refine @settlements_invariant (fun store => ∀ evidence ∈ store.holdEvidence.rows,
    evidence.blocksReadiness = false) hash ?_ ?_ calls
  · intro evidence mem
    exact absurd mem List.not_mem_nil
  · intro holds store call inv evidence mem
    have related := step_related (R := OnlyUnblocked) hash holds
      (markReady_onlyUnblocked hash holds) store call
    rcases related evidence mem with old | unblocked
    · exact inv evidence old
    · exact unblocked

theorem systemStep_of_refused {hash : Payload → Digest} {system : SettlementSystem}
    {reads : SettlementReads} {subject : AuthorizationSubject} {request : BatchRequest}
    (refused : RefusedByHold hash system.holds reads subject request system.settlements) :
    systemStep hash system (.settlement ⟨reads, subject, .markReadyForSettlement request⟩) =
      system := by
  have same : step hash system.holds system.settlements
      ⟨reads, subject, .markReadyForSettlement request⟩ = system.settlements :=
    commit_of_error refused
  simp only [systemStep, same]

/-- In every run, an attempt that a blocking hold refuses leaves no evidence of it: the store is as
it was before, and no evidence in it is of a blocking hold. -/
theorem refusal_unevidenced (hash : Payload → Digest) (calls : List SystemCall)
    (reads : SettlementReads) (subject : AuthorizationSubject) (request : BatchRequest)
    (refused : RefusedByHold hash (run (systemStep hash) {} calls).holds reads subject request
      (run (systemStep hash) {} calls).settlements) :
    systemStep hash (run (systemStep hash) {} calls)
        (.settlement ⟨reads, subject, .markReadyForSettlement request⟩) =
      run (systemStep hash) {} calls ∧
    ¬ RefusalEvidenced hash (run (systemStep hash) {} calls) reads subject request := by
  have same := systemStep_of_refused refused
  refine ⟨same, ?_⟩
  rintro ⟨⟨hold, _, evidence, member, _, blocks, _⟩, _⟩
  rw [same] at member
  rw [evidence_never_blocks hash calls evidence member] at blocks
  exact absurd blocks (by decide)

/-! The batch 500, balanced and approved, under a hold 100 that has just been created. -/

def batchHoldReads : HoldReads :=
  { grants := fun _ _ _ => true, payments := {}, refunds := {},
    walletAccountExists := fun _ => false, postingExists := fun _ => false,
    identityExists := fun _ => false }

def batchHoldKey : BoundedText 16 128 := ⟨"settlement-hold-01", by decide⟩

def heldBatch : List SystemCall :=
  balancedBatch ++
    [staffCall <| .approveSettlementReadiness (batchRequest 500 "settlement-approve-1" 310 801),
     .hold ⟨batchHoldReads, ⟨9, .service⟩, .createHold
      { holdType := .settlement, sourceType := .settlementBatch, sourceId := 500,
        reason := ⟨.fraudReviewRequired, none⟩, idempotencyKey := batchHoldKey,
        correlationId := 53, causationId := 53, occurredAt := 310, candidateId := 100,
        historyId := 200 }⟩]

def readyRequest : BatchRequest := batchRequest 500 "settlement-ready-001" 311 803

def failure? {α : Type} : Except Failure α → Option Failure
  | .ok _ => none
  | .error failure => some failure

theorem eq_error_of_failure {α : Type} {result : Except Failure α} {failure : Failure}
    (failed : failure? result = some failure) : result = .error failure := by
  cases result with
  | ok value => cases failed
  | error found => exact congrArg Except.error (Option.some.inj failed)

theorem held_refused : RefusedByHold sampleHash (run (systemStep sampleHash) {} heldBatch).holds
    settlementReads ⟨9, .service⟩ readyRequest
      (run (systemStep sampleHash) {} heldBatch).settlements := by
  apply eq_error_of_failure
  decide +kernel

theorem refusal_unevidenced_held :
    ¬ RefusalEvidenced sampleHash (run (systemStep sampleHash) {} heldBatch) settlementReads
      ⟨9, .service⟩ readyRequest :=
  (refusal_unevidenced sampleHash heldBatch settlementReads ⟨9, .service⟩ readyRequest
    held_refused).2

/-- The hold that refuses the attempt is not in evidence after it. -/
theorem refused_without_evidence :
    ¬ ∀ (hash : Payload → Digest) (calls : List SystemCall) (reads : SettlementReads)
      (subject : AuthorizationSubject) (request : BatchRequest),
      RefusedByHold hash (run (systemStep hash) {} calls).holds reads subject request
          (run (systemStep hash) {} calls).settlements →
        RefusalEvidenced hash (run (systemStep hash) {} calls) reads subject request := by
  intro evidenced
  have claimed := evidenced sampleHash heldBatch settlementReads ⟨9, .service⟩ readyRequest
    held_refused
  obtain ⟨⟨hold, _, evidence, member, _⟩, _⟩ := claimed
  have empty : (systemStep sampleHash (run (systemStep sampleHash) {} heldBatch)
      (.settlement ⟨settlementReads, ⟨9, .service⟩, .markReadyForSettlement
        readyRequest⟩)).settlements.holdEvidence.rows = [] := by
    decide +kernel
  rw [empty] at member
  exact absurd member List.not_mem_nil

end Ayo.Settlement.BlockedReadiness
