/- digest: Which finance decision lets a batch become ready, under which holds. -/

import Ayo.Settlement.Effects

namespace Ayo.Settlement.Readiness

open Kernel.Run Core.Values
open FinancialControl.Models (blocksReadiness)
open FinancialControl.Repository (HoldStore)
open Payment.SingleCapture (sampleHash)
open Models Repository Application Effects Settlement.System

variable (store : SettlementStore)

def AppendedLast (settlementBatchId : Uuid) (decision : SettlementApproval) : Prop :=
  ((store.approvals.rows.filter fun approval =>
    approval.settlementBatchId = settlementBatchId).getLast?).map
      SettlementApproval.settlementApprovalId = some decision.settlementApprovalId
deriving Decidable

/-- The decision is for the batch, and no other for it is later by its time, or by its identifier
at the same time. -/
def DecidedLast (settlementBatchId : Uuid) (decision : SettlementApproval) : Prop :=
  decision.settlementBatchId = settlementBatchId ∧
    ∀ other ∈ store.approvals.rows, other.settlementBatchId = settlementBatchId →
      toLex (other.decidedAt, other.settlementApprovalId) ≤
        toLex (decision.decidedAt, decision.settlementApprovalId)

def ReadinessMet (system : SettlementSystem) (batch : SettlementBatch)
    (decision : SettlementApproval) : Prop :=
  decision.decision = .approved ∧ decision.decidedByIdentityId ≠ batch.createdByIdentityId ∧
    ∀ hold ∈ system.holds.holds.rows, hold.sourceType = .settlementBatch →
      hold.sourceId = batch.settlementBatchId → blocksReadiness hold.state = false
deriving Decidable

/-- A call that makes a batch ready finds it under the decision that decides, with readiness met. -/
def ReadyOnlyUnder (decides : SettlementStore → Uuid → SettlementApproval → Prop)
    (hash : Payload → Digest) (system : SettlementSystem) (call : SystemCall) : Prop :=
  ∀ batch ∈ system.settlements.batches.rows, batch.state ≠ .readyForSettlement →
    (∃ kept ∈ (systemStep hash system call).settlements.batches.rows,
      kept.settlementBatchId = batch.settlementBatchId ∧ kept.state = .readyForSettlement) →
        ∃ decision ∈ system.settlements.approvals.rows,
          decides system.settlements batch.settlementBatchId decision ∧
            ReadinessMet system batch decision

instance (decides : SettlementStore → Uuid → SettlementApproval → Prop)
    [∀ store id decision, Decidable (decides store id decision)] (hash : Payload → Digest)
    (system : SettlementSystem) (call : SystemCall) :
    Decidable (ReadyOnlyUnder decides hash system call) :=
  inferInstanceAs (Decidable (∀ _ ∈ _, _ → (∃ _ ∈ _, _ ∧ _) → ∃ _ ∈ _, _ ∧ _))

def Prepared : Prop :=
  ∀ approval ∈ store.approvals.rows, ∃ batch ∈ store.batches.rows,
    batch.settlementBatchId = approval.settlementBatchId ∧
      batch.createdByIdentityId = approval.preparedByIdentityId

private theorem prepared_of_moved {s t : SettlementStore} {old new : SettlementBatch}
    (moved : BatchMoved s.batches t.batches old new) (approvals : t.approvals = s.approvals)
    (prepared : Prepared s) : Prepared t := by
  unfold Prepared
  rw [approvals]
  intro approval mem
  obtain ⟨batch, held, id, creator⟩ := prepared approval mem
  obtain ⟨kept, stays, keptId, keptCreator⟩ := moved.survives held
  exact ⟨kept, stays, keptId.trans id, keptCreator.trans creator⟩

theorem step_preserves_prepared (hash : Payload → Digest) (holds : HoldStore)
    (store : SettlementStore) (call : SettlementCall) (prepared : Prepared store) :
    Prepared (step hash holds store call) := by
  cases step_effect hash holds store call with
  | idle batches _ _ _ approvals => simpa only [Prepared, batches, approvals] using prepared
  | opened batch _ batches _ _ _ approvals =>
    unfold Prepared
    rw [approvals, batches]
    intro approval mem
    obtain ⟨held, present, linked⟩ := prepared approval mem
    exact ⟨held, List.mem_append_left _ present, linked⟩
  | collected _ _ _ _ _ _ moved _ _ _ _ _ _ _ _ _ approvals =>
    exact prepared_of_moved moved approvals prepared
  | reconciled _ _ _ _ moved _ _ _ _ _ _ _ _ _ _ approvals =>
    exact prepared_of_moved moved approvals prepared
  | balanced _ _ _ _ moved _ _ _ _ _ _ _ approvals =>
    exact prepared_of_moved moved approvals prepared
  | decided approval current found batchId preparer batches _ _ _ approvals =>
    unfold Prepared
    rw [approvals, batches]
    intro other mem
    rcases List.mem_append.1 mem with old | new
    · exact prepared other old
    · rw [List.mem_singleton.1 new]
      exact ⟨current, found, batchId.symm, preparer.symm⟩
  | readied _ _ _ _ _ moved _ _ _ _ _ _ _ _ _ approvals =>
    exact prepared_of_moved moved approvals prepared
  | excepted _ _ moved _ _ _ _ _ approvals => exact prepared_of_moved moved approvals prepared

private theorem readied_of_ready {hash : Payload → Digest} {system : SettlementSystem}
    {call : SettlementCall} {batch kept : SettlementBatch}
    (mem : batch ∈ system.settlements.batches.rows) (unready : batch.state ≠ .readyForSettlement)
    (stays : kept ∈ (step hash system.holds system.settlements call).batches.rows)
    (same : kept.settlementBatchId = batch.settlementBatchId)
    (ready : kept.state = .readyForSettlement) :
    ∃ last, (approvalsOfBatch system.settlements batch.settlementBatchId).getLast? = some last ∧
      last.decision = .approved ∧
      ∀ hold ∈ system.holds.holds.rows, hold.sourceType = .settlementBatch →
        hold.sourceId = batch.settlementBatchId → blocksReadiness hold.state = false := by
  have differs : kept.state ≠ batch.state := fun equal => unready (equal.symm.trans ready)
  have unmoved : (step hash system.holds system.settlements call).batches =
      system.settlements.batches → False := by
    intro batches
    rw [batches] at stays
    exact differs (congrArg SettlementBatch.state
      (system.settlements.batches.eq_of_key stays mem same))
  have unreached : ∀ {current new : SettlementBatch}, BatchMoved system.settlements.batches
        (step hash system.holds system.settlements call).batches current new →
      new.state ≠ .readyForSettlement → False := by
    intro current new moved elsewhere
    obtain ⟨_, rfl⟩ := moved.eq_of_state_ne mem stays same differs
    exact elsewhere ready
  cases step_effect hash system.holds system.settlements call with
  | idle batches => exact (unmoved batches).elim
  | opened opened created batches =>
    rw [batches, List.mem_append, List.mem_singleton] at stays
    rcases stays with old | rfl
    · exact absurd (congrArg SettlementBatch.state
        (system.settlements.batches.eq_of_key old mem same)) differs
    · simp [created] at ready
  | collected _ _ _ _ _ _ moved _ target =>
    exact (unreached moved (by simp [target])).elim
  | reconciled _ _ _ new moved _ target _ _ _ _ _ _ _ _ _ =>
    have : new.state = .reconciling ∨ new.state = .exception := by simpa using target
    refine (unreached moved ?_).elim
    rcases this with state | state <;> simp [state]
  | balanced _ _ _ _ moved _ _ target =>
    exact (unreached moved (by simp [target])).elim
  | decided _ _ _ _ _ batches => exact (unmoved batches).elim
  | readied _ current new last _ moved _ _ _ listed approved unheld _ _ _ _ =>
    obtain ⟨rfl, _⟩ := moved.eq_of_state_ne mem stays same differs
    exact ⟨last, listed, approved, unheld⟩
  | excepted _ new moved _ target _ _ _ _ =>
    have : new.state = .manualReview ∨ new.state = .resolved := by simpa using target
    refine (unreached moved ?_).elim
    rcases this with state | state <;> simp [state]

/-- In every run, a batch becomes ready only under a decision that is the last one for it by time
and identifier, approves, was not taken by its creator, and stands under no blocking hold. -/
theorem ready_only_under_decided_last (hash : Payload → Digest) (calls : List SystemCall)
    (call : SystemCall) :
    ReadyOnlyUnder DecidedLast hash (run (systemStep hash) {} calls) call := by
  have prepared : Prepared (run (systemStep hash) {} calls).settlements :=
    settlements_invariant (fun approval member => by simp at member)
      (step_preserves_prepared hash) calls
  rintro batch member unready ⟨kept, stays, same, ready⟩
  cases call with
  | hold call =>
    have one := (run (systemStep hash) {} calls).settlements.batches.eq_of_key stays member same
    exact absurd (one ▸ ready) unready
  | settlement call =>
    obtain ⟨last, listed, approved, unheld⟩ := readied_of_ready member unready stays same ready
    obtain ⟨⟨stored, batchId⟩, greatest⟩ := last_approvalsOfBatch listed
    refine ⟨last, stored, ⟨batchId, greatest⟩, approved, ?_, unheld⟩
    obtain ⟨house, housed, id, creator⟩ := prepared last stored
    obtain rfl := (run (systemStep hash) {} calls).settlements.batches.eq_of_key housed member
      (id.trans batchId)
    rw [creator]
    exact last.separationOfDuties.symm

def rejectedForEarlier : List SystemCall :=
  balancedBatch ++
    [staffCall <| .approveSettlementReadiness (batchRequest 500 "settlement-approve-1" 310 801),
     staffCall <| .rejectSettlementReadiness (batchRequest 500 "settlement-reject-01" 305 802)]

def markReady : SystemCall :=
  serviceCall <| .markReadyForSettlement (batchRequest 500 "settlement-ready-001" 311 803)

theorem ready_after_rejection :
    ¬ ReadyOnlyUnder AppendedLast sampleHash (run (systemStep sampleHash) {} rejectedForEarlier)
      markReady := by
  decide +kernel

end Ayo.Settlement.Readiness
