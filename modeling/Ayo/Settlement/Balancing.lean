/- digest: When a batch can be balanced over items that did not match. -/

import Ayo.Settlement.Effects

namespace Ayo.Settlement.Balancing

open Kernel.Run Core.Values
open Payment.SingleCapture (sampleHash)
open Models Repository Application Effects Settlement.System

variable (store : SettlementStore)

def lastRecord? (settlementItemId : Uuid) : Option ReconciliationRecord :=
  (store.records.rows.filter fun record => record.settlementItemId = settlementItemId).getLast?

def lastResult? (settlementItemId : Uuid) : Option ReconciliationResult :=
  (lastRecord? store settlementItemId).map ReconciliationRecord.result

def isSettled (state : SettlementBatchState) : Bool :=
  state = .balanced || state = .readyForSettlement

/-- Every item of a balanced or ready batch was last recorded as matched. -/
def BalancedMatched : Prop :=
  ∀ batch ∈ store.batches.rows, isSettled batch.state = true →
    ∀ item ∈ store.items.rows, item.settlementBatchId = batch.settlementBatchId →
      lastResult? store item.settlementItemId = some .matched
deriving Decidable

def balanceRequest? : SystemCall → Option BatchRequest
  | .settlement ⟨_, _, .markBalanced request⟩ => some request
  | _ => none

/-- A call that balances a reconciling batch without exceptions finds each of its items recorded,
and none last recorded as partially matched. -/
def BalancesRecorded (system : SettlementSystem) (call : SystemCall) : Prop :=
  ∀ request ∈ balanceRequest? call, ∀ batch ∈ system.settlements.batches.rows,
    batch.settlementBatchId = request.settlementBatchId → batch.state = .reconciling →
      (∀ exception ∈ system.settlements.exceptions.rows,
        exception.settlementBatchId ≠ batch.settlementBatchId) →
          ∀ item ∈ system.settlements.items.rows, item.settlementBatchId = batch.settlementBatchId →
              lastResult? system.settlements item.settlementItemId ∉ [none, some .partiallyMatched]
deriving Decidable

/-- Records belong to items of their batch, a result that raises an exception has raised one, and
balanced batches are matched. -/
structure Reconciled (store : SettlementStore) : Prop where
  housed : ∀ record ∈ store.records.rows, ∃ item ∈ store.items.rows,
    item.settlementItemId = record.settlementItemId ∧
      item.settlementBatchId = record.settlementBatchId
  excepted : ∀ record ∈ store.records.rows, raisesException record.result = true →
    ∃ exception ∈ store.exceptions.rows, exception.settlementBatchId = record.settlementBatchId
  balanced : BalancedMatched store

variable {s t : SettlementStore} {new : SettlementBatch}

private theorem lastResult?_congr (records : t.records = s.records) (settlementItemId : Uuid) :
    lastResult? t settlementItemId = lastResult? s settlementItemId := by
  simp only [lastResult?, lastRecord?, records]

private theorem lastResult?_append {record : ReconciliationRecord} {settlementItemId : Uuid}
    (rows : t.records.rows = s.records.rows ++ [record])
    (different : record.settlementItemId ≠ settlementItemId) :
    lastResult? t settlementItemId = lastResult? s settlementItemId := by
  simp [lastResult?, lastRecord?, rows, different]

private theorem matched_of_unsettled {current : SettlementBatch}
    (moved : BatchMoved s.batches t.batches current new)
    (unsettled : isSettled new.state = false) (matched : BalancedMatched s)
    (items : ∀ item ∈ t.items.rows, item ∈ s.items.rows ∨
      item.settlementBatchId = current.settlementBatchId)
    (records : ∀ item ∈ s.items.rows, item.settlementBatchId ≠ current.settlementBatchId →
      lastResult? t item.settlementItemId = lastResult? s item.settlementItemId) :
    BalancedMatched t := by
  intro batch mem settled item held same
  obtain rfl | ⟨old, different⟩ := moved.origin mem
  · simp [unsettled] at settled
  · obtain kept | collected := items item held
    · rw [records item kept (fun other => different (same.symm.trans other))]
      exact matched batch old settled item kept same
    · exact absurd (same.symm.trans collected) different

private theorem matched_of_settled {current : SettlementBatch}
    (moved : BatchMoved s.batches t.batches current new)
    (items : t.items = s.items) (records : t.records = s.records)
    (matched : BalancedMatched s) (current_matched : ∀ item ∈ s.items.rows,
      item.settlementBatchId = current.settlementBatchId →
        lastResult? s item.settlementItemId = some .matched) : BalancedMatched t := by
  intro batch mem settled item held same
  rw [items] at held
  rw [lastResult?_congr records]
  obtain rfl | ⟨old, _⟩ := moved.origin mem
  · exact current_matched item held (same.trans moved.id)
  · exact matched batch old settled item held same

private theorem silent_of_unexcepted {store : SettlementStore} (reconciled : Reconciled store)
    {item : SettlementItem} (held : item ∈ store.items.rows)
    (unexcepted : ∀ exception ∈ store.exceptions.rows,
      exception.settlementBatchId ≠ item.settlementBatchId)
    {result : ReconciliationResult} (last : lastResult? store item.settlementItemId = some result) :
    raisesException result = false := by
  obtain ⟨record, found, rfl⟩ := Option.map_eq_some_iff.1 last
  have mem : record ∈ store.records.rows ∧ record.settlementItemId = item.settlementItemId := by
    simpa using List.mem_of_getLast? found
  obtain ⟨house, housed, id, batchId⟩ := reconciled.housed record mem.1
  obtain rfl : house = item := store.items.eq_of_key housed held (id.trans mem.2)
  by_contra raises
  obtain ⟨exception, raised, same⟩ := reconciled.excepted record mem.1 (by simpa using raises)
  exact unexcepted exception raised (same.trans batchId.symm)

theorem step_preserves_reconciled (hash : Payload → Digest) (system : SettlementSystem)
    (call : SettlementCall) (guard : BalancesRecorded system (.settlement call))
    (reconciled : Reconciled system.settlements) :
    Reconciled (step hash system.holds system.settlements call) := by
  obtain ⟨housed, excepted, matched⟩ := reconciled
  cases step_effect hash system.holds system.settlements call with
  | idle batches items records exceptions _
  | decided approval current _ _ _ batches items records exceptions _ =>
    refine ⟨by rwa [records, items], by rwa [records, exceptions], ?_⟩
    simpa only [BalancedMatched, batches, items, lastResult?_congr records] using matched
  | opened batch created batches items records exceptions _ =>
    refine ⟨by rwa [records, items], by rwa [records, exceptions], ?_⟩
    intro other mem settled item held same
    rw [lastResult?_congr records]
    rw [batches, List.mem_append, List.mem_singleton] at mem
    rw [items] at held
    rcases mem with old | rfl
    · exact matched other old settled item held same
    · simp [created, isSettled] at settled
  | collected request item current changed _ _ moved _ target batchId _ _ _ items records
      exceptions _ =>
    refine ⟨?_, by rwa [records, exceptions], ?_⟩
    · rw [records, items]
      intro record mem
      obtain ⟨house, held, linked⟩ := housed record mem
      exact ⟨house, List.mem_append_left _ held, linked⟩
    · refine matched_of_unsettled moved (by simp [target, isSettled]) matched ?_
        fun _ _ _ => lastResult?_congr records _
      intro other mem
      rw [items, List.mem_append, List.mem_singleton] at mem
      exact mem.imp_right fun (same : other = item) => same ▸ batchId
  | reconciled item record current changed moved _ target collected batchId recordItemId
      recordBatchId items records kept raised _ =>
    refine ⟨?_, ?_, ?_⟩
    · rw [records, items]
      intro other mem
      rcases List.mem_append.1 mem with old | new
      · exact housed other old
      · rw [List.mem_singleton.1 new]
        exact ⟨item, collected, recordItemId.symm, batchId.trans recordBatchId.symm⟩
    · rw [records]
      intro other mem raises
      rcases List.mem_append.1 mem with old | new
      · obtain ⟨exception, held, same⟩ := excepted other old raises
        exact ⟨exception, kept exception held, same⟩
      · rw [List.mem_singleton.1 new] at raises ⊢
        exact raised raises
    · refine matched_of_unsettled moved ?_ matched (fun other mem => .inl (items ▸ mem)) ?_
      · have : changed.state = .reconciling ∨ changed.state = .exception := by simpa using target
        rcases this with state | state <;> simp [state, isSettled]
      · intro other held different
        refine lastResult?_append records fun same => different ?_
        rw [← system.settlements.items.eq_of_key collected held (recordItemId.symm.trans same)]
        exact batchId
  | balanced request current changed command moved requested source _ unexcepted items records
      exceptions _ =>
    refine ⟨by rwa [records, items], by rwa [records, exceptions], ?_⟩
    refine matched_of_settled moved items records matched fun item held same => ?_
    obtain ⟨reads, subject, _⟩ := call
    cases command
    have recorded := guard request rfl current moved.found requested source unexcepted item held same
    cases last : lastResult? system.settlements item.settlementItemId with
    | none => simp [last] at recorded
    | some result =>
      have silent := silent_of_unexcepted ⟨housed, excepted, matched⟩ held
        (fun exception mem => same ▸ unexcepted exception mem) last
      cases result <;> simp_all [raisesException]
  | readied request current changed last _ moved _ source _ _ _ _ items records exceptions _ =>
    refine ⟨by rwa [records, items], by rwa [records, exceptions], ?_⟩
    exact matched_of_settled moved items records matched
      (matched current moved.found (by simp [source, isSettled]))
  | excepted current changed moved _ target items records kept _ =>
    refine ⟨by rwa [records, items], ?_, ?_⟩
    · rw [records]
      intro record mem raises
      obtain ⟨exception, held, same⟩ := excepted record mem raises
      exact ⟨exception, kept exception held, same⟩
    · refine matched_of_unsettled moved ?_ matched (fun other mem => .inl (items ▸ mem))
        fun _ _ _ => lastResult?_congr records _
      have : changed.state = .manualReview ∨ changed.state = .resolved := by simpa using target
      rcases this with state | state <;> simp [state, isSettled]

/-- In a run that balances a batch only when every item was recorded and none was last recorded as
partially matched, the items of balanced and ready batches were all last recorded as matched. -/
theorem balanced_matched_along (hash : Payload → Digest) (calls : List SystemCall)
    (along : Along (systemStep hash) BalancesRecorded {} calls) :
    BalancedMatched (run (systemStep hash) {} calls).settlements := by
  have start : Reconciled {} := by
    refine ⟨?_, ?_, ?_⟩ <;> intro row member <;> simp at member
  exact (settlements_invariant_along start (step_preserves_reconciled hash) along).balanced

/-- A batch balanced with one of its two items never reconciled. -/
def balancedUnrecorded : List SystemCall :=
  [openBatch 500 "settlement-batch-0001", collect 500 601 "settlement-item-00001",
   collect 500 602 "settlement-item-00002",
   reconcileAs .matched 500 601 701 "settlement-check-0001",
   balance 500 "settlement-balance-01"]

def balancedPartial : List SystemCall :=
  [openBatch 500 "settlement-batch-0001", collect 500 601 "settlement-item-00001",
   reconcileAs .partiallyMatched 500 601 701 "settlement-check-0001",
   balance 500 "settlement-balance-01"]

theorem balanced_matched_once :
    (run (systemStep sampleHash) {} balancedBatch).settlements.batches.rows.map
        SettlementBatch.state = [.balanced] ∧
      BalancedMatched (run (systemStep sampleHash) {} balancedBatch).settlements :=
  ⟨by decide, balanced_matched_along sampleHash balancedBatch (by decide)⟩

theorem balanced_unmatched :
    ¬ BalancedMatched (run (systemStep sampleHash) {} balancedUnrecorded).settlements ∧
      ¬ BalancedMatched (run (systemStep sampleHash) {} balancedPartial).settlements := by
  decide

end Ayo.Settlement.Balancing
