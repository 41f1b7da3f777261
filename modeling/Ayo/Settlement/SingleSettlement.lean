/- digest: When one payment can be settled twice. -/

import Ayo.Settlement.Balancing

namespace Ayo.Settlement.SingleSettlement

open Kernel.Run Kernel.KeyedTable Core.Values Core.Authorization
open Payment.SingleCapture (sampleHash)
open Models Repository Application Effects Settlement.System
open Balancing (isSettled)

/-- What an item settles: a payment attempt for one type of reconciliation and one refund. -/
abbrev Settled := Uuid × ReconciliationType × Option Uuid

def settledBy (item : SettlementItem) : Settled :=
  (item.paymentAttemptId, item.reconciliationType, item.refundRequestId)

def settledByRequest (request : CollectItemRequest) : Settled :=
  (request.paymentAttemptId, request.reconciliationType, request.refundRequestId)

def LiesIn (store : SettlementStore) (property : SettlementBatchState → Bool)
    (item : SettlementItem) : Prop :=
  ∃ batch ∈ store.batches.rows,
    batch.settlementBatchId = item.settlementBatchId ∧ property batch.state = true
deriving Decidable

/-- No two items of balanced or ready batches settle the same. -/
def SettledOnce (store : SettlementStore) : Prop :=
  ∀ a ∈ store.items.rows, ∀ b ∈ store.items.rows, LiesIn store isSettled a →
    LiesIn store isSettled b → settledBy a = settledBy b → a = b
deriving Decidable

def isLive (state : SettlementBatchState) : Bool :=
  state ∉ [.exception, .manualReview, .resolved]

def collectRequest? : SystemCall → Option (AuthorizationSubject × CollectItemRequest)
  | .settlement ⟨_, subject, .collectItem request⟩ => some (subject, request)
  | _ => none

/-- A call that would add an item settles what no item of a live batch settles. -/
def CollectsFresh (system : SettlementSystem) (call : SystemCall) : Prop :=
  ∀ collected ∈ collectRequest? call,
    system.settlements.items.find (canonicalReference system.settlements.idempotency
        collected.1.identityId "settlement.item.collect" collected.2.idempotencyKey
        collected.2.candidateId) = none →
      ∀ item ∈ system.settlements.items.rows, settledBy item = settledByRequest collected.2 →
        ¬ LiesIn system.settlements isLive item
deriving Decidable

instance (table : Table SettlementItem) (id : Uuid) : Decidable (table.find id = none) :=
  decidable_of_iff _ Option.isNone_iff_eq_none

/-- Items lie in batches that exist, and no two items of live batches settle the same. -/
structure Fresh (store : SettlementStore) : Prop where
  housed : ∀ item ∈ store.items.rows, ∃ batch ∈ store.batches.rows,
    batch.settlementBatchId = item.settlementBatchId
  single : ∀ a ∈ store.items.rows, ∀ b ∈ store.items.rows, LiesIn store isLive a →
    LiesIn store isLive b → settledBy a = settledBy b → a = b

variable {s t : SettlementStore} {item : SettlementItem} {new : SettlementBatch}

private theorem livedIn_of_moved {current : SettlementBatch}
    (moved : BatchMoved s.batches t.batches current new)
    (unrevived : isLive new.state = true → isLive current.state = true)
    (lies : LiesIn t isLive item) : LiesIn s isLive item := by
  obtain ⟨batch, mem, same, live⟩ := lies
  obtain rfl | ⟨old, _⟩ := moved.origin mem
  · exact ⟨current, moved.found, moved.id.symm.trans same, unrevived live⟩
  · exact ⟨batch, old, same, live⟩

private theorem fresh_of_moved {old : SettlementBatch}
    (moved : BatchMoved s.batches t.batches old new)
    (unrevived : isLive new.state = true → isLive old.state = true)
    (items : t.items = s.items) (fresh : Fresh s) : Fresh t := by
  refine ⟨?_, ?_⟩
  · rw [items]
    intro item held
    obtain ⟨batch, mem, same⟩ := fresh.housed item held
    obtain ⟨kept, stays, id, _⟩ := moved.survives mem
    exact ⟨kept, stays, id.trans same⟩
  · rw [items]
    intro a first b second liveA liveB
    exact fresh.single a first b second (livedIn_of_moved moved unrevived liveA)
      (livedIn_of_moved moved unrevived liveB)

private theorem fresh_of_collected {current : SettlementBatch}
    (moved : BatchMoved s.batches t.batches current new) (source : isLive current.state = true)
    (batchId : item.settlementBatchId = current.settlementBatchId)
    (items : t.items.rows = s.items.rows ++ [item])
    (alone : ∀ other ∈ s.items.rows, settledBy other = settledBy item → ¬ LiesIn s isLive other)
    (fresh : Fresh s) : Fresh t := by
  have livedIn : ∀ other, LiesIn t isLive other → LiesIn s isLive other :=
    fun other lies => livedIn_of_moved moved (fun _ => source) lies
  refine ⟨?_, ?_⟩
  · intro other held
    rcases (mem_appended items).1 held with old | rfl
    · obtain ⟨batch, mem, same⟩ := fresh.housed other old
      obtain ⟨kept, stays, id, _⟩ := moved.survives mem
      exact ⟨kept, stays, id.trans same⟩
    · obtain ⟨kept, stays, id, _⟩ := moved.survives moved.found
      exact ⟨kept, stays, id.trans batchId.symm⟩
  · intro a first b second liveA liveB same
    rw [items, List.mem_append, List.mem_singleton] at first second
    rcases first with oldA | rfl
    · rcases second with oldB | rfl
      · exact fresh.single a oldA b oldB (livedIn a liveA) (livedIn b liveB) same
      · exact absurd (livedIn a liveA) (alone a oldA same)
    · rcases second with oldB | rfl
      · exact absurd (livedIn b liveB) (alone b oldB same.symm)
      · rfl

theorem step_preserves_fresh (hash : Payload → Digest) (system : SettlementSystem)
    (call : SettlementCall) (guard : CollectsFresh system (.settlement call))
    (fresh : Fresh system.settlements) :
    Fresh (step hash system.holds system.settlements call) := by
  cases step_effect hash system.holds system.settlements call with
  | idle batches items _ _ _ | decided _ _ _ _ _ batches items _ _ _ =>
    refine ⟨by simpa only [batches, items] using fresh.housed, ?_⟩
    simpa only [LiesIn, batches, items] using fresh.single
  | opened batch _ batches items _ _ _ =>
    -- no item can lie in the new batch, since its items have batches of other identifiers
    have livedIn : ∀ item ∈ system.settlements.items.rows,
        LiesIn (step hash system.holds system.settlements call) isLive item →
          LiesIn system.settlements isLive item := by
      rintro item held ⟨other, mem, same, live⟩
      rcases (mem_appended batches).1 mem with old | rfl
      · exact ⟨other, old, same, live⟩
      · obtain ⟨house, housed, id⟩ := fresh.housed item held
        have free := Table.find_eq_none.1 (Table.find_eq_none_of_rows_append batches) house housed
        exact absurd (id.trans same.symm) free
    refine ⟨?_, ?_⟩
    · rw [items, batches]
      intro item held
      obtain ⟨house, housed, id⟩ := fresh.housed item held
      exact ⟨house, List.mem_append_left _ housed, id⟩
    · rw [items]
      intro a first b second liveA liveB
      exact fresh.single a first b second (livedIn a first liveA) (livedIn b second liveB)
  | collected request item current changed command new moved source _ batchId attemptId type
      refundId items _ _ _ =>
    obtain ⟨reads, subject, _⟩ := call
    cases command
    have settles : settledBy item = settledByRequest request := by
      rw [settledBy, attemptId, type, refundId, settledByRequest]
    refine fresh_of_collected moved ?_ batchId items
      (fun other held same => guard (subject, request) rfl new other held (same.trans settles)) fresh
    rcases source with state | state <;> simp [state, isLive]
  | reconciled _ _ current changed moved source _ _ _ _ _ items _ _ _ _ =>
    refine fresh_of_moved moved (fun _ => ?_) items fresh
    have : current.state = .created ∨ current.state = .collecting ∨
        current.state = .reconciling := by simpa using source
    rcases this with state | state | state <;> simp [state, isLive]
  | balanced _ current changed _ moved _ source _ _ items _ _ _
  | readied _ current changed _ _ moved _ source _ _ _ _ items _ _ _ =>
    exact fresh_of_moved moved (fun _ => by simp [source, isLive]) items fresh
  | excepted current changed moved _ target items _ _ _ =>
    refine fresh_of_moved moved (fun live => ?_) items fresh
    have : changed.state = .manualReview ∨ changed.state = .resolved := by simpa using target
    rcases this with state | state <;> simp [state, isLive] at live

private theorem isLive_of_isSettled {state : SettlementBatchState}
    (settled : isSettled state = true) : isLive state = true := by
  cases state <;> simp_all [isSettled, isLive]

/-- In a run that collects no payment which an item of a live batch already settles, balanced and
ready batches settle every payment once. -/
theorem settled_once_along (hash : Payload → Digest) (calls : List SystemCall)
    (along : Along (systemStep hash) CollectsFresh {} calls) :
    SettledOnce (run (systemStep hash) {} calls).settlements := by
  have start : Fresh {} := by
    refine ⟨?_, ?_⟩ <;> intro row member <;> simp at member
  have fresh := settlements_invariant_along start (step_preserves_fresh hash) along
  intro a first b second liesA liesB
  exact fresh.single a first b second
    (liesA.imp fun _ => And.imp_right (And.imp_right isLive_of_isSettled))
    (liesB.imp fun _ => And.imp_right (And.imp_right isLive_of_isSettled))

def balancedTwice : List SystemCall :=
  balancedBatch ++
    [openBatch 501 "settlement-batch-0002", collect 501 602 "settlement-item-00002",
     reconcileAs .matched 501 602 702 "settlement-check-0002",
     balance 501 "settlement-balance-02"]

theorem settled_once_balanced :
    SettledOnce (run (systemStep sampleHash) {} balancedBatch).settlements :=
  settled_once_along sampleHash balancedBatch (by decide)

theorem settled_twice :
    ¬ SettledOnce (run (systemStep sampleHash) {} balancedTwice).settlements := by
  decide +kernel

end Ayo.Settlement.SingleSettlement
