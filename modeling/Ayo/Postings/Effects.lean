/- digest: What a successful posting command does. -/

import Ayo.Persistence.LedgerWriters
import Ayo.Wallet.Effects

namespace Ayo.Postings.Effects

open Kernel.UnitOfWork Kernel.KeyedTable Kernel.Ordering Core.Values Core.Authorization
open Ledger.Repository (LedgerStore)
open Persistence.Composition
open Persistence.LedgerWriters (lineage_readOnly)
open Application Models Repository
open Settlement.Repository (itemsOfBatch)
open Wallet.Application (ConsumeRequest WalletReads consumeAuthoritativeEvent)
open Wallet.Models
open Wallet.Repository (lineageOf)

variable {σ : Type} {command : FinancialPostingCommand} {reads : FinancialReads}
  {subject : AuthorizationSubject} {s t : FinancialStore} {hash : Payload → Digest}
  {ids : PostingIds}

/-- The identifier of a posting: that of an earlier command with its key, or the new one. -/
def canonicalPostingId (store : PostingStore) (subject : AuthorizationSubject)
    (command : FinancialPostingCommand) (ids : PostingIds) : Uuid :=
  canonicalReference store.idempotency subject.identityId command.operation.1
    command.idempotencyKey.1 ids.postingId

def ReservedFor (hash : Payload → Digest) (subject : AuthorizationSubject)
    (command : FinancialPostingCommand) (postingId : Uuid) (store : PostingStore) : Prop :=
  ∃ reservation, store.idempotency.find
        (subject.identityId, command.operation.1, command.idempotencyKey.1) = some reservation ∧
      reservation.requestHash = hash (postingPayload command) ∧
      reservation.responseReference = postingId

def ReservationsKept (s t : PostingStore) : Prop :=
  ∀ key reservation, s.idempotency.find key = some reservation →
    t.idempotency.find key = some reservation

def linesOf (store : PostingStore) (postingId : Uuid) : List FinancialPostingLine :=
  orderedBy (fun line => line.lineIndex.1)
    (store.lines.rows.filter fun line => line.postingId = postingId)

def walletReadsAfter (reads : FinancialReads) (ledger : LedgerStore) : WalletReads :=
  { grants := reads.grants, journals := journalOf ledger, payments := reads.payments,
    refunds := reads.refunds, settlements := reads.settlements }

/-- The source of a command exists in a state that may be posted, with its lineage. -/
def Accepted (reads : FinancialReads) (command : FinancialPostingCommand) : Prop :=
  match command.sourceType with
  | .completedPayment =>
    ∃ attempt intent ledgerJournalId, reads.payments.attempts.find command.sourceId = some attempt ∧
      attempt.state = .captured ∧
      reads.payments.intents.find attempt.paymentIntentId = some intent ∧
      intent.traceability.ledgerJournalId = some ledgerJournalId
  | .approvedRefund =>
    ∃ refund, reads.refunds.requests.find command.sourceId = some refund ∧
      refund.state ∈ [.approved, .scheduled, .completed]
  | .settlementEvent =>
    ∃ batch item, reads.settlements.batches.find command.sourceId = some batch ∧
      batch.state ∈ [.balanced, .readyForSettlement, .resolved] ∧
      (itemsOfBatch reads.settlements batch.settlementBatchId).head? = some item
  | .walletAdjustment => False

def Balanced (command : FinancialPostingCommand) : Prop :=
  (0 < sideSum .debit command.lines ∧ 0 < sideSum .credit command.lines) ∧
    sideSum .debit command.lines = sideSum .credit command.lines
deriving Decidable

structure Recorded (hash : Payload → Digest) (reads : FinancialReads)
    (subject : AuthorizationSubject) (command : FinancialPostingCommand) (ids : PostingIds)
    (s t : FinancialStore) (posting : FinancialPosting)
    (lines : List FinancialPostingLine) (journalId : Uuid) (entryType : WalletEntryType)
    (account : WalletAccount) (last : WalletLineageEntry) : Prop where
  typed : command.sourceType = .completedPayment → entryType = .pendingCredit
  consumed : consumeAuthoritativeEvent hash (walletReadsAfter reads t.ledger) subject
    (walletRequest command ids entryType journalId) s.wallets = .ok (account, t.wallets)
  ends : (lineageOf t.wallets account.walletAccountId).getLast? = some last
  postingId : posting.postingId = canonicalPostingId s.postings subject command ids
  sourceType : posting.sourceType = command.sourceType
  sourceId : posting.sourceId = command.sourceId
  walletEntryId : posting.walletEntryId = last.walletEntryId
  listed : lines = recordedLines command ids posting.postingId
  postings : t.postings.postings.rows = s.postings.postings.rows ++ [posting]
  lineRows : t.postings.lines.rows = s.postings.lines.rows ++ lines
  postTrip : t.postTrip = s.postTrip

inductive PostEffect (hash : Payload → Digest) (reads : FinancialReads)
    (subject : AuthorizationSubject) (command : FinancialPostingCommand) (ids : PostingIds)
    (s t : FinancialStore) : FinancialPosting × List FinancialPostingLine → Prop
  | repeated (posting : FinancialPosting) (idempotency : Table Reservation)
      (found : s.postings.postings.find (canonicalPostingId s.postings subject command ids) =
        some posting)
      (kept : t = { s with postings.idempotency := idempotency }) :
      PostEffect hash reads subject command ids s t
        (posting, linesOf s.postings posting.postingId)
  | recorded (posting : FinancialPosting) (lines : List FinancialPostingLine) (journalId : Uuid)
      (entryType : WalletEntryType) (account : WalletAccount) (last : WalletLineageEntry)
      (new : s.postings.postings.find
        (canonicalPostingId s.postings subject command ids) = none)
      (recorded : Recorded hash reads subject command ids s t posting lines journalId
        entryType account last) :
      PostEffect hash reads subject command ids s t (posting, lines)

theorem walletEntryTypeFor_ok {sourceType : FinancialPostingSourceType}
    {entryType : WalletEntryType} {s t : σ}
    (ran : walletEntryTypeFor sourceType s = .ok (entryType, t)) :
    s = t ∧ (sourceType = .completedPayment → entryType = .pendingCredit) := by
  cases sourceType with
  | completedPayment =>
    obtain ⟨rfl, rfl⟩ := pure_ok.1 ran
    exact ⟨rfl, fun _ => rfl⟩
  | approvedRefund | settlementEvent =>
    obtain ⟨rfl, rfl⟩ := pure_ok.1 ran
    exact ⟨rfl, fun same => by cases same⟩
  | walletAdjustment => exact (throw_ok.1 ran).elim

theorem validateBalancedLines_ok {totals : Int × Int} {s t : σ}
    (ran : validateBalancedLines command.lines (.utc command.occurredAt) s = .ok (totals, t)) :
    s = t ∧ Balanced command := by
  unfold validateBalancedLines at ran
  simp only [↓steps_ok] at ran
  obtain ⟨_, positive, agree, _, rfl⟩ := ran
  exact ⟨rfl, positive, agree⟩

theorem validateBalancedLines_of_balanced (balanced : Balanced command) (s : σ) :
    ∃ totals, validateBalancedLines command.lines (.utc command.occurredAt) s =
      .ok (totals, s) := by
  refine ⟨(sideSum .debit command.lines, sideSum .credit command.lines), ?_⟩
  refine require_bind_ok.2 ⟨rfl, ?_⟩
  refine require_bind_ok.2 ⟨balanced.1, ?_⟩
  exact require_bind_ok.2 ⟨balanced.2, pure_ok.2 ⟨rfl, rfl⟩⟩

theorem lineage_ok (s : σ) :
    (∃ traceability, validateAndResolveLineage reads command s = .ok (traceability, s)) ↔
      Accepted reads command := by
  unfold validateAndResolveLineage Accepted
  cases command.sourceType with
  | completedPayment =>
    simp only [↓steps_ok]
    constructor
    · rintro ⟨_, attempt, found, captured, intent, linked, journalId, named, _⟩
      exact ⟨attempt, intent, journalId, found, captured, linked, named⟩
    · rintro ⟨attempt, intent, journalId, found, captured, linked, named⟩
      exact ⟨_, attempt, found, captured, intent, linked, journalId, named, rfl, trivial⟩
  | approvedRefund =>
    simp only [↓steps_ok]
    constructor
    · rintro ⟨_, refund, found, approved, _⟩
      exact ⟨refund, found, approved⟩
    · rintro ⟨refund, found, approved⟩
      exact ⟨_, refund, found, approved, rfl, trivial⟩
  | settlementEvent =>
    simp only [↓steps_ok]
    constructor
    · rintro ⟨_, batch, found, settled, item, first, _⟩
      exact ⟨batch, item, found, settled, first⟩
    · rintro ⟨batch, item, found, settled, first⟩
      exact ⟨_, batch, found, settled, item, first, rfl, trivial⟩
  | walletAdjustment => simp

theorem reservation_ok {canonical : Uuid}
    (ran : onPostings (reserveIdempotency hash subject.identityId command.operation.1
      command.idempotencyKey.1 (postingPayload command) ids.postingId (.utc command.occurredAt))
        s = .ok (canonical, t)) :
    canonical = canonicalPostingId s.postings subject command ids ∧
      ReservedFor hash subject command canonical t.postings ∧
      ReservationsKept s.postings t.postings ∧
      ∃ idempotency, t = { s with postings.idempotency := idempotency } := by
  simp only [onPostings, reserveIdempotency, within_ok] at ran
  obtain ⟨_, ⟨idempotency, reserved, rfl⟩, rfl⟩ := ran
  refine ⟨eq_canonicalReference reserved, ?_,
    fun _ _ found => reserveIdempotency_keeps reserved found, idempotency, rfl⟩
  obtain ⟨rfl, _, rows⟩ | ⟨existing, found, same, rfl, rfl⟩ := reserveIdempotency_ok reserved
  · exact ⟨_, Table.find_of_inserted rows, rfl, rfl⟩
  · exact ⟨existing, found, same, rfl⟩

theorem consumeWithUnit_ok {request : ConsumeRequest} {account : WalletAccount} :
    consumeAuthoritativeEventWithUnit hash reads subject request s = .ok (account, t) ↔
      ∃ wallets, consumeAuthoritativeEvent hash (walletReadsAfter reads s.ledger) subject
          request s.wallets = .ok (account, wallets) ∧
        { s with wallets } = t := by
  simp only [consumeAuthoritativeEventWithUnit, ↓get_bind_ok, onWallets, within_ok]
  rfl

theorem post_ok {result : FinancialPosting × List FinancialPostingLine}
    (ran : post hash reads subject command ids s = .ok (result, t)) :
    subject.identityType = .service ∧ Balanced command ∧ Accepted reads command ∧
      (ReservedFor hash subject command result.1.postingId t.postings ∧
        ReservationsKept s.postings t.postings) ∧
      PostEffect hash reads subject command ids s t result := by
  unfold post at ran
  simp only [↓guards_ok] at ran
  obtain ⟨_, _, service, ran⟩ := ran
  obtain ⟨totals, _, summed, ran⟩ := bind_ok.1 ran
  obtain ⟨rfl, balanced⟩ := validateBalancedLines_ok summed
  obtain ⟨traceability, _, traced, ran⟩ := bind_ok.1 ran
  obtain rfl := lineage_readOnly _ _ _ _ _ traced
  have accepted : Accepted reads command := (lineage_ok _).1 ⟨traceability, traced⟩
  obtain ⟨canonical, _, reserving, ran⟩ := bind_ok.1 ran
  obtain ⟨id, reserved, kept, idempotency, rfl⟩ := reservation_ok reserving
  unfold getPosting listLines at ran
  simp only [↓onPostings_read_bind_ok, whenSome_ok, pure_ok] at ran
  refine ⟨service, balanced, accepted, ?_⟩
  obtain ⟨posting, found, rfl, rfl⟩ | ⟨new, ran⟩ := ran
  · have named : posting.postingId = canonical := Table.key_of_find found
    refine ⟨⟨named ▸ reserved, kept⟩, ?_⟩
    rw [id] at found
    exact .repeated posting idempotency found rfl
  · obtain ⟨journal, _, posting, ran⟩ := bind_ok.1 ran
    obtain ⟨ledger, _, rfl⟩ := onLedger_ok.1 posting
    obtain ⟨walletEntryId, _, moved, recording⟩ := bind_ok.1 ran
    unfold moveWallet at moved
    obtain ⟨entryType, _, typing, moved⟩ := bind_ok.1 moved
    obtain ⟨rfl, typed⟩ := walletEntryTypeFor_ok typing
    obtain ⟨account, _, consuming, moved⟩ := bind_ok.1 moved
    obtain ⟨wallets, consumed, rfl⟩ := consumeWithUnit_ok.1 consuming
    simp only [↓steps_ok] at moved
    obtain ⟨last, ends, rfl, rfl⟩ := moved
    unfold recordPosting createPosting at recording
    simp only [↓demand_bind_ok] at recording
    obtain ⟨debit, _, credit, _, posting, built, recording⟩ := recording
    obtain ⟨_, created, rfl⟩ := bind_pure_ok.1 recording
    simp only [onPostings, within_ok, ↓steps_ok, Table.insert?_eq_some,
      Table.insertAll?_eq_some] at created
    obtain ⟨_, ⟨postings, postingRows, lines, lineRows, rfl, rfl⟩, rfl⟩ := created
    simp only [Option.dite_none_right_eq_some, Option.some.injEq] at built
    obtain ⟨agree, rfl⟩ := built
    rw [id] at new
    refine ⟨⟨reserved, kept⟩, .recorded _ _ journal.journalId entryType account last new ?_⟩
    exact
      { typed, consumed, ends, postingId := id, sourceType := rfl, sourceId := rfl,
        walletEntryId := rfl, listed := rfl, postings := postingRows, lineRows, postTrip := rfl }

end Ayo.Postings.Effects
