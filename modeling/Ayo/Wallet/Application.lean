/- digest: Wallet accounts and entries, and the consumption of one event. -/

import Ayo.Refund.Application
import Ayo.Settlement.Repository

namespace Ayo.Wallet.Models

open Kernel.UnitOfWork Kernel.KeyedTable Core.Values

variable {σ : Type}

inductive WalletEntryType where
  | pendingCredit
  | pendingRelease
  | pendingReversal
  | availableCredit
  | availableDebit
deriving DecidableEq

def WalletEntryType.value : WalletEntryType → String
  | .pendingCredit => "pending_credit"
  | .pendingRelease => "pending_release"
  | .pendingReversal => "pending_reversal"
  | .availableCredit => "available_credit"
  | .availableDebit => "available_debit"

inductive WalletAuthoritativeSourceType where
  | ledgerJournal
  | paymentAttempt
  | refundRequest
  | settlementBatch

def WalletAuthoritativeSourceType.value : WalletAuthoritativeSourceType → String
  | .ledgerJournal => "ledger_journal"
  | .paymentAttempt => "payment_attempt"
  | .refundRequest => "refund_request"
  | .settlementBatch => "settlement_batch"

structure WalletAccount where
  (walletAccountId ownerIdentityId : Uuid)
  currency : Currency
  (availableMinor pendingMinor : MinorAmount)
  (createdAt updatedAt : Instant)
  chronological : createdAt ≤ updatedAt

structure WalletLineageEntry where
  (walletEntryId walletAccountId : Uuid)
  authoritativeSourceType : WalletAuthoritativeSourceType
  authoritativeSourceId : Uuid
  entryType : WalletEntryType
  amountMinor : MinorAmount
  currency : Currency
  (resultingAvailableMinor resultingPendingMinor : MinorAmount)
  reasonCode : Code
  recordedByIdentityId : Uuid
  recordedAt : Instant
  (correlationId causationId : Uuid)

/-- The primary key and `uq_wallet_owner_currency`. -/
instance : Row WalletAccount Uuid :=
  .keyedUnique WalletAccount.walletAccountId fun row => (row.ownerIdentityId, row.currency)

instance : Row WalletLineageEntry Uuid := .keyed WalletLineageEntry.walletEntryId

def movedBalances (availableMinor pendingMinor amountMinor : Int) :
    WalletEntryType → Transaction σ Failure (Int × Int)
  | .pendingCredit => pure (availableMinor, pendingMinor + amountMinor)
  | .pendingRelease => do
    require (amountMinor ≤ pendingMinor) (.conflict "wallet_pending_insufficient")
    pure (availableMinor + amountMinor, pendingMinor - amountMinor)
  | .pendingReversal => do
    require (amountMinor ≤ pendingMinor) (.conflict "wallet_pending_insufficient")
    pure (availableMinor, pendingMinor - amountMinor)
  | .availableCredit => pure (availableMinor + amountMinor, pendingMinor)
  | .availableDebit => do
    require (amountMinor ≤ availableMinor) (.conflict "wallet_available_insufficient")
    pure (availableMinor - amountMinor, pendingMinor)

def applyWalletEntry (availableMinor pendingMinor : Int) (entryType : WalletEntryType)
    (amountMinor : Int) (time : DateTime) : Transaction σ Failure (Int × Int) := do
  require (time.aware = true) (.conflict "wallet_timestamp_invalid")
  require (0 ≤ amountMinor) (.conflict "wallet_amount_invalid")
  let (available, pending) ← movedBalances availableMinor pendingMinor amountMinor entryType
  require (0 ≤ available ∧ 0 ≤ pending) (.conflict "wallet_balance_negative")
  pure (available, pending)

def availableChange (amountMinor : Int) : WalletEntryType → Int
  | .pendingRelease => amountMinor
  | .availableCredit => amountMinor
  | .availableDebit => -amountMinor
  | .pendingCredit => 0
  | .pendingReversal => 0

def pendingChange (amountMinor : Int) : WalletEntryType → Int
  | .pendingCredit => amountMinor
  | .pendingRelease => -amountMinor
  | .pendingReversal => -amountMinor
  | .availableCredit => 0
  | .availableDebit => 0

variable {entryType : WalletEntryType} {pending : Int}

private theorem movedBalances_ok {available amount : Int} {s t : σ} {next : Int × Int} :
    movedBalances available pending amount entryType s = .ok (next, t) ↔
      s = t ∧ next = (available + availableChange amount entryType,
        pending + pendingChange amount entryType) ∧
      (entryType = .pendingRelease ∨ entryType = .pendingReversal → amount ≤ pending) ∧
      (entryType = .availableDebit → amount ≤ available) := by
  cases entryType <;> simp only [movedBalances, ↓steps_ok]
  case pendingCredit | availableCredit =>
    simp [availableChange, pendingChange, and_comm, eq_comm]
  case pendingRelease | pendingReversal | availableDebit =>
    simp [availableChange, pendingChange, sub_eq_add_neg, and_comm, and_left_comm, eq_comm]

theorem applyWalletEntry_ok_iff {available amount : Int} {time : DateTime} {s t : σ}
    {next : Int × Int} :
    applyWalletEntry available pending entryType amount time s = .ok (next, t) ↔
      s = t ∧ time.aware = true ∧ 0 ≤ amount ∧ next = (available + availableChange amount entryType,
          pending + pendingChange amount entryType) ∧ 0 ≤ next.1 ∧ 0 ≤ next.2 := by
  unfold applyWalletEntry
  simp only [↓require_bind_ok]
  constructor
  · rintro ⟨aware, nonneg, ran⟩
    obtain ⟨⟨available', pending'⟩, _, moved, ran⟩ := bind_ok.1 ran
    obtain ⟨rfl, balances, _⟩ := movedBalances_ok.1 moved
    simp only [↓steps_ok] at ran
    obtain ⟨⟨availableKept, pendingKept⟩, rfl, rfl⟩ := ran
    exact ⟨rfl, aware, nonneg, balances, availableKept, pendingKept⟩
  · rintro ⟨rfl, aware, nonneg, rfl, availableKept, pendingKept⟩
    refine ⟨aware, nonneg, bind_ok.2 ⟨_, s, movedBalances_ok.2 ⟨rfl, rfl, ?_, ?_⟩, ?_⟩⟩
    · rintro (rfl | rfl) <;> simp only [pendingChange] at pendingKept <;> omega
    · rintro rfl
      simp only [availableChange] at availableKept
      omega
    · exact require_bind_ok.2 ⟨⟨availableKept, pendingKept⟩, pure_ok.2 ⟨rfl, rfl⟩⟩

end Ayo.Wallet.Models

/-! The wallet store, its writers and its ordered reader. -/

namespace Ayo.Wallet.Repository

open Kernel.UnitOfWork Kernel.KeyedTable Kernel.Ordering Core.Values
open Core.Authorization (Reservation)
open Models

structure WalletStore where
  accounts : Table WalletAccount := .empty
  entries : Table WalletLineageEntry := .empty
  idempotency : Table Reservation := .empty
  events : List Event := []

abbrev WalletTransaction (α : Type) := Transaction WalletStore Failure α

def reserveIdempotency (hash : Payload → Digest) (actorId : Uuid) (operation key : String)
    (payload : Payload) (responseReference : Uuid) (time : DateTime) : WalletTransaction Uuid :=
  within WalletStore.idempotency (fun idempotency store => { store with idempotency })
    (Core.Authorization.reserveIdempotency hash actorId operation key payload responseReference
      time)

def getAccountByOwner (ownerIdentityId : Uuid) : WalletTransaction (Option WalletAccount) := do
  let store ← get
  pure (store.accounts.rows.find? fun account => account.ownerIdentityId = ownerIdentityId)

def utc (value : DateTime) : WalletTransaction Instant := do
  require (value.aware = true) (.value "Wallet timestamps must be timezone-aware")
  pure value.instant

def getOrCreateAccount (ownerIdentityId : Uuid) (time : DateTime) (candidateId : Uuid) :
    WalletTransaction WalletAccount := do
  let existing ← getAccountByOwner ownerIdentityId
  whenSome existing (fun account => pure account)
    (do
      let createdAt ← utc time
      let created : WalletAccount :=
        { walletAccountId := candidateId, ownerIdentityId, currency := etb,
          availableMinor := ⟨0, by decide, by decide⟩, pendingMinor := ⟨0, by decide, by decide⟩,
          createdAt, updatedAt := createdAt, chronological := Int.le_refl createdAt }
      let store ← get
      whenSome (store.accounts.insert? created) (fun accounts => do
          put { store with accounts }
          pure created)
        (do
          let current ← getAccountByOwner ownerIdentityId
          demand current (.conflict "wallet_account_not_found")))

def getLineageEntry (walletEntryId : Uuid) : WalletTransaction (Option WalletLineageEntry) := do
  let store ← get
  pure (store.entries.find walletEntryId)

def appendLineageEntry (entry : WalletLineageEntry) : WalletTransaction WalletAccount := do
  let store ← get
  let account ← demand (store.accounts.find entry.walletAccountId)
    (.conflict "wallet_account_not_found")
  let entries ← demand (store.entries.insert? entry) (.integrity "wallet_lineage_entries")
  -- the check constraint `wallet_account_updated_after_create` of the table
  let updated ← demand (if chronological : account.createdAt ≤ entry.recordedAt then
      some { account with
        availableMinor := entry.resultingAvailableMinor,
        pendingMinor := entry.resultingPendingMinor, updatedAt := entry.recordedAt,
        chronological }
    else
      none)
    (.integrity "wallet_accounts")
  let accounts ← demand (store.accounts.replace? updated) (.integrity "wallet_accounts")
  put { store with
    accounts, entries,
    events := store.events ++
      [{ aggregateType := "wallet_account", aggregateId := entry.walletAccountId,
         eventType := "wallet." ++ entry.entryType.value, occurredAt := entry.recordedAt,
         correlationId := entry.correlationId, causationId := entry.causationId }] }
  pure updated

def lineageOf (store : WalletStore) (walletAccountId : Uuid) : List WalletLineageEntry :=
  orderedBy (fun entry => toLex (entry.recordedAt, entry.walletEntryId))
    (store.entries.rows.filter fun entry => entry.walletAccountId = walletAccountId)

end Ayo.Wallet.Repository

/-! The command that consumes an authoritative event into a wallet, and the wallet status. -/

namespace Ayo.Wallet.Application

open Kernel.UnitOfWork Core.Values Core.Authorization
open Ledger.Models (LedgerJournal)
open Payment.Repository (PaymentStore)
open Refund.Repository (RefundStore)
open Settlement.Repository (SettlementStore)
open Models Repository

structure WalletReads where
  grants : Grants
  journals : Uuid → Option LedgerJournal
  payments : PaymentStore
  refunds : RefundStore
  settlements : SettlementStore

structure ConsumeRequest where
  ownerIdentityId : Uuid
  authoritativeSourceType : WalletAuthoritativeSourceType
  authoritativeSourceId : Uuid
  entryType : WalletEntryType
  amountMinor : Int
  (reasonCode idempotencyKey : String)
  (correlationId causationId : Uuid)
  time : DateTime
  (accountCandidateId candidateId : Uuid)

variable (hash : Payload → Digest) (reads : WalletReads) (subject : AuthorizationSubject)

def sourceFound (sourceId : Uuid) : WalletAuthoritativeSourceType → Bool
  | .ledgerJournal => (reads.journals sourceId).isSome
  | .paymentAttempt => (reads.payments.attempts.find sourceId).isSome
  | .refundRequest => (reads.refunds.requests.find sourceId).isSome
  | .settlementBatch => (reads.settlements.batches.find sourceId).isSome

def assertAuthoritativeSourceExists (sourceType : WalletAuthoritativeSourceType)
    (sourceId : Uuid) : WalletTransaction Unit :=
  require (sourceFound reads sourceId sourceType = true)
    (.conflict "wallet_authoritative_source_not_found")

def consumeAuthoritativeEvent (request : ConsumeRequest) : WalletTransaction WalletAccount := do
  requirePermission reads.grants subject "wallet.event.consume" request.time
  require (subject.identityType = .service) (.conflict "wallet_service_identity_required")
  validateIdempotencyKey request.idempotencyKey
  let _ ← getOrCreateAccount request.ownerIdentityId request.time request.accountCandidateId
  let canonical ← reserveIdempotency hash subject.identityId "wallet.event.consume"
    request.idempotencyKey
    [("owner_identity_id", .uuid request.ownerIdentityId),
     ("authoritative_source_type", .text request.authoritativeSourceType.value),
     ("authoritative_source_id", .uuid request.authoritativeSourceId),
     ("entry_type", .text request.entryType.value),
     ("amount_minor", .text (toString request.amountMinor)),
     ("reason_code", .text request.reasonCode)]
    request.candidateId request.time
  let found ← getLineageEntry canonical
  whenSome found (fun _ => do
      let replay ← getAccountByOwner request.ownerIdentityId
      demand replay (.conflict "wallet_account_not_found"))
    (do
      assertAuthoritativeSourceExists reads request.authoritativeSourceType
        request.authoritativeSourceId
      let account ← getAccountByOwner request.ownerIdentityId
      let locked ← demand account (.conflict "wallet_account_not_found")
      require (locked.currency.1 = "ETB") (.conflict "wallet_currency_not_supported")
      let (nextAvailable, nextPending) ← applyWalletEntry locked.availableMinor.value
        locked.pendingMinor.value request.entryType request.amountMinor request.time
      let amountMinor ← demand (MinorAmount.ofInt? request.amountMinor) (.field "amount_minor")
      let resultingAvailableMinor ← demand (MinorAmount.ofInt? nextAvailable)
        (.field "resulting_available_minor")
      let resultingPendingMinor ← demand (MinorAmount.ofInt? nextPending)
        (.field "resulting_pending_minor")
      let reasonCode ← demand (code? request.reasonCode) (.field "reason_code")
      let recordedAt ← utc request.time
      appendLineageEntry
        { walletEntryId := canonical, walletAccountId := locked.walletAccountId,
          authoritativeSourceType := request.authoritativeSourceType,
          authoritativeSourceId := request.authoritativeSourceId, entryType := request.entryType,
          amountMinor, currency := etb, resultingAvailableMinor, resultingPendingMinor, reasonCode,
          recordedByIdentityId := subject.identityId, recordedAt,
          correlationId := request.correlationId, causationId := request.causationId })

structure WalletCall where
  reads : WalletReads
  subject : AuthorizationSubject
  request : ConsumeRequest

/-- One unit of work of the wallet service. -/
def step (store : WalletStore) (call : WalletCall) : WalletStore :=
  commit (consumeAuthoritativeEvent hash call.reads call.subject call.request) store

end Ayo.Wallet.Application
