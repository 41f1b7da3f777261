/- digest: Settlement of trips, posting of cash instructions, and their clearing. -/

import Ayo.Persistence.Composition

namespace Ayo.PostTrip.Settlement

open Kernel.UnitOfWork Core.Values Core.Authorization Ledger.Models
open Ledger.Repository (postJournal)
open Persistence.Composition Models Repository
open Rides.Models (ActiveRide)
open Wallet.Application (ConsumeRequest)
open Wallet.Repository (getAccountByOwner lineageOf)

variable {σ : Type}

/-- One line of a journal before its amount and its index are checked. -/
structure Leg where
  accountId : Uuid
  side : LedgerEntrySide
  amountMinor : Int

def entriesOf (entryId : Nat → Uuid) : Nat → List Leg → Transaction σ Failure (List LedgerEntry)
  | _, [] => pure []
  | index, leg :: rest => do
    let amountMinor ← demand (minor? leg.amountMinor) (.field "amount_minor")
    let lineIndex ← demand (lineIndex? index) (.field "line_index")
    let entries ← entriesOf entryId (index + 1) rest
    pure
      ({ entryId := entryId index, accountId := leg.accountId, side := leg.side, amountMinor,
         currency := etb, lineIndex } :: entries)

structure RideLedgerAccounts where
  (bookId settlementClearing driverEarningsPayable commissionRevenue taxPayable : Uuid)
  (incentiveExpense adjustmentExpense adjustmentRecovery : Uuid)

structure ReceiptPolicy where
  (legalEntity regulatoryPolicyVersion : String)
  requiredRegulatoryInformation : List (String × String)
  informed : requiredRegulatoryInformation ≠ []

structure SettlementConfig where
  hash : Payload → Digest
  accounts : RideLedgerAccounts
  receiptPolicy : ReceiptPolicy

structure SettleRequest where
  rideId : Uuid
  idempotencyKey : String
  correlationId : Uuid
  time : DateTime
  (journalId auditReference : Uuid)
  entryId : Nat → Uuid
  (walletAccountId walletEntryId riderReceiptId driverReceiptId : Uuid)

variable (accounts : RideLedgerAccounts) (b : FinancialBreakdown)

def components : List Leg :=
  [⟨accounts.settlementClearing, .debit, b.grossFareMinor.value⟩,
   ⟨accounts.driverEarningsPayable, .credit, b.netDriverEarningsMinor.value⟩,
   ⟨accounts.commissionRevenue, .credit, b.commissionMinor.value⟩,
   ⟨accounts.taxPayable, .credit, b.taxesMinor.value⟩] ++
  (if b.incentivesMinor.value ≠ 0 then
    [⟨accounts.incentiveExpense, .debit, b.incentivesMinor.value⟩] else []) ++
  (if 0 < b.adjustmentsMinor.1 then
    [⟨accounts.adjustmentExpense, .debit, b.adjustmentsMinor.1⟩] else []) ++
  (if b.adjustmentsMinor.1 < 0 then
    [⟨accounts.adjustmentRecovery, .credit, -b.adjustmentsMinor.1⟩] else [])

def legs : List Leg :=
  (components accounts b).filter fun leg => 0 < leg.amountMinor

def legTotal (side : LedgerEntrySide) (values : List Leg) : Int :=
  ((values.filter fun leg => leg.side = side).map Leg.amountMinor).sum

def entries (entryId : Nat → Uuid) : Transaction σ Failure (List LedgerEntry) := do
  let debitTotal :=
    b.grossFareMinor.value + b.incentivesMinor.value + max b.adjustmentsMinor.1 0
  let values := legs accounts b
  require (legTotal .debit values = debitTotal ∧ legTotal .debit values = legTotal .credit values)
    (.conflict "settlement_not_balanced")
  entriesOf entryId 1 values

def rideSettlement : Code := ⟨"ride.settlement", by decide⟩

def rideSettlementPost : Code := ⟨"ride.settlement.post", by decide⟩

def postTripSystem : Code := ⟨"post_trip", by decide⟩

def rideCompletedSettlement : Code := ⟨"ride.completed.settlement", by decide⟩

def postTripNotReady : Failure := .conflict "post_trip_not_ready"

def wallClock (time : DateTime) : Int := time.instant + time.offset.getD 0

section

variable (config : SettlementConfig) (reads : FinancialReads) (subject : AuthorizationSubject)
  (request : SettleRequest)

def settlementJournal (record : PostTripRecord) (traceability : LedgerTraceability) :
    Transaction σ Failure LedgerJournal := do
  let entries ← entries config.accounts record.financialBreakdown request.entryId
  let idempotencyKey ← demand (boundedText? 16 128 request.idempotencyKey)
    (.field "idempotency_key")
  require (request.time.aware = true) (.value "Ledger timestamps must be timezone-aware")
  attempt (LedgerJournal.validate?
    { journalId := request.journalId, bookId := config.accounts.bookId,
      businessEventType := rideSettlement, businessEventId := request.rideId,
      operation := rideSettlementPost, idempotencyKey, actorIdentityId := subject.identityId,
      sourceSystem := postTripSystem, reasonCode := rideCompletedSettlement, traceability,
      predecessorLedgerJournalId := none, effectiveAt := request.time.instant,
      recordedAt := request.time.instant, correlationId := request.correlationId,
      causationId := record.packageId, auditReference := request.auditReference }
    entries)

def driverRequest (driverId : Uuid) (amountMinor : Int) (journalId : Uuid) : ConsumeRequest :=
  { ownerIdentityId := driverId, authoritativeSourceType := .ledgerJournal,
    authoritativeSourceId := journalId, entryType := .availableCredit, amountMinor,
    reasonCode := "wallet.transfer_in.ayo_ride",
    idempotencyKey := "wallet:" ++ request.idempotencyKey,
    correlationId := request.correlationId, causationId := journalId, time := request.time,
    accountCandidateId := request.walletAccountId, candidateId := request.walletEntryId }

/-- The wallet entry of a digitally paid trip, read back as the last one of the driver. -/
def creditDriver (package : TripEvidencePackage) (driverId : Uuid) (b : FinancialBreakdown)
    (journalId : Uuid) : FinancialTransaction (Option Uuid) :=
  if package.paymentMethod = .licensedDigitalProvider then do
    let _ ← consumeAuthoritativeEventWithUnit config.hash reads subject
      (driverRequest request driverId b.netDriverEarningsMinor.value journalId)
    let found ← onWallets (getAccountByOwner driverId)
    let account ← demand found (.value "wallet_account_id")
    let store ← get
    let last ← demand (lineageOf store.wallets account.walletAccountId).getLast?
      (.value "tuple index out of range")
    pure (some last.walletEntryId)
  else pure none

def receiptPayload (time : DateTime) (ride : ActiveRide) (record : PostTripRecord) : Payload :=
  [("trip_id", .uuid ride.rideId), ("date", .number (wallClock time / 86400000000)),
   ("time", .number (wallClock time % 86400000000)), ("pickup", .text ride.pickupPlaceId.1),
   ("destination", .text ride.destinationPlaceId.1),
   ("fare_breakdown", .list [record.financialBreakdown.payload]),
   ("payment_method",
     .text (if record.cashState = none then "licensed_digital_provider" else "cash")),
   ("legal_entity", .text config.receiptPolicy.legalEntity),
   ("regulatory_information", .list [config.receiptPolicy.requiredRegulatoryInformation.map
       fun field => (field.1, .text field.2)])]

def receiptOf (time : DateTime) (payload : Payload) (rideId : Uuid) (receiptType : ReceiptType)
    (owner receiptId : Uuid) : Transaction σ Failure Receipt := do
  let legalEntity ← demand (boundedText? 2 160 config.receiptPolicy.legalEntity)
    (.field "legal_entity")
  let regulatoryPolicyVersion ← demand
    (boundedText? 2 63 config.receiptPolicy.regulatoryPolicyVersion)
    (.field "regulatory_policy_version")
  pure
    { receiptId, receiptNumber := (rideId / 2 ^ 64, receiptType), rideId,
      issuedToIdentityId := owner, receiptType, payloadHash := config.hash payload, legalEntity,
      regulatoryPolicyVersion, issuedAt := time }

def receipt (ride : ActiveRide) (record : PostTripRecord) (receiptType : ReceiptType)
    (owner receiptId : Uuid) : Transaction σ Failure Receipt :=
  receiptOf config request.time (receiptPayload config request.time ride record) ride.rideId
    receiptType owner receiptId

/-- What follows the journal: wallet, receipts, the settled record, two messages, the archive. -/
def closeRecord (ride : ActiveRide) (record : PostTripRecord) (package : TripEvidencePackage)
    (driverId journalId : Uuid) : FinancialTransaction PostTripRecord := do
  let walletEntryId ← creditDriver config reads subject request package driverId
    record.financialBreakdown journalId
  let riderDraft ← receipt config request ride record .riderReceipt ride.riderId
    request.riderReceiptId
  let riderReceipt ← onPostTrip (addReceipt riderDraft)
  let driverDraft ← receipt config request ride record .driverSettlementSummary driverId
    request.driverReceiptId
  let driverReceipt ← onPostTrip (addReceipt driverDraft)
  let settled ← onPostTrip (markSettled request.rideId journalId walletEntryId
    riderReceipt.receiptId driverReceipt.receiptId record.version)
  onPostTrip (notificationIntent
    { rideId := request.rideId, eventType := "ride.earnings_settled",
      recipientIdentityId := driverId, occurredAt := request.time })
  onPostTrip (notificationIntent
    { rideId := request.rideId, eventType := "ride.receipt_available",
      recipientIdentityId := ride.riderId, occurredAt := request.time })
  onPostTrip (archive request.rideId request.time settled.version)

def settle : FinancialTransaction PostTripRecord := do
  require (subject.identityType = .service) (.conflict "access_denied")
  let foundRecord ← onPostTrip (getRecord request.rideId)
  let foundPackage ← onPostTrip (packageForRide request.rideId)
  let ride ← demand (reads.rides request.rideId) postTripNotReady
  let record ← demand foundRecord postTripNotReady
  let package ← demand foundPackage postTripNotReady
  let driverId ← demand ride.driverId postTripNotReady
  let rideRequestId ← demand ride.rideRequestId postTripNotReady
  let dispatchHandoffId ← demand ride.dispatchHandoffId postTripNotReady
  let assignmentId ← demand ride.assignmentId postTripNotReady
  let collected ← onPostTrip (cashCollectionEvidence request.rideId)
  require (¬ (package.paymentMethod = .cash ∧ collected.isSome = true))
    (.conflict "cash_accounting_policy_required")
  if record.state = .settled ∨ record.state = .archived then pure record
  else do
    assertSettlementReady package.paymentMethod record.cashState
    let draft ← settlementJournal config subject request record
      { rideRequestId, dispatchHandoffId, assignmentId, activeRideId := request.rideId,
        fareEstimateId := record.financialBreakdown.fareEstimateId,
        fareCalculationId := record.financialBreakdown.fareCalculationId }
    let journal ← onLedger (postJournal reads.calculations draft)
    closeRecord config reads subject request ride record package driverId journal.journalId

end

end Ayo.PostTrip.Settlement

/-! The posting of a cash accounting instruction, and the clearing of its receivable. -/

namespace Ayo.PostTrip.CashLedger

open Kernel.UnitOfWork Core.Values Core.Authorization Ledger.Models Ledger.Repository
  Persistence.Composition CashAccounting Repository
open PostTrip.Settlement (Leg entriesOf postTripSystem)
open Pricing.Models (Calculations FareCalculation)

variable {σ : Type}

/-- What both cash applications are built with; `uuid5` names an identifier by a text and numbers
that it joins. -/
structure CashConfig where
  hash : Payload → Digest
  uuid5 : String → List Nat → Uuid
  bookId : Uuid
  accountIds : String → Option Uuid
  production : Bool

structure CashPostRequest where
  (rideId fareCalculationId evidenceId accountingPolicyId : Uuid)
  idempotencyKey : String
  correlationId : Uuid
  time : DateTime

structure ClearRequest where
  evidence : CashReconciliationEvidence
  idempotencyKey : String
  expectedVersion : Nat

def postReserved (hash : Payload → Digest) (calculations : Calculations) (candidate : LedgerJournal)
    (time : DateTime) (corrupt conflict : Failure) : LedgerTransaction LedgerJournal := do
  let canonical ← reserveIdempotency hash candidate.actorIdentityId candidate.operation.1
    candidate.idempotencyKey.1 candidate.payload candidate.journalId time
  let stored ← getJournal canonical
  whenSome stored (fun journal => do
      require (journal.toJournalHeader = candidate.toJournalHeader ∧
        journal.entries = candidate.entries) conflict
      pure journal)
    (do
      require (canonical = candidate.journalId) corrupt
      postJournal calculations candidate)

def rideCashAccounting : Code := ⟨"ride.cash_accounting", by decide⟩

def rideCashAccountingPost : Code := ⟨"ride.cash_accounting.post", by decide⟩

def cashInstructionValidated : Code := ⟨"cash.policy_instruction.validated", by decide⟩

def rideCashReconciliation : Code := ⟨"ride.cash_reconciliation", by decide⟩

def rideCashReconciliationClear : Code := ⟨"ride.cash_reconciliation.clear", by decide⟩

def remittanceEvidenceAuthorized : Code := ⟨"cash.remittance_evidence.authorized", by decide⟩

section

variable (config : CashConfig) (reads : FinancialReads) (subject : AuthorizationSubject)
  (request : CashPostRequest)

def instructionLegs (instruction : CashAccountingInstruction) : List Leg :=
  instruction.journalLines.filterMap fun line =>
    (config.accountIds line.accountCode.1).map fun accountId =>
      ⟨accountId, line.side, line.amountMinor.1⟩

def deriveInstruction (calculation : FareCalculation) (evidence : CashCollectionEvidence)
    (policy : CashAccountingPolicy) : Transaction σ Failure CashAccountingInstruction :=
  buildCashAccountingInstruction config.hash policy calculation evidence request.time
    config.production
    (config.uuid5 "ayo:cash-accounting"
      [request.rideId, request.fareCalculationId, request.evidenceId, request.accountingPolicyId])

def instructionJournal (calculation : FareCalculation) (evidence : CashCollectionEvidence)
    (instruction : CashAccountingInstruction) : Transaction σ Failure LedgerJournal := do
  require (∀ line ∈ instruction.journalLines, (config.accountIds line.accountCode.1).isSome = true)
    (.conflict "cash_account_mapping_missing")
  let entries ← entriesOf
    (fun index => config.uuid5 "ayo:cash-accounting-entry" [instruction.instructionId, index]) 1
    (instructionLegs config instruction)
  let trace := calculation.financialTraceability
  let dispatchHandoffId ← demand trace.dispatchHandoffId
    (.conflict "cash_accounting_lineage_missing")
  let assignmentId ← demand trace.assignmentId (.conflict "cash_accounting_lineage_missing")
  let activeRideId ← demand trace.activeRideId (.conflict "cash_accounting_lineage_missing")
  let fareCalculationId ← demand trace.fareCalculationId
    (.conflict "cash_accounting_lineage_missing")
  let idempotencyKey ← demand (boundedText? 16 128 request.idempotencyKey)
    (.field "idempotency_key")
  require (request.time.aware = true) (.value "Ledger timestamps must be timezone-aware")
  attempt (LedgerJournal.validate?
    { journalId := config.uuid5 "ayo:cash-accounting-journal" [instruction.instructionId],
      bookId := config.bookId, businessEventType := rideCashAccounting,
      businessEventId := instruction.instructionId, operation := rideCashAccountingPost,
      idempotencyKey, actorIdentityId := subject.identityId, sourceSystem := postTripSystem,
      reasonCode := cashInstructionValidated,
      traceability :=
        { rideRequestId := trace.rideRequestId, dispatchHandoffId, assignmentId, activeRideId,
          fareEstimateId := trace.fareEstimateId, fareCalculationId,
          auditPackageId := some evidence.evidenceId },
      predecessorLedgerJournalId := none, effectiveAt := request.time.instant,
      recordedAt := request.time.instant, correlationId := request.correlationId,
      causationId := instruction.instructionId,
      auditReference := config.uuid5 "ayo:cash-accounting-audit" [instruction.instructionId] }
    entries)

def post : FinancialTransaction CashAccountingRecord := do
  require (subject.identityType = .service) (.conflict "cash_accounting_access_denied")
  let foundEvidence ← onPostTrip (cashCollectionEvidence request.rideId)
  let foundPolicy ← onPostTrip (cashAccountingPolicy request.accountingPolicyId)
  let calculation ← demand (reads.calculations request.fareCalculationId)
    (.conflict "cash_accounting_authority_missing")
  let evidence ← demand foundEvidence (.conflict "cash_accounting_authority_missing")
  let policy ← demand foundPolicy (.conflict "cash_accounting_authority_missing")
  require (calculation.rideId = request.rideId ∧ evidence.evidenceId = request.evidenceId)
    (.conflict "cash_accounting_authority_missing")
  let instruction ← recast (deriveInstruction config request calculation evidence policy)
    (.conflict "cash_accounting_policy_rejected")
  let existing ← onPostTrip (cashAccountingRecord request.rideId)
  whenSome existing (fun existing => do
      require (existing.instructionId = instruction.instructionId)
        (.conflict "cash_accounting_record_conflict")
      pure existing)
    (do
      let candidate ← instructionJournal config subject request calculation evidence instruction
      let journal ← onLedger (postReserved config.hash reads.calculations candidate request.time
        (.conflict "cash_accounting_idempotency_corrupt")
        (.conflict "cash_accounting_idempotency_conflict"))
      onPostTrip (addCashAccountingRecord
        { rideId := instruction.rideId, evidenceId := instruction.evidenceId,
          instructionId := instruction.instructionId,
          accountingPolicyId := instruction.accountingPolicyId,
          accountingPolicyVersion := instruction.accountingPolicyVersion,
          platformClaimMinor := instruction.platformClaimMinor,
          driverEntitlementMinor := instruction.driverEntitlementMinor,
          state := .accountingPosted, ledgerJournalId := some journal.journalId,
          reconciliationState :=
            if instruction.reconciliationRequired = true then .pending else .notApplicable,
          version := 1 }))

end

section

variable (config : CashConfig) (reads : FinancialReads) (subject : AuthorizationSubject)
  (request : ClearRequest)

def authorityMissing : Failure := .conflict "cash_reconciliation_authority_missing"

def accountMappingMissing : Failure := .conflict "cash_reconciliation_account_mapping_missing"

def receivableCode (policy : CashAccountingPolicy) : Option String :=
  match policy.accountingModel with
  | .principalGross => policy.principalReceivableAccount
  | .agentNetRemittance => policy.platformClaimAccount

variable (evidence : CashReconciliationEvidence) (item : CashAccountingRecord)

def Authorizes (original : LedgerJournal) : Prop :=
  evidence.authorizedActorId = subject.identityId ∧
    evidence.accountingInstructionId = item.instructionId ∧
    evidence.accountingPolicyId = item.accountingPolicyId ∧
    evidence.accountingPolicyVersion = item.accountingPolicyVersion ∧
    some evidence.originalAccountingJournalId = item.ledgerJournalId ∧
    evidence.platformClaimMinor = item.platformClaimMinor ∧
    evidence.currency.1 = "ETB" ∧
    original.businessEventType = rideCashAccounting ∧
    original.businessEventId = item.instructionId ∧
    original.operation = rideCashAccountingPost ∧
    original.traceability.activeRideId = item.rideId
deriving Decidable

def clearingJournal (original : LedgerJournal) (receivableId clearingId predecessorEntryId : Uuid) :
    Transaction σ Failure LedgerJournal := do
  let amountMinor ← demand (minor? item.platformClaimMinor) (.field "amount_minor")
  let idempotencyKey ← demand (boundedText? 16 128 request.idempotencyKey)
    (.field "idempotency_key")
  attempt (LedgerJournal.validate?
    { journalId := config.uuid5 "ayo:cash-reconciliation-journal"
        [evidence.reconciliationEvidenceId],
      bookId := config.bookId, businessEventType := rideCashReconciliation,
      businessEventId := evidence.reconciliationEvidenceId,
      operation := rideCashReconciliationClear, idempotencyKey,
      actorIdentityId := subject.identityId, sourceSystem := postTripSystem,
      reasonCode := remittanceEvidenceAuthorized,
      traceability :=
        { original.traceability with predecessorLedgerJournalId := some original.journalId },
      predecessorLedgerJournalId := some original.journalId,
      effectiveAt := evidence.occurredAt.instant, recordedAt := evidence.occurredAt.instant,
      correlationId := evidence.correlationId, causationId := evidence.causationId,
      auditReference := evidence.reconciliationEvidenceId }
    [{ entryId := config.uuid5 "ayo:cash-reconciliation-entry"
         [evidence.reconciliationEvidenceId, 1],
       accountId := clearingId, side := .debit, amountMinor, currency := evidence.currency,
       lineIndex := firstLine },
     { entryId := config.uuid5 "ayo:cash-reconciliation-entry"
         [evidence.reconciliationEvidenceId, 2],
       accountId := receivableId, side := .credit, amountMinor, currency := evidence.currency,
       lineIndex := secondLine, predecessorEntryId := some predecessorEntryId }])

def clearReceivable (policy : CashAccountingPolicy) (original : LedgerJournal) :
    FinancialTransaction CashAccountingRecord := do
  let stored ← onPostTrip (addCashReconciliationEvidence request.evidence)
  let code ← demand (receivableCode policy) accountMappingMissing
  let receivableId ← demand (config.accountIds code) accountMappingMissing
  let clearingId ← demand (config.accountIds policy.reconciliationClearingAccount)
    accountMappingMissing
  let predecessor ← demand
    (original.entries.find? fun entry => entry.accountId = receivableId ∧ entry.side = .debit ∧
      entry.amountMinor.1 = item.platformClaimMinor)
    authorityMissing
  let candidate ← clearingJournal config subject request stored item original receivableId
    clearingId predecessor.entryId
  let journal ← onLedger (postReserved config.hash reads.calculations candidate
    request.evidence.occurredAt (.conflict "cash_reconciliation_idempotency_corrupt")
    (.conflict "cash_reconciliation_idempotency_conflict"))
  onPostTrip (updateCashAccountingRecord
    { item with
      reconciliationState := .cleared, clearingJournalId := some journal.journalId,
      reconciliationEvidenceHash := some request.evidence.evidenceHash }
    request.expectedVersion)

def clear : FinancialTransaction CashAccountingRecord := do
  require (subject.identityType = .service ∨ subject.identityType = .staff)
    (.conflict "cash_reconciliation_access_denied")
  require (request.evidence.wellFormed config.hash = true)
    (.conflict "cash_reconciliation_evidence_invalid")
  require (config.production = true → request.evidence.sourceClassification = .approvedOperational)
    (.conflict "cash_reconciliation_evidence_invalid")
  let allowed ← hasPermission reads.grants subject.identityId "cash.reconciliation.execute"
    request.evidence.occurredAt
  require (allowed = true) (.conflict "cash_reconciliation_access_denied")
  let foundItem ← onPostTrip (cashAccountingRecord request.evidence.rideId)
  let item ← demand foundItem authorityMissing
  let foundPolicy ← onPostTrip (cashAccountingPolicy item.accountingPolicyId)
  let policy ← demand foundPolicy authorityMissing
  let originalId ← demand item.ledgerJournalId authorityMissing
  let foundOriginal ← onLedger (getJournal originalId)
  let original ← demand foundOriginal authorityMissing
  require (item.version = request.expectedVersion) (.conflict "stale_cash_accounting_record")
  require (Authorizes subject request.evidence item original) authorityMissing
  if item.reconciliationState = .cleared then do
    require (item.reconciliationEvidenceHash = some request.evidence.evidenceHash)
      (.conflict "cash_reconciliation_conflict")
    pure item
  else clearReceivable config reads subject request item policy original

end

end Ayo.PostTrip.CashLedger
