/- digest: Cash evidence, instructions and trip records with the post-trip store. -/

import Ayo.Ledger.Repository

namespace Ayo.PostTrip.CashAccounting

open Kernel.UnitOfWork Kernel.KeyedTable Core.Values Ledger.Models
open Pricing.Models (FareCalculation)

variable {σ : Type}

inductive CashEvidenceState where
  | awaitingConfirmations
  | partiallyConfirmed
  | collectionCorroborated
  | cashSettlementReview
deriving DecidableEq

inductive CashAccountingState where
  | notAuthorized
  | policyValidated
  | accountingPosted
  | accountingReviewRequired
  | reversed
deriving DecidableEq

inductive CashReconciliationState where
  | notApplicable
  | pending
  | cleared
  | disputed
  | writtenOff
deriving DecidableEq

def CashEvidenceState.value : CashEvidenceState → String
  | .awaitingConfirmations => "awaiting_confirmations"
  | .partiallyConfirmed => "partially_confirmed"
  | .collectionCorroborated => "collection_corroborated"
  | .cashSettlementReview => "cash_settlement_review"

def CashAccountingState.value : CashAccountingState → String
  | .notAuthorized => "not_authorized"
  | .policyValidated => "policy_validated"
  | .accountingPosted => "accounting_posted"
  | .accountingReviewRequired => "accounting_review_required"
  | .reversed => "reversed"

def CashReconciliationState.value : CashReconciliationState → String
  | .notApplicable => "not_applicable"
  | .pending => "pending"
  | .cleared => "cleared"
  | .disputed => "disputed"
  | .writtenOff => "written_off"

inductive CashAccountingModel where
  | principalGross
  | agentNetRemittance
deriving DecidableEq

inductive PolicyEnvironment where
  | nonProduction
  | production
deriving DecidableEq

structure CashCollectionEvidence where
  (evidenceId rideId fareCalculationId : Uuid)
  grossCashReportedMinor : MinorAmount
  state : CashEvidenceState
  evidenceHash : Digest

structure CashJournalLine where
  accountCode : Code
  side : LedgerEntrySide
  amountMinor : Minor

/-- `Field(ge=0, le=10_000)`. -/
abbrev BasisPoints := { points : Int // 0 ≤ points ∧ points ≤ 10000 }

structure CashPolicyTerms where
  accountingPolicyId : Uuid
  accountingPolicyVersion : String
  accountingModel : CashAccountingModel
  effectiveFrom : Instant
  effectiveUntil : Option Instant
  environment : PolicyEnvironment
  (platformClaimBasisPoints driverEntitlementBasisPoints taxBasisPoints : BasisPoints)
  (principalReceivableAccount platformClaimAccount driverEntitlementAccount : Option String)
  platformRevenueAccount : String
  taxPayableAccount : Option String
  reconciliationClearingAccount : String
  policyEvidenceHash : Digest

def policyObjection (terms : CashPolicyTerms) : Option String :=
  refuse (¬ ∀ ending ∈ terms.effectiveUntil, terms.effectiveFrom < ending)
    "Cash-accounting policy window is invalid" <|
  refuse (terms.accountingModel = .principalGross ∧
      (terms.principalReceivableAccount = none ∨ terms.driverEntitlementAccount = none))
    "Principal policy requires gross receivable and entitlement accounts" <|
  refuse (terms.accountingModel = .principalGross ∧ terms.platformClaimBasisPoints.1 ≠ 10000)
    "Principal policy must explicitly claim the gross amount" <|
  refuse (terms.accountingModel = .agentNetRemittance ∧ terms.platformClaimAccount = none)
    "Agent policy requires a platform-claim account" <|
  refuse (terms.platformClaimBasisPoints.1 < terms.taxBasisPoints.1)
    "Tax components cannot exceed the platform claim" <|
  refuse (terms.accountingModel = .principalGross ∧
      10000 < terms.driverEntitlementBasisPoints.1 + terms.taxBasisPoints.1)
    "Principal policy components exceed the gross amount"
    none

structure CashAccountingPolicy extends CashPolicyTerms where
  valid : policyObjection toCashPolicyTerms = none

def lineTotal (side : LedgerEntrySide) (lines : List CashJournalLine) : Int :=
  ((lines.filter fun line => line.side = side).map fun line => line.amountMinor.1).sum

structure CashAccountingInstruction where
  (instructionId rideId fareCalculationId evidenceId accountingPolicyId : Uuid)
  accountingPolicyVersion : String
  accountingModel : CashAccountingModel
  (grossCashReportedMinor platformClaimMinor driverEntitlementMinor taxMinor : Int)
  journalLines : List CashJournalLine
  reconciliationRequired : Bool
  (inputHash policyHash : Digest)
  balanced : journalLines ≠ [] ∧ lineTotal .debit journalLines = lineTotal .credit journalLines

structure CashAccountingRecord where
  (rideId evidenceId instructionId accountingPolicyId : Uuid)
  accountingPolicyVersion : String
  (platformClaimMinor driverEntitlementMinor : Int)
  state : CashAccountingState
  ledgerJournalId : Option Uuid := none
  reconciliationState : CashReconciliationState
  clearingJournalId : Option Uuid := none
  reconciliationEvidenceHash : Option Digest := none
  version : Nat

inductive SourceClassification where
  | synthetic
  | approvedOperational
deriving DecidableEq

def SourceClassification.value : SourceClassification → String
  | .synthetic => "synthetic"
  | .approvedOperational => "approved_operational"

structure CashReconciliationEvidence where
  (reconciliationEvidenceId rideId accountingInstructionId accountingPolicyId : Uuid)
  accountingPolicyVersion : String
  originalAccountingJournalId : Uuid
  platformClaimMinor : Int
  currency : Currency
  evidenceType : Code
  sourceClassification : SourceClassification
  evidenceHash : Digest
  authorizedActorId : Uuid
  occurredAt : DateTime
  (correlationId causationId : Uuid)
deriving DecidableEq

def CashReconciliationEvidence.payload (evidence : CashReconciliationEvidence) : Payload :=
  [("reconciliation_evidence_id", .uuid evidence.reconciliationEvidenceId),
   ("ride_id", .uuid evidence.rideId),
   ("accounting_instruction_id", .uuid evidence.accountingInstructionId),
   ("accounting_policy_id", .uuid evidence.accountingPolicyId),
   ("accounting_policy_version", .text evidence.accountingPolicyVersion),
   ("original_accounting_journal_id", .uuid evidence.originalAccountingJournalId),
   ("platform_claim_minor", .number evidence.platformClaimMinor),
   ("currency", .text evidence.currency.1), ("evidence_type", .text evidence.evidenceType.1),
   ("source_classification", .text evidence.sourceClassification.value),
   ("authorized_actor_id", .uuid evidence.authorizedActorId),
   ("occurred_at", .time evidence.occurredAt), ("correlation_id", .uuid evidence.correlationId),
   ("causation_id", .uuid evidence.causationId)]

def CashReconciliationEvidence.wellFormed (hash : Payload → Digest)
    (evidence : CashReconciliationEvidence) : Bool :=
  0 < evidence.platformClaimMinor && evidence.currency.1 = "ETB" &&
    hash evidence.payload = evidence.evidenceHash

instance : Row CashCollectionEvidence Uuid :=
  .keyedUnique CashCollectionEvidence.evidenceId CashCollectionEvidence.rideId

instance : Row CashAccountingPolicy Uuid :=
  .keyedUnique (fun row => row.accountingPolicyId) fun row => row.accountingPolicyVersion

instance : Row CashAccountingRecord Uuid :=
  .keyedUnique CashAccountingRecord.rideId CashAccountingRecord.instructionId

instance : Row CashReconciliationEvidence Uuid where
  key := CashReconciliationEvidence.reconciliationEvidenceId
  clash a b := a.reconciliationEvidenceId = b.reconciliationEvidenceId ∨ a.rideId = b.rideId ∨
    a.evidenceHash = b.evidenceHash
  clash_symm clash := clash.imp Eq.symm fun clash => clash.imp Eq.symm Eq.symm

def basisShare (amount : MinorAmount) (basisPoints : BasisPoints) : Int :=
  amount.value * basisPoints.1 / 10000

def journalLine (accountCode : String) (side : LedgerEntrySide) (amountMinor : Int) :
    Transaction σ Failure CashJournalLine := do
  let accountCode ← demand (code? accountCode) (.field "account_code")
  let amountMinor ← demand (minor? amountMinor) (.field "amount_minor")
  pure { accountCode, side, amountMinor }

variable (policy : CashAccountingPolicy)

def receivableLines (gross claim entitlement : Int) :
    Transaction σ Failure (List CashJournalLine) :=
  match policy.accountingModel with
  | .principalGross => do
    require (claim = gross) (.value "principal_gross_claim_required")
    let receivable ← demand policy.principalReceivableAccount
      (.value "principal_account_mapping_missing")
    let entitled ← demand policy.driverEntitlementAccount
      (.value "principal_account_mapping_missing")
    let debit ← journalLine receivable .debit claim
    let credit ← journalLine entitled .credit entitlement
    pure [debit, credit]
  | .agentNetRemittance => do
    let receivable ← demand policy.platformClaimAccount (.value "agent_account_mapping_missing")
    let debit ← journalLine receivable .debit claim
    pure [debit]

def revenueMinor (claim entitlement tax : Int) : Int :=
  match policy.accountingModel with
  | .principalGross => claim - entitlement - tax
  | .agentNetRemittance => claim - tax

def revenueLines (revenue : Int) : Transaction σ Failure (List CashJournalLine) :=
  if revenue = 0 then pure []
  else do
    let credit ← journalLine policy.platformRevenueAccount .credit revenue
    pure [credit]

def taxLines (tax : Int) : Transaction σ Failure (List CashJournalLine) :=
  if tax = 0 then pure []
  else do
    let payable ← demand policy.taxPayableAccount (.value "cash_tax_account_required")
    let credit ← journalLine payable .credit tax
    pure [credit]

def buildCashAccountingInstruction (hash : Payload → Digest) (policy : CashAccountingPolicy)
    (calculation : FareCalculation) (evidence : CashCollectionEvidence) (time : DateTime)
    (production : Bool) (instructionId : Uuid) :
    Transaction σ Failure CashAccountingInstruction := do
  require (production = true → policy.environment = .production)
    (.value "non_production_cash_policy_rejected")
  require (policy.effectiveFrom ≤ time.instant ∧
      ∀ ending ∈ policy.effectiveUntil, time.instant < ending)
    (.value "cash_accounting_policy_inactive")
  require (evidence.state = .collectionCorroborated)
    (.value "cash_collection_evidence_insufficient")
  require (evidence.rideId = calculation.rideId ∧
      evidence.fareCalculationId = calculation.calculationId)
    (.value "cash_pricing_lineage_conflict")
  require (evidence.grossCashReportedMinor = calculation.breakdown.riderTotalMinor)
    (.value "cash_reported_amount_conflict")
  let gross := evidence.grossCashReportedMinor
  let claim := basisShare gross policy.platformClaimBasisPoints
  let entitlement := basisShare gross policy.driverEntitlementBasisPoints
  let tax := basisShare gross policy.taxBasisPoints
  require (0 ≤ claim - tax) (.value "cash_tax_exceeds_platform_claim")
  let receivable ← receivableLines policy gross.value claim entitlement
  let revenue ← revenueLines policy (revenueMinor policy claim entitlement tax)
  let taxes ← taxLines policy tax
  let journalLines := receivable ++ revenue ++ taxes
  demand (if balanced : journalLines ≠ [] ∧
        lineTotal .debit journalLines = lineTotal .credit journalLines then
      some
        { instructionId, rideId := calculation.rideId,
          fareCalculationId := calculation.calculationId, evidenceId := evidence.evidenceId,
          accountingPolicyId := policy.accountingPolicyId,
          accountingPolicyVersion := policy.accountingPolicyVersion,
          accountingModel := policy.accountingModel, grossCashReportedMinor := gross.value,
          platformClaimMinor := claim, driverEntitlementMinor := entitlement, taxMinor := tax,
          journalLines, reconciliationRequired := decide (0 < claim),
          inputHash := hash
            [("ride_id", .uuid calculation.rideId),
             ("calculation_id", .uuid calculation.calculationId),
             ("evidence_hash", .number evidence.evidenceHash),
             ("policy_id", .uuid policy.accountingPolicyId),
             ("policy_version", .text policy.accountingPolicyVersion),
             ("platform_claim_minor", .number claim),
             ("driver_entitlement_minor", .number entitlement), ("tax_minor", .number tax)],
          policyHash := policy.policyEvidenceHash, balanced }
    else
      none)
    (.value "Cash-accounting instruction must be balanced")

end Ayo.PostTrip.CashAccounting

/-! The evidence package, the financial breakdown, the record and the receipts of a trip. -/

namespace Ayo.PostTrip.Models

open Kernel.UnitOfWork Kernel.KeyedTable Core.Values
open CashAccounting (CashEvidenceState)

variable {σ : Type}

inductive PaymentMethod where
  | cash
  | licensedDigitalProvider
deriving DecidableEq

inductive CashSettlementState where
  | awaitingConfirmations
  | partiallyConfirmed
  | cashSettled
  | cashSettlementReview
deriving DecidableEq

def PaymentMethod.value : PaymentMethod → String
  | .cash => "cash"
  | .licensedDigitalProvider => "licensed_digital_provider"

def CashSettlementState.value : CashSettlementState → String
  | .awaitingConfirmations => "awaiting_confirmations"
  | .partiallyConfirmed => "partially_confirmed"
  | .cashSettled => "cash_settled"
  | .cashSettlementReview => "cash_settlement_review"

inductive PostTripState where
  | evidenceFinalized
  | awaitingSettlement
  | settled
  | archived
deriving DecidableEq

structure EvidenceReference where
  (authority referenceId : String)
  evidenceHash : Digest
  summary : Payload := []

def EvidenceReference.payload (reference : EvidenceReference) : Payload :=
  [("authority", .text reference.authority), ("reference_id", .text reference.referenceId),
   ("evidence_hash", .number reference.evidenceHash), ("summary", .list [reference.summary])]

structure TripEvidencePackage where
  (packageId rideId : Uuid)
  paymentMethod : PaymentMethod
  packageHash : Digest

/-- `Field(ge=-10_000_000_000, le=10_000_000_000)`. -/
abbrev Adjustment := { amount : Int // -10000000000 ≤ amount ∧ amount ≤ 10000000000 }

structure FinancialBreakdown where
  (grossFareMinor commissionMinor incentivesMinor taxesMinor : MinorAmount)
  adjustmentsMinor : Adjustment
  netDriverEarningsMinor : MinorAmount
  policyVersion : BoundedText 2 63
  policyEvidenceHash : Digest
  (fareEstimateId fareCalculationId : Uuid)
  equation : netDriverEarningsMinor.value = grossFareMinor.value - commissionMinor.value -
    taxesMinor.value + incentivesMinor.value + adjustmentsMinor.1

def FinancialBreakdown.payload (b : FinancialBreakdown) : Payload :=
  [("currency", .text "ETB"), ("gross_fare_minor", .number b.grossFareMinor.value),
   ("commission_minor", .number b.commissionMinor.value),
   ("incentives_minor", .number b.incentivesMinor.value),
   ("taxes_minor", .number b.taxesMinor.value),
   ("adjustments_minor", .number b.adjustmentsMinor.1),
   ("net_driver_earnings_minor", .number b.netDriverEarningsMinor.value),
   ("policy_version", .text b.policyVersion.1),
   ("policy_evidence_hash", .number b.policyEvidenceHash),
   ("fare_estimate_id", .uuid b.fareEstimateId),
   ("fare_calculation_id", .uuid b.fareCalculationId)]

structure PostTripRecord where
  (rideId packageId : Uuid)
  state : PostTripState
  cashState : Option CashSettlementState
  cashEvidenceState : Option CashEvidenceState := none
  financialBreakdown : FinancialBreakdown
  ledgerJournalId : Option Uuid := none
  walletEntryId : Option Uuid := none
  riderReceiptId : Option Uuid := none
  driverReceiptId : Option Uuid := none
  archivedAt : Option Instant := none
  version : Nat

inductive ReceiptType where
  | riderReceipt
  | driverSettlementSummary
deriving DecidableEq

structure Receipt where
  receiptId : Uuid
  /-- The 16 hexadecimal digits of the ride and the letter of the type. -/
  receiptNumber : Nat × ReceiptType
  (rideId issuedToIdentityId : Uuid)
  receiptType : ReceiptType
  payloadHash : Digest
  legalEntity : BoundedText 2 160
  regulatoryPolicyVersion : BoundedText 2 63
  issuedAt : DateTime

inductive CashRole where
  | rider
  | driver
deriving DecidableEq

structure CashConfirmation where
  (confirmationId rideId actorIdentityId : Uuid)
  actorRole : CashRole
  confirmed : Bool
  idempotencyKeyHash : Digest
  recordedAt : DateTime

def CashRole.value : CashRole → String
  | .rider => "rider"
  | .driver => "driver"

def CashConfirmation.payload (item : CashConfirmation) : Payload :=
  [("confirmation_id", .uuid item.confirmationId), ("ride_id", .uuid item.rideId),
   ("actor_identity_id", .uuid item.actorIdentityId), ("actor_role", .text item.actorRole.value),
   ("confirmed", .number (if item.confirmed then 1 else 0)),
   ("idempotency_key_hash", .number item.idempotencyKeyHash),
   ("recorded_at", .time item.recordedAt)]

structure Notification where
  rideId : Uuid
  eventType : String
  recipientIdentityId : Uuid
  occurredAt : DateTime

instance : Row TripEvidencePackage Uuid where
  key := TripEvidencePackage.packageId
  clash a b := a.packageId = b.packageId ∨ a.rideId = b.rideId ∨ a.packageHash = b.packageHash
  clash_symm clash := clash.imp Eq.symm fun clash => clash.imp Eq.symm Eq.symm

instance : Row PostTripRecord Uuid :=
  .keyedUnique PostTripRecord.rideId PostTripRecord.packageId

/-- The primary key, the receipt number and `uq_trip_receipt_type`. -/
instance : Row Receipt Uuid where
  key := Receipt.receiptId
  clash a b := a.receiptId = b.receiptId ∨ a.receiptNumber = b.receiptNumber ∨
    (a.rideId, a.receiptType) = (b.rideId, b.receiptType)
  clash_symm clash := clash.imp Eq.symm fun clash => clash.imp Eq.symm Eq.symm

/-- The primary key, `uq_cash_confirmation_role` and `uq_cash_confirmation_idempotency`. -/
instance : Row CashConfirmation Uuid where
  key := CashConfirmation.confirmationId
  clash a b := a.confirmationId = b.confirmationId ∨
    (a.rideId, a.actorRole) = (b.rideId, b.actorRole) ∨
    (a.actorIdentityId, a.idempotencyKeyHash) = (b.actorIdentityId, b.idempotencyKeyHash)
  clash_symm clash := clash.imp Eq.symm fun clash => clash.imp Eq.symm Eq.symm

variable (confirmations : List CashConfirmation)

def latest (role : CashRole) : Option Bool :=
  (confirmations.filter fun item => item.actorRole = role).getLast?.map CashConfirmation.confirmed

def cashState : CashSettlementState :=
  match latest confirmations .rider, latest confirmations .driver with
  | none, none => .awaitingConfirmations
  | some rider, some driver => if rider && driver then .cashSettled else .cashSettlementReview
  | _, _ => .partiallyConfirmed

def assertSettlementReady (method : PaymentMethod) (state : Option CashSettlementState) :
    Transaction σ Failure Unit :=
  require (¬ (method = .cash ∧ state ≠ some .cashSettled)) (.conflict "cash_settlement_not_agreed")

end Ayo.PostTrip.Models

/-! The post-trip store, with the writers that completion, cash confirmation, settlement and cash
accounting use. -/

namespace Ayo.PostTrip.Repository

open Kernel.UnitOfWork Kernel.KeyedTable Kernel.Ordering Core.Values Models CashAccounting

structure PostTripStore where
  packages : Table TripEvidencePackage := .empty
  records : Table PostTripRecord := .empty
  receipts : Table Receipt := .empty
  collectionEvidence : Table CashCollectionEvidence := .empty
  policies : Table CashAccountingPolicy := .empty
  accountingRecords : Table CashAccountingRecord := .empty
  reconciliationEvidence : Table CashReconciliationEvidence := .empty
  outbox : List Notification := []
  confirmations : Table CashConfirmation := .empty

abbrev PostTripTransaction (α : Type) := Transaction PostTripStore Failure α

variable (rideId : Uuid)

def packageForRide : PostTripTransaction (Option TripEvidencePackage) := do
  let store ← get
  pure (store.packages.rows.find? fun package => package.rideId = rideId)

def getRecord : PostTripTransaction (Option PostTripRecord) := do
  let store ← get
  pure (store.records.find rideId)

def cashCollectionEvidence : PostTripTransaction (Option CashCollectionEvidence) := do
  let store ← get
  pure (store.collectionEvidence.rows.find? fun evidence => evidence.rideId = rideId)

def createPackage (package : TripEvidencePackage) (breakdown : FinancialBreakdown) :
    PostTripTransaction PostTripRecord := do
  let existing ← packageForRide package.rideId
  whenSome existing (fun existing => do
      require (existing.packageHash = package.packageHash) (.conflict "trip_evidence_conflict")
      let record ← getRecord package.rideId
      demand record (.conflict "post_trip_record_missing"))
    (do
      let store ← get
      let packages ← demand (store.packages.insert? package) (.integrity "trip_evidence_packages")
      let record : PostTripRecord :=
        { rideId := package.rideId, packageId := package.packageId, state := .awaitingSettlement,
          cashState :=
            if package.paymentMethod = .cash then some .awaitingConfirmations else none,
          cashEvidenceState :=
            if package.paymentMethod = .cash then some .awaitingConfirmations else none,
          financialBreakdown := breakdown, version := 1 }
      let records ← demand (store.records.insert? record) (.integrity "post_trip_records")
      put { store with packages, records }
      pure record)

def confirmationsOf (store : PostTripStore) (rideId : Uuid) : List CashConfirmation :=
  orderedBy (fun item => item.recordedAt.instant)
    (store.confirmations.rows.filter fun item => item.rideId = rideId)

def addCashConfirmation (item : CashConfirmation) :
    PostTripTransaction (List CashConfirmation × Bool) := do
  let store ← get
  whenSome (store.confirmations.rows.find? fun existing =>
      existing.rideId = item.rideId ∧ existing.actorRole = item.actorRole)
    (fun replay => do
      require (replay.actorIdentityId = item.actorIdentityId ∧ replay.confirmed = item.confirmed ∧
          replay.idempotencyKeyHash = item.idempotencyKeyHash)
        (.conflict "cash_confirmation_already_submitted")
      pure (confirmationsOf store item.rideId, false))
    (do
      let confirmations ← demand (store.confirmations.insert? item)
        (.integrity "trip_cash_confirmations")
      put { store with confirmations }
      pure (confirmationsOf { store with confirmations } item.rideId, true))

def addCashCollectionEvidence (item : CashCollectionEvidence) :
    PostTripTransaction CashCollectionEvidence := do
  let existing ← cashCollectionEvidence item.rideId
  whenSome existing (fun existing => do
      require (existing.evidenceHash = item.evidenceHash)
        (.conflict "cash_collection_evidence_conflict")
      pure existing)
    (do
      let store ← get
      let collectionEvidence ← demand (store.collectionEvidence.insert? item)
        (.integrity "trip_cash_collection_evidence")
      put { store with collectionEvidence }
      pure item)

def addCashAccountingPolicy (item : CashAccountingPolicy) :
    PostTripTransaction CashAccountingPolicy := do
  let store ← get
  let policies ← demand (store.policies.insert? item) (.integrity "cash_accounting_policies")
  put { store with policies }
  pure item

def cashAccountingPolicy (policyId : Uuid) : PostTripTransaction (Option CashAccountingPolicy) := do
  let store ← get
  pure (store.policies.find policyId)

def cashAccountingRecord : PostTripTransaction (Option CashAccountingRecord) := do
  let store ← get
  pure (store.accountingRecords.find rideId)

def addCashAccountingRecord (item : CashAccountingRecord) :
    PostTripTransaction CashAccountingRecord := do
  let existing ← cashAccountingRecord item.rideId
  whenSome existing (fun existing => do
      require (existing.instructionId = item.instructionId)
        (.conflict "cash_accounting_record_conflict")
      pure existing)
    (do
      let store ← get
      let accountingRecords ← demand (store.accountingRecords.insert? item)
        (.integrity "trip_cash_accounting_records")
      put { store with accountingRecords }
      pure item)

def updateCashAccountingRecord (item : CashAccountingRecord) (expectedVersion : Nat) :
    PostTripTransaction CashAccountingRecord := do
  let store ← get
  let current ← demand (store.accountingRecords.find item.rideId)
    (.conflict "stale_cash_accounting_record")
  require (current.version = expectedVersion) (.conflict "stale_cash_accounting_record")
  let changed := { item with version := expectedVersion + 1 }
  let accountingRecords ← demand (store.accountingRecords.replace? changed)
    (.integrity "trip_cash_accounting_records")
  put { store with accountingRecords }
  pure changed

def addCashReconciliationEvidence (item : CashReconciliationEvidence) :
    PostTripTransaction CashReconciliationEvidence := do
  let store ← get
  whenSome (store.reconciliationEvidence.rows.find? fun existing => existing.rideId = item.rideId)
    (fun existing => do
      require (existing = item) (.conflict "cash_reconciliation_evidence_conflict")
      pure existing)
    (do
      let reconciliationEvidence ← demand (store.reconciliationEvidence.insert? item)
        (.integrity "cash_reconciliation_evidence")
      put { store with reconciliationEvidence }
      pure item)

def addReceipt (item : Receipt) : PostTripTransaction Receipt := do
  let store ← get
  whenSome (store.receipts.rows.find? fun existing =>
      existing.rideId = item.rideId ∧ existing.receiptType = item.receiptType)
    (fun replay => do
      require (replay.payloadHash = item.payloadHash) (.conflict "receipt_conflict")
      pure replay)
    (do
      let receipts ← demand (store.receipts.insert? item) (.integrity "trip_receipts")
      put { store with receipts }
      pure item)

def notificationIntent (item : Notification) : PostTripTransaction Unit := do
  let store ← get
  put { store with outbox := store.outbox ++ [item] }

def updateRecord (states : List PostTripState) (expectedVersion : Nat) (failure : Failure)
    (change : PostTripRecord → PostTripRecord) : PostTripTransaction PostTripRecord := do
  let store ← get
  let current ← demand (store.records.find rideId) failure
  require (current.state ∈ states ∧ current.version = expectedVersion) failure
  let changed := { change current with version := expectedVersion + 1 }
  let records ← demand (store.records.replace? changed) (.integrity "post_trip_records")
  put { store with records }
  pure changed

def markSettled (rideId journalId : Uuid) (walletEntryId : Option Uuid)
    (riderReceiptId driverReceiptId : Uuid) (expectedVersion : Nat) :
    PostTripTransaction PostTripRecord :=
  updateRecord rideId [.evidenceFinalized, .awaitingSettlement, .settled, .archived]
    expectedVersion (.conflict "stale_post_trip_record") fun record =>
    { record with
      state := .settled, ledgerJournalId := some journalId, walletEntryId,
      riderReceiptId := some riderReceiptId, driverReceiptId := some driverReceiptId }

def evidenceStateOf : CashSettlementState → CashEvidenceState
  | .awaitingConfirmations => .awaitingConfirmations
  | .partiallyConfirmed => .partiallyConfirmed
  | .cashSettled => .collectionCorroborated
  | .cashSettlementReview => .cashSettlementReview

def updateCashState (state : CashSettlementState) (expectedVersion : Nat) :
    PostTripTransaction PostTripRecord :=
  updateRecord rideId [.evidenceFinalized, .awaitingSettlement, .settled, .archived]
    expectedVersion (.conflict "stale_post_trip_record") fun record =>
    { record with cashState := some state, cashEvidenceState := some (evidenceStateOf state) }

def markCashAccountingEvidenced (rideId journalId riderReceiptId driverReceiptId : Uuid)
    (expectedVersion : Nat) : PostTripTransaction PostTripRecord :=
  updateRecord rideId [.awaitingSettlement] expectedVersion (.conflict "stale_post_trip_record")
    fun record =>
    { record with
      ledgerJournalId := some journalId, riderReceiptId := some riderReceiptId,
      driverReceiptId := some driverReceiptId }

def archive (time : DateTime) (expectedVersion : Nat) : PostTripTransaction PostTripRecord :=
  updateRecord rideId [.settled] expectedVersion (.conflict "archive_not_ready") fun record =>
    { record with state := .archived, archivedAt := some time.instant }

end Ayo.PostTrip.Repository
