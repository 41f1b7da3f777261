/- digest: Completion of rides, confirmations of cash, and its receipts. -/

import Ayo.ActiveRides.Engine
import Ayo.PostTrip.Settlement

namespace Ayo.PostTrip.Application

open Kernel.UnitOfWork Core.Values Core.Authorization
open ActiveRides.Models (stateValue)
open Ledger.Repository (LedgerStore)
open Persistence.Composition CashAccounting
open CashLedger (CashConfig CashPostRequest ClearRequest)
open Models Repository PostTrip.Settlement
open Postings.Repository (PostingStore)
open Rides.Models (ActiveRide ActiveRides)
open Wallet.Repository (WalletStore)

variable {σ : Type}

structure BookingEvidence where
  evidenceId : Uuid
  evidenceHash : Digest

structure CompletionReads where
  rides : Uuid → Option ActiveRides.Models.ActiveRide
  confirmations : Uuid → Option BookingEvidence
  previewExists : Uuid → Bool
  finalBreakdown : Uuid → Uuid → String → DateTime → Except Failure FinancialBreakdown

structure FinalizeRequest where
  rideId : Uuid
  routeReference : EvidenceReference
  paymentMethod : PaymentMethod
  paymentReference : Option EvidenceReference
  time : DateTime
  packageId : Uuid

structure ConfirmCashRequest where
  rideId : Uuid
  confirmed : Bool
  idempotencyKey : String
  time : DateTime
  (confirmationId evidenceId : Uuid)

structure CashReceiptsRequest where
  rideId : Uuid
  time : DateTime
  (riderReceiptId driverReceiptId : Uuid)

def concludes (state : CashSettlementState) : Bool :=
  state = .cashSettled || state = .cashSettlementReview

section

variable (hash : Payload → Digest) (reads : CompletionReads) (subject : AuthorizationSubject)
  (request : FinalizeRequest)

def packageValues (ride : ActiveRides.Models.ActiveRide) (driverId vehicleId handoffId : Uuid)
    (assignmentId : Uuid) (booking : BookingEvidence) (b : FinancialBreakdown) : Payload :=
  let route := request.routeReference
  let dispatch := { route with authority := "dispatch", referenceId := toString handoffId }
  let assignment := { route with authority := "assignment", referenceId := toString assignmentId }
  [("ride_id", .uuid request.rideId), ("rider_identity_id", .uuid ride.riderId),
   ("driver_identity_id", .uuid driverId), ("vehicle_id", .uuid vehicleId),
   ("payment_method", .text request.paymentMethod.value),
   ("booking", .list [EvidenceReference.payload
     { route with
       authority := "booking", referenceId := toString booking.evidenceId,
       evidenceHash := booking.evidenceHash }]),
   ("route", .list [route.payload]),
   ("pricing", .list [EvidenceReference.payload
     { route with
       authority := "pricing", referenceId := toString b.fareCalculationId,
       evidenceHash := b.policyEvidenceHash }]),
   ("dispatch", .list [dispatch.payload]), ("assignment", .list [assignment.payload]),
   ("timeline", .list [EvidenceReference.payload
     { route with
       authority := "active_ride.timeline", referenceId := toString request.rideId,
       evidenceHash := hash
         [("last_sequence", .number ride.lastSequence), ("version", .number ride.version)] }]),
   ("completion", .list [EvidenceReference.payload
     { route with
       authority := "active_ride.completion", referenceId := toString request.rideId,
       evidenceHash := hash
         [("state", .text (stateValue ride.state)), ("updated_at", .time (.utc ride.updatedAt))] }]),
   ("payment", match request.paymentReference with
     | none => .null
     | some reference => .list [reference.payload])]

def finalizePackage (values : Payload) : Transaction σ Failure TripEvidencePackage := do
  require (request.time.aware = true) (.value "Post-trip timestamps must be timezone-aware")
  require (request.paymentMethod = .licensedDigitalProvider →
      request.paymentReference.isSome = true)
    (.value "Digital settlement requires licensed-provider payment evidence")
  require (request.paymentMethod = .cash → request.paymentReference.isNone = true)
    (.value "Cash settlement cannot carry digital payment evidence")
  pure
    { packageId := request.packageId, rideId := request.rideId,
      paymentMethod := request.paymentMethod,
      packageHash := hash (values ++
        [("schema_version", .text "post_trip.evidence.v1"), ("finalized_at", .time request.time)]) }

def rideRequired : Failure := .conflict "completed_canonical_ride_required"

def finalize : PostTripTransaction PostTripRecord := do
  require (subject.identityType = .service) (.conflict "access_denied")
  let ride ← demand (reads.rides request.rideId) rideRequired
  require (ride.state = .completed) rideRequired
  let driverId ← demand ride.driverId rideRequired
  let vehicleId ← demand ride.vehicleId rideRequired
  let rideRequestId ← demand ride.rideRequestId rideRequired
  let handoffId ← demand ride.dispatchHandoffId rideRequired
  let assignmentId ← demand ride.assignmentId rideRequired
  let confirmation ← demand (reads.confirmations rideRequestId)
    (.conflict "booking_evidence_missing")
  require (reads.previewExists confirmation.evidenceId = true)
    (.conflict "booking_evidence_missing")
  let breakdown ← attempt (reads.finalBreakdown request.rideId confirmation.evidenceId
    request.routeReference.referenceId request.time)
  let package ← finalizePackage hash request (packageValues hash request ride driverId vehicleId
    handoffId assignmentId confirmation breakdown)
  let existing ← packageForRide request.rideId
  let record ← createPackage package breakdown
  if existing.isSome = true then pure record
  else do
    notificationIntent
      { rideId := request.rideId, eventType := "trip.completed",
        recipientIdentityId := ride.riderId, occurredAt := request.time }
    notificationIntent
      { rideId := request.rideId, eventType := "trip.completed",
        recipientIdentityId := driverId, occurredAt := request.time }
    pure record

end

section

variable (hash : Payload → Digest) (rides : ActiveRides) (subject : AuthorizationSubject)
  (request : ConfirmCashRequest)

def cashRole? (ride : ActiveRide) : Option CashRole :=
  if subject.identityType = .rider ∧ subject.identityId = ride.riderId then some .rider
  else if subject.identityType = .driver ∧ some subject.identityId = ride.driverId then
    some .driver
  else none

def concludeCash (ride : ActiveRide) (updated : PostTripRecord) (state : CashSettlementState)
    (confirmations : List CashConfirmation) : PostTripTransaction Unit := do
  let driverId ← demand ride.driverId (.field "driver_identity_id")
  let b := updated.financialBreakdown
  let _ ← addCashCollectionEvidence
    { evidenceId := request.evidenceId, rideId := request.rideId,
      fareCalculationId := b.fareCalculationId, grossCashReportedMinor := b.grossFareMinor,
      state := evidenceStateOf state,
      evidenceHash := hash
        [("ride_id", .uuid request.rideId), ("fare_calculation_id", .uuid b.fareCalculationId),
         ("gross_cash_reported_minor", .number b.grossFareMinor.value),
         ("state", .text (evidenceStateOf state).value),
         ("confirmations", .list (confirmations.map CashConfirmation.payload))] }
  notificationIntent
    { rideId := request.rideId, eventType := "trip." ++ state.value,
      recipientIdentityId := ride.riderId, occurredAt := request.time }
  notificationIntent
    { rideId := request.rideId, eventType := "trip." ++ state.value,
      recipientIdentityId := driverId, occurredAt := request.time }

def confirmCash : PostTripTransaction PostTripRecord := do
  validateIdempotencyKey request.idempotencyKey
  let foundRecord ← getRecord request.rideId
  let ride ← demand (rides request.rideId) (.conflict "cash_confirmation_unavailable")
  let record ← demand foundRecord (.conflict "cash_confirmation_unavailable")
  require (record.cashState ≠ none) (.conflict "cash_confirmation_unavailable")
  let role ← demand (cashRole? subject ride) (.conflict "access_denied")
  let (confirmations, created) ← addCashConfirmation
    { confirmationId := request.confirmationId, rideId := request.rideId,
      actorIdentityId := subject.identityId, actorRole := role, confirmed := request.confirmed,
      idempotencyKeyHash := hash [("idempotency_key", .text request.idempotencyKey)],
      recordedAt := request.time }
  if created = true then do
    let state := cashState confirmations
    let updated ← updateCashState request.rideId state record.version
    if concludes state = true then do
      concludeCash hash request ride updated state confirmations
      pure updated
    else pure updated
  else pure record

end

section

variable (config : SettlementConfig) (rides : ActiveRides) (subject : AuthorizationSubject)
  (request : CashReceiptsRequest)

def receiptNotReady : Failure := .conflict "cash_accounting_receipt_not_ready"

def cashReceipt (ride : ActiveRide) (record : PostTripRecord) (accounting : CashAccountingRecord)
    (receiptType : ReceiptType) (owner receiptId : Uuid) : Transaction σ Failure Receipt :=
  receiptOf config request.time (receiptPayload config request.time ride record ++
      [("cash_accounting_state", .text accounting.state.value),
       ("cash_reconciliation_state", .text accounting.reconciliationState.value),
       ("cash_remittance_cleared", .number 0)])
    ride.rideId receiptType owner receiptId

def issueCashAccountingReceipts : PostTripTransaction PostTripRecord := do
  require (subject.identityType = .service) (.conflict "access_denied")
  let foundRecord ← getRecord request.rideId
  let foundPackage ← packageForRide request.rideId
  let foundAccounting ← cashAccountingRecord request.rideId
  let ride ← demand (rides request.rideId) receiptNotReady
  let driverId ← demand ride.driverId receiptNotReady
  let record ← demand foundRecord receiptNotReady
  let package ← demand foundPackage receiptNotReady
  require (package.paymentMethod = .cash) receiptNotReady
  let accounting ← demand foundAccounting receiptNotReady
  require (accounting.state = .accountingPosted) receiptNotReady
  let journalId ← demand accounting.ledgerJournalId receiptNotReady
  if record.riderReceiptId.isSome = true ∧ record.driverReceiptId.isSome = true then pure record
  else do
    let riderDraft ← cashReceipt config request ride record accounting .riderReceipt ride.riderId
      request.riderReceiptId
    let riderReceipt ← addReceipt riderDraft
    let driverDraft ← cashReceipt config request ride record accounting .driverSettlementSummary
      driverId request.driverReceiptId
    let driverReceipt ← addReceipt driverDraft
    markCashAccountingEvidenced request.rideId journalId riderReceipt.receiptId
      driverReceipt.receiptId record.version

end

/-- A unit of work of a post-trip service, or what the other commands leave of the ledger, the
wallets and the postings. -/
inductive TripCall where
  | finalize (reads : CompletionReads) (subject : AuthorizationSubject) (request : FinalizeRequest)
  | confirmCash (rides : ActiveRides) (subject : AuthorizationSubject)
      (request : ConfirmCashRequest)
  | settle (reads : FinancialReads) (subject : AuthorizationSubject) (request : SettleRequest)
  | issueCashAccountingReceipts (rides : ActiveRides) (subject : AuthorizationSubject)
      (request : CashReceiptsRequest)
  | addPolicy (policy : CashAccountingPolicy)
  | postCash (reads : FinancialReads) (subject : AuthorizationSubject) (request : CashPostRequest)
  | clearCash (reads : FinancialReads) (subject : AuthorizationSubject) (request : ClearRequest)
  | elsewhere (ledger : LedgerStore) (wallets : WalletStore) (postings : PostingStore)

def tripStep (config : SettlementConfig) (cash : CashConfig) (store : FinancialStore) :
    TripCall → FinancialStore
  | .finalize reads subject request =>
    commit (onPostTrip (finalize config.hash reads subject request)) store
  | .confirmCash rides subject request =>
    commit (onPostTrip (confirmCash config.hash rides subject request)) store
  | .settle reads subject request => commit (settle config reads subject request) store
  | .issueCashAccountingReceipts rides subject request =>
    commit (onPostTrip (issueCashAccountingReceipts config rides subject request)) store
  | .addPolicy policy => commit (onPostTrip (addCashAccountingPolicy policy)) store
  | .postCash reads subject request =>
    commit (PostTrip.CashLedger.post cash reads subject request) store
  | .clearCash reads subject request =>
    commit (PostTrip.CashLedger.clear cash reads subject request) store
  | .elsewhere ledger wallets postings => { store with ledger, wallets, postings }

end Ayo.PostTrip.Application
