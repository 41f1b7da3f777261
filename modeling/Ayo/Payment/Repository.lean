/- digest: Payment intents, attempts and callback envelopes with their store. -/

import Ayo.Core.Authorization
import Ayo.Kernel.Ordering

namespace Ayo.Payment.Engine

open Kernel.UnitOfWork Core.Values Core.Lifecycle

variable {σ : Type}

inductive PaymentMethodFamily where
  | cash
  | mobileMoney
  | card
  | bankTransfer
  | unknown
deriving DecidableEq

/-- The text that a `StrEnum` member is stored and hashed as. -/
def PaymentMethodFamily.value : PaymentMethodFamily → String
  | .cash => "cash"
  | .mobileMoney => "mobile_money"
  | .card => "card"
  | .bankTransfer => "bank_transfer"
  | .unknown => "unknown"

inductive PaymentIntentState where
  | created
  | cancelled
  | expired
deriving DecidableEq

def PaymentIntentState.value : PaymentIntentState → String
  | .created => "created"
  | .cancelled => "cancelled"
  | .expired => "expired"

inductive PaymentAttemptState where
  | created
  | authorizationPending
  | authorized
  | capturePending
  | captured
  | failed
  | cancelled
  | expired
  | outcomeUnknown
deriving DecidableEq

def PaymentAttemptState.value : PaymentAttemptState → String
  | .created => "created"
  | .authorizationPending => "authorization_pending"
  | .authorized => "authorized"
  | .capturePending => "capture_pending"
  | .captured => "captured"
  | .failed => "failed"
  | .cancelled => "cancelled"
  | .expired => "expired"
  | .outcomeUnknown => "outcome_unknown"

def allowedAttemptTransitions : PaymentAttemptState → List PaymentAttemptState
  | .created => [.authorizationPending, .cancelled, .expired, .failed, .outcomeUnknown]
  | .authorizationPending => [.authorized, .failed, .cancelled, .expired, .outcomeUnknown]
  | .authorized => [.capturePending, .cancelled, .failed, .outcomeUnknown]
  | .capturePending => [.captured, .failed, .outcomeUnknown]
  | .outcomeUnknown => [.authorized, .capturePending, .captured, .failed, .cancelled, .expired]
  | .captured => []
  | .failed => []
  | .cancelled => []
  | .expired => []

def allowedIntentTransitions : PaymentIntentState → List PaymentIntentState
  | .created => [.cancelled, .expired]
  | .cancelled => []
  | .expired => []

def ensureAttemptTransitionAllowed (current target : PaymentAttemptState) (time : DateTime) :
    Transaction σ Failure Unit :=
  ensureTransitionAllowed allowedAttemptTransitions "payment_attempt_transition_invalid"
    "payment_timestamp_invalid" current target time

def ensureIntentTransitionAllowed (current target : PaymentIntentState) (time : DateTime) :
    Transaction σ Failure Unit :=
  ensureTransitionAllowed allowedIntentTransitions "payment_intent_transition_invalid"
    "payment_timestamp_invalid" current target time

def attemptIsTerminal (value : PaymentAttemptState) : Bool :=
  value ∈ [PaymentAttemptState.captured, .failed, .cancelled, .expired]

/-- An attempt that holds or has taken the rider's money, or still may. -/
def Occupies (value : PaymentAttemptState) : Prop :=
  value = .captured ∨ attemptIsTerminal value = false

variable {old : PaymentAttemptState}

theorem eq_of_follows_terminal {target : PaymentAttemptState}
    (terminal : attemptIsTerminal old = true)
    (follows : Follows allowedAttemptTransitions old target) : target = old := by
  cases old <;> simp_all [attemptIsTerminal, Follows, allowedAttemptTransitions]

theorem occupies_of_follows {target : PaymentAttemptState}
    (follows : Follows allowedAttemptTransitions old target) (occupies : Occupies target) :
    Occupies old := by
  by_cases terminal : attemptIsTerminal old = true
  · rwa [eq_of_follows_terminal terminal follows] at occupies
  · exact .inr (by simpa using terminal)

end Ayo.Payment.Engine

/-! Payment intents, attempts and callback envelopes, with the checks of their models and the
uniqueness rules of their tables. -/

namespace Ayo.Payment.Models

open Kernel.KeyedTable Core.Values Engine

structure PaymentTraceability where
  (rideRequestId dispatchHandoffId assignmentId activeRideId fareEstimateId : Uuid)
  fareCalculationId : Uuid
  ledgerJournalId : Option Uuid

structure PaymentIntent where
  (paymentIntentId rideId riderIdentityId passengerIdentityId bookerIdentityId : Uuid)
  payerIdentityId : Uuid
  amountMinor : MinorAmount
  currency : Currency
  paymentMethodFamily : PaymentMethodFamily
  state : PaymentIntentState
  traceability : PaymentTraceability
  createdAt : Instant
  (expiresAt cancelledAt : Option Instant)
  payerIsRider : payerIdentityId = riderIdentityId
  expiresLater : ∀ expiry ∈ expiresAt, createdAt < expiry
  cancelledLater : ∀ cancellation ∈ cancelledAt, createdAt ≤ cancellation

structure PaymentAttempt where
  (paymentAttemptId paymentIntentId : Uuid)
  providerCode : Code
  providerReference : BoundedText 3 128
  providerEventId : Option (BoundedText 3 128)
  state : PaymentAttemptState
  amountMinor : MinorAmount
  currency : Currency
  reasonCode : Option Code
  (correlationId causationId : Uuid)
  (createdAt updatedAt : Instant)
  chronological : createdAt ≤ updatedAt
deriving DecidableEq

/-- `^[a-z0-9]{16,128}$`. -/
def isFingerprint (text : String) : Bool :=
  (16 ≤ text.toList.length && text.toList.length ≤ 128) &&
    text.toList.all fun c => c.isLower || c.isDigit

structure PaymentCallbackEnvelope where
  callbackId : Uuid
  providerCode : Code
  providerEventId : BoundedText 3 128
  providerSignatureFingerprint : { text : String // isFingerprint text = true }
  payloadHash : Digest
  (receivedAt replayWindowEndsAt : Instant)
  correlatedAttemptId : Option Uuid
  processedAt : Option Instant
  windowOpens : receivedAt < replayWindowEndsAt
  processedLater : ∀ processing ∈ processedAt, receivedAt ≤ processing

instance : Row PaymentIntent Uuid := .keyed PaymentIntent.paymentIntentId

/-- The primary key, `uq_payment_attempt_provider_reference` and
`uq_payment_attempt_single_active_per_intent`. -/
instance : Row PaymentAttempt Uuid where
  key := PaymentAttempt.paymentAttemptId
  clash a b := a.paymentAttemptId = b.paymentAttemptId ∨
    (a.paymentIntentId, a.providerCode, a.providerReference) =
      (b.paymentIntentId, b.providerCode, b.providerReference) ∨
    (a.paymentIntentId = b.paymentIntentId ∧
      attemptIsTerminal a.state = false ∧ attemptIsTerminal b.state = false)
  clash_symm clash := clash.imp Eq.symm fun clash =>
    clash.imp Eq.symm fun ⟨same, first, second⟩ => ⟨same.symm, second, first⟩

instance : Row PaymentCallbackEnvelope Uuid :=
  .keyedUnique PaymentCallbackEnvelope.callbackId fun row => (row.providerCode, row.providerEventId)

end Ayo.Payment.Models

/-! The payment store and its writers: intents, attempts and callback envelopes. -/

namespace Ayo.Payment.Repository

open Kernel.UnitOfWork Kernel.KeyedTable Kernel.Ordering Core.Values
open Core.Authorization (Reservation)
open Engine Models

structure PaymentStore where
  intents : Table PaymentIntent := .empty
  attempts : Table PaymentAttempt := .empty
  envelopes : Table PaymentCallbackEnvelope := .empty
  idempotency : Table Reservation := .empty
  events : List Event := []

abbrev PaymentTransaction (α : Type) := Transaction PaymentStore Failure α

def reserveIdempotency (hash : Payload → Digest) (actorId : Uuid) (operation key : String)
    (payload : Payload) (responseReference : Uuid) (time : DateTime) : PaymentTransaction Uuid :=
  within PaymentStore.idempotency (fun idempotency store => { store with idempotency })
    (Core.Authorization.reserveIdempotency hash actorId operation key payload responseReference
      time)

def recordEvent (aggregateType : String) (aggregateId : Uuid) (eventType : String)
    (occurredAt : Instant) (correlationId causationId : Uuid) : PaymentTransaction Unit := do
  let store ← get
  put { store with
    events := store.events ++
      [{ aggregateType, aggregateId, eventType, occurredAt, correlationId, causationId }] }

variable (paymentIntentId : Uuid)

def getIntent : PaymentTransaction (Option PaymentIntent) := do
  let store ← get
  pure (store.intents.find paymentIntentId)

def getAttempt (paymentAttemptId : Uuid) : PaymentTransaction (Option PaymentAttempt) := do
  let store ← get
  pure (store.attempts.find paymentAttemptId)

def attemptsForIntent (store : PaymentStore) (paymentIntentId : Uuid) : List PaymentAttempt :=
  orderedBy (fun attempt => toLex (attempt.createdAt, attempt.paymentAttemptId))
    (store.attempts.rows.filter fun attempt => attempt.paymentIntentId = paymentIntentId)

def listAttemptsForIntent : PaymentTransaction (List PaymentAttempt) := do
  let store ← get
  pure (attemptsForIntent store paymentIntentId)

def createIntent (intent : PaymentIntent) : PaymentTransaction PaymentIntent := do
  require (intent.state = .created) (.conflict "payment_intent_invalid_initial_state")
  require (intent.currency.1 = "ETB") (.conflict "payment_currency_unsupported")
  let store ← get
  let intents ← demand (store.intents.insert? intent) (.integrity "payment_intents")
  put { store with intents }
  recordEvent "payment_intent" intent.paymentIntentId "payment.intent_created" intent.createdAt
    intent.paymentIntentId intent.traceability.fareCalculationId
  pure intent

def transitionIntent (targetState : PaymentIntentState) (time : DateTime)
    (correlationId causationId : Uuid) : PaymentTransaction PaymentIntent := do
  let found ← getIntent paymentIntentId
  let current ← demand found (.conflict "payment_intent_not_found")
  ensureIntentTransitionAllowed current.state targetState time
  let cancelledAt :=
    if targetState = .cancelled then some time.instant else current.cancelledAt
  -- the check constraint `payment_intent_cancelled_after_creation` of the table
  let changed ← demand
    (if cancelledLater : ∀ cancellation ∈ cancelledAt, current.createdAt ≤ cancellation then
      some { current with state := targetState, cancelledAt, cancelledLater }
    else
      none)
    (.integrity "payment_intents")
  let store ← get
  let intents ← demand (store.intents.replace? changed) (.integrity "payment_intents")
  put { store with intents }
  recordEvent "payment_intent" changed.paymentIntentId ("payment.intent_" ++ changed.state.value)
    time.instant correlationId causationId
  pure changed

def createAttempt (attempt : PaymentAttempt) : PaymentTransaction PaymentAttempt := do
  let found ← getIntent attempt.paymentIntentId
  let intent ← demand found (.conflict "payment_intent_not_found")
  require (intent.state = .created) (.conflict "payment_intent_not_active")
  require (attempt.amountMinor = intent.amountMinor ∧ attempt.currency = intent.currency)
    (.conflict "payment_attempt_amount_conflict")
  let others ← listAttemptsForIntent attempt.paymentIntentId
  require (∀ active ∈ others, attemptIsTerminal active.state = true)
    (.conflict "payment_attempt_already_active")
  let store ← get
  whenSome (store.attempts.rows.find? fun row =>
      row.paymentIntentId = attempt.paymentIntentId ∧ row.providerCode = attempt.providerCode ∧
        row.providerReference = attempt.providerReference)
    (fun existing => pure existing)
    (do
      -- the check constraint `payment_attempt_etb_nonnegative` of the table
      require (attempt.currency.1 = "ETB") (.integrity "payment_attempts")
      let attempts ← demand (store.attempts.insert? attempt) (.integrity "payment_attempts")
      put { store with attempts }
      recordEvent "payment_attempt" attempt.paymentAttemptId "payment.attempt_created"
        attempt.createdAt attempt.correlationId attempt.causationId
      pure attempt)

def transitionAttempt (paymentAttemptId : Uuid) (targetState : PaymentAttemptState)
    (time : DateTime) (reasonCode : String) (correlationId causationId : Uuid)
    (providerEventId : Option (BoundedText 3 128)) : PaymentTransaction PaymentAttempt := do
  let found ← getAttempt paymentAttemptId
  let current ← demand found (.conflict "payment_attempt_not_found")
  ensureAttemptTransitionAllowed current.state targetState time
  -- the check constraints on `reason_code` and `updated_at` of the table
  let reasonCode ← demand (code? reasonCode) (.integrity "payment_attempts")
  let changed ← demand (if chronological : current.createdAt ≤ time.instant then
      some { current with
        state := targetState, reasonCode := some reasonCode,
        providerEventId := providerEventId.or current.providerEventId,
        updatedAt := time.instant, chronological }
    else
      none)
    (.integrity "payment_attempts")
  let store ← get
  let attempts ← demand (store.attempts.replace? changed) (.integrity "payment_attempts")
  put { store with attempts }
  recordEvent "payment_attempt" changed.paymentAttemptId ("payment.attempt_" ++ changed.state.value)
    time.instant correlationId causationId
  pure changed

/-- Insert an envelope on conflict do nothing; a stored one must have the same payload hash. -/
def ingestCallbackEnvelope (envelope : PaymentCallbackEnvelope) :
    PaymentTransaction PaymentCallbackEnvelope := do
  let store ← get
  whenSome (store.envelopes.insert? envelope) (fun envelopes => do
      put { store with envelopes }
      pure envelope)
    (do
      let existing ← demand (store.envelopes.rows.find? fun row =>
          row.providerCode = envelope.providerCode ∧ row.providerEventId = envelope.providerEventId)
        (.integrity "payment_callback_envelopes")
      require (existing.payloadHash = envelope.payloadHash)
        (.conflict "payment_callback_replay_conflict")
      pure existing)

def markCallbackProcessed (callbackId correlatedAttemptId : Uuid) (processedAt : DateTime) :
    PaymentTransaction Unit := do
  let store ← get
  whenSome (store.envelopes.find callbackId) (fun envelope => do
      -- the check constraint `payment_callback_processed_after_received` of the table
      let changed ← demand (if later : envelope.receivedAt ≤ processedAt.instant then
          some { envelope with
            correlatedAttemptId := some correlatedAttemptId,
            processedAt := some processedAt.instant,
            processedLater := some_later later }
        else
          none)
        (.integrity "payment_callback_envelopes")
      let envelopes ← demand (store.envelopes.replace? changed)
        (.integrity "payment_callback_envelopes")
      put { store with envelopes })
    (pure ())

end Ayo.Payment.Repository
