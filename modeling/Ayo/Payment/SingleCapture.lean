/- digest: When an intent can be captured twice. -/

import Ayo.Ledger.ReplayView
import Ayo.Payment.Effects

namespace Ayo.Payment.SingleCapture

open Kernel.Run Kernel.KeyedTable Core.Values Core.Authorization
open Ledger.ReplayView (sampleCalculations sampleJournal)
open Engine Models Repository Application Effects

variable (store : PaymentStore)

/-- No intent has two captured attempts. -/
def CapturedOnce : Prop :=
  ∀ a ∈ store.attempts.rows, ∀ b ∈ store.attempts.rows, a.paymentIntentId = b.paymentIntentId →
    a.state = .captured → b.state = .captured → a = b
deriving Decidable

/-- No intent has two attempts that are captured or still open. -/
def SingleOccupant : Prop :=
  ∀ a ∈ store.attempts.rows, ∀ b ∈ store.attempts.rows, a.paymentIntentId = b.paymentIntentId →
    Occupies a.state → Occupies b.state → a = b

def attemptRequest? : PaymentCommand → Option CreateAttemptRequest
  | .createPaymentAttempt request => some request
  | _ => none

/-- A call that would write a new attempt finds no captured attempt of its intent. -/
def CreatesOnUncaptured (call : PaymentCall) : Prop :=
  ∀ request ∈ attemptRequest? call.command, NewAttempt store call.subject request →
    ∀ attempt ∈ store.attempts.rows, attempt.paymentIntentId = request.paymentIntentId →
      attempt.state ≠ .captured
deriving Decidable

variable {s t : PaymentStore}

private theorem single_of_moved {current new : PaymentAttempt}
    (moved : AttemptMoved current new s t) (single : SingleOccupant s) : SingleOccupant t := by
  have source : ∀ row ∈ t.attempts.rows, Occupies row.state →
      ∃ old ∈ s.attempts.rows, Occupies old.state ∧ old.paymentIntentId = row.paymentIntentId ∧
        (row = if old.paymentAttemptId = new.paymentAttemptId then new else old) := by
    intro row mem occupies
    rw [moved.attempts] at mem
    obtain ⟨rfl, _⟩ | ⟨mem, different⟩ := Table.mem_replaced.1 mem
    · exact ⟨current, Table.mem_of_find moved.found, occupies_of_follows moved.follows occupies,
        moved.intentId.symm, by simp [moved.id]⟩
    · exact ⟨row, mem, occupies, rfl, (if_neg different).symm⟩
  intro a memberA b memberB same occupiesA occupiesB
  obtain ⟨oldA, storedA, heldA, intentA, fromA⟩ := source a memberA occupiesA
  obtain ⟨oldB, storedB, heldB, intentB, fromB⟩ := source b memberB occupiesB
  have equal : oldA = oldB := single oldA storedA oldB storedB
    ((intentA.trans same).trans intentB.symm) heldA heldB
  rw [fromA, fromB, equal]

private theorem single_of_created {attempt : PaymentAttempt} {intent : PaymentIntent}
    (created : AttemptCreated attempt intent s t) (vacant : ∀ other ∈ s.attempts.rows,
      other.paymentIntentId = attempt.paymentIntentId → ¬ Occupies other.state)
    (single : SingleOccupant s) : SingleOccupant t := by
  intro a memberA b memberB same occupiesA occupiesB
  rw [created.attempts, List.mem_append, List.mem_singleton] at memberA memberB
  rcases memberA with oldA | rfl
  · rcases memberB with oldB | rfl
    · exact single a oldA b oldB same occupiesA occupiesB
    · exact absurd occupiesA (vacant a oldA same)
  · rcases memberB with oldB | rfl
    · exact absurd occupiesB (vacant b oldB same.symm)
    · rfl

private theorem step_preserves_single_occupant (config : PaymentConfig) (store : PaymentStore)
    (call : PaymentCall) (guard : CreatesOnUncaptured store call) (single : SingleOccupant store) :
    SingleOccupant (step config store call) := by
  cases step_effect config store call with
  | idle _ attempts => rwa [SingleOccupant, attempts]
  | intentCreated _ _ _ attempts => rwa [SingleOccupant, attempts]
  | attemptCreated request attempt intent command new id created =>
    refine single_of_created created ?_ single
    intro other mem same occupies
    have guard := guard request (by rw [command]; rfl)
    rcases occupies with captured | open_
    · exact guard new other mem (same.trans id) captured
    · rw [created.othersTerminal other mem same] at open_
      cases open_
  | attemptMoved _ _ moved => exact single_of_moved moved single
  | callbackActed _ _ _ _ acted => exact single_of_moved acted.moved single
  | intentExpired _ _ closed | intentCancelled _ _ _ _ _ closed =>
    rwa [SingleOccupant, closed.attempts]

/-- In a run whose new attempts are only made on intents without a captured attempt, no intent
ever has two captured attempts. -/
theorem single_capture_along (config : PaymentConfig) (calls : List PaymentCall)
    (along : Along (step config) CreatesOnUncaptured {} calls) :
    CapturedOnce (run (step config) {} calls) := by
  have single : SingleOccupant (run (step config) {} calls) := by
    refine run_invariant_along (step_preserves_single_occupant config) along ?_
    intro a member
    simp at member
  exact fun a memberA b memberB same capturedA capturedB =>
    single a memberA b memberB same (.inl capturedA) (.inl capturedB)

/-! A payment of 500 minor units by rider 1, for runs on concrete calls. -/

def sampleHash (payload : Payload) : Digest :=
  payload.foldl (fun digest field =>
    match field.2 with
    | .uuid value => digest * 1000003 + 4 * value + 1
    | .text value => value.toList.foldl (fun inner c => inner * 1114112 + c.toNat) digest * 4 + 2
    | _ => digest * 4 + 3) 7

def sampleConfig : PaymentConfig := { hash := sampleHash }

def moment (instant : Instant) : DateTime := ⟨instant, some 0⟩

def capturedOutcome : Code := ⟨"captured", by decide⟩

def authorizedOutcome : Code := ⟨"authorized", by decide⟩

def failedOutcome : Code := ⟨"failed", by decide⟩

def firstEvent : BoundedText 3 128 := ⟨"evt-1", by decide⟩

def secondEvent : BoundedText 3 128 := ⟨"evt-2", by decide⟩

def sampleReads : PaymentReads :=
  { grants := fun _ _ _ => true,
    calculations := sampleCalculations,
    journals := fun id => if id = 30 then some sampleJournal else none }

def sampleCall (identityId : Uuid) (identityType : IdentityType) (command : PaymentCommand) :
    PaymentCall :=
  { reads := sampleReads, subject := ⟨identityId, identityType⟩, command }

def payByCard : PaymentCall :=
  sampleCall 1 .rider <| .createPaymentIntent
    { rideId := 10, fareCalculationId := 20, ledgerJournalId := 30, riderIdentityId := 1,
      passengerIdentityId := 1, bookerIdentityId := 1, payerIdentityId := 1, method := .card,
      idempotencyKey := "payment-intent-0001", time := moment 100, candidateId := 100 }

def attemptWith (reference key : String) (candidateId : Uuid) (time : Instant) : PaymentCall :=
  sampleCall 1 .rider <| .createPaymentAttempt
    { paymentIntentId := 100, providerCode := "telebirr", providerReference := reference,
      idempotencyKey := key, correlationId := 51, causationId := 51, time := moment time,
      candidateId }

def reconcile (attemptId : Uuid) (time : Instant) : PaymentCall :=
  sampleCall 9 .service <| .markReconciliationRequired
    { paymentAttemptId := attemptId, reasonCode := "payment.timeout", correlationId := 51,
      time := moment time }

def callbackFor (attemptId : Uuid) (outcome : Code) (eventId : BoundedText 3 128) (key : String)
    (callbackId : Uuid) (time : Instant) : PaymentCall :=
  sampleCall 9 .service <| .ingestAuthenticatedCallbackEnvelope
    { paymentAttemptId := attemptId, providerCode := "telebirr",
      signatureFingerprint := "0123456789abcdef",
      callback := { outcome, providerEventId := eventId, payload := [("event", .text eventId.1)] },
      idempotencyKey := key, correlationId := 51, time := moment time, callbackId }

def captureOnce : List PaymentCall :=
  [payByCard, attemptWith "ref-1" "payment-attempt-0001" 101 101, reconcile 101 102,
   callbackFor 101 capturedOutcome firstEvent "payment-callback-001" 201 103]

/-- A second attempt after the first one was captured. -/
def captureTwice : List PaymentCall :=
  captureOnce ++ [attemptWith "ref-2" "payment-attempt-0002" 102 104, reconcile 102 105,
    callbackFor 102 capturedOutcome secondEvent "payment-callback-002" 202 106]

theorem single_capture_once : CapturedOnce (run (step sampleConfig) {} captureOnce) :=
  single_capture_along sampleConfig captureOnce (by decide)

theorem captured_twice : ¬ CapturedOnce (run (step sampleConfig) {} captureTwice) := by
  decide

end Ayo.Payment.SingleCapture
