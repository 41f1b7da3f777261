/- digest: When a cancelled intent can still be captured. -/

import Ayo.Payment.SingleCapture

namespace Ayo.Payment.Cancellation

open Kernel.Run Kernel.KeyedTable Engine Models Repository Application Effects
open SingleCapture (sampleConfig sampleCall moment payByCard attemptWith reconcile callbackFor
  capturedOutcome failedOutcome firstEvent)

/-- No attempt of a cancelled intent is captured. -/
def CancelledUncaptured (store : PaymentStore) : Prop :=
  ∀ intent ∈ store.intents.rows, intent.state = .cancelled → ∀ attempt ∈ store.attempts.rows,
    attempt.paymentIntentId = intent.paymentIntentId → attempt.state ≠ .captured
deriving Decidable

def cancelRequest? : PaymentCommand → Option CloseIntentRequest
  | .cancelIntent request => some request
  | _ => none

/-- A cancellation of an intent that is not paid in cash finds none of its attempts open. -/
def CancelsWhenClosed (store : PaymentStore) (call : PaymentCall) : Prop :=
  ∀ request ∈ cancelRequest? call.command, ∀ intent ∈ store.intents.rows,
    intent.paymentIntentId = request.paymentIntentId → intent.paymentMethodFamily ≠ .cash →
      ∀ attempt ∈ store.attempts.rows, attempt.paymentIntentId = intent.paymentIntentId →
        attemptIsTerminal attempt.state = true
deriving Decidable

/-- Attempts belong to intents, cash attempts are never captured, and a cancelled intent has
nothing left to capture. -/
structure Sealed (store : PaymentStore) : Prop where
  owned : ∀ attempt ∈ store.attempts.rows,
    ∃ intent ∈ store.intents.rows, attempt.paymentIntentId = intent.paymentIntentId
  cash : ∀ intent ∈ store.intents.rows, intent.paymentMethodFamily = .cash →
    ∀ attempt ∈ store.attempts.rows, attempt.paymentIntentId = intent.paymentIntentId →
      attempt.state ≠ .captured
  cancelled : ∀ intent ∈ store.intents.rows, intent.state = .cancelled →
    ∀ attempt ∈ store.attempts.rows, attempt.paymentIntentId = intent.paymentIntentId →
      attempt.state ≠ .captured ∧
        (intent.paymentMethodFamily ≠ .cash → attemptIsTerminal attempt.state = true)

variable {s t : PaymentStore} {intent : PaymentIntent}

private theorem sealed_of_moved {old new : PaymentAttempt} (moved : AttemptMoved old new s t)
    (cashTarget : ∀ intent ∈ s.intents.rows,
      intent.paymentIntentId = old.paymentIntentId → intent.paymentMethodFamily = .cash →
        new.state ≠ .captured) (closed : Sealed s) : Sealed t := by
  have held := Table.mem_of_find moved.found
  have cash : ∀ intent ∈ s.intents.rows, intent.paymentMethodFamily = .cash →
      ∀ attempt ∈ t.attempts.rows, attempt.paymentIntentId = intent.paymentIntentId →
        attempt.state ≠ .captured := by
    intro intent mem method attempt row same
    rw [moved.attempts] at row
    obtain ⟨rfl, _⟩ | ⟨row, _⟩ := Table.mem_replaced.1 row
    · exact cashTarget intent mem (same.symm.trans moved.intentId) method
    · exact closed.cash intent mem method attempt row same
  refine ⟨?_, by rwa [moved.intents], ?_⟩
  · intro attempt row
    rw [moved.intents]
    rw [moved.attempts] at row
    obtain ⟨rfl, _⟩ | ⟨row, _⟩ := Table.mem_replaced.1 row
    · rw [moved.intentId]
      exact closed.owned old held
    · exact closed.owned attempt row
  · intro intent mem state attempt row same
    rw [moved.intents] at mem
    by_cases method : intent.paymentMethodFamily = .cash
    · exact ⟨cash intent mem method attempt row same, fun other => absurd method other⟩
    · rw [moved.attempts] at row
      obtain ⟨rfl, _⟩ | ⟨row, _⟩ := Table.mem_replaced.1 row
      · -- the attempt was closed before the step, so the graph left it where it was
        obtain ⟨uncaptured, terminal⟩ :=
          closed.cancelled intent mem state old held (moved.intentId.symm.trans same)
        rw [eq_of_follows_terminal (terminal method) moved.follows]
        exact ⟨uncaptured, terminal⟩
      · exact closed.cancelled intent mem state attempt row same

private theorem sealed_of_closed {old new : PaymentIntent} {target : PaymentIntentState}
    (closing : IntentClosed old new target s t)
    (emptied : target = .cancelled → ∀ attempt ∈ s.attempts.rows,
      attempt.paymentIntentId = old.paymentIntentId → attempt.state ≠ .captured ∧
        (old.paymentMethodFamily ≠ .cash → attemptIsTerminal attempt.state = true))
    (closed : Sealed s) : Sealed t := by
  have held := Table.mem_of_find closing.found
  refine ⟨?_, ?_, ?_⟩
  · intro attempt row
    rw [closing.attempts] at row
    obtain ⟨intent, mem, same⟩ := closed.owned attempt row
    rw [closing.intents]
    by_cases one : intent.paymentIntentId = new.paymentIntentId
    · exact ⟨new, Table.mem_replaced.2 (.inl ⟨rfl, intent, mem, one⟩), same.trans one⟩
    · exact ⟨intent, Table.mem_replaced.2 (.inr ⟨mem, one⟩), same⟩
  · intro intent mem method attempt row same
    rw [closing.intents] at mem
    rw [closing.attempts] at row
    obtain ⟨rfl, _⟩ | ⟨mem, _⟩ := Table.mem_replaced.1 mem
    · exact closed.cash old held (closing.method.symm.trans method) attempt row
        (same.trans closing.id)
    · exact closed.cash intent mem method attempt row same
  · intro intent mem state attempt row same
    rw [closing.intents] at mem
    rw [closing.attempts] at row
    obtain ⟨rfl, _⟩ | ⟨mem, _⟩ := Table.mem_replaced.1 mem
    · rw [closing.method]
      exact emptied (closing.state.symm.trans state) attempt row (same.trans closing.id)
    · exact closed.cancelled intent mem state attempt row same

private theorem sealed_of_intent_created (created : intent.state = .created)
    (intents : t.intents.rows = s.intents.rows ++ [intent]) (attempts : t.attempts = s.attempts)
    (closed : Sealed s) : Sealed t := by
  have unowned : ∀ attempt ∈ s.attempts.rows, attempt.paymentIntentId ≠ intent.paymentIntentId := by
    intro attempt row same
    obtain ⟨owner, mem, owns⟩ := closed.owned attempt row
    have absent := Table.find_eq_none.1 (Table.find_eq_none_of_rows_append intents)
    exact absent owner mem (owns.symm.trans same)
  refine ⟨?_, ?_, ?_⟩
  · intro attempt row
    rw [attempts] at row
    obtain ⟨owner, mem, owns⟩ := closed.owned attempt row
    exact ⟨owner, by simp [intents, mem], owns⟩
  · intro other mem method attempt row same
    rw [attempts] at row
    rcases (mem_appended intents).1 mem with mem | rfl
    · exact closed.cash other mem method attempt row same
    · exact absurd same (unowned attempt row)
  · intro other mem state attempt row same
    rw [attempts] at row
    rcases (mem_appended intents).1 mem with mem | rfl
    · exact closed.cancelled other mem state attempt row same
    · exact absurd same (unowned attempt row)

private theorem sealed_of_attempt_created {attempt : PaymentAttempt}
    (created : AttemptCreated attempt intent s t) (closed : Sealed s) : Sealed t := by
  have held := Table.mem_of_find created.intentFound
  have owner : intent.paymentIntentId = attempt.paymentIntentId :=
    Table.key_of_find created.intentFound
  refine ⟨?_, ?_, ?_⟩
  · intro other row
    rw [created.intents]
    rcases (mem_appended created.attempts).1 row with row | rfl
    · exact closed.owned other row
    · exact ⟨intent, held, owner.symm⟩
  · intro other mem method row rowMember same
    rw [created.intents] at mem
    rcases (mem_appended created.attempts).1 rowMember with old | rfl
    · exact closed.cash other mem method row old same
    · simp [created.created]
  · intro other mem state row rowMember same
    rw [created.intents] at mem
    rcases (mem_appended created.attempts).1 rowMember with old | rfl
    · exact closed.cancelled other mem state row old same
    · -- only an active intent takes a new attempt
      have one : other = intent := s.intents.eq_of_key mem held (same.symm.trans owner.symm)
      rw [one, created.intentActive] at state
      cases state

private theorem cash_target_uncaptured {callback : CallbackOutcome} {target : PaymentAttemptState}
    (named : callbackTargetState .cash callback = some target) : target ≠ .captured := by
  obtain ⟨outcome, _, rfl⟩ := Option.map_eq_some_iff.1 named
  by_cases held : outcome = .authorized ∨ outcome = .captured
  · simp [held]
  · simp only [true_and, held, if_false]
    exact fun captured => held (.inr captured)

private theorem step_preserves_sealed (config : PaymentConfig) (store : PaymentStore)
    (call : PaymentCall) (guard : CancelsWhenClosed store call) (closed : Sealed store) :
    Sealed (step config store call) := by
  cases step_effect config store call with
  | idle intents attempts =>
    exact ⟨by rw [intents, attempts]; exact closed.owned,
      by rw [intents, attempts]; exact closed.cash,
      by rw [intents, attempts]; exact closed.cancelled⟩
  | intentCreated intent created intents attempts =>
    exact sealed_of_intent_created created intents attempts closed
  | attemptCreated _ attempt intent _ _ _ created => exact sealed_of_attempt_created created closed
  | attemptMoved old new moved _ target _ =>
    refine sealed_of_moved moved (fun _ _ _ _ captured => ?_) closed
    rw [captured] at target
    simp at target
  | callbackActed request old new _ acted =>
    obtain ⟨intent, found, named⟩ := acted.target
    refine sealed_of_moved acted.moved (fun other mem same method => ?_) closed
    have one : other = intent := store.intents.eq_of_key mem (Table.mem_of_find found)
      (same.trans (Table.key_of_find found).symm)
    rw [← one, method] at named
    exact cash_target_uncaptured named
  | intentExpired old new closing =>
    exact sealed_of_closed closing (fun other => by cases other) closed
  | intentCancelled request old new command id closing uncaptured =>
    have guard := guard request (by rw [command]; rfl)
    refine sealed_of_closed closing (fun _ attempt row same => ?_) closed
    exact ⟨uncaptured attempt row (same.trans id), fun method =>
      guard old (Table.mem_of_find closing.found) id method attempt row same⟩

/-- In a run that cancels an intent not paid in cash only when none of its attempts is open, no
cancelled intent ever owns a captured attempt. -/
theorem cancelled_uncaptured_along (config : PaymentConfig) (calls : List PaymentCall)
    (along : Along (step config) CancelsWhenClosed {} calls) :
    CancelledUncaptured (run (step config) {} calls) := by
  have closed : Sealed (run (step config) {} calls) := by
    refine run_invariant_along (step_preserves_sealed config) along ⟨?_, ?_, ?_⟩
    · intro attempt row
      simp at row
    · intro intent member
      simp at member
    · intro intent member
      simp at member
  exact fun intent member state attempt row same =>
    (closed.cancelled intent member state attempt row same).1

def cancel (time : Ayo.Core.Values.Instant) : PaymentCall :=
  sampleCall 1 .rider <| .cancelIntent
    { paymentIntentId := 100, correlationId := 51, time := moment time }

def cancelAfterFailure : List PaymentCall :=
  [payByCard, attemptWith "ref-1" "payment-attempt-0001" 101 101, reconcile 101 102,
   callbackFor 101 failedOutcome firstEvent "payment-callback-001" 201 103,
   cancel 104]

def captureAfterCancel : List PaymentCall :=
  [payByCard, attemptWith "ref-1" "payment-attempt-0001" 101 101, reconcile 101 102, cancel 103,
   callbackFor 101 capturedOutcome firstEvent "payment-callback-001" 201 104]

theorem cancelled_after_failure :
    CancelledUncaptured (run (step sampleConfig) {} cancelAfterFailure) :=
  cancelled_uncaptured_along sampleConfig cancelAfterFailure (by decide)

theorem captured_after_cancel :
    ¬ CancelledUncaptured (run (step sampleConfig) {} captureAfterCancel) := by
  decide

end Ayo.Payment.Cancellation
