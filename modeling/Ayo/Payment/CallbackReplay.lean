/- digest: When a provider event can act more than once. -/

import Ayo.Payment.SingleCapture

namespace Ayo.Payment.CallbackReplay

open Kernel.Run Kernel.KeyedTable Core.Values Engine Models Repository Application Effects
open SingleCapture (sampleConfig payByCard attemptWith reconcile callbackFor authorizedOutcome
  failedOutcome firstEvent)

def attemptState (store : PaymentStore) (attemptId : Uuid) : Option PaymentAttemptState :=
  (store.attempts.find attemptId).map PaymentAttempt.state

def storeAt (config : PaymentConfig) (calls : List PaymentCall) (n : Nat) : PaymentStore :=
  run (step config) {} (calls.take n)

def DrivesAt (config : PaymentConfig) (calls : List PaymentCall) (n : Nat) (providerCode : String)
    (providerEventId : BoundedText 3 128) (attemptId : Uuid) : Prop :=
  ∃ call request, calls[n]? = some call ∧
    call.command = .ingestAuthenticatedCallbackEnvelope request ∧
    request.providerCode = providerCode ∧ request.callback.providerEventId = providerEventId ∧
    attemptState (storeAt config calls (n + 1)) attemptId ≠
      attemptState (storeAt config calls n) attemptId

/-- Each provider event drives at most one attempt in the whole run. -/
def EventActsOnce (config : PaymentConfig) (calls : List PaymentCall) : Prop :=
  ∀ providerCode providerEventId n m first second,
    DrivesAt config calls n providerCode providerEventId first →
    DrivesAt config calls m providerCode providerEventId second → first = second

def Records (config : PaymentConfig) (request : CallbackRequest)
    (envelope : PaymentCallbackEnvelope) : Prop :=
  envelope.providerCode.1 = request.providerCode ∧
    envelope.providerEventId = request.callback.providerEventId ∧
    envelope.payloadHash = config.hash request.callback.payload
deriving Decidable

/-- Delivering an event whose envelope was processed leaves the state of every attempt. -/
def RedeliveryInert (config : PaymentConfig) (calls : List PaymentCall) : Prop :=
  ∀ n call request, calls[n]? = some call →
    call.command = .ingestAuthenticatedCallbackEnvelope request →
    (∃ envelope ∈ (storeAt config calls n).envelopes.rows,
      Records config request envelope ∧ envelope.processedAt ≠ none) →
    ∀ attemptId, attemptState (storeAt config calls (n + 1)) attemptId =
      attemptState (storeAt config calls n) attemptId

def callbackRequest? : PaymentCommand → Option CallbackRequest
  | .ingestAuthenticatedCallbackEnvelope request => some request
  | _ => none

/-- A delivery of a stored event addresses an attempt of its provider only in a state from which
the graph does not lead to the state that the event names. -/
def RedeliversOutOfReach (config : PaymentConfig) (store : PaymentStore) (call : PaymentCall) :
    Prop :=
  ∀ request ∈ callbackRequest? call.command,
    (∃ envelope ∈ store.envelopes.rows, Records config request envelope) →
      ∀ attempt ∈ store.attempts.rows, attempt.paymentAttemptId = request.paymentAttemptId →
        attempt.providerCode.1 = request.providerCode → ∀ intent ∈ store.intents.rows,
          intent.paymentIntentId = attempt.paymentIntentId →
            ∀ target ∈ callbackTargetState intent.paymentMethodFamily request.callback,
              target ∉ allowedAttemptTransitions attempt.state
deriving Decidable

theorem attemptState_of_moved {old new : PaymentAttempt} {s t : PaymentStore}
    (moved : AttemptMoved old new s t) (attemptId : Uuid) :
    attemptState t attemptId = if attemptId = old.paymentAttemptId then some new.state
      else attemptState s attemptId := by
  have key : Row.key new = old.paymentAttemptId := moved.id
  unfold attemptState
  rw [Table.find_of_rows_replaced moved.attempts, key]
  by_cases same : attemptId = old.paymentAttemptId
  · simp [same, moved.found]
  · simp [same]

theorem eventsKept_refl (store : PaymentStore) : EventsKept store store :=
  fun envelope mem => ⟨envelope, mem, ⟨rfl, rfl⟩, rfl⟩

theorem step_keeps_events (config : PaymentConfig) (store : PaymentStore) (call : PaymentCall) :
    EventsKept store (step config store call) := by
  have stays : ∀ {t : PaymentStore}, t.envelopes = store.envelopes → EventsKept store t := by
    intro t same envelope mem
    exact ⟨envelope, by rwa [same], ⟨rfl, rfl⟩, rfl⟩
  cases step_effect config store call with
  | idle _ _ envelopes => exact stays envelopes
  | intentCreated _ _ _ _ envelopes => exact stays envelopes
  | attemptCreated _ _ _ _ _ _ created => exact stays created.envelopes
  | attemptMoved _ _ _ envelopes => exact stays envelopes
  | callbackActed _ _ _ _ acted => exact acted.kept
  | intentExpired _ _ closed => exact stays closed.envelopes
  | intentCancelled _ _ _ _ _ closed => exact stays closed.envelopes

variable {request : CallbackRequest} {config : PaymentConfig} {store : PaymentStore}
  {call : PaymentCall}

private theorem acted_of_changed {attemptId : Uuid}
    (command : call.command = .ingestAuthenticatedCallbackEnvelope request)
    (new : attemptState (step config store call) attemptId ≠ attemptState store attemptId) :
    ∃ old result, CallbackActed config request old result store (step config store call) ∧
      attemptId = request.paymentAttemptId ∧
      result.state ∈ allowedAttemptTransitions old.state := by
  cases step_effect config store call with
  | idle _ attempts => exact absurd (by rw [attemptState, attempts]; rfl) new
  | intentCreated _ _ _ attempts => exact absurd (by rw [attemptState, attempts]; rfl) new
  | attemptCreated _ _ _ other =>
    rw [command] at other
    cases other
  | attemptMoved _ _ _ _ _ internal => exact absurd command (internal request)
  | callbackActed request' old result other acted =>
    rw [command] at other
    cases other
    rw [attemptState_of_moved acted.moved] at new
    by_cases addressed : attemptId = old.paymentAttemptId
    · have s : attemptState store attemptId = some old.state := by
        simp [attemptState, addressed, acted.moved.found]
      have moves : result.state ≠ old.state := by
        intro same
        rw [if_pos addressed, s, same] at new
        exact new rfl
      exact ⟨old, result, acted, addressed.trans acted.addressed,
        acted.moved.follows.resolve_left moves⟩
    · rw [if_neg addressed] at new
      exact absurd rfl new
  | intentExpired _ _ closed => exact absurd (by rw [attemptState, closed.attempts]; rfl) new
  | intentCancelled _ _ _ other =>
    rw [command] at other
    cases other

private theorem inert_of_stored
    (command : call.command = .ingestAuthenticatedCallbackEnvelope request)
    (guard : RedeliversOutOfReach config store call)
    (held : ∃ envelope ∈ store.envelopes.rows, envelope.providerCode.1 = request.providerCode ∧
      envelope.providerEventId = request.callback.providerEventId) (attemptId : Uuid) :
    attemptState (step config store call) attemptId = attemptState store attemptId := by
  by_contra new
  obtain ⟨old, result, acted, _, edge⟩ := acted_of_changed command new
  have guard := guard request (by rw [command]; rfl)
  obtain ⟨intent, found, named⟩ := acted.target
  obtain fresh | ⟨envelope, mem, code, event, payload⟩ := acted.first
  · obtain ⟨envelope, mem, same⟩ := held
    exact fresh envelope mem same
  · exact guard ⟨envelope, mem, code, event, payload⟩ old
      (Table.mem_of_find acted.moved.found) acted.addressed acted.provider intent
      (Table.mem_of_find found) (Table.key_of_find found) result.state named edge

section

variable {config : PaymentConfig} {calls : List PaymentCall} {n : Nat}

private theorem storeAt_succ (taken : calls[n]? = some call) :
    storeAt config calls (n + 1) = step config (storeAt config calls n) call :=
  run_take_succ taken

private theorem not_drives_later
    (along : Along (step config) (RedeliversOutOfReach config) {} calls) {m : Nat}
    {providerCode : String} {providerEventId : BoundedText 3 128} {first second : Uuid}
    (earlier : DrivesAt config calls n providerCode providerEventId first)
    (later : DrivesAt config calls m providerCode providerEventId second) (lt : n < m) : False := by
  obtain ⟨call, request, taken, command, rfl, rfl, new⟩ := earlier
  obtain ⟨call', request', taken', command', code, event, changed'⟩ := later
  rw [storeAt_succ taken] at new
  rw [storeAt_succ taken'] at changed'
  obtain ⟨_, _, acted, _, _⟩ := acted_of_changed command new
  obtain ⟨envelope, mem, sameCode, sameEvent⟩ := acted.stored
  rw [← storeAt_succ taken] at mem
  have kept : EventsKept (storeAt config calls (n + 1)) (storeAt config calls m) :=
    run_take_related eventsKept_refl EventsKept.trans (step_keeps_events config) {} calls lt
  obtain ⟨stored, mem', same, _⟩ := kept envelope mem
  refine changed' (inert_of_stored command' (guard_of_along along taken')
    ⟨stored, mem', ?_, ?_⟩ second)
  · rw [same.1, sameCode, code]
  · rw [same.2, sameEvent, event]

/-- In a run whose repeated deliveries find their target out of reach, every event drives at most
one attempt and a repeated delivery changes no state. -/
theorem event_acts_once_along (along : Along (step config) (RedeliversOutOfReach config) {} calls) :
    EventActsOnce config calls ∧ RedeliveryInert config calls := by
  constructor
  · intro providerCode providerEventId n m first second earlier later
    obtain lt | rfl | lt := lt_trichotomy n m
    · exact (not_drives_later along earlier later lt).elim
    · obtain ⟨call, request, taken, command, _, _, changed⟩ := earlier
      obtain ⟨call', request', taken', command', _, _, changed'⟩ := later
      cases taken.symm.trans taken'
      cases command.symm.trans command'
      rw [storeAt_succ taken] at changed changed'
      obtain ⟨_, _, _, addressed, _⟩ := acted_of_changed command changed
      obtain ⟨_, _, _, addressed', _⟩ := acted_of_changed command changed'
      exact addressed.trans addressed'.symm
    · exact (not_drives_later along later earlier lt).elim
  · intro n call request taken command ⟨envelope, member, records, _⟩ attemptId
    rw [storeAt_succ taken]
    exact inert_of_stored command (guard_of_along along taken)
      ⟨envelope, member, records.1, records.2.1⟩ attemptId

end

def failedEvent (attemptId : Uuid) (key : String) (callbackId : Uuid) (time : Instant) :
    PaymentCall :=
  callbackFor attemptId failedOutcome firstEvent key callbackId time

def failOnce : List PaymentCall :=
  [payByCard, attemptWith "ref-1" "payment-attempt-0001" 101 101,
   failedEvent 101 "payment-callback-001" 201 102, failedEvent 101 "payment-callback-002" 202 103]

def failTwice : List PaymentCall :=
  [payByCard, attemptWith "ref-1" "payment-attempt-0001" 101 101,
   failedEvent 101 "payment-callback-001" 201 102,
   attemptWith "ref-2" "payment-attempt-0002" 102 103,
   failedEvent 102 "payment-callback-002" 202 104]

theorem event_acts_once_failed :
    EventActsOnce sampleConfig failOnce ∧ RedeliveryInert sampleConfig failOnce :=
  event_acts_once_along (by decide)

def reauthorize : List PaymentCall :=
  [payByCard, attemptWith "ref-1" "payment-attempt-0001" 101 101, reconcile 101 102,
   callbackFor 101 authorizedOutcome firstEvent "payment-callback-001" 201 103,
   reconcile 101 104,
   callbackFor 101 authorizedOutcome firstEvent "payment-callback-002" 202 105]

theorem event_acts_twice :
    ¬ EventActsOnce sampleConfig failTwice ∧ ¬ RedeliveryInert sampleConfig reauthorize := by
  constructor
  · intro once
    have first : DrivesAt sampleConfig failTwice 2 "telebirr" firstEvent 101 :=
      ⟨_, _, rfl, rfl, rfl, rfl, by decide⟩
    have second : DrivesAt sampleConfig failTwice 4 "telebirr" firstEvent 102 :=
      ⟨_, _, rfl, rfl, rfl, rfl, by decide⟩
    exact absurd (once _ _ _ _ _ _ first second) (by decide)
  · intro inert
    exact absurd (inert 5 _ _ rfl rfl (by decide) 101) (by decide)

end Ayo.Payment.CallbackReplay
