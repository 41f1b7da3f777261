/- digest: What each successful payment command does to the store. -/

import Ayo.Kernel.Run
import Ayo.Payment.Application

namespace Ayo.Payment.Effects

open Kernel.UnitOfWork Kernel.KeyedTable Core.Values
open Core.Authorization hiding reserveIdempotency_ok
open Core.Lifecycle Pricing.Models
open Ledger.Models (LedgerJournal)
open Engine Models Repository Application
open Kernel.Evolution (Evolves)

structure AttemptMoved (current changed : PaymentAttempt) (s t : PaymentStore) : Prop where
  found : s.attempts.find current.paymentAttemptId = some current
  id : changed.paymentAttemptId = current.paymentAttemptId
  intentId : changed.paymentIntentId = current.paymentIntentId
  providerCode : changed.providerCode = current.providerCode
  amountMinor : changed.amountMinor = current.amountMinor
  follows : Follows allowedAttemptTransitions current.state changed.state
  attempts : t.attempts.rows = s.attempts.replaced changed
  intents : t.intents = s.intents

/-- One new attempt of an active intent, none of whose attempts is still open. -/
structure AttemptCreated (attempt : PaymentAttempt) (intent : PaymentIntent)
    (s t : PaymentStore) : Prop where
  intentFound : s.intents.find attempt.paymentIntentId = some intent
  intentActive : intent.state = .created
  created : attempt.state = .created
  amountMinor : attempt.amountMinor = intent.amountMinor
  othersTerminal : ∀ other ∈ s.attempts.rows,
    other.paymentIntentId = attempt.paymentIntentId → attemptIsTerminal other.state = true
  referenceFree : ∀ other ∈ s.attempts.rows, ¬ (
    other.paymentIntentId = attempt.paymentIntentId ∧ other.providerCode = attempt.providerCode ∧
      other.providerReference = attempt.providerReference)
  attempts : t.attempts.rows = s.attempts.rows ++ [attempt]
  intents : t.intents = s.intents
  envelopes : t.envelopes = s.envelopes

structure IntentClosed (current changed : PaymentIntent) (target : PaymentIntentState)
    (s t : PaymentStore) : Prop where
  found : s.intents.find current.paymentIntentId = some current
  id : changed.paymentIntentId = current.paymentIntentId
  method : changed.paymentMethodFamily = current.paymentMethodFamily
  traceability : changed.traceability = current.traceability
  state : changed.state = target
  follows : Follows allowedIntentTransitions current.state target
  intents : t.intents.rows = s.intents.replaced changed
  attempts : t.attempts = s.attempts
  envelopes : t.envelopes = s.envelopes

section

variable {α : Type} {s t : PaymentStore} {a : α} {time : DateTime}
  {id correlationId causationId paymentIntentId : Uuid}

private theorem getIntent_bind_ok {f : Option PaymentIntent → PaymentTransaction α} :
    (getIntent id >>= f) s = .ok (a, t) ↔ f (s.intents.find id) s = .ok (a, t) := by
  simp only [getIntent, bind_assoc, pure_bind, get_bind_ok]

private theorem getAttempt_bind_ok {f : Option PaymentAttempt → PaymentTransaction α} :
    (getAttempt id >>= f) s = .ok (a, t) ↔ f (s.attempts.find id) s = .ok (a, t) := by
  simp only [getAttempt, bind_assoc, pure_bind, get_bind_ok]

private theorem listAttemptsForIntent_bind_ok {f : List PaymentAttempt → PaymentTransaction α} :
    (listAttemptsForIntent id >>= f) s = .ok (a, t) ↔
      f (attemptsForIntent s id) s = .ok (a, t) := by
  simp only [listAttemptsForIntent, bind_assoc, pure_bind, get_bind_ok]

private theorem recordEvent_bind_ok {aggregateType eventType : String} {aggregateId : Uuid}
    {occurredAt : Instant} {f : Unit → PaymentTransaction α} :
    (recordEvent aggregateType aggregateId eventType occurredAt correlationId causationId >>= f)
        s = .ok (a, t) ↔
      f () { s with
        events := s.events ++
          [{ aggregateType, aggregateId, eventType, occurredAt, correlationId, causationId }] } =
        .ok (a, t) := by
  simp only [recordEvent, bind_assoc, steps_ok]

theorem mem_attemptsForIntent {store : PaymentStore} {attempt : PaymentAttempt} :
    attempt ∈ attemptsForIntent store paymentIntentId ↔
      attempt ∈ store.attempts.rows ∧ attempt.paymentIntentId = paymentIntentId := by
  simp [attemptsForIntent]

theorem createIntent_ok {intent result : PaymentIntent}
    (ran : createIntent intent s = .ok (result, t)) :
    intent.state = .created ∧ t.intents.rows = s.intents.rows ++ [intent] ∧
      t.attempts = s.attempts ∧ t.envelopes = s.envelopes := by
  unfold createIntent at ran
  simp only [↓steps_ok, ↓recordEvent_bind_ok, Table.insert?_eq_some] at ran
  obtain ⟨created, _, intents, rows, rfl, rfl⟩ := ran
  exact ⟨created, rows, rfl, rfl⟩

theorem transitionIntent_ok {target : PaymentIntentState} {result : PaymentIntent}
    (ran : transitionIntent paymentIntentId target time correlationId causationId s =
      .ok (result, t)) :
    ∃ old, old.paymentIntentId = paymentIntentId ∧ IntentClosed old result target s t := by
  unfold transitionIntent ensureIntentTransitionAllowed at ran
  simp only [↓getIntent_bind_ok, ↓ensureTransitionAllowed_bind_ok, ↓steps_ok, ↓recordEvent_bind_ok,
    Table.replace?_eq_some, Option.dite_none_right_eq_some, Option.some.injEq] at ran
  obtain ⟨old, found, follows, _, new, ⟨later, built⟩, intents, rows, rfl, rfl⟩ := ran
  have id : old.paymentIntentId = paymentIntentId := Table.key_of_find found
  subst built
  exact ⟨old, id, by rwa [id], rfl, rfl, rfl, rfl, follows, rows, rfl, rfl⟩

theorem createAttempt_ok {attempt result : PaymentAttempt} (created : attempt.state = .created)
    (ran : createAttempt attempt s = .ok (result, t)) :
    t = s ∨ ∃ intent, AttemptCreated attempt intent s t := by
  unfold createAttempt at ran
  simp only [↓getIntent_bind_ok, ↓listAttemptsForIntent_bind_ok, ↓recordEvent_bind_ok, ↓steps_ok,
    whenSome_ok, Table.insert?_eq_some] at ran
  obtain ⟨intent, found, active, ⟨amount, _⟩, terminal,
    ⟨_, _, rfl, rfl⟩ | ⟨free, _, attempts, rows, rfl, rfl⟩⟩ := ran
  · exact .inl rfl
  · refine .inr ⟨intent, found, active, created, amount, ?_, ?_, rows, rfl, rfl⟩
    · intro other mem same
      exact terminal other (mem_attemptsForIntent.2 ⟨mem, same⟩)
    · simpa using List.find?_eq_none.1 free

theorem transitionAttempt_ok {paymentAttemptId : Uuid} {target : PaymentAttemptState}
    {reasonCode : String} {providerEventId : Option (BoundedText 3 128)} {result : PaymentAttempt}
    (ran : transitionAttempt paymentAttemptId target time reasonCode correlationId causationId
      providerEventId s = .ok (result, t)) :
    ∃ old, old.paymentAttemptId = paymentAttemptId ∧ result.state = target ∧
      AttemptMoved old result s t ∧ t.envelopes = s.envelopes := by
  unfold transitionAttempt ensureAttemptTransitionAllowed at ran
  simp only [↓getAttempt_bind_ok, ↓ensureTransitionAllowed_bind_ok, ↓steps_ok, ↓recordEvent_bind_ok,
    Table.replace?_eq_some, Option.dite_none_right_eq_some, Option.some.injEq] at ran
  obtain ⟨old, found, follows, _, _, _, new, ⟨later, built⟩, attempts, rows, rfl, rfl⟩ :=
    ran
  have id : old.paymentAttemptId = paymentAttemptId := Table.key_of_find found
  subst built
  exact ⟨old, id, rfl, ⟨by rwa [id], rfl, rfl, rfl, rfl, follows, rows, rfl⟩, rfl⟩

def sameEvent (a b : PaymentCallbackEnvelope) : Prop :=
  a.providerCode = b.providerCode ∧ a.providerEventId = b.providerEventId

/-- Every stored event keeps its envelope and the hash of its payload. -/
def EventsKept (s t : PaymentStore) : Prop :=
  ∀ envelope ∈ s.envelopes.rows, ∃ kept ∈ t.envelopes.rows,
    sameEvent kept envelope ∧ kept.payloadHash = envelope.payloadHash

theorem ingestCallbackEnvelope_ok {envelope result : PaymentCallbackEnvelope}
    (ran : ingestCallbackEnvelope envelope s = .ok (result, t)) :
    (∃ envelopes, t = { s with envelopes }) ∧ EventsKept s t ∧
      result ∈ t.envelopes.rows ∧ sameEvent result envelope ∧
      result.payloadHash = envelope.payloadHash ∧
      ((∀ other ∈ s.envelopes.rows, ¬ sameEvent other envelope) ∨ result ∈ s.envelopes.rows) := by
  unfold ingestCallbackEnvelope at ran
  simp only [↓steps_ok, whenSome_ok, Table.insert?_eq_some] at ran
  obtain ⟨envelopes, rows, rfl, rfl⟩ | ⟨_, existing, found, hash, rfl, rfl⟩ := ran
  · refine ⟨⟨envelopes, rfl⟩, ?_, by simp [rows], ⟨rfl, rfl⟩, rfl, .inl ?_⟩
    · intro other mem
      exact ⟨other, by simp [rows, mem], ⟨rfl, rfl⟩, rfl⟩
    · intro other mem same
      have distinct := envelopes.distinct
      rw [rows] at distinct
      exact (List.pairwise_append.1 distinct).2.2 other mem envelope (by simp)
        (.inr (Prod.ext same.1 same.2))
  · have mem := List.mem_of_find?_eq_some found
    have same : sameEvent existing envelope := by simpa [sameEvent] using List.find?_some found
    exact ⟨⟨_, rfl⟩, fun other held => ⟨other, held, ⟨rfl, rfl⟩, rfl⟩, mem, same, hash, .inr mem⟩

theorem markCallbackProcessed_ok {callbackId correlatedAttemptId : Uuid} {u : Unit}
    (ran : markCallbackProcessed callbackId correlatedAttemptId time s = .ok (u, t)) :
    (∃ envelopes, t = { s with envelopes }) ∧ EventsKept s t := by
  unfold markCallbackProcessed at ran
  simp only [↓steps_ok, whenSome_ok, Option.dite_none_right_eq_some, Option.some.injEq,
    Table.replace?_eq_some] at ran
  obtain ⟨envelope, found, new, ⟨later, built⟩, envelopes, rows, rfl⟩ | ⟨_, _, rfl⟩ := ran
  · refine ⟨⟨envelopes, rfl⟩, ?_⟩
    intro other mem
    by_cases same : other.callbackId = new.callbackId
    · have id : envelope.callbackId = new.callbackId := by rw [← built]
      have one : other = envelope :=
        s.envelopes.eq_of_key mem (Table.mem_of_find found) (same.trans id.symm)
      subst one
      refine ⟨new, ?_, by subst built; exact ⟨rfl, rfl⟩, by subst built; rfl⟩
      rw [rows]
      exact Table.mem_replaced.2 (.inl ⟨rfl, other, mem, same⟩)
    · refine ⟨other, ?_, ⟨rfl, rfl⟩, rfl⟩
      rw [rows]
      exact Table.mem_replaced.2 (.inr ⟨mem, same⟩)
  · exact ⟨⟨_, rfl⟩, fun other mem => ⟨other, mem, ⟨rfl, rfl⟩, rfl⟩⟩

end

variable {s t store : PaymentStore} {config : PaymentConfig} {call : PaymentCall}
  {attempt : PaymentAttempt} {id : Uuid}

theorem AttemptMoved.congr {current changed : PaymentAttempt} {before' after' : PaymentStore}
    (moved : AttemptMoved current changed s t) (attempts : before'.attempts = s.attempts)
    (intents : before'.intents = s.intents) (attempts' : after'.attempts = t.attempts)
    (intents' : after'.intents = t.intents) : AttemptMoved current changed before' after' :=
  { found := by rw [attempts]; exact moved.found
    id := moved.id
    intentId := moved.intentId
    providerCode := moved.providerCode
    amountMinor := moved.amountMinor
    follows := moved.follows
    attempts := by rw [attempts', moved.attempts, Table.replaced, Table.replaced, attempts]
    intents := by rw [intents', moved.intents, intents] }

section

variable {config : PaymentConfig} {reads : PaymentReads} {subject : AuthorizationSubject}
  {s t : PaymentStore} {time : DateTime} {result : PaymentAttempt} {request : CreateIntentRequest}

private theorem requireIntentStatusRead_readOnly {intent : PaymentIntent} :
    ReadOnly (requireIntentStatusRead reads subject intent time) := by
  have own : ReadOnly (readsOwnIntent reads subject intent time) :=
    .ite hasPermission_readOnly .pure
  exact .bind own fun _ => .bind hasPermission_readOnly fun _ =>
    .bind hasPermission_readOnly fun _ => .require

theorem createPaymentAttempt_ok {request : CreateAttemptRequest}
    (ran : createPaymentAttempt config reads subject request s = .ok (result, t)) :
    (t.intents = s.intents ∧ t.attempts = s.attempts ∧ t.envelopes = s.envelopes) ∨
      ∃ attempt intent, AttemptCreated attempt intent s t ∧
        attempt.paymentAttemptId = canonicalReference s.idempotency subject.identityId
          "payment.attempt.create" request.idempotencyKey request.candidateId ∧
        attempt.paymentIntentId = request.paymentIntentId ∧
        attempt.providerCode.1 = request.providerCode ∧
        attempt.providerReference.1 = request.providerReference := by
  unfold createPaymentAttempt at ran
  simp only [↓guards_ok] at ran
  obtain ⟨_, _, _, ran⟩ := ran
  obtain ⟨idempotency, ran⟩ := reserving_ok ran
  simp only [↓getAttempt_bind_ok, ↓getIntent_bind_ok, ↓steps_ok, whenSome_ok] at ran
  obtain ⟨_, _, rfl, rfl⟩ | ⟨_, intent, found, ran⟩ := ran
  · exact .inl ⟨rfl, rfl, rfl⟩
  · obtain ⟨_, _, ran⟩ :=
      (requireIntentStatusRead_readOnly).bind_ok ran
    simp only [utc, bind_assoc, pure_bind, code?, boundedText?, ↓steps_ok, refine?_eq_some] at ran
    obtain ⟨_, _, code, codeText, reference, referenceText, _, inserted⟩ := ran
    obtain stays | ⟨intent', created⟩ := createAttempt_ok rfl inserted
    · subst stays
      exact .inl ⟨rfl, rfl, rfl⟩
    · have id : intent.paymentIntentId = request.paymentIntentId := Table.key_of_find found
      exact .inr ⟨_, intent', ⟨created.intentFound, created.intentActive, created.created,
        created.amountMinor, created.othersTerminal, created.referenceFree, created.attempts,
        created.intents, created.envelopes⟩, rfl, id, codeText, referenceText⟩

private theorem authorizeParticipants_readOnly :
    ReadOnly (authorizeParticipants reads subject request) :=
  .requires <| .ite (.requires <| .bind hasPermission_readOnly fun _ => .require)
    .pure

private theorem validateOrSelectPaymentMethod_readOnly {method : PaymentMethodFamily}
    {allowCash : Bool} :
    ReadOnly (validateOrSelectPaymentMethod reads subject method allowCash time) :=
  .bind requirePermission_readOnly fun _ => .requires <| .requires <| .pure

private theorem utc_readOnly (value : DateTime) : ReadOnly (utc value) :=
  .requires <| .pure

private theorem validateAuthoritativeLineage_readOnly {calculation : Option FareCalculation}
    {journal : Option LedgerJournal} {rideId riderIdentityId fareCalculationId : Uuid} :
    ReadOnly (validateAuthoritativeLineage calculation journal rideId riderIdentityId
      fareCalculationId) :=
  .demands fun _ => .requires <| .requires <| .requires <| .requires <| .requires <|
    .demands fun _ => .requires <| .requires <| .pure

private theorem buildIntent_readOnly {canonical : Uuid}
    {selected : PaymentMethodFamily} {calculation : FareCalculation} :
    ReadOnly (buildIntent request canonical selected calculation) :=
  .demands fun _ => .demands fun _ => .demands fun _ =>
    .demands fun _ => .bind (utc_readOnly _) fun _ =>
    .bind (.whenSome (fun _ => .bind (utc_readOnly _) fun _ => .pure) .pure) fun _ =>
    .demand

theorem createPaymentIntent_ok {result : PaymentIntent}
    (ran : createPaymentIntent config reads subject request s = .ok (result, t)) :
    t.attempts = s.attempts ∧ t.envelopes = s.envelopes ∧
      (t.intents = s.intents ∨ ∃ intent, intent.state = .created ∧
        t.intents.rows = s.intents.rows ++ [intent]) := by
  unfold createPaymentIntent at ran
  simp only [↓guards_ok] at ran
  obtain ⟨_, _, _, ran⟩ := ran
  obtain ⟨_, _, ran⟩ := (authorizeParticipants_readOnly).bind_ok ran
  obtain ⟨_, _, ran⟩ := (validateOrSelectPaymentMethod_readOnly).bind_ok ran
  obtain ⟨idempotency, ran⟩ := reserving_ok ran
  simp only [↓getIntent_bind_ok, whenSome_ok, pure_ok] at ran
  obtain ⟨_, _, rfl, rfl⟩ | ⟨_, ran⟩ := ran
  · exact ⟨rfl, rfl, .inl rfl⟩
  · obtain ⟨_, _, ran⟩ :=
      (validateAuthoritativeLineage_readOnly).bind_ok ran
    obtain ⟨intent, _, inserted⟩ := (buildIntent_readOnly).bind_ok ran
    obtain ⟨created, rows, attempts, envelopes⟩ := createIntent_ok inserted
    exact ⟨attempts, envelopes, .inr ⟨intent, created, rows⟩⟩

theorem submitProviderNeutralAttempt_ok {request : SubmitAttemptRequest}
    (ran : submitProviderNeutralAttempt config reads subject request s = .ok (result, t)) :
    ∃ old, AttemptMoved old result s t ∧ t.envelopes = s.envelopes ∧
      (result.state = .outcomeUnknown ∨ result.state = .authorizationPending) := by
  unfold submitProviderNeutralAttempt at ran
  simp only [↓guards_ok] at ran
  obtain ⟨_, _, _, ran⟩ := ran
  obtain ⟨idempotency, ran⟩ := reserving_ok ran
  simp only [↓getAttempt_bind_ok, ↓getIntent_bind_ok, ↓demand_bind_ok] at ran
  obtain ⟨attempt, found, intent, held, ran⟩ := ran
  obtain ⟨_, _, ran⟩ :=
    (requireIntentStatusRead_readOnly).bind_ok ran
  rw [ite_ok] at ran
  obtain ⟨_, ran⟩ | ⟨_, ran⟩ := ran
  · obtain ⟨old, _, state, moved, envelopes⟩ := transitionAttempt_ok ran
    exact ⟨old, moved.congr rfl rfl rfl rfl, envelopes, .inl state⟩
  · obtain ⟨old, _, state, moved, envelopes⟩ := transitionAttempt_ok ran
    exact ⟨old, moved.congr rfl rfl rfl rfl, envelopes, .inr state⟩

/-- What an accepted delivery does: it moves the addressed attempt to the state that its outcome
names, and its event is stored from then on. -/
structure CallbackActed (config : PaymentConfig) (request : CallbackRequest)
    (current changed : PaymentAttempt) (s t : PaymentStore) : Prop where
  moved : AttemptMoved current changed s t
  addressed : current.paymentAttemptId = request.paymentAttemptId
  provider : current.providerCode.1 = request.providerCode
  target : ∃ intent, s.intents.find current.paymentIntentId = some intent ∧
    callbackTargetState intent.paymentMethodFamily request.callback = some changed.state
  kept : EventsKept s t
  stored : ∃ envelope ∈ t.envelopes.rows, envelope.providerCode.1 = request.providerCode ∧
    envelope.providerEventId = request.callback.providerEventId
  first : (∀ envelope ∈ s.envelopes.rows, ¬ (
      envelope.providerCode.1 = request.providerCode ∧
        envelope.providerEventId = request.callback.providerEventId)) ∨
    ∃ envelope ∈ s.envelopes.rows, envelope.providerCode.1 = request.providerCode ∧
      envelope.providerEventId = request.callback.providerEventId ∧
      envelope.payloadHash = config.hash request.callback.payload

variable {request : CallbackRequest}

private theorem buildEnvelope_ok {attempt : PaymentAttempt} {envelope : PaymentCallbackEnvelope}
    (ran : buildEnvelope config request attempt s = .ok (envelope, t)) :
    s = t ∧ envelope.providerCode.1 = request.providerCode ∧
      envelope.providerEventId = request.callback.providerEventId ∧
      envelope.payloadHash = config.hash request.callback.payload := by
  unfold buildEnvelope utc at ran
  simp only [bind_assoc, pure_bind, ↓steps_ok, demand_ok, code?, refine?_eq_some,
    Option.dite_none_right_eq_some, Option.some.injEq] at ran
  obtain ⟨code, text, _, _, _, ⟨_, rfl⟩, same⟩ := ran
  exact ⟨same, text, rfl, rfl⟩

theorem EventsKept.trans {first second third : PaymentStore} (early : EventsKept first second)
    (late : EventsKept second third) : EventsKept first third := by
  intro envelope mem
  obtain ⟨middle, held, event, hash⟩ := early envelope mem
  obtain ⟨kept, stored', event', hash'⟩ := late middle held
  exact ⟨kept, stored', ⟨event'.1.trans event.1, event'.2.trans event.2⟩, hash'.trans hash⟩

theorem ingestAuthenticatedCallbackEnvelope_ok
    (ran : ingestAuthenticatedCallbackEnvelope config reads subject request s = .ok (result, t)) :
    ∃ old, CallbackActed config request old result s t := by
  unfold ingestAuthenticatedCallbackEnvelope at ran
  simp only [↓guards_ok] at ran
  obtain ⟨_, _, _, _, ran⟩ := ran
  obtain ⟨idempotency, ran⟩ := reserving_ok ran
  simp only [↓getAttempt_bind_ok, ↓steps_ok] at ran
  obtain ⟨attempt, found, provider, ran⟩ := ran
  obtain ⟨received, _, built, ran⟩ := bind_ok.1 ran
  obtain ⟨rfl, code, event, payload⟩ := buildEnvelope_ok built
  obtain ⟨envelope, _, ingested, ran⟩ := bind_ok.1 ran
  obtain ⟨⟨envelopes, rfl⟩, kept, mem, same, hash, origin⟩ := ingestCallbackEnvelope_ok ingested
  simp only [↓getIntent_bind_ok, ↓demand_bind_ok] at ran
  obtain ⟨intent, held, target, named, ran⟩ := ran
  obtain ⟨new, _, transitioned, ran⟩ := bind_ok.1 ran
  obtain ⟨old, id, state, moved, stays⟩ := transitionAttempt_ok transitioned
  obtain ⟨_, _, processed, finished⟩ := bind_ok.1 ran
  obtain ⟨⟨marked, rfl⟩, keptLater⟩ := markCallbackProcessed_ok processed
  obtain ⟨rfl, rfl⟩ := pure_ok.1 finished
  have attemptId : attempt.paymentAttemptId = request.paymentAttemptId := Table.key_of_find found
  have one : old = attempt := by
    have again : s.attempts.find old.paymentAttemptId = some old := moved.found
    rw [id, attemptId, found] at again
    exact (Option.some.inj again).symm
  subst one
  have keptAll : EventsKept { s with idempotency } _ := kept.trans (by
    intro other stored'
    exact keptLater other (by rw [stays]; exact stored'))
  obtain ⟨last, lastStored, lastEvent, _⟩ := keptLater envelope (by rw [stays]; exact mem)
  refine ⟨old, ⟨moved.congr rfl rfl rfl rfl, attemptId, provider,
    ⟨intent, held, by rw [state]; exact named⟩, keptAll, ⟨last, lastStored, ?_, ?_⟩, ?_⟩⟩
  · rw [lastEvent.1, same.1, code]
  · rw [lastEvent.2, same.2, event]
  · obtain fresh | repeated := origin
    · refine .inl fun other stored' clash => fresh other stored' ⟨?_, clash.2.trans event.symm⟩
      exact Subtype.ext (clash.1.trans code.symm)
    · exact .inr ⟨envelope, repeated, by rw [same.1, code], same.2.trans event, hash.trans payload⟩

variable {request : CloseIntentRequest}

theorem expireIntent_ok {result : PaymentIntent}
    (ran : expireIntent reads subject request s = .ok (result, t)) :
    ∃ old, IntentClosed old result .expired s t := by
  unfold expireIntent at ran
  simp only [↓requirePermission_bind_ok, ↓getIntent_bind_ok, ↓demand_bind_ok] at ran
  obtain ⟨_, _, intent, _, ran⟩ := ran
  obtain ⟨_, _, ran⟩ :=
    (requireIntentStatusRead_readOnly).bind_ok ran
  obtain ⟨old, _, closed⟩ := transitionIntent_ok ran
  exact ⟨old, closed⟩

theorem cancelIntent_ok {result : PaymentIntent}
    (ran : cancelIntent reads subject request s = .ok (result, t)) :
    ∃ old, old.paymentIntentId = request.paymentIntentId ∧ IntentClosed old result .cancelled s t ∧
      ∀ attempt ∈ s.attempts.rows, attempt.paymentIntentId = request.paymentIntentId →
        attempt.state ≠ .captured := by
  unfold cancelIntent at ran
  simp only [↓requirePermission_bind_ok, ↓getIntent_bind_ok, ↓demand_bind_ok] at ran
  obtain ⟨_, _, intent, found, ran⟩ := ran
  obtain ⟨_, _, ran⟩ :=
    (requireIntentStatusRead_readOnly).bind_ok ran
  simp only [↓listAttemptsForIntent_bind_ok, ↓require_bind_ok] at ran
  obtain ⟨none_captured, ran⟩ := ran
  obtain ⟨old, id, closed⟩ := transitionIntent_ok ran
  have intentId : intent.paymentIntentId = request.paymentIntentId := Table.key_of_find found
  refine ⟨old, id, closed, fun attempt mem same => ?_⟩
  exact none_captured attempt (mem_attemptsForIntent.2 ⟨mem, same.trans intentId.symm⟩)

theorem markReconciliationRequired_ok {request : ReconciliationRequest}
    (ran : markReconciliationRequired reads subject request s = .ok (result, t)) :
    ∃ old, AttemptMoved old result s t ∧ t.envelopes = s.envelopes ∧
      result.state = .outcomeUnknown := by
  unfold markReconciliationRequired at ran
  simp only [↓requirePermission_bind_ok] at ran
  obtain ⟨old, _, state, moved, envelopes⟩ := transitionAttempt_ok ran.2.2
  exact ⟨old, moved, envelopes, state⟩

end

/-- The creation call would write a row: neither its key nor its provider reference stands for an
attempt already. -/
def NewAttempt (store : PaymentStore) (subject : AuthorizationSubject)
    (request : CreateAttemptRequest) : Prop :=
  store.attempts.find (canonicalReference store.idempotency subject.identityId
      "payment.attempt.create" request.idempotencyKey request.candidateId) = none ∧
    ∀ other ∈ store.attempts.rows, ¬ (other.paymentIntentId = request.paymentIntentId ∧
      other.providerCode.1 = request.providerCode ∧
      other.providerReference.1 = request.providerReference)
deriving Decidable

inductive StepEffect (config : PaymentConfig) (s : PaymentStore) (call : PaymentCall)
    (t : PaymentStore) : Prop where
  | idle (intents : t.intents = s.intents) (attempts : t.attempts = s.attempts)
      (envelopes : t.envelopes = s.envelopes)
  | intentCreated (intent : PaymentIntent) (created : intent.state = .created)
      (intents : t.intents.rows = s.intents.rows ++ [intent])
      (attempts : t.attempts = s.attempts) (envelopes : t.envelopes = s.envelopes)
  | attemptCreated (request : CreateAttemptRequest) (attempt : PaymentAttempt)
      (intent : PaymentIntent) (command : call.command = .createPaymentAttempt request)
      (new : NewAttempt s call.subject request)
      (id : attempt.paymentIntentId = request.paymentIntentId)
      (created : AttemptCreated attempt intent s t)
  | attemptMoved (current changed : PaymentAttempt)
      (moved : AttemptMoved current changed s t)
      (envelopes : t.envelopes = s.envelopes)
      (target : changed.state = .outcomeUnknown ∨ changed.state = .authorizationPending)
      (internal : ∀ request, call.command ≠ .ingestAuthenticatedCallbackEnvelope request)
  | callbackActed (request : CallbackRequest) (current changed : PaymentAttempt)
      (command : call.command = .ingestAuthenticatedCallbackEnvelope request)
      (acted : CallbackActed config request current changed s t)
  | intentExpired (current changed : PaymentIntent)
      (closed : IntentClosed current changed .expired s t)
  | intentCancelled (request : CloseIntentRequest) (current changed : PaymentIntent)
      (command : call.command = .cancelIntent request)
      (id : current.paymentIntentId = request.paymentIntentId)
      (closed : IntentClosed current changed .cancelled s t)
      (uncaptured : ∀ attempt ∈ s.attempts.rows,
        attempt.paymentIntentId = request.paymentIntentId → attempt.state ≠ .captured)

private theorem newAttempt_of_created {reads : PaymentReads} {subject : AuthorizationSubject}
    {request : CreateAttemptRequest} {result : PaymentAttempt}
    (ran : createPaymentAttempt config reads subject request s = .ok (result, t)) :
    (t.intents = s.intents ∧ t.attempts = s.attempts ∧ t.envelopes = s.envelopes) ∨
      ∃ attempt intent, AttemptCreated attempt intent s t ∧
        attempt.paymentIntentId = request.paymentIntentId ∧ NewAttempt s subject request := by
  obtain same | ⟨attempt, intent, created, id, intentId, code, reference⟩ :=
    createPaymentAttempt_ok ran
  · exact .inl same
  · refine .inr ⟨attempt, intent, created, intentId, ?_, ?_⟩
    · rw [← id]
      exact Table.find_eq_none_of_rows_append created.attempts
    · intro other mem same
      exact created.referenceFree other mem ⟨same.1.trans intentId.symm,
        Subtype.ext (same.2.1.trans code.symm), Subtype.ext (same.2.2.trans reference.symm)⟩

theorem StepEffect.of_success {α : Type}
    {body : PaymentTransaction α} (ran : ∀ a t, body s = .ok (a, t) → StepEffect config s call t) :
    StepEffect config s call (commit body s) :=
  commit_related (R := fun s => StepEffect config s call) body s (.idle rfl rfl rfl) ran

theorem step_effect (config : PaymentConfig) (store : PaymentStore) (call : PaymentCall) :
    StepEffect config store call (step config store call) := by
  obtain ⟨reads, subject, command⟩ := call
  cases command with
  | createPaymentIntent =>
    refine .of_success fun result t ran => ?_
    obtain ⟨attempts, envelopes, intents | ⟨intent, created, intents⟩⟩ :=
      createPaymentIntent_ok ran
    · exact .idle intents attempts envelopes
    · exact .intentCreated intent created intents attempts envelopes
  | createPaymentAttempt request =>
    refine .of_success fun result t ran => ?_
    obtain ⟨intents, attempts, envelopes⟩ | ⟨attempt, intent, created, id, new⟩ :=
      newAttempt_of_created ran
    · exact .idle intents attempts envelopes
    · exact .attemptCreated request attempt intent rfl new id created
  | submitProviderNeutralAttempt =>
    refine .of_success fun result t ran => ?_
    obtain ⟨old, moved, envelopes, target⟩ := submitProviderNeutralAttempt_ok ran
    exact .attemptMoved old result moved envelopes target fun _ other => by cases other
  | ingestAuthenticatedCallbackEnvelope request =>
    refine .of_success fun result t ran => ?_
    obtain ⟨old, acted⟩ := ingestAuthenticatedCallbackEnvelope_ok ran
    exact .callbackActed request old result rfl acted
  | expireIntent =>
    refine .of_success fun result t ran => ?_
    obtain ⟨old, closed⟩ := expireIntent_ok ran
    exact .intentExpired old result closed
  | cancelIntent request =>
    refine .of_success fun result t ran => ?_
    obtain ⟨old, id, closed, uncaptured⟩ := cancelIntent_ok ran
    exact .intentCancelled request old result rfl id closed uncaptured
  | markReconciliationRequired =>
    refine .of_success fun result t ran => ?_
    obtain ⟨old, moved, envelopes, target⟩ := markReconciliationRequired_ok ran
    exact .attemptMoved old result moved envelopes (.inl target) fun _ other => by cases other

theorem step_attempt_origin (config : PaymentConfig) (store : PaymentStore) (call : PaymentCall)
    (mem : attempt ∈ (step config store call).attempts.rows) :
    (∃ old ∈ store.attempts.rows, old.paymentAttemptId = attempt.paymentAttemptId ∧
        old.amountMinor = attempt.amountMinor) ∨
      store.attempts.find attempt.paymentAttemptId = none := by
  have moved_origin : ∀ {current new : PaymentAttempt} {t : PaymentStore},
      AttemptMoved current new store t → attempt ∈ t.attempts.rows →
        ∃ old ∈ store.attempts.rows, old.paymentAttemptId = attempt.paymentAttemptId ∧
          old.amountMinor = attempt.amountMinor := by
    intro current new t moved mem
    rw [moved.attempts] at mem
    obtain ⟨rfl, _⟩ | ⟨mem, _⟩ := Table.mem_replaced.1 mem
    · exact ⟨current, Table.mem_of_find moved.found, moved.id.symm, moved.amountMinor.symm⟩
    · exact ⟨attempt, mem, rfl, rfl⟩
  cases step_effect config store call with
  | idle _ attempts => exact .inl ⟨attempt, by rwa [attempts] at mem, rfl, rfl⟩
  | intentCreated _ _ _ attempts => exact .inl ⟨attempt, by rwa [attempts] at mem, rfl, rfl⟩
  | attemptCreated _ created _ _ _ _ creation =>
    rcases (mem_appended creation.attempts).1 mem with old | rfl
    · exact .inl ⟨attempt, old, rfl, rfl⟩
    · exact .inr (Table.find_eq_none_of_rows_append creation.attempts)
  | attemptMoved _ _ moved => exact .inl (moved_origin moved mem)
  | callbackActed _ _ _ _ acted => exact .inl (moved_origin acted.moved mem)
  | intentExpired _ _ closed
  | intentCancelled _ _ _ _ _ closed =>
    exact .inl ⟨attempt, by rwa [closed.attempts] at mem, rfl, rfl⟩

/-- One change of an attempt: along its graph, for the same intent, provider and amount. -/
structure AttemptStep (current changed : PaymentAttempt) : Prop where
  intentId : changed.paymentIntentId = current.paymentIntentId
  providerCode : changed.providerCode = current.providerCode
  amountMinor : changed.amountMinor = current.amountMinor
  follows : Follows allowedAttemptTransitions current.state changed.state

structure IntentStep (current changed : PaymentIntent) : Prop where
  method : changed.paymentMethodFamily = current.paymentMethodFamily
  traceability : changed.traceability = current.traceability
  follows : Follows allowedIntentTransitions current.state changed.state

theorem step_attempts_evolve (config : PaymentConfig) (store : PaymentStore) (call : PaymentCall) :
    Evolves AttemptStep store.attempts (step config store call).attempts := by
  have evolves : ∀ {old new : PaymentAttempt} {t : PaymentStore}, AttemptMoved old new store t →
      Evolves AttemptStep store.attempts t.attempts := fun moved =>
    .of_replaced moved.attempts (Table.mem_of_find moved.found) moved.id
      (.single ⟨moved.intentId, moved.providerCode, moved.amountMinor, moved.follows⟩)
  cases step_effect config store call with
  | idle _ attempts => exact .of_eq attempts
  | intentCreated _ _ _ attempts => exact .of_eq attempts
  | attemptCreated _ _ _ _ _ _ creation => exact .of_append creation.attempts
  | attemptMoved _ _ moved => exact evolves moved
  | callbackActed _ _ _ _ acted => exact evolves acted.moved
  | intentExpired _ _ closed
  | intentCancelled _ _ _ _ _ closed => exact .of_eq closed.attempts

theorem step_intents_evolve (config : PaymentConfig) (store : PaymentStore) (call : PaymentCall) :
    Evolves IntentStep store.intents (step config store call).intents := by
  have evolves : ∀ {old new : PaymentIntent} {target : PaymentIntentState} {t : PaymentStore},
      IntentClosed old new target store t → Evolves IntentStep store.intents t.intents :=
    fun closed => .of_replaced closed.intents (Table.mem_of_find closed.found) closed.id
      (.single ⟨closed.method, closed.traceability, by rw [closed.state]; exact closed.follows⟩)
  cases step_effect config store call with
  | idle intents => exact .of_eq intents
  | intentCreated _ _ intents => exact .of_append intents
  | attemptCreated _ _ _ _ _ _ creation => exact .of_eq creation.intents
  | attemptMoved _ _ moved => exact .of_eq moved.intents
  | callbackActed _ _ _ _ acted => exact .of_eq acted.moved.intents
  | intentExpired _ _ closed
  | intentCancelled _ _ _ _ _ closed => exact evolves closed

theorem step_attempt_survives (config : PaymentConfig) (store : PaymentStore) (call : PaymentCall)
    (mem : attempt ∈ store.attempts.rows) :
    ∃ kept ∈ (step config store call).attempts.rows,
      kept.paymentAttemptId = attempt.paymentAttemptId := by
  obtain ⟨kept, found, _⟩ := step_attempts_evolve config store call _ _ (Table.find_of_mem mem)
  exact ⟨kept, Table.mem_of_find found, Table.key_of_find found⟩

theorem step_captured_survives (found : store.attempts.find id = some attempt)
    (captured : attempt.state = .captured) :
    ∃ kept, (step config store call).attempts.find id = some kept ∧ kept.state = .captured ∧
      kept.paymentIntentId = attempt.paymentIntentId ∧ kept.amountMinor = attempt.amountMinor := by
  refine (step_attempts_evolve config store call).find ?_ found ⟨captured, rfl, rfl⟩
  rintro old new moved ⟨state, intent, amount⟩
  have follows := moved.follows
  rw [state] at follows
  exact ⟨by simpa [Follows, allowedAttemptTransitions] using follows, moved.intentId.trans intent,
    moved.amountMinor.trans amount⟩

theorem step_intent_survives {intent : PaymentIntent} (found : store.intents.find id = some intent) :
    ∃ kept, (step config store call).intents.find id = some kept ∧
      kept.traceability = intent.traceability :=
  (step_intents_evolve config store call).find (fun moved same => moved.traceability.trans same)
    found rfl

end Ayo.Payment.Effects
