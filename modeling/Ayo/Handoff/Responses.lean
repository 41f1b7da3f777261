/- digest: Stored responses refer to the offers that they were about, along every run. -/

import Ayo.Handoff.Effects

namespace Ayo.Handoff.Responses

open Kernel.UnitOfWork Kernel.Related Kernel.Run Core.Values Effects Models Repository Service
  Handoff.System

def StaysKept (hash : Payload → Digest) (before after : HandoffStore) : Prop :=
  ResponsesKept hash before → ResponsesKept hash after

instance (hash : Payload → Digest) : IsPreorder HandoffStore (StaysKept hash) where
  refl _ := id
  trans _ _ _ first second := second ∘ first

theorem staysKept_of_keeps {α : Type} {hash : Payload → Digest} {body : HandoffTransaction α}
    (keeps : Keeps HandoffStore.reservations body) : Relates (StaysKept hash) body := by
  intro s answer t ran kept
  unfold ResponsesKept at kept ⊢
  rw [keeps s answer t ran]
  exact kept

variable {handoff : DispatchHandoff} {time : Instant} {response : OfferResponse} {offerId : Uuid}

theorem event_keepsReservations {eventType : String} :
    Keeps HandoffStore.reservations (event handoff eventType time) := by
  intro s a t ran
  obtain ⟨events, _, rfl⟩ := event_ok.1 ran
  rfl

theorem updateHandoffs_keepsReservations (condition : DispatchHandoff → Prop)
    [DecidablePred condition] (change : DispatchHandoff → DispatchHandoff) :
    Keeps HandoffStore.reservations (updateHandoffs condition change) := by
  intro s a t ran
  unfold updateHandoffs at ran
  simp only [steps_ok] at ran
  obtain ⟨_, _, rfl⟩ := ran
  rfl

theorem updateOffers_keepsReservations (condition : HandoffOffer → Prop)
    [DecidablePred condition] (change : HandoffOffer → HandoffOffer) :
    Keeps HandoffStore.reservations (updateOffers condition change) := by
  intro s a t ran
  unfold updateOffers at ran
  simp only [steps_ok] at ran
  obtain ⟨_, _, rfl⟩ := ran
  rfl

theorem createHandoff_keepsReservations :
    Keeps HandoffStore.reservations (createHandoff handoff) := by
  intro s a t ran
  unfold createHandoff at ran
  simp only [steps_ok, whenSome_ok, event_bind_ok] at ran
  obtain ⟨_, _, _, rfl⟩ | ⟨_, _, _, _, _, _, _, _, rfl⟩ := ran
  · rfl
  · rfl

theorem createOffer_keepsReservations {offer : HandoffOffer} :
    Keeps HandoffStore.reservations (createOffer handoff offer) := by
  intro s a t ran
  unfold createOffer at ran
  simp only [steps_ok, updateHandoffs_bind_ok, event_bind_ok] at ran
  obtain ⟨_, _, _, _, _, _, _, _, _, _, _, _, _, rfl⟩ := ran
  rfl

theorem assignOffer_keepsReservations {vehicleId : Uuid} :
    Keeps HandoffStore.reservations (assignOffer response handoff vehicleId) := by
  intro s a t ran
  unfold assignOffer at ran
  simp only [steps_ok, updateHandoffs_bind_ok, event_bind_ok] at ran
  obtain ⟨_, _, _, _, _, _, _, _, _, _, _, _, _, rfl⟩ := ran
  rfl

theorem rejectOffer_keepsReservations :
    Keeps HandoffStore.reservations (rejectOffer response handoff) :=
  .bind (updateHandoffs_keepsReservations _ _) fun _ =>
    .bind event_keepsReservations fun _ => .pure

theorem resolveOpenOffer_keepsReservations {outcome : HandoffOfferState} :
    Keeps HandoffStore.reservations (resolveOpenOffer offerId outcome time) := by
  refine .bind .require fun _ => .bind .get fun store => .bind .demand fun offer => ?_
  refine .bind .demand fun handoff => .bind .require fun _ => ?_
  refine .bind .require fun _ => .bind .require fun _ => ?_
  exact .bind (updateOffers_keepsReservations _ _) fun _ =>
    .bind (updateHandoffs_keepsReservations _ _) fun _ => event_keepsReservations

theorem revokeDriverOffer_keepsReservations {driverId : Uuid} :
    Keeps HandoffStore.reservations (revokeDriverOffer driverId time) := by
  refine .bind .get fun store => .whenSome (fun offer => ?_) .pure
  exact .bind resolveOpenOffer_keepsReservations fun _ => .pure

theorem cancelBeforeAssignment_keepsReservations {rideRequestId : Uuid} :
    Keeps HandoffStore.reservations (cancelBeforeAssignment rideRequestId time) := by
  refine .bind .get fun store => .whenSome (fun handoff => ?_) .pure
  refine .bind .require fun _ => .ite .pure ?_
  exact .bind (updateOffers_keepsReservations _ _) fun _ =>
    .bind (updateHandoffs_keepsReservations _ _) fun _ =>
    .bind event_keepsReservations fun _ => .pure

theorem closeHandoffs_keepsReservations {handoffs : List DispatchHandoff} :
    Keeps HandoffStore.reservations (closeHandoffs time handoffs) := by
  induction handoffs with
  | nil => exact .pure
  | cons handoff rest ih =>
    exact .bind (updateOffers_keepsReservations _ _) fun _ =>
      .bind (updateHandoffs_keepsReservations _ _) fun _ =>
      .bind event_keepsReservations fun _ => ih

theorem closeExpiredHandoffs_keepsReservations {limit : Nat} {locked : List Uuid} :
    Keeps HandoffStore.reservations (closeExpiredHandoffs time limit locked) :=
  .bind .get fun _ => .bind closeHandoffs_keepsReservations fun _ => .pure

theorem offerNext_keepsReservations {config : HandoffConfig} {sources : DispatchSources}
    {handoffId : Uuid} {observations : List EligibleDriverInput} : Keeps HandoffStore.reservations
      (offerNext config sources handoffId observations time offerId) := by
  refine .bind (.bind .get fun _ => .pure) fun found => .bind .demand fun handoff => ?_
  refine .bind .require fun _ => .bind event_keepsReservations fun _ => ?_
  split
  · exact .bind event_keepsReservations fun _ => .pure
  · split
    · exact .bind createOffer_keepsReservations fun _ => .pure
    · exact ReadOnly.throw.keeps

section

variable {hash : Payload → Digest} {config : HandoffConfig} {sources : DispatchSources}
  {actions : List HandoffAction} {P : HandoffStore → Prop}

theorem reserveIdempotency_staysKept {actorId : Uuid} {operation key : String} {payload : Payload}
    {reference : Uuid}
    (refers : operation = "offer_response" → ∃ accept expected,
      payload = responsePayload reference accept expected) :
    Relates (StaysKept hash)
      (reserveIdempotency hash actorId operation key payload reference time) := by
  intro s canonical t ran kept row held isResponse
  obtain ⟨reservations, rfl, ⟨_, _, rows⟩ | ⟨_, _, _, _, rfl⟩⟩ := reserveIdempotency_ok ran
  · rw [rows, List.mem_append, List.mem_singleton] at held
    rcases held with old | rfl
    · exact kept row old isResponse
    · obtain ⟨accept, expected, rfl⟩ := refers isResponse
      exact ⟨accept, expected, rfl⟩
  · exact kept row held isResponse

theorem receive_staysKept {command : ReceiveCommand}
    {pricing : Option PricingRow} {candidateId : Uuid} :
    Relates (StaysKept config.hash) (receive config sources command pricing time candidateId) := by
  refine .bind .require fun _ => .bind .demand fun row => ?_
  refine .bind (reserveIdempotency_staysKept fun isResponse => ?_) fun canonical => ?_
  · simp at isResponse
  refine staysKept_of_keeps (.bind (.bind .get fun _ => .pure) fun found => ?_)
  refine .whenSome (fun existing => .bind .require fun _ => .pure) ?_
  refine .bind .require fun _ => .bind .demand fun source => ?_
  split
  · exact .bind .demand fun _ => .bind .require fun _ =>
      createHandoff_keepsReservations
  · exact ReadOnly.throw.keeps

theorem repositoryRespond_staysKept :
    Relates (StaysKept hash) (Repository.respond hash response) := by
  refine .bind (reserveIdempotency_staysKept fun _ => ⟨_, _, rfl⟩) fun canonical => ?_
  refine staysKept_of_keeps (.bind .get fun store => .bind .demand fun offer => ?_)
  refine .bind .require fun _ => .bind .demand fun handoff => .ite ?_ (.ite .pure ?_)
  · exact .bind .demand fun _ => .pure
  · refine .bind .require fun _ => .bind .require fun _ => ?_
    exact .bind (updateOffers_keepsReservations _ _) fun _ =>
      .ite assignOffer_keepsReservations rejectOffer_keepsReservations

theorem respond_staysKept :
    Relates (StaysKept config.hash) (Service.respond config sources response) := by
  refine .ite ?_ repositoryRespond_staysKept
  refine .bind .get fun store => .demands fun offer => .demands fun _ => ?_
  exact .requires <| repositoryRespond_staysKept

theorem step_staysKept (store : HandoffStore) (action : HandoffAction) :
    StaysKept config.hash store (handoffStep config store action) := by
  cases action with
  | receive sources command pricing time candidateId =>
    exact (receive_staysKept).commit store
  | offerNext sources handoffId observations time offerId =>
    exact (staysKept_of_keeps offerNext_keepsReservations).commit store
  | respond sources response => exact (respond_staysKept).commit store
  | expireOffer offerId time | supersedeOffer offerId time =>
    exact (staysKept_of_keeps resolveOpenOffer_keepsReservations).commit store
  | revokeDriverOffer driverId time =>
    exact (staysKept_of_keeps revokeDriverOffer_keepsReservations).commit store
  | cancelBeforeAssignment rideRequestId time =>
    exact (staysKept_of_keeps
      cancelBeforeAssignment_keepsReservations).commit store
  | closeExpiredHandoffs time limit locked =>
    exact (staysKept_of_keeps
      closeExpiredHandoffs_keepsReservations).commit store

theorem run_responsesKept : ResponsesKept config.hash (run (handoffStep config) {} actions) :=
  run_invariant step_staysKept actions fun _ held => absurd held List.not_mem_nil

theorem run_effects_along {guard : HandoffStore → HandoffAction → Prop}
    (apart : OffersApart config.hash) (start : P {})
    (preserves : ∀ store t action, guard store action →
      HandoffEffect config store t action → P store → P t)
    (along : Along (handoffStep config) guard {} actions) :
    P (run (handoffStep config) {} actions) := by
  have steps : ∀ store action, guard store action → ResponsesKept config.hash store ∧ P store →
      ResponsesKept config.hash (handoffStep config store action) ∧
        P (handoffStep config store action) := by
    intro store action guarded ⟨kept, holds⟩
    exact ⟨step_staysKept store action kept,
      preserves store _ action guarded (step_effect apart kept action) holds⟩
  exact (run_invariant_along steps along ⟨fun row held => absurd held List.not_mem_nil, start⟩).2

theorem run_effects (apart : OffersApart config.hash) (start : P {})
    (preserves : ∀ store t action, HandoffEffect config store t action → P store → P t)
    (actions : List HandoffAction) : P (run (handoffStep config) {} actions) := by
  have along : Along (handoffStep config) (fun _ _ => True) {} actions :=
    along_of_taken fun _ _ _ => trivial
  exact run_effects_along apart start (fun store t action _ => preserves store t action) along

end

end Ayo.Handoff.Responses
