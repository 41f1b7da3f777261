/- digest: What pricing commands do to acceptances and calculations. -/

import Ayo.Pricing.Application

namespace Ayo.Pricing.Effects

open Kernel.UnitOfWork Kernel.KeyedTable Core.Values Core.Authorization Application Fares Records
  Repository Rides.Sources

structure FinalOf (store : PricingStore) (item : FareCalculation) : Prop where
  accepted : ∃ acceptance ∈ store.acceptances.rows,
    acceptance.acceptanceId = item.acceptanceId ∧ acceptance.estimateId = item.estimateId ∧
      item.estimateDifferenceMinor.1 =
        item.breakdown.riderTotalMinor.value - acceptance.acceptedAmountMinor.value
  original : item.predecessorCalculationId = none

structure CorrectionOf (prior item : FareCalculation) : Prop where
  follows : item.predecessorCalculationId = some prior.calculationId
  sameRide : item.rideId = prior.rideId
  sameEstimate : item.estimateId = prior.estimateId
  sameAcceptance : item.acceptanceId = prior.acceptanceId
  difference : item.estimateDifferenceMinor.1 = prior.estimateDifferenceMinor.1 +
    item.breakdown.riderTotalMinor.value - prior.breakdown.riderTotalMinor.value

def Quiet (s t : PricingStore) : Prop :=
  t.calculations = s.calculations ∧ t.acceptances = s.acceptances

/-- The lineage of a calculation names its ride. -/
def Traced (item : FareCalculation) : Prop :=
  item.financialTraceability.activeRideId = some item.rideId

def Adds (s t : PricingStore) (item : FareCalculation) : Prop :=
  t.calculations.rows = s.calculations.rows ++ [item] ∧ t.acceptances = s.acceptances ∧ Traced item

inductive PricingEffect (call : PricingCall) (s t : PricingStore) : Prop
  | quiet (quiet : Quiet s t)
  | accepted (acceptance : EstimateAcceptance)
      (calculations : t.calculations = s.calculations)
      (rows : t.acceptances.rows = s.acceptances.rows ++ [acceptance])
  | calculated (item : FareCalculation) (adds : Adds s t item)
      (final : FinalOf s item)
  | corrected (request : CorrectionRequest) (item prior : FareCalculation)
      (command : call.command = .correctCalculation request) (adds : Adds s t item)
      (dated : item.calculatedAt = request.time.instant)
      (identified : item.calculationId = canonicalReference s.idempotency
        call.subject.identityId "correct_calculation" request.idempotencyKey request.candidateId)
      (found : s.calculations.find request.predecessorCalculationId = some prior)
      (corrects : CorrectionOf prior item)

def fareRows (store : PricingStore) : Table FareCalculation × Table EstimateAcceptance :=
  (store.calculations, store.acceptances)

variable {s t : PricingStore} {correlationId : Uuid} {sources : RideSources}
  {item : FareCalculation} {policy : PricingPolicy} {config : PricingConfig}

theorem quiet_of_keeps {α : Type} {body : PricingTransaction α} (kept : Keeps fareRows body)
    {result : α} (ran : body s = .ok (result, t)) : Quiet s t :=
  Prod.mk.inj (kept s result t ran)

section

variable {α : Type} {store result : PricingStore} {a : α} {estimateId : Uuid}
  {f : Unit → PricingTransaction α}

theorem getPolicy_bind_ok {policyId : Uuid} {f : Option PricingPolicy → PricingTransaction α} :
    (getPolicy policyId >>= f) store = .ok (a, result) ↔
      f (store.policies.find policyId) store = .ok (a, result) := by
  simp only [getPolicy, bind_assoc, pure_bind, get_bind_ok]

theorem getEstimate_bind_ok {f : Option FareEstimate → PricingTransaction α} :
    (getEstimate estimateId >>= f) store = .ok (a, result) ↔
      f (store.estimates.find estimateId) store = .ok (a, result) := by
  simp only [getEstimate, bind_assoc, pure_bind, get_bind_ok]

theorem getAcceptanceForEstimate_bind_ok {f : Option EstimateAcceptance → PricingTransaction α} :
    (getAcceptanceForEstimate estimateId >>= f) store = .ok (a, result) ↔
      f (store.acceptances.rows.find? fun row => row.estimateId = estimateId) store =
        .ok (a, result) := by
  simp only [getAcceptanceForEstimate, bind_assoc, pure_bind, get_bind_ok]

theorem getCalculation_bind_ok {calculationId : Uuid}
    {f : Option FareCalculation → PricingTransaction α} :
    (getCalculation calculationId >>= f) store = .ok (a, result) ↔
      f (store.calculations.find calculationId) store = .ok (a, result) := by
  simp only [getCalculation, bind_assoc, pure_bind, get_bind_ok]

theorem fresh_bind_ok {config : PricingConfig} {metrics : RouteMetrics} {time : DateTime} :
    (fresh config metrics time >>= f) store = .ok (a, result) ↔ time.aware = true ∧
        ¬ (time.instant - metrics.observedAt < 0 ∨
          config.maximumMetricsAgeSeconds * 1000000 < time.instant - metrics.observedAt) ∧
        f () store = .ok (a, result) := by
  simp only [fresh, bind_assoc, require_bind_ok]

theorem policyOperator_bind_ok {subject : AuthorizationSubject} :
    (policyOperator subject >>= f) store = .ok (a, result) ↔
      (subject.identityType = .staff ∨ subject.identityType = .administrator) ∧
        f () store = .ok (a, result) := by
  simp only [policyOperator, require_bind_ok]

end

theorem recordEvent_keeps {aggregateType : String} {aggregateId : Uuid} {eventType : String}
    {occurredAt : Instant} {causationId : Uuid} :
    Keeps fareRows
      (recordEvent aggregateType aggregateId eventType occurredAt correlationId causationId) := by
  intro s _ t ran
  obtain ⟨_, _, ⟨rfl, rfl⟩, written⟩ := bind_ok.1 ran
  rw [← put_ok.1 written]
  rfl

theorem recordCalculation_keeps {item : FareCalculation} :
    Keeps fareRows (recordCalculation item correlationId) := by
  intro s _ t ran
  unfold recordCalculation at ran
  simp only [↓steps_ok] at ran
  obtain ⟨_, between, first, second⟩ := bind_ok.1 ran
  have firstKept : fareRows between =
      fareRows { s with components := s.components ++ componentRows item } :=
    Keeps.whenSome (fun _ => recordEvent_keeps) .pure _ _ _ first
  exact (recordEvent_keeps _ _ _ second).trans firstKept

theorem validateCalculationTraceability_readOnly
    {item : FareCalculation} : ReadOnly (validateCalculationTraceability sources item) := by
  refine .demands fun _ => .demands fun _ => .demands fun _ =>
    .demands fun _ => .bind (.bind .get fun _ => .pure) fun _ =>
    .demands fun _ => .requires <| .requires ?_
  refine .whenSome (fun _ => ?_) .require
  exact .bind (.bind .get fun _ => .pure) fun _ => .demands fun _ => .require

theorem traced_of_validated {u : Unit}
    (ran : validateCalculationTraceability sources item s = .ok (u, t)) : Traced item := by
  unfold validateCalculationTraceability at ran
  simp only [↓demand_bind_ok, ↓getEstimate_bind_ok, ↓require_bind_ok] at ran
  obtain ⟨_, _, _, _, _, _, _, _, _, _, _, ⟨_, _, _, named, _⟩, _⟩ := ran
  exact named

theorem addCalculation_ok {result : FareCalculation}
    (ran : addCalculation sources item correlationId s = .ok (result, t)) :
    result = item ∧ Adds s t item := by
  obtain ⟨_, validated, rest⟩ := (validateCalculationTraceability_readOnly).bind_ok ran
  simp only [↓steps_ok, Table.insert?_eq_some] at rest
  obtain ⟨calculations, rows, recorded⟩ := rest
  obtain ⟨_, written, rfl⟩ := bind_pure_ok.1 recorded
  obtain ⟨sameRows, sameAcceptances⟩ :=
    quiet_of_keeps recordCalculation_keeps written
  refine ⟨rfl, ?_, sameAcceptances, traced_of_validated validated⟩
  rw [sameRows]
  exact rows

theorem newCalculation_ok {request : FinalCalculationRequest}
    {canonical driverId dispatchHandoffId assignmentId : Uuid} {estimate : FareEstimate}
    {acceptance : EstimateAcceptance}
    (ran : newCalculation config request canonical estimate acceptance policy driverId
      dispatchHandoffId assignmentId s = .ok (item, t)) :
    t = s ∧ item.acceptanceId = acceptance.acceptanceId ∧
      item.estimateId = request.estimateId ∧ item.predecessorCalculationId = none ∧
      item.estimateDifferenceMinor.1 =
        item.breakdown.riderTotalMinor.value - acceptance.acceptedAmountMinor.value := by
  unfold newCalculation at ran
  simp only [↓attempt_bind_ok, ↓steps_ok] at ran
  obtain ⟨breakdown, _, _, _, _, _, difference, exact, rfl, rfl⟩ := ran
  exact ⟨rfl, rfl, rfl, rfl, refine?_eq_some.1 exact⟩

theorem newCorrection_ok {request : CorrectionRequest} {canonical : Uuid} {prior : FareCalculation}
    (ran : newCorrection config request canonical prior policy s = .ok (item, t)) :
    t = s ∧ CorrectionOf prior item ∧ item.calculationId = canonical ∧
      item.calculatedAt = request.time.instant := by
  unfold newCorrection at ran
  simp only [↓attempt_bind_ok, ↓steps_ok] at ran
  obtain ⟨breakdown, _, _, _, _, _, difference, exact, rfl, rfl⟩ := ran
  exact ⟨rfl, ⟨rfl, rfl, rfl, rfl, refine?_eq_some.1 exact⟩, rfl, rfl⟩

section

variable {config : PricingConfig} {sources : RideSources} {subject : AuthorizationSubject}
  {s t : PricingStore} {item : FareCalculation} {policyId : Uuid} {time : DateTime}
  {request : EstimateRequest}

theorem finalCalculation_ok {request : FinalCalculationRequest}
    (ran : finalCalculation config sources subject request s = .ok (item, t)) :
    Quiet s t ∨ (Adds s t item ∧ FinalOf s item) := by
  unfold finalCalculation at ran
  simp only [↓require_bind_ok, ↓validateIdempotencyKey_bind_ok, ↓fresh_bind_ok] at ran
  obtain ⟨_, _, _, _, rest⟩ := ran
  obtain ⟨idempotency, rest⟩ := reserving_ok rest
  simp only [↓getCalculation_bind_ok, whenSome_ok, pure_ok] at rest
  obtain ⟨_, _, _, rfl⟩ | ⟨_, rest⟩ := rest
  · exact .inl ⟨rfl, rfl⟩
  simp only [↓getEstimate_bind_ok, ↓getAcceptanceForEstimate_bind_ok, ↓getPolicy_bind_ok,
    ↓steps_ok] at rest
  obtain ⟨estimate, _, acceptance, found, _, _, _, _, _, _, _, _, _, policy, _, _, rest⟩ := rest
  obtain ⟨created, _, built, added⟩ := bind_ok.1 rest
  obtain ⟨rfl, sameAcceptance, sameEstimate, original, difference⟩ := newCalculation_ok built
  obtain ⟨rfl, adds⟩ := addCalculation_ok added
  have named : acceptance.estimateId = request.estimateId := by simpa using List.find?_some found
  exact .inr ⟨adds, ⟨acceptance, List.mem_of_find?_eq_some found, sameAcceptance.symm,
    named.trans sameEstimate.symm, difference⟩, original⟩

theorem correctCalculation_ok {request : CorrectionRequest}
    (ran : correctCalculation config sources subject request s = .ok (item, t)) :
    Quiet s t ∨ (Adds s t item ∧ item.calculatedAt = request.time.instant ∧
        item.calculationId = canonicalReference s.idempotency subject.identityId
          "correct_calculation" request.idempotencyKey request.candidateId ∧
        ∃ prior, s.calculations.find request.predecessorCalculationId = some prior ∧
          CorrectionOf prior item) := by
  unfold correctCalculation at ran
  simp only [↓policyOperator_bind_ok, ↓require_bind_ok, ↓validateIdempotencyKey_bind_ok,
    ↓fresh_bind_ok] at ran
  obtain ⟨_, _, _, _, _, rest⟩ := ran
  obtain ⟨idempotency, rest⟩ := reserving_ok rest
  simp only [↓getCalculation_bind_ok, whenSome_ok, pure_ok] at rest
  obtain ⟨_, _, _, rfl⟩ | ⟨_, rest⟩ := rest
  · exact .inl ⟨rfl, rfl⟩
  simp only [↓getPolicy_bind_ok, ↓steps_ok] at rest
  obtain ⟨prior, found, policy, _, _, rest⟩ := rest
  obtain ⟨created, _, built, added⟩ := bind_ok.1 rest
  obtain ⟨rfl, corrects, identified, dated⟩ := newCorrection_ok built
  obtain ⟨rfl, adds⟩ := addCalculation_ok added
  exact .inr ⟨adds, dated, identified, prior, found, corrects⟩

theorem accept_ok {request : AcceptRequest} {acceptance : EstimateAcceptance}
    (ran : accept config subject request s = .ok (acceptance, t)) :
    t.calculations = s.calculations ∧ (t.acceptances = s.acceptances ∨
        t.acceptances.rows = s.acceptances.rows ++ [acceptance]) := by
  unfold accept at ran
  simp only [↓require_bind_ok, ↓validateIdempotencyKey_bind_ok] at ran
  obtain ⟨_, _, rest⟩ := ran
  obtain ⟨idempotency, rest⟩ := reserving_ok rest
  simp only [↓getEstimate_bind_ok, ↓steps_ok, ↓getAcceptanceForEstimate_bind_ok,
    whenSome_ok] at rest
  obtain ⟨estimate, _, _, rest⟩ := rest
  obtain ⟨_, _, _, _, rfl⟩ | ⟨_, _, _, _, _, rest⟩ := rest
  · exact ⟨rfl, .inl rfl⟩
  unfold addAcceptance at rest
  simp only [↓steps_ok, Table.insert?_eq_some] at rest
  obtain ⟨acceptances, rows, recorded⟩ := rest
  obtain ⟨_, written, rfl⟩ := bind_pure_ok.1 recorded
  obtain ⟨sameRows, sameAcceptances⟩ :=
    quiet_of_keeps recordEvent_keeps written
  refine ⟨sameRows, .inr ?_⟩
  rw [sameAcceptances]
  exact rows

theorem addPolicy_keeps : Keeps fareRows (addPolicy policy) := by
  intro s _ t ran
  unfold addPolicy at ran
  simp only [↓steps_ok] at ran
  obtain ⟨_, _, _, _, _, rfl⟩ := ran
  rfl

theorem changePolicy_keeps {terms : PolicyTerms} : Keeps fareRows (changePolicy terms) := by
  intro s _ t ran
  unfold changePolicy at ran
  simp only [↓attempt_bind_ok, ↓steps_ok] at ran
  obtain ⟨_, _, _, _, _, rfl⟩ := ran
  rfl

theorem addEstimate_keeps {estimate : FareEstimate} : Keeps fareRows (addEstimate estimate) := by
  intro s _ t ran
  unfold addEstimate at ran
  simp only [↓steps_ok] at ran
  obtain ⟨_, _, _, _, recorded⟩ := ran
  obtain ⟨_, written, _⟩ := bind_pure_ok.1 recorded
  exact (recordEvent_keeps _ _ _ written).trans rfl

theorem reserveIdempotency_keeps (hash : Payload → Digest) (actorId : Uuid)
    (operation key : String) (payload : Payload) (responseReference : Uuid) (time : DateTime) :
    Keeps fareRows
      (reserveIdempotency hash actorId operation key payload responseReference time) := by
  refine .within ?_ _
  intro _ _
  rfl

theorem getPolicy_readOnly : ReadOnly (getPolicy policyId) :=
  .bind .get fun _ => .pure

theorem createPolicy_keeps : Keeps fareRows (createPolicy subject policy) :=
  .bind .require fun _ => .bind .require fun _ => addPolicy_keeps

theorem approve_keeps : Keeps fareRows (approve subject policyId time) := by
  refine .bind .require fun _ => ?_
  exact .bind (getPolicy_readOnly).keeps fun _ => .bind .demand fun _ =>
    .bind .require fun _ => .bind .require fun _ => changePolicy_keeps

theorem publish_keeps : Keeps fareRows (publish subject policyId time) := by
  refine .bind .require fun _ => ?_
  exact .bind (getPolicy_readOnly).keeps fun _ => .bind .demand fun _ =>
    .bind .require fun _ => .bind .require fun _ => changePolicy_keeps

theorem newEstimate_readOnly {canonical serviceZoneId : Uuid} :
    ReadOnly (newEstimate config subject request canonical serviceZoneId policy) :=
  .bind (.attempt _) fun _ => .bind (.attempt _) fun _ => .bind (.attempt _) fun _ => .demand

theorem estimate_keeps : Keeps fareRows (estimate config sources subject request) := by
  refine .bind .require fun _ => .bind .require fun _ =>
    .bind (.bind .require fun _ => .require) fun _ =>
    .bind (reserveIdempotency_keeps _ _ _ _ _ _ _) fun _ =>
      .bind (ReadOnly.bind .get fun _ => .pure).keeps
    fun _ => .whenSome (fun _ => .pure) ?_
  refine .bind (getPolicy_readOnly).keeps fun _ => .bind .demand fun _ =>
    .bind .demand fun _ => .bind .require fun _ => ?_
  refine .bind (.bind .demand fun _ => .bind .require fun _ => .pure) fun _ => ?_
  exact .bind (newEstimate_readOnly).keeps fun _ => addEstimate_keeps

end

theorem step_effect (config : PricingConfig) (store : PricingStore) (call : PricingCall) :
    PricingEffect call store (pricingStep config store call) := by
  obtain ⟨sources, subject, command⟩ := call
  cases command with
  | createPolicy policy =>
    exact .quiet (commit_related (R := Quiet) _ store ⟨rfl, rfl⟩ fun _ _ ran =>
      quiet_of_keeps createPolicy_keeps ran)
  | approvePolicy policyId time =>
    exact .quiet (commit_related (R := Quiet) _ store ⟨rfl, rfl⟩ fun _ _ ran =>
      quiet_of_keeps approve_keeps ran)
  | publishPolicy policyId time =>
    exact .quiet (commit_related (R := Quiet) _ store ⟨rfl, rfl⟩ fun _ _ ran =>
      quiet_of_keeps publish_keeps ran)
  | estimate request =>
    exact .quiet (commit_related (R := Quiet) _ store ⟨rfl, rfl⟩ fun _ _ ran =>
      quiet_of_keeps estimate_keeps ran)
  | accept =>
    refine commit_related _ store (.quiet ⟨rfl, rfl⟩) fun acceptance t ran => ?_
    obtain ⟨calculations, same | rows⟩ := accept_ok ran
    · exact .quiet ⟨calculations, same⟩
    · exact .accepted acceptance calculations rows
  | finalCalculation =>
    refine commit_related _ store (.quiet ⟨rfl, rfl⟩) fun item t ran => ?_
    obtain quiet | ⟨adds, final⟩ := finalCalculation_ok ran
    · exact .quiet quiet
    · exact .calculated item adds final
  | correctCalculation request =>
    refine commit_related _ store (.quiet ⟨rfl, rfl⟩) fun item t ran => ?_
    obtain quiet | ⟨adds, dated, identified, prior, found, corrects⟩ :=
      correctCalculation_ok ran
    · exact .quiet quiet
    · exact .corrected request item prior rfl adds dated identified found corrects

end Ayo.Pricing.Effects
