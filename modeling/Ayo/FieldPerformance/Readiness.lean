/- digest: When a field partner is shown and counted as ready. -/

import Ayo.Core.Authorization
import Ayo.Kernel.Ordering
import Ayo.Kernel.Run

namespace Ayo.FieldPerformance.Readiness

open Kernel.UnitOfWork Kernel.KeyedTable Kernel.Ordering Kernel.Run Core.Values Core.Authorization

inductive ReadinessRequirement where
  | trainingComplete
  | codeOfConductCurrent
  | verificationCurrent
  | assignmentReady
  | qualityStanding
deriving DecidableEq

def ReadinessRequirement.value : ReadinessRequirement → String
  | .trainingComplete => "training_complete"
  | .codeOfConductCurrent => "code_of_conduct_current"
  | .verificationCurrent => "verification_current"
  | .assignmentReady => "assignment_ready"
  | .qualityStanding => "quality_standing"

def mandatoryReadiness : List ReadinessRequirement :=
  [.trainingComplete, .codeOfConductCurrent, .verificationCurrent, .assignmentReady,
   .qualityStanding]

/-- A row of `field_readiness_assertions`, with the rule of `validity_window`. -/
structure ReadinessAssertion where
  (assertionId partnerId : Uuid)
  requirement : ReadinessRequirement
  satisfied : Bool
  sourceDomain : Code
  sourceEventId : Uuid
  evidenceReference : BoundedText 16 160
  effectiveAt : Instant
  expiresAt : Option Instant
  recordedByIdentityId : Uuid
  recordedAt : Instant
  window : ∀ ending ∈ expiresAt, effectiveAt < ending

def ReadinessAssertion.source (row : ReadinessAssertion) : Code × Uuid × ReadinessRequirement :=
  (row.sourceDomain, row.sourceEventId, row.requirement)

instance : Row ReadinessAssertion Uuid :=
  .keyedUnique ReadinessAssertion.assertionId ReadinessAssertion.source

structure PerformanceStore where
  assertions : Table ReadinessAssertion := .empty
  idempotency : Table Reservation := .empty

abbrev PerformanceTransaction (α : Type) := Transaction PerformanceStore Failure α

structure RecordReadiness where
  partnerId : Uuid
  requirement : ReadinessRequirement
  satisfied : Bool
  sourceDomain : String
  sourceEventId : Uuid
  evidenceReference : String
  effectiveAt : DateTime
  expiresAt : Option DateTime

structure Call where
  subject : AuthorizationSubject
  idempotencyKey : String
  time : DateTime
  grants : Grants
  partners : Uuid → Bool
  candidate : Uuid

def assertion? (call : Call) (command : RecordReadiness) (assertionId : Uuid) :
    Option ReadinessAssertion := do
  let sourceDomain ← code? command.sourceDomain
  let evidenceReference ← boundedText? 16 160 command.evidenceReference
  let expiresAt := command.expiresAt.map DateTime.instant
  if valid : (command.effectiveAt.aware = true ∧
        ∀ ending ∈ command.expiresAt, ending.aware = true) ∧
      ∀ ending ∈ expiresAt, command.effectiveAt.instant < ending then
    some { assertionId, partnerId := command.partnerId, requirement := command.requirement
           satisfied := command.satisfied, sourceDomain, sourceEventId := command.sourceEventId
           evidenceReference, effectiveAt := command.effectiveAt.instant, expiresAt
           recordedByIdentityId := call.subject.identityId, recordedAt := call.time.instant
           window := valid.2 }
  else none

def recordReadiness (hash : Payload → Digest) (call : Call) (command : RecordReadiness) :
    PerformanceTransaction ReadinessAssertion := do
  requirePermission call.grants call.subject "field_performance.readiness.record" call.time
  validateIdempotencyKey call.idempotencyKey
  let assertionId ← within PerformanceStore.idempotency
    (fun idempotency store => { store with idempotency })
    (Core.Authorization.reserveIdempotency hash call.subject.identityId "readiness.record"
      call.idempotencyKey
      [("partner_id", .uuid command.partnerId), ("requirement", .text command.requirement.value),
       ("satisfied", .text (toString command.satisfied)),
       ("source_domain", .text command.sourceDomain),
       ("source_event_id", .uuid command.sourceEventId),
       ("evidence_reference", .text command.evidenceReference),
       ("effective_at", .time command.effectiveAt),
       ("expires_at", command.expiresAt.elim .null .time)] call.candidate call.time)
  let store ← get
  whenSome (store.assertions.find assertionId) (fun existing => pure existing) do
    require (call.partners command.partnerId = true) (.conflict "performance_partner_not_found")
    let value ← demand (assertion? call command assertionId) (.field "readiness_assertion")
    let assertions ← demand (store.assertions.insert? value)
      (.integrity "field_readiness_assertions")
    put { store with assertions }
    pure value

def readinessStep (hash : Payload → Digest) (store : PerformanceStore)
    (input : Call × RecordReadiness) : PerformanceStore :=
  commit (recordReadiness hash input.1 input.2) store

def latest (assertions : List ReadinessAssertion) (requirement : ReadinessRequirement) :
    Option ReadinessAssertion :=
  (orderedBy ReadinessAssertion.recordedAt
    (assertions.filter fun row => row.requirement = requirement)).getLast?

structure ReadinessView where
  partnerId : Uuid
  ready : Bool
  (satisfied missing expired : List ReadinessRequirement)

def Expired (time : Instant) (row : ReadinessAssertion) : Prop :=
  ∃ ending ∈ row.expiresAt, ending ≤ time
deriving Decidable

def readiness (partnerId : Uuid) (assertions : List ReadinessAssertion) (time : Instant) :
    ReadinessView :=
  let current (requirement : ReadinessRequirement) :=
    (latest assertions requirement).filter ReadinessAssertion.satisfied
  let missing := mandatoryReadiness.filter fun requirement => current requirement = none
  let expired := mandatoryReadiness.filter fun requirement =>
    ∃ row ∈ current requirement, Expired time row
  { partnerId
    ready := missing.isEmpty && expired.isEmpty
    satisfied := mandatoryReadiness.filter fun requirement =>
      ∃ row ∈ current requirement, ¬ Expired time row
    missing, expired }

def ofPartner (store : PerformanceStore) (partnerId : Uuid) : List ReadinessAssertion :=
  store.assertions.rows.filter fun row => row.partnerId = partnerId

/-- The newest rows up to a limit are among the rows, and none that is left out is later. -/
structure Newest (rows : List ReadinessAssertion) (limit : Nat)
    (newest : List ReadinessAssertion) : Prop where
  ordered : newest.Pairwise fun row other => other.recordedAt ≤ row.recordedAt
  limited : newest.length = min limit rows.length
  chosen : ∃ others, rows.Perm (newest ++ others) ∧
    ∀ row ∈ newest, ∀ other ∈ others, other.recordedAt ≤ row.recordedAt

/-- What the query of the newest rows reads. Among equal times it leaves the choice to the
database. -/
structure NewestReading where
  pick : List ReadinessAssertion → Nat → List ReadinessAssertion
  picks : ∀ rows limit, Newest rows limit (pick rows limit)

section

variable (reading : NewestReading) (store : PerformanceStore)

/-- `readiness_assertions`: the newest of a partner. -/
def readinessAssertions (partnerId : Uuid) (limit : Nat) : List ReadinessAssertion :=
  reading.pick (ofPartner store partnerId) limit

def ownReadiness (partnerId : Uuid) (time : Instant) : ReadinessView :=
  readiness partnerId (readinessAssertions reading store partnerId 100) time

def readyCount (partnerIds : List Uuid) (time : Instant) : Nat :=
  (partnerIds.map fun partnerId =>
    (readiness partnerId (readinessAssertions reading store partnerId 100) time).ready.toNat).sum

end

variable (assertions : List ReadinessAssertion)

def MostRecent (requirement : ReadinessRequirement) (row : ReadinessAssertion) : Prop :=
  (row ∈ assertions ∧ row.requirement = requirement) ∧ ∀ other ∈ assertions,
    other.requirement = requirement → other.recordedAt ≤ row.recordedAt

/-- Each mandatory requirement has a most recent assertion that passes a test. -/
def AllMeet (store : PerformanceStore) (partnerId : Uuid) (test : ReadinessAssertion → Prop) :
    Prop :=
  ∀ requirement ∈ mandatoryReadiness, ∃ row,
    MostRecent (ofPartner store partnerId) requirement row ∧ test row

def InForce (time : Instant) (row : ReadinessAssertion) : Prop :=
  (row.satisfied = true ∧ ¬ Expired time row) ∧ row.effectiveAt ≤ time

/-- A partner is shown and counted as ready exactly with every requirement in force. -/
def FairlyShown (reading : NewestReading) (store : PerformanceStore) (partnerId : Uuid)
    (time : Instant) : Prop :=
  ((ownReadiness reading store partnerId time).ready = true ↔
      AllMeet store partnerId (InForce time)) ∧
    (readyCount reading store [partnerId] time = 1 ↔ AllMeet store partnerId (InForce time))

/-- No two assertions of one requirement were recorded at one time. -/
def TimesApart : Prop :=
  assertions.Pairwise fun row other =>
    row.requirement = other.requirement → row.recordedAt ≠ other.recordedAt
deriving Decidable

variable {assertions : List ReadinessAssertion} {requirement : ReadinessRequirement}
  {row other : ReadinessAssertion} {time : Instant} {partnerId : Uuid} {store : PerformanceStore}
  {reading : NewestReading}

theorem TimesApart.eq_of_same (apart : TimesApart assertions) (held : row ∈ assertions)
    (listed : other ∈ assertions) (alike : row.requirement = other.requirement)
    (same : row.recordedAt = other.recordedAt) : row = other := by
  by_contra different
  have symm : Std.Symm fun row other : ReadinessAssertion =>
      row.requirement = other.requirement → row.recordedAt ≠ other.recordedAt :=
    ⟨fun _ _ apart alike same => apart alike.symm same.symm⟩
  exact List.Pairwise.forall apart held listed different alike same

theorem TimesApart.newest (apart : TimesApart (ofPartner store partnerId)) (limit : Nat) :
    TimesApart (readinessAssertions reading store partnerId limit) := by
  obtain ⟨others, same, _⟩ := (reading.picks (ofPartner store partnerId) limit).chosen
  have both := (same.pairwise_iff fun apart alike same => apart alike.symm same.symm).1 apart
  exact (List.pairwise_append.1 both).1

theorem MostRecent.unique (apart : TimesApart assertions)
    (first : MostRecent assertions requirement row)
    (second : MostRecent assertions requirement other) : row = other :=
  apart.eq_of_same first.1.1 second.1.1 (first.1.2.trans second.1.2.symm)
    (le_antisymm (second.2 row first.1.1 first.1.2) (first.2 other second.1.1 second.1.2))

theorem latest_eq_some (apart : TimesApart assertions) :
    latest assertions requirement = some row ↔ MostRecent assertions requirement row := by
  constructor
  · intro last
    obtain ⟨mem, greatest⟩ := le_of_getLast?_orderedBy last
    simp only [List.mem_filter, decide_eq_true_eq] at mem greatest
    exact ⟨mem, fun other held same => greatest other ⟨held, same⟩⟩
  · intro recent
    refine getLast?_orderedBy_of_greatest ?_ ?_ ?_
    · simpa using recent.1
    · simpa using recent.2
    · intro other mem same
      obtain ⟨held, alike⟩ := List.mem_filter.1 mem
      exact apart.eq_of_same held recent.1.1 ((of_decide_eq_true alike).trans recent.1.2.symm) same

theorem ready_iff (apart : TimesApart assertions) :
    (readiness partnerId assertions time).ready = true ↔ ∀ requirement ∈ mandatoryReadiness,
      ∃ row, MostRecent assertions requirement row ∧ row.satisfied = true ∧ ¬ Expired time row := by
  simp only [readiness, Bool.and_eq_true, List.isEmpty_iff, List.filter_eq_nil_iff,
    decide_eq_true_eq, ← forall₂_and]
  refine forall₂_congr fun requirement _ => ?_
  simp only [← latest_eq_some apart]
  cases last : latest assertions requirement with
  | none => simp
  | some row => cases satisfied : row.satisfied <;> simp [Option.filter, satisfied]

theorem mostRecent_newest_iff {limit : Nat} :
    MostRecent (readinessAssertions reading store partnerId limit) requirement row ↔
      MostRecent (ofPartner store partnerId) requirement row ∧
        row ∈ readinessAssertions reading store partnerId limit := by
  obtain ⟨others, same, older⟩ := (reading.picks (ofPartner store partnerId) limit).chosen
  have listed : ∀ {row}, row ∈ readinessAssertions reading store partnerId limit →
      row ∈ ofPartner store partnerId := fun mem => same.mem_iff.2 (List.mem_append_left _ mem)
  constructor
  · intro recent
    refine ⟨⟨⟨listed recent.1.1, recent.1.2⟩, fun other held alike => ?_⟩, recent.1.1⟩
    obtain newest | left := List.mem_append.1 (same.mem_iff.1 held)
    · exact recent.2 other newest alike
    · exact older row recent.1.1 other left
  · intro recent
    exact ⟨⟨recent.2, recent.1.1.2⟩, fun other mem => recent.1.2 other (listed mem)⟩

/-- Where the assertions of each requirement were recorded at different times, a partner is fairly
shown exactly if, with everything satisfied and unexpired, the latest assertions are all among the
newest hundred when they all have begun, and only then. -/
theorem fairly_shown_iff (reading : NewestReading)
    (apart : TimesApart (ofPartner store partnerId)) :
    FairlyShown reading store partnerId time ↔
      (AllMeet store partnerId (fun row => row.satisfied = true ∧ ¬ Expired time row) →
        (AllMeet store partnerId (· ∈ readinessAssertions reading store partnerId 100) ↔
          AllMeet store partnerId fun row => row.effectiveAt ≤ time)) := by
  have both : ∀ first second : ReadinessAssertion → Prop,
      AllMeet store partnerId (fun row => first row ∧ second row) ↔
        AllMeet store partnerId first ∧ AllMeet store partnerId second := by
    intro first second
    simp only [AllMeet, ← forall₂_and]
    refine forall₂_congr fun requirement _ => ⟨?_, ?_⟩
    · rintro ⟨row, recent, one, two⟩
      exact ⟨⟨row, recent, one⟩, row, recent, two⟩
    · rintro ⟨⟨row, recent, one⟩, other, same, two⟩
      exact ⟨row, recent, one, recent.unique apart same ▸ two⟩
  have shown : (ownReadiness reading store partnerId time).ready = true ↔
      AllMeet store partnerId (fun row => row.satisfied = true ∧ ¬ Expired time row) ∧
        AllMeet store partnerId (· ∈ readinessAssertions reading store partnerId 100) := by
    rw [← both, ownReadiness, ready_iff (apart.newest 100)]
    simp only [mostRecent_newest_iff, AllMeet, and_assoc, and_comm, and_left_comm]
  have counted : readyCount reading store [partnerId] time = 1 ↔
      (ownReadiness reading store partnerId time).ready = true := by
    simp [readyCount, ownReadiness]
  have inForce : AllMeet store partnerId (InForce time) ↔
      AllMeet store partnerId (fun row => row.satisfied = true ∧ ¬ Expired time row) ∧
        AllMeet store partnerId (fun row => row.effectiveAt ≤ time) := both _ _
  rw [FairlyShown, counted, and_self, shown, inForce, and_congr_right_iff]

/-- The reading that takes equal times in the order of the rows. -/
def inOrder : NewestReading where
  pick rows limit := (orderedBy (fun row => OrderDual.toDual row.recordedAt) rows).take limit
  picks rows limit := by
    have sorted := pairwise_orderedBy (fun row : ReadinessAssertion =>
      OrderDual.toDual row.recordedAt) rows
    have same : rows.Perm (orderedBy (fun row => OrderDual.toDual row.recordedAt) rows) :=
      (List.perm_insertionSort _ rows).symm
    rw [← List.take_append_drop limit (orderedBy _ _)] at sorted same
    obtain ⟨ordered, _, later⟩ := List.pairwise_append.1 sorted
    refine ⟨ordered, ?_, _, same, later⟩
    rw [List.length_take, orderedBy, List.length_insertionSort]

/-- Each requirement is asserted at time 0, with effect from 90. -/
def sampleRecords : List (Call × RecordReadiness) :=
  mandatoryReadiness.zipIdx.map fun numbered =>
    ({ subject := ⟨9, .staff⟩, idempotencyKey := "readiness-key-00" ++ toString numbered.2
       time := ⟨0, some 0⟩, grants := fun _ _ _ => true, partners := fun _ => true
       candidate := numbered.2 },
     { partnerId := 4, requirement := numbered.1, satisfied := true, sourceDomain := "training"
       sourceEventId := 7, evidenceReference := "certificate-00000001"
       effectiveAt := ⟨90, some 0⟩, expiresAt := none })

def sampleStore : PerformanceStore := run (readinessStep fun _ => 0) {} sampleRecords

theorem fairly_shown_sample : FairlyShown inOrder sampleStore 4 6 ↔
    (AllMeet sampleStore 4 (fun row => row.satisfied = true ∧ ¬ Expired 6 row) →
      (AllMeet sampleStore 4 (· ∈ readinessAssertions inOrder sampleStore 4 100) ↔
        AllMeet sampleStore 4 fun row => row.effectiveAt ≤ 6)) :=
  fairly_shown_iff inOrder (by decide +kernel)

/-- At time 6 partner 4 is shown as ready, before anything that was recorded takes effect. -/
theorem ready_before_effective :
    ¬ ∀ (hash : Payload → Digest) (calls : List (Call × RecordReadiness)) (partnerId : Uuid)
      (time : Instant), FairlyShown inOrder (run (readinessStep hash) {} calls) partnerId time := by
  intro law
  obtain ⟨shown, _⟩ := law (fun _ => 0) sampleRecords 4 6
  obtain ⟨row, recent, _, begun⟩ :=
    shown.1 (by decide +kernel) .trainingComplete List.mem_cons_self
  have later : ∀ row ∈ ofPartner sampleStore 4, ¬ row.effectiveAt ≤ 6 := by decide +kernel
  exact later row recent.1.1 begun

end Ayo.FieldPerformance.Readiness
