/- digest: Whoever dispatch takes for eligible would be found so again. -/

import Ayo.DriverTrust.Application
import Ayo.Handoff.EmptyRounds

namespace Ayo.DriverTrust.GoodStanding

open Kernel.UnitOfWork Kernel.KeyedTable Kernel.Run Core.Values Core.Authorization
open PersistenceKernel.Audit
open Handoff.Models
open Handoff.Repository (DispatchSources EligibilityCurrent HandoffConfig HandoffStore createOffer)
open Handoff.Effects (event_bind_ok updateHandoffs_bind_ok)
open Handoff.Service Handoff.EmptyRounds Models Engine Application
open Kernel.Evolution (Evolves Extends)

section

variable {config : TrustConfig} {s t : TrustStore} {time : DateTime}

/-- What a command does to the records, whatever it records of itself. -/
inductive TrustEffect (config : TrustConfig) (s t : TrustStore) (time : DateTime) :
    TrustCommand → Prop where
  | idle {command : TrustCommand} (same : t = s) :
      TrustEffect config s t time command
  | opened (onboarding : OnboardingCase) (cases : Table OnboardingCase)
      (rows : cases.rows = s.cases.rows ++ [onboarding])
      (same : t = { s with cases }) :
      TrustEffect config s t time (.openCase onboarding)
  | moved (target : OnboardingState) (onboarding changed : OnboardingCase)
      (stored : onboarding ∈ s.cases.rows) (leads : target ∈ transitions onboarding.state)
      (identified : changed.caseId = onboarding.caseId)
      (owned : changed.driverIdentityId = onboarding.driverIdentityId)
      (state : changed.state = target) (cases : Table OnboardingCase)
      (rows : cases.rows = s.cases.replaced changed)
      (same : t = { s with cases }) :
      TrustEffect config s t time (.move onboarding.caseId target)
  | submitted (item : DocumentEvidence) (evidence : Table DocumentEvidence)
      (known : (s.cases.find item.caseId).isSome = true ∧
        ∀ vehicleId ∈ item.vehicleId, (s.vehicles.find vehicleId).isSome = true)
      (rows : evidence.rows = s.evidence.rows ++ [item])
      (same : t = { s with evidence }) :
      TrustEffect config s t time (.submit item)
  | reviewed (status : EvidenceStatus) (reviewer : Uuid) (reasonCodes : List String)
      (item : DocumentEvidence) (stored : item ∈ s.evidence.rows)
      (pending : item.status = .submitted ∨ item.status = .underReview)
      (codes : ∀ code ∈ reasonCodes, isCode code = true) (evidence : Table DocumentEvidence)
      (rows : evidence.rows = s.evidence.replaced
        (item.withReview status reviewer reasonCodes time.instant))
      (same : t = { s with evidence }) :
      TrustEffect config s t time
        (.saveReview item.evidenceId status reviewer reasonCodes item.version)
  | registered (vehicle : Vehicle) (vehicles : Table Vehicle)
      (rows : vehicles.rows = s.vehicles.rows ++ [vehicle])
      (same : t = { s with vehicles }) :
      TrustEffect config s t time (.registerVehicle vehicle)
  | authorized (authorization : DriverVehicleAuthorization)
      (authorizations : Table DriverVehicleAuthorization)
      (rows : authorizations.rows = s.authorizations.rows ++ [authorization])
      (same : t = { s with authorizations }) :
      TrustEffect config s t time (.authorize authorization)
  | evaluated (driverIdentityId vehicleId decisionId auditReference : Uuid)
      (decisions : Table EligibilityDecision)
      (rows : decisions.rows = s.decisions.rows ++ [evaluateEligibility config.policy
        (inputsOf config s driverIdentityId vehicleId time.instant) decisionId
          auditReference])
      (same : t = { s with decisions }) :
      TrustEffect config s t time
        (.evaluate driverIdentityId vehicleId decisionId auditReference)

theorem moveCase_effect {caseId : Uuid} {target : OnboardingState}
    {answer : OnboardingState × OnboardingCase}
    (ran : moveCase caseId target time.instant s = .ok (answer, t)) :
    TrustEffect config s t time (.move caseId target) := by
  simp only [moveCase, ↓steps_ok, transitionCase, bind_assoc, pure_bind, saveCase,
    Option.filter_eq_some_iff, decide_eq_true_eq, Table.replace?_eq_some] at ran
  obtain ⟨onboarding, found, leads, row, ⟨again, _⟩, cases, rows, _, rfl⟩ := ran
  have identified : onboarding.caseId = caseId := Table.key_of_find found
  subst identified
  obtain rfl := Option.mem_unique found again
  exact .moved target onboarding
    (written onboarding { onboarding with
      state := target, updatedAt := time.instant, version := onboarding.version + 1 })
    (Table.mem_of_find found) leads rfl rfl rfl cases rows rfl

theorem saveReview_effect {evidenceId reviewer : Uuid} {status : EvidenceStatus} {expected : Int}
    {reasonCodes : List String} {answer : DocumentEvidence}
    (ran : saveReview evidenceId status reviewer reasonCodes time.instant expected s =
      .ok (answer, t)) :
    TrustEffect config s t time (.saveReview evidenceId status reviewer reasonCodes expected) := by
  simp only [saveReview, ↓steps_ok, Option.filter_eq_some_iff, decide_eq_true_eq,
    Table.replace?_eq_some] at ran
  obtain ⟨_, row, ⟨found, version, pending⟩, evidence, rows, codes, _, rfl⟩ := ran
  have identified : row.evidenceId = evidenceId := Table.key_of_find found
  subst identified
  subst version
  exact .reviewed status reviewer reasonCodes row (Table.mem_of_find found) pending codes evidence
    rows rfl

theorem appendAudit_unlisted {event : AuditEvent} {name : String} {value : SafeAuditValue}
    {u : Unit} (held : (name, value) ∈ event.safeMetadata) (unlisted : name ∉ safeMetadataFields) :
    appendAudit event s ≠ .ok (u, t) := by
  intro ran
  obtain ⟨_, _, recorded, _⟩ := bind_ok.1 ran
  obtain ⟨_, appended, _⟩ := within_ok.1 recorded
  exact unlisted ((validSafeMetadata_of_append appended).2 _ held).1

variable (grants : Grants) (subject : AuthorizationSubject) (auditId : Uuid)

/-- Every review of a transition fails, if not before then on its audit event. -/
theorem commit_reviewTransition (caseId : Uuid) (target : OnboardingState) (reasonCode : String) :
    commit (reviewTransition grants subject caseId target reasonCode time auditId) s = s := by
  obtain stays | ⟨_, ran⟩ := commit_cases
    (reviewTransition grants subject caseId target reasonCode time auditId) s
  · exact stays
  · obtain ⟨_, _, _, ran⟩ := bind_ok.1 ran
    obtain ⟨_, _, _, ran⟩ := bind_ok.1 ran
    obtain ⟨_, _, audits, _⟩ := bind_ok.1 ran
    exact absurd audits (appendAudit_unlisted List.mem_cons_self (by decide))

/-- Every review of a document fails, if not before then on its audit event. -/
theorem commit_reviewEvidence (evidenceId : Uuid) (outcome : EvidenceStatus) (expected : Int)
    (reasonCodes : List String) :
    commit (reviewEvidence grants subject evidenceId outcome expected reasonCodes time auditId) s =
      s := by
  obtain stays | ⟨_, ran⟩ := commit_cases
    (reviewEvidence grants subject evidenceId outcome expected reasonCodes time auditId) s
  · exact stays
  · obtain ⟨_, _, _, ran⟩ := bind_ok.1 ran
    obtain ⟨_, _, _, ran⟩ := bind_ok.1 ran
    obtain ⟨_, _, audits, _⟩ := bind_ok.1 ran
    exact absurd audits (appendAudit_unlisted List.mem_cons_self (by decide))

omit grants subject auditId in
theorem trustStore_effect (config : TrustConfig) (store : TrustStore) (input : TimedCommand) :
    TrustEffect config store (trustStore config store input) input.time input.command := by
  obtain ⟨time, command⟩ := input
  cases command with
  | openCase onboarding =>
    obtain stays | ⟨_, ran⟩ := commit_cases (createCase onboarding) store
    · exact .idle stays
    · simp only [createCase, ↓steps_ok, Table.insert?_eq_some] at ran
      obtain ⟨cases, rows, _, same⟩ := ran
      exact .opened onboarding cases rows same.symm
  | move caseId target =>
    obtain stays | ⟨_, ran⟩ := commit_cases (moveCase caseId target time.instant) store
    · exact .idle stays
    · exact moveCase_effect ran
  | transition grants subject caseId target reasonCode auditId =>
    exact .idle (commit_reviewTransition grants subject auditId caseId target reasonCode)
  | submit item =>
    obtain stays | ⟨_, ran⟩ := commit_cases (addEvidence item) store
    · exact .idle stays
    · simp only [addEvidence, ↓steps_ok, Table.insert?_eq_some] at ran
      obtain ⟨known, evidence, rows, _, same⟩ := ran
      exact .submitted item evidence known rows same.symm
  | saveReview evidenceId status reviewer reasonCodes expected =>
    obtain stays | ⟨_, ran⟩ := commit_cases
      (saveReview evidenceId status reviewer reasonCodes time.instant expected) store
    · exact .idle stays
    · exact saveReview_effect ran
  | review grants subject evidenceId outcome expected reasonCodes auditId =>
    exact .idle (commit_reviewEvidence grants subject auditId evidenceId outcome expected
      reasonCodes)
  | registerVehicle vehicle =>
    obtain stays | ⟨_, ran⟩ := commit_cases (addVehicle vehicle) store
    · exact .idle stays
    · simp only [addVehicle, ↓steps_ok, Table.insert?_eq_some] at ran
      obtain ⟨vehicles, rows, same⟩ := ran
      exact .registered vehicle vehicles rows same.symm
  | authorize authorization =>
    obtain stays | ⟨_, ran⟩ := commit_cases (addVehicleAuthorization authorization) store
    · exact .idle stays
    · simp only [addVehicleAuthorization, ↓steps_ok, Table.insert?_eq_some] at ran
      obtain ⟨_, authorizations, rows, same⟩ := ran
      exact .authorized authorization authorizations rows same.symm
  | evaluate driverIdentityId vehicleId decisionId auditReference =>
    obtain stays | ⟨_, ran⟩ := commit_cases (decideEligibility config driverIdentityId
      vehicleId time.instant decisionId auditReference) store
    · exact .idle stays
    · simp only [decideEligibility, appendEligibility, ↓steps_ok, Table.insert?_eq_some] at ran
      obtain ⟨decisions, rows, same⟩ := ran
      exact .evaluated driverIdentityId vehicleId decisionId auditReference decisions rows same.symm

end

section

variable {config : TrustConfig} {store : TrustStore} {driverId vehicleId : Uuid}
  {now first second : Instant}

def Latest (store : TrustStore) (row : EligibilityDecision) : Prop :=
  ∀ other ∈ store.decisions.rows, other.driverIdentityId = row.driverIdentityId →
    other.recomputedAt ≤ row.recomputedAt
deriving Decidable

def Stands (store : TrustStore) (now : Instant) (row : EligibilityDecision) : Prop :=
  Latest store row ∧ row.status = .eligible ∧ ∃ expiresAt ∈ row.expiresAt, now < expiresAt
deriving Decidable

def Standing (store : TrustStore) (driverIdentityId : Uuid) (now : Instant) : Prop :=
  ∃ row ∈ store.decisions.rows, row.driverIdentityId = driverIdentityId ∧ Stands store now row
deriving Decidable

/-- Dispatch reads the stored decisions, of which it takes one of the latest, the vehicles and the
authorizations. -/
structure ReadsTrust (sources : DispatchSources) (store : TrustStore) : Prop where
  decision : ∀ driverId, ∀ found ∈ sources.latestDecision driverId,
    ∃ row ∈ store.decisions.rows, row.driverIdentityId = driverId ∧ Latest store row ∧
      found = ⟨row.status.value, row.expiresAt, row.vehicleId⟩
  vehicle : ∀ vehicleId, sources.vehicleApproval vehicleId =
    (store.vehicles.find vehicleId).map fun vehicle => vehicle.approvalStatus.value
  authorization : ∀ driverId vehicleId, sources.authorizationExpiry driverId vehicleId =
    (authorizationOf store driverId vehicleId).map DriverVehicleAuthorization.expiresAt

theorem value_eq_eligible {status : EligibilityStatus} :
    status.value = "eligible" ↔ status = .eligible := by
  cases status <;> decide

theorem stands_of_current {sources : DispatchSources} (reads : ReadsTrust sources store)
    (old : EligibilityCurrent sources driverId vehicleId now) :
    ∃ row ∈ store.decisions.rows, row.driverIdentityId = driverId ∧ Stands store now row ∧
      row.vehicleId = some vehicleId := by
  obtain ⟨⟨found, decided, eligible, unexpired, own⟩, _, _⟩ := old
  obtain ⟨row, held, owned, latest, rfl⟩ := reads.decision driverId found decided
  exact ⟨row, held, owned, ⟨latest, value_eq_eligible.1 eligible, unexpired⟩, own⟩

structure Sound (config : TrustConfig) (store : TrustStore) (clock : Instant)
    (row : EligibilityDecision) : Prop where
  account : config.accountActive row.driverIdentityId = true
  unrestricted : config.unresolvedRestriction row.driverIdentityId = false
  onboarding : ∃ onboarding ∈ onboardingOf config store row.driverIdentityId,
    onboarding.state = .approved
  vehicle : ∀ vehicleId ∈ row.vehicleId,
    (∃ vehicle ∈ store.vehicles.find vehicleId, vehicle.approvalStatus = .approved) ∧
      ∃ authorization ∈ authorizationOf store row.driverIdentityId vehicleId,
        ∀ expiresAt ∈ row.expiresAt, expiresAt ≤ authorization.expiresAt
  evidence : ∀ type ∈ required config.policy,
    ∃ item ∈ listCurrentEvidence store row.driverIdentityId, item.status = .approved ∧
      item.evidenceType = type ∧
        ∀ expiresAt ∈ row.expiresAt, expiresAt ≤ endOfDay item.expiryDate
  apart : (listCurrentEvidence store row.driverIdentityId).Pairwise (Apart clock)

theorem dayOf_mono (le : first ≤ second) : dayOf first ≤ dayOf second :=
  Int.ediv_le_ediv (by decide) le

theorem apart_later (le : first ≤ second) {a b : DocumentEvidence}
    (apart : Apart first a b) : Apart second a b := fun one other =>
  apart ⟨one.1, (dayOf_mono le).trans one.2⟩ ⟨other.1, (dayOf_mono le).trans other.2⟩

theorem dayOf_le {day : Day} (within : now < endOfDay day) : dayOf now ≤ day := by
  unfold dayOf endOfDay dayLength at *
  have early : now < (day + 1) * 86400000000 := by
    calc now < day * 86400000000 + (86400000000 - 1) := within
      _ < day * 86400000000 + 1 * 86400000000 := Int.add_lt_add_left (by decide) _
      _ = (day + 1) * 86400000000 := (Int.add_mul day 1 86400000000).symm
  exact Int.lt_add_one_iff.1 (Int.ediv_lt_of_lt_mul (by decide) early)

theorem authorizationOf_eq_some {authorization : DriverVehicleAuthorization}
    (found : authorizationOf store driverId vehicleId = some authorization) :
    authorization ∈ store.authorizations.rows ∧ authorization.driverIdentityId = driverId ∧
      authorization.vehicleId = vehicleId ∧ authorization.status = .authorized := by
  have matched := List.find?_some found
  simp only [decide_eq_true_eq] at matched
  exact ⟨List.mem_of_find?_eq_some found, matched⟩

theorem Sound.meets {clock : Instant} {row : EligibilityDecision}
    (sound : Sound config store clock row) (le : clock ≤ now) (own : row.vehicleId = some vehicleId)
    (unexpired : ∃ expiresAt ∈ row.expiresAt, now < expiresAt) :
    Meets config.policy (inputsOf config store row.driverIdentityId vehicleId now) := by
  obtain ⟨expiresAt, expires, before⟩ := unexpired
  obtain ⟨⟨vehicle, found, approved⟩, authorization, holds, lasts⟩ := sound.vehicle vehicleId own
  obtain ⟨_, _, drives, isAuthorized⟩ := authorizationOf_eq_some holds
  have identified : vehicle.vehicleId = vehicleId := Table.key_of_find found
  refine ⟨sound.account, sound.onboarding, ⟨vehicle, found, approved⟩, ?_, ?_, ?_,
    sound.unrestricted⟩
  · refine ⟨authorization, holds, isAuthorized, ?_, vehicle, found, ?_⟩
    · exact lt_of_lt_of_le before (lasts expiresAt expires)
    · rw [drives, identified]
  · intro type asked
    obtain ⟨item, listed, isApproved, ofType, covers⟩ := sound.evidence type asked
    refine ⟨item, listed, ⟨isApproved, dayOf_le ?_⟩, ofType⟩
    exact lt_of_lt_of_le before (covers expiresAt expires)
  · exact sound.apart.imp fun apart => apart_later le apart

theorem sound_of_evaluated {decisionId auditReference : Uuid} {time : Instant}
    (eligible : (evaluateEligibility config.policy (inputsOf config store driverId vehicleId time)
      decisionId auditReference).status = .eligible) :
    Sound config store time (evaluateEligibility config.policy
      (inputsOf config store driverId vehicleId time) decisionId auditReference) := by
  have meets := meets_of_eligible _ _ eligible
  obtain ⟨vehicle, found, approved⟩ := meets.vehicle
  obtain ⟨authorization, holds, _, _, vehicle', found', drives⟩ := meets.authorization
  have identified : vehicle.vehicleId = vehicleId := Table.key_of_find found
  refine ⟨meets.account, meets.unrestricted, meets.onboarding, ?_, ?_, meets.apart⟩
  · intro other own
    obtain rfl : vehicleId = other := by
      have same : some vehicle.vehicleId = some other := by
        have read : (store.vehicles.find vehicleId).map Vehicle.vehicleId = some other := own
        rw [show store.vehicles.find vehicleId = some vehicle from found] at read
        exact read
      exact identified.symm.trans (Option.some.inj same)
    refine ⟨⟨vehicle, found, approved⟩, authorization, holds, fun expiresAt expires => ?_⟩
    exact (expiry_le _ expires).1 authorization holds
  · intro type asked
    obtain ⟨item, listed, old, ofType⟩ := meets.evidence type asked
    have held := approved_isSome_iff.2 ⟨item, listed, old, ofType⟩
    obtain ⟨kept, keeps⟩ := Option.isSome_iff_exists.1 held
    obtain ⟨listed', current', ofType'⟩ := of_approved keeps
    exact ⟨kept, listed', current'.1, ofType', fun expiresAt expires =>
      (expiry_le _ expires).2 type kept keeps⟩

end

section

def Contradicts (store : TrustStore) (item : DocumentEvidence) (time : Instant) : Prop :=
  item.supersededByEvidenceId = none ∧ Current time item ∧
    ∃ other ∈ listCurrentEvidence store item.driverIdentityId,
      other.evidenceId ≠ item.evidenceId ∧ Current time other ∧
        other.evidenceType = item.evidenceType
deriving Decidable

variable (config : TrustConfig)

/-- A transition, a review or a new item withdraws what the standing decision on a driver rests on:
the approval of the case, or that no two current items have one type. -/
def Withdraws (system : TrustSystem) (input : TimedCommand) : Prop :=
  match input.command with
  | .move caseId target =>
    ∃ onboarding ∈ system.store.cases.find caseId,
      config.caseOf onboarding.driverIdentityId = caseId ∧ onboarding.state = .approved ∧
        target ∈ transitions onboarding.state ∧
        Standing system.store onboarding.driverIdentityId (max system.clock input.time.instant)
  | .submit item =>
    ((system.store.cases.find item.caseId).isSome = true ∧
      (∀ vehicleId ∈ item.vehicleId, (system.store.vehicles.find vehicleId).isSome = true) ∧
      ∀ row ∈ system.store.evidence.rows, ¬ Row.clash row item) ∧
      Contradicts system.store item (max system.clock input.time.instant) ∧
      Standing system.store item.driverIdentityId (max system.clock input.time.instant)
  | .saveReview evidenceId status reviewer reasonCodes expectedVersion =>
    (∀ code ∈ reasonCodes, isCode code = true) ∧
      ∃ item ∈ system.store.evidence.find evidenceId, (item.version : Int) = expectedVersion ∧
        (item.status = .submitted ∨ item.status = .underReview) ∧
        Contradicts system.store
          (item.withReview status reviewer reasonCodes input.time.instant)
          (max system.clock input.time.instant) ∧
        Standing system.store item.driverIdentityId (max system.clock input.time.instant)
  | _ => False

instance (system : TrustSystem) : DecidablePred (Withdraws config system)
  | ⟨_, .move _ _⟩ => inferInstanceAs (Decidable (∃ onboarding ∈ _, _))
  | ⟨_, .submit _⟩ => inferInstanceAs (Decidable (_ ∧ _))
  | ⟨_, .saveReview _ _ _ _ _⟩ => inferInstanceAs (Decidable (_ ∧ _))
  | ⟨_, .transition _ _ _ _ _ _⟩ | ⟨_, .review _ _ _ _ _ _ _⟩ | ⟨_, .openCase _⟩
  | ⟨_, .registerVehicle _⟩ | ⟨_, .authorize _⟩ | ⟨_, .evaluate _ _ _ _⟩ => .isFalse id

end

section

variable {config : TrustConfig} {s t store : TrustStore} {driverId : Uuid} {time clock : Instant}
  {row : EligibilityDecision}

theorem mem_listCurrentEvidence {item : DocumentEvidence} :
    item ∈ listCurrentEvidence store driverId ↔ item ∈ store.evidence.rows ∧
      item.driverIdentityId = driverId ∧ item.supersededByEvidenceId = none := by
  simp [listCurrentEvidence]

theorem apart_symm {a b : DocumentEvidence} (apart : Apart time a b) : Apart time b a :=
  fun one other same => apart other one same.symm

instance (time : Instant) : Std.Symm (Apart time) := ⟨fun _ _ => apart_symm⟩

theorem pairwise_apart_iff :
    (listCurrentEvidence store driverId).Pairwise (Apart time) ↔
      ∀ a ∈ listCurrentEvidence store driverId, ∀ b ∈ listCurrentEvidence store driverId,
        a ≠ b → Apart time a b := by
  have nodup : (listCurrentEvidence store driverId).Nodup :=
    (List.Nodup.of_map Row.key store.evidence.keys_nodup).filter _
  constructor
  · intro apart a left b right different
    exact apart.forall left right different
  · intro apart
    exact nodup.pairwise_of_forall_ne apart

theorem Sound.carry {later : Instant} (sound : Sound config s clock row)
    (onboarding : ∀ onboarding ∈ onboardingOf config s row.driverIdentityId,
      onboarding.state = .approved →
        ∃ kept ∈ onboardingOf config t row.driverIdentityId, kept.state = .approved)
    (vehicles : ∀ vehicleId, ∀ vehicle ∈ s.vehicles.find vehicleId,
      vehicle ∈ t.vehicles.find vehicleId)
    (authorizations : ∀ driverId vehicleId, ∀ authorization ∈ authorizationOf s driverId vehicleId,
        authorization ∈ authorizationOf t driverId vehicleId)
    (evidence : ∀ item ∈ listCurrentEvidence s row.driverIdentityId,
      item.status = .approved → item ∈ listCurrentEvidence t row.driverIdentityId)
    (apart : (listCurrentEvidence t row.driverIdentityId).Pairwise (Apart later)) :
    Sound config t later row where
  account := sound.account
  unrestricted := sound.unrestricted
  onboarding := by
    obtain ⟨case', found, approved⟩ := sound.onboarding
    exact onboarding case' found approved
  vehicle := by
    intro vehicleId own
    obtain ⟨⟨vehicle, found, approved⟩, authorization, holds, lasts⟩ :=
      sound.vehicle vehicleId own
    exact ⟨⟨vehicle, vehicles vehicleId vehicle found, approved⟩, authorization,
      authorizations _ vehicleId authorization holds, lasts⟩
  evidence := by
    intro type asked
    obtain ⟨item, listed, approved, rest⟩ := sound.evidence type asked
    exact ⟨item, evidence item listed approved, approved, rest⟩
  apart

theorem Sound.keep {later : Instant} (sound : Sound config s clock row) (le : clock ≤ later)
    (cases : t.cases = s.cases) (evidence : t.evidence = s.evidence)
    (vehicles : t.vehicles = s.vehicles) (authorizations : t.authorizations = s.authorizations) :
    Sound config t later row := by
  refine sound.carry ?_ ?_ ?_ ?_ ?_
  · intro onboarding found approved
    refine ⟨onboarding, ?_, approved⟩
    unfold onboardingOf at found ⊢
    rwa [cases]
  · intro vehicleId vehicle found
    rwa [vehicles]
  · intro driverId vehicleId authorization found
    unfold authorizationOf at found ⊢
    rwa [authorizations]
  · intro item listed _
    rw [mem_listCurrentEvidence] at listed ⊢
    rwa [evidence]
  · unfold listCurrentEvidence
    rw [evidence]
    exact sound.apart.imp fun apart => apart_later le apart

theorem find_kept_of_append {ρ : Type} [Row ρ Uuid] {table grown : Table ρ} {added row : ρ}
    {id : Uuid} (rows : grown.rows = table.rows ++ [added]) (found : row ∈ table.find id) :
    row ∈ grown.find id := by
  rw [Option.mem_def] at found ⊢
  rw [Table.find_of_rows_append rows, found]
  rfl

theorem onboardingOf_eq_some {onboarding : OnboardingCase} :
    onboarding ∈ onboardingOf config store driverId ↔
      store.cases.find (config.caseOf driverId) = some onboarding ∧
        onboarding.driverIdentityId = driverId := by
  simp [onboardingOf, Option.filter_eq_some_iff]

def SoundSystem (config : TrustConfig) (system : TrustSystem) : Prop :=
  ∀ row ∈ system.store.decisions.rows, Stands system.store system.clock row →
    Sound config system.store system.clock row

theorem apart_of_changed {later : Instant} (changed : DocumentEvidence)
    (le : clock ≤ later) (apart : (listCurrentEvidence s driverId).Pairwise (Apart clock))
    (among : ∀ other ∈ listCurrentEvidence t driverId, other = changed ∨
      other ∈ listCurrentEvidence s driverId ∧ other.evidenceId ≠ changed.evidenceId)
    (fits : changed.driverIdentityId = driverId → ¬ Contradicts s changed later) :
    (listCurrentEvidence t driverId).Pairwise (Apart later) := by
  have alone : changed ∈ listCurrentEvidence t driverId → ∀ other ∈ listCurrentEvidence s driverId,
      other.evidenceId ≠ changed.evidenceId → Apart later changed other := by
    intro listed other others key current current' same
    obtain ⟨_, rfl, unsuperseded⟩ := mem_listCurrentEvidence.1 listed
    exact fits rfl ⟨unsuperseded, current, other, others, key, current', same.symm⟩
  refine pairwise_apart_iff.2 fun a left b right different => ?_
  obtain rfl | ⟨old, key⟩ := among a left
  · obtain rfl | ⟨old', key'⟩ := among b right
    · exact absurd rfl different
    · exact alone left b old' key'
  · obtain rfl | ⟨old', _⟩ := among b right
    · exact apart_symm (alone right a old key)
    · exact apart_later le (pairwise_apart_iff.1 apart a old b old' different)

theorem SoundSystem.step {system : TrustSystem} {input : TimedCommand}
    (sound : SoundSystem config system) (kept : ¬ Withdraws config system input) :
    SoundSystem config (trustStep config system input) := by
  obtain ⟨store, clock⟩ := system
  obtain ⟨time, command⟩ := input
  have le : clock ≤ max clock time.instant := le_max_left _ _
  show ∀ row ∈ (trustStore config store ⟨time, command⟩).decisions.rows,
    Stands (trustStore config store ⟨time, command⟩) (max clock time.instant) row →
      Sound config (trustStore config store ⟨time, command⟩) (max clock time.instant) row
  -- A decision that stands later on stands before, and the records were sound then.
  have was : ∀ row ∈ store.decisions.rows, Stands store (max clock time.instant) row →
      Sound config store clock row := by
    intro row stored stands
    obtain ⟨latest, eligible, expiresAt, expires, unexpired⟩ := stands
    exact sound row stored ⟨latest, eligible, expiresAt, expires, lt_of_le_of_lt le unexpired⟩
  have effect : TrustEffect config store _ time command :=
    trustStore_effect config store ⟨time, command⟩
  generalize trustStore config store ⟨time, command⟩ = t at effect ⊢
  cases effect with
  | idle same =>
    subst same
    intro row stored stands
    exact (was row stored stands).keep le rfl rfl rfl rfl
  | opened onboarding cases rows same =>
    subst same
    intro row stored stands
    refine (was row stored stands).carry ?_ (fun _ _ found => found) (fun _ _ _ found => found)
      (fun _ listed _ => listed) ?_
    · intro found_case found approved
      obtain ⟨found, owned⟩ := onboardingOf_eq_some.1 found
      exact ⟨found_case, onboardingOf_eq_some.2 ⟨find_kept_of_append rows found, owned⟩, approved⟩
    · exact (was row stored stands).apart.imp fun apart => apart_later le apart
  | moved target onboarding changed stored leads identified owned state cases rows same =>
    subst same
    intro row decided stands
    refine (was row decided stands).carry ?_ (fun _ _ found => found) (fun _ _ _ found => found)
      (fun _ listed _ => listed) ?_
    · intro found_case found approved
      obtain ⟨found, drives⟩ := onboardingOf_eq_some.1 found
      refine ⟨found_case, onboardingOf_eq_some.2 ⟨?_, drives⟩, approved⟩
      rw [Table.find_of_rows_replaced rows]
      refine (if_neg fun same_case => kept ?_).trans found
      have key : config.caseOf row.driverIdentityId = onboarding.caseId :=
        same_case.trans identified
      rw [key] at found
      obtain rfl := Option.some.inj ((Table.find_of_mem stored).symm.trans found)
      refine ⟨onboarding, Table.find_of_mem stored, ?_, approved, leads, row, decided, drives.symm,
        stands⟩
      rw [drives]
      exact key
    · exact (was row decided stands).apart.imp fun apart => apart_later le apart
  | submitted item evidence known rows same =>
    subst same
    intro row decided stands
    have held := was row decided stands
    have unlike := Table.apart_of_rows_append rows
    refine held.carry (fun _ found approved => ⟨_, found, approved⟩) (fun _ _ found => found)
      (fun _ _ _ found => found) ?_ (apart_of_changed item le held.apart ?_ ?_)
    · intro other listed _
      obtain ⟨stored, rest⟩ := mem_listCurrentEvidence.1 listed
      exact mem_listCurrentEvidence.2 ⟨(mem_appended rows).2 (.inl stored), rest⟩
    · intro other listed
      obtain ⟨stored, rest⟩ := mem_listCurrentEvidence.1 listed
      refine ((mem_appended rows).1 stored).symm.imp id fun old => ?_
      exact ⟨mem_listCurrentEvidence.2 ⟨old, rest⟩, fun key => unlike other old (.inl key)⟩
    -- The new item contradicts none of the driver's, or the decision would be withdrawn.
    · intro drives contradicts
      exact kept ⟨⟨known.1, known.2, unlike⟩, contradicts, row, decided, drives.symm, stands⟩
  | reviewed status reviewer reasonCodes item stored pending codes evidence rows same =>
    subst same
    intro row decided stands
    have held := was row decided stands
    refine held.carry (fun _ found approved => ⟨_, found, approved⟩) (fun _ _ found => found)
      (fun _ _ _ found => found) ?_ (apart_of_changed
        (item.withReview status reviewer reasonCodes time.instant) le held.apart ?_ ?_)
    · intro other listed approved
      obtain ⟨old, rest⟩ := mem_listCurrentEvidence.1 listed
      refine mem_listCurrentEvidence.2 ⟨?_, rest⟩
      rw [rows, Table.mem_replaced]
      refine .inr ⟨old, fun key => ?_⟩
      -- An approved item is not reviewed again.
      obtain rfl := store.evidence.eq_of_key old stored key
      rw [approved] at pending
      obtain open' | open' := pending <;> cases open'
    · intro other listed
      obtain ⟨mem, rest⟩ := mem_listCurrentEvidence.1 listed
      rw [rows, Table.mem_replaced] at mem
      exact mem.imp And.left fun ⟨old, key⟩ => ⟨mem_listCurrentEvidence.2 ⟨old, rest⟩, key⟩
    · intro drives contradicts
      exact kept ⟨codes, item, Table.find_of_mem stored, rfl, pending, contradicts, row, decided,
        drives.symm, stands⟩
  | registered vehicle vehicles rows same =>
    subst same
    intro row stored stands
    refine (was row stored stands).carry (fun _ found approved => ⟨_, found, approved⟩)
      (fun _ _ found => find_kept_of_append rows found) (fun _ _ _ found => found)
      (fun _ listed _ => listed) ?_
    exact (was row stored stands).apart.imp fun apart => apart_later le apart
  | authorized authorization authorizations rows same =>
    subst same
    intro row stored stands
    refine (was row stored stands).carry (fun _ found approved => ⟨_, found, approved⟩)
      (fun _ _ found => found) ?_ (fun _ listed _ => listed) ?_
    · intro driverId vehicleId other found
      rw [Option.mem_def] at found ⊢
      unfold authorizationOf at found ⊢
      rw [show ({ store with authorizations } : TrustStore).authorizations.rows =
        store.authorizations.rows ++ [authorization] from rows, List.find?_append, found]
      rfl
    · exact (was row stored stands).apart.imp fun apart => apart_later le apart
  | evaluated driverId vehicleId decisionId auditReference decisions rows same =>
    subst same
    intro row stored stands
    have stored : row ∈ decisions.rows := stored
    obtain old | rfl := (mem_appended rows).1 stored
    · have earlier : Stands store (max clock time.instant) row := by
        refine ⟨fun other mem own => stands.1 other ?_ own, stands.2⟩
        show other ∈ decisions.rows
        rw [rows]
        exact List.mem_append_left _ mem
      exact (was row old earlier).keep le rfl rfl rfl rfl
    · exact (sound_of_evaluated stands.2.1).keep (le_max_right _ _) rfl rfl rfl rfl

end

section

/-- Dispatch takes nobody for eligible whom an evaluation of the stored records would find
ineligible, or whose onboarding case is not approved. -/
def InGoodStanding (config : TrustConfig) (system : TrustSystem) : Prop :=
  ∀ sources, ReadsTrust sources system.store → ∀ driverId vehicleId now, system.clock ≤ now →
    EligibilityCurrent sources driverId vehicleId now →
      statusOf config.policy (inputsOf config system.store driverId vehicleId now) ≠ .ineligible ∧
        ∃ onboarding ∈ onboardingOf config system.store driverId, onboarding.state = .approved

/-- No round offers a ride to a driver whose onboarding case is not approved, or whom an
evaluation of the stored records would find ineligible. -/
def OffersInGoodStanding (config : TrustConfig) (handoffConfig : HandoffConfig)
    (system : TrustSystem) : Prop :=
  ∀ sources, ReadsTrust sources system.store →
    ∀ (store t : HandoffStore) handoffId observations now offerId offer, system.clock ≤ now →
      offerNext handoffConfig sources handoffId observations now offerId store =
          .ok (some offer, t) →
        statusOf config.policy
            (inputsOf config system.store offer.driverId offer.vehicleId now) ≠ .ineligible ∧
          ∃ onboarding ∈ onboardingOf config system.store offer.driverId,
            onboarding.state = .approved

variable {config : TrustConfig} {handoffConfig : HandoffConfig} {system : TrustSystem}

theorem SoundSystem.goodStanding (sound : SoundSystem config system) :
    InGoodStanding config system := by
  intro sources reads driverId vehicleId now le old
  obtain ⟨row, stored, rfl, ⟨latest, eligible, expiresAt, expires, unexpired⟩, own⟩ :=
    stands_of_current reads old
  have held := sound row stored ⟨latest, eligible, expiresAt, expires, lt_of_le_of_lt le unexpired⟩
  have meets := held.meets le own ⟨expiresAt, expires, unexpired⟩
  exact ⟨statusOf_ne_ineligible _ _ meets, held.onboarding⟩

theorem eligible_of_offerNext {sources : DispatchSources} {store t : HandoffStore}
    {handoffId offerId : Uuid} {observations : List EligibleDriverInput} {now : Instant}
    {offer : HandoffOffer}
    (ran : offerNext handoffConfig sources handoffId observations now offerId store =
      .ok (some offer, t)) :
    EligibilityCurrent sources offer.driverId offer.vehicleId now := by
  unfold offerNext at ran
  rw [bind_ok] at ran
  obtain ⟨found, read, _, ran⟩ := ran
  rw [demand_bind_ok] at ran
  obtain ⟨handoff, _, ran⟩ := ran
  rw [require_bind_ok, bind_ok] at ran
  obtain ⟨_, ⟨⟩, recorded, _, ran⟩ := ran
  cases ranked : rankedDrivers handoffConfig sources handoff observations now with
  | nil =>
    rw [ranked] at ran
    obtain ⟨_, _, finished⟩ := event_bind_ok.1 ran
    cases (pure_ok.1 finished).1
  | cons selected others =>
    have listed : selected ∈ rankedDrivers handoffConfig sources handoff observations now := by
      rw [ranked]
      exact List.mem_cons_self
    have eligible := (mem_rankedDrivers.1 listed).2.2.1
    rw [ranked] at ran
    dsimp only at ran
    split at ran
    · unfold createOffer at ran
      simp only [bind_assoc, pure_bind, steps_ok, updateHandoffs_bind_ok, event_bind_ok] at ran
      obtain ⟨_, _, _, _, _, _, _, _, _, _, _, _, created, _⟩ := ran
      obtain rfl := Option.some.inj created
      exact eligible
    · exact (throw_ok.1 ran).elim

/-- While no review or new item withdraws what a standing decision rests on, dispatch uses only
drivers in good standing. -/
theorem good_standing_of_kept (config : TrustConfig) (handoffConfig : HandoffConfig)
    (clock : Instant) (inputs : List TimedCommand)
    (kept : Along (trustStep config) (fun system input => ¬ Withdraws config system input)
      { clock } inputs) (n : Nat) :
    InGoodStanding config (run (trustStep config) { clock } (inputs.take n)) ∧
      OffersInGoodStanding config handoffConfig
        (run (trustStep config) { clock } (inputs.take n)) := by
  have start : SoundSystem config { clock } := by
    intro row stored
    cases stored
  have sound : SoundSystem config (run (trustStep config) { clock } (inputs.take n)) :=
    run_invariant_between (fun _ _ holds invariant => SoundSystem.step invariant holds) kept
      (Nat.zero_le n) start
  refine ⟨sound.goodStanding, ?_⟩
  intro sources reads store after handoffId observations now offerId offer le success
  exact sound.goodStanding sources reads offer.driverId offer.vehicleId now le
    (eligible_of_offerNext success)

def sourcesOf (store : TrustStore) : DispatchSources where
  readySource _ := none
  pricing _ := none
  latestDecision driverId :=
    (store.decisions.rows.find? fun row =>
      row.driverIdentityId = driverId ∧ Latest store row).map fun row =>
        ⟨row.status.value, row.expiresAt, row.vehicleId⟩
  vehicleApproval vehicleId :=
    (store.vehicles.find vehicleId).map fun vehicle => vehicle.approvalStatus.value
  authorizationExpiry driverId vehicleId :=
    (authorizationOf store driverId vehicleId).map DriverVehicleAuthorization.expiresAt
  rideDriverOnline _ _ _ _ := true

theorem readsTrust_sourcesOf {store : TrustStore} : ReadsTrust (sourcesOf store) store where
  decision := by
    intro driverId found decided
    obtain ⟨row, matched, rfl⟩ := Option.map_eq_some_iff.1 decided
    have owned := List.find?_some matched
    simp only [decide_eq_true_eq] at owned
    exact ⟨row, List.mem_of_find?_eq_some matched, owned.1, owned.2, rfl⟩
  vehicle := fun _ => rfl
  authorization := fun _ _ => rfl

def trustVersion : Code := ⟨"driver.trust.v1", by decide⟩

/-- A policy that asks for a licence; the onboarding case of a driver has the driver's number. -/
def sampleConfig : TrustConfig where
  policy :=
    { policyVersion := trustVersion, requiredEvidence := [.driverLicence]
      inspectionRequired := false, expiringSoonDays := 30, soonRange := by decide }
  caseOf driverId := driverId
  accountActive _ := true
  unresolvedRestriction _ := false

def sampleLicence : DocumentEvidence where
  evidenceId := 6
  caseId := 5
  driverIdentityId := 5
  vehicleId := none
  evidenceType := .driverLicence
  immutableReference := "licence-6"
  issuingAuthorityCode := trustVersion
  documentReferenceHash := 6
  issueDate := 0
  expiryDate := 100
  status := .submitted
  policyVersion := trustVersion
  reviewerIdentityId := none
  reasonCodes := []
  replacesEvidenceId := none
  supersededByEvidenceId := none
  submittedAt := 0
  reviewedAt := none
  version := 1
  period := by decide
  reviewed := by decide

def sampleCase : OnboardingCase where
  caseId := 5
  driverIdentityId := 5
  state := .operationsReviewPending
  policyVersion := trustVersion
  version := 1
  createdAt := 0
  updatedAt := 0
  expiresAt := none
  appealOfCaseId := none

def sampleAuthorization : DriverVehicleAuthorization where
  authorizationId := 4
  driverIdentityId := 5
  vehicleId := 3
  status := .authorized
  policyVersion := trustVersion
  effectiveAt := 0
  expiresAt := 90 * dayLength
  effective := by decide

def sampleInputs : List TimedCommand :=
  [.registerVehicle ⟨3, 3, .approved⟩, .openCase sampleCase, .move 5 .approved,
   .submit sampleLicence, .saveReview 6 .approved 9 [] 1, .authorize sampleAuthorization,
   .evaluate 5 3 7 8].map fun command => ⟨⟨1, some 0⟩, command⟩

theorem good_standing_sampleInputs :
    InGoodStanding sampleConfig (run (trustStep sampleConfig) { clock := 0 }
        (sampleInputs.take 7)) ∧
      OffersInGoodStanding sampleConfig ⟨fun _ => 0, "dispatch.v1", 15, 45, false⟩
        (run (trustStep sampleConfig) { clock := 0 } (sampleInputs.take 7)) :=
  good_standing_of_kept sampleConfig ⟨fun _ => 0, "dispatch.v1", 15, 45, false⟩ 0 sampleInputs
    (by decide +kernel) 7

/-- A driver who is suspended afterwards is still taken for eligible. -/
theorem suspended_driver_eligible :
    ¬ ∀ (inputs : List TimedCommand) (n : Nat),
      InGoodStanding sampleConfig (run (trustStep sampleConfig) { clock := 0 } (inputs.take n)) := by
  intro law
  have standing := law (sampleInputs ++ [⟨⟨2, some 0⟩, .move 5 .suspended⟩]) 8
    (sourcesOf _) readsTrust_sourcesOf 5 3 2 (by decide +kernel) (by decide +kernel)
  exact standing.1 (by decide +kernel)

end

/-! What the records of drivers become, in any order of commands. -/

section

variable {config : TrustConfig} {r s t : TrustStore} {time : DateTime} {command : TrustCommand}

structure CaseStep (old new : OnboardingCase) : Prop where
  driver : new.driverIdentityId = old.driverIdentityId
  leads : new.state ∈ transitions old.state

/-- A document that waits for its review is reviewed. -/
def EvidenceStep (old new : DocumentEvidence) : Prop :=
  (old.status = .submitted ∨ old.status = .underReview) ∧
    ∃ outcome reviewer codes time, new = old.withReview outcome reviewer codes time

/-- Cases and evidence move on by steps; the other tables only grow. -/
structure Progresses (s t : TrustStore) : Prop where
  cases : Evolves CaseStep s.cases t.cases
  evidence : Evolves EvidenceStep s.evidence t.evidence
  vehicles : Extends s.vehicles t.vehicles
  authorizations : Extends s.authorizations t.authorizations
  decisions : Extends s.decisions t.decisions

theorem Progresses.refl : Progresses s s := ⟨.refl, .refl, .refl, .refl, .refl⟩

theorem progresses_of_effect (effect : TrustEffect config s t time command) : Progresses s t := by
  cases effect with
  | idle same => exact same ▸ .refl
  | opened _ _ rows same => exact same ▸ { Progresses.refl with cases := .of_append rows }
  | moved _ _ _ stored leads identified owned state _ rows same =>
    exact same ▸ { Progresses.refl with
      cases := .of_replaced rows stored identified (.single ⟨owned, state ▸ leads⟩) }
  | submitted _ _ _ rows same => exact same ▸ { Progresses.refl with evidence := .of_append rows }
  | reviewed status reviewer codes _ stored pending _ _ rows same =>
    exact same ▸ { Progresses.refl with
      evidence := .of_replaced rows stored rfl (.single ⟨pending, status, reviewer, codes, _, rfl⟩) }
  | registered _ _ rows same => exact same ▸ { Progresses.refl with vehicles := .of_append rows }
  | authorized _ _ rows same =>
    exact same ▸ { Progresses.refl with authorizations := .of_append rows }
  | evaluated _ _ _ _ _ rows same =>
    exact same ▸ { Progresses.refl with decisions := .of_append rows }

def isAudited : TrustCommand → Bool
  | .transition .. | .review .. => true
  | _ => false

theorem trustStore_of_audited (store : TrustStore) {input : TimedCommand}
    (audited : isAudited input.command = true) : trustStore config store input = store := by
  obtain ⟨time, command⟩ := input
  cases command with
  | transition grants subject caseId target reasonCode auditId =>
    exact commit_reviewTransition grants subject auditId caseId target reasonCode
  | review grants subject evidenceId outcome expected reasonCodes auditId =>
    exact commit_reviewEvidence grants subject auditId evidenceId outcome expected reasonCodes
  | _ => cases audited

/-- Commands leave the same records with or without the reviews that go through the application,
since the metadata of their audit events is always refused. -/
theorem reviews_inert (config : TrustConfig) (store : TrustStore) (inputs : List TimedCommand) :
    run (trustStore config) store inputs =
      run (trustStore config) store (inputs.filter fun input => ¬ isAudited input.command) := by
  induction inputs generalizing store with
  | nil => rfl
  | cons input rest ih =>
    by_cases audited : isAudited input.command = true
    · rw [List.filter_cons_of_neg (by simpa using audited), run_cons,
        trustStore_of_audited store audited]
      exact ih store
    · rw [List.filter_cons_of_pos (by simpa using audited)]
      exact ih (trustStore config store input)

end

end Ayo.DriverTrust.GoodStanding
