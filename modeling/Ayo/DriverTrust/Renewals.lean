/- digest: A renewed document contradicts the one that it replaces. -/

import Ayo.DriverTrust.InForce

namespace Ayo.DriverTrust.Renewals

open Kernel.UnitOfWork Kernel.KeyedTable Kernel.Run Core.Values
open Models Engine Application GoodStanding InForce

/-- A document in the place of an approved one of the driver, of a type that the policy requires
and with a later expiry, is added and approved, each in a unit of work over the repository. -/
structure Renews (policy : EligibilityPolicy) (driverId : Uuid) (s t : TrustStore) : Prop where
  renewed : ∃ old ∈ listCurrentEvidence s driverId, ∃ item m, old.status = .approved ∧
    old.evidenceType ∈ required policy ∧ item.evidenceType = old.evidenceType ∧
    item.replacesEvidenceId = some old.evidenceId ∧ item.supersededByEvidenceId = none ∧
    item.driverIdentityId = driverId ∧ old.expiryDate < item.expiryDate ∧
    addEvidence item s = .ok (item, m) ∧
    ∃ reviewer codes time reviewed,
      saveReview item.evidenceId .approved reviewer codes time item.version m = .ok (reviewed, t)

def approvedOf (store : TrustStore) (driverId : Uuid) (type : EvidenceType) :
    List DocumentEvidence :=
  (listCurrentEvidence store driverId).filter fun item =>
    item.status = .approved ∧ item.evidenceType = type

/-- The decision refuses the driver for contradictory evidence. -/
def FoundContradictory (decision : EligibilityDecision) : Prop :=
  decision.status = .ineligible ∧ "contradictory_current_evidence" ∈ decision.reasonCodes

/-- An evaluation of the current list of a driver before any approved document in it runs out. -/
def EvaluatesBefore (store : TrustStore) (driverId : Uuid) (inputs : EligibilityInputs) : Prop :=
  inputs.evidence = listCurrentEvidence store driverId ∧
    ∀ item ∈ inputs.evidence, item.status = .approved → inputs.time < endOfDay item.expiryDate

/-- One document of each required type is approved, and no evaluation before every expiry finds a
contradiction. -/
def RenewalKept (policy : EligibilityPolicy) (store : TrustStore) (driverId : Uuid) : Prop :=
  (∀ type ∈ required policy, ∃ item, approvedOf store driverId type = [item]) ∧
    ∀ inputs, EvaluatesBefore store driverId inputs → ∀ decisionId auditReference,
      ¬ FoundContradictory (evaluateEligibility policy inputs decisionId auditReference)

variable {policy : EligibilityPolicy} {driverId : Uuid} {s t : TrustStore}

theorem Renews.exists_pair (renews : Renews policy driverId s t) :
    ∃ old ∈ listCurrentEvidence t driverId, ∃ new ∈ listCurrentEvidence t driverId, old ≠ new ∧
      old.status = .approved ∧ new.status = .approved ∧ old.evidenceType ∈ required policy ∧
      new.evidenceType = old.evidenceType := by
  obtain ⟨old, listed, item, m, approved, needed, alike, _, unsuperseded, owned, _, added,
    reviewer, codes, time, reviewed, ran⟩ := renews.renewed
  simp only [addEvidence, ↓steps_ok, Table.insert?_eq_some] at added
  obtain ⟨_, evidence, grown, _, rfl⟩ := added
  simp only [saveReview, ↓steps_ok, Option.filter_eq_some_iff, decide_eq_true_eq,
    Table.replace?_eq_some] at ran
  obtain ⟨_, row, ⟨found, _⟩, evidence', rows, _, _, rfl⟩ := ran
  obtain rfl : row = item := Option.mem_unique found (Table.find_of_inserted grown)
  obtain ⟨stored, mine, standing⟩ := mem_listCurrentEvidence.1 listed
  have apart : old.evidenceId ≠ row.evidenceId := fun same =>
    Table.apart_of_rows_append grown old stored (Row.clash_of_key same)
  refine ⟨old, mem_listCurrentEvidence.2 ⟨?_, mine, standing⟩,
    row.withReview .approved reviewer codes time,
    mem_listCurrentEvidence.2 ⟨?_, owned, unsuperseded⟩, fun same => ?_, approved, rfl, needed,
    alike⟩
  · rw [rows, Table.mem_replaced]
    exact .inr ⟨by simp [grown, stored], apart⟩
  · rw [rows, Table.mem_replaced]
    exact .inl ⟨rfl, row, by simp [grown], rfl⟩
  · exact apart (congrArg (fun item => item.evidenceId) same)

theorem Renews.not_single (renews : Renews policy driverId s t) :
    ∃ type ∈ required policy, ¬ ∃ item, approvedOf t driverId type = [item] := by
  obtain ⟨old, first, new, second, different, approved, also, needed, alike⟩ := renews.exists_pair
  refine ⟨old.evidenceType, needed, fun single => different ?_⟩
  obtain ⟨item, only⟩ := single
  have same : ∀ {other}, other ∈ listCurrentEvidence t driverId → other.status = .approved →
      other.evidenceType = old.evidenceType → other = item := fun listed approved alike =>
    List.mem_singleton.1 (only ▸ List.mem_filter.2 ⟨listed, decide_eq_true ⟨approved, alike⟩⟩)
  exact (same first approved rfl).trans (same second also alike).symm

/-- After any number of renewals some required type has more than one approved document, and every
evaluation before the expiries is a refusal for contradictory evidence. -/
theorem renewal_contradicts (renewed : Relation.TransGen (Renews policy driverId) s t) :
    (∃ type ∈ required policy, ¬ ∃ item, approvedOf t driverId type = [item]) ∧
      ∀ inputs, EvaluatesBefore t driverId inputs → ∀ decisionId auditReference,
        FoundContradictory (evaluateEligibility policy inputs decisionId auditReference) := by
  obtain ⟨m, last⟩ : ∃ m, Renews policy driverId m t := by
    cases renewed with
    | single last => exact ⟨_, last⟩
    | tail _ last => exact ⟨_, last⟩
  refine ⟨last.not_single, fun inputs before decisionId auditReference => ?_⟩
  obtain ⟨read, early⟩ := before
  obtain ⟨old, first, new, second, different, approved, also, _, alike⟩ := last.exists_pair
  rw [← read] at first second
  have clash : ¬ inputs.evidence.Pairwise (Apart inputs.time) := fun apart =>
    different (eq_of_apart apart first second ⟨approved, dayOf_le (early old first approved)⟩
      ⟨also, dayOf_le (early new second also)⟩ alike.symm)
  have found : "contradictory_current_evidence" ∈ reasons policy inputs := by
    simp [reasons, reason, contradictory_iff, clash]
  have refused : reasons policy inputs ≠ [] := List.ne_nil_of_mem found
  simp only [FoundContradictory, evaluateEligibility, statusOf, if_neg refused, found, and_self]

def renewedLicence : DocumentEvidence :=
  { sampleLicence with
    evidenceId := 7, documentReferenceHash := 7, expiryDate := 200, period := by decide
    replacesEvidenceId := some 6 }

def sampleStore : TrustStore := (run (trustStep sampleConfig) { clock := 0 } sampleInputs).store

theorem exists_renewed : ∃ t, Renews sampleConfig.policy 5 sampleStore t := by
  have returns : ((addEvidence renewedLicence >>= fun _ => saveReview 7 .approved 9 [] 1 1)
      sampleStore).isOk = true := by decide +kernel
  obtain ⟨⟨reviewed, t⟩, ran⟩ := exists_of_isOk returns
  obtain ⟨item, m, added, ran⟩ := bind_ok.1 ran
  have same : item = renewedLicence := by
    simp only [addEvidence, ↓steps_ok] at added
    obtain ⟨_, _, _, rfl, _⟩ := added
    rfl
  obtain ⟨old, listed, approved, needed, alike, replaces, later⟩ :
      ∃ old ∈ listCurrentEvidence sampleStore 5, old.status = .approved ∧
        old.evidenceType ∈ required sampleConfig.policy ∧
        renewedLicence.evidenceType = old.evidenceType ∧
        renewedLicence.replacesEvidenceId = some old.evidenceId ∧
        old.expiryDate < renewedLicence.expiryDate := by decide +kernel
  exact ⟨t, ⟨old, listed, renewedLicence, m, approved, needed, alike, replaces, rfl, rfl, later,
    same ▸ added, _, _, _, reviewed, ran⟩⟩

theorem renewal_contradicts_sample : ∃ t, (∃ type ∈ required sampleConfig.policy,
      ¬ ∃ item, approvedOf t 5 type = [item]) ∧
    ∀ inputs, EvaluatesBefore t 5 inputs → ∀ decisionId auditReference,
      FoundContradictory (evaluateEligibility sampleConfig.policy inputs decisionId
        auditReference) := by
  obtain ⟨t, renews⟩ := exists_renewed
  exact ⟨t, renewal_contradicts (.single renews)⟩

/-- The renewed licence of an eligible driver leaves two approved ones. -/
theorem eligibility_lost_by_renewal :
    ¬ ∀ (policy : EligibilityPolicy) (driverId : Uuid) (s t : TrustStore),
      (∃ inputs decisionId auditReference, inputs.evidence = listCurrentEvidence s driverId ∧
        (evaluateEligibility policy inputs decisionId auditReference).status = .eligible) →
      Relation.TransGen (Renews policy driverId) s t → RenewalKept policy t driverId := by
  intro law
  obtain ⟨t, renews⟩ := exists_renewed
  have kept := law sampleConfig.policy 5 sampleStore t
    ⟨inputsOf sampleConfig sampleStore 5 3 1, 0, 0, rfl, by decide +kernel⟩ (.single renews)
  obtain ⟨type, needed, twice⟩ := renews.not_single
  exact twice (kept.1 type needed)

end Ayo.DriverTrust.Renewals
