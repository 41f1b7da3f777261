/- digest: What a decision of eligibility vouches for, and until when it does. -/

import Ayo.DriverTrust.GoodStanding

namespace Ayo.DriverTrust.InForce

open Core.Values Models Engine GoodStanding

/-- An approved document of the driver, for the vehicle if it names one, in its period. -/
def DocumentInForce (inputs : EligibilityInputs) (item : DocumentEvidence) : Prop :=
  Current inputs.time item ∧ item.issueDate ≤ dayOf inputs.time ∧
    item.driverIdentityId = inputs.driverIdentityId ∧
    ∀ vehicleId ∈ item.vehicleId, ∃ vehicle ∈ inputs.vehicle, vehicle.vehicleId = vehicleId
deriving Decidable

/-- The account, the case, one document of each required type and the authorization. -/
structure EverythingInForce (policy : EligibilityPolicy) (inputs : EligibilityInputs) : Prop where
  account : inputs.accountActive = true
  onboarding : ∃ onboarding ∈ inputs.onboarding, onboarding.state = .approved ∧
    onboarding.driverIdentityId = inputs.driverIdentityId
  evidence : ∀ type ∈ required policy, ∃ item, (inputs.evidence.filter fun item =>
    item.evidenceType = type ∧ DocumentInForce inputs item) = [item]
  authorization : ∃ authorization ∈ inputs.authorization, authorization.status = .authorized ∧
    authorization.driverIdentityId = inputs.driverIdentityId ∧
    authorization.effectiveAt ≤ inputs.time ∧ inputs.time < authorization.expiresAt ∧
    ∃ vehicle ∈ inputs.vehicle, authorization.vehicleId = vehicle.vehicleId

/-- Whom the records name and since when they count, which the evaluation does not read. -/
structure OwnedAndBegun (policy : EligibilityPolicy) (inputs : EligibilityInputs) : Prop where
  onboarding : ∀ onboarding ∈ inputs.onboarding,
    onboarding.driverIdentityId = inputs.driverIdentityId
  evidence : ∀ item ∈ inputs.evidence, item.evidenceType ∈ required policy →
    Current inputs.time item → DocumentInForce inputs item
  authorization : ∀ authorization ∈ inputs.authorization,
    authorization.driverIdentityId = inputs.driverIdentityId ∧
      authorization.effectiveAt ≤ inputs.time

variable {policy : EligibilityPolicy} {inputs : EligibilityInputs} {time : Instant}

theorem eligible_iff : statusOf policy inputs = .eligible ↔
    Meets policy inputs ∧ ¬ ExpiringSoon policy inputs := by
  rw [← reasons_eq_nil, statusOf]
  split <;> simp [*]

theorem eq_of_apart {evidence : List DocumentEvidence} {a b : DocumentEvidence}
    (apart : evidence.Pairwise (Apart time)) (first : a ∈ evidence) (second : b ∈ evidence)
    (current : Current time a) (other : Current time b)
    (same : a.evidenceType = b.evidenceType) : a = b := by
  by_contra different
  exact apart.forall first second different current other same

theorem filter_eq_singleton {evidence : List DocumentEvidence}
    {item : DocumentEvidence} {test : DocumentEvidence → Bool}
    (apart : evidence.Pairwise (Apart time)) (mem : item ∈ evidence) (current : Current time item)
    (meets : test item = true)
    (alike : ∀ other ∈ evidence, test other = true →
      Current time other ∧ other.evidenceType = item.evidenceType) :
    evidence.filter test = [item] := by
  have all : ∀ other ∈ evidence.filter test, other = item := by
    intro other listed
    obtain ⟨held, passes⟩ := List.mem_filter.1 listed
    obtain ⟨standing, same⟩ := alike other held passes
    exact eq_of_apart apart held mem standing current same
  have copies := List.eq_replicate_of_mem all
  have once := apart.filter test
  rw [copies, List.pairwise_replicate] at once
  obtain few | none_apart := once
  · have some : 0 < (evidence.filter test).length :=
      List.length_pos_of_mem (List.mem_filter.2 ⟨mem, meets⟩)
    rw [copies, Nat.le_antisymm few some]
    rfl
  · exact absurd rfl (none_apart current current)

/-- An eligible driver has everything in force, where the records are the driver's and have begun
if the driver is found eligible. -/
theorem eligible_in_force_iff (policy : EligibilityPolicy) (inputs : EligibilityInputs)
    (decisionId auditReference : Uuid) :
    ((evaluateEligibility policy inputs decisionId auditReference).status = .eligible →
        EverythingInForce policy inputs) ↔
      (Meets policy inputs ∧ ¬ ExpiringSoon policy inputs → OwnedAndBegun policy inputs) := by
  change (statusOf policy inputs = .eligible → _) ↔ _
  rw [eligible_iff]
  refine forall_congr' fun eligible => ?_
  have meets := eligible.1
  obtain ⟨onboarding, opened, approved⟩ := meets.onboarding
  obtain ⟨authorization, held, authorized, unexpired, vehicle⟩ := meets.authorization
  constructor
  · intro inForce
    refine ⟨fun other mem => ?_, fun item mem needed current => ?_, fun other mem => ?_⟩
    · obtain ⟨found, stored, _, owned⟩ := inForce.onboarding
      exact Option.mem_unique stored mem ▸ owned
    · obtain ⟨found, only⟩ := inForce.evidence item.evidenceType needed
      have standing : found ∈ inputs.evidence.filter fun other =>
          other.evidenceType = item.evidenceType ∧ DocumentInForce inputs other :=
        only ▸ List.mem_singleton_self found
      simp only [List.mem_filter, decide_eq_true_eq] at standing
      obtain ⟨stored, same, holds⟩ := standing
      exact eq_of_apart meets.apart stored mem holds.1 current same ▸ holds
    · obtain ⟨found, stored, _, owned, begun, _⟩ := inForce.authorization
      exact Option.mem_unique stored mem ▸ ⟨owned, begun⟩
  · intro owned
    refine ⟨meets.account, ⟨onboarding, opened, approved, owned.onboarding _ opened⟩, ?_,
      ⟨authorization, held, authorized, (owned.authorization _ held).1,
        (owned.authorization _ held).2, unexpired, vehicle⟩⟩
    intro type needed
    obtain ⟨item, mem, current, rfl⟩ := meets.evidence type needed
    refine ⟨item, filter_eq_singleton meets.apart mem current ?_ fun other _ passes => ?_⟩
    · exact decide_eq_true ⟨rfl, owned.evidence item mem needed current⟩
    · obtain ⟨same, holds⟩ := of_decide_eq_true passes
      exact ⟨holds.1, same⟩

/-- The records of driver 5, evaluated for a driver. -/
def sampleRecords (driverIdentityId : Uuid) : EligibilityInputs where
  driverIdentityId
  accountActive := true
  onboarding := some { sampleCase with state := .approved }
  vehicle := some ⟨3, 3, .approved⟩
  authorization := some sampleAuthorization
  evidence := [sampleLicence.withReview .approved 9 [] 1]
  time := 1
  unresolvedRestriction := false

/-- Driver 8 is found eligible on the case of driver 5. -/
theorem eligible_on_other_records :
    ¬ ∀ (policy : EligibilityPolicy) (inputs : EligibilityInputs) (decisionId audit : Uuid),
      (evaluateEligibility policy inputs decisionId audit).status = .eligible →
        EverythingInForce policy inputs := by
  intro law
  have inForce := law sampleConfig.policy (sampleRecords 8) 0 0 (by decide +kernel)
  obtain ⟨onboarding, opened, _, owned⟩ := inForce.onboarding
  have foreign : ∀ onboarding ∈ (sampleRecords 8).onboarding,
      onboarding.driverIdentityId ≠ (sampleRecords 8).driverIdentityId := by decide +kernel
  exact foreign onboarding opened owned

section

theorem exists_last {moments : List Instant} {first bound : Instant} (mem : first ∈ moments)
    (le : first ≤ bound) : ∃ last ∈ moments, last ≤ bound ∧
      ∀ other ∈ moments, other ≤ bound → other ≤ last := by
  have kept : ∀ {other}, other ∈ moments.filter (· ≤ bound) ↔ other ∈ moments ∧ other ≤ bound := by
    simp
  obtain ⟨last, found⟩ :=
    Option.isSome_iff_exists.1 (List.isSome_max?_of_mem (kept.2 ⟨mem, le⟩))
  obtain ⟨held, greatest⟩ := List.max?_eq_some_iff.1 found
  exact ⟨last, (kept.1 held).1, (kept.1 held).2, fun other listed below =>
    greatest other (kept.2 ⟨listed, below⟩)⟩

theorem approved_eq_some_iff {evidence : List DocumentEvidence}
    {type : EvidenceType} {item : DocumentEvidence} (apart : evidence.Pairwise (Apart time)) :
    (tallyOf time evidence).approved type = some item ↔
      item ∈ evidence ∧ Current time item ∧ item.evidenceType = type := by
  refine ⟨of_approved, ?_⟩
  rintro ⟨mem, current, same⟩
  obtain ⟨other, held⟩ :=
    Option.isSome_iff_exists.1 (approved_isSome_iff.2 ⟨item, mem, current, same⟩)
  obtain ⟨listed, standing, alike⟩ := of_approved held
  rw [held, eq_of_apart apart listed mem standing current (alike.trans same.symm)]

def RunsOut (inputs : EligibilityInputs) (moment : Instant) : Prop :=
  (∃ item ∈ inputs.evidence, Current inputs.time item ∧ endOfDay item.expiryDate = moment) ∨
    ∃ authorization ∈ inputs.authorization, authorization.expiresAt = moment

theorem mem_expiries (apart : inputs.evidence.Pairwise (Apart inputs.time)) {moment : Instant} :
    moment ∈ expiries inputs ↔ RunsOut inputs moment := by
  simp only [expiries, List.mem_append, List.mem_filterMap, mem_sortedTypes, true_and,
    Option.map_eq_some_iff, Option.mem_toList, approved_eq_some_iff apart, RunsOut, Option.mem_def]
  refine or_congr_left ⟨?_, ?_⟩
  · rintro ⟨_, item, ⟨mem, current, _⟩, ends⟩
    exact ⟨item, mem, current, ends⟩
  · rintro ⟨item, mem, current, ends⟩
    exact ⟨item.evidenceType, item, ⟨mem, current, rfl⟩, ends⟩

theorem expiringSoon_iff (apart : inputs.evidence.Pairwise (Apart inputs.time)) :
    ExpiringSoon policy inputs ↔ ∃ moment, RunsOut inputs moment ∧
      moment ≤ inputs.time + policy.expiringSoonDays * dayLength := by
  constructor
  · rintro ⟨moment, least, soon⟩
    exact ⟨moment, (mem_expiries apart).1 (List.min?_eq_some_iff.1 least).1, soon⟩
  · rintro ⟨moment, ends, soon⟩
    have mem := (mem_expiries apart).2 ends
    obtain ⟨least, found⟩ := Option.isSome_iff_exists.1 (List.isSome_min?_of_mem mem)
    exact ⟨least, found, ((List.min?_eq_some_iff.1 found).2 moment mem).trans soon⟩

theorem reason_congr {p q : Prop} [Decidable p] [Decidable q] {code : String} (same : p ↔ q) :
    reason p code = reason q code := by
  simp [reason, same]

theorem missingEvidence_perm {evidence : List DocumentEvidence}
    (same : evidence.Perm inputs.evidence) :
    missingEvidence policy { inputs with evidence } = missingEvidence policy inputs := by
  refine List.filter_congr fun type _ => ?_
  have held : ((tallyOf inputs.time evidence).approved type).isSome = true ↔
      ((tallyOf inputs.time inputs.evidence).approved type).isSome = true := by
    simp only [approved_isSome_iff, same.mem_iff]
  rw [← Option.not_isSome, ← Option.not_isSome, Bool.eq_iff_iff.2 held]

theorem reasons_perm {evidence : List DocumentEvidence} (same : evidence.Perm inputs.evidence) :
    reasons policy { inputs with evidence } = reasons policy inputs := by
  have consistent : (∃ type ∈ sortedTypes,
        (tallyOf inputs.time evidence).contradictory type = true) ↔
      ∃ type ∈ sortedTypes,
        (tallyOf inputs.time inputs.evidence).contradictory type = true := by
    rw [contradictory_iff, contradictory_iff, same.pairwise_iff apart_symm]
  unfold reasons
  rw [missingEvidence_perm same, reason_congr consistent]
  rfl

theorem expiries_perm {evidence : List DocumentEvidence} (same : evidence.Perm inputs.evidence)
    (apart : inputs.evidence.Pairwise (Apart inputs.time)) :
    expiries { inputs with evidence } = expiries inputs := by
  have alike : (tallyOf inputs.time evidence).approved =
      (tallyOf inputs.time inputs.evidence).approved := by
    funext type
    refine Option.ext fun item => ?_
    rw [approved_eq_some_iff ((same.pairwise_iff apart_symm).2 apart),
      approved_eq_some_iff apart, same.mem_iff]
  unfold expiries
  rw [alike]

/-- The same evidence in another order is decided alike, and with the same expiry unless the driver
is ineligible. -/
def OrderFree (policy : EligibilityPolicy) (inputs : EligibilityInputs) : Prop :=
  ∀ (decisionId auditReference : Uuid) (evidence : List DocumentEvidence),
    evidence.Perm inputs.evidence →
      let decision := evaluateEligibility policy inputs decisionId auditReference
      let other := evaluateEligibility policy { inputs with evidence } decisionId auditReference
      other.status = decision.status ∧ other.reasonCodes = decision.reasonCodes ∧
        other.missingEvidence = decision.missingEvidence ∧
        (decision.status ≠ .ineligible → other.expiresAt = decision.expiresAt)

theorem orderFree (policy : EligibilityPolicy) (inputs : EligibilityInputs) :
    OrderFree policy inputs := by
  intro decisionId auditReference evidence same
  by_cases unmet : reasons policy inputs = []
  · have apart := ((reasons_eq_nil policy inputs).1 unmet).apart
    have ends := expiries_perm same apart
    have soon : ExpiringSoon policy { inputs with evidence } ↔ ExpiringSoon policy inputs := by
      unfold ExpiringSoon
      rw [ends]
    simp only [evaluateEligibility, statusOf, reasons_perm same, missingEvidence_perm same, ends,
      soon, implies_true, and_self]
  · have refused : statusOf policy inputs = .ineligible := by rw [statusOf, if_neg unmet]
    refine ⟨?_, ?_, missingEvidence_perm same, fun admitted => absurd refused admitted⟩
    · simp only [evaluateEligibility, statusOf, reasons_perm same, if_neg unmet]
    · simp only [evaluateEligibility, reasons_perm same, if_neg unmet]

theorem dayOf_le_iff {day : Day} : dayOf time ≤ day ↔ time ≤ endOfDay day := by
  rw [← Int.lt_add_one_iff, dayOf, Int.ediv_lt_iff_lt_mul (by decide)]
  have next : (day + 1) * dayLength = endOfDay day + 1 := by
    rw [Int.add_mul, endOfDay, Int.add_assoc]
    rfl
  rw [next]
  exact Int.lt_add_one_iff

theorem current_later_iff {later : Instant} {item : DocumentEvidence}
    (current : Current time item) : Current later item ↔ later ≤ endOfDay item.expiryDate :=
  (and_iff_right current.1).trans dayOf_le_iff

theorem current_earlier {later : Instant} {item : DocumentEvidence}
    (current : Current later item) (le : time ≤ later) : Current time item :=
  ⟨current.1, (dayOf_mono le).trans current.2⟩

theorem soon_nonneg (policy : EligibilityPolicy) :
    (0 : Int) ≤ policy.expiringSoonDays * dayLength :=
  Int.mul_nonneg (Int.natCast_nonneg _) (by decide)

def NeededAfter (policy : EligibilityPolicy) (inputs : EligibilityInputs) (moment : Instant) :
    Prop :=
  (∀ item ∈ inputs.evidence, Current inputs.time item → item.evidenceType ∈ required policy →
    moment < endOfDay item.expiryDate) ∧
  ∀ authorization ∈ inputs.authorization, moment < authorization.expiresAt

/-- Each document that runs out before all that is needed is followed so soon by the next expiry
that the driver stays under reverification. -/
def Bridged (policy : EligibilityPolicy) (inputs : EligibilityInputs) : Prop :=
  ∀ item ∈ inputs.evidence, Current inputs.time item →
    NeededAfter policy inputs (endOfDay item.expiryDate) →
      ∃ moment, RunsOut inputs moment ∧ endOfDay item.expiryDate < moment ∧
        moment ≤ endOfDay item.expiryDate + 1 + policy.expiringSoonDays * dayLength

/-- An eligible driver stays so with the same expiry until it is near, is under reverification from
then on, and is never eligible from the expiry on. -/
def StableUntilExpiry (policy : EligibilityPolicy) (inputs : EligibilityInputs) : Prop :=
  ∀ (decisionId auditReference : Uuid) (expiry : Instant),
    let decide (time : Instant) :=
      evaluateEligibility policy { inputs with time } decisionId auditReference
    (decide inputs.time).status = .eligible → (decide inputs.time).expiresAt = some expiry →
      (∀ later, inputs.time ≤ later → later + policy.expiringSoonDays * dayLength < expiry →
        (decide later).status = .eligible ∧ (decide later).expiresAt = some expiry) ∧
      (∀ later, inputs.time ≤ later → expiry ≤ later + policy.expiringSoonDays * dayLength →
        later < expiry → (decide later).status = .reverificationRequired) ∧
      ∀ later, expiry ≤ later → (decide later).status ≠ .eligible

section

variable {later : Instant} (meets : Meets policy inputs)

theorem runsOut_of_later {moment : Instant} (le : inputs.time ≤ later)
    (ends : RunsOut { inputs with time := later } moment) : RunsOut inputs moment := by
  obtain ⟨item, mem, current, same⟩ | authorized := ends
  · exact .inl ⟨item, mem, current_earlier current le, same⟩
  · exact .inr authorized

theorem runsOut_later {moment : Instant} (ends : RunsOut inputs moment) (le : later ≤ moment) :
    RunsOut { inputs with time := later } moment := by
  obtain ⟨item, mem, current, rfl⟩ | authorized := ends
  · exact .inl ⟨item, mem, (current_later_iff current).2 le, rfl⟩
  · exact .inr authorized

include meets

theorem meets_later (le : inputs.time ≤ later)
    (evidence : ∀ item ∈ inputs.evidence, Current inputs.time item →
      item.evidenceType ∈ required policy → later ≤ endOfDay item.expiryDate)
    (authorization : ∀ authorization ∈ inputs.authorization, later < authorization.expiresAt) :
    Meets policy { inputs with time := later } := by
  refine ⟨meets.account, meets.onboarding, meets.vehicle, ?_, ?_,
    meets.apart.imp (apart_later le), meets.unrestricted⟩
  · obtain ⟨held, mem, authorized, _, drives⟩ := meets.authorization
    exact ⟨held, mem, authorized, authorization held mem, drives⟩
  · intro type needed
    obtain ⟨item, mem, current, rfl⟩ := meets.evidence type needed
    exact ⟨item, mem, (current_later_iff current).2 (evidence item mem current needed), rfl⟩

variable {expiry : Instant} (least : (expiries inputs).min? = some expiry)

include least

theorem unchanged_until (le : inputs.time ≤ later) (before : later < expiry) :
    Meets policy { inputs with time := later } ∧
      expiries { inputs with time := later } = expiries inputs := by
  have after : ∀ moment, RunsOut inputs moment → later < moment := fun moment ends =>
    before.trans_le ((List.min?_eq_some_iff.1 least).2 moment ((mem_expiries meets.apart).2 ends))
  constructor
  · refine meets_later meets le (fun item mem current _ => ?_) fun held mem => ?_
    · exact (after _ (.inl ⟨item, mem, current, rfl⟩)).le
    · exact after _ (.inr ⟨held, mem, rfl⟩)
  · have same : tallyOf later inputs.evidence = tallyOf inputs.time inputs.evidence := by
      refine List.foldl_ext _ _ _ fun tally item mem => ?_
      have alike : Current later item ↔ Current inputs.time item := by
        refine ⟨fun current => current_earlier current le, fun current =>
          (current_later_iff current).2 ?_⟩
        exact (after _ (.inl ⟨item, mem, current, rfl⟩)).le
      simp only [Tally.add, alike]
    unfold expiries
    rw [same]

theorem stable_until (le : inputs.time ≤ later) (before : later < expiry) :
    statusOf policy { inputs with time := later } =
        (if expiry ≤ later + policy.expiringSoonDays * dayLength then .reverificationRequired
          else .eligible) ∧
      (expiries { inputs with time := later }).min? = some expiry := by
  obtain ⟨standing, same⟩ := unchanged_until meets least le before
  rw [statusOf, if_pos ((reasons_eq_nil _ _).2 standing)]
  simp [ExpiringSoon, same, least]

theorem bridged_of_never
    (never : ∀ later, expiry ≤ later → statusOf policy { inputs with time := later } ≠ .eligible) :
    Bridged policy inputs := by
  intro item mem current needed
  by_contra gap
  have runsOut : RunsOut inputs (endOfDay item.expiryDate) := .inl ⟨item, mem, current, rfl⟩
  have first : expiry ≤ endOfDay item.expiryDate :=
    (List.min?_eq_some_iff.1 least).2 _ ((mem_expiries meets.apart).2 runsOut)
  have le : inputs.time ≤ endOfDay item.expiryDate + 1 :=
    ((current_later_iff current).1 current).trans (Int.le_add_one le_rfl)
  have far : ∀ moment, RunsOut inputs moment → endOfDay item.expiryDate < moment →
      endOfDay item.expiryDate + 1 + policy.expiringSoonDays * dayLength < moment :=
    fun moment ends after => not_le.1 fun soon => gap ⟨moment, ends, after, soon⟩
  have standing : Meets policy { inputs with time := endOfDay item.expiryDate + 1 } := by
    refine meets_later meets le (fun other held standing asked => ?_) fun held named => ?_
    · exact Int.add_one_le_iff.2 (needed.1 other held standing asked)
    · refine lt_of_le_of_lt ?_ (far _ (.inr ⟨held, named, rfl⟩) (needed.2 held named))
      exact Int.le_add_of_nonneg_right (soon_nonneg policy)
  refine never _ (first.trans (Int.le_add_one le_rfl)) (eligible_iff.2 ⟨standing, fun soon => ?_⟩)
  obtain ⟨moment, ends, near⟩ := (expiringSoon_iff standing.apart).1 soon
  have after : endOfDay item.expiryDate < moment := by
    obtain ⟨other, _, other_current, rfl⟩ | ⟨held, named, rfl⟩ := ends
    · exact Int.add_one_le_iff.1 (dayOf_le_iff.1 other_current.2)
    · exact needed.2 held named
  exact absurd near (not_le.2 (far moment (runsOut_of_later le ends) after))

theorem not_eligible_from (late : ¬ ExpiringSoon policy inputs) (bridged : Bridged policy inputs)
    (after : expiry ≤ later) : statusOf policy { inputs with time := later } ≠ .eligible := by
  intro again
  obtain ⟨standing, still⟩ := eligible_iff.1 again
  have le : inputs.time ≤ later := by
    refine (Int.le_add_of_nonneg_right (soon_nonneg policy)).trans (le_trans ?_ after)
    exact (not_le.1 fun soon => late ⟨expiry, least, soon⟩).le
  have far : ∀ moment, RunsOut inputs moment → later ≤ moment →
      later + policy.expiringSoonDays * dayLength < moment := fun moment ends le =>
    not_le.1 fun soon =>
      still ((expiringSoon_iff standing.apart).2 ⟨moment, runsOut_later ends le, soon⟩)
  have beyond : ∀ moment, RunsOut inputs moment → later ≤ moment → later < moment :=
    fun moment ends le =>
      (Int.le_add_of_nonneg_right (soon_nonneg policy)).trans_lt (far moment ends le)
  -- The last expiry that has passed is that of a document that was not needed.
  obtain ⟨last, ends, passed, greatest⟩ := exists_last (List.min?_eq_some_iff.1 least).1 after
  obtain ⟨item, mem, current, rfl⟩ | ⟨held, named, rfl⟩ := (mem_expiries meets.apart).1 ends
  · have needed : NeededAfter policy inputs (endOfDay item.expiryDate) := by
      constructor
      · intro other listed isCurrent asked
        obtain ⟨found, kept, outlasts, alike⟩ := standing.evidence _ asked
        have same := eq_of_apart meets.apart kept listed (current_earlier outlasts le) isCurrent
          alike
        exact passed.trans_lt (beyond _ (.inl ⟨other, listed, isCurrent, rfl⟩)
          (dayOf_le_iff.1 (same ▸ outlasts.2)))
      · intro held named
        obtain ⟨other, same, _, unexpired, _⟩ := standing.authorization
        exact Option.mem_unique same named ▸ passed.trans_lt unexpired
    obtain ⟨moment, ends, next, near⟩ := bridged item mem current needed
    have future : later < moment := not_le.1 fun early =>
      absurd (greatest moment ((mem_expiries meets.apart).2 ends) early) (not_le.2 next)
    have gap := (far moment ends future.le).trans_le near
    have same := passed.antisymm (Int.lt_add_one_iff.1 (Int.lt_of_add_lt_add_right gap))
    exact absurd same (beyond _ (.inl ⟨item, mem, current, rfl⟩) same.ge).ne'
  · obtain ⟨other, same, _, unexpired, _⟩ := standing.authorization
    exact absurd passed (not_le.2 (Option.mem_unique same named ▸ unexpired))

end

/-- Every permutation is decided alike; and a decision holds until its expiry and no longer where,
if the driver is eligible, no expiry before what is needed runs out leaves a gap. -/
theorem order_free_and_stable_iff (policy : EligibilityPolicy) (inputs : EligibilityInputs) :
    (OrderFree policy inputs ∧ StableUntilExpiry policy inputs) ↔
      (Meets policy inputs ∧ ¬ ExpiringSoon policy inputs → Bridged policy inputs) := by
  rw [and_iff_right (orderFree policy inputs)]
  constructor
  · rintro stable ⟨meets, late⟩
    obtain ⟨held, named, _⟩ := meets.authorization
    have listed := (mem_expiries meets.apart).2 (.inr ⟨held, named, rfl⟩)
    obtain ⟨expiry, least⟩ := Option.isSome_iff_exists.1 (List.isSome_min?_of_mem listed)
    exact bridged_of_never meets least
      (stable 0 0 expiry (eligible_iff.2 ⟨meets, late⟩) least).2.2
  · intro bridged decisionId auditReference expiry decision eligible least
    obtain ⟨meets, late⟩ := eligible_iff.1 eligible
    refine ⟨fun later le far => ?_, fun later le near before => ?_, fun later after => ?_⟩
    · have before := (Int.le_add_of_nonneg_right (soon_nonneg policy)).trans_lt far
      obtain ⟨status, same⟩ := stable_until meets least le before
      exact ⟨status.trans (if_neg (not_le.2 far)), same⟩
    · exact (stable_until meets least le before).1.trans (if_pos near)
    · exact not_eligible_from meets least late (bridged ⟨meets, late⟩) after

def sampleInsurance : DocumentEvidence :=
  { sampleLicence.withReview .approved 9 [] 0 with
    evidenceType := .insurance, expiryDate := 40, period := by decide }

/-- Once that insurance has run out, driver 5 is eligible again. -/
theorem eligible_after_expiry :
    ¬ ∀ (policy : EligibilityPolicy) (inputs : EligibilityInputs),
      OrderFree policy inputs ∧ StableUntilExpiry policy inputs := by
  intro law
  have stable := (law sampleConfig.policy { sampleRecords 5 with
    evidence := sampleInsurance :: (sampleRecords 5).evidence }).2 0 0 (endOfDay 40)
      (by decide +kernel) (by decide +kernel)
  exact stable.2.2 (endOfDay 40 + 1) (by decide +kernel) (by decide +kernel)

end

end Ayo.DriverTrust.InForce
