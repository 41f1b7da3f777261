/- digest: When the receivable of a cash ride is open for the claim until cleared. -/

import Ayo.Persistence.BookIsolation
import Ayo.PostTrip.CashJournals
import Ayo.Pricing.Corrections

namespace Ayo.PostTrip.OpenReceivables

open Kernel.UnitOfWork Kernel.Run Kernel.KeyedTable Core.Values Core.Authorization Ledger.Lineage
  Ledger.Models
open Ledger.Repository (LedgerStore LedgerTransaction)
open Ledger.ReplayView (sampleCalculations)
open Ledger.RideNet
open Ledger.TrialBalance (addBook addAccount)
open Payment.SingleCapture (moment sampleReads)
open Persistence.BookIsolation (agentTerms cashConfig cashReads corroborated)
open Persistence.Composition
open Persistence.LedgerWriters (cashPost_effect clear_effect)
open Pricing.Application (PricingCall PricingConfig pricingStep)
open CashAccounting CashJournals CashLedger ReceivableEntries Repository

/-- Reads whose calculations name their ride, as the pricing repository checks of every row. -/
structure TracedReads extends FinancialReads where
  traced : ∀ id, ∀ calculation ∈ calculations id,
    calculation.financialTraceability.activeRideId = some calculation.rideId

/-- A calculation as the financial services read it. -/
def readCalculation (row : Pricing.Records.FareCalculation) : Pricing.Models.FareCalculation where
  calculationId := row.calculationId
  rideId := row.rideId
  riderIdentityId := row.riderIdentityId
  driverIdentityId := row.driverIdentityId
  state := row.state
  breakdown := ⟨etb, row.breakdown.riderTotalMinor⟩
  financialTraceability := row.financialTraceability.toFinancialTraceability

/-- Reads of the calculations that a run of the pricing application has stored. -/
def readsOf (reads : FinancialReads) (config : PricingConfig) (calls : List PricingCall) :
    TracedReads where
  toFinancialReads :=
    { reads with calculations := fun id =>
        ((run (pricingStep config) {} calls).calculations.find id).map readCalculation }
  traced := by
    rintro id _ found
    obtain ⟨row, held, rfl⟩ := Option.map_eq_some_iff.1 found
    exact Pricing.Corrections.allTraced_of_run config calls row (Table.mem_of_find held)

/-- A unit of work of the two cash applications, or a row that they find there. -/
inductive CashCall where
  | addBook (book : LedgerBook)
  | addAccount (account : LedgerAccount)
  | addPolicy (policy : CashAccountingPolicy)
  | addEvidence (evidence : CashCollectionEvidence)
  | post (reads : TracedReads) (subject : AuthorizationSubject) (request : CashPostRequest)
  | clear (reads : TracedReads) (subject : AuthorizationSubject) (request : ClearRequest)

variable (config : CashConfig) (store : FinancialStore)

def cashStep : CashCall → FinancialStore
  | .addBook book => commit (onLedger (addBook book)) store
  | .addAccount account => commit (onLedger (addAccount account)) store
  | .addPolicy policy => commit (onPostTrip (addCashAccountingPolicy policy)) store
  | .addEvidence evidence => commit (onPostTrip (addCashCollectionEvidence evidence)) store
  | .post reads subject request => commit (post config reads.toFinancialReads subject request) store
  | .clear reads subject request =>
    commit (clear config reads.toFinancialReads subject request) store

def receivableOf (item : CashAccountingRecord) : Option Uuid := do
  let policy ← store.postTrip.policies.find item.accountingPolicyId
  let code ← receivableCode policy
  config.accountIds code

def journalsOf (rideId : Uuid) (type : Code) : List JournalHeader :=
  (rideJournals store.ledger rideId).filter fun header => header.businessEventType = type

/-- A ride has at most one accounting journal and at most one clearing journal. -/
def PostedOnce (rideId : Uuid) : Prop :=
  (journalsOf store rideId rideCashAccounting).length ≤ 1 ∧
    (journalsOf store rideId rideCashReconciliation).length ≤ 1

/-- The journals of a ride come to the claim on its receivable while its record is pending, and to
nothing once it is cleared. -/
def OpenWhilePending (rideId : Uuid) : Prop :=
  ∀ item ∈ store.postTrip.accountingRecords.find rideId,
    ∃ receivableId ∈ receivableOf config store item, (item.reconciliationState = .pending →
        rideNet store.ledger rideId receivableId = item.platformClaimMinor) ∧
      (item.reconciliationState = .cleared → rideNet store.ledger rideId receivableId = 0)
deriving Decidable

/-- A posting that would open a record is under a policy that credits nothing to its receivable, and
a clearing of an open record is under a policy whose clearing account is not its receivable. -/
def Apart : CashCall → Prop
  | .post _ _ request =>
    ∀ policy ∈ store.postTrip.policies.find request.accountingPolicyId,
    ∀ evidence ∈ collectedEvidence store request.rideId,
      store.postTrip.accountingRecords.find request.rideId = none →
      receivableCode policy ∉ creditedCodes policy evidence.grossCashReportedMinor
  | .clear _ _ request =>
    ∀ item ∈ store.postTrip.accountingRecords.find request.evidence.rideId,
      item.reconciliationState ≠ .cleared →
      ∀ policy ∈ store.postTrip.policies.find item.accountingPolicyId,
        receivableCode policy ≠ some policy.reconciliationClearingAccount
  | _ => True

/-- Where the cash accounting of a ride stands; the nets hold where the accounts are `apart`. -/
inductive Standing (apart : Prop) (config : CashConfig) (store : FinancialStore)
    (rideId : Uuid) : Prop
  | unopened (unrecorded : store.postTrip.accountingRecords.find rideId = none)
      (unposted : rideJournals store.ledger rideId = [])
  | pending (item : CashAccountingRecord) (receivableId : Uuid) (opening : JournalHeader)
      (recorded : store.postTrip.accountingRecords.find rideId = some item)
      (state : item.reconciliationState = .pending)
      (receivable : receivableOf config store item = some receivableId)
      (journals : rideJournals store.ledger rideId = [opening])
      (opens : opening.businessEventType = rideCashAccounting)
      (owed : apart → rideNet store.ledger rideId receivableId = item.platformClaimMinor)
  | cleared (item : CashAccountingRecord) (receivableId : Uuid) (opening clearing : JournalHeader)
      (recorded : store.postTrip.accountingRecords.find rideId = some item)
      (state : item.reconciliationState = .cleared)
      (receivable : receivableOf config store item = some receivableId)
      (journals : rideJournals store.ledger rideId = [opening, clearing])
      (opens : opening.businessEventType = rideCashAccounting)
      (clears : clearing.businessEventType = rideCashReconciliation)
      (settled : apart → rideNet store.ledger rideId receivableId = 0)

section

variable {apart : Prop} {config : CashConfig} {s t store : FinancialStore} {rideId : Uuid}

theorem Standing.postedOnce (standing : Standing apart config store rideId) :
    PostedOnce store rideId := by
  have different : rideCashAccounting ≠ rideCashReconciliation := by decide
  cases standing with
  | unopened _ unposted =>
    simp [PostedOnce, journalsOf, unposted]
  | pending item receivableId opening _ _ _ journals opens _ =>
    simp [PostedOnce, journalsOf, journals, opens, different]
  | cleared item receivableId opening clearing _ _ _ journals opens clears _ =>
    simp [PostedOnce, journalsOf, journals, opens, clears, different, different.symm]

theorem Standing.openWhilePending (kept : apart) (standing : Standing apart config store rideId) :
    OpenWhilePending config store rideId := by
  intro other found
  cases standing with
  | unopened unrecorded _ =>
    rw [unrecorded] at found
    cases found
  | pending item receivableId opening recorded state receivable _ _ owed =>
    obtain rfl : item = other := Option.some_inj.1 (recorded.symm.trans found)
    refine ⟨receivableId, receivable, fun _ => owed kept, fun cleared => ?_⟩
    rw [state] at cleared
    cases cleared
  | cleared item receivableId opening clearing recorded state receivable _ _ _ settled =>
    obtain rfl : item = other := Option.some_inj.1 (recorded.symm.trans found)
    refine ⟨receivableId, receivable, fun pending => ?_, fun _ => settled kept⟩
    rw [state] at pending
    cases pending

theorem receivableOf_of_kept (policies : ∀ id policy, s.postTrip.policies.find id = some policy →
      t.postTrip.policies.find id = some policy)
    {item : CashAccountingRecord} {receivableId : Uuid}
    (receivable : receivableOf config s item = some receivableId) :
    receivableOf config t item = some receivableId := by
  simp only [receivableOf, Option.bind_eq_bind, Option.bind_eq_some_iff] at receivable ⊢
  obtain ⟨policy, found, rest⟩ := receivable
  exact ⟨policy, policies _ _ found, rest⟩

theorem Standing.of_kept (standing : Standing apart config s rideId)
    (record : t.postTrip.accountingRecords.find rideId = s.postTrip.accountingRecords.find rideId)
    (journals : rideJournals t.ledger rideId = rideJournals s.ledger rideId)
    (nets : ∀ accountId, rideNet t.ledger rideId accountId = rideNet s.ledger rideId accountId)
    (policies : ∀ id policy, s.postTrip.policies.find id = some policy →
      t.postTrip.policies.find id = some policy) : Standing apart config t rideId := by
  cases standing with
  | unopened unrecorded unposted =>
    exact .unopened (record.trans unrecorded) (journals.trans unposted)
  | pending item receivableId opening recorded state receivable posted opens owed =>
    refine .pending item receivableId opening (record.trans recorded) state
      (receivableOf_of_kept policies receivable) (journals.trans posted) opens fun kept => ?_
    rw [nets]
    exact owed kept
  | cleared item receivableId opening clearing recorded state receivable posted opens clears
      settled =>
    refine .cleared item receivableId opening clearing (record.trans recorded) state
      (receivableOf_of_kept policies receivable) (journals.trans posted) opens clears fun kept => ?_
    rw [nets]
    exact settled kept

end

theorem kept_of_placed {s t : FinancialStore} {journal : LedgerJournal} {rideId : Uuid}
    (housed : Housed s.ledger) (other : journal.traceability.activeRideId ≠ rideId)
    (journals : t.ledger.journals.rows = s.ledger.journals.rows ++ [journal.toJournalHeader])
    (entries : t.ledger.entries.rows =
      s.ledger.entries.rows ++ journal.entries.map fun entry => ⟨journal.journalId, entry⟩) :
    rideJournals t.ledger rideId = rideJournals s.ledger rideId ∧
      ∀ accountId, rideNet t.ledger rideId accountId = rideNet s.ledger rideId accountId := by
  constructor
  · rw [rideJournals_of_posted journals, if_neg other, List.append_nil]
  · intro accountId
    rw [rideNet_of_posted housed journals entries, if_neg other, Int.add_zero]

section

variable {apart : Prop} {config : CashConfig} {s t : FinancialStore} {request : CashPostRequest}

section
variable (opening : Opening config request s t)
include opening

theorem find_of_opening (rideId : Uuid) :
    t.postTrip.accountingRecords.find rideId = (s.postTrip.accountingRecords.find rideId).or
        (if opening.item.rideId = rideId then some opening.item else none) :=
  Table.find_of_rows_append opening.recorded rideId

theorem policies_of_opening (id : Uuid)
    (policy : CashAccountingPolicy) (found : s.postTrip.policies.find id = some policy) :
    t.postTrip.policies.find id = some policy := by
  rwa [opening.policies]

theorem posted_of_opening (standing : Standing apart config s request.rideId) :
    rideJournals s.ledger request.rideId = [] ∧ t.ledger.journals.rows =
        s.ledger.journals.rows ++ [opening.journal.toJournalHeader] ∧
      t.ledger.entries.rows = s.ledger.entries.rows ++
        opening.journal.entries.map fun entry => ⟨opening.journal.journalId, entry⟩ := by
  have unposted : rideJournals s.ledger request.rideId = [] := by
    cases standing with
    | unopened _ unposted => exact unposted
    | pending other _ _ found =>
      rw [opening.unrecorded] at found
      cases found
    | cleared other _ _ _ found =>
      rw [opening.unrecorded] at found
      cases found
  cases opening.placed with
  | found held =>
    have listed : opening.journal.toJournalHeader ∈ rideJournals s.ledger request.rideId :=
      List.mem_filter.2 ⟨held, by simp [opening.named]⟩
    rw [unposted] at listed
    cases listed
  | posted journals entries => exact ⟨unposted, journals, entries⟩

theorem ride_of_opening
    (housed : Housed s.ledger) (standing : Standing apart config s request.rideId) :
    t.postTrip.accountingRecords.find request.rideId = some opening.item ∧
      receivableOf config t opening.item = some opening.receivableId ∧
      rideJournals t.ledger request.rideId = [opening.journal.toJournalHeader] ∧
      rideNet t.ledger request.rideId opening.receivableId =
        net opening.receivableId opening.journal.entries := by
  obtain ⟨unposted, journals, entries⟩ := posted_of_opening opening standing
  refine ⟨?_, ?_, ?_, ?_⟩
  · rw [find_of_opening opening, opening.unrecorded, if_pos opening.ride]
    rfl
  · refine receivableOf_of_kept (policies_of_opening opening) ?_
    simp only [receivableOf, opening.policyId, opening.terms, opening.receivable, opening.mapped,
      Option.bind_eq_bind, Option.bind_some]
  · rw [rideJournals_of_posted journals, unposted, if_pos opening.named]
    rfl
  · rw [rideNet_of_posted housed journals entries, rideNet_of_unnamed unposted,
      if_pos opening.named, Int.zero_add]

theorem standing_of_opening (keeps : apart → receivableCode opening.policy ∉
      creditedCodes opening.policy opening.evidence.grossCashReportedMinor)
    (housed : Housed s.ledger) (standing : ∀ rideId, Standing apart config s rideId)
    (rideId : Uuid) : Standing apart config t rideId := by
  by_cases same : rideId = request.rideId
  · subst same
    obtain ⟨found, receivable, journals, net⟩ :=
      ride_of_opening opening housed (standing request.rideId)
    refine .pending opening.item opening.receivableId opening.journal.toJournalHeader found
      opening.pending receivable journals opening.opens fun kept => ?_
    rw [net, opening.claimed, ← opening.receivable]
    exact keeps kept
  · have other : opening.journal.traceability.activeRideId ≠ rideId := by
      rw [opening.named]
      exact Ne.symm same
    obtain ⟨_, journals, entries⟩ := posted_of_opening opening (standing request.rideId)
    obtain ⟨sameJournals, sameNets⟩ := kept_of_placed housed other journals entries
    refine (standing rideId).of_kept ?_ sameJournals sameNets (policies_of_opening opening)
    rw [find_of_opening opening, if_neg (by rw [opening.ride]; exact Ne.symm same), Option.or_none]

end

end

section

variable {apart : Prop} {config : CashConfig} {s t : FinancialStore} {request : ClearRequest}

section
variable (clearing : Clearing config request s t)
include clearing

theorem find_of_clearing (rideId : Uuid) :
    t.postTrip.accountingRecords.find rideId = if rideId = clearing.changed.rideId then
        (s.postTrip.accountingRecords.find rideId).map fun _ => clearing.changed
      else s.postTrip.accountingRecords.find rideId :=
  Table.find_of_rows_replaced clearing.replaced rideId

theorem policies_of_clearing (id : Uuid)
    (policy : CashAccountingPolicy) (found : s.postTrip.policies.find id = some policy) :
    t.postTrip.policies.find id = some policy := by
  rwa [clearing.policies]

theorem ride_named_of_clearing : clearing.item.rideId = request.evidence.rideId :=
  Table.key_of_find clearing.found

theorem posted_of_clearing (standing : Standing apart config s request.evidence.rideId) :
    (∃ opening, rideJournals s.ledger request.evidence.rideId = [opening] ∧
      opening.businessEventType = rideCashAccounting) ∧
    (apart → rideNet s.ledger request.evidence.rideId clearing.receivableId =
      clearing.item.platformClaimMinor) ∧
    t.ledger.journals.rows = s.ledger.journals.rows ++ [clearing.journal.toJournalHeader] ∧
    t.ledger.entries.rows = s.ledger.entries.rows ++
      clearing.journal.entries.map fun entry => ⟨clearing.journal.journalId, entry⟩ := by
  have receivable : receivableOf config s clearing.item = some clearing.receivableId := by
    simp only [receivableOf, clearing.terms, clearing.receivable, clearing.mapped,
      Option.bind_eq_bind, Option.bind_some]
  obtain ⟨⟨opening, journals, opens⟩, owed⟩ :
      (∃ opening, rideJournals s.ledger request.evidence.rideId = [opening] ∧
        opening.businessEventType = rideCashAccounting) ∧
      (apart → rideNet s.ledger request.evidence.rideId clearing.receivableId =
        clearing.item.platformClaimMinor) := by
    cases standing with
    | unopened unrecorded =>
      have found := clearing.found
      rw [unrecorded] at found
      cases found
    | pending item receivableId opening recorded _ other journals opens owed =>
      obtain rfl : item = clearing.item := Option.some_inj.1 (recorded.symm.trans clearing.found)
      obtain rfl : receivableId = clearing.receivableId :=
        Option.some_inj.1 (other.symm.trans receivable)
      exact ⟨⟨opening, journals, opens⟩, owed⟩
    | cleared item _ _ _ recorded cleared =>
      obtain rfl : item = clearing.item := Option.some_inj.1 (recorded.symm.trans clearing.found)
      exact absurd cleared clearing.uncleared
  refine ⟨⟨opening, journals, opens⟩, owed, ?_⟩
  cases clearing.placed with
  | found held =>
    have listed : clearing.journal.toJournalHeader ∈
        rideJournals s.ledger request.evidence.rideId :=
      List.mem_filter.2 ⟨held, by simp [clearing.named, ride_named_of_clearing clearing]⟩
    rw [journals, List.mem_singleton] at listed
    have same : clearing.journal.businessEventType = rideCashAccounting := by
      rw [← opens, ← listed]
    rw [clearing.clears] at same
    exact absurd same (by decide)
  | posted journals entries => exact ⟨journals, entries⟩

theorem ride_of_clearing (housed : Housed s.ledger)
    (standing : Standing apart config s request.evidence.rideId) :
    t.postTrip.accountingRecords.find request.evidence.rideId = some clearing.changed ∧
      receivableOf config t clearing.changed = some clearing.receivableId ∧
      (apart → rideNet t.ledger request.evidence.rideId clearing.receivableId =
        if clearing.clearingId = clearing.receivableId then clearing.item.platformClaimMinor
        else 0) := by
  obtain ⟨_, owed, journals, entries⟩ := posted_of_clearing clearing standing
  have here := ride_named_of_clearing clearing
  refine ⟨?_, ?_, fun kept => ?_⟩
  · rw [find_of_clearing clearing, if_pos (here.symm.trans clearing.ride.symm), clearing.found]
    rfl
  · refine receivableOf_of_kept (policies_of_clearing clearing) ?_
    simp only [receivableOf, clearing.policyId, clearing.terms, clearing.receivable,
      clearing.mapped, Option.bind_eq_bind, Option.bind_some]
  · rw [rideNet_of_posted housed journals entries, owed kept,
      if_pos (clearing.named.trans here), clearing.moved]
    by_cases one : clearing.clearingId = clearing.receivableId
    · rw [if_pos one, if_pos one, Int.add_zero]
    · rw [if_neg one, if_neg one]
      omega

end

theorem accounts_differ (injective : InjectiveMapping config.accountIds)
    (clearing : Clearing config request s t)
    (keeps : receivableCode clearing.policy ≠ some clearing.policy.reconciliationClearingAccount) :
    clearing.clearingId ≠ clearing.receivableId := by
  intro one
  refine keeps ?_
  have mapped := clearing.mapped
  rw [← one] at mapped
  rw [clearing.receivable, injective _ _ _ mapped clearing.mappedClearing]

theorem standing_of_clearing (injective : InjectiveMapping config.accountIds)
    (clearing : Clearing config request s t)
    (keeps : apart → receivableCode clearing.policy ≠
      some clearing.policy.reconciliationClearingAccount)
    (housed : Housed s.ledger) (standing : ∀ rideId, Standing apart config s rideId)
    (rideId : Uuid) : Standing apart config t rideId := by
  obtain ⟨⟨opening, posted, opens⟩, _, journals, entries⟩ :=
    posted_of_clearing clearing (standing request.evidence.rideId)
  have here := ride_named_of_clearing clearing
  by_cases same : rideId = request.evidence.rideId
  · subst same
    obtain ⟨found, receivable, net⟩ :=
      ride_of_clearing clearing housed (standing request.evidence.rideId)
    refine .cleared clearing.changed clearing.receivableId opening
      clearing.journal.toJournalHeader found clearing.cleared receivable ?_ opens clearing.clears
      fun kept => ?_
    · rw [rideJournals_of_posted journals, posted, if_pos (clearing.named.trans here)]
      rfl
    · rw [net kept, if_neg (accounts_differ injective clearing (keeps kept))]
  · have other : clearing.journal.traceability.activeRideId ≠ rideId := by
      rw [clearing.named, here]
      exact Ne.symm same
    obtain ⟨sameJournals, sameNets⟩ := kept_of_placed housed other journals entries
    refine (standing rideId).of_kept ?_ sameJournals sameNets (policies_of_clearing clearing)
    rw [find_of_clearing clearing, if_neg (by rw [clearing.ride, here]; exact same)]

end

section

variable {apart : Prop} {config : CashConfig} {store : FinancialStore}

/-- Every entry lies in a stored journal, and the cash accounting of every ride stands. -/
structure Kept (apart : Prop) (config : CashConfig) (store : FinancialStore) : Prop where
  housed : Housed store.ledger
  standing : ∀ rideId, Standing apart config store rideId

theorem kept_of_start : Kept apart config {} := by
  refine ⟨?_, fun rideId => .unopened rfl rfl⟩
  intro row mem
  cases mem

private theorem kept_of_ledger {body : LedgerTransaction Unit}
    (journals : Keeps LedgerStore.journals body) (entries : Keeps LedgerStore.entries body)
    (kept : Kept apart config store) : Kept apart config (commit (onLedger body) store) := by
  obtain stays | ⟨a, finished⟩ := commit_cases (onLedger body) store
  · rw [stays]
    exact kept
  · obtain ⟨ledger, ran, same⟩ := onLedger_ok.1 finished
    rw [← same]
    have sameJournals := journals _ _ _ ran
    have sameEntries := entries _ _ _ ran
    refine ⟨?_, fun rideId => (kept.standing rideId).of_kept rfl ?_ ?_ fun _ _ found => found⟩
    · simpa only [Housed, sameJournals, sameEntries] using kept.housed
    · simp only [rideJournals, sameJournals]
    · intro accountId
      simp only [rideNet, rideEntries, rideJournals, sameJournals, sameEntries]

private theorem kept_of_postTrip {α : Type} {body : PostTripTransaction α}
    (records : Keeps PostTripStore.accountingRecords body)
    (policies : ∀ s a t, body s = .ok (a, t) → ∀ id policy,
      s.policies.find id = some policy → t.policies.find id = some policy)
    (kept : Kept apart config store) : Kept apart config (commit (onPostTrip body) store) := by
  obtain stays | ⟨a, finished⟩ := commit_cases (onPostTrip body) store
  · rw [stays]
    exact kept
  · obtain ⟨postTrip, ran, same⟩ := within_ok.1 finished
    rw [← same]
    refine ⟨kept.housed, fun rideId => (kept.standing rideId).of_kept ?_ rfl (fun _ => rfl) ?_⟩
    · show postTrip.accountingRecords.find rideId = store.postTrip.accountingRecords.find rideId
      rw [records _ _ _ ran]
    · exact policies _ _ _ ran

theorem step_preserves_kept (injective : InjectiveMapping config.accountIds)
    (store : FinancialStore) (call : CashCall) (keeps : apart → Apart store call)
    (kept : Kept apart config store) : Kept apart config (cashStep config store call) := by
  cases call with
  | addBook book =>
    refine kept_of_ledger ?_ ?_ kept
    all_goals
      intro s a t ran
      simp only [addBook, ↓steps_ok] at ran
      obtain ⟨books, _, rfl⟩ := ran
      rfl
  | addAccount account =>
    refine kept_of_ledger ?_ ?_ kept
    all_goals
      intro s a t ran
      simp only [addAccount, ↓steps_ok] at ran
      obtain ⟨_, accounts, _, rfl⟩ := ran
      rfl
  | addPolicy policy =>
    refine kept_of_postTrip ?_ ?_ kept
    all_goals
      intro s a t ran
      simp only [addCashAccountingPolicy, ↓steps_ok, Table.insert?_eq_some] at ran
      obtain ⟨policies, rows, _, rfl⟩ := ran
    · rfl
    · intro id held found
      rw [Table.find_of_rows_append rows, found]
      rfl
  | addEvidence evidence =>
    refine kept_of_postTrip ?_ ?_ kept
    all_goals
      intro s a t ran
      simp only [addCashCollectionEvidence, cashCollectionEvidence, bind_assoc, pure_bind,
        ↓steps_ok, whenSome_ok]
        at ran
      obtain ⟨_, _, _, _, rfl⟩ | ⟨_, _, _, _, rfl⟩ := ran
    · rfl
    · rfl
    · exact fun _ _ found => found
    · exact fun _ _ found => found
  | post reads subject request =>
    obtain stays | ⟨result, finished⟩ := commit_cases
      (post config reads.toFinancialReads subject request) store
    · rw [cashStep, stays]
      exact kept
    · refine ⟨(cashPost_effect finished).housed kept.housed, fun rideId => ?_⟩
      cases post_ok injective (reads.traced request.fareCalculationId) finished with
      | repeated same =>
        rw [cashStep, same]
        exact kept.standing rideId
      | opened opening =>
        refine standing_of_opening opening (fun apart => ?_) kept.housed kept.standing rideId
        exact keeps apart opening.policy opening.terms opening.evidence opening.collected
          opening.unrecorded
  | clear reads subject request =>
    obtain stays | ⟨result, finished⟩ := commit_cases
      (clear config reads.toFinancialReads subject request) store
    · rw [cashStep, stays]
      exact kept
    · refine ⟨(clear_effect finished).housed kept.housed, fun rideId => ?_⟩
      cases clear_ok finished with
      | repeated same =>
        rw [cashStep, same]
        exact kept.standing rideId
      | cleared clearing =>
        refine standing_of_clearing injective clearing (fun apart => ?_) kept.housed kept.standing
          rideId
        exact keeps apart clearing.item clearing.found clearing.uncleared clearing.policy
          clearing.terms

/-- In every run whose policies keep the receivable apart from their other accounts, each ride is
posted and cleared at most once, and its receivable is open for the claim while it is pending. -/
theorem open_while_pending (injective : InjectiveMapping config.accountIds)
    (calls : List CashCall) (along : Along (cashStep config) Apart {} calls) (rideId : Uuid) :
    PostedOnce (run (cashStep config) {} calls) rideId ∧
      OpenWhilePending config (run (cashStep config) {} calls) rideId := by
  have kept : Kept True config (run (cashStep config) {} calls) := by
    refine run_invariant_along (fun store call apart kept => ?_) along kept_of_start
    exact step_preserves_kept injective store call (fun _ => apart) kept
  exact ⟨(kept.standing rideId).postedOnce, (kept.standing rideId).openWhilePending trivial⟩

end

instance (store : FinancialStore) (call : CashCall) : Decidable (Apart store call) :=
  match call with
  | .addBook _ | .addAccount _ | .addPolicy _ | .addEvidence _ => .isTrue trivial
  | .post _ _ _ => inferInstanceAs (Decidable (∀ _ ∈ _, ∀ _ ∈ _, _ → _))
  | .clear _ _ _ => inferInstanceAs (Decidable (∀ _ ∈ _, _ → ∀ _ ∈ _, _))

/-! The claim on the cash of ride 10 is opened and cleared, under an agent policy with a choice of
the clearing account. -/

def tracedReads : TracedReads where
  toFinancialReads := cashReads
  traced id calculation found := by
    by_cases twenty : id = 20
    · subst twenty
      obtain rfl := Option.some_inj.1 found
      rfl
    · simp [cashReads, sampleReads, sampleCalculations, twenty] at found

def clearingTo (account : String) : CashAccountingPolicy :=
  { agentTerms with reconciliationClearingAccount := account, valid := rfl }

def openCash : CashCall :=
  .post tracedReads ⟨9, .service⟩
    { rideId := 10, fareCalculationId := 20, evidenceId := 61, accountingPolicyId := 60,
      idempotencyKey := "cash-accounting-0001", correlationId := 50, time := moment 300 }

def remittance : CashReconciliationEvidence :=
  let instructionId := cashConfig.uuid5 "ayo:cash-accounting" [10, 20, 61, 60]
  let values : CashReconciliationEvidence :=
    { reconciliationEvidenceId := 70, rideId := 10, accountingInstructionId := instructionId,
      accountingPolicyId := 60, accountingPolicyVersion := "cash.agent.v1",
      originalAccountingJournalId :=
        cashConfig.uuid5 "ayo:cash-accounting-journal" [instructionId],
      platformClaimMinor := 100, currency := etb, evidenceType := remittanceEvidenceAuthorized,
      sourceClassification := .synthetic, evidenceHash := 0, authorizedActorId := 9,
      occurredAt := moment 400, correlationId := 51, causationId := 51 }
  { values with evidenceHash := cashConfig.hash values.payload }

def clearCash : CashCall :=
  .clear tracedReads ⟨9, .service⟩
    { evidence := remittance, idempotencyKey := "cash-clearing-0001", expectedVersion := 1 }

/-- A book with three accounts, the policy and the evidence, and the two units of work. -/
def cashRun (clearingAccount : String) : List CashCall :=
  [.addBook { bookId := 40, code := ⟨"cash.rides", by decide⟩, baseCurrency := etb }, .addAccount
     { accountId := 41, bookId := 40, code := ⟨"cash.receivable", by decide⟩, currency := etb },
   .addAccount
     { accountId := 42, bookId := 40, code := ⟨"platform.revenue", by decide⟩, currency := etb },
   .addAccount
     { accountId := 43, bookId := 40, code := ⟨"cash.clearing", by decide⟩, currency := etb },
   .addPolicy (clearingTo clearingAccount), .addEvidence corroborated, openCash, clearCash]

theorem injective_cashConfig : InjectiveMapping cashConfig.accountIds := by
  intro first second id one two
  simp only [cashConfig] at one two
  grind

def clearedCash (clearingAccount : String) : Option (CashReconciliationState × Int) :=
  let store := run (cashStep cashConfig) {} (cashRun clearingAccount)
  (store.postTrip.accountingRecords.find 10).map fun item =>
    (item.reconciliationState, rideNet store.ledger 10 41)

theorem open_while_pending_cleared :
    clearedCash "cash.clearing" = some (.cleared, 0) ∧
      PostedOnce (run (cashStep cashConfig) {} (cashRun "cash.clearing")) 10 ∧
      OpenWhilePending cashConfig (run (cashStep cashConfig) {} (cashRun "cash.clearing")) 10 :=
  ⟨by decide +kernel,
    open_while_pending injective_cashConfig (cashRun "cash.clearing") (by decide +kernel) 10⟩

/-- A policy whose clearing account is its receivable account is accepted, and its record is cleared
while the claim stays open. -/
theorem cleared_while_open :
    InjectiveMapping cashConfig.accountIds ∧
      clearedCash "cash.receivable" = some (.cleared, 100) ∧
      ¬ (PostedOnce (run (cashStep cashConfig) {} (cashRun "cash.receivable")) 10 ∧
        OpenWhilePending cashConfig (run (cashStep cashConfig) {} (cashRun "cash.receivable"))
          10) := by
  have misstated : ¬ OpenWhilePending cashConfig
      (run (cashStep cashConfig) {} (cashRun "cash.receivable")) 10 := by decide +kernel
  exact ⟨injective_cashConfig, by decide +kernel, fun both => misstated both.2⟩

end Ayo.PostTrip.OpenReceivables
