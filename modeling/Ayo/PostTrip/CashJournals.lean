/- digest: What posting and clearing of cash do to journals, records and policies. -/

import Ayo.PostTrip.ReceivableEntries

namespace Ayo.PostTrip.CashJournals

open Kernel.UnitOfWork Kernel.KeyedTable Core.Values Core.Authorization Ledger.Models
  Ledger.Repository Ledger.RideNet Persistence.Composition CashAccounting CashLedger
  ReceivableEntries Repository
open Pricing.Models (Calculations)

inductive Placed (journal : LedgerJournal) (s t : LedgerStore) : Prop
  | found (stored : journal.toJournalHeader ∈ s.journals.rows)
  | posted
      (journals : t.journals.rows = s.journals.rows ++ [journal.toJournalHeader])
      (entries : t.entries.rows =
        s.entries.rows ++ journal.entries.map fun entry => ⟨journal.journalId, entry⟩)

theorem postReserved_placed {hash : Payload → Digest} {calculations : Calculations}
    {candidate result : LedgerJournal} {time : DateTime} {corrupt conflict : Failure}
    {s t : LedgerStore}
    (ran : postReserved hash calculations candidate time corrupt conflict s =
      .ok (result, t)) : Placed candidate s t := by
  unfold postReserved at ran
  obtain ⟨canonical, reserved, reserving, ran⟩ := bind_ok.1 ran
  unfold reserveIdempotency at reserving
  obtain ⟨idempotency, _, rfl⟩ := within_ok.1 reserving
  obtain ⟨held, _, read, ran⟩ := bind_ok.1 ran
  obtain ⟨rfl, found⟩ := getJournal_ok read
  simp only [whenSome_ok, ↓steps_ok] at ran
  obtain ⟨journal, rfl, ⟨same, _⟩, _, rfl⟩ | ⟨_, _, posting⟩ := ran
  · obtain ⟨absent, _⟩ | ⟨other, one, there, _⟩ := found
    · cases absent
    · cases one
      rw [same] at there
      exact .found (Table.mem_of_find there)
  · obtain ⟨_, posted⟩ := postJournal_ok posting
    exact .posted posted.journals posted.entries

def collectedEvidence (store : FinancialStore) (rideId : Uuid) : Option CashCollectionEvidence :=
  store.postTrip.collectionEvidence.rows.find? fun evidence => evidence.rideId = rideId

/-- A posting that opens the receivable of its policy with a journal, which leaves the claim on it
just where the policy credits nothing to it. -/
structure Opening (config : CashConfig) (request : CashPostRequest)
    (s t : FinancialStore) where
  policy : CashAccountingPolicy
  evidence : CashCollectionEvidence
  item : CashAccountingRecord
  journal : LedgerJournal
  code : String
  receivableId : Uuid
  terms : s.postTrip.policies.find request.accountingPolicyId = some policy
  collected : collectedEvidence s request.rideId = some evidence
  unrecorded : s.postTrip.accountingRecords.find request.rideId = none
  receivable : receivableCode policy = some code
  mapped : config.accountIds code = some receivableId
  ride : item.rideId = request.rideId
  policyId : item.accountingPolicyId = request.accountingPolicyId
  pending : item.reconciliationState = .pending
  recorded : t.postTrip.accountingRecords.rows =
    s.postTrip.accountingRecords.rows ++ [item]
  policies : t.postTrip.policies = s.postTrip.policies
  named : journal.traceability.activeRideId = request.rideId
  opens : journal.businessEventType = rideCashAccounting
  claimed : net receivableId journal.entries = item.platformClaimMinor ↔
    some code ∉ creditedCodes policy evidence.grossCashReportedMinor
  placed : Placed journal s.ledger t.ledger

structure Clearing (config : CashConfig) (request : ClearRequest)
    (s t : FinancialStore) where
  policy : CashAccountingPolicy
  (item changed : CashAccountingRecord)
  journal : LedgerJournal
  code : String
  (receivableId clearingId : Uuid)
  found : s.postTrip.accountingRecords.find request.evidence.rideId = some item
  uncleared : item.reconciliationState ≠ .cleared
  terms : s.postTrip.policies.find item.accountingPolicyId = some policy
  receivable : receivableCode policy = some code
  mapped : config.accountIds code = some receivableId
  mappedClearing : config.accountIds policy.reconciliationClearingAccount = some clearingId
  replaced : t.postTrip.accountingRecords.rows =
    s.postTrip.accountingRecords.replaced changed
  ride : changed.rideId = item.rideId
  policyId : changed.accountingPolicyId = item.accountingPolicyId
  cleared : changed.reconciliationState = .cleared
  policies : t.postTrip.policies = s.postTrip.policies
  named : journal.traceability.activeRideId = item.rideId
  clears : journal.businessEventType = rideCashReconciliation
  positive : 0 < item.platformClaimMinor
  moved : net receivableId journal.entries =
    if clearingId = receivableId then 0 else -item.platformClaimMinor
  placed : Placed journal s.ledger t.ledger

inductive PostEffect (config : CashConfig) (request : CashPostRequest) (s t : FinancialStore) : Prop
  | repeated (same : t = s)
  | opened (opening : Opening config request s t)

inductive ClearEffect (config : CashConfig) (request : ClearRequest) (s t : FinancialStore) : Prop
  | repeated (same : t = s)
  | cleared (clearing : Clearing config request s t)

section

variable {config : CashConfig} {reads : FinancialReads} {subject : AuthorizationSubject}
  {request : CashPostRequest} {s t : FinancialStore} {result : CashAccountingRecord}

theorem post_ok (injective : InjectiveMapping config.accountIds)
    (traced : ∀ calculation ∈ reads.calculations request.fareCalculationId,
      calculation.financialTraceability.activeRideId = some calculation.rideId)
    (ran : post config reads subject request s = .ok (result, t)) :
    PostEffect config request s t := by
  unfold post cashCollectionEvidence cashAccountingPolicy at ran
  simp only [↓steps_ok, ↓onPostTrip_read_bind_ok] at ran
  obtain ⟨_, calculation, calculated, evidence, collected, policy, terms, ⟨ridden, _⟩, ran⟩ :=
    ran
  obtain ⟨instruction, m, built, ran⟩ := bind_ok.1 ran
  obtain ⟨rfl, derived⟩ := buildInstruction_derived (recast_ok.1 built)
  unfold cashAccountingRecord at ran
  simp only [↓onPostTrip_read_bind_ok, whenSome_ok, ↓steps_ok] at ran
  obtain ⟨_, _, _, _, rfl⟩ | ⟨absent, ran⟩ := ran
  · exact .repeated rfl
  · obtain ⟨candidate, m, drafted, ran⟩ := bind_ok.1 ran
    obtain ⟨rfl, named, type, all, nets⟩ := instructionJournal_net injective drafted
    obtain ⟨journal, m, posting, recording⟩ := bind_ok.1 ran
    obtain ⟨ledger, posted, rfl⟩ := onLedger_ok.1 posting
    obtain ⟨postTrip, recorded, rfl⟩ := within_ok.1 recording
    have evidenced : evidence.rideId = request.rideId := by
      simpa using List.find?_some collected
    have here : instruction.rideId = request.rideId := derived.rideId.trans evidenced
    simp only [addCashAccountingRecord, cashAccountingRecord, bind_assoc, pure_bind, ↓steps_ok,
      whenSome_ok, Table.insert?_eq_some, here] at recorded
    obtain ⟨other, there, _⟩ | ⟨_, records, rows, rfl, rfl⟩ := recorded
    · rw [absent] at there
      cases there
    · obtain ⟨debit, credits, lines, coded, _⟩ := derived.lines
      have listed : debit ∈ instruction.journalLines := by simp [lines]
      obtain ⟨receivableId, mapped⟩ := Option.isSome_iff_exists.1 (all debit listed)
      have policyId : instruction.accountingPolicyId = request.accountingPolicyId := by
        rw [derived.policyId]
        exact Table.key_of_find terms
      rw [traced calculation calculated, ridden] at named
      exact .opened
        { policy, evidence, item := _, journal := candidate, code := debit.accountCode.1,
          receivableId, terms, collected, unrecorded := absent, receivable := coded, mapped,
          recorded := rows, ride := rfl, policyId, pending := by simp [derived.reconciliation],
          policies := rfl, named := Option.some_inj.1 named, opens := type,
          claimed := by
            rw [nets _ _ mapped]
            exact lineNet_of_derived derived coded,
          placed := postReserved_placed posted }

end

section

variable {config : CashConfig} {reads : FinancialReads} {subject : AuthorizationSubject}
  {request : ClearRequest} {s t : FinancialStore} {result : CashAccountingRecord}

private theorem addReconciliationEvidence_ok {item held : CashReconciliationEvidence}
    {s t : PostTripStore} (ran : addCashReconciliationEvidence item s = .ok (held, t)) :
    held = item ∧ t.accountingRecords = s.accountingRecords ∧ t.policies = s.policies := by
  simp only [addCashReconciliationEvidence, ↓steps_ok, whenSome_ok] at ran
  obtain ⟨existing, _, same, rfl, rfl⟩ | ⟨_, _, _, rfl, rfl⟩ := ran
  · exact ⟨same, rfl, rfl⟩
  · exact ⟨rfl, rfl, rfl⟩

theorem clear_ok (ran : clear config reads subject request s = .ok (result, t)) :
    ClearEffect config request s t := by
  unfold clear cashAccountingRecord cashAccountingPolicy at ran
  simp only [↓steps_ok, ↓hasPermission_bind_ok, ↓onPostTrip_read_bind_ok] at ran
  obtain ⟨_, _, _, _, _, item, found, policy, terms, originalId, _, ran⟩ := ran
  obtain ⟨foundOriginal, m, reading, ran⟩ := bind_ok.1 ran
  obtain ⟨ledger, read, rfl⟩ := onLedger_ok.1 reading
  obtain ⟨rfl, _⟩ := getJournal_ok read
  simp only [↓steps_ok, ite_ok] at ran
  obtain ⟨original, rfl, _, authorized, ⟨_, _, _, rfl⟩ | ⟨uncleared, ran⟩⟩ := ran
  · exact .repeated rfl
  · unfold clearReceivable at ran
    obtain ⟨evidence, m, adding, ran⟩ := bind_ok.1 ran
    obtain ⟨postTrip, added, rfl⟩ := within_ok.1 adding
    obtain ⟨rfl, records, policies⟩ := addReconciliationEvidence_ok added
    simp only [↓demand_bind_ok] at ran
    obtain ⟨code, coded, receivableId, mapped, clearingId, clearing, predecessor, _, ran⟩ :=
      ran
    obtain ⟨candidate, _, drafted, ran⟩ := bind_ok.1 ran
    obtain ⟨rfl, named, type, positive, moved⟩ :=
      clearingJournal_net authorized.2.2.2.2.2.2.1 drafted
    obtain ⟨journal, _, posting, updating⟩ := bind_ok.1 ran
    obtain ⟨ledger, posted, rfl⟩ := onLedger_ok.1 posting
    obtain ⟨postTrip, updated, rfl⟩ := within_ok.1 updating
    simp only [updateCashAccountingRecord, ↓steps_ok, Table.replace?_eq_some] at updated
    obtain ⟨_, _, _, changed, rows, _, rfl⟩ := updated
    have ridden : original.traceability.activeRideId = item.rideId :=
      authorized.2.2.2.2.2.2.2.2.2.2
    rw [records] at rows
    exact .cleared
      { policy, item, changed := _, journal := candidate, code, receivableId, clearingId, found,
        uncleared, terms, receivable := coded, mapped, mappedClearing := clearing, replaced := rows,
        ride := rfl, policyId := rfl, cleared := rfl, policies, named := named.trans ridden,
        clears := type, positive, moved, placed := postReserved_placed posted }

end

end Ayo.PostTrip.CashJournals
