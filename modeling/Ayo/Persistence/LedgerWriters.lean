/- digest: What each of the four writers of the ledger does to it. -/

import Ayo.Ledger.Lineage
import Ayo.PostTrip.Settlement
import Ayo.Postings.Application

namespace Ayo.Persistence.LedgerWriters

open Kernel.UnitOfWork Kernel.KeyedTable
open Kernel.Ordering (mem_orderedBy)
open Core.Values Core.Authorization Ledger.Models Ledger.Repository Ledger.Lineage
  Persistence.Composition PostTrip.CashAccounting PostTrip.Models
open PostTrip.Repository hiding getRecord
open Postings.Models
open Postings.Repository (getPosting)
open Rides.Models (ActiveRide)

variable {σ : Type}

structure Draft where
  bookId : Uuid
  accountIds : List Uuid

structure Drawn (ledger : LedgerStore) (draft : Draft) (journal : LedgerJournal) : Prop where
  bookId : journal.bookId = draft.bookId
  accounts : journal.entries.map LedgerEntry.accountId = draft.accountIds
  pointsBack : ∀ entry ∈ journal.entries,
    PointsBack ledger.entries.rows journal.traceability entry

private theorem pointsBack_of_none {rows : List EntryRow} {traceability : LedgerTraceability}
    {entry : LedgerEntry} (unlinked : entry.predecessorEntryId = none) :
    PointsBack rows traceability entry := by
  intro predecessorId named
  simp [unlinked] at named

section

open PostTrip.Settlement

theorem entriesOf_ok {entryId : Nat → Uuid} {index : Nat} {legs : List Leg} {s t : σ}
    {entries : List LedgerEntry} (ran : entriesOf entryId index legs s = .ok (entries, t)) :
    s = t ∧ entries.map LedgerEntry.accountId = legs.map Leg.accountId ∧
      ∀ entry ∈ entries, entry.predecessorEntryId = none := by
  induction legs generalizing index entries s t with
  | nil =>
    obtain ⟨rfl, rfl⟩ := pure_ok.1 ran
    exact ⟨rfl, rfl, by simp⟩
  | cons leg rest ih =>
    unfold entriesOf at ran
    simp only [↓demand_bind_ok] at ran
    obtain ⟨amount, _, lineIndex, _, ran⟩ := ran
    obtain ⟨later, _, counted, finished⟩ := bind_ok.1 ran
    obtain ⟨rfl, accounts, unlinked⟩ := ih counted
    obtain ⟨rfl, rfl⟩ := pure_ok.1 finished
    refine ⟨rfl, by simp [accounts], fun entry member => ?_⟩
    rcases List.mem_cons.1 member with rfl | member
    · rfl
    · exact unlinked entry member

end

section

open PostTrip.Settlement

variable {config : SettlementConfig} {reads : FinancialReads} {subject : AuthorizationSubject}
  {request : SettleRequest} {package : TripEvidencePackage} {driverId journalId : Uuid}

def settlementDraft (accounts : RideLedgerAccounts) (b : FinancialBreakdown) : Draft :=
  ⟨accounts.bookId, (legs accounts b).map Leg.accountId⟩

theorem settlementJournal_ok {record : PostTripRecord} {traceability : LedgerTraceability}
    {s t : σ} {journal : LedgerJournal} (ledger : LedgerStore)
    (ran : settlementJournal config subject request record traceability s = .ok (journal, t)) :
    s = t ∧ Drawn ledger (settlementDraft config.accounts record.financialBreakdown) journal := by
  unfold settlementJournal at ran
  obtain ⟨counted, m, drawn, ran⟩ := bind_ok.1 ran
  unfold entries at drawn
  simp only [↓require_bind_ok] at drawn
  obtain ⟨rfl, accounts, unlinked⟩ := entriesOf_ok drawn.2
  simp only [↓steps_ok, attempt_ok] at ran
  obtain ⟨_, _, _, valid, rfl⟩ := ran
  obtain ⟨same, rfl⟩ := LedgerJournal.validate?_ok valid
  exact ⟨rfl, congrArg JournalHeader.bookId same, accounts,
    fun entry mem => pointsBack_of_none (unlinked entry mem)⟩

theorem receipt_readOnly (ride : ActiveRide) (record : PostTripRecord) (receiptType : ReceiptType)
    (owner receiptId : Uuid) :
    ReadOnly (receipt config request ride record receiptType owner receiptId :
      FinancialTransaction Receipt) :=
  .demands fun _ => .demands fun _ => .pure

theorem creditDriver_keepsLedger {b : FinancialBreakdown} :
    KeepsLedger (creditDriver config reads subject request package driverId b journalId) := by
  refine .ite ?_ .pure
  refine .bind consumeWithUnit_keepsLedger fun _ => ?_
  refine .bind onWallets_keepsLedger fun _ => .bind .demand fun _ => ?_
  exact .bind .get fun _ => .bind .demand fun _ => .pure

theorem closeRecord_keepsLedger {ride : ActiveRide} {record : PostTripRecord} :
    KeepsLedger (closeRecord config reads subject request ride record package driverId
      journalId) := by
  refine .bind creditDriver_keepsLedger fun _ => ?_
  refine .bind (receipt_readOnly _ _ _ _ _).keeps fun _ => ?_
  refine .bind onPostTrip_keepsLedger fun _ => ?_
  refine .bind (receipt_readOnly _ _ _ _ _).keeps fun _ => ?_
  refine .bind onPostTrip_keepsLedger fun _ => .bind onPostTrip_keepsLedger fun _ => ?_
  refine .bind onPostTrip_keepsLedger fun _ => .bind onPostTrip_keepsLedger fun _ => ?_
  exact onPostTrip_keepsLedger

/-- The record that a settlement closes: its subject is a service, it is still open, and its
package is paid digitally or in cash that is settled without collection evidence. -/
def settledRecord? (subject : AuthorizationSubject) (store : FinancialStore) (rideId : Uuid) :
    Option PostTripRecord := do
  let record ← store.postTrip.records.find rideId
  let package ← store.postTrip.packages.rows.find? fun package => package.rideId = rideId
  if subject.identityType = .service ∧ ¬ (record.state = .settled ∨ record.state = .archived) ∧
      ¬ (package.paymentMethod = .cash ∧
        (store.postTrip.collectionEvidence.rows.find? fun evidence =>
          evidence.rideId = rideId).isSome = true) ∧
      ¬ (package.paymentMethod = .cash ∧ record.cashState ≠ some .cashSettled) then
    some record
  else none

variable {s t : FinancialStore} {result : PostTripRecord}

/-- A settlement returns a record that is closed already, or posts its journal and closes it. -/
theorem settle_stages (ran : settle config reads subject request s = .ok (result, t)) :
    ∃ ride record package driverId, subject.identityType = .service ∧
      reads.rides request.rideId = some ride ∧ ride.driverId = some driverId ∧
      s.postTrip.records.find request.rideId = some record ∧
      (s.postTrip.packages.rows.find? fun package => package.rideId = request.rideId) =
        some package ∧
      ¬ (package.paymentMethod = .cash ∧ (s.postTrip.collectionEvidence.rows.find? fun evidence =>
        evidence.rideId = request.rideId).isSome = true) ∧
      ((record.state = .settled ∨ record.state = .archived) ∧ t = s ∨
        ¬ (record.state = .settled ∨ record.state = .archived) ∧
          ¬ (package.paymentMethod = .cash ∧ record.cashState ≠ some .cashSettled) ∧
          ∃ draft journal ledger,
            Drawn s.ledger (settlementDraft config.accounts record.financialBreakdown) draft ∧
            postJournal reads.calculations draft s.ledger = .ok (journal, ledger) ∧
            closeRecord config reads subject request ride record package driverId journal.journalId
              { s with ledger } = .ok (result, t)) := by
  unfold settle PostTrip.Repository.getRecord packageForRide cashCollectionEvidence at ran
  simp only [↓steps_ok, ↓onPostTrip_read_bind_ok, ite_ok] at ran
  obtain ⟨service, ride, riding, record, found, package, packed, driverId, driven, _, _, _, _, _,
    _, uncollected, ⟨closed, _, rfl⟩ | ⟨unsettled, ran⟩⟩ := ran
  · exact ⟨ride, record, package, driverId, service, riding, driven, found, packed, uncollected,
      .inl ⟨closed, rfl⟩⟩
  · unfold assertSettlementReady at ran
    simp only [↓require_bind_ok] at ran
    obtain ⟨agreed, ran⟩ := ran
    obtain ⟨draft, m, drafted, ran⟩ := bind_ok.1 ran
    obtain ⟨rfl, drawn⟩ := settlementJournal_ok s.ledger drafted
    obtain ⟨journal, m, posting, closed⟩ := bind_ok.1 ran
    obtain ⟨ledger, posted, rfl⟩ := onLedger_ok.1 posting
    exact ⟨ride, record, package, driverId, service, riding, driven, found, packed, uncollected,
      .inr ⟨unsettled, agreed, draft, journal, ledger, drawn, posted, closed⟩⟩

theorem settle_effect (ran : settle config reads subject request s = .ok (result, t)) :
    LedgerEffect (fun journal => ∃ record ∈ settledRecord? subject s request.rideId,
        Drawn s.ledger (settlementDraft config.accounts record.financialBreakdown) journal)
      s.ledger t.ledger := by
  obtain ⟨ride, record, package, _, service, _, _, found, packed, uncollected,
    ⟨_, rfl⟩ | ⟨unsettled, agreed, _, _, _, drawn, posted, closed⟩⟩ := settle_stages ran
  · exact .of_eq rfl
  · rw [closeRecord_keepsLedger _ _ _ closed]
    have closes : settledRecord? subject s request.rideId = some record := by
      simp only [settledRecord?, found, packed, Option.bind_eq_bind, Option.bind_some]
      exact if_pos ⟨service, unsettled, uncollected, agreed⟩
    exact .of_posted ⟨record, closes, drawn⟩ (postJournal_ok posted).2

end

section

open PostTrip.CashLedger
open PostTrip.Settlement (Leg)

variable {config : CashConfig} {reads : FinancialReads} {subject : AuthorizationSubject}
  {calculation : Pricing.Models.FareCalculation} {time : DateTime} {request : CashPostRequest}
  {journal : LedgerJournal} {result : CashAccountingRecord} {s t : FinancialStore}

private theorem receivableLines_readOnly {policy : CashAccountingPolicy}
    {gross claim entitlement : Int} :
    ReadOnly (receivableLines policy gross claim entitlement :
      Transaction σ Failure (List CashJournalLine)) := by
  have line : ∀ account side amount, ReadOnly (journalLine account side amount :
      Transaction σ Failure CashJournalLine) := fun _ _ _ =>
    .demands fun _ => .demands fun _ => .pure
  unfold receivableLines
  split
  · refine .requires <| .demands fun _ => ?_
    refine .demands fun _ => .bind (line _ _ _) fun _ => ?_
    exact .bind (line _ _ _) fun _ => .pure
  · exact .demands fun _ => .bind (line _ _ _) fun _ => .pure

theorem buildInstruction_readOnly {hash : Payload → Digest} {policy : CashAccountingPolicy}
    {evidence : CashCollectionEvidence} {production : Bool} {instructionId : Uuid} :
    ReadOnly (buildCashAccountingInstruction hash policy calculation evidence time production
      instructionId : Transaction σ Failure CashAccountingInstruction) := by
  have line : ∀ account side amount, ReadOnly (journalLine account side amount :
      Transaction σ Failure CashJournalLine) := fun _ _ _ =>
    .demands fun _ => .demands fun _ => .pure
  refine .requires <| .requires ?_
  refine .requires <| .requires ?_
  refine .requires <| .requires ?_
  refine .bind receivableLines_readOnly fun _ => ?_
  refine .bind (.ite .pure (.bind (line _ _ _) fun _ => .pure)) fun _ => ?_
  refine .bind (.ite .pure (.demands fun _ => .bind (line _ _ _) fun _ => .pure)) fun _ => ?_
  exact .demand

theorem postReserved_effect {hash : Payload → Digest} {calculations : Pricing.Models.Calculations}
    {candidate result : LedgerJournal} {corrupt conflict : Failure} {s t : LedgerStore}
    (ran : postReserved hash calculations candidate time corrupt conflict s = .ok (result, t)) :
    LedgerEffect (fun journal => journal = candidate) s t := by
  unfold postReserved at ran
  obtain ⟨canonical, reserved, reserving, ran⟩ := bind_ok.1 ran
  unfold reserveIdempotency at reserving
  obtain ⟨idempotency, _, rfl⟩ := within_ok.1 reserving
  obtain ⟨held, _, read, ran⟩ := bind_ok.1 ran
  obtain ⟨rfl, _⟩ := getJournal_ok read
  simp only [whenSome_ok, ↓steps_ok] at ran
  obtain ⟨_, _, _, _, rfl⟩ | ⟨_, _, posting⟩ := ran
  · exact .kept (fun found => found) rfl rfl
  · exact .of_reserved (.of_posted rfl (postJournal_ok posting).2)

def instructionDraft (config : CashConfig) (instruction : CashAccountingInstruction) : Draft :=
  ⟨config.bookId, (instructionLegs config instruction).map Leg.accountId⟩

theorem instructionJournal_ok (ledger : LedgerStore) {evidence : CashCollectionEvidence}
    {instruction : CashAccountingInstruction} {s t : σ}
    (ran : instructionJournal config subject request calculation evidence instruction s =
      .ok (journal, t)) :
    s = t ∧ Drawn ledger (instructionDraft config instruction) journal := by
  unfold instructionJournal at ran
  simp only [↓require_bind_ok] at ran
  obtain ⟨counted, m, drawn, ran⟩ := bind_ok.1 ran.2
  obtain ⟨rfl, accounts, unlinked⟩ := entriesOf_ok drawn
  simp only [↓steps_ok, attempt_ok] at ran
  obtain ⟨_, _, _, _, _, _, _, _, _, _, _, valid, rfl⟩ := ran
  obtain ⟨same, rfl⟩ := LedgerJournal.validate?_ok valid
  exact ⟨rfl, congrArg JournalHeader.bookId same, accounts,
    fun entry mem => pointsBack_of_none (unlinked entry mem)⟩

def derivedInstruction? (config : CashConfig) (reads : FinancialReads)
    (subject : AuthorizationSubject) (store : FinancialStore) (request : CashPostRequest) :
    Option CashAccountingInstruction := do
  let calculation ← reads.calculations request.fareCalculationId
  let evidence ← store.postTrip.collectionEvidence.rows.find? fun evidence =>
    evidence.rideId = request.rideId
  let policy ← store.postTrip.policies.find request.accountingPolicyId
  if subject.identityType = .service ∧
      (store.postTrip.accountingRecords.find request.rideId).isNone = true then
    ((deriveInstruction config request calculation evidence policy :
      FinancialTransaction CashAccountingInstruction) store).toOption.map Prod.fst
  else none

theorem cashPost_effect
    (ran : PostTrip.CashLedger.post config reads subject request s = .ok (result, t)) :
    LedgerEffect (fun journal => ∃ instruction ∈ derivedInstruction? config reads subject s request,
        Drawn s.ledger (instructionDraft config instruction) journal)
      s.ledger t.ledger := by
  unfold PostTrip.CashLedger.post cashCollectionEvidence cashAccountingPolicy at ran
  simp only [↓steps_ok, ↓onPostTrip_read_bind_ok] at ran
  obtain ⟨service, calculation, calculated, evidence, collected, policy, terms, _, ran⟩ :=
    ran
  obtain ⟨instruction, m, derived, ran⟩ := bind_ok.1 ran
  rw [recast_ok] at derived
  obtain rfl := buildInstruction_readOnly _ _ _ derived
  unfold cashAccountingRecord at ran
  simp only [↓onPostTrip_read_bind_ok, whenSome_ok, ↓steps_ok] at ran
  obtain ⟨_, _, _, _, rfl⟩ | ⟨absent, ran⟩ := ran
  · exact .of_eq rfl
  · obtain ⟨candidate, m, drafted, ran⟩ := bind_ok.1 ran
    obtain ⟨rfl, drawn⟩ := instructionJournal_ok s.ledger drafted
    obtain ⟨journal, m, posting, recorded⟩ := bind_ok.1 ran
    obtain ⟨ledger, posted, rfl⟩ := onLedger_ok.1 posting
    have kept := onPostTrip_keepsLedger _ _ _ recorded
    rw [kept]
    refine (postReserved_effect posted).imp ?_
    rintro _ rfl
    refine ⟨instruction, ?_, drawn⟩
    simp [derivedInstruction?, calculated, collected, terms, service, absent, derived,
      Except.toOption]

/-- The accounts of a clearing, where a service or a member of staff clears a record of the
expected version that is not cleared yet. -/
def clearingDraft? (config : CashConfig) (subject : AuthorizationSubject) (store : FinancialStore)
    (request : ClearRequest) : Option Draft := do
  let item ← store.postTrip.accountingRecords.find request.evidence.rideId
  let policy ← store.postTrip.policies.find item.accountingPolicyId
  let code ← receivableCode policy
  let receivableId ← config.accountIds code
  let clearingId ← config.accountIds policy.reconciliationClearingAccount
  if (subject.identityType = .service ∨ subject.identityType = .staff) ∧
      item.version = request.expectedVersion ∧ ¬ item.reconciliationState = .cleared then
    some ⟨config.bookId, [clearingId, receivableId]⟩
  else none

variable {request : ClearRequest}

theorem clearingJournal_ok {evidence : CashReconciliationEvidence}
    {item : CashAccountingRecord} {original : LedgerJournal}
    {receivableId clearingId predecessorEntryId : Uuid} {s t : σ}
    (ran : clearingJournal config subject request evidence item original receivableId clearingId
      predecessorEntryId s = .ok (journal, t)) :
    s = t ∧ journal.bookId = config.bookId ∧
      journal.traceability.predecessorLedgerJournalId = some original.journalId ∧
      journal.entries.map LedgerEntry.accountId = [clearingId, receivableId] ∧
      ∀ entry ∈ journal.entries, ∀ id ∈ entry.predecessorEntryId, id = predecessorEntryId := by
  unfold clearingJournal at ran
  simp only [↓demand_bind_ok, attempt_ok] at ran
  obtain ⟨_, _, _, _, valid, rfl⟩ := ran
  obtain ⟨same, listed⟩ := LedgerJournal.validate?_ok valid
  refine ⟨rfl, congrArg JournalHeader.bookId same, ?_, ?_⟩
  · exact congrArg (fun header => header.traceability.predecessorLedgerJournalId) same
  · rw [listed]
    exact ⟨rfl, by simp⟩

theorem clear_effect (ran : clear config reads subject request s = .ok (result, t)) :
    LedgerEffect (fun journal => ∃ draft ∈ clearingDraft? config subject s request,
        Drawn s.ledger draft journal)
      s.ledger t.ledger := by
  unfold clear cashAccountingRecord cashAccountingPolicy at ran
  simp only [↓steps_ok, ↓hasPermission_bind_ok, ↓onPostTrip_read_bind_ok] at ran
  obtain ⟨acting, _, _, _, _, item, found, policy, terms, originalId, named, ran⟩ := ran
  obtain ⟨foundOriginal, m, reading, ran⟩ := bind_ok.1 ran
  obtain ⟨ledger, read, rfl⟩ := onLedger_ok.1 reading
  simp only [↓steps_ok, ite_ok] at ran
  obtain ⟨original, rfl, version, _, ⟨_, _, _, rfl⟩ | ⟨uncleared, ran⟩⟩ := ran
  all_goals obtain ⟨rfl, id, held⟩ := getJournal_entry read
  · exact .of_eq rfl
  · unfold clearReceivable at ran
    obtain ⟨evidence, m, added, ran⟩ := bind_ok.1 ran
    have sameLedger := onPostTrip_keepsLedger _ _ _ added
    simp only [↓demand_bind_ok] at ran
    obtain ⟨code, coded, receivableId, receivable, clearingId, clearing, predecessor, picked,
      ran⟩ := ran
    obtain ⟨candidate, _, drafted, ran⟩ := bind_ok.1 ran
    obtain ⟨rfl, book, lineage, accounts, unique⟩ := clearingJournal_ok drafted
    obtain ⟨journal, _, posting, updated⟩ := bind_ok.1 ran
    obtain ⟨ledger, posted, rfl⟩ := onLedger_ok.1 posting
    have kept := onPostTrip_keepsLedger _ _ _ updated
    rw [kept]
    rw [sameLedger] at posted
    refine (postReserved_effect posted).imp ?_
    rintro _ rfl
    refine ⟨⟨config.bookId, [clearingId, receivableId]⟩, ?_, book, accounts, ?_⟩
    · simp [clearingDraft?, found, terms, coded, receivable, clearing, acting, version, uncleared]
    · intro entry mem predecessorId named
      refine ⟨⟨originalId, predecessor⟩, held _ (List.mem_of_find?_eq_some picked),
        (unique entry mem predecessorId named).symm, ?_⟩
      rw [lineage, id]

/-! What the bookkeeping of cash keeps: a view that does not read the ledger and reads the trips
only through a part of theirs. -/

variable {β γ : Type} {view : FinancialStore → β} (part : PostTripStore → γ)
  (ledger : ∀ {α : Type} (body : LedgerTransaction α), Keeps view (onLedger body))
  (trips : ∀ {α : Type} {body : PostTripTransaction α}, Keeps part body →
    Keeps view (onPostTrip body))

include ledger trips

theorem cashPost_keeps (records : ∀ item, Keeps part (addCashAccountingRecord item))
    (request : CashPostRequest) :
    Keeps view (PostTrip.CashLedger.post config reads subject request) := by
  refine .bind .require fun _ => ?_
  refine .bind (trips (ReadOnly.keeps (.bind .get fun _ => .pure))) fun _ => ?_
  refine .bind (trips (ReadOnly.keeps (.bind .get fun _ => .pure))) fun _ => ?_
  refine .bind .demand fun _ => .bind .demand fun _ => .bind .demand fun _ => ?_
  refine .bind .require fun _ => ?_
  refine .bind (.recast (buildInstruction_readOnly).keeps _) fun _ => ?_
  refine .bind (trips (ReadOnly.keeps (.bind .get fun _ => .pure))) fun _ => ?_
  refine .whenSome (fun _ => .bind .require fun _ => .pure) ?_
  refine .bind ?_ fun _ => .bind (ledger _) fun _ => trips (records _)
  intro s journal t drafted
  rw [(instructionJournal_ok s.ledger drafted).1]

theorem clear_keeps (evidence : ∀ item, Keeps part (addCashReconciliationEvidence item))
    (updates : ∀ item version, Keeps part (updateCashAccountingRecord item version))
    (request : ClearRequest) : Keeps view (clear config reads subject request) := by
  have cleared : ∀ item policy original,
      Keeps view (clearReceivable config reads subject request item policy original) := by
    intro item policy original
    refine .bind (trips (evidence _)) fun _ => .bind .demand fun _ => ?_
    refine .bind .demand fun _ => .bind .demand fun _ => ?_
    refine .bind .demand fun _ => .bind ?_ fun _ => ?_
    · intro s journal t drafted
      rw [(clearingJournal_ok drafted).1]
    · exact .bind (ledger _) fun _ => trips (updates _ _)
  refine .bind .require fun _ => .bind .require fun _ => ?_
  refine .bind .require fun _ => .bind (hasPermission_readOnly).keeps fun _ => ?_
  refine .bind .require fun _ => ?_
  refine .bind (trips (ReadOnly.keeps (.bind .get fun _ => .pure))) fun _ => ?_
  refine .bind .demand fun _ => ?_
  refine .bind (trips (ReadOnly.keeps (.bind .get fun _ => .pure))) fun _ => ?_
  refine .bind .demand fun _ => .bind .demand fun _ => .bind (ledger _) fun _ => ?_
  refine .bind .demand fun _ => .bind .require fun _ => .bind .require fun _ => ?_
  exact .ite (.bind .require fun _ => .pure) (cleared _ _ _)

end

section

open Postings.Application

variable {reads : FinancialReads} {subject : AuthorizationSubject}
  {command : FinancialPostingCommand} {ids : PostingIds} {traceability : LedgerTraceability}
  {s t : LedgerStore} {lines : List FinancialPostingLineCommand} {journalId : Uuid}

theorem resolvePredecessorEntry_ok {accountId : Uuid} {side : LedgerEntrySide} {found : Option Uuid}
    (ran : resolvePredecessorEntry traceability accountId side s = .ok (found, t)) :
    s = t ∧ ∀ id ∈ found, ∃ prior ∈ s.entries.rows, prior.entry.entryId = id ∧
      traceability.predecessorLedgerJournalId = some prior.journalId := by
  unfold resolvePredecessorEntry at ran
  simp only [whenSome_ok, pure_ok] at ran
  obtain ⟨journalId, named, ran⟩ | ⟨_, rfl, rfl⟩ := ran
  · obtain ⟨read, _, reading, ran⟩ := bind_ok.1 ran
    simp only [↓steps_ok] at ran
    obtain ⟨predecessor, rfl, entry, picked, rfl, rfl⟩ := ran
    obtain ⟨rfl, _, held⟩ := getJournal_entry reading
    refine ⟨rfl, ?_⟩
    rintro _ ⟨⟩
    exact ⟨⟨journalId, entry⟩, held _ (List.mem_of_find?_eq_some picked), rfl, named⟩
  · exact ⟨rfl, by simp⟩

theorem ledgerEntries_ok {currency : Currency} {entryId : LineIndex → Uuid}
    {entries : List LedgerEntry}
    (ran : ledgerEntries traceability currency entryId lines s = .ok (entries, t)) :
    s = t ∧ ∀ entry ∈ entries, entry.accountId ∈ lines.map FinancialPostingLineCommand.accountId ∧
        PointsBack s.entries.rows traceability entry := by
  induction lines generalizing entries s t with
  | nil =>
    obtain ⟨rfl, rfl⟩ := pure_ok.1 ran
    exact ⟨rfl, by simp⟩
  | cons line rest ih =>
    unfold ledgerEntries at ran
    obtain ⟨predecessor, _, resolved, ran⟩ := bind_ok.1 ran
    obtain ⟨rfl, linked⟩ := resolvePredecessorEntry_ok resolved
    obtain ⟨later, _, counted, finished⟩ := bind_ok.1 ran
    obtain ⟨rfl, fromRest⟩ := ih counted
    obtain ⟨rfl, rfl⟩ := pure_ok.1 finished
    refine ⟨rfl, fun entry member => ?_⟩
    rcases List.mem_cons.1 member with rfl | member
    · exact ⟨by simp, linked⟩
    · obtain ⟨account, back⟩ := fromRest entry member
      exact ⟨List.mem_cons_of_mem _ account, back⟩

theorem bookIdFromLines_ok {accounts : Table LedgerAccount} {s t : σ} {bookId : Uuid}
    (ran : bookIdFromLines accounts lines s = .ok (bookId, t)) :
    s = t ∧ ∀ line ∈ lines,
      (accounts.find line.accountId).map LedgerAccount.bookId = some bookId := by
  unfold bookIdFromLines at ran
  simp only [↓steps_ok] at ran
  obtain ⟨first, _, _, shared, rfl, rfl⟩ := ran
  exact ⟨rfl, shared⟩

/-- The journal that a command may post: in its own book, and pointing back. -/
def Sound (ledger : LedgerStore) (journal : LedgerJournal) : Prop :=
  ∀ entry ∈ journal.entries,
    (ledger.accounts.find entry.accountId).map LedgerAccount.bookId = some journal.bookId ∧
      PointsBack ledger.entries.rows journal.traceability entry

theorem postCommandJournal_effect {result : LedgerJournal}
    (ran : postCommandJournal reads subject command ids traceability s = .ok (result, t)) :
    LedgerEffect (Sound s) s t := by
  unfold postCommandJournal at ran
  simp only [↓get_bind_ok] at ran
  obtain ⟨bookId, _, booked, ran⟩ := bind_ok.1 ran
  obtain ⟨rfl, shared⟩ := bookIdFromLines_ok booked
  obtain ⟨entries, _, resolved, ran⟩ := bind_ok.1 ran
  obtain ⟨rfl, linked⟩ := ledgerEntries_ok resolved
  simp only [↓attempt_bind_ok] at ran
  obtain ⟨journal, valid, posting⟩ := ran
  obtain ⟨same, listed⟩ := LedgerJournal.validate?_ok valid
  refine .of_posted (fun entry mem => ?_) (postJournal_ok posting).2
  rw [listed] at mem
  obtain ⟨account, back⟩ := linked entry mem
  rw [same]
  refine ⟨?_, back⟩
  obtain ⟨line, listed, id⟩ := List.mem_map.1 account
  rw [← id]
  exact shared line (mem_orderedBy.1 listed)

theorem validateBalancedLines_readOnly {time : DateTime} :
    ReadOnly (validateBalancedLines lines time : Transaction σ Failure (Int × Int)) :=
  .requires <| .requires <| .requires <| .pure

theorem lineage_readOnly (reads : FinancialReads) (command : FinancialPostingCommand) :
    ReadOnly (validateAndResolveLineage reads command :
      Transaction σ Failure LedgerTraceability) := by
  unfold validateAndResolveLineage
  split
  · refine .demands fun _ => .requires ?_
    exact .demands fun _ => .demands fun _ => .pure
  · exact .demands fun _ => .requires <| .pure
  · refine .demands fun _ => .requires ?_
    exact .demands fun _ => .pure
  · exact .throw

theorem moveWallet_keepsLedger {hash : Payload → Digest} :
    KeepsLedger (moveWallet hash reads subject command ids journalId) := by
  have typed : ∀ sourceType, ReadOnly (walletEntryTypeFor sourceType :
      FinancialTransaction Wallet.Models.WalletEntryType)
    | .completedPayment => .pure
    | .approvedRefund => .pure
    | .settlementEvent => .pure
    | .walletAdjustment => .throw
  refine .bind (typed _).keeps fun _ => .bind consumeWithUnit_keepsLedger fun _ => ?_
  exact .bind .get fun _ => .bind .demand fun _ => .pure

theorem recordPosting_keepsLedger {postingId : Uuid} {totals : Int × Int} {walletEntryId : Uuid} :
    KeepsLedger (recordPosting subject command ids postingId totals journalId walletEntryId) := by
  refine .bind .demand fun _ => .bind .demand fun _ => .bind .demand fun _ => ?_
  exact .bind onPostings_keepsLedger fun _ => .pure

theorem post_effect {hash : Payload → Digest} {s t : FinancialStore}
    {result : FinancialPosting × List FinancialPostingLine}
    (ran : post hash reads subject command ids s = .ok (result, t)) :
    LedgerEffect (Sound s.ledger) s.ledger t.ledger := by
  unfold post at ran
  simp only [↓guards_ok] at ran
  obtain ⟨_, _, _, ran⟩ := ran
  obtain ⟨totals, _, summed, ran⟩ := bind_ok.1 ran
  obtain rfl := validateBalancedLines_readOnly _ _ _ summed
  obtain ⟨traceability, _, traced, ran⟩ := bind_ok.1 ran
  obtain rfl := lineage_readOnly _ _ _ _ _ traced
  obtain ⟨canonical, m, reserved, ran⟩ := bind_ok.1 ran
  have sameLedger := onPostings_keepsLedger _ _ _ reserved
  unfold getPosting at ran
  simp only [↓onPostings_read_bind_ok, whenSome_ok] at ran
  rw [← sameLedger]
  obtain ⟨posting, _, ran⟩ | ⟨_, ran⟩ := ran
  · refine .of_eq ?_
    exact Keeps.bind onPostings_keepsLedger (fun _ => .pure) _ _ _ ran
  · obtain ⟨journal, _, posting, ran⟩ := bind_ok.1 ran
    obtain ⟨ledger, posted, rfl⟩ := onLedger_ok.1 posting
    have kept := Keeps.bind moveWallet_keepsLedger
      (fun _ => recordPosting_keepsLedger) _ _ _ ran
    rw [kept]
    exact postCommandJournal_effect posted

end

end Ayo.Persistence.LedgerWriters
