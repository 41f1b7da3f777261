/- digest: Compensations point at their predecessor, and journals stay in their book. -/

import Ayo.Ledger.TrialBalance
import Ayo.Payment.SingleCapture
import Ayo.Persistence.LedgerWriters

namespace Ayo.Persistence.BookIsolation

open Kernel.UnitOfWork Kernel.Run Kernel.KeyedTable Core.Values Core.Authorization Ledger.Models
open Ledger.Lineage
open Ledger.TrialBalance (addBook addAccount)
open Ledger.ReplayView (sampleCalculation)
open Payment.SingleCapture (sampleHash sampleReads moment)
open Persistence.Composition LedgerWriters PostTrip.CashAccounting
open PostTrip.CashLedger (CashConfig CashPostRequest ClearRequest)
open PostTrip.Repository (PostTripStore)
open PostTrip.Settlement (SettlementConfig SettleRequest settle)
open Postings.Application (PostingIds)
open Postings.Models (FinancialPostingCommand)
open Wallet.Repository (WalletStore)

/-- A unit of work of one of the four services that post journals, a row of a ledger account or
book, or what the other commands, which never write the ledger, leave of the wallets and trips. -/
inductive FinancialCall where
  | addBook (book : LedgerBook)
  | addAccount (account : LedgerAccount)
  | post (hash : Payload → Digest) (reads : FinancialReads) (subject : AuthorizationSubject)
      (command : FinancialPostingCommand) (ids : PostingIds)
  | settle (config : SettlementConfig) (reads : FinancialReads) (subject : AuthorizationSubject)
      (request : SettleRequest)
  | postCash (config : CashConfig) (reads : FinancialReads) (subject : AuthorizationSubject)
      (request : CashPostRequest)
  | clearCash (config : CashConfig) (reads : FinancialReads) (subject : AuthorizationSubject)
      (request : ClearRequest)
  | elsewhere (wallets : WalletStore) (postTrip : PostTripStore)

def financialStep (store : FinancialStore) : FinancialCall → FinancialStore
  | .addBook book => commit (onLedger (addBook book)) store
  | .addAccount account => commit (onLedger (addAccount account)) store
  | .post hash reads subject command ids =>
    commit (Postings.Application.post hash reads subject command ids) store
  | .settle config reads subject request => commit (settle config reads subject request) store
  | .postCash config reads subject request =>
    commit (PostTrip.CashLedger.post config reads subject request) store
  | .clearCash config reads subject request =>
    commit (PostTrip.CashLedger.clear config reads subject request) store
  | .elsewhere wallets postTrip => { store with wallets, postTrip }

def draft? (store : FinancialStore) : FinancialCall → Option Draft
  | .settle config _ subject request =>
    (settledRecord? subject store request.rideId).map fun record =>
      settlementDraft config.accounts record.financialBreakdown
  | .postCash config reads subject request =>
    (derivedInstruction? config reads subject store request).map (instructionDraft config)
  | .clearCash config _ subject request => clearingDraft? config subject store request
  | _ => none

/-- The accounts that the configuration gives to a journal lie in the book that it gives to it. -/
def DraftsOwnBook (store : FinancialStore) (call : FinancialCall) : Prop :=
  ∀ draft ∈ draft? store call, ∀ accountId ∈ draft.accountIds,
    ∀ account ∈ store.ledger.accounts.find accountId, account.bookId = draft.bookId
deriving Decidable

def Postable (store : FinancialStore) (call : FinancialCall) (journal : LedgerJournal) : Prop :=
  (draft? store call = none ∧ Sound store.ledger journal) ∨
    ∃ draft ∈ draft? store call, Drawn store.ledger draft journal

variable {store : FinancialStore} {call : FinancialCall}

private theorem commit_effect {α : Type} {allowed : LedgerJournal → Prop}
    {body : FinancialTransaction α}
    (effect : ∀ a t, body store = .ok (a, t) → LedgerEffect allowed store.ledger t.ledger) :
    LedgerEffect allowed store.ledger (commit body store).ledger :=
  @commit_related _ _ _ (fun s t => LedgerEffect allowed s.ledger t.ledger) body
    store (.of_eq rfl) effect

theorem step_effect (store : FinancialStore) (call : FinancialCall) :
    LedgerEffect (Postable store call) store.ledger (financialStep store call).ledger := by
  cases call with
  | addBook =>
    refine commit_effect fun _ t ran => ?_
    obtain ⟨ledger, added, rfl⟩ := onLedger_ok.1 ran
    simp only [addBook, ↓steps_ok] at added
    obtain ⟨books, _, rfl⟩ := added
    exact .kept (fun found => found) rfl rfl
  | addAccount =>
    refine commit_effect fun _ t ran => ?_
    obtain ⟨ledger, added, rfl⟩ := onLedger_ok.1 ran
    simp only [addAccount, ↓steps_ok, Table.insert?_eq_some] at added
    obtain ⟨_, accounts, rows, rfl⟩ := added
    exact insertAccount_effect rows
  | post =>
    exact commit_effect fun _ _ ran => (post_effect ran).imp fun _ sound => .inl ⟨rfl, sound⟩
  | settle =>
    refine commit_effect fun _ _ ran => (settle_effect ran).imp ?_
    rintro journal ⟨record, closes, drawn⟩
    exact .inr ⟨_, Option.mem_map_of_mem _ closes, drawn⟩
  | postCash =>
    refine commit_effect fun _ _ ran => (cashPost_effect ran).imp ?_
    rintro journal ⟨instruction, derived, drawn⟩
    exact .inr ⟨_, Option.mem_map_of_mem _ derived, drawn⟩
  | clearCash =>
    exact commit_effect fun _ _ ran => (clear_effect ran).imp fun _ => .inr
  | elsewhere => exact .of_eq rfl

theorem step_preserves_housed
    (housed : Housed store.ledger) : Housed (financialStep store call).ledger :=
  (step_effect store call).housed housed

theorem step_preserves_linked (housed : Housed store.ledger) (linked : Linked store.ledger) :
    Linked (financialStep store call).ledger := by
  refine (step_effect store call).linked housed ?_ linked
  rintro journal (⟨_, sound⟩ | ⟨draft, _, drawn⟩) entry mem
  · exact (sound entry mem).2
  · exact drawn.pointsBack entry mem

theorem step_preserves_ownBook
    (configured : DraftsOwnBook store call) (housed : Housed store.ledger)
    (own : OwnBook store.ledger) : OwnBook (financialStep store call).ledger := by
  refine (step_effect store call).ownBook housed ?_ own
  rintro journal (⟨_, sound⟩ | ⟨draft, drafted, drawn⟩) entry mem account found
  · have book := (sound entry mem).1
    rw [Option.mem_def.1 found] at book
    exact Option.some.inj book
  · rw [drawn.bookId]
    refine configured draft drafted entry.accountId ?_ account found
    rw [← drawn.accounts]
    exact List.mem_map_of_mem mem

/-- In every run every predecessor entry belongs to the journal that the lineage names. -/
theorem linked_of_run {calls : List FinancialCall} :
    Housed (run financialStep {} calls).ledger ∧ Linked (run financialStep {} calls).ledger := by
  refine @run_invariant _ _ financialStep
    (fun store => Housed store.ledger ∧ Linked store.ledger) ?_ _ calls ?_
  · rintro store call ⟨housed, linked⟩
    exact ⟨step_preserves_housed housed, step_preserves_linked housed linked⟩
  · refine ⟨?_, ?_⟩
    · intro row mem
      simp at mem
    · intro header mem
      simp at mem

/-- In every run whose configured accounts lie in their configured book, every entry stands on an
account of its journal's book, and every predecessor entry belongs to the journal that the lineage
names. -/
theorem own_book_along (calls : List FinancialCall)
    (along : Along financialStep DraftsOwnBook {} calls) :
    OwnBook (run financialStep {} calls).ledger ∧ Linked (run financialStep {} calls).ledger := by
  refine ⟨?_, linked_of_run.2⟩
  have both := @run_invariant_along _ _ financialStep
    (fun store => Housed store.ledger ∧ OwnBook store.ledger) DraftsOwnBook
    (fun store call configured both => ⟨step_preserves_housed both.1,
      step_preserves_ownBook configured both.1 both.2⟩) {} calls along
    ⟨fun row member => by simp at member, fun header member => by simp at member⟩
  exact both.2

/-! The cash of ride 10, of which an agent policy claims a fifth, on the accounts 41 to 43. -/

def cashConfig : CashConfig :=
  { hash := sampleHash,
    uuid5 := fun label numbers => numbers.foldl (fun id n => id * 1009 + n) label.length,
    bookId := 40,
    accountIds := fun code =>
      if code = "cash.receivable" then some 41
      else if code = "platform.revenue" then some 42
      else if code = "cash.clearing" then some 43
      else none,
    production := false }

def cashReads : FinancialReads :=
  { grants := sampleReads.grants, calculations := sampleReads.calculations,
    rides := fun _ => none, payments := {}, refunds := {}, settlements := {} }

def agentTerms : CashPolicyTerms :=
  { accountingPolicyId := 60, accountingPolicyVersion := "cash.agent.v1",
    accountingModel := .agentNetRemittance, effectiveFrom := 0, effectiveUntil := none,
    environment := .nonProduction, platformClaimBasisPoints := ⟨2000, by decide⟩,
    driverEntitlementBasisPoints := ⟨8000, by decide⟩, taxBasisPoints := ⟨0, by decide⟩,
    principalReceivableAccount := none, platformClaimAccount := some "cash.receivable",
    driverEntitlementAccount := none, platformRevenueAccount := "platform.revenue",
    taxPayableAccount := none, reconciliationClearingAccount := "cash.clearing",
    policyEvidenceHash := 0 }

def corroborated : CashCollectionEvidence :=
  { evidenceId := 61, rideId := 10, fareCalculationId := 20,
    grossCashReportedMinor := sampleCalculation.breakdown.riderTotalMinor,
    state := .collectionCorroborated, evidenceHash := 0 }

def collectedTrip : PostTripStore :=
  { collectionEvidence := ⟨[corroborated], List.pairwise_singleton _ _⟩,
    policies := ⟨[{ agentTerms with valid := by decide }], List.pairwise_singleton _ _⟩ }

def account (accountId bookId : Uuid) (code : Code) : FinancialCall :=
  .addAccount { accountId, bookId, code, currency := etb }

def book (bookId : Uuid) (code : Code) : FinancialCall :=
  .addBook { bookId, code, baseCurrency := etb }

def postCollectedCash : FinancialCall :=
  .postCash cashConfig cashReads ⟨9, .service⟩
    { rideId := 10, fareCalculationId := 20, evidenceId := 61, accountingPolicyId := 60,
      idempotencyKey := "cash-accounting-0001", correlationId := 50, time := moment 300 }

/-- Two books, the three accounts with the revenue account in one of the books, and a posting. -/
def cashPosted (revenueBook : Uuid) : List FinancialCall :=
  [book 40 ⟨"rides", by decide⟩, book 44 ⟨"other", by decide⟩,
   account 41 40 ⟨"receivable", by decide⟩, account 42 revenueBook ⟨"revenue", by decide⟩,
   account 43 40 ⟨"clearing", by decide⟩, .elsewhere {} collectedTrip, postCollectedCash]

theorem own_book_rides :
    OwnBook (run financialStep {} (cashPosted 40)).ledger ∧
      Linked (run financialStep {} (cashPosted 40)).ledger :=
  own_book_along (cashPosted 40) (by decide +kernel)

theorem off_book_revenue :
    ¬ (OwnBook (run financialStep {} (cashPosted 44)).ledger ∧
      Linked (run financialStep {} (cashPosted 44)).ledger) := by
  have off : ¬ OwnBook (run financialStep {} (cashPosted 44)).ledger := by decide +kernel
  exact fun both => off both.1

end Ayo.Persistence.BookIsolation
