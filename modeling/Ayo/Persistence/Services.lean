/- digest: The financial services over one state, in any order of calls. -/

import Ayo.Persistence.BookIsolation
import Ayo.PostTrip.SettlementEffects
import Ayo.Settlement.Effects

namespace Ayo.Persistence.Services

open Kernel.UnitOfWork Kernel.Run Core.Values Core.Authorization
open FinancialControl.Application (HoldCommand)
open FinancialControl.Repository (HoldStore)
open Ledger.Models (LedgerAccount LedgerBook LedgerJournal Minor firstLine secondLine)
open Payment.Application (PaymentCommand PaymentConfig)
open Payment.Repository (PaymentStore)
open BookIsolation (financialStep)
open Ledger.Repository (LedgerTransaction postJournal)
open Ledger.ReplayView (sampleJournal)
open Payment.SingleCapture (attemptWith callbackFor capturedOutcome firstEvent moment payByCard
  reconcile sampleConfig sampleHash sampleReads)
open Persistence.Composition
open LedgerWriters (cashPost_keeps clear_keeps)
open PostTrip.CashLedger (CashConfig CashPostRequest ClearRequest)
open PostTrip.Repository (PostTripStore PostTripTransaction)
open PostTrip.Settlement (SettlementConfig SettleRequest settle)
open PostTrip.SettlementEffects (settle_ok)
open Postings.Application (PostingIds post)
open Postings.Effects (post_ok)
open Postings.Models (FinancialPosting FinancialPostingCommand FinancialPostingLine)
open Postings.Repository (PostingStore)
open Pricing.Models (Calculations)
open Refund.Application (RefundCommand)
open Refund.Repository (RefundStore)
open Rides.Models (ActiveRides)
open Settlement.Application (SettlementCommand)
open Settlement.Repository (SettlementStore)
open Wallet.Application (ConsumeRequest WalletReads consumeAuthoritativeEvent)
open Wallet.Repository (WalletStore)

structure PlatformConfig where
  hash : Payload → Digest
  payment : PaymentConfig
  settlement : SettlementConfig
  cash : CashConfig

structure Platform where
  payments : PaymentStore := {}
  refunds : RefundStore := {}
  settlements : SettlementStore := {}
  holds : HoldStore := {}
  financial : FinancialStore := {}

/-- What one call reads outside the platform. -/
structure Surroundings where
  grants : Grants
  calculations : Calculations
  rides : ActiveRides
  identityExists : Uuid → Bool

/-- A command of one of the services, a journal that is posted through the repository, a row of a
ledger book or account, or what the other commands leave of the trips. -/
inductive PlatformCommand where
  | payment (command : PaymentCommand)
  | refund (command : RefundCommand)
  | settlement (command : SettlementCommand)
  | hold (command : HoldCommand)
  | consumeEvent (request : ConsumeRequest)
  | post (command : FinancialPostingCommand) (ids : PostingIds)
  | settle (request : SettleRequest)
  | postCash (request : CashPostRequest)
  | clearCash (request : ClearRequest)
  | postJournal (journal : LedgerJournal)
  | addBook (book : LedgerBook)
  | addAccount (account : LedgerAccount)
  | tripsElsewhere (postTrip : PostTripStore)

structure PlatformCall where
  surroundings : Surroundings
  subject : AuthorizationSubject
  command : PlatformCommand

variable (config : PlatformConfig) (platform : Platform)

def financialReads (surroundings : Surroundings) : FinancialReads :=
  { grants := surroundings.grants, calculations := surroundings.calculations,
    rides := surroundings.rides, payments := platform.payments, refunds := platform.refunds,
    settlements := platform.settlements }

def walletReads (surroundings : Surroundings) : WalletReads :=
  { grants := surroundings.grants, journals := journalOf platform.financial.ledger,
    payments := platform.payments, refunds := platform.refunds,
    settlements := platform.settlements }

def platformStep (call : PlatformCall) : Platform :=
  let journals := journalOf platform.financial.ledger
  let grants := call.surroundings.grants
  let calculations := call.surroundings.calculations
  let reads := financialReads platform call.surroundings
  let subject := call.subject
  match call.command with
  | .payment command =>
    { platform with
      payments := Payment.Application.step config.payment platform.payments
        { reads := { grants, calculations, journals }, subject, command } }
  | .refund command =>
    { platform with
      refunds := Refund.Application.step config.hash platform.payments platform.refunds
        { reads := { grants, calculations, journals }, subject, command } }
  | .settlement command =>
    { platform with
      settlements := Settlement.Application.step config.hash platform.holds platform.settlements
        { reads :=
            { grants, payments := platform.payments, refunds := platform.refunds, calculations,
              journals },
          subject, command } }
  | .hold command =>
    { platform with
      holds := FinancialControl.Application.step config.hash platform.settlements platform.holds
        { reads :=
            { grants, payments := platform.payments, refunds := platform.refunds,
              walletAccountExists := fun id =>
                (platform.financial.wallets.accounts.find id).isSome,
              postingExists := fun id => (platform.financial.postings.postings.find id).isSome,
              identityExists := call.surroundings.identityExists },
          subject, command } }
  | .consumeEvent request =>
    { platform with
      financial.wallets := Wallet.Application.step config.hash platform.financial.wallets
        { reads := walletReads platform call.surroundings, subject, request } }
  | .post command ids =>
    { platform with
      financial := financialStep platform.financial (.post config.hash reads subject command ids) }
  | .settle request =>
    { platform with
      financial := financialStep platform.financial
        (.settle config.settlement reads subject request) }
  | .postCash request =>
    { platform with
      financial := financialStep platform.financial (.postCash config.cash reads subject request) }
  | .clearCash request =>
    { platform with
      financial := financialStep platform.financial (.clearCash config.cash reads subject request) }
  | .postJournal journal =>
    { platform with
      financial := commit (onLedger (postJournal calculations journal)) platform.financial }
  | .addBook book =>
    { platform with financial := financialStep platform.financial (.addBook book) }
  | .addAccount account =>
    { platform with financial := financialStep platform.financial (.addAccount account) }
  | .tripsElsewhere postTrip => { platform with financial.postTrip := postTrip }

section

def moneyMoved (store : FinancialStore) : WalletStore × PostingStore :=
  (store.wallets, store.postings)

variable {α : Type} {reads : FinancialReads} {subject : AuthorizationSubject}

theorem onLedger_keepsMoney (body : LedgerTransaction α) : Keeps moneyMoved (onLedger body) := by
  refine Keeps.within ?_ body
  intro _ _
  rfl

theorem onPostTrip_keepsMoney {body : PostTripTransaction α} :
    Keeps moneyMoved (onPostTrip body) := by
  refine Keeps.within ?_ body
  intro _ _
  rfl

theorem cashPost_keepsMoney {config : CashConfig} {request : CashPostRequest} :
    Keeps moneyMoved (PostTrip.CashLedger.post config reads subject request) :=
  cashPost_keeps (fun _ => ()) onLedger_keepsMoney (fun _ => onPostTrip_keepsMoney)
    (fun _ _ _ _ _ => rfl) request

theorem clear_keepsMoney {config : CashConfig} {request : ClearRequest} :
    Keeps moneyMoved (PostTrip.CashLedger.clear config reads subject request) :=
  clear_keeps (fun _ => ()) onLedger_keepsMoney (fun _ => onPostTrip_keepsMoney)
    (fun _ _ _ _ _ => rfl) (fun _ _ _ _ _ _ => rfl) request

end

private theorem commit_keepsMoney {α : Type} {body : FinancialTransaction α}
    (kept : Keeps moneyMoved body) (store : FinancialStore) :
    moneyMoved (commit body store) = moneyMoved store := by
  obtain stays | ⟨a, finished⟩ := commit_cases body store
  · rw [stays]
  · exact kept _ _ _ finished

theorem postings_of_step (config : PlatformConfig) (platform : Platform) (call : PlatformCall) :
    (platformStep config platform call).financial.postings = platform.financial.postings ∨
      ∃ command ids result, call.command = .post command ids ∧
        post config.hash (financialReads platform call.surroundings) call.subject command ids
          platform.financial = .ok (result, (platformStep config platform call).financial) := by
  obtain ⟨surroundings, subject, command⟩ := call
  cases command with
  | payment _ => exact .inl rfl
  | refund _ => exact .inl rfl
  | settlement _ => exact .inl rfl
  | hold _ => exact .inl rfl
  | consumeEvent _ => exact .inl rfl
  | tripsElsewhere _ => exact .inl rfl
  | post command ids =>
    obtain stays | ⟨result, finished⟩ := commit_cases
      (post config.hash (financialReads platform surroundings) subject command ids)
      platform.financial
    · exact .inl (congrArg FinancialStore.postings stays)
    · exact .inr ⟨command, ids, result, rfl, finished⟩
  | settle request =>
    obtain stays | ⟨result, finished⟩ := commit_cases
      (settle config.settlement (financialReads platform surroundings) subject request)
      platform.financial
    · exact .inl (congrArg FinancialStore.postings stays)
    · cases settle_ok finished with
      | settledBefore _ same => exact .inl (congrArg FinancialStore.postings same)
      | uncredited _ _ postings => exact .inl postings
      | credited _ _ _ _ _ _ _ _ _ postings => exact .inl postings
  | postCash request =>
    exact .inl (congrArg Prod.snd (commit_keepsMoney cashPost_keepsMoney _))
  | clearCash request =>
    exact .inl (congrArg Prod.snd (commit_keepsMoney clear_keepsMoney _))
  | postJournal journal | addBook book | addAccount account =>
    exact .inl (congrArg Prod.snd (commit_keepsMoney (onLedger_keepsMoney _) _))

theorem wallets_of_step (config : PlatformConfig) (platform : Platform) (call : PlatformCall) :
    (platformStep config platform call).financial.wallets = platform.financial.wallets ∨
      ∃ hash reads request account,
        consumeAuthoritativeEvent hash reads call.subject request platform.financial.wallets =
          .ok (account, (platformStep config platform call).financial.wallets) := by
  obtain ⟨surroundings, subject, command⟩ := call
  cases command with
  | payment _ => exact .inl rfl
  | refund _ => exact .inl rfl
  | settlement _ => exact .inl rfl
  | hold _ => exact .inl rfl
  | tripsElsewhere _ => exact .inl rfl
  | consumeEvent request =>
    obtain stays | ⟨account, finished⟩ := commit_cases
      (consumeAuthoritativeEvent config.hash (walletReads platform surroundings) subject request)
      platform.financial.wallets
    · exact .inl stays
    · exact .inr ⟨_, _, _, account, finished⟩
  | post command ids =>
    obtain stays | ⟨result, finished⟩ := commit_cases
      (post config.hash (financialReads platform surroundings) subject command ids)
      platform.financial
    · exact .inl (congrArg FinancialStore.wallets stays)
    · cases (post_ok finished).2.2.2.2 with
      | repeated _ _ _ kept => exact .inl ((congrArg FinancialStore.wallets kept).trans rfl)
      | recorded _ _ _ _ account _ _ recorded => exact .inr ⟨_, _, _, account, recorded.consumed⟩
  | settle request =>
    obtain stays | ⟨result, finished⟩ := commit_cases
      (settle config.settlement (financialReads platform surroundings) subject request)
      platform.financial
    · exact .inl (congrArg FinancialStore.wallets stays)
    · cases settle_ok finished with
      | settledBefore _ same => exact .inl (congrArg FinancialStore.wallets same)
      | uncredited _ wallets _ => exact .inl wallets
      | credited _ _ _ account _ _ _ _ credited _ =>
        exact .inr ⟨_, _, _, account, credited.consumed⟩
  | postCash request =>
    exact .inl (congrArg Prod.fst (commit_keepsMoney cashPost_keepsMoney _))
  | clearCash request =>
    exact .inl (congrArg Prod.fst (commit_keepsMoney clear_keepsMoney _))
  | postJournal journal | addBook book | addAccount account =>
    exact .inl (congrArg Prod.fst (commit_keepsMoney (onLedger_keepsMoney _) _))

/-! The captured payment 101 of ride 10 on the journal 30, and calls on the wallet of driver 2. -/

def platformConfig : PlatformConfig :=
  { hash := sampleHash, payment := sampleConfig, settlement :=
      { hash := sampleHash, accounts :=
          { bookId := 40, settlementClearing := 41, driverEarningsPayable := 42,
            commissionRevenue := 43, taxPayable := 44, incentiveExpense := 45,
            adjustmentExpense := 46, adjustmentRecovery := 47 },
        receiptPolicy :=
          { legalEntity := "AYO", regulatoryPolicyVersion := "receipt.v1",
            requiredRegulatoryInformation := [("registration", "1")],
            informed := List.cons_ne_nil _ _ } },
    cash := BookIsolation.cashConfig }

def surroundings : Surroundings :=
  { grants := sampleReads.grants, calculations := sampleReads.calculations, rides := fun _ => none,
    identityExists := fun _ => true }

def serviceCall (command : PlatformCommand) : PlatformCall :=
  { surroundings, subject := ⟨9, .service⟩, command }

def paymentCall (call : Payment.Application.PaymentCall) : PlatformCall :=
  { surroundings, subject := call.subject, command := .payment call.command }

def capturedRide : List PlatformCall :=
  [serviceCall (.addBook { bookId := 40, code := sampleJournal.sourceSystem, baseCurrency := etb }),
   serviceCall (.addAccount
     { accountId := 41, bookId := 40, code := sampleJournal.operation, currency := etb }),
   serviceCall (.addAccount
     { accountId := 42, bookId := 40, code := sampleJournal.reasonCode, currency := etb }),
   serviceCall (.postJournal sampleJournal), paymentCall payByCard,
   paymentCall (attemptWith "ref-1" "payment-attempt-0001" 101 101),
   paymentCall (reconcile 101 102),
   paymentCall (callbackFor 101 capturedOutcome firstEvent "payment-callback-001" 201 103)]

/-- Service 9 enters a pending credit into the wallet of driver 2. -/
def creditEvent (amountMinor : Int) (key : String) (candidateId : Uuid) (time : Instant) :
    PlatformCall :=
  serviceCall <| .consumeEvent
    { ownerIdentityId := 2, authoritativeSourceType := .ledgerJournal, authoritativeSourceId := 30,
      entryType := .pendingCredit, amountMinor, reasonCode := "wallet.earned",
      idempotencyKey := key, correlationId := 53, causationId := 53, time := moment time,
      accountCandidateId := 900, candidateId }

def paymentPosting (operation : Code) (idempotencyKey : BoundedText 16 128) (amountMinor : Minor)
    (occurredAt : Instant) : FinancialPostingCommand :=
  { sourceType := .completedPayment, sourceId := 101, operation,
    reasonCode := sampleJournal.reasonCode, currency := etb,
    lines :=
      [{ lineIndex := firstLine, accountId := 41, side := .debit, amountMinor },
       { lineIndex := secondLine, accountId := 42, side := .credit, amountMinor }],
    walletOwnerIdentityId := 2, walletAmountMinor := amountMinor, idempotencyKey,
    correlationId := 54, causationId := 54, occurredAt, enough := Nat.le_refl 2,
    indexed := sampleJournal.entry_checks.2.2.1, inEtb := rfl }

def idsFrom (first : Uuid) : PostingIds :=
  { postingId := first, journalId := first + 1, auditReference := first + 2,
    entryId := fun index => first + 10 + index.1.toNat,
    lineId := fun index => first + 20 + index.1.toNat, walletAccountId := first + 3,
    walletEntryId := first + 4 }

def oneHundred : Minor := ⟨100, by decide⟩

def firstOperation : Code := ⟨"payment.post.first", by decide⟩

def firstPostingKey : BoundedText 16 128 := ⟨"payment-posting-0001", by decide⟩

def postingAt450 : FinancialPostingCommand :=
  paymentPosting firstOperation firstPostingKey oneHundred 450

def postAfter (calls : List PlatformCall) :
    Except Failure ((FinancialPosting × List FinancialPostingLine) × FinancialStore) :=
  let platform := run (platformStep platformConfig) {} calls
  post platformConfig.hash (financialReads platform surroundings) ⟨9, .service⟩ postingAt450
    (idsFrom 700) platform.financial

end Ayo.Persistence.Services
