/- digest: The stores that one financial unit of work writes, and what it reads. -/

import Ayo.PostTrip.Repository
import Ayo.Postings.Repository
import Ayo.Wallet.Application

namespace Ayo.Persistence.Composition

open Kernel.UnitOfWork Core.Values Core.Authorization
open Ledger.Models (LedgerJournal)
open Ledger.Repository (LedgerStore LedgerTransaction getJournal)
open Payment.Repository (PaymentStore)
open PostTrip.Repository (PostTripStore PostTripTransaction)
open Postings.Repository (PostingStore PostingTransaction)
open Pricing.Models (Calculations)
open Refund.Repository (RefundStore)
open Rides.Models (ActiveRides)
open Settlement.Repository (SettlementStore)
open Wallet.Application (ConsumeRequest consumeAuthoritativeEvent)
open Wallet.Models (WalletAccount)
open Wallet.Repository (WalletStore WalletTransaction)

structure FinancialStore where
  ledger : LedgerStore := {}
  wallets : WalletStore := {}
  postings : PostingStore := {}
  postTrip : PostTripStore := {}

abbrev FinancialTransaction (α : Type) := Transaction FinancialStore Failure α

/-- What one command reads outside the stores it writes. -/
structure FinancialReads where
  grants : Grants
  calculations : Calculations
  rides : ActiveRides
  payments : PaymentStore
  refunds : RefundStore
  settlements : SettlementStore

variable {α β : Type} {s t : FinancialStore} {b : β} {f : α → FinancialTransaction β}
  {reads : FinancialReads} {subject : AuthorizationSubject} {request : ConsumeRequest}

def onLedger (body : LedgerTransaction α) : FinancialTransaction α :=
  within FinancialStore.ledger (fun ledger store => { store with ledger }) body

def onWallets (body : WalletTransaction α) : FinancialTransaction α :=
  within FinancialStore.wallets (fun wallets store => { store with wallets }) body

def onPostings (body : PostingTransaction α) : FinancialTransaction α :=
  within FinancialStore.postings (fun postings store => { store with postings }) body

def onPostTrip (body : PostTripTransaction α) : FinancialTransaction α :=
  within FinancialStore.postTrip (fun postTrip store => { store with postTrip }) body

def journalOf (ledger : LedgerStore) (journalId : Uuid) : Option LedgerJournal :=
  match getJournal journalId ledger with
  | .ok (found, _) => found
  | .error _ => none

/-- The wallet command inside a larger unit of work, which sees the ledger as it stands. -/
def consumeAuthoritativeEventWithUnit (hash : Payload → Digest) (reads : FinancialReads)
    (subject : AuthorizationSubject) (request : ConsumeRequest) :
    FinancialTransaction WalletAccount := do
  let store ← get
  onWallets (consumeAuthoritativeEvent hash
    { grants := reads.grants, journals := journalOf store.ledger, payments := reads.payments,
      refunds := reads.refunds, settlements := reads.settlements }
    subject request)

theorem onLedger_ok {body : LedgerTransaction α} {s t : FinancialStore} {a : α} :
    onLedger body s = .ok (a, t) ↔
      ∃ ledger, body s.ledger = .ok (a, ledger) ∧ { s with ledger } = t :=
  within_ok

theorem onPostTrip_read_bind_ok {read : PostTripStore → α} :
    (onPostTrip (get >>= fun store => pure (read store)) >>= f) s = .ok (b, t) ↔
      f (read s.postTrip) s = .ok (b, t) :=
  within_read_bind_ok fun _ => rfl

theorem onPostings_read_bind_ok {read : PostingStore → α} :
    (onPostings (get >>= fun store => pure (read store)) >>= f) s = .ok (b, t) ↔
      f (read s.postings) s = .ok (b, t) :=
  within_read_bind_ok fun _ => rfl

abbrev KeepsLedger (body : FinancialTransaction α) : Prop := Keeps FinancialStore.ledger body

theorem onWallets_keepsLedger {body : WalletTransaction α} : KeepsLedger (onWallets body) := by
  refine Keeps.within ?_ body
  intro _ _
  rfl

theorem onPostings_keepsLedger {body : PostingTransaction α} : KeepsLedger (onPostings body) := by
  refine Keeps.within ?_ body
  intro _ _
  rfl

theorem onPostTrip_keepsLedger {body : PostTripTransaction α} : KeepsLedger (onPostTrip body) := by
  refine Keeps.within ?_ body
  intro _ _
  rfl

theorem onPostTrip_keeps {τ : Type} {part : PostTripStore → τ} {body : PostTripTransaction α}
    (kept : Keeps part body) :
    Keeps (fun store : FinancialStore => part store.postTrip) (onPostTrip body) := by
  intro s a t ran
  obtain ⟨postTrip, finished, rfl⟩ := within_ok.1 ran
  exact kept _ _ _ finished

theorem onLedger_keepsPostTrip {body : LedgerTransaction α} :
    Keeps FinancialStore.postTrip (onLedger body) := by
  refine Keeps.within ?_ body
  intro _ _
  rfl

theorem consumeWithUnit_keepsPostTrip {hash : Payload → Digest} :
    Keeps FinancialStore.postTrip (consumeAuthoritativeEventWithUnit hash reads subject request) := by
  refine .bind .get fun _ => Keeps.within ?_ _
  intro _ _
  rfl

theorem consumeWithUnit_keepsLedger {hash : Payload → Digest} :
    KeepsLedger (consumeAuthoritativeEventWithUnit hash reads subject request) :=
  .bind .get fun _ => onWallets_keepsLedger

end Ayo.Persistence.Composition
