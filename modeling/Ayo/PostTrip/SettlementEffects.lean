/- digest: What a settlement does to the wallets and to the record of its trip. -/

import Ayo.Postings.Effects

namespace Ayo.PostTrip.SettlementEffects

open Kernel.UnitOfWork Kernel.KeyedTable Core.Values Core.Authorization Persistence.Composition
open Persistence.LedgerWriters (receipt_readOnly settle_stages)
open Postings.Effects (walletReadsAfter consumeWithUnit_ok)
open Models Repository PostTrip.Settlement
open Wallet.Application (consumeAuthoritativeEvent)
open Wallet.Effects Wallet.Models
open Wallet.Repository (getAccountByOwner lineageOf)

def Unsettled (store : PostTripStore) (rideId : Uuid) : Prop :=
  ∃ record ∈ store.records.find rideId, ¬ (record.state = .settled ∨ record.state = .archived)

def PaidDigitally (store : PostTripStore) (rideId : Uuid) : Prop :=
  ∃ package ∈ store.packages.rows.find? fun package => package.rideId = rideId,
    package.paymentMethod = .licensedDigitalProvider

structure DriverCredited (config : SettlementConfig) (reads : FinancialReads)
    (subject : AuthorizationSubject) (request : SettleRequest) (s t : FinancialStore)
    (driverId journalId : Uuid) (amountMinor : Int) (account : WalletAccount)
    (last : WalletLineageEntry) (record : PostTripRecord) : Prop where
  driver : (reads.rides request.rideId).bind Rides.Models.ActiveRide.driverId = some driverId
  consumed : consumeAuthoritativeEvent config.hash (walletReadsAfter reads t.ledger) subject
    (driverRequest request driverId amountMinor journalId) s.wallets =
      .ok (account, t.wallets)
  ends : (lineageOf t.wallets account.walletAccountId).getLast? = some last
  stored : t.postTrip.records.find request.rideId = some record
  walletEntryId : record.walletEntryId = some last.walletEntryId

/-- A settlement finds its record settled, or closes it without touching the wallets, or closes it
and credits the driver. -/
inductive SettleEffect (config : SettlementConfig) (reads : FinancialReads)
    (subject : AuthorizationSubject) (request : SettleRequest) (s t : FinancialStore) :
    Prop
  | settledBefore (closed : ¬ Unsettled s.postTrip request.rideId)
      (same : t = s)
  | uncredited (method : ¬ PaidDigitally s.postTrip request.rideId)
      (wallets : t.wallets = s.wallets) (postings : t.postings = s.postings)
  | credited (driverId journalId : Uuid) (amountMinor : Int) (account : WalletAccount)
      (last : WalletLineageEntry) (record : PostTripRecord)
      (unsettled : Unsettled s.postTrip request.rideId)
      (method : PaidDigitally s.postTrip request.rideId)
      (credited : DriverCredited config reads subject request s t driverId journalId
        amountMinor account last record)
      (postings : t.postings = s.postings)

variable {s t : PostTripStore} {rideId : Uuid} {expected : Nat}

theorem updateRecord_ok {states : List PostTripState} {failure : Failure}
    {change : PostTripRecord → PostTripRecord} {record : PostTripRecord}
    (ran : updateRecord rideId states expected failure change s =
      .ok (record, t)) (keeps : ∀ old, (change old).rideId = old.rideId) :
    ∃ current, s.records.find rideId = some current ∧
      record = { change current with version := expected + 1 } ∧
      t.records.find rideId = some record := by
  unfold updateRecord at ran
  simp only [↓steps_ok, Table.replace?_eq_some] at ran
  obtain ⟨current, found, _, records, rows, rfl, rfl⟩ := ran
  have named : current.rideId = rideId := Table.key_of_find found
  refine ⟨current, found, rfl, ?_⟩
  have key : rideId = Row.key ({ change current with version := expected + 1 } : PostTripRecord) :=
    named.symm.trans (keeps current).symm
  rw [Table.find_of_rows_replaced rows, if_pos key, found]
  rfl

theorem markSettled_ok {journalId riderReceiptId driverReceiptId : Uuid}
    {walletEntryId : Option Uuid} {record : PostTripRecord}
    (ran : markSettled rideId journalId walletEntryId riderReceiptId driverReceiptId
      expected s = .ok (record, t)) :
    record.walletEntryId = walletEntryId ∧ t.records.find rideId = some record := by
  unfold markSettled at ran
  obtain ⟨_, _, rfl, held⟩ := updateRecord_ok ran fun _ => rfl
  exact ⟨rfl, held⟩

theorem archive_ok {time : DateTime} {record : PostTripRecord}
    (ran : archive rideId time expected s = .ok (record, t)) :
    ∃ old, s.records.find rideId = some old ∧
      record.walletEntryId = old.walletEntryId ∧ t.records.find rideId = some record := by
  unfold archive at ran
  obtain ⟨old, found, rfl, held⟩ := updateRecord_ok ran fun _ => rfl
  exact ⟨old, found, rfl, held⟩

theorem notificationIntent_keeps {item : Notification} {u : Unit}
    (ran : notificationIntent item s = .ok (u, t)) : t.records = s.records := by
  unfold notificationIntent at ran
  simp only [↓steps_ok] at ran
  rw [← ran]

theorem addReceipt_keeps {item result : Receipt} (ran : addReceipt item s = .ok (result, t)) :
    t.records = s.records := by
  unfold addReceipt at ran
  simp only [↓steps_ok, whenSome_ok] at ran
  obtain ⟨_, _, _, _, rfl⟩ | ⟨_, _, _, _, rfl⟩ := ran
  · rfl
  · rfl

section

variable {config : SettlementConfig} {reads : FinancialReads} {subject : AuthorizationSubject}
  {request : SettleRequest} {s t : FinancialStore}

variable {ride : Rides.Models.ActiveRide} {record result : PostTripRecord}
  {package : TripEvidencePackage} {driverId journalId : Uuid}

/-- A record is closed in stages: the driver is credited, the receipts are added, the record is
settled, both are told, and it is archived. -/
theorem closeRecord_stages
    (ran : closeRecord config reads subject request ride record package driverId journalId s =
      .ok (result, t)) :
    ∃ walletEntryId between riderDraft riderReceipt driverDraft driverReceipt settled toDriver
        toRider a b c d e f,
      creditDriver config reads subject request package driverId record.financialBreakdown
        journalId s = .ok (walletEntryId, between) ∧
      addReceipt riderDraft between.postTrip = .ok (riderReceipt, a) ∧
      addReceipt driverDraft a = .ok (driverReceipt, b) ∧
      markSettled request.rideId journalId walletEntryId riderReceipt.receiptId
        driverReceipt.receiptId record.version b = .ok (settled, c) ∧
      notificationIntent toDriver c = .ok ((), d) ∧ notificationIntent toRider d = .ok ((), e) ∧
      archive request.rideId request.time settled.version e = .ok (result, f) ∧
      t = { between with postTrip := f } := by
  unfold closeRecord at ran
  obtain ⟨walletEntryId, between, credited, ran⟩ := bind_ok.1 ran
  obtain ⟨riderDraft, _, ran⟩ := (receipt_readOnly _ _ _ _ _).bind_ok ran
  obtain ⟨riderReceipt, _, riderAdded, ran⟩ := bind_ok.1 ran
  obtain ⟨driverDraft, _, ran⟩ := (receipt_readOnly _ _ _ _ _).bind_ok ran
  obtain ⟨driverReceipt, _, driverAdded, ran⟩ := bind_ok.1 ran
  obtain ⟨settled, _, marked, ran⟩ := bind_ok.1 ran
  obtain ⟨_, _, driverTold, ran⟩ := bind_ok.1 ran
  obtain ⟨_, _, riderTold, archived⟩ := bind_ok.1 ran
  simp only [onPostTrip, within_ok] at riderAdded driverAdded marked driverTold riderTold archived
  obtain ⟨a, riderAdded, rfl⟩ := riderAdded
  obtain ⟨b, driverAdded, rfl⟩ := driverAdded
  obtain ⟨c, marked, rfl⟩ := marked
  obtain ⟨d, driverTold, rfl⟩ := driverTold
  obtain ⟨e, riderTold, rfl⟩ := riderTold
  obtain ⟨f, archived, rfl⟩ := archived
  exact ⟨walletEntryId, between, riderDraft, riderReceipt, driverDraft, driverReceipt, settled, _,
    _, a, b, c, d, e, f, credited, riderAdded, driverAdded, marked, driverTold, riderTold, archived,
    rfl⟩

theorem closeRecord_ok
    (ran : closeRecord config reads subject request ride record package driverId journalId s =
      .ok (result, t)) :
    ∃ walletEntryId between,
      creditDriver config reads subject request package driverId record.financialBreakdown
          journalId s = .ok (walletEntryId, between) ∧
        t.wallets = between.wallets ∧ t.ledger = between.ledger ∧
        t.postings = between.postings ∧
        t.postTrip.records.find request.rideId = some result ∧
        result.walletEntryId = walletEntryId := by
  obtain ⟨walletEntryId, between, _, _, _, _, _, _, _, _, _, _, _, _, _, credited, _, _, marked,
    driverTold, riderTold, archived, rfl⟩ := closeRecord_stages ran
  obtain ⟨named, held⟩ := markSettled_ok marked
  obtain ⟨old, found, carried, final⟩ := archive_ok archived
  rw [notificationIntent_keeps riderTold, notificationIntent_keeps driverTold, held] at found
  obtain rfl := Option.some.inj found
  exact ⟨walletEntryId, between, credited, rfl, rfl, rfl, final, carried.trans named⟩

theorem settle_ok (ran : settle config reads subject request s = .ok (result, t)) :
    SettleEffect config reads subject request s t := by
  obtain ⟨ride, record, package, driverId, _, riding, driven, found, packed, _, ⟨closed, rfl⟩ |
    ⟨unsettled, _, _, journal, _, _, _, closed⟩⟩ := settle_stages ran
  · refine .settledBefore ?_ rfl
    rintro ⟨other, otherFound, unsettled⟩
    obtain rfl := Option.mem_unique found otherFound
    exact unsettled closed
  · obtain ⟨walletEntryId, between, credited, wallets, sameLedger, postings, held, named⟩ :=
      closeRecord_ok closed
    unfold creditDriver at credited
    simp only [ite_ok, pure_ok] at credited
    obtain ⟨digital, credited⟩ | ⟨cash, _, rfl⟩ := credited
    · obtain ⟨account, _, consuming, credited⟩ := bind_ok.1 credited
      obtain ⟨entered, consumed, rfl⟩ := consumeWithUnit_ok.1 consuming
      obtain ⟨owned, _, reading, credited⟩ := bind_ok.1 credited
      simp only [onWallets, within_ok, getAccountByOwner, ↓steps_ok] at reading
      obtain ⟨_, ⟨rfl, rfl⟩, rfl⟩ := reading
      obtain ⟨_, _, _, happened⟩ := consumeAuthoritativeEvent_effect consumed
      have own : accountOf entered driverId = some account := accountOf_of_consumed happened
      simp only [↓steps_ok] at credited
      obtain ⟨_, again, last, ends, rfl, rfl⟩ := credited
      obtain rfl := Option.mem_unique own again
      refine .credited driverId journal.journalId
        record.financialBreakdown.netDriverEarningsMinor.value account last result
        ⟨record, found, unsettled⟩ ⟨package, packed, digital⟩ ?_ postings
      refine ⟨by simp [riding, driven], ?_, ?_, held, named⟩
      · rw [wallets, sameLedger]
        exact consumed
      · rw [wallets]
        exact ends
    · refine .uncredited ?_ wallets postings
      rintro ⟨other, otherPacked, digital⟩
      obtain rfl := Option.mem_unique packed otherPacked
      exact cash digital

end

end Ayo.PostTrip.SettlementEffects
