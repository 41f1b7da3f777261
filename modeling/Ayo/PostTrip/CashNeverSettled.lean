/- digest: Cash state and evidence agree, and no cash trip can be settled. -/

import Ayo.Persistence.BookIsolation
import Ayo.PostTrip.CashTrips
import Ayo.PostTrip.CompletionPricing

namespace Ayo.PostTrip.CashNeverSettled

open Kernel.Run Core.Values Core.Authorization Persistence.Composition Application CashAccounting
open CashLedger (CashConfig)
open CashTrips Models Repository PostTrip.Settlement
open CompletionPricing (financialBreakdown?)
open Ledger.ReplayView (sampleCalculation)
open Payment.SingleCapture (sampleHash moment)
open Persistence.BookIsolation (cashConfig cashReads)
open Persistence.LedgerWriters (settle_stages)
open Pricing.Fares (zeroMinor)

variable (store : FinancialStore)

def InCashState (rideId : Uuid) (state : CashSettlementState) : Prop :=
  ∃ record ∈ store.postTrip.records.find rideId, record.cashState = some state

def HasEvidence (rideId : Uuid) (state : CashEvidenceState) : Prop :=
  ∃ evidence ∈ store.postTrip.collectionEvidence.rows,
    evidence.rideId = rideId ∧ evidence.state = state
deriving Decidable

/-- The evidence package of the ride says that it was paid in cash. -/
def PaidInCash (rideId : Uuid) : Prop :=
  ∃ package ∈ store.postTrip.packages.rows, package.rideId = rideId ∧ package.paymentMethod = .cash
deriving Decidable

variable {store : FinancialStore} {rideId : Uuid}

theorem inCashState_iff {state : CashSettlementState} : InCashState store rideId state ↔
      (financialViews store rideId).record.bind Prod.snd = some state := by
  unfold InCashState financialViews tripView
  cases store.postTrip.records.find rideId <;> simp

theorem hasEvidence_iff {state : CashEvidenceState} :
    HasEvidence store rideId state ↔ (financialViews store rideId).evidence = some state := by
  simp only [HasEvidence, financialViews, tripView, Option.map_eq_some_iff]
  constructor
  · rintro ⟨evidence, held, own, same⟩
    cases found : store.postTrip.collectionEvidence.rows.find? fun other =>
        other.rideId = rideId with
    | none => exact absurd own (by simpa using List.find?_eq_none.1 found evidence held)
    | some first =>
      have named : first.rideId = rideId := by simpa using List.find?_some found
      have one := store.postTrip.collectionEvidence.eq_of_clash held
        (List.mem_of_find?_eq_some found) (.inr (own.trans named.symm))
      exact ⟨first, rfl, one ▸ same⟩
  · rintro ⟨evidence, found, same⟩
    exact ⟨evidence, List.mem_of_find?_eq_some found, by simpa using List.find?_some found, same⟩

theorem method_of_paidInCash (paid : PaidInCash store rideId) :
    (financialViews store rideId).method = some .cash := by
  obtain ⟨package, held, own, cash⟩ := paid
  simp only [financialViews, tripView, Option.map_eq_some_iff]
  cases found : store.postTrip.packages.rows.find? fun other => other.rideId = rideId with
  | none => exact absurd own (by simpa using List.find?_eq_none.1 found package held)
  | some first =>
    have named : first.rideId = rideId := by simpa using List.find?_some found
    have one := store.postTrip.packages.eq_of_clash held (List.mem_of_find?_eq_some found)
      (.inr (.inl (own.trans named.symm)))
    exact ⟨first, rfl, one ▸ cash⟩

theorem payment_of_run (config : SettlementConfig) (cash : CashConfig) (calls : List TripCall)
    (rideId : Uuid) :
    ∃ payment : TripPayment,
      financialViews (run (tripStep config cash) {} calls) rideId = payment.view := by
  refine @run_invariant _ _ (tripStep config cash)
    (fun store => ∃ payment : TripPayment, financialViews store rideId = payment.view) ?_ {}
    calls ⟨.unfinalized, rfl⟩
  rintro store call ⟨payment, stands⟩
  obtain ⟨next, _, shown⟩ := (step_effect config cash store call).refines stands
  exact ⟨next, shown⟩

theorem not_settled_of_cash {payment : TripPayment}
    (stands : financialViews store rideId = payment.view) (paid : PaidInCash store rideId)
    {config : SettlementConfig} {reads : FinancialReads} {subject : AuthorizationSubject}
    {request : SettleRequest} (named : request.rideId = rideId) {result : PostTripRecord}
    {t : FinancialStore} : settle config reads subject request store ≠ .ok (result, t) := by
  intro ran
  subst named
  have method := method_of_paidInCash paid
  rw [stands] at method
  obtain ⟨confirmations, rfl⟩ : ∃ confirmations, payment = .cash confirmations := by
    cases payment with
    | unfinalized => cases method
    | digital => cases method
    | cash confirmations => exact ⟨confirmations, rfl⟩
  obtain ⟨_, record, package, _, _, _, _, found, packed, uncollected, goesOn⟩ := settle_stages ran
  have cash : package.paymentMethod = .cash := by
    have shown := congrArg TripView.method stands
    simpa [financialViews, tripView, packed, TripPayment.view] using shown
  have shown := congrArg TripView.record stands
  simp only [financialViews, tripView, found, Option.map_some, TripPayment.view,
    Option.some.injEq, Prod.mk.injEq] at shown
  obtain ⟨waits, state⟩ := shown
  rcases goesOn with ⟨closed, _⟩ | ⟨_, ready, _⟩
  · rw [waits] at closed
    rcases closed with settled | archived
    · cases settled
    · cases archived
  · have agreed : record.cashState = some .cashSettled := by
      by_contra disagreed
      exact ready ⟨cash, disagreed⟩
    have settled : cashState confirmations = .cashSettled :=
      Option.mem_unique state agreed
    have evidenced := congrArg TripView.evidence stands
    simp only [financialViews, tripView, TripPayment.view, settled, concluded, concludes] at evidenced
    refine uncollected ⟨cash, ?_⟩
    rw [← Option.isSome_map, evidenced]
    rfl

/-- The cash state is settled exactly when corroborated evidence exists and under review exactly
when evidence under review exists, and no trip that is paid in cash can be settled. -/
theorem cash_never_settled (config : SettlementConfig) (cash : CashConfig)
    (calls : List TripCall) (rideId : Uuid) :
    let store := run (tripStep config cash) {} calls
    (InCashState store rideId .cashSettled ↔
        HasEvidence store rideId .collectionCorroborated) ∧
      (InCashState store rideId .cashSettlementReview ↔
        HasEvidence store rideId .cashSettlementReview) ∧
      (PaidInCash store rideId →
        ∀ (config : SettlementConfig) (reads : FinancialReads) (subject : AuthorizationSubject)
          (request : SettleRequest) (result : PostTripRecord) (after : FinancialStore),
          request.rideId = rideId →
          settle config reads subject request store ≠ .ok (result, after)) := by
  intro store
  obtain ⟨payment, stands⟩ := payment_of_run config cash calls rideId
  rw [inCashState_iff, inCashState_iff, hasEvidence_iff, hasEvidence_iff]
  refine ⟨?_, ?_, fun paid _ _ _ _ _ _ named => not_settled_of_cash stands paid named⟩
  · rw [stands]
    cases payment with
    | unfinalized => simp [TripPayment.view]
    | digital => simp [TripPayment.view]
    | cash => simp [TripPayment.view, concluded_eq_some]
  · rw [stands]
    cases payment with
    | unfinalized => simp [TripPayment.view]
    | digital => simp [TripPayment.view]
    | cash => simp [TripPayment.view, concluded_eq_some]

/-! Ride 10 of rider 1 with driver 2, whose cash both confirm. -/

def sampleConfig : SettlementConfig :=
  { hash := sampleHash, accounts := ⟨40, 41, 42, 43, 44, 45, 46, 47⟩,
    receiptPolicy := ⟨"AYO", "receipt.v1", [("tin", "0001")], by decide⟩ }

def completedRide : ActiveRides.Models.ActiveRide :=
  { rideId := 10, riderId := 1, driverId := some 2, vehicleId := some 3, assignmentId := some 13,
    rideRequestId := some 11, dispatchHandoffId := some 12,
    lifecyclePolicyVersion := ⟨"active.v1", by decide⟩, state := .completed,
    pickupPlaceId := ⟨"place-01", by decide⟩, destinationPlaceId := ⟨"place-02", by decide⟩,
    serviceType := ⟨"standard", by decide⟩, updatedAt := 200, version := 7, counted := by decide,
    lastSequence := 9 }

def paidInCash : TripCall :=
  .finalize
    { rides := fun id => if id = 10 then some completedRide else none,
      confirmations := fun id => if id = 11 then some ⟨15, 0⟩ else none,
      previewExists := fun id => id = 15,
      finalBreakdown := fun _ _ _ _ =>
        financialBreakdown? sampleCalculation.breakdown.riderTotalMinor
          ⟨100, by decide, by decide⟩ zeroMinor ⟨400, by decide, by decide⟩
          ⟨"fare.v1", by decide⟩ 0 14 20 }
    ⟨9, .service⟩
    { rideId := 10, routeReference := ⟨"route", "route-10", 0, []⟩, paymentMethod := .cash,
      paymentReference := none, time := moment 300, packageId := 60 }

def tripRide : Rides.Models.ActiveRide := { completedRide with }

def confirmed (actorId : Uuid) (actorType : IdentityType) (key : String) : TripCall :=
  .confirmCash (fun id => if id = 10 then some tripRide else none) ⟨actorId, actorType⟩
    { rideId := 10, confirmed := true, idempotencyKey := key, time := moment 400,
      confirmationId := 60 + actorId, evidenceId := 70 }

def cashTrip : List TripCall :=
  [paidInCash, confirmed 1 .rider "rider-confirms-0001", confirmed 2 .driver "driver-confirms-0001"]

def settleTrip : SettleRequest :=
  { rideId := 10, idempotencyKey := "settle-ride-000010", correlationId := 50, time := moment 500,
    journalId := 80, auditReference := 81, entryId := fun index => 90 + index, walletAccountId := 82,
    walletEntryId := 83, riderReceiptId := 84, driverReceiptId := 85 }

theorem cash_never_settled_trip :
    InCashState (run (tripStep sampleConfig cashConfig) {} cashTrip) 10 .cashSettled ∧
      ∀ result after, settle sampleConfig
        { cashReads with rides := fun id => if id = 10 then some tripRide else none } ⟨9, .service⟩
        settleTrip (run (tripStep sampleConfig cashConfig) {} cashTrip) ≠ .ok (result, after) := by
  obtain ⟨settled, _, stays⟩ := cash_never_settled sampleConfig cashConfig cashTrip 10
  exact ⟨settled.2 (by decide +kernel), fun result after =>
    stays (by decide +kernel) _ _ _ settleTrip result after rfl⟩

end Ayo.PostTrip.CashNeverSettled
