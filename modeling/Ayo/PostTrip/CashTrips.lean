/- digest: The post-trip services as moves of one small machine per trip. -/

import Mathlib.Logic.Function.Basic
import Ayo.PostTrip.Application
import Ayo.PostTrip.SettlementEffects

namespace Ayo.PostTrip.CashTrips

open Kernel.UnitOfWork Kernel.KeyedTable Kernel.Ordering Core.Values Core.Authorization
open Ledger.Repository (LedgerTransaction)
open Persistence.Composition
open Persistence.LedgerWriters (cashPost_keeps clear_keeps settle_stages)
open Application CashAccounting
open CashLedger (CashConfig CashPostRequest ClearRequest)
open Models Repository PostTrip.Settlement
open SettlementEffects (addReceipt_keeps closeRecord_stages)
open Rides.Models (ActiveRide ActiveRides)

def concluded (state : CashSettlementState) : Option CashEvidenceState :=
  if concludes state = true then some (evidenceStateOf state) else none

inductive TripPayment where
  | unfinalized
  | digital (state : PostTripState)
  | cash (confirmations : List CashConfirmation)

/-- A package arrives, a role confirms that did not confirm yet, or a digital trip is settled. -/
inductive TripPayment.Moves : TripPayment → TripPayment → Prop
  | paidDigitally : Moves .unfinalized (.digital .awaitingSettlement)
  | paidInCash : Moves .unfinalized (.cash [])
  | confirmed {old new : List CashConfirmation} (added : CashConfirmation)
      (missing : latest old added.actorRole = none) (grown : new.Perm (old ++ [added])) :
      Moves (.cash old) (.cash new)
  | settled {state : PostTripState} : Moves (.digital state) (.digital .archived)

structure TripView where
  method : Option PaymentMethod
  record : Option (PostTripState × Option CashSettlementState)
  confirmations : List CashConfirmation
  evidence : Option CashEvidenceState

def TripPayment.view : TripPayment → TripView
  | .unfinalized => ⟨none, none, [], none⟩
  | .digital state => ⟨some .licensedDigitalProvider, some (state, none), [], none⟩
  | .cash confirmations =>
    ⟨some .cash, some (.awaitingSettlement, some (cashState confirmations)), confirmations,
      concluded (cashState confirmations)⟩

def tripView (store : PostTripStore) (rideId : Uuid) : TripView where
  method := (store.packages.rows.find? fun package => package.rideId = rideId).map
    TripEvidencePackage.paymentMethod
  record := (store.records.find rideId).map fun record => (record.state, record.cashState)
  confirmations := confirmationsOf store rideId
  evidence := (store.collectionEvidence.rows.find? fun evidence => evidence.rideId = rideId).map
    CashCollectionEvidence.state

inductive TripEffect (before after : Uuid → TripView) : Prop
  | kept (same : after = before)
  | finalized (rideId : Uuid) (method : PaymentMethod)
      (unpacked : (before rideId).method = none) (unrecorded : (before rideId).record = none)
      (becomes : after = Function.update before rideId
        { before rideId with
          method := some method,
          record := some (.awaitingSettlement,
            if method = .cash then some .awaitingConfirmations else none) })
  | confirmed (rideId : Uuid) (state : PostTripState) (cash : CashSettlementState)
      (added : CashConfirmation) (confirmations : List CashConfirmation)
      (recorded : (before rideId).record = some (state, some cash))
      (missing : latest (before rideId).confirmations added.actorRole = none)
      (grown : confirmations.Perm ((before rideId).confirmations ++ [added]))
      (becomes : after = Function.update before rideId
        { before rideId with
          record := some (state, some (cashState confirmations)), confirmations,
          evidence := (before rideId).evidence.or (concluded (cashState confirmations)) })
  | settled (rideId : Uuid) (state : PostTripState) (cash : Option CashSettlementState)
      (recorded : (before rideId).record = some (state, cash))
      (ready : (before rideId).method = some .cash → cash = some .cashSettled)
      (uncollected : (before rideId).method = some .cash → (before rideId).evidence = none)
      (becomes : after = Function.update before rideId
        { before rideId with record := some (.archived, cash) })

theorem concluded_of_missing {confirmations : List CashConfirmation} {role : CashRole}
    (missing : latest confirmations role = none) : concluded (cashState confirmations) = none := by
  unfold concluded cashState
  cases role with
  | rider =>
    rw [missing]
    cases latest confirmations .driver <;> rfl
  | driver =>
    rw [missing]
    cases latest confirmations .rider <;> rfl

theorem concluded_eq_some {state : CashSettlementState} {evidence : CashEvidenceState} :
    concluded state = some evidence ↔ (state = .cashSettled ∧ evidence = .collectionCorroborated) ∨
        (state = .cashSettlementReview ∧ evidence = .cashSettlementReview) := by
  cases state <;> cases evidence <;> decide

theorem TripEffect.refines {s t : Uuid → TripView} (effect : TripEffect s t)
    {rideId : Uuid} {payment : TripPayment} (stands : s rideId = payment.view) :
    ∃ next : TripPayment, (next = payment ∨ payment.Moves next) ∧ t rideId = next.view := by
  cases effect with
  | kept same => exact ⟨payment, .inl rfl, by rw [same, stands]⟩
  | finalized moved method unpacked unrecorded becomes =>
    by_cases own : rideId = moved
    · subst own
      rw [stands] at unpacked
      cases payment with
      | unfinalized =>
        cases method with
        | cash => exact ⟨.cash [], .inr .paidInCash, by rw [becomes, stands]; simp; rfl⟩
        | licensedDigitalProvider =>
          exact ⟨.digital .awaitingSettlement, .inr .paidDigitally,
            by rw [becomes, stands]; simp; rfl⟩
      | digital => cases unpacked
      | cash => cases unpacked
    · exact ⟨payment, .inl rfl, by rw [becomes, Function.update_of_ne own, stands]⟩
  | confirmed moved state cash added confirmations recorded missing grown becomes =>
    by_cases own : rideId = moved
    · subst own
      rw [stands] at recorded missing grown
      cases payment with
      | unfinalized => cases recorded
      | digital => cases recorded
      | cash old =>
        obtain ⟨rfl, _⟩ := Prod.mk.inj (Option.some.inj recorded)
        refine ⟨.cash confirmations, .inr (.confirmed added missing grown), ?_⟩
        have unconcluded : concluded (cashState old) = none := concluded_of_missing missing
        rw [becomes, stands, Function.update_self]
        simp only [TripPayment.view, unconcluded, Option.none_or]
    · exact ⟨payment, .inl rfl, by rw [becomes, Function.update_of_ne own, stands]⟩
  | settled moved state cash recorded ready uncollected becomes =>
    by_cases own : rideId = moved
    · subst own
      rw [stands] at recorded ready uncollected
      cases payment with
      | unfinalized => cases recorded
      | digital =>
        obtain ⟨rfl, rfl⟩ := Prod.mk.inj (Option.some.inj recorded)
        exact ⟨.digital .archived, .inr .settled, by rw [becomes, stands]; simp; rfl⟩
      | cash =>
        obtain ⟨rfl, rfl⟩ := Prod.mk.inj (Option.some.inj recorded)
        have settled := Option.some.inj (ready rfl)
        have none := uncollected rfl
        simp [TripPayment.view, settled, concluded, concludes] at none
    · exact ⟨payment, .inl rfl, by rw [becomes, Function.update_of_ne own, stands]⟩

section

variable {s t : PostTripStore} {rideId : Uuid} {expected : Nat} {subject : AuthorizationSubject}
  {confirmations : List CashConfirmation} {request : ConfirmCashRequest} {rides : ActiveRides}

theorem notificationIntent_keepsViews {item : Notification} :
    Keeps tripView (notificationIntent item) := by
  intro s u t ran
  unfold notificationIntent at ran
  simp only [↓steps_ok] at ran
  rw [← ran]
  rfl

theorem addReceipt_keepsViews {item : Receipt} : Keeps tripView (addReceipt item) := by
  intro s result t ran
  unfold addReceipt at ran
  simp only [↓steps_ok, whenSome_ok] at ran
  obtain ⟨_, _, _, _, rfl⟩ | ⟨_, _, _, _, rfl⟩ := ran
  · rfl
  · rfl

theorem addCashAccountingPolicy_keepsViews {item : CashAccountingPolicy} :
    Keeps tripView (addCashAccountingPolicy item) := by
  intro s result t ran
  unfold addCashAccountingPolicy at ran
  simp only [↓steps_ok] at ran
  obtain ⟨_, _, _, rfl⟩ := ran
  rfl

theorem addCashAccountingRecord_keepsViews (item : CashAccountingRecord) :
    Keeps tripView (addCashAccountingRecord item) := by
  intro s result t ran
  unfold addCashAccountingRecord cashAccountingRecord at ran
  simp only [bind_assoc, pure_bind, ↓steps_ok, whenSome_ok] at ran
  obtain ⟨_, _, _, _, rfl⟩ | ⟨_, _, _, _, rfl⟩ := ran
  · rfl
  · rfl

theorem updateCashAccountingRecord_keepsViews (item : CashAccountingRecord)
    (expected : Nat) : Keeps tripView (updateCashAccountingRecord item expected) := by
  intro s result t ran
  unfold updateCashAccountingRecord at ran
  simp only [↓steps_ok] at ran
  obtain ⟨_, _, _, _, _, _, rfl⟩ := ran
  rfl

theorem addCashReconciliationEvidence_keepsViews (item : CashReconciliationEvidence) :
    Keeps tripView (addCashReconciliationEvidence item) := by
  intro s result t ran
  unfold addCashReconciliationEvidence at ran
  simp only [↓steps_ok, whenSome_ok] at ran
  obtain ⟨_, _, _, _, rfl⟩ | ⟨_, _, _, _, rfl⟩ := ran
  · rfl
  · rfl

theorem updateRecord_view {states : List PostTripState}
    {failure : Failure} {change : PostTripRecord → PostTripRecord} {record : PostTripRecord}
    (ran : updateRecord rideId states expected failure change s = .ok (record, t))
    (keeps : ∀ old, (change old).rideId = old.rideId) :
    ∃ current, s.records.find rideId = some current ∧
      tripView t = Function.update (tripView s) rideId { tripView s rideId with
          record := some ((change current).state, (change current).cashState) } := by
  unfold updateRecord at ran
  simp only [↓steps_ok, Table.replace?_eq_some] at ran
  obtain ⟨current, found, _, records, rows, rfl, rfl⟩ := ran
  have named : current.rideId = rideId := Table.key_of_find found
  have key : rideId = Row.key ({ change current with version := expected + 1 } : PostTripRecord) :=
    named.symm.trans (keeps current).symm
  refine ⟨current, found, ?_⟩
  funext other
  by_cases own : other = rideId
  · subst own
    rw [Function.update_self]
    have held := Table.find_of_rows_replaced rows other
    rw [if_pos key, found] at held
    simp [tripView, held, confirmationsOf]
  · rw [Function.update_of_ne own]
    have kept := Table.find_of_rows_replaced rows other
    rw [if_neg fun same => own (same.trans key.symm)] at kept
    simp [tripView, kept, confirmationsOf]

theorem createPackage_view {package : TripEvidencePackage} {breakdown : FinancialBreakdown}
    {record : PostTripRecord} (ran : createPackage package breakdown s = .ok (record, t)) :
    TripEffect (tripView s) (tripView t) := by
  unfold createPackage packageForRide getRecord at ran
  simp only [bind_assoc, pure_bind, ↓steps_ok, whenSome_ok, demand_ok, Table.insert?_eq_some] at ran
  obtain ⟨_, _, _, _, rfl⟩ | ⟨unpacked, packages, packed, records, recorded, rfl, rfl⟩ := ran
  · exact .kept rfl
  · have free := Table.find_eq_none_of_rows_append recorded
    have unrecorded : s.records.find package.rideId = none := free
    refine .finalized package.rideId package.paymentMethod ?_ ?_ ?_
    · simp [tripView, unpacked]
    · simp [tripView, unrecorded]
    · funext other
      have found := Table.find_of_rows_append recorded other
      by_cases own : other = package.rideId
      · subst own
        rw [unrecorded] at found
        rw [Function.update_self]
        simp [tripView, packed, unpacked, found, confirmationsOf, Row.key]
      · have kept : records.find other = s.records.find other := by
          rw [found, if_neg fun same => own same.symm, Option.or_none]
        have different : package.rideId ≠ other := fun same => own same.symm
        rw [Function.update_of_ne own]
        simp [tripView, packed, kept, confirmationsOf, different]

theorem finalize_view {hash : Payload → Digest} {reads : CompletionReads}
    {request : FinalizeRequest} {record : PostTripRecord}
    (ran : finalize hash reads subject request s = .ok (record, t)) :
    TripEffect (tripView s) (tripView t) := by
  unfold finalize at ran
  simp only [↓steps_ok, ↓attempt_bind_ok] at ran
  obtain ⟨_, ride, _, _, _, _, _, _, _, _, _, _, _, _, _, _, _, breakdown, _, ran⟩ := ran
  obtain ⟨package, s, packed, ran⟩ := bind_ok.1 ran
  unfold finalizePackage at packed
  simp only [↓steps_ok] at packed
  obtain ⟨_, _, _, rfl, rfl⟩ := packed
  unfold packageForRide at ran
  simp only [bind_assoc, pure_bind, ↓get_bind_ok] at ran
  obtain ⟨created, m, creating, ran⟩ := bind_ok.1 ran
  have same : tripView t = tripView m := by
    simp only [ite_ok, pure_ok] at ran
    obtain ⟨_, _, rfl⟩ | ⟨_, ran⟩ := ran
    · rfl
    · obtain ⟨_, _, riderTold, ran⟩ := bind_ok.1 ran
      obtain ⟨_, driverTold, _⟩ := bind_pure_ok.1 ran
      exact (notificationIntent_keepsViews _ _ _ driverTold).trans
        (notificationIntent_keepsViews _ _ _ riderTold)
  rw [same]
  exact createPackage_view creating

theorem addCashCollectionEvidence_view {item result : CashCollectionEvidence}
    (ran : addCashCollectionEvidence item s = .ok (result, t)) :
    tripView t = Function.update (tripView s) item.rideId { tripView s item.rideId with
        evidence := (tripView s item.rideId).evidence.or (some item.state) } := by
  unfold addCashCollectionEvidence cashCollectionEvidence at ran
  simp only [bind_assoc, pure_bind, ↓steps_ok, whenSome_ok, Table.insert?_eq_some] at ran
  obtain ⟨existing, found, _, _, rfl⟩ | ⟨absent, collected, rows, _, rfl⟩ := ran
  · have stays : (tripView s item.rideId).evidence.or (some item.state) =
        (tripView s item.rideId).evidence := by
      simp [tripView, found]
    rw [stays, Function.update_eq_self]
  · funext other
    by_cases own : other = item.rideId
    · subst own
      rw [Function.update_self]
      simp [tripView, rows, absent, confirmationsOf]
    · have different : item.rideId ≠ other := fun same => own same.symm
      rw [Function.update_of_ne own]
      simp [tripView, rows, confirmationsOf, different]

theorem addCashConfirmation_view {item : CashConfirmation} {created : Bool}
    (ran : addCashConfirmation item s = .ok ((confirmations, created), t)) :
    (created = false ∧ t = s) ∨
      created = true ∧ latest (tripView s item.rideId).confirmations item.actorRole = none ∧
        confirmations.Perm ((tripView s item.rideId).confirmations ++ [item]) ∧
        tripView t = Function.update (tripView s) item.rideId
          { tripView s item.rideId with confirmations } := by
  unfold addCashConfirmation at ran
  simp only [↓steps_ok, whenSome_ok, Table.insert?_eq_some, Prod.mk.injEq] at ran
  obtain ⟨_, _, _, ⟨_, rfl⟩, rfl⟩ | ⟨missing, held, rows, ⟨rfl, rfl⟩, rfl⟩ := ran
  · exact .inl ⟨rfl, rfl⟩
  refine .inr ⟨rfl, ?_, ?_, ?_⟩
  · have none : (confirmationsOf s item.rideId).filter
        (fun other => other.actorRole = item.actorRole) = [] := by
      refine List.filter_eq_nil_iff.2 fun other mem => ?_
      obtain ⟨held, own⟩ := List.mem_filter.1 (mem_orderedBy.1 mem)
      have different := List.find?_eq_none.1 missing other held
      simp only [decide_eq_true_eq] at own different ⊢
      exact fun role => different ⟨own, role⟩
    show ((confirmationsOf s item.rideId).filter _).getLast?.map _ = _
    rw [none]
    rfl
  · have added : (held.rows.filter fun other => other.rideId = item.rideId) =
        (s.confirmations.rows.filter fun other => other.rideId = item.rideId) ++ [item] := by
      simp [rows]
    show (confirmationsOf { s with confirmations := held } item.rideId).Perm _
    unfold confirmationsOf
    rw [added]
    exact (List.perm_insertionSort _ _).trans
      ((List.perm_insertionSort _ _).symm.append_right [item])
  · funext other
    by_cases own : other = item.rideId
    · subst own
      rw [Function.update_self]
      rfl
    · have different : item.rideId ≠ other := fun same => own same.symm
      rw [Function.update_of_ne own]
      simp [tripView, confirmationsOf, rows, different]

theorem concludeCash_view {hash : Payload → Digest}
    {ride : ActiveRide} {updated : PostTripRecord} {state : CashSettlementState} {u : Unit}
    (ran : concludeCash hash request ride updated state confirmations s = .ok (u, t)) :
    tripView t = Function.update (tripView s) request.rideId { tripView s request.rideId with
        evidence := (tripView s request.rideId).evidence.or (some (evidenceStateOf state)) } := by
  unfold concludeCash at ran
  simp only [↓demand_bind_ok] at ran
  obtain ⟨driverId, _, ran⟩ := ran
  obtain ⟨_, _, collected, ran⟩ := bind_ok.1 ran
  obtain ⟨_, _, riderTold, driverTold⟩ := bind_ok.1 ran
  have told := (notificationIntent_keepsViews _ _ _ driverTold).trans
    (notificationIntent_keepsViews _ _ _ riderTold)
  exact told.trans (addCashCollectionEvidence_view collected)

theorem confirmCash_view {hash : Payload → Digest} {record : PostTripRecord}
    (ran : confirmCash hash rides subject request s = .ok (record, t)) :
    TripEffect (tripView s) (tripView t) := by
  unfold confirmCash getRecord at ran
  simp only [bind_assoc, pure_bind, ↓validateIdempotencyKey_bind_ok, ↓steps_ok] at ran
  obtain ⟨_, ride, _, old, found, unavailable, role, _, ran⟩ := ran
  obtain ⟨cash, cashFound⟩ := Option.ne_none_iff_exists'.1 unavailable
  obtain ⟨⟨confirmations, created⟩, m, confirming, rest⟩ := bind_ok.1 ran
  have recorded : (tripView s request.rideId).record = some (old.state, some cash) := by
    simp [tripView, found, cashFound]
  obtain ⟨rfl, rfl⟩ | ⟨rfl, missing, grown, confirmed⟩ := addCashConfirmation_view confirming
  · obtain ⟨_, rfl⟩ := pure_ok.1 rest
    exact .kept rfl
  obtain ⟨updated, n, updating, rest⟩ := bind_ok.1 rest
  obtain ⟨held, storedFound, new⟩ := updateRecord_view updating fun _ => rfl
  have same : held.state = old.state := by
    have shown := congrArg TripView.record (congrFun confirmed request.rideId)
    rw [Function.update_self] at shown
    simp only [tripView, storedFound, found, Option.map_some, Option.some.injEq,
      Prod.mk.injEq] at shown
    exact shown.1
  rw [confirmed, Function.update_self, Function.update_idem] at new
  refine .confirmed request.rideId old.state cash _ confirmations recorded missing grown ?_
  rcases ite_ok.1 rest with ⟨concludes, rest⟩ | ⟨goesOn, rest⟩
  · obtain ⟨_, concluding, _⟩ := bind_pure_ok.1 rest
    have becomes := concludeCash_view concluding
    rw [new, Function.update_self, Function.update_idem] at becomes
    rw [becomes, same, concluded, if_pos concludes]
  · obtain ⟨_, rfl⟩ := pure_ok.1 rest
    rw [new, same, concluded, if_neg goesOn, Option.or_none]

theorem markCashAccountingEvidenced_keepsViews {journalId riderReceiptId driverReceiptId : Uuid} :
    Keeps tripView (markCashAccountingEvidenced rideId journalId riderReceiptId driverReceiptId
      expected) := by
  intro s record t ran
  obtain ⟨old, found, new⟩ := updateRecord_view ran fun _ => rfl
  have stays : some (old.state, old.cashState) = (tripView s rideId).record := by
    simp [tripView, found]
  rw [new, stays, Function.update_eq_self]

theorem issueCashAccountingReceipts_keepsViews {config : SettlementConfig}
    {request : CashReceiptsRequest} :
    Keeps tripView (issueCashAccountingReceipts config rides subject request) := by
  have cashReceipt_keeps : ∀ ride record accounting receiptType owner receiptId,
      Keeps tripView (cashReceipt config request ride record accounting receiptType owner
        receiptId : PostTripTransaction Receipt) :=
    fun _ _ _ _ _ _ => .bind .demand fun _ => .bind .demand fun _ => .pure
  refine .bind .require fun _ => .bind (.bind .get fun _ => .pure) fun _ => ?_
  refine .bind (.bind .get fun _ => .pure) fun _ => .bind (.bind .get fun _ => .pure) fun _ => ?_
  refine .bind .demand fun _ => .bind .demand fun _ => .bind .demand fun _ => ?_
  refine .bind .demand fun _ => .bind .require fun _ => .bind .demand fun _ => ?_
  refine .bind .require fun _ => .bind .demand fun _ => .ite .pure ?_
  refine .bind (cashReceipt_keeps _ _ _ _ _ _) fun _ => .bind addReceipt_keepsViews fun _ => ?_
  refine .bind (cashReceipt_keeps _ _ _ _ _ _) fun _ => .bind addReceipt_keepsViews fun _ => ?_
  exact markCashAccountingEvidenced_keepsViews

end

def financialViews (store : FinancialStore) : Uuid → TripView := tripView store.postTrip

variable {config : SettlementConfig} {reads : FinancialReads} {subject : AuthorizationSubject}
  {request : SettleRequest} {package : TripEvidencePackage} {driverId journalId : Uuid}
  {s t : FinancialStore}

theorem creditDriver_keepsViews {b : FinancialBreakdown} :
    Keeps FinancialStore.postTrip
      (creditDriver config reads subject request package driverId b journalId) := by
  have account_keeps : Keeps FinancialStore.postTrip
      (onWallets (Wallet.Repository.getAccountByOwner driverId)) := by
    refine Keeps.within ?_ _
    intro _ _
    rfl
  refine .ite ?_ .pure
  refine .bind consumeWithUnit_keepsPostTrip fun _ => .bind account_keeps fun _ => ?_
  exact .bind .demand fun _ => .bind .get fun _ => .bind .demand fun _ => .pure

theorem closeRecord_view {ride : ActiveRide}
    {record result : PostTripRecord}
    (ran : closeRecord config reads subject request ride record package driverId journalId
      s = .ok (result, t)) :
    ∃ old, s.postTrip.records.find request.rideId = some old ∧
      financialViews t = Function.update (financialViews s) request.rideId
        { financialViews s request.rideId with
          record := some (.archived, old.cashState) } := by
  obtain ⟨_, _, _, _, _, _, _, _, _, _, _, _, _, _, _, credited, riderAdded, driverAdded, marked,
    driverTold, riderTold, archived, rfl⟩ := closeRecord_stages ran
  have stays := creditDriver_keepsViews _ _ _ credited
  have received := (addReceipt_keepsViews _ _ _ driverAdded).trans
    (addReceipt_keepsViews _ _ _ riderAdded)
  have told := (notificationIntent_keepsViews _ _ _ riderTold).trans
    (notificationIntent_keepsViews _ _ _ driverTold)
  obtain ⟨open_, found, closing⟩ := updateRecord_view marked fun _ => rfl
  obtain ⟨closed, closedFound, archiving⟩ := updateRecord_view archived fun _ => rfl
  have held : s.postTrip.records.find request.rideId = some open_ := by
    rw [← found, addReceipt_keeps driverAdded]
    rw [addReceipt_keeps riderAdded, stays]
  have same : closed.cashState = open_.cashState := by
    have shown := congrArg TripView.record (congrFun (told.trans closing) request.rideId)
    rw [Function.update_self] at shown
    simp only [tripView, closedFound, Option.map_some, Option.some.injEq, Prod.mk.injEq] at shown
    exact shown.2
  refine ⟨open_, held, ?_⟩
  show tripView _ = Function.update (tripView s.postTrip) request.rideId _
  rw [archiving, told, closing, Function.update_self, Function.update_idem, received, stays, same]
  rfl

theorem settle_view {result : PostTripRecord}
    (ran : settle config reads subject request s = .ok (result, t)) :
    TripEffect (financialViews s) (financialViews t) := by
  obtain ⟨ride, record, package, _, _, _, _, found, packed, uncollected,
    ⟨_, rfl⟩ | ⟨_, ready, _, _, _, _, _, closed⟩⟩ := settle_stages ran
  · exact .kept rfl
  obtain ⟨old, again, becomes⟩ := closeRecord_view closed
  obtain rfl := Option.mem_unique found again
  have method : (financialViews s request.rideId).method = some package.paymentMethod := by
    simp [financialViews, tripView, packed]
  refine .settled request.rideId record.state record.cashState ?_ ?_ ?_ becomes
  · simp [financialViews, tripView, found]
  · intro cash
    have paid := Option.mem_unique method cash
    by_contra unsettled
    exact ready ⟨paid, unsettled⟩
  · intro cash
    have paid := Option.mem_unique method cash
    by_contra collected
    refine uncollected ⟨paid, ?_⟩
    simpa [financialViews, tripView, Option.isSome_iff_ne_none] using collected

private theorem onLedger_views {α : Type} (body : LedgerTransaction α) :
    Keeps financialViews (onLedger body) := by
  intro s a t ran
  exact congrArg tripView (onLedger_keepsPostTrip s a t ran)

theorem postCash_keepsViews {config : CashConfig} {request : CashPostRequest} :
    Keeps financialViews (PostTrip.CashLedger.post config reads subject request) :=
  cashPost_keeps tripView onLedger_views onPostTrip_keeps addCashAccountingRecord_keepsViews request

theorem clearCash_keepsViews {config : CashConfig} {request : ClearRequest} :
    Keeps financialViews (PostTrip.CashLedger.clear config reads subject request) :=
  clear_keeps tripView onLedger_views onPostTrip_keeps addCashReconciliationEvidence_keepsViews
    updateCashAccountingRecord_keepsViews request

def Affects (before after : FinancialStore) : Prop :=
  TripEffect (financialViews before) (financialViews after)

theorem step_effect (config : SettlementConfig) (cash : CashConfig) (store : FinancialStore)
    (call : TripCall) : Affects store (tripStep config cash store call) := by
  have kept : ∀ {α : Type} {body : FinancialTransaction α}, Keeps financialViews body →
      Affects store (commit body store) := fun keeps =>
    commit_related (R := Affects) _ store (.kept rfl) fun a t ran =>
      .kept (keeps store a t ran)
  have moved : ∀ {α : Type} {body : PostTripTransaction α},
      (∀ a t, body store.postTrip = .ok (a, t) →
        TripEffect (tripView store.postTrip) (tripView t)) →
      Affects store (commit (onPostTrip body) store) := by
    intro α body effect
    refine commit_related (R := Affects) _ store (.kept rfl) fun a t ran => ?_
    obtain ⟨postTrip, finished, rfl⟩ := within_ok.1 ran
    exact effect a postTrip finished
  cases call with
  | finalize => exact moved fun _ _ => finalize_view
  | confirmCash => exact moved fun _ _ => confirmCash_view
  | settle =>
    exact commit_related (R := Affects) _ store (.kept rfl) fun _ _ => settle_view
  | issueCashAccountingReceipts =>
    exact kept (onPostTrip_keeps issueCashAccountingReceipts_keepsViews)
  | addPolicy => exact kept (onPostTrip_keeps addCashAccountingPolicy_keepsViews)
  | postCash => exact kept postCash_keepsViews
  | clearCash => exact kept clearCash_keepsViews
  | elsewhere => exact .kept rfl

end Ayo.PostTrip.CashTrips
