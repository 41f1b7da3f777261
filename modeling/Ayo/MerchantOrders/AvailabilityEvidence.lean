/- digest: The evaluation of the availability is kept only with an order. -/

import Ayo.MerchantOrders.Agreement

namespace Ayo.MerchantOrders.AvailabilityEvidence

open Kernel.UnitOfWork Kernel.KeyedTable Core.Values
open Models Repository Application Effects Agreement

structure AvailabilityContext where
  (areaReference coverageReference : String)
  merchantOpen : Bool

variable (context : CallContext) (order : CreateOrder) (given : AvailabilityContext)

def evaluatedOutcome : EatAvailabilityOutcome × String :=
  let policy := (order.policies order.merchantId given.areaReference).filter fun policy =>
    policy.coverageReference = given.coverageReference
  availabilityOutcome policy given.merchantOpen true context.time.instant

def newEvaluation : EatAvailabilityEvaluation :=
  let policy := order.policies order.merchantId given.areaReference
  let (outcome, reasonCode) := evaluatedOutcome context order given
  { evaluationId := order.evaluationId, policyId := policy.map EatAvailabilityPolicy.policyId
    policyVersion := policy.map EatAvailabilityPolicy.version, merchantId := order.merchantId
    areaReference := given.areaReference, coverageReference := given.coverageReference
    itemReferences := order.lines.map BasketLine.itemId, merchantOpen := given.merchantOpen
    outcome, reasonCode, evaluatedAt := context.time.instant }

/-- A creation with a complete context that comes to the evaluation, with what it has reserved and
read by then. -/
structure ReachesEvaluation (config : OrderConfig) (s reserved : OrderStore) (orderId : Uuid)
    (merchant : MerchantProfile) (lines : List OrderLineEvidence) : Prop where
  area : order.areaReference = some given.areaReference
  coverage : order.coverageReference = some given.coverageReference
  opening : order.merchantOpen = some given.merchantOpen
  traced : order.correlationId.isSome = true ∧ order.requestId.isSome = true
  basket : normalizeBasket order.lines s = .ok (order.lines, s)
  unanswered : ∃ created existing,
    reserveOrder (CreateOrder.reservation config context order) s =
        .ok ((orderId, created), reserved) ∧
      findOrder orderId reserved = .ok (existing, reserved) ∧
      existing.filter (fun _ => created = false) = none
  merchant : (context.merchants order.merchantId).filter (fun merchant =>
    merchant.state = .approved) = some merchant
  priced : pricedLines order order.lines reserved = .ok (lines, reserved)

/-- One evaluation and its message are new, and an order refers to it exactly when the outcome is
that it is available. -/
structure EvidenceKept (s t : OrderStore) : Prop where
  recorded : t.evaluations = s.evaluations ++ [newEvaluation context order given] ∧
    t.evaluationOutbox = s.evaluationOutbox ++ [(newEvaluation context order given).message]
  order : (∃ row ∈ t.orders.rows, row.availabilityEvaluationId = some order.evaluationId) ↔
    (evaluatedOutcome context order given).1 = .available

/-- The outcome is that it is available, and nothing after the evaluation refuses the order. -/
structure OrderFollows (s : OrderStore) (orderId : Uuid) (merchant : MerchantProfile) : Prop where
  available : (evaluatedOutcome context order given).1 = .available
  area : 8 ≤ given.areaReference.length ∧ given.areaReference.length ≤ 200
  coverage : 8 ≤ given.coverageReference.length ∧ given.coverageReference.length ≤ 200
  aware : context.time.aware = true
  name : 2 ≤ merchant.displayName.length ∧ merchant.displayName.length ≤ 120
  free : s.orders.find orderId = none

variable {context order given} {config : OrderConfig} {s t reserved : OrderStore} {orderId : Uuid}
  {merchant : MerchantProfile} {lines : List OrderLineEvidence}

theorem bind_of_ok {α β : Type} {body : OrderTransaction α} {f : α → OrderTransaction β} {a : α}
    {m : OrderStore} (ran : body s = .ok (a, m)) : (body >>= f) s = f a m := by
  simp [bind, StateT.bind, Except.bind, ran]

theorem reserveOrder_keeps {row : OrderReservation} {answer : Uuid × Bool}
    (ran : reserveOrder row s = .ok (answer, t)) : ∃ reservations, t = { s with reservations } := by
  unfold reserveOrder at ran
  rw [get_bind_ok] at ran
  cases found : s.reservations.find row.name with
  | some existing =>
    simp only [found, ↓steps_ok] at ran
    obtain ⟨_, _, rfl⟩ := ran
    exact ⟨_, rfl⟩
  | none =>
    simp only [found, ↓steps_ok] at ran
    obtain ⟨reservations, _, _, rfl⟩ := ran
    exact ⟨reservations, rfl⟩

theorem create_ok_iff
    (reaches : ReachesEvaluation context order given config s reserved orderId merchant lines)
    {value : CanonicalOrder} :
    create config context order s = .ok (value, t) ↔
      OrderFollows context order given s orderId merchant ∧
        value = newOrder config context order orderId merchant lines (some order.evaluationId) ∧
        ∃ orders : Table OrderRow,
          orders.rows = reserved.orders.rows ++ [CanonicalOrder.row value merchant.version] ∧
          t = { reserved with
            orders
            lines := reserved.lines ++ lineRows value.orderId value.lines
            timeline := reserved.timeline ++ [createdEvent value]
            evaluations := reserved.evaluations ++ [newEvaluation context order given]
            evaluationOutbox :=
              reserved.evaluationOutbox ++ [(newEvaluation context order given).message] } := by
  obtain ⟨created, existing, reserves, reads, fresh⟩ := reaches.unanswered
  obtain ⟨reservations, rfl⟩ := reserveOrder_keeps reserves
  rw [create, bind_of_ok reaches.basket]
  change ((reserveOrder (CreateOrder.reservation config context order) >>= _) s = _) ↔ _
  rw [bind_of_ok reserves]
  dsimp only
  rw [bind_of_ok reads, fresh, reaches.merchant]
  simp only [whenSome, demand, pure_bind, bind_of_ok reaches.priced]
  simp only [evaluateAvailability, recordEvaluation, reaches.area, reaches.coverage,
    reaches.opening, reaches.traced, reduceCtorEq, false_and, ↓reduceIte, bind_assoc, pure_bind,
    insertOrder, ↓steps_ok, Option.some.injEq, exists_eq_left', Table.insert?_eq_some, and_self,
    true_and]
  constructor
  · rintro ⟨area, coverage, aware, available, name, _, orders, rows, rfl, rfl⟩
    have free := Table.find_eq_none_of_rows_append rows
    exact ⟨⟨available, area, coverage, aware, name, free⟩, rfl, orders, rows, rfl⟩
  · rintro ⟨follows, rfl, orders, rows, rfl⟩
    exact ⟨follows.area, follows.coverage, follows.aware, follows.available, follows.name,
      follows.aware, orders, rows, rfl, rfl⟩

/-- A creation that comes to the evaluation keeps its evidence exactly when an order follows: what
refuses the order takes the evaluation back. -/
theorem evidence_kept_iff
    (reaches : ReachesEvaluation context order given config s reserved orderId merchant lines) :
    EvidenceKept context order given s (commit (create config context order) s) ↔
      OrderFollows context order given s orderId merchant := by
  obtain ⟨created, existing, reserves, _⟩ := reaches.unanswered
  obtain ⟨reservations, rfl⟩ := reserveOrder_keeps reserves
  constructor
  · intro kept
    obtain stays | ⟨value, ran⟩ := commit_cases (create config context order) s
    · have grown := kept.recorded.1
      rw [stays] at grown
      simp at grown
    · exact ((create_ok_iff reaches).1 ran).1
  · intro follows
    let row := CanonicalOrder.row (newOrder config context order orderId merchant lines
      (some order.evaluationId)) merchant.version
    have apart : ∀ other ∈ s.orders.rows, ¬ Row.clash other row :=
      Table.find_eq_none.1 follows.free
    obtain ⟨orders, rows⟩ := Table.exists_inserted apart
    have stored : row ∈ orders.rows := by simp [rows]
    have ran := (create_ok_iff reaches).2 ⟨follows, rfl, orders, rows, rfl⟩
    rw [commit_of_ok ran]
    exact ⟨⟨rfl, rfl⟩, iff_of_true ⟨row, stored, rfl⟩ follows.available⟩

def sampleCustomer : CallContext := sampleContext 1 .rider "order-key-0000001" 0

def sampleGiven : AvailabilityContext := ⟨"area/bole", "coverage/bole", true⟩

def sampleAvailability : CreateOrder where
  merchantId := 21
  lines := [sampleLine]
  areaReference := some "area/bole"
  coverageReference := some "coverage/bole"
  merchantOpen := some true
  correlationId := some 1
  requestId := some 2
  accessInteractionId := none
  candidate := 41
  evaluationId := 51
  items itemId := if itemId = 31 then some sampleItem else none
  modifierCodes _ _ := []
  policies _ _ := none

theorem sample_reaches : ∃ reserved lines merchant,
    ReachesEvaluation sampleCustomer sampleAvailability sampleGiven sampleOrderConfig {} reserved
      41 merchant lines :=
  ⟨_, _, _, rfl, rfl, rfl, ⟨rfl, rfl⟩, rfl, ⟨true, none, rfl, rfl, rfl⟩, rfl, rfl⟩

theorem evidence_kept_sample : ∃ merchant,
    EvidenceKept sampleCustomer sampleAvailability sampleGiven {}
        (commit (create sampleOrderConfig sampleCustomer sampleAvailability) {}) ↔
      OrderFollows sampleCustomer sampleAvailability sampleGiven {} 41 merchant := by
  obtain ⟨reserved, lines, merchant, reaches⟩ := sample_reaches
  exact ⟨merchant, evidence_kept_iff reaches⟩

/-- Without a policy for the area the attempt is refused, and its evaluation is not kept. -/
theorem refused_evidence_lost :
    ¬ ∀ (config : OrderConfig) (context : CallContext) (order : CreateOrder)
      (given : AvailabilityContext) (s reserved : OrderStore) (orderId : Uuid)
      (merchant : MerchantProfile) (lines : List OrderLineEvidence),
      ReachesEvaluation context order given config s reserved orderId merchant lines →
        EvidenceKept context order given s (commit (create config context order) s) := by
  intro law
  obtain ⟨reserved, lines, merchant, reaches⟩ := sample_reaches
  have kept := (law _ _ _ _ _ _ _ _ _ reaches).recorded.1
  have none_kept : (commit (create sampleOrderConfig sampleCustomer sampleAvailability)
    {}).evaluations.length = 0 := by decide +kernel
  rw [kept] at none_kept
  cases none_kept

end Ayo.MerchantOrders.AvailabilityEvidence
