/- digest: The commands on orders: creation, decision, and preparation. -/

import Ayo.MerchantOrders.Repository

namespace Ayo.MerchantOrders.Application

open Kernel.UnitOfWork Core.Values Core.Authorization Models Repository

structure Composition where
  merchantId : Uuid
  merchantVersion : Nat
  lines : List BasketLine
  (availabilityEvaluationId accessInteractionId : Option Uuid)

structure OrderConfig where
  hash : OrderPayload → String
  pricingHash : Nat → List OrderLineEvidence → String
  compositionHash : Composition → String
  evidenceHash : Uuid → Uuid → List OrderLineEvidence → OrderPricingEvidence → Composition →
    DateTime → String

/-- Who calls, with which key and when, and the merchants as they are read then. -/
structure CallContext where
  subject : AuthorizationSubject
  idempotencyKey : String
  time : DateTime
  merchants : Uuid → Option MerchantProfile

/-- The arguments of `create`, with the draws and the reads of the call. -/
structure CreateOrder where
  merchantId : Uuid
  lines : List BasketLine
  (areaReference coverageReference : Option String)
  merchantOpen : Option Bool
  (correlationId requestId accessInteractionId : Option Uuid)
  (candidate evaluationId : Uuid)
  items : Uuid → Option OrderableItem
  modifierCodes : Uuid → Nat → List String
  policies : Uuid → String → Option EatAvailabilityPolicy

structure DecideOrder where
  (merchantId orderId : Uuid)
  expectedVersion : Int
  action : MerchantOrderAction
  text : RejectionText

structure PrepareOrder where
  (merchantId orderId : Uuid)
  expectedVersion : Int
  action : PreparationAction
  (estimatedDurationMinutes progressPercent : Option Int)
  (delayReasonCode delayMessage : Option String)

inductive OrderCommand where
  | create (order : CreateOrder)
  | decision (order : DecideOrder)
  | preparation (order : PrepareOrder)

structure OrderCall where
  context : CallContext
  command : OrderCommand

variable (config : OrderConfig) (context : CallContext)

def checkLines (seen : List Uuid) : List BasketLine → OrderTransaction Unit
  | [] => pure ()
  | line :: rest => do
    require (line.itemId ∉ seen) (.conflict "basket_duplicate_item")
    require (line.variantSelections = []) (.conflict "item_variants_not_supported")
    checkLines (line.itemId :: seen) rest

/-- A basket has 1 to 50 lines, no item twice and no variants. -/
def normalizeBasket (lines : List BasketLine) : OrderTransaction (List BasketLine) := do
  require (1 ≤ lines.length ∧ lines.length ≤ 50) (.conflict "basket_invalid")
  checkLines [] lines
  pure lines

/-- The item of a line, as it stands in the public catalogue, if it can be ordered. -/
def orderable (order : CreateOrder) (line : BasketLine) : OrderTransaction OrderableItem := do
  let item ← demand ((order.items line.itemId).filter fun item =>
      item.merchantId = order.merchantId ∧ item.status = .active ∧ item.visibility = .public_)
    (.conflict "item_removed")
  require (item.version = line.observedVersion) (.conflict "catalogue_changed")
  require (item.availability ≠ .outOfStock) (.conflict "item_out_of_stock")
  require (item.availability = .available ∧ item.basePriceMinor.isSome = true)
    (.conflict "item_unavailable")
  if line.modifierSelections = [] then pure item
  else do
    let version ← demand item.modifierContractVersion (.conflict "item_modifiers_not_approved")
    require (∀ code ∈ line.modifierSelections, code ∈ order.modifierCodes item.itemId version)
      (.conflict "item_modifier_not_approved")
    pure item

def orderableItems (order : CreateOrder) : List BasketLine → OrderTransaction (List OrderableItem)
  | [] => pure []
  | line :: rest => do
    let item ← orderable order line
    let items ← orderableItems order rest
    pure (item :: items)

def lineEvidence (item : OrderableItem) (line : BasketLine) : OrderLineEvidence :=
  let price := item.basePriceMinor.getD 0
  { itemId := item.itemId, itemVersion := item.version, name := item.name, kind := item.kind
    categoryId := item.categoryId, quantity := line.quantity, unitPriceMinor := price
    lineTotalMinor := price * line.quantity, modifierSelections := line.modifierSelections
    customerInstructions := line.customerInstructions }

def pricedLines (order : CreateOrder) (basket : List BasketLine) :
    OrderTransaction (List OrderLineEvidence) := do
  let items ← orderableItems order basket
  let lines := List.zipWith lineEvidence items basket
  require (∀ line ∈ lines, 1 ≤ line.itemVersion ∧ (2 ≤ line.name.length ∧ line.name.length ≤ 160))
    (.field "lines")
  pure lines

def recordEvaluation (evaluation : EatAvailabilityEvaluation) : OrderTransaction Unit := do
  let store ← get
  put { store with
    evaluations := store.evaluations ++ [evaluation]
    evaluationOutbox := store.evaluationOutbox ++ [evaluation.message] }

/-- The availability of the merchant in an area, kept as evidence when it is asked for. -/
def evaluateAvailability (order : CreateOrder) : OrderTransaction (Option Uuid) :=
  if order.areaReference = none ∧ order.coverageReference = none ∧ order.merchantOpen = none ∧
      order.correlationId = none ∧ order.requestId = none then
    pure none
  else do
    let incomplete : Failure := .conflict "availability_context_incomplete"
    let areaReference ← demand order.areaReference incomplete
    let coverageReference ← demand order.coverageReference incomplete
    let merchantOpen ← demand order.merchantOpen incomplete
    require (order.correlationId.isSome = true ∧ order.requestId.isSome = true) incomplete
    let policy := order.policies order.merchantId areaReference
    let matching := policy.filter fun policy => policy.coverageReference = coverageReference
    let (outcome, reasonCode) :=
      availabilityOutcome matching merchantOpen true context.time.instant
    require (8 ≤ areaReference.length ∧ areaReference.length ≤ 200) (.field "area_reference")
    require (8 ≤ coverageReference.length ∧ coverageReference.length ≤ 200)
      (.field "coverage_reference")
    require (context.time.aware = true) (.value "evaluation time must be timezone-aware")
    recordEvaluation
      { evaluationId := order.evaluationId, policyId := policy.map EatAvailabilityPolicy.policyId
        policyVersion := policy.map EatAvailabilityPolicy.version
        merchantId := order.merchantId, areaReference, coverageReference
        itemReferences := order.lines.map BasketLine.itemId, merchantOpen, outcome, reasonCode
        evaluatedAt := context.time.instant }
    require (outcome = .available) (.conflict outcome.value)
    pure (some order.evaluationId)

def newOrder (order : CreateOrder) (orderId : Uuid) (merchant : MerchantProfile)
    (lines : List OrderLineEvidence) (evaluationId : Option Uuid) : CanonicalOrder :=
  let subtotal := (lines.map OrderLineEvidence.lineTotalMinor).sum
  let pricing : OrderPricingEvidence :=
    { policyVersion := "commerce.catalogue_subtotal.v1", subtotalMinor := subtotal
      evidenceHash := config.pricingHash subtotal lines }
  let composition : Composition :=
    { merchantId := order.merchantId, merchantVersion := merchant.version, lines := order.lines
      availabilityEvaluationId := evaluationId, accessInteractionId := order.accessInteractionId }
  { orderId, customerIdentityId := context.subject.identityId, merchantId := order.merchantId
    merchantDisplayName := merchant.displayName, state := .waitingForMerchantConfirmation, lines
    pricing, availabilityEvaluationId := evaluationId
    compositionHash := some (config.compositionHash composition)
    accessInteractionId := order.accessInteractionId
    evidenceHash := config.evidenceHash orderId context.subject.identityId lines pricing
      composition context.time
    version := 1, createdAt := context.time.instant }

def create (order : CreateOrder) : OrderTransaction CanonicalOrder := do
  let basket ← normalizeBasket order.lines
  let (orderId, created) ← reserveOrder
    { customerIdentityId := context.subject.identityId, idempotencyKey := context.idempotencyKey
      requestHash := config.hash (.order order.merchantId basket order.areaReference
        order.coverageReference order.merchantOpen order.accessInteractionId)
      orderId := order.candidate, createdAt := context.time.instant }
  let existing ← findOrder orderId
  whenSome (existing.filter fun _ => created = false) (fun found => pure found) do
    let merchant ← demand ((context.merchants order.merchantId).filter fun merchant =>
        merchant.state = .approved)
      (.conflict "merchant_unavailable")
    let lines ← pricedLines order basket
    let evaluationId ← evaluateAvailability context order
    require (2 ≤ merchant.displayName.length ∧ merchant.displayName.length ≤ 120)
      (.field "merchant_display_name")
    require (context.time.aware = true) (.value "order timestamp must be timezone-aware")
    insertOrder (newOrder config context order orderId merchant lines evaluationId) merchant.version

/-- `_owned_merchant` and `_owned`. -/
def requireOwned (merchantId : Uuid) : OrderTransaction Unit := do
  let merchant ← demand ((context.merchants merchantId).filter fun merchant =>
      merchant.ownerIdentityId = context.subject.identityId)
    (.conflict "access_denied")
  require (merchant.state = .approved) (.conflict "merchant_unavailable")

def actionOf (merchantId orderId : Uuid) (payload : OrderPayload) : ActionReservation where
  actorIdentityId := context.subject.identityId
  merchantId
  orderId
  idempotencyKey := context.idempotencyKey
  requestHash := config.hash payload
  responseVersion := none
  createdAt := context.time.instant

def filled (text : Option String) : Bool := text.any fun value => value ≠ ""

/-- `MerchantOrderApplication.decide`. -/
def decideOrder (order : DecideOrder) : OrderTransaction MerchantOrderView := do
  require (order.action = .reject →
      filled order.text.customerReasonCode = true ∧ filled order.text.customerMessage = true)
    (.conflict "rejection_reason_required")
  require (order.action = .accept → filled order.text.customerReasonCode = false ∧
      filled order.text.customerMessage = false ∧
      filled order.text.internalMerchantNote = false)
    (.conflict "acceptance_rejection_fields_forbidden")
  requireOwned context order.merchantId
  let (existingVersion, created) ← within OrderStore.actions
    (fun actions store => { store with actions })
    (reserveAction (actionOf config context order.merchantId order.orderId
      (.decision order.merchantId order.orderId order.expectedVersion order.action
        order.text.customerReasonCode order.text.customerMessage order.text.internalMerchantNote))
      "commerce_merchant_action_idempotency")
  if created = false then do
    let existing ← getView order.orderId
    demand (existing.filter fun view =>
        view.order.merchantId = order.merchantId ∧ some view.order.version = existingVersion)
      (.conflict "idempotency_result_unavailable")
  else do
    let found ← getOrder order.orderId
    let current ← demand (found.filter fun current => current.merchantId = order.merchantId)
      (.conflict "merchant_order_not_found")
    require (current.version = order.expectedVersion) (.conflict "order_version_conflict")
    let target ← transition current.state order.action
    transitionOrder current target context.subject.identityId order.text context.idempotencyKey
      context.time

variable (order : PrepareOrder)

def checkPreparation : OrderTransaction Unit := do
  require (order.delayReasonCode.isNone = order.delayMessage.isNone)
    (.conflict "preparation_delay_reason_incomplete")
  require (order.action = .start → order.estimatedDurationMinutes.isSome = true)
    (.conflict "preparation_estimate_required")
  require (∀ minutes ∈ order.estimatedDurationMinutes, 1 ≤ minutes ∧ minutes ≤ 240)
    (.conflict "preparation_estimate_invalid")
  require (order.action = .updateProgress → order.progressPercent.isSome = true)
    (.conflict "preparation_progress_required")
  require (order.action ≠ .start → order.estimatedDurationMinutes = none)
    (.conflict "preparation_estimate_not_allowed")
  require (order.action ≠ .updateProgress → order.progressPercent = none ∧
      filled order.delayReasonCode = false ∧ filled order.delayMessage = false)
    (.conflict "preparation_progress_fields_not_allowed")

def proceedPreparation : OrderTransaction PreparationView := do
  let found ← getOrder order.orderId
  let current ← demand (found.filter fun current => current.merchantId = order.merchantId)
    (.conflict "preparation_order_not_found")
  require (current.version = order.expectedVersion) (.conflict "order_version_conflict")
  let target ← targetState current.state order.action
  let record ← getRecord order.orderId
  match order.action with
  | .start => do
    require (record = none) (.conflict "preparation_already_started")
    let seconds := order.estimatedDurationMinutes.getD 0 * 60
    startPreparation current context.subject.identityId seconds
      (context.time.instant + seconds * 1000000) context.idempotencyKey context.time
  | .updateProgress => do
    let preparation ← demand record (.conflict "preparation_not_started")
    let progress ← validateProgress preparation.progressPercent (order.progressPercent.getD 0)
    progressPreparation current preparation progress context.subject.identityId
      order.delayReasonCode order.delayMessage context.idempotencyKey context.time
  | .markReady => do
    let preparation ← demand record (.conflict "preparation_not_started")
    readyPreparation current preparation context.subject.identityId context.idempotencyKey
      context.time target

/-- `MerchantPreparationApplication.command`. -/
def prepareOrder : OrderTransaction PreparationView := do
  checkPreparation order
  requireOwned context order.merchantId
  let (responseVersion, created) ← within OrderStore.preparationActions
    (fun preparationActions store => { store with preparationActions })
    (reserveAction (actionOf config context order.merchantId order.orderId
      (.preparation order.merchantId order.orderId order.expectedVersion order.action
        order.estimatedDurationMinutes order.progressPercent order.delayReasonCode
        order.delayMessage))
      "commerce_preparation_idempotency")
  if created = false then do
    let existing ← getPreparationView order.orderId
    demand (existing.filter fun view =>
        some view.order.order.version = responseVersion ∧
          view.order.order.merchantId = order.merchantId)
      (.conflict "idempotency_result_unavailable")
  else proceedPreparation context order

def OrderCall.body (call : OrderCall) : OrderTransaction Unit :=
  match call.command with
  | .create order => do
    let _ ← create config call.context order
    pure ()
  | .decision order => do
    let _ ← decideOrder config call.context order
    pure ()
  | .preparation order => do
    let _ ← prepareOrder config call.context order
    pure ()

def orderStep (store : OrderStore) (call : OrderCall) : OrderStore :=
  commit (call.body config) store

end Ayo.MerchantOrders.Application
