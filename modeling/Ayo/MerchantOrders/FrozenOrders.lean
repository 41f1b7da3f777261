/- digest: An order keeps what the catalogue said at the versions that its customer observed. -/

import Ayo.Catalogue.Replays
import Ayo.MerchantOrders.Histories

namespace Ayo.MerchantOrders.FrozenOrders

open Kernel.UnitOfWork Kernel.KeyedTable Kernel.Related Kernel.Run Core.Values
open Catalogue.Models (CatalogueConfig CatalogueItem CatalogueStore)
open Catalogue.Application (CatalogueCall catalogueStep)
open Catalogue.Effects (CatalogueEffect)
open Catalogue.Replays (body_done)
open Models Repository Application Effects Histories

structure MarketConfig where
  catalogue : CatalogueConfig
  orders : OrderConfig

structure MarketStore where
  catalogue : CatalogueStore := {}
  orders : OrderStore := {}

def orderableOf (modifierContractVersion : Option Nat) (item : CatalogueItem) : OrderableItem where
  itemId := item.itemId
  merchantId := item.merchantId
  version := item.version.toNat
  name := item.name
  kind := item.kind
  categoryId := item.categoryId
  status := item.status
  visibility := item.visibility
  availability := item.availability
  basePriceMinor := item.basePriceMinor.bind Int.toNat?
  modifierContractVersion

def reading (catalogue : CatalogueStore) (modifierVersions : Uuid → Option Nat)
    (order : CreateOrder) : CreateOrder :=
  { order with items := fun id =>
      (catalogue.items.find id).map (orderableOf (modifierVersions id)) }

inductive MarketCall where
  | catalogue (call : CatalogueCall)
  | create (context : CallContext) (modifierVersions : Uuid → Option Nat) (order : CreateOrder)
  | decide (context : CallContext) (order : DecideOrder)
  | prepare (context : CallContext) (order : PrepareOrder)

def marketStep (config : MarketConfig) (store : MarketStore) : MarketCall → MarketStore
  | .catalogue call =>
    { store with catalogue := catalogueStep config.catalogue store.catalogue call }
  | .create context modifierVersions order =>
    { store with
      orders := orderStep config.orders store.orders
        ⟨context, .create (reading store.catalogue modifierVersions order)⟩ }
  | .decide context order =>
    { store with orders := orderStep config.orders store.orders ⟨context, .decision order⟩ }
  | .prepare context order =>
    { store with orders := orderStep config.orders store.orders ⟨context, .preparation order⟩ }

def stateAt (config : MarketConfig) (inputs : List MarketCall) (n : Nat) : MarketStore :=
  run (marketStep config) {} (inputs.take n)

def Shows (item : CatalogueItem) (line : OrderLineEvidence) : Prop :=
  line.name = item.name ∧ line.categoryId = item.categoryId ∧
    item.basePriceMinor = some (line.unitPriceMinor : Int)

/-- The line was asked for by the customer of its order, at a version at which the item then stood,
and whenever the item stands at that version the line shows it. -/
structure Observed (config : MarketConfig) (inputs : List MarketCall) (n : Nat) (row : OrderRow)
    (line : OrderLineEvidence) : Prop where
  asked : ∃ k < n, ∃ context modifierVersions order,
    inputs[k]? = some (.create context modifierVersions order) ∧
      context.subject.identityId = row.customerIdentityId ∧ order.merchantId = row.merchantId ∧
      ∃ source ∈ order.lines, line.itemId = source.itemId ∧
        line.itemVersion = source.observedVersion ∧ line.quantity = source.quantity ∧
        ∃ item ∈ (stateAt config inputs k).catalogue.items.find source.itemId,
          item.version = source.observedVersion ∧ Shows item line
  shows : ∀ m, ∀ item ∈ (stateAt config inputs m).catalogue.items.find line.itemId,
    item.version = line.itemVersion → Shows item line

structure Sums (store : OrderStore) (row : OrderRow) : Prop where
  totals : ∀ line ∈ linesOf store row.orderId,
    line.lineTotalMinor = line.unitPriceMinor * line.quantity
  subtotal : row.pricing.subtotalMinor =
    ((linesOf store row.orderId).map OrderLineEvidence.lineTotalMinor).sum

def Advances (first second : Table OrderRow) : Prop :=
  ∀ row ∈ first.rows, ∃ state version, { row with state, version } ∈ second.rows

structure KeepsOrders (s t : OrderStore) : Prop where
  orders : Advances s.orders t.orders
  lines : ∀ row ∈ s.orders.rows, linesOf t row.orderId = linesOf s row.orderId

/-- The same customer asks with the same key for the same. -/
structure Repeats (context : CallContext) (order : CreateOrder) (later : CallContext)
    (again : CreateOrder) : Prop where
  customer : later.subject.identityId = context.subject.identityId
  key : later.idempotencyKey = context.idempotencyKey
  merchantId : again.merchantId = order.merchantId
  lines : again.lines = order.lines
  areaReference : again.areaReference = order.areaReference
  coverageReference : again.coverageReference = order.coverageReference
  merchantOpen : again.merchantOpen = order.merchantOpen
  accessInteractionId : again.accessInteractionId = order.accessInteractionId

/-- In a run every order shows what its customer observed, is the sum of its lines, stays as it was
created, and is what a repetition of its creation returns, which then writes nothing. -/
structure OrdersFrozen (config : MarketConfig) (inputs : List MarketCall) : Prop where
  observed : ∀ n, ∀ row ∈ (stateAt config inputs n).orders.orders.rows,
    ∀ line ∈ linesOf (stateAt config inputs n).orders row.orderId, Observed config inputs n row line
  sums : ∀ n, ∀ row ∈ (stateAt config inputs n).orders.orders.rows,
    Sums (stateAt config inputs n).orders row
  kept : ∀ n m, n ≤ m →
    KeepsOrders (stateAt config inputs n).orders (stateAt config inputs m).orders
  repeated : ∀ n m, n < m → ∀ context modifierVersions order,
    inputs[n]? = some (.create context modifierVersions order) → ∀ value t,
      create config.orders context (reading (stateAt config inputs n).catalogue modifierVersions
        order) (stateAt config inputs n).orders = .ok (value, t) →
      ∀ later again, Repeats context order later again → ∃ state version,
        create config.orders later again (stateAt config inputs m).orders =
          .ok ({ value with state, version }, (stateAt config inputs m).orders)

section

variable {config : OrderConfig} {context : CallContext} {s t : OrderStore} {orderId actorId : Uuid}
  {time : DateTime} {order : CanonicalOrder}

theorem Advances.refl (orders : Table OrderRow) : Advances orders orders :=
  fun row mem => ⟨row.state, row.version, mem⟩

theorem Advances.trans {first second third : Table OrderRow} (earlier : Advances first second)
    (later : Advances second third) : Advances first third := by
  intro row mem
  obtain ⟨_, _, kept⟩ := earlier row mem
  obtain ⟨state, version, still⟩ := later _ kept
  exact ⟨state, version, still⟩

/-- A command on orders that are there inserts none and writes no line and no key of a creation. -/
structure Settles (s t : OrderStore) : Prop where
  reservations : t.reservations = s.reservations
  lines : t.lines = s.lines
  kept : Advances s.orders t.orders
  origin : Advances t.orders s.orders

instance : IsPreorder OrderStore Settles where
  refl _ := ⟨rfl, rfl, .refl _, .refl _⟩
  trans _ _ _ earlier later :=
    ⟨later.reservations.trans earlier.reservations, later.lines.trans earlier.lines,
      earlier.kept.trans later.kept, later.origin.trans earlier.origin⟩

theorem Settles.of_same (reservations : t.reservations = s.reservations) (lines : t.lines = s.lines)
    (orders : t.orders = s.orders) : Settles s t :=
  ⟨reservations, lines, orders ▸ .refl _, orders ▸ .refl _⟩

theorem moveOrder_settles {current : CanonicalOrder} {target : OrderState} :
    Relates Settles (moveOrder current target) := by
  intro s version t ran
  obtain ⟨row, -, found, -, -, orders, rows, rfl⟩ := moveOrder_ok ran
  have held := Table.mem_of_find found
  refine ⟨rfl, rfl, fun other mem => ?_, fun other mem => ?_⟩
  · by_cases same : other.orderId = row.orderId
    · obtain rfl := Table.eq_of_key _ mem held same
      refine ⟨target, other.version + 1, ?_⟩
      rw [rows]
      exact Table.mem_replaced.2 (.inl ⟨rfl, other, held, rfl⟩)
    · refine ⟨other.state, other.version, ?_⟩
      rw [rows]
      exact Table.mem_replaced.2 (.inr ⟨mem, same⟩)
  · rw [rows] at mem
    obtain ⟨rfl, -⟩ | ⟨old, -⟩ := Table.mem_replaced.1 mem
    · exact ⟨row.state, row.version, held⟩
    · exact ⟨other.state, other.version, old⟩

theorem appendTimeline_settles {event : OrderTimelineEvent} :
    Relates Settles (appendTimeline event) := by
  intro s _ t ran
  obtain ⟨-, rfl⟩ := appendTimeline_ok ran
  exact .of_same rfl rfl rfl

theorem insertRejection_settles {text : RejectionText} :
    Relates Settles (insertRejection orderId actorId text time) := by
  intro s _ t ran
  simp only [insertRejection, ↓steps_ok] at ran
  obtain ⟨_, -, _, -, _, -, rfl⟩ := ran
  exact .of_same rfl rfl rfl

theorem actions_settle {α : Type} {body : Transaction (Table ActionReservation) Failure α} :
    Relates Settles (within OrderStore.actions (fun actions store => { store with actions }) body) ∧
      Relates Settles (within OrderStore.preparationActions
        (fun preparationActions store => { store with preparationActions }) body) :=
  ⟨.within (P := fun _ _ => True) (fun _ _ _ _ => trivial) fun _ _ _ => .of_same rfl rfl rfl,
    .within (P := fun _ _ => True) (fun _ _ _ _ => trivial) fun _ _ _ => .of_same rfl rfl rfl⟩

theorem appendPreparation_settles {event : PreparationEvent}
    {target : OrderState} : Relates Settles (appendPreparation order event target) := by
  intro s _ t ran
  obtain ⟨-, _, -, -, -, -, -, rfl⟩ := appendPreparation_ok ran
  exact .of_same rfl rfl rfl

theorem updatePreparation_settles {progressPercent : Int}
    {change : PreparationRecord → PreparationRecord} :
    Relates Settles (updatePreparation orderId progressPercent change) := by
  intro s _ t ran
  obtain ⟨_, -, -, -, -, _, -, rfl⟩ := updatePreparation_ok ran
  exact .of_same rfl rfl rfl

theorem finishPreparation_settles {key : String}
    {version : Nat} : Relates Settles (finishPreparation order actorId key version) :=
  .bind actions_settle.2 fun _ =>
    .bind (.of_readOnly getPreparationView_readOnly) fun _ => .demand

theorem startPreparation_settles {seconds : Int} {readyAt : Instant} {key : String} :
    Relates Settles (startPreparation order actorId seconds readyAt key time) := by
  refine .bind moveOrder_settles fun version => ?_
  intro s view t ran
  simp only [↓steps_ok] at ran
  obtain ⟨-, preparations, -, ran⟩ := ran
  have rest := Relates.bind appendPreparation_settles
    (fun _ => finishPreparation_settles) _ _ _ ran
  exact ⟨rest.reservations, rest.lines, rest.kept, rest.origin⟩

theorem requireOwned_settles {merchantId : Uuid} :
    Relates Settles (requireOwned context merchantId) :=
  .demands fun _ => .require

theorem decideOrder_settles {order : DecideOrder} :
    Relates Settles (decideOrder config context order) := by
  refine .requires <| .requires ?_
  refine .bind requireOwned_settles fun _ => .bind actions_settle.1 fun _ => .ite ?_ ?_
  · exact .bind (.of_readOnly getView_readOnly) fun _ => .demand
  · refine .bind (.of_readOnly getOrder_readOnly) fun _ => .demands fun _ => ?_
    refine .requires <| .bind (.of_readOnly ?_) fun _ => ?_
    · intro s target t ran
      exact (transition_ok ran).2.2.symm
    · refine .bind moveOrder_settles fun _ => .bind ?_ fun _ => ?_
      · exact .ite insertRejection_settles .pure
      · exact .bind appendTimeline_settles fun _ => .bind actions_settle.1 fun _ =>
          .bind (.of_readOnly getView_readOnly) fun _ => .demand

theorem proceedPreparation_settles {order : PrepareOrder} :
    Relates Settles (proceedPreparation context order) := by
  refine .bind (.of_readOnly getOrder_readOnly) fun _ => .demands fun _ => ?_
  refine .requires <| .bind (.of_readOnly ?_) fun _ => .bind (.of_readOnly ?_) fun _ => ?_
  · intro s target t ran
    exact (targetState_ok ran).2.2.2.symm
  · intro s record t ran
    exact (getRecord_ok ran).2.2.symm
  · cases order.action with
    | start => exact .requires <| startPreparation_settles
    | updateProgress =>
      refine .demands fun _ => .bind (.requires <|
        .requires <| .pure) fun _ => .bind moveOrder_settles fun _ => ?_
      exact .bind updatePreparation_settles fun _ =>
        .bind appendPreparation_settles fun _ => finishPreparation_settles
    | markReady =>
      refine .demands fun _ => .bind moveOrder_settles fun _ => ?_
      exact .bind updatePreparation_settles fun _ =>
        .bind appendPreparation_settles fun _ => finishPreparation_settles

theorem prepareOrder_settles {order : PrepareOrder} :
    Relates Settles (prepareOrder config context order) := by
  refine .bind ?_ fun _ => .bind requireOwned_settles fun _ => .bind actions_settle.2
    fun _ => .ite ?_ proceedPreparation_settles
  · refine .requires <| .requires ?_
    refine .requires <| .requires ?_
    exact .requires <| .require
  · exact .bind (.of_readOnly getPreparationView_readOnly) fun _ => .demand

end

section

variable {config : OrderConfig} {context : CallContext} {order : CreateOrder} {s t : OrderStore}

theorem Settles.linesOf (settles : Settles s t) (orderId : Uuid) :
    linesOf t orderId = linesOf s orderId := by
  rw [Repository.linesOf, Repository.linesOf, settles.lines]

theorem Settles.keeps (settles : Settles s t) : KeepsOrders s t :=
  ⟨settles.kept, fun row _ => settles.linesOf row.orderId⟩

theorem KeepsOrders.refl (store : OrderStore) : KeepsOrders store store :=
  ⟨.refl _, fun _ _ => rfl⟩

theorem KeepsOrders.trans {first second third : OrderStore} (earlier : KeepsOrders first second)
    (later : KeepsOrders second third) : KeepsOrders first third := by
  refine ⟨earlier.orders.trans later.orders, fun row mem => ?_⟩
  obtain ⟨_, _, kept⟩ := earlier.orders row mem
  exact (later.lines _ kept).trans (earlier.lines row mem)

/-- A row of an order was there with its lines, or is new with the lines that were read for it. -/
def Traced (order : CreateOrder) (context : CallContext) (s t : OrderStore)
    (row : OrderRow) : Prop :=
  (∃ state version, { row with state, version } ∈ s.orders.rows ∧
    linesOf t row.orderId = linesOf s row.orderId) ∨
  row.customerIdentityId = context.subject.identityId ∧ row.merchantId = order.merchantId ∧
    (∀ line ∈ linesOf t row.orderId, ∃ source ∈ order.lines, Reads order source line) ∧
    row.pricing.subtotalMinor = ((linesOf t row.orderId).map OrderLineEvidence.lineTotalMinor).sum

structure Created (config : OrderConfig) (context : CallContext) (order : CreateOrder)
    (s t : OrderStore) (value : CanonicalOrder) : Prop where
  keeps : KeepsOrders s t
  reserved : Reserved (CreateOrder.reservation config context order) s t value.orderId
  traced : ∀ row ∈ t.orders.rows, Traced order context s t row
  answer : ∃ row ∈ t.orders.rows, value = orderFrom t row

theorem created_of_ok {value : CanonicalOrder} (sound : Sound s)
    (ran : create config context order s = .ok (value, t)) :
    Created config context order s t value := by
  obtain ⟨between, same, reserved, rest⟩ := create_ok ran
  have keptLines (id : Uuid) : linesOf between id = linesOf s id := by
    rw [linesOf, linesOf, same.lines]
  obtain ⟨rfl, answer⟩ | ⟨merchant, lines, evaluationId, new, -, read, inserted, rest⟩ := rest
  · refine ⟨⟨same.orders ▸ .refl _, fun row _ => keptLines _⟩, reserved, fun row mem => ?_, answer⟩
    exact .inl ⟨row.state, row.version, same.orders ▸ mem, keptLines _⟩
  · have absent : s.orders.find value.orderId = none := by
      rw [← same.orders]
      exact Table.find_eq_none_of_rows_append inserted
    have added : t.lines = s.lines ++ lineRows value.orderId value.lines := by
      rw [rest, ← same.lines]
    have own : linesOf t value.orderId = value.lines :=
      linesOf_inserted added (sound.nothing absent).2.1
    have others (row : OrderRow) (mem : row ∈ s.orders.rows) :
        linesOf t row.orderId = linesOf s row.orderId :=
      linesOf_other added (Table.find_eq_none.1 absent row mem)
    rw [same.orders] at inserted
    have listed : value.lines = lines := by rw [new]; rfl
    refine ⟨⟨fun row mem => ⟨row.state, row.version, ?_⟩, others⟩, ?_, fun row mem => ?_, ?_⟩
    · rw [inserted]
      exact List.mem_append_left _ mem
    · rw [rest]
      exact reserved
    · obtain old | rfl := (mem_appended inserted).1 mem
      · exact .inl ⟨row.state, row.version, old, others row old⟩
      · refine .inr ⟨by rw [new]; rfl, by rw [new]; rfl, ?_, ?_⟩
        · change ∀ line ∈ linesOf t value.orderId, _
          rw [own, listed]
          exact read
        · change value.pricing.subtotalMinor = ((linesOf t value.orderId).map _).sum
          rw [own, listed, new]
          rfl
    · refine ⟨_, inserted ▸ List.mem_append_right _ (List.mem_singleton_self _), ?_⟩
      change value = { value with lines := linesOf t value.orderId }
      rw [own]

end

section

/-- Items stay, and one of which anything changes gets a later version. -/
def Versions (s t : CatalogueStore) : Prop :=
  ∀ id item, s.items.find id = some item → ∃ later, t.items.find id = some later ∧
    item.version ≤ later.version ∧ (later.version = item.version → later = item)

theorem Versions.refl (store : CatalogueStore) : Versions store store :=
  fun _ item found => ⟨item, found, Int.le_refl _, fun _ => rfl⟩

theorem Versions.trans {first second third : CatalogueStore} (earlier : Versions first second)
    (later : Versions second third) : Versions first third := by
  intro id item found
  obtain ⟨between, foundBetween, less, same⟩ := earlier id item found
  obtain ⟨last, foundLast, lessLast, sameLast⟩ := later id between foundBetween
  refine ⟨last, foundLast, Int.le_trans less lessLast, fun equal => ?_⟩
  obtain rfl := same (by omega)
  exact sameLast equal

theorem versions_of_effect {s t : CatalogueStore}
    (effect : CatalogueEffect s t) : Versions s t := by
  intro id item found
  cases effect with
  | quiet _ items => exact ⟨item, items ▸ found, Int.le_refl _, fun _ => rfl⟩
  | categoryAdded _ _ _ items => exact ⟨item, items ▸ found, Int.le_refl _, fun _ => rfl⟩
  | itemAdded added rows =>
    refine ⟨item, ?_, Int.le_refl _, fun _ => rfl⟩
    rw [Table.find_of_rows_append rows, found]
    rfl
  | itemReplaced fresh old held _ rows _ _ =>
    rw [Table.find_of_rows_replaced rows]
    by_cases key : id = Row.key fresh
    · rw [if_pos key, found]
      rw [key] at found
      obtain rfl := Option.mem_unique found held
      exact ⟨fresh, rfl, by omega, fun equal => by omega⟩
    · rw [if_neg key]
      exact ⟨item, found, Int.le_refl _, fun _ => rfl⟩

variable {config : MarketConfig}

theorem marketStep_versions (config : MarketConfig) (store : MarketStore) (call : MarketCall) :
    Versions store.catalogue (marketStep config store call).catalogue := by
  cases call with
  | catalogue =>
    exact commit_related _ _ (.refl _) fun _ _ ran => versions_of_effect (body_done ran).effect
  | create => exact .refl _
  | decide => exact .refl _
  | prepare => exact .refl _

theorem item_of_version {inputs : List MarketCall} {n m : Nat} {id : Uuid}
    {item other : CatalogueItem}
    (found : (stateAt config inputs n).catalogue.items.find id = some item)
    (foundOther : (stateAt config inputs m).catalogue.items.find id = some other)
    (same : other.version = item.version) : other = item := by
  have spans {n m : Nat} (le : n ≤ m) :=
    run_take_related (R := fun s t : MarketStore => Versions s.catalogue t.catalogue)
      (fun _ => .refl _) .trans (marketStep_versions config) {} inputs le
  obtain before | after := Nat.le_total n m
  · obtain ⟨later, foundLater, _, stays⟩ := spans before id item found
    obtain rfl := Option.mem_unique foundLater foundOther
    exact stays same
  · obtain ⟨later, foundLater, _, stays⟩ := spans after id other foundOther
    obtain rfl := Option.mem_unique foundLater found
    exact (stays same.symm).symm

end

section

variable {config : MarketConfig} {n m : Nat} {line : OrderLineEvidence} {inputs : List MarketCall}

theorem marketStep_orders (config : MarketConfig) (store : MarketStore) (call : MarketCall)
    (sound : Sound store.orders) :
    Settles store.orders (marketStep config store call).orders ∨
      ∃ context modifierVersions order, call = .create context modifierVersions order ∧
        ∃ value, Created config.orders context (reading store.catalogue modifierVersions order)
          store.orders (marketStep config store call).orders value := by
  cases call with
  | catalogue => exact .inl (Std.Refl.refl _)
  | create context modifierVersions order =>
    obtain stays | ⟨_, ran⟩ := commit_cases (OrderCall.body config.orders
        ⟨context, .create (reading store.catalogue modifierVersions order)⟩) store.orders
    · exact .inl (.of_same (congrArg _ stays) (congrArg _ stays) (congrArg _ stays))
    · obtain ⟨value, creates, _⟩ := bind_pure_ok.1 ran
      exact .inr ⟨context, modifierVersions, order, rfl, value, created_of_ok sound creates⟩
  | decide context order =>
    exact .inl (Relates.commit (.bind decideOrder_settles fun _ => .pure) _)
  | prepare context order =>
    exact .inl (Relates.commit (.bind prepareOrder_settles fun _ => .pure) _)

structure Persists (s t : OrderStore) : Prop where
  sound : Sound t
  keeps : KeepsOrders s t
  reservations : ∀ name row, s.reservations.find name = some row →
    t.reservations.find name = some row

theorem marketStep_persists (config : MarketConfig) (store : MarketStore) (call : MarketCall)
    (sound : Sound store.orders) : Persists store.orders (marketStep config store call).orders := by
  refine ⟨?_, ?_, ?_⟩
  · cases call with
    | catalogue => exact sound
    | create => exact orderStep_sound _ _ sound
    | decide => exact orderStep_sound _ _ sound
    | prepare => exact orderStep_sound _ _ sound
  · obtain settles | ⟨_, _, _, _, _, created⟩ := marketStep_orders config store call sound
    · exact settles.keeps
    · exact created.keeps
  · obtain settles | ⟨_, _, _, _, _, created⟩ := marketStep_orders config store call sound
    · exact fun _ _ found => settles.reservations ▸ found
    · exact created.reserved.1

theorem persists_between (config : MarketConfig) (inputs : List MarketCall)
    (le : n ≤ m) : Persists (stateAt config inputs n).orders (stateAt config inputs m).orders := by
  have spans (n m : Nat) (le : n ≤ m) :=
    run_take_related (R := fun s t : MarketStore => Sound s.orders → Persists s.orders t.orders)
      (fun _ sound => ⟨sound, .refl _, fun _ _ found => found⟩)
      (fun earlier later sound =>
        have first := earlier sound
        have second := later first.sound
        ⟨second.sound, first.keeps.trans second.keeps,
          fun name row found => second.reservations name row (first.reservations name row found)⟩)
      (marketStep_persists config) {} inputs le
  exact spans n m le (spans 0 n (Nat.zero_le n) sound_empty).sound

theorem Observed.later {row : OrderRow} {state : OrderState} {version : Nat}
    (observed : Observed config inputs n { row with state, version } line) (le : n ≤ m) :
    Observed config inputs m row line := by
  obtain ⟨⟨k, earlier, rest⟩, shows⟩ := observed
  exact ⟨⟨k, Nat.lt_of_lt_of_le earlier le, rest⟩, shows⟩

theorem observed_of_reads {context : CallContext} {modifierVersions : Uuid → Option Nat}
    {order : CreateOrder} {row : OrderRow} {source : BasketLine}
    (taken : inputs[n]? = some (.create context modifierVersions order))
    (customer : row.customerIdentityId = context.subject.identityId)
    (merchant : row.merchantId = order.merchantId) (listed : source ∈ order.lines)
    (reads : Reads (reading (stateAt config inputs n).catalogue modifierVersions order) source line)
    (valid : line.Valid) : Observed config inputs (n + 1) row line := by
  obtain ⟨read, found, version, priced, rfl⟩ := reads
  obtain ⟨item, held, rfl⟩ := Option.map_eq_some_iff.1 found
  have positive : 1 ≤ item.version.toNat := valid.1
  have whole : ((item.version.toNat : Nat) : Int) = item.version := Int.toNat_of_nonneg (by omega)
  have observed : item.version = source.observedVersion := by
    rw [← version]
    exact whole.symm
  have shows : Shows item
      (lineEvidence (orderableOf (modifierVersions source.itemId) item) source) := by
    refine ⟨rfl, rfl, ?_⟩
    obtain ⟨price, reads⟩ := Option.isSome_iff_exists.1 priced
    obtain ⟨amount, known, natural⟩ := Option.bind_eq_some_iff.1 reads
    rw [known, lineEvidence, reads]
    exact congrArg some (Int.mem_toNat?.1 natural)
  have named : item.itemId = source.itemId := Table.key_of_find held
  refine ⟨⟨n, Nat.lt_succ_self n, context, modifierVersions, order, taken, customer.symm,
    merchant.symm, source, listed, named, version, rfl, item, held, observed, shows⟩, ?_⟩
  intro m other present same
  have found : (stateAt config inputs m).catalogue.items.find source.itemId = some other :=
    named ▸ present
  obtain rfl := item_of_version held found (same.trans whole)
  exact shows

theorem observed_always :
    ∀ row ∈ (stateAt config inputs n).orders.orders.rows,
      (∀ line ∈ linesOf (stateAt config inputs n).orders row.orderId,
        Observed config inputs n row line) ∧ Sums (stateAt config inputs n).orders row := by
  induction n with
  | zero => exact fun _ mem => by cases mem
  | succ n ih =>
    have sound := (persists_between config inputs (Nat.zero_le n)).sound
    have now := (persists_between config inputs (Nat.zero_le (n + 1))).sound
    have old (row : OrderRow) (state : OrderState) (version : Nat)
        (mem : { row with state, version } ∈ (stateAt config inputs n).orders.orders.rows)
        (same : linesOf (stateAt config inputs (n + 1)).orders row.orderId =
          linesOf (stateAt config inputs n).orders row.orderId) :
        (∀ line ∈ linesOf (stateAt config inputs (n + 1)).orders row.orderId,
          Observed config inputs (n + 1) row line) ∧
          Sums (stateAt config inputs (n + 1)).orders row := by
      obtain ⟨observed, totals, subtotal⟩ := ih _ mem
      refine ⟨?_, ?_, ?_⟩
      · rw [same]
        exact fun line listed => (observed line listed).later (Nat.le_succ n)
      · rw [same]
        exact totals
      · rw [same]
        exact subtotal
    cases taken : inputs[n]? with
    | none =>
      have finished : inputs.length ≤ n := List.getElem?_eq_none_iff.1 taken
      have same : stateAt config inputs (n + 1) = stateAt config inputs n := by
        rw [stateAt, stateAt, List.take_of_length_le finished, List.take_of_length_le (by omega)]
      intro row mem
      exact old row row.state row.version (same ▸ mem) (by rw [same])
    | some call =>
      have next : stateAt config inputs (n + 1) =
          marketStep config (stateAt config inputs n) call := run_take_succ taken
      intro row mem
      obtain settles | ⟨context, modifierVersions, order, rfl, value, created⟩ :=
        marketStep_orders config (stateAt config inputs n) call sound
      · rw [← next] at settles
        obtain ⟨_, _, there⟩ := settles.origin row mem
        exact old row _ _ there (settles.linesOf _)
      · rw [← next] at created
        obtain ⟨_, _, there, same⟩ | ⟨customer, merchant, read, subtotal⟩ :=
          created.traced row mem
        · exact old row _ _ there same
        · refine ⟨fun line listed => ?_, fun line listed => ?_, subtotal⟩
          · obtain ⟨source, asked, reads⟩ := read line listed
            exact observed_of_reads taken customer merchant asked reads
              ((now.recorded row mem).readable.each line listed)
          · obtain ⟨_, _, _, _, _, _, rfl⟩ := read line listed
            rfl

end

section

variable {config : OrderConfig} {context : CallContext} {order : CreateOrder} {s t : OrderStore}

theorem checkLines_anywhere {lines : List BasketLine} {seen : List Uuid}
    (ran : checkLines seen lines s = .ok ((), t)) (store : OrderStore) :
    checkLines seen lines store = .ok ((), store) := by
  induction lines generalizing seen with
  | nil => rfl
  | cons line rest ih =>
    simp only [checkLines, ↓require_bind_ok] at ran ⊢
    exact ⟨ran.1, ran.2.1, ih ran.2.2⟩

theorem create_of_found {row : OrderRow} {basket : List BasketLine}
    (normalizes : normalizeBasket order.lines s = .ok (basket, t)) {store : OrderStore}
    (sound : Sound store) (mem : row ∈ store.orders.rows) {found : OrderReservation}
    (reserved : store.reservations.find
      (CreateOrder.reservation config context order).name = some found)
    (same : found.requestHash = (CreateOrder.reservation config context order).requestHash)
    (about : found.orderId = row.orderId) :
    create config context order store = .ok (orderFrom store row, store) := by
  have held : store.orders.find row.orderId = some row := Table.find_of_mem mem
  have readable := (sound.recorded row mem).readable
  obtain ⟨count, rfl, -⟩ := normalizeBasket_ok normalizes
  refine bind_ok.2 ⟨order.lines, store, ?_, bind_ok.2 ⟨(row.orderId, false), store, ?_,
    bind_ok.2 ⟨some (orderFrom store row), store, ?_, rfl⟩⟩⟩
  · simp only [normalizeBasket, ↓require_bind_ok] at normalizes ⊢
    obtain ⟨-, _, _, checked, -⟩ := normalizes.imp_right bind_ok.1
    exact ⟨count, bind_ok.2 ⟨(), store, checkLines_anywhere checked store, rfl⟩⟩
  · have answers : reserveOrder (CreateOrder.reservation config context order) store =
        .ok ((found.orderId, false), store) := by
      unfold reserveOrder
      rw [get_bind_ok, reserved]
      simp only [same, ↓steps_ok, and_true]
    rw [about] at answers
    exact answers
  · unfold findOrder
    rw [get_bind_ok, held]
    simp only [↓steps_ok]
    exact ⟨readable, rfl, trivial⟩

theorem Repeats.reservation (config : OrderConfig) {later : CallContext} {again : CreateOrder}
    (repeats : Repeats context order later again) :
    (CreateOrder.reservation config later again).name =
        (CreateOrder.reservation config context order).name ∧
      (CreateOrder.reservation config later again).requestHash =
        (CreateOrder.reservation config context order).requestHash := by
  simp only [CreateOrder.reservation, OrderReservation.name, repeats.customer, repeats.key,
    repeats.merchantId, repeats.lines, repeats.areaReference, repeats.coverageReference,
    repeats.merchantOpen, repeats.accessInteractionId, and_self]

end

/-- In every run of catalogue and order commands, orders stay what their customers observed. -/
theorem orders_frozen_always (config : MarketConfig) (inputs : List MarketCall) :
    OrdersFrozen config inputs := by
  refine ⟨fun n row mem => (observed_always row mem).1,
    fun n row mem => (observed_always row mem).2,
    fun n m le => (persists_between config inputs le).keeps, ?_⟩
  intro n m before context modifierVersions order taken value after ran later again repeats
  have made := created_of_ok (persists_between config inputs (Nat.zero_le n)).sound ran
  have next : (stateAt config inputs (n + 1)).orders = after := by
    rw [stateAt, run_take_succ taken]
    exact commit_of_ok (bind_ok.2 ⟨value, after, ran, rfl⟩)
  have persists := persists_between config inputs before
  rw [next] at persists
  obtain ⟨row, mem, rfl⟩ := made.answer
  obtain ⟨state, version, kept⟩ := persists.keeps.orders row mem
  obtain ⟨found, reserved, same, about⟩ := made.reserved.2
  obtain ⟨basket, _, normalizes, _⟩ := bind_ok.1 ran
  obtain ⟨name, hash⟩ := Repeats.reservation config.orders repeats
  change normalizeBasket order.lines _ = _ at normalizes
  rw [← repeats.lines] at normalizes
  refine ⟨state, version, ?_⟩
  rw [create_of_found normalizes persists.sound kept (name ▸ persists.reservations _ _ reserved)
    (same.trans hash.symm) about, orderFrom, orderFrom, persists.keeps.lines row mem]

end Ayo.MerchantOrders.FrozenOrders
