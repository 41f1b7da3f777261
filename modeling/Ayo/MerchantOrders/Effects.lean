/- digest: What a command on orders that returns wrote. -/

import Ayo.MerchantOrders.Application

namespace Ayo.MerchantOrders.Effects

open Kernel.UnitOfWork Kernel.KeyedTable Core.Values Models Repository Application

def successors : OrderState → List OrderState
  | .waitingForMerchantConfirmation => [.accepted, .rejected]
  | .accepted => [.preparing]
  | .preparing => [.preparing, .readyForPickup]
  | .rejected => []
  | .readyForPickup => []

structure SameHistory (s t : OrderStore) : Prop where
  orders : t.orders = s.orders
  lines : t.lines = s.lines
  timeline : t.timeline = s.timeline
  rejections : t.rejections = s.rejections
  preparations : t.preparations = s.preparations
  preparationEvents : t.preparationEvents = s.preparationEvents

theorem SameHistory.refl (store : OrderStore) : SameHistory store store :=
  ⟨rfl, rfl, rfl, rfl, rfl, rfl⟩

theorem SameHistory.trans {first second third : OrderStore} (earlier : SameHistory first second)
    (later : SameHistory second third) : SameHistory first third where
  orders := later.orders.trans earlier.orders
  lines := later.lines.trans earlier.lines
  timeline := later.timeline.trans earlier.timeline
  rejections := later.rejections.trans earlier.rejections
  preparations := later.preparations.trans earlier.preparations
  preparationEvents := later.preparationEvents.trans earlier.preparationEvents

inductive MoveDetail (s t : OrderStore) (row : OrderRow) : OrderState → Prop
  | accepted (from_ : row.state = .waitingForMerchantConfirmation)
      (rejections : t.rejections = s.rejections)
      (preparations : t.preparations = s.preparations)
      (events : t.preparationEvents = s.preparationEvents) :
      MoveDetail s t row .accepted
  | rejected (decision : RejectionDecision) (from_ : row.state = .waitingForMerchantConfirmation)
      (about : decision.orderId = row.orderId) (valid : decision.Valid)
      (rejections : t.rejections.rows = s.rejections.rows ++ [decision])
      (preparations : t.preparations = s.preparations)
      (events : t.preparationEvents = s.preparationEvents) :
      MoveDetail s t row .rejected
  | started (record : PreparationRecord) (event : PreparationEvent)
      (inserted : t.preparations.rows = s.preparations.rows ++ [record])
      (events : t.preparationEvents = s.preparationEvents ++ [event])
      (from_ : row.state = .accepted) (about : record.orderId = row.orderId) (valid : record.Valid)
      (none_ : record.progressPercent = 0) (unready : record.readyAt = none)
      (named : event.orderId = row.orderId ∧ event.orderVersion = row.version + 1 ∧
        event.progressPercent = record.progressPercent ∧ event.Valid)
      (rejections : t.rejections = s.rejections) :
      MoveDetail s t row .preparing
  | progressed (old record : PreparationRecord) (event : PreparationEvent)
      (replaced : t.preparations.rows = s.preparations.replaced record)
      (events : t.preparationEvents = s.preparationEvents ++ [event])
      (from_ : row.state = .preparing) (found : s.preparations.find row.orderId = some old)
      (about : record.orderId = row.orderId) (valid : record.Valid)
      (more : old.progressPercent < record.progressPercent) (less : record.progressPercent < 100)
      (unready : record.readyAt = none)
      (named : event.orderId = row.orderId ∧ event.orderVersion = row.version + 1 ∧
        event.progressPercent = record.progressPercent ∧ event.Valid)
      (rejections : t.rejections = s.rejections) :
      MoveDetail s t row .preparing
  | readied (old record : PreparationRecord) (event : PreparationEvent)
      (replaced : t.preparations.rows = s.preparations.replaced record)
      (events : t.preparationEvents = s.preparationEvents ++ [event])
      (from_ : row.state = .preparing) (found : s.preparations.find row.orderId = some old)
      (about : record.orderId = row.orderId) (valid : record.Valid)
      (full : record.progressPercent = 100) (ready : record.readyAt.isSome = true)
      (named : event.orderId = row.orderId ∧ event.orderVersion = row.version + 1 ∧
        event.progressPercent = record.progressPercent ∧ event.Valid)
      (rejections : t.rejections = s.rejections) :
      MoveDetail s t row .readyForPickup

/-- What a command that returns did to the history of orders, moving only what it may move. -/
inductive OrderEffect (allowed : Uuid → OrderState → Prop) (s t : OrderStore) : Prop where
  | quiet (same : SameHistory s t)
  | created (value : CanonicalOrder) (merchantVersion : Nat)
      (state : value.state = .waitingForMerchantConfirmation) (version : value.version = 1)
      (readable : ReadableOrder value.merchantDisplayName value.lines value.version)
      (orders : t.orders.rows = s.orders.rows ++ [CanonicalOrder.row value merchantVersion])
      (lines : t.lines = s.lines ++ lineRows value.orderId value.lines)
      (timeline : t.timeline = s.timeline ++ [createdEvent value])
      (rejections : t.rejections = s.rejections)
      (preparations : t.preparations = s.preparations)
      (events : t.preparationEvents = s.preparationEvents)
  | moved (row : OrderRow) (target : OrderState) (event : OrderTimelineEvent)
      (found : s.orders.find row.orderId = some row)
      (orders : t.orders.rows =
        s.orders.replaced { row with state := target, version := row.version + 1 })
      (lines : t.lines = s.lines)
      (timeline : t.timeline = s.timeline ++ [event])
      (named : event.orderId = row.orderId ∧ event.fromState = some row.state ∧
        event.toState = target ∧ event.orderVersion = row.version + 1 ∧ event.Valid)
      (detail : MoveDetail s t row target) (allows : allowed row.orderId target)

variable {target : OrderState} {s t between : OrderStore}

theorem MoveDetail.edge {row : OrderRow} (detail : MoveDetail s t row target) :
    target ∈ successors row.state := by
  cases detail with
  | accepted from_ => rw [from_]; decide
  | rejected _ from_ => rw [from_]; decide
  | started _ _ _ _ from_ => rw [from_]; decide
  | progressed _ _ _ _ _ from_ => rw [from_]; decide
  | readied _ _ _ _ _ from_ => rw [from_]; decide

theorem MoveDetail.of_same {row : OrderRow} (same : SameHistory s between)
    (detail : MoveDetail between t row target) : MoveDetail s t row target := by
  cases detail with
  | accepted from_ rejections preparations events =>
    exact .accepted from_ (rejections.trans same.rejections)
      (preparations.trans same.preparations) (events.trans same.preparationEvents)
  | rejected decision from_ about valid rejections preparations events =>
    rw [same.rejections] at rejections
    exact .rejected decision from_ about valid rejections (preparations.trans same.preparations)
      (events.trans same.preparationEvents)
  | started record event inserted events from_ about valid none_ unready named rejections =>
    rw [same.preparations] at inserted
    rw [same.preparationEvents] at events
    exact .started record event inserted events from_ about valid none_ unready named
      (rejections.trans same.rejections)
  | progressed old record event replaced events from_ found about valid more less unready named
      rejections =>
    rw [same.preparations] at found replaced
    rw [same.preparationEvents] at events
    exact .progressed old record event replaced events from_ found about valid more less unready
      named (rejections.trans same.rejections)
  | readied old record event replaced events from_ found about valid full ready named rejections =>
    rw [same.preparations] at found replaced
    rw [same.preparationEvents] at events
    exact .readied old record event replaced events from_ found about valid full ready named
      (rejections.trans same.rejections)

theorem OrderEffect.of_same {allowed : Uuid → OrderState → Prop} (same : SameHistory s between)
    (effect : OrderEffect allowed between t) : OrderEffect allowed s t := by
  cases effect with
  | quiet later => exact .quiet (same.trans later)
  | created value merchantVersion state version readable orders lines timeline rejections
      preparations events =>
    rw [same.orders] at orders
    rw [same.lines] at lines
    rw [same.timeline] at timeline
    exact .created value merchantVersion state version readable orders lines timeline
      (rejections.trans same.rejections) (preparations.trans same.preparations)
      (events.trans same.preparationEvents)
  | moved row target event found orders lines timeline named detail allows =>
    rw [same.orders] at found orders
    rw [same.timeline] at timeline
    exact .moved row target event found orders (lines.trans same.lines) timeline named
      (detail.of_same same) allows

def decisionTarget : MerchantOrderAction → OrderState
  | .accept => .accepted
  | .reject => .rejected

def allowedBy : OrderCommand → Uuid → OrderState → Prop
  | .create _, _, _ => False
  | .decision order, orderId, target => orderId = order.orderId ∧ target = decisionTarget order.action
  | .preparation order, orderId, target =>
    orderId = order.orderId ∧ (target = .preparing ∨ target = .readyForPickup)

variable {s t : OrderStore} {config : OrderConfig} {context : CallContext}
  {allowed : Uuid → OrderState → Prop}

section

variable {orderId : Uuid}

theorem getOrder_ok {order : CanonicalOrder} (ran : getOrder orderId s = .ok (some order, t)) :
    order.orderId = orderId ∧ ∃ row, s.orders.find orderId = some row ∧
      order.merchantId = row.merchantId ∧ order.state = row.state ∧
      order.version = row.version := by
  unfold getOrder at ran
  rw [get_bind_ok] at ran
  cases found : s.orders.find orderId with
  | none =>
    rw [found] at ran
    cases (pure_ok.1 ran).1
  | some row =>
    simp only [found, ↓steps_ok, Option.some.injEq] at ran
    obtain ⟨_, rfl, rfl⟩ := ran
    exact ⟨Table.key_of_find found, row, rfl, rfl, rfl, rfl⟩

theorem getOrder_readOnly : ReadOnly (getOrder orderId) := by
  refine .bind .get fun store => ?_
  cases store.orders.find orderId with
  | none => exact .pure
  | some row => exact .requires <| .pure

theorem getView_readOnly : ReadOnly (getView orderId) := by
  refine .bind getOrder_readOnly fun found => .whenSome (fun order => ?_) .pure
  refine .bind .get fun store => .requires <| .requires ?_
  intro s view t ran
  split at ran
  · exact (pure_ok.1 ran).2
  · exact (throw_ok.1 ran).elim

theorem getView_rejection {view : MerchantOrderView}
    (ran : getView orderId s = .ok (some view, t)) :
    ∀ row ∈ s.rejections.find orderId, row.Valid := by
  unfold getView at ran
  obtain ⟨found, read, ran⟩ := (getOrder_readOnly).bind_ok ran
  rw [whenSome_ok] at ran
  obtain ⟨order, _, ran⟩ | ⟨_, ran⟩ := ran
  · simp only [↓steps_ok] at ran
    exact ran.2.1
  · cases (pure_ok.1 ran).1

theorem getRecord_ok {record : Option PreparationRecord}
    (ran : getRecord orderId s = .ok (record, t)) :
    s.preparations.find orderId = record ∧ (∀ row ∈ record, row.Valid) ∧ t = s := by
  simp only [getRecord, ↓steps_ok] at ran
  obtain ⟨valid, rfl, rfl⟩ := ran
  exact ⟨rfl, valid, rfl⟩

theorem getPreparationView_readOnly : ReadOnly (getPreparationView orderId) := by
  refine .bind getView_readOnly fun found => .whenSome (fun order => ?_) .pure
  refine .bind .get fun store => .bind ?_ fun _ => .requires <| .pure
  exact .bind .get fun store => .requires <| .pure

end

section

theorem actions_same {α : Type} {body : Transaction (Table ActionReservation) Failure α} {a : α}
    (ran : within OrderStore.actions (fun actions store => { store with actions }) body s =
      .ok (a, t)) : SameHistory s t := by
  obtain ⟨actions, _, rfl⟩ := within_ok.1 ran
  exact ⟨rfl, rfl, rfl, rfl, rfl, rfl⟩

theorem preparationActions_same {α : Type} {body : Transaction (Table ActionReservation) Failure α}
    {a : α} (ran : within OrderStore.preparationActions
      (fun preparationActions store => { store with preparationActions }) body s =
        .ok (a, t)) : SameHistory s t := by
  obtain ⟨actions, _, rfl⟩ := within_ok.1 ran
  exact ⟨rfl, rfl, rfl, rfl, rfl, rfl⟩

variable {target : OrderState} {old order : CanonicalOrder} {version : Nat} {actorId orderId : Uuid}
  {time : DateTime} {text : RejectionText} {key : String} {progressPercent : Int}
  {view : PreparationView} {current : PreparationRecord}

theorem moveOrder_ok (ran : moveOrder old target s = .ok (version, t)) :
    ∃ row, row.orderId = old.orderId ∧ s.orders.find row.orderId = some row ∧
      row.state = old.state ∧ version = row.version + 1 ∧ ∃ orders : Table OrderRow, orders.rows =
        s.orders.replaced { row with state := target, version := row.version + 1 } ∧
        t = { s with orders } := by
  simp only [moveOrder, ↓steps_ok, Option.filter_eq_some_iff, decide_eq_true_eq,
    Table.replace?_eq_some] at ran
  obtain ⟨row, ⟨found, _, state, same⟩, orders, rows, rfl, rfl⟩ := ran
  rw [← same] at rows ⊢
  have key : row.orderId = old.orderId := Table.key_of_find found
  exact ⟨row, key, key ▸ found, state, rfl, orders, rows, rfl⟩

theorem appendTimeline_ok {event : OrderTimelineEvent}
    (ran : appendTimeline event s = .ok ((), t)) :
    (∀ code ∈ event.customerReasonCode, code.length ≤ 63) ∧
      t = { s with timeline := s.timeline ++ [event] } := by
  simp only [appendTimeline, ↓steps_ok] at ran
  exact ⟨ran.1, ran.2.symm⟩

theorem insertRejection_ok (ran : insertRejection orderId actorId text time s = .ok ((), t)) :
    ∃ decision : RejectionDecision, decision.orderId = orderId ∧
      ∃ rejections : Table RejectionDecision, rejections.rows = s.rejections.rows ++ [decision] ∧
        t = { s with rejections } := by
  simp only [insertRejection, ↓steps_ok, Table.insert?_eq_some] at ran
  obtain ⟨code, _, message, _, rejections, rows, rfl⟩ := ran
  exact ⟨_, rfl, rejections, rows, rfl⟩

theorem transition_ok {old : OrderState} {action : MerchantOrderAction}
    (ran : transition old action s = .ok (target, t)) :
    old = .waitingForMerchantConfirmation ∧ target = decisionTarget action ∧ t = s := by
  simp only [transition, ↓steps_ok] at ran
  obtain ⟨waiting, rfl, rfl⟩ := ran
  refine ⟨waiting, ?_, rfl⟩
  cases action with
  | accept => rfl
  | reject => rfl

theorem transitionOrder_effect {view : MerchantOrderView}
    (waiting : old.state = .waitingForMerchantConfirmation)
    (decided : target = .accepted ∨ target = .rejected) (allows : allowed old.orderId target)
    (ran : transitionOrder old target actorId text key time s = .ok (view, t)) :
    OrderEffect allowed s t := by
  rw [transitionOrder, bind_ok] at ran
  obtain ⟨version, moved, moves, ran⟩ := ran
  obtain ⟨row, key, found, state, rfl, orders, rows, rfl⟩ := moveOrder_ok moves
  rw [bind_ok] at ran
  obtain ⟨⟨⟩, recorded, records, ran⟩ := ran
  rw [bind_ok] at ran
  obtain ⟨⟨⟩, appended, appends, ran⟩ := ran
  obtain ⟨short, rfl⟩ := appendTimeline_ok appends
  rw [bind_ok] at ran
  obtain ⟨⟨⟩, finished, finishes, ran⟩ := ran
  have same_history := actions_same finishes
  obtain ⟨seen, read, answered⟩ := (getView_readOnly).bind_ok ran
  obtain ⟨rfl, rfl⟩ := demand_ok.1 answered
  have valid := getView_rejection read
  rw [same_history.rejections, ← key] at valid
  unfold recordRejection at records
  obtain rfl | rfl := decided
  · obtain ⟨_, rfl⟩ := pure_ok.1 records
    refine .moved row .accepted _ found ?_ same_history.lines same_history.timeline
      ⟨key.symm, congrArg some state.symm, rfl, rfl, Nat.succ_pos _, short⟩
      (.accepted (state.trans waiting) same_history.rejections same_history.preparations
        same_history.preparationEvents) (key ▸ allows)
    rw [same_history.orders]
    exact rows
  · obtain ⟨decision, about, rejections, inserted, rfl⟩ := insertRejection_ok records
    have named : decision.orderId = row.orderId := about.trans key.symm
    have held := Table.find_of_inserted inserted
    have decision_valid : decision.Valid := by
      refine valid decision ?_
      rw [← named]
      exact held
    refine .moved row .rejected _ found ?_ same_history.lines same_history.timeline
      ⟨key.symm, congrArg some state.symm, rfl, rfl, Nat.succ_pos _, short⟩
      (.rejected decision (state.trans waiting) named decision_valid ?_ same_history.preparations
        same_history.preparationEvents) (key ▸ allows)
    · rw [same_history.orders]
      exact rows
    · rw [same_history.rejections]
      exact inserted

theorem updatePreparation_ok {change : PreparationRecord → PreparationRecord}
    (ran : updatePreparation orderId progressPercent change s = .ok ((), t)) :
    ∃ row, s.preparations.find orderId = some row ∧ row.progressPercent = progressPercent ∧
      row.readyAt = none ∧ (change row).Valid ∧ ∃ preparations : Table PreparationRecord,
        preparations.rows = s.preparations.replaced (change row) ∧ t = { s with preparations } := by
  simp only [updatePreparation, ↓steps_ok, Option.filter_eq_some_iff, decide_eq_true_eq,
    Table.replace?_eq_some] at ran
  obtain ⟨row, ⟨found, same, unready⟩, valid, preparations, rows, rfl⟩ := ran
  exact ⟨row, found, same, unready, valid, preparations, rows, rfl⟩

theorem appendPreparation_ok {event : PreparationEvent}
    (ran : appendPreparation order event target s = .ok ((), t)) :
    ((∀ code ∈ event.delayReasonCode, code.length ≤ 63) ∧
        ∀ message ∈ event.delayMessage, message.length ≤ 240) ∧
      ∃ entry : OrderTimelineEvent, entry.orderId = order.orderId ∧
        entry.fromState = some order.state ∧ entry.toState = target ∧
        entry.orderVersion = event.orderVersion ∧ (1 ≤ event.orderVersion → entry.Valid) ∧
        t = { s with
          preparationEvents := s.preparationEvents ++ [event]
          timeline := s.timeline ++ [entry] } := by
  simp only [appendPreparation, ↓steps_ok] at ran
  obtain ⟨short, appends⟩ := ran
  obtain ⟨_, rfl⟩ := appendTimeline_ok appends
  exact ⟨short, _, rfl, rfl, rfl, rfl, fun counted => ⟨counted, fun _ absent => by cases absent⟩, rfl⟩

theorem finishPreparation_ok (ran : finishPreparation order actorId key version s = .ok (view, t)) :
    SameHistory s t := by
  rw [finishPreparation, bind_ok] at ran
  obtain ⟨⟨⟩, finished, finishes, ran⟩ := ran
  obtain ⟨seen, read, answered⟩ := (getPreparationView_readOnly).bind_ok ran
  obtain ⟨_, rfl⟩ := demand_ok.1 answered
  exact preparationActions_same finishes

theorem startPreparation_effect {seconds : Int} {readyAt : Instant}
    (accepted : order.state = .accepted) (allows : allowed order.orderId .preparing)
    (ran : startPreparation order actorId seconds readyAt key time s =
      .ok (view, t)) : OrderEffect allowed s t := by
  rw [startPreparation, bind_ok] at ran
  obtain ⟨version, moved, moves, ran⟩ := ran
  obtain ⟨row, key, found, state, rfl, orders, rows, rfl⟩ := moveOrder_ok moves
  simp only [↓steps_ok, Table.insert?_eq_some] at ran
  obtain ⟨bounds, preparations, inserted, ran⟩ := ran
  rw [bind_ok] at ran
  obtain ⟨⟨⟩, appended, appends, ran⟩ := ran
  obtain ⟨_, entry, about, from_, to_, counted, valid_entry, rfl⟩ :=
    appendPreparation_ok appends
  have finished := finishPreparation_ok ran
  have inserted' := (congrArg Table.rows finished.preparations).trans inserted
  have begun : (0 : Int) ≤ 0 ∧ (0 : Int) ≤ 100 := by decide
  refine .moved row .preparing entry found ?_ finished.lines finished.timeline
    ⟨about.trans key.symm, from_.trans (congrArg some state.symm), to_, counted,
      valid_entry (Nat.succ_pos _)⟩
    (.started _ _ inserted' finished.preparationEvents (state.trans accepted) key.symm ?_ rfl rfl
      ⟨key.symm, rfl, rfl, ?_⟩ finished.rejections) (key ▸ allows)
  · rw [finished.orders]
    exact rows
  · exact ⟨bounds, begun, fun _ absent => (by cases absent), fun _ absent => (by cases absent)⟩
  · refine ⟨Nat.succ_pos _, begun, ?_, fun _ absent => (by cases absent),
      fun _ absent => (by cases absent)⟩
    rintro _ ⟨⟩
    exact bounds

theorem progressPreparation_effect
    {delayReasonCode delayMessage : Option String} (preparing : order.state = .preparing)
    (more : current.progressPercent < progressPercent) (less : progressPercent < 100)
    (allows : allowed order.orderId .preparing)
    (ran : progressPreparation order current progressPercent actorId delayReasonCode
      delayMessage key time s = .ok (view, t)) : OrderEffect allowed s t := by
  rw [progressPreparation, bind_ok] at ran
  obtain ⟨version, moved, moves, ran⟩ := ran
  obtain ⟨row, key, found, state, rfl, orders, rows, rfl⟩ := moveOrder_ok moves
  rw [bind_ok] at ran
  obtain ⟨⟨⟩, updated, updates, ran⟩ := ran
  obtain ⟨old, prepared, percent, unready, valid, preparations, replaced, rfl⟩ :=
    updatePreparation_ok updates
  have about_old : old.orderId = order.orderId := Table.key_of_find prepared
  rw [← key] at prepared
  rw [bind_ok] at ran
  obtain ⟨⟨⟩, appended, appends, ran⟩ := ran
  obtain ⟨short, entry, about, from_, to_, counted, valid_entry, rfl⟩ :=
    appendPreparation_ok appends
  have finished := finishPreparation_ok ran
  have replaced' := (congrArg Table.rows finished.preparations).trans replaced
  refine .moved row .preparing entry found ?_ finished.lines finished.timeline
    ⟨about.trans key.symm, from_.trans (congrArg some state.symm), to_, counted,
      valid_entry (Nat.succ_pos _)⟩
    (.progressed old _ _ replaced' finished.preparationEvents (state.trans preparing) prepared
      (about_old.trans key.symm) valid (percent ▸ more) less unready ⟨key.symm, rfl, rfl, ?_⟩
      finished.rejections) (key ▸ allows)
  · rw [finished.orders]
    exact rows
  · exact ⟨Nat.succ_pos _, valid.2.1, fun _ absent => (by cases absent), short.1, short.2⟩

theorem readyPreparation_effect (preparing : order.state = .preparing)
    (allows : allowed order.orderId .readyForPickup)
    (ran : readyPreparation order current actorId key time .readyForPickup s = .ok (view, t)) :
    OrderEffect allowed s t := by
  rw [readyPreparation, bind_ok] at ran
  obtain ⟨version, moved, moves, ran⟩ := ran
  obtain ⟨row, key, found, state, rfl, orders, rows, rfl⟩ := moveOrder_ok moves
  rw [bind_ok] at ran
  obtain ⟨⟨⟩, updated, updates, ran⟩ := ran
  obtain ⟨old, prepared, percent, unready, valid, preparations, replaced, rfl⟩ :=
    updatePreparation_ok updates
  have about_old : old.orderId = order.orderId := Table.key_of_find prepared
  rw [← key] at prepared
  rw [bind_ok] at ran
  obtain ⟨⟨⟩, appended, appends, ran⟩ := ran
  obtain ⟨short, entry, about, from_, to_, counted, valid_entry, rfl⟩ :=
    appendPreparation_ok appends
  have finished := finishPreparation_ok ran
  have replaced' := (congrArg Table.rows finished.preparations).trans replaced
  refine .moved row .readyForPickup entry found ?_ finished.lines finished.timeline
    ⟨about.trans key.symm, from_.trans (congrArg some state.symm), to_, counted,
      valid_entry (Nat.succ_pos _)⟩
    (.readied old _ _ replaced' finished.preparationEvents (state.trans preparing) prepared
      (about_old.trans key.symm) valid rfl rfl ⟨key.symm, rfl, rfl, ?_⟩ finished.rejections)
    (key ▸ allows)
  · rw [finished.orders]
    exact rows
  · exact ⟨Nat.succ_pos _, valid.2.1, fun _ absent => (by cases absent), short.1, short.2⟩

end

section

theorem decideOrder_effect {order : DecideOrder} {view : MerchantOrderView}
    (ran : decideOrder config context order s = .ok (view, t)) :
    OrderEffect (allowedBy (.decision order)) s t := by
  simp only [decideOrder, requireOwned, bind_assoc, ↓steps_ok] at ran
  obtain ⟨_, _, merchant, _, _, ran⟩ := ran
  rw [bind_ok] at ran
  obtain ⟨⟨version, created⟩, reserved, reserves, ran⟩ := ran
  have same := actions_same reserves
  rw [ite_ok] at ran
  obtain ⟨_, ran⟩ | ⟨_, ran⟩ := ran
  · obtain ⟨existing, read, answered⟩ := (getView_readOnly).bind_ok ran
    obtain ⟨_, rfl⟩ := demand_ok.1 answered
    exact .quiet same
  · replace ran := (getOrder_readOnly).bind_ok ran
    obtain ⟨found, read, ran⟩ := ran
    simp only [↓steps_ok, Option.filter_eq_some_iff] at ran
    obtain ⟨old, ⟨rfl, _⟩, _, ran⟩ := ran
    obtain ⟨named, _⟩ := getOrder_ok read
    rw [bind_ok] at ran
    obtain ⟨target, moving, decides, ran⟩ := ran
    obtain ⟨waiting, rfl, rfl⟩ := transition_ok decides
    have decided : decisionTarget order.action = .accepted ∨
        decisionTarget order.action = .rejected := by
      cases order.action with
      | accept => exact .inl rfl
      | reject => exact .inr rfl
    exact (transitionOrder_effect waiting decided ⟨named, rfl⟩ ran).of_same same

theorem targetState_ok {old : OrderState} {action : PreparationAction}
    (ran : targetState old action s = .ok (target, t)) :
    (action = .start → old = .accepted) ∧ (action ≠ .start → old = .preparing) ∧
      (action = .markReady → target = .readyForPickup) ∧ t = s := by
  unfold targetState at ran
  split at ran
  · obtain ⟨rfl, rfl⟩ := pure_ok.1 ran
    exact ⟨fun _ => rfl, fun other => (other rfl).elim, fun other => (by cases other), rfl⟩
  · obtain ⟨rfl, rfl⟩ := pure_ok.1 ran
    exact ⟨fun other => (by cases other), fun _ => rfl, fun other => (by cases other), rfl⟩
  · obtain ⟨rfl, rfl⟩ := pure_ok.1 ran
    exact ⟨fun other => (by cases other), fun _ => rfl, fun _ => rfl, rfl⟩
  · exact (throw_ok.1 ran).elim

variable {view : PreparationView} {order : PrepareOrder} {orderId : Uuid}
  {lines basket : List BasketLine}

theorem proceedPreparation_effect (ran : proceedPreparation context order s = .ok (view, t)) :
    OrderEffect (allowedBy (.preparation order)) s t := by
  rw [proceedPreparation] at ran
  replace ran := (getOrder_readOnly).bind_ok ran
  obtain ⟨found, read, ran⟩ := ran
  simp only [↓steps_ok, Option.filter_eq_some_iff] at ran
  obtain ⟨old, ⟨rfl, _⟩, _, ran⟩ := ran
  obtain ⟨named, _⟩ := getOrder_ok read
  rw [bind_ok] at ran
  obtain ⟨target, targeted, targets, ran⟩ := ran
  obtain ⟨starting, going, readying, rfl⟩ := targetState_ok targets
  rw [bind_ok] at ran
  obtain ⟨record, recorded, records, ran⟩ := ran
  obtain ⟨_, _, rfl⟩ := getRecord_ok records
  cases action : order.action with
  | start =>
    simp only [action, ↓require_bind_ok] at ran
    exact startPreparation_effect (starting action) ⟨named, .inl rfl⟩ ran.2
  | updateProgress =>
    simp only [action, validateProgress, bind_assoc, pure_bind, ↓steps_ok] at ran
    obtain ⟨preparation, _, ⟨_, most⟩, more, ran⟩ := ran
    refine progressPreparation_effect (going ?_) more (by omega) ⟨named, .inl rfl⟩ ran
    rw [action]
    decide
  | markReady =>
    simp only [action, ↓demand_bind_ok] at ran
    obtain ⟨preparation, _, ran⟩ := ran
    rw [readying action] at ran
    refine readyPreparation_effect (going ?_) ⟨named, .inr rfl⟩ ran
    rw [action]
    decide

theorem prepareOrder_effect (ran : prepareOrder config context order s = .ok (view, t)) :
    OrderEffect (allowedBy (.preparation order)) s t := by
  simp only [prepareOrder, checkPreparation, requireOwned, bind_assoc, ↓steps_ok] at ran
  obtain ⟨_, _, _, _, _, _, merchant, _, _, ran⟩ := ran
  rw [bind_ok] at ran
  obtain ⟨⟨version, created⟩, reserved, reserves, ran⟩ := ran
  have same := preparationActions_same reserves
  rw [ite_ok] at ran
  obtain ⟨_, ran⟩ | ⟨_, ran⟩ := ran
  · obtain ⟨existing, read, answered⟩ := (getPreparationView_readOnly).bind_ok ran
    obtain ⟨_, rfl⟩ := demand_ok.1 answered
    exact .quiet same
  · exact (proceedPreparation_effect ran).of_same same

def Reserved (row : OrderReservation) (s t : OrderStore) (orderId : Uuid) : Prop :=
  (∀ name other, s.reservations.find name = some other → t.reservations.find name = some other) ∧
  ∃ found ∈ t.reservations.find row.name,
    found.requestHash = row.requestHash ∧ found.orderId = orderId

theorem reserveOrder_ok {row : OrderReservation} {created : Bool}
    (ran : reserveOrder row s = .ok ((orderId, created), t)) :
    SameHistory s t ∧ Reserved row s t orderId := by
  unfold reserveOrder at ran
  rw [get_bind_ok] at ran
  cases found : s.reservations.find row.name with
  | some existing =>
    simp only [found, ↓steps_ok, Prod.mk.injEq] at ran
    obtain ⟨same, ⟨rfl, _⟩, rfl⟩ := ran
    exact ⟨.refl _, fun _ _ kept => kept, existing, found, same, rfl⟩
  | none =>
    simp only [found, ↓steps_ok, Prod.mk.injEq, Table.insert?_eq_some] at ran
    obtain ⟨reservations, inserted, ⟨rfl, _⟩, rfl⟩ := ran
    refine ⟨⟨rfl, rfl, rfl, rfl, rfl, rfl⟩, fun name other kept => ?_, row,
      Table.find_of_inserted inserted, rfl, rfl⟩
    change reservations.find name = some other
    rw [Table.find_of_rows_append inserted, kept]
    rfl

theorem checkLines_readOnly : ∀ seen, ReadOnly (checkLines seen lines) := by
  induction lines with
  | nil => exact fun _ => .pure
  | cons line rest ih =>
    exact fun seen => .requires <| .requires <| ih _

theorem normalizeBasket_ok (ran : normalizeBasket lines s = .ok (basket, t)) :
    (1 ≤ lines.length ∧ lines.length ≤ 50) ∧ basket = lines ∧ t = s := by
  simp only [normalizeBasket, ↓require_bind_ok] at ran
  obtain ⟨count, ran⟩ := ran
  obtain ⟨_, _, finished⟩ := (checkLines_readOnly []).bind_ok ran
  obtain ⟨rfl, rfl⟩ := pure_ok.1 finished
  exact ⟨count, rfl, rfl⟩

variable {order : CreateOrder} {value : CanonicalOrder}

def Reads (order : CreateOrder) (line : BasketLine) (evidence : OrderLineEvidence) : Prop :=
  ∃ item ∈ order.items line.itemId, item.version = line.observedVersion ∧
    item.basePriceMinor.isSome = true ∧ evidence = lineEvidence item line

theorem orderable_ok {line : BasketLine} {item : OrderableItem}
    (ran : orderable order line s = .ok (item, t)) :
    order.items line.itemId = some item ∧ item.version = line.observedVersion ∧
      item.basePriceMinor.isSome = true ∧ s = t := by
  simp only [orderable, ↓steps_ok, ite_ok, Option.filter_eq_some_iff] at ran
  obtain ⟨read, ⟨found, _⟩, version, _, ⟨_, priced⟩, ran⟩ := ran
  obtain ⟨_, rfl, rfl⟩ | ⟨_, _, _, _, rfl, rfl⟩ := ran
  · exact ⟨found, version, priced, rfl⟩
  · exact ⟨found, version, priced, rfl⟩

theorem orderableItems_ok {items : List OrderableItem}
    (ran : orderableItems order lines s = .ok (items, t)) :
    items.length = lines.length ∧ (∀ evidence ∈ List.zipWith lineEvidence items lines,
        ∃ line ∈ lines, Reads order line evidence) ∧ t = s := by
  induction lines generalizing items s with
  | nil =>
    obtain ⟨rfl, rfl⟩ := pure_ok.1 ran
    exact ⟨rfl, fun _ mem => (by cases mem), rfl⟩
  | cons line rest ih =>
    rw [orderableItems, bind_ok] at ran
    obtain ⟨item, checked, checks, ran⟩ := ran
    obtain ⟨found, version, priced, rfl⟩ := orderable_ok checks
    rw [bind_pure_ok] at ran
    obtain ⟨others, continues, rfl⟩ := ran
    obtain ⟨count, read, rfl⟩ := ih continues
    refine ⟨congrArg (· + 1) count, List.forall_mem_cons.2 ⟨?_, fun evidence mem => ?_⟩, rfl⟩
    · exact ⟨line, List.mem_cons_self, item, found, version, priced, rfl⟩
    · obtain ⟨source, listed, reads⟩ := read evidence mem
      exact ⟨source, List.mem_cons_of_mem _ listed, reads⟩

theorem pricedLines_ok {lines : List OrderLineEvidence}
    (ran : pricedLines order basket s = .ok (lines, t)) :
    lines.length = basket.length ∧ (∀ line ∈ lines, line.Valid) ∧
      (∀ line ∈ lines, ∃ source ∈ basket, Reads order source line) ∧ t = s := by
  rw [pricedLines, bind_ok] at ran
  obtain ⟨items, checked, checks, ran⟩ := ran
  obtain ⟨count, read, rfl⟩ := orderableItems_ok checks
  rw [require_bind_ok, pure_ok] at ran
  obtain ⟨named, rfl, rfl⟩ := ran
  refine ⟨by rw [List.length_zipWith, count, Nat.min_self], fun line mem => ?_, read, rfl⟩
  obtain ⟨version, name⟩ := named line mem
  obtain ⟨source, _, item, _, _, _, rfl⟩ := read line mem
  exact ⟨version, name, source.bounded.1, source.bounded.2.1, source.bounded.2.2⟩

theorem evaluateAvailability_same {evaluationId : Option Uuid}
    (ran : evaluateAvailability context order s = .ok (evaluationId, t)) :
    SameHistory s t ∧ t.reservations = s.reservations := by
  simp only [evaluateAvailability, recordEvaluation, bind_assoc, ite_ok, ↓steps_ok] at ran
  obtain ⟨_, _, rfl⟩ | ⟨_, _, _, _, _, _, _, _, _, _, _, _, _, rfl⟩ := ran
  · exact ⟨.refl _, rfl⟩
  · exact ⟨⟨rfl, rfl, rfl, rfl, rfl, rfl⟩, rfl⟩

def orderFrom (store : OrderStore) (row : OrderRow) : CanonicalOrder where
  orderId := row.orderId
  customerIdentityId := row.customerIdentityId
  merchantId := row.merchantId
  merchantDisplayName := row.merchantDisplayName
  state := row.state
  lines := linesOf store row.orderId
  pricing := row.pricing
  availabilityEvaluationId := row.availabilityEvaluationId
  compositionHash := row.compositionHash
  accessInteractionId := row.accessInteractionId
  evidenceHash := row.evidenceHash
  version := row.version
  createdAt := row.createdAt

theorem findOrder_ok {found : Option CanonicalOrder} (ran : findOrder orderId s = .ok (found, t)) :
    found = (s.orders.find orderId).map (orderFrom s) ∧ s = t := by
  unfold findOrder at ran
  rw [get_bind_ok] at ran
  cases held : s.orders.find orderId with
  | none =>
    rw [held] at ran
    obtain ⟨rfl, rfl⟩ := pure_ok.1 ran
    exact ⟨rfl, rfl⟩
  | some row =>
    simp only [held, ↓steps_ok] at ran
    obtain ⟨_, rfl, rfl⟩ := ran
    obtain rfl : row.orderId = orderId := Table.key_of_find held
    exact ⟨rfl, rfl⟩

def CreateOrder.reservation (config : OrderConfig) (context : CallContext) (order : CreateOrder) :
    OrderReservation :=
  { customerIdentityId := context.subject.identityId, idempotencyKey := context.idempotencyKey
    requestHash := config.hash (.order order.merchantId order.lines order.areaReference
      order.coverageReference order.merchantOpen order.accessInteractionId)
    orderId := order.candidate, createdAt := context.time.instant }

theorem create_ok (ran : create config context order s = .ok (value, t)) :
    ∃ between, SameHistory s between ∧
      Reserved (CreateOrder.reservation config context order) s between value.orderId ∧
      ((between = t ∧ ∃ row ∈ t.orders.rows, value = orderFrom t row) ∨
        ∃ merchant lines evaluationId,
          value = newOrder config context order value.orderId merchant lines evaluationId ∧
          ReadableOrder value.merchantDisplayName value.lines value.version ∧
          (∀ line ∈ lines, ∃ source ∈ order.lines, Reads order source line) ∧
          t.orders.rows = between.orders.rows ++ [CanonicalOrder.row value merchant.version] ∧
          t = { between with
            orders := t.orders
            lines := between.lines ++ lineRows value.orderId value.lines
            timeline := between.timeline ++ [createdEvent value] }) := by
  rw [create, bind_ok] at ran
  obtain ⟨basket, normal, normalizes, ran⟩ := ran
  obtain ⟨count, rfl, rfl⟩ := normalizeBasket_ok normalizes
  rw [bind_ok] at ran
  obtain ⟨⟨orderId, created⟩, reserved, reserves, ran⟩ := ran
  obtain ⟨same, keyed⟩ := reserveOrder_ok reserves
  rw [bind_ok] at ran
  obtain ⟨existing, read, reads, ran⟩ := ran
  obtain ⟨rfl, rfl⟩ := findOrder_ok reads
  rw [whenSome_ok] at ran
  obtain ⟨found, chosen, ran⟩ | ⟨_, ran⟩ := ran
  · obtain ⟨rfl, rfl⟩ := pure_ok.1 ran
    obtain ⟨read, _⟩ := Option.filter_eq_some_iff.1 chosen
    obtain ⟨row, held, rfl⟩ := Option.map_eq_some_iff.1 read
    obtain rfl : row.orderId = orderId := Table.key_of_find held
    exact ⟨reserved, same, keyed, .inl ⟨rfl, row, Table.mem_of_find held, rfl⟩⟩
  · rw [demand_bind_ok] at ran
    obtain ⟨merchant, _, ran⟩ := ran
    rw [bind_ok] at ran
    obtain ⟨lines, priced, prices, ran⟩ := ran
    obtain ⟨long, valid, read, rfl⟩ := pricedLines_ok prices
    rw [bind_ok] at ran
    obtain ⟨evaluationId, evaluated, evaluates, ran⟩ := ran
    obtain ⟨sameEvaluated, reservations⟩ := evaluateAvailability_same evaluates
    simp only [↓steps_ok, insertOrder, Table.insert?_eq_some] at ran
    obtain ⟨name, _, orders, inserted, rfl, rfl⟩ := ran
    refine ⟨evaluated, same.trans sameEvaluated, ?_, .inr ⟨merchant, lines, evaluationId, rfl,
      ⟨name, valid, long ▸ count, Nat.le_refl 1⟩, read, inserted, rfl⟩⟩
    unfold Reserved
    rw [reservations]
    exact keyed

theorem create_effect (ran : create config context order s = .ok (value, t)) :
    OrderEffect (allowedBy (.create order)) s t := by
  obtain ⟨between, same, _, ⟨rfl, _⟩ | ⟨merchant, lines, evaluationId, new, readable, _, inserted,
    rest⟩⟩ := create_ok ran
  · exact .quiet same
  · refine OrderEffect.of_same same (.created value merchant.version ?_ ?_ readable inserted ?_ ?_
      ?_ ?_ ?_)
    any_goals rw [rest]
    all_goals rw [new]; rfl

theorem body_effect {call : OrderCall} (ran : call.body config s = .ok ((), t)) :
    OrderEffect (allowedBy call.command) s t := by
  unfold OrderCall.body at ran
  cases command : call.command with
  | create =>
    rw [command] at ran
    obtain ⟨_, creates, _⟩ := bind_pure_ok.1 ran
    exact create_effect creates
  | decision =>
    rw [command] at ran
    obtain ⟨_, decides, _⟩ := bind_pure_ok.1 ran
    exact decideOrder_effect decides
  | preparation =>
    rw [command] at ran
    obtain ⟨_, prepares, _⟩ := bind_pure_ok.1 ran
    exact prepareOrder_effect prepares

end

end Ayo.MerchantOrders.Effects
