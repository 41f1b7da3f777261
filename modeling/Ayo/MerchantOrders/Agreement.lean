/- digest: When an order and its decision case agree. -/

import Ayo.MerchantOrders.Effects
import Ayo.MerchantOrders.Decisions

namespace Ayo.MerchantOrders.Agreement

open Kernel.UnitOfWork Kernel.KeyedTable Kernel.Ordering Kernel.Run Core.Values Core.Authorization
  Models Repository Application Effects CanonicalPreparation Decisions

def isTaken : OrderState → Bool
  | .accepted => true
  | .preparing => true
  | .readyForPickup => true
  | .waitingForMerchantConfirmation => false
  | .rejected => false

def isRefused : MerchantDecisionState → Bool
  | .rejected => true
  | .expired => true
  | .pending => false
  | .accepted => false

/-- The decision case of an order says nothing else than the order, and preparation is admitted for
orders that are accepted. -/
@[mk_iff]
structure Agreed (store : DecisionStore) : Prop where
  accepted : ∀ row ∈ store.cases.rows, row.state = .accepted →
    ∀ order ∈ store.orders.orders.find row.orderId, order.state ≠ .rejected
  refused : ∀ row ∈ store.cases.rows, isRefused row.state = true →
    ∀ order ∈ store.orders.orders.find row.orderId, isTaken order.state = false
  prepared : ∀ row ∈ store.preparation.cases.rows,
    ∃ order ∈ store.orders.orders.find row.orderId, isTaken order.state = true

instance (store : DecisionStore) : Decidable (Agreed store) :=
  decidable_of_iff _ (agreed_iff store).symm

variable (store : DecisionStore)

/-- A merchant's decision on a waiting order does not go against the order's decision case. -/
def orderAgrees (order : DecideOrder) : Prop :=
  ∀ waiting ∈ store.orders.orders.find order.orderId,
    waiting.state = .waitingForMerchantConfirmation →
      ∀ row ∈ store.cases.rows, row.orderId = order.orderId →
        (order.action = .accept → isRefused row.state = false) ∧
          (order.action = .reject → row.state ≠ .accepted)
deriving Decidable

/-- A decision on a pending case does not go against the case's order. -/
def caseAgrees (input : DecideCase) : Prop :=
  ∀ row ∈ store.cases.find input.decisionCaseId, row.state = .pending →
    ∀ order ∈ store.orders.orders.find row.orderId,
      (input.result = .accepted → order.state ≠ .rejected) ∧
        (input.result = .rejected → isTaken order.state = false)
deriving Decidable

def expiryAgrees (context : DecisionContext) (limit : Int) (locked : List Uuid) : Prop :=
  ∀ row ∈ dueCases store context.time.instant locked (min (max limit 1) 100),
    ∀ order ∈ store.orders.orders.find row.orderId, isTaken order.state = false
deriving Decidable

/-- Preparation is admitted once the order itself is accepted. -/
def preparationAgrees (decisionCaseId : Uuid) : Prop :=
  ∀ row ∈ store.cases.find decisionCaseId, row.state = .accepted →
    ∃ order ∈ store.orders.orders.find row.orderId, isTaken order.state = true
deriving Decidable

/-- What a call is about to decide does not go against what is recorded on the other path. -/
def Agrees : DecisionCall → Prop
  | .order call =>
    match call.command with
    | .decision order => orderAgrees store order
    | _ => True
  | .admission _ _ _ _ => True
  | .decision _ input _ => caseAgrees store input
  | .expiry context limit locked _ => expiryAgrees store context limit locked
  | .preparation _ decisionCaseId => preparationAgrees store decisionCaseId

instance decideAgrees (store : DecisionStore) : ∀ call, Decidable (Agrees store call)
  | .order { context := _, command := .decision order } =>
    inferInstanceAs (Decidable (orderAgrees store order))
  | .order { context := _, command := .create _ }
  | .order { context := _, command := .preparation _ } | .admission _ _ _ _ => .isTrue trivial
  | .decision _ input _ => inferInstanceAs (Decidable (caseAgrees store input))
  | .expiry context limit locked _ =>
    inferInstanceAs (Decidable (expiryAgrees store context limit locked))
  | .preparation _ decisionCaseId =>
    inferInstanceAs (Decidable (preparationAgrees store decisionCaseId))

variable {config : DecisionConfig} {s t : DecisionStore}

theorem agreed_of_orders {command : OrderCommand} {orders : OrderStore}
    (effect : OrderEffect (allowedBy command) s.orders orders) (agreed : Agreed s)
    (agrees : ∀ order, command = .decision order → orderAgrees s order) :
    Agreed { s with orders } := by
  cases effect with
  | quiet same =>
    obtain ⟨accepted, refused, prepared⟩ := agreed
    rw [← same.orders] at accepted refused prepared
    exact ⟨accepted, refused, prepared⟩
  | created value merchantVersion state version readable inserted lines timeline rejections
      preparations events =>
    have finds : ∀ id, ∀ order ∈ orders.orders.find id, order ∈ s.orders.orders.find id ∨
          order.state = .waitingForMerchantConfirmation := by
      intro id order found
      rw [Table.find_of_rows_append inserted] at found
      cases old : s.orders.orders.find id with
      | some existing =>
        rw [old] at found
        exact .inl found
      | none =>
        rw [old, Option.none_or] at found
        split at found
        · cases found
          exact .inr state
        · cases found
    refine ⟨fun row held decided order found => ?_, fun row held decided order found => ?_,
      fun row held => ?_⟩
    · obtain old | waiting := finds _ order found
      · exact agreed.accepted row held decided order old
      · rw [waiting]
        decide
    · obtain old | waiting := finds _ order found
      · exact agreed.refused row held decided order old
      · rw [waiting]
        rfl
    · obtain ⟨order, found, taken⟩ := agreed.prepared row held
      refine ⟨order, ?_, taken⟩
      show orders.orders.find row.orderId = some order
      rw [Table.find_of_rows_append inserted, found]
      rfl
  | moved row target event found replaced lines timeline named detail allows =>
    have finds : ∀ id, ∀ order ∈ orders.orders.find id,
        (id = row.orderId ∧ order.state = target) ∨ order ∈ s.orders.orders.find id := by
      intro id order held
      rw [Table.find_of_rows_replaced replaced] at held
      split at held
      · rename_i key
        have key : id = row.orderId := key
        rw [key, found] at held
        cases held
        exact .inl ⟨key, rfl⟩
      · exact .inr held
    -- What the case of the moved order may be, by the state that the order moves to.
    have meets : ∀ other ∈ s.cases.rows, other.orderId = row.orderId →
        (other.state = .accepted → target ≠ .rejected) ∧
          (isRefused other.state = true → isTaken target = false) := by
      intro other held about
      have on_case : ∀ order, command = .decision order → row.orderId = order.orderId →
          row.state = .waitingForMerchantConfirmation →
          (order.action = .accept → isRefused other.state = false) ∧
            (order.action = .reject → other.state ≠ .accepted) := by
        intro order is_decision same waiting
        exact agrees order is_decision row (same ▸ found) waiting other held (about.trans same)
      have of_taken : isTaken row.state = true → isRefused other.state = true →
          isTaken target = false := by
        intro taken refused
        have untaken := agreed.refused other held refused row (about ▸ found)
        rw [taken] at untaken
        cases untaken
      cases command with
      | create => exact allows.elim
      | decision order =>
        obtain ⟨same, target_eq⟩ := allows
        cases action : order.action with
        | accept =>
          rw [action] at target_eq
          subst target_eq
          cases detail with
          | accepted waiting =>
            have unrefused := (on_case order rfl same waiting).1 action
            refine ⟨fun _ => (by decide), fun refused => ?_⟩
            rw [unrefused] at refused
            cases refused
        | reject =>
          rw [action] at target_eq
          subst target_eq
          cases detail with
          | rejected _ waiting =>
            exact ⟨fun decided => absurd decided ((on_case order rfl same waiting).2 action),
              fun _ => rfl⟩
      | preparation =>
        obtain ⟨_, rfl | rfl⟩ := allows
        · refine ⟨fun _ => (by decide), of_taken ?_⟩
          cases detail with
          | started _ _ _ _ from_ => rw [from_]; rfl
          | progressed _ _ _ _ _ from_ => rw [from_]; rfl
        · refine ⟨fun _ => (by decide), of_taken ?_⟩
          cases detail with
          | readied _ _ _ _ _ from_ => rw [from_]; rfl
    refine ⟨fun other held decided order read => ?_, fun other held decided order read => ?_,
      fun other held => ?_⟩
    · obtain ⟨about, state⟩ | old := finds _ order read
      · rw [state]
        exact (meets other held about).1 decided
      · exact agreed.accepted other held decided order old
    · obtain ⟨about, state⟩ | old := finds _ order read
      · rw [state]
        exact (meets other held about).2 decided
      · exact agreed.refused other held decided order old
    · obtain ⟨order, old, taken⟩ := agreed.prepared other held
      by_cases about : other.orderId = row.orderId
      · rw [about, found] at old
        cases old
        refine ⟨{ row with state := target, version := row.version + 1 }, ?_, ?_⟩
        · show orders.orders.find other.orderId = _
          have key : other.orderId =
              Row.key { row with state := target, version := row.version + 1 } := about
          rw [Table.find_of_rows_replaced replaced, if_pos key, about, found]
          rfl
        · show isTaken target = true
          cases detail with
          | accepted => rfl
          | rejected _ from_ => rw [from_] at taken; cases taken
          | started => rfl
          | progressed => rfl
          | readied => rfl
      · refine ⟨order, ?_, taken⟩
        show orders.orders.find other.orderId = some order
        have key : ¬ other.orderId =
            Row.key { row with state := target, version := row.version + 1 } := about
        rw [Table.find_of_rows_replaced replaced, if_neg key]
        exact old

section

variable {context : DecisionContext} {first second third : DecisionStore}
  {row old : MerchantDecisionCase} {key : Option String} {auditId : Uuid} {action : String}
  {instant : Instant} {ids : List Uuid} {draws : Uuid → EvidenceDraws}

structure Apart (s t : DecisionStore) : Prop where
  orders : t.orders = s.orders
  preparation : t.preparation = s.preparation

theorem Apart.refl (store : DecisionStore) : Apart store store := ⟨rfl, rfl⟩

theorem Apart.trans (earlier : Apart first second)
    (later : Apart second third) : Apart first third :=
  ⟨later.orders.trans earlier.orders, later.preparation.trans earlier.preparation⟩

theorem appendDecisionAudit_ok {actor : PersistenceKernel.Audit.ActorType}
    {actorId : Option Uuid} {metadata : PersistenceKernel.Audit.SafeAuditMetadata}
    (ran : appendDecisionAudit context auditId actor actorId action row metadata key s =
      .ok ((), t)) : Apart s t ∧ t.cases = s.cases := by
  obtain ⟨_, ran⟩ := require_bind_ok.1 ran
  obtain ⟨event, appends, _⟩ := bind_pure_ok.1 ran
  obtain ⟨_, _, rfl⟩ := within_ok.1 appends
  exact ⟨⟨rfl, rfl⟩, rfl⟩

theorem terminalDecision_ok {updated : MerchantDecisionCase}
    {evidence : MerchantDecisionEvidence} {idempotency : Option (Uuid × String)}
    (ran : terminalDecision old evidence idempotency s = .ok (updated, t)) :
    Apart s t ∧ ∃ row, s.cases.find old.decisionCaseId = some row ∧ row.state = .pending ∧
      t.cases.rows = s.cases.replaced (row.decided evidence.result evidence.decidedAt) := by
  simp only [terminalDecision, ↓steps_ok, Option.filter_eq_some_iff, decide_eq_true_eq,
    Table.replace?_eq_some] at ran
  obtain ⟨row, ⟨found, pending, _⟩, cases, rows, _, _, _, _, _, rfl⟩ := ran
  exact ⟨⟨rfl, rfl⟩, row, found, pending, rows⟩

theorem decisionTransition_ok {target result : MerchantDecisionState} {time : Instant}
    (ran : decisionTransition old target time s = .ok (result, t)) : result = target ∧ t = s := by
  simp only [decisionTransition, ↓steps_ok, ite_ok] at ran
  obtain ⟨_, _, ⟨_, _, rfl, rfl⟩ | ⟨_, _, rfl, rfl⟩⟩ := ran
  · exact ⟨rfl, rfl⟩
  · exact ⟨rfl, rfl⟩

theorem checkInstant_ok (ran : checkInstant context s = .ok (instant, t)) :
    instant = context.time.instant ∧ t = s := by
  simp only [checkInstant, ↓steps_ok] at ran
  obtain ⟨_, rfl, rfl⟩ := ran
  exact ⟨rfl, rfl⟩

theorem admitDecision_effect {orderId location : Uuid}
    (ran : admitDecision config context orderId location auditId s = .ok (row, t)) :
    Apart s t ∧ ∀ other ∈ t.cases.rows, other ∈ s.cases.rows ∨ other.state = .pending := by
  rw [admitDecision, bind_ok] at ran
  obtain ⟨instant, checked, checks, ran⟩ := ran
  obtain ⟨rfl, rfl⟩ := checkInstant_ok checks
  simp only [↓hasPermission_bind_ok, ↓require_bind_ok] at ran
  obtain ⟨_, _, ran⟩ := ran
  rw [bind_ok] at ran
  obtain ⟨found, _, reads, ran⟩ := ran
  obtain ⟨_, read, rfl⟩ := within_ok.1 reads
  obtain rfl := getOrder_readOnly _ _ _ read
  simp only [↓steps_ok] at ran
  obtain ⟨order, _, _, ran⟩ := ran
  rw [bind_ok] at ran
  obtain ⟨result, inserted, admits, ran⟩ := ran
  rw [bind_pure_ok] at ran
  obtain ⟨⟨⟩, audits, _⟩ := ran
  obtain ⟨apart, cases⟩ := appendDecisionAudit_ok audits
  rw [cases]
  simp only [admitDecisionCase, ↓get_bind_ok] at admits
  cases standing : checked.cases.rows.find? fun row => row.orderId = order.orderId with
  | some existing =>
    simp only [standing, pure_ok] at admits
    obtain ⟨_, rfl⟩ := admits
    exact ⟨⟨apart.orders, apart.preparation⟩, fun other held => .inl held⟩
  | none =>
    simp only [standing, ↓steps_ok, Table.insert?_eq_some] at admits
    obtain ⟨table, rows, _, rfl⟩ := admits
    refine ⟨⟨apart.orders, apart.preparation⟩, fun other held => ?_⟩
    replace held : other ∈ table.rows := held
    rw [rows, List.mem_append, List.mem_singleton] at held
    exact held.imp_right fun new => by rw [new]

theorem decideCase_effect {input : DecideCase} {draws : EvidenceDraws}
    (ran : decideCase config context input draws s = .ok (row, t)) :
    Apart s t ∧ (input.result = .accepted ∨ input.result = .rejected) ∧
      ∀ other ∈ t.cases.rows, other ∈ s.cases.rows ∨
        (other.state = input.result ∧ ∃ old ∈ s.cases.find input.decisionCaseId,
          old.state = .pending ∧ old.orderId = other.orderId) := by
  simp only [decideCase, ↓require_bind_ok] at ran
  obtain ⟨result, _, ran⟩ := ran
  rw [bind_ok] at ran
  obtain ⟨instant, checked, checks, ran⟩ := ran
  obtain ⟨rfl, rfl⟩ := checkInstant_ok checks
  rw [bind_ok] at ran
  obtain ⟨⟨previous, created⟩, reserved, reserves, ran⟩ := ran
  have unwritten : Apart checked reserved ∧ reserved.cases = checked.cases := by
    simp only [reserveDecision, ↓get_bind_ok] at reserves
    cases standing : checked.reservations.find
        (input.reservation config context context.time.instant).name with
    | some found =>
      simp only [standing, ↓steps_ok] at reserves
      obtain ⟨_, _, rfl⟩ := reserves
      exact ⟨.refl _, rfl⟩
    | none =>
      simp only [standing, ↓steps_ok] at reserves
      obtain ⟨_, _, _, rfl⟩ := reserves
      exact ⟨⟨rfl, rfl⟩, rfl⟩
  obtain ⟨apart, same⟩ := unwritten
  rw [get_bind_ok, ite_ok] at ran
  obtain ⟨_, ran⟩ | ⟨_, ran⟩ := ran
  · obtain ⟨_, rfl⟩ := demand_ok.1 ran
    exact ⟨apart, result, fun other held => .inl (same ▸ held)⟩
  · simp only [↓steps_ok] at ran
    obtain ⟨stored_case, found, _, merchant, _, ran⟩ := ran
    rw [bind_ok] at ran
    obtain ⟨basis, _, authority, ran⟩ := ran
    have reads : ReadOnly (decisionAuthority context stored_case merchant) :=
      .ite .pure .demand
    obtain rfl := reads _ _ _ authority
    rw [bind_ok] at ran
    obtain ⟨target, _, moves, ran⟩ := ran
    obtain ⟨rfl, rfl⟩ := decisionTransition_ok moves
    rw [bind_ok] at ran
    obtain ⟨updated, terminal, terminates, ran⟩ := ran
    obtain ⟨written, old, current, pending, rows⟩ := terminalDecision_ok terminates
    rw [bind_pure_ok] at ran
    obtain ⟨⟨⟩, audits, _⟩ := ran
    obtain ⟨logged, cases⟩ := appendDecisionAudit_ok audits
    refine ⟨(apart.trans written).trans logged, result, fun other held => ?_⟩
    rw [cases, rows, Table.mem_replaced] at held
    have named : stored_case.decisionCaseId = input.decisionCaseId := Table.key_of_find found
    rw [named] at current
    obtain ⟨rfl, _⟩ | ⟨kept, _⟩ := held
    · exact .inr ⟨rfl, old, same ▸ current, pending, rfl⟩
    · exact .inl (same ▸ kept)

def Expires (ids : List Uuid) (s t : DecisionStore) : Prop :=
  Apart s t ∧ ∀ row ∈ t.cases.rows, ∃ old ∈ s.cases.rows,
    old.decisionCaseId = row.decisionCaseId ∧ old.orderId = row.orderId ∧
      (row = old ∨ (row.state = .expired ∧ row.decisionCaseId ∈ ids))

theorem Expires.trans (earlier : Expires ids first second) (later : Expires ids second third) :
    Expires ids first third := by
  refine ⟨earlier.1.trans later.1, fun row held => ?_⟩
  obtain ⟨between, held, sameId, sameOrder, kept⟩ := later.2 row held
  obtain ⟨old, held, oldId, oldOrder, earlierKept⟩ := earlier.2 between held
  refine ⟨old, held, oldId.trans sameId, oldOrder.trans sameOrder, ?_⟩
  obtain rfl | expired := kept
  · exact earlierKept
  · exact .inr expired

theorem expireCases_effect {due : List MerchantDecisionCase}
    (among : ∀ row ∈ due, row.decisionCaseId ∈ ids)
    (ran : expireCases context instant draws due s = .ok ((), t)) : Expires ids s t := by
  induction due generalizing s with
  | nil =>
    obtain ⟨_, rfl⟩ := pure_ok.1 ran
    exact ⟨.refl _, fun row held => ⟨row, held, rfl, rfl, .inl rfl⟩⟩
  | cons row rest ih =>
    rw [expireCases, demand_bind_ok] at ran
    obtain ⟨merchant, _, ran⟩ := ran
    rw [bind_ok] at ran
    obtain ⟨target, _, moves, ran⟩ := ran
    obtain ⟨rfl, rfl⟩ := decisionTransition_ok moves
    rw [bind_ok] at ran
    obtain ⟨updated, terminal, terminates, ran⟩ := ran
    obtain ⟨written, old, current, pending, rows⟩ := terminalDecision_ok terminates
    rw [bind_ok] at ran
    obtain ⟨⟨⟩, audited, audits, ran⟩ := ran
    obtain ⟨logged, cases⟩ := appendDecisionAudit_ok audits
    refine Expires.trans ⟨written.trans logged, fun other held => ?_⟩
      (ih (fun later mem => among later (List.mem_cons_of_mem _ mem)) ran)
    rw [cases, rows, Table.mem_replaced] at held
    have named : old.decisionCaseId = row.decisionCaseId := Table.key_of_find current
    obtain ⟨rfl, _⟩ | ⟨kept, _⟩ := held
    · refine ⟨old, Table.mem_of_find current, rfl, rfl, .inr ⟨rfl, ?_⟩⟩
      show old.decisionCaseId ∈ ids
      rw [named]
      exact among row (List.mem_cons_self ..)
    · exact ⟨other, kept, rfl, rfl, .inl rfl⟩

theorem expireDue_effect {limit : Int} {locked : List Uuid} {count : Nat}
    (ran : expireDue context limit locked draws s = .ok (count, t)) :
    Apart s t ∧ ∀ other ∈ t.cases.rows, other ∈ s.cases.rows ∨ (other.state = .expired ∧
        ∃ old ∈ dueCases s context.time.instant locked (min (max limit 1) 100),
          old.orderId = other.orderId) := by
  rw [expireDue, bind_ok] at ran
  obtain ⟨instant, _, checks, ran⟩ := ran
  obtain ⟨rfl, rfl⟩ := checkInstant_ok checks
  simp only [↓hasPermission_bind_ok, ↓steps_ok] at ran
  obtain ⟨_, _, ran⟩ := ran
  rw [bind_pure_ok] at ran
  obtain ⟨⟨⟩, expires, _⟩ := ran
  obtain ⟨apart, kept⟩ := expireCases_effect
    (fun row mem => List.mem_map_of_mem (f := MerchantDecisionCase.decisionCaseId) mem)
    expires
  refine ⟨apart, fun other held => ?_⟩
  obtain ⟨old, oldStored, sameId, sameOrder, rfl | ⟨state, named⟩⟩ := kept other held
  · exact .inl oldStored
  · obtain ⟨due, mem, dueId⟩ := List.mem_map.1 named
    have present : due ∈ _ := (List.mem_filter.1 (mem_orderedBy.1 (List.mem_of_mem_take mem))).1
    obtain rfl := Table.eq_of_key _ present oldStored (dueId.trans sameId.symm)
    exact .inr ⟨state, due, mem, sameOrder⟩

variable {store written : CanonicalStore} {context : CanonicalContext}

variable {row : CanonicalPreparationCase} {decisionCaseId : Uuid}

theorem admitPreparation_cases {config : CanonicalConfig} {decision : Option AcceptedDecision}
    (ran : admitPreparation config context decision store = .ok (row, written)) :
    ∀ other ∈ written.cases.rows, other ∈ store.cases.rows ∨
      ∃ accepted, decision = some accepted ∧ other.orderId = accepted.orderId := by
  intro other held
  obtain same | ⟨accepted, added, decided, about, grown⟩ := admitPreparation_ok ran
  · exact .inl (same ▸ held)
  · rw [grown, List.mem_append, List.mem_singleton] at held
    exact held.imp_right fun new => ⟨accepted, decided, by rw [new, about]⟩

theorem acceptedDecision_eq_some {store : DecisionStore} {accepted : AcceptedDecision}
    (decided : acceptedDecision store decisionCaseId = some accepted) :
    ∃ row ∈ store.cases.find decisionCaseId, row.state = .accepted ∧
      row.orderId = accepted.orderId := by
  obtain ⟨row, found, decided⟩ := Option.bind_eq_some_iff.1 decided
  obtain ⟨found, state⟩ := Option.filter_eq_some_iff.1 found
  obtain ⟨evidence, _, decided⟩ := Option.bind_eq_some_iff.1 decided
  refine ⟨row, found, of_decide_eq_true state, ?_⟩
  split at decided
  · cases decided
    rfl
  · cases decided

theorem admitCanonical_effect {canonical : CanonicalContext}
    (ran : admitCanonical config canonical decisionCaseId s = .ok (row, t)) :
    t.orders = s.orders ∧ t.cases = s.cases ∧
      ∀ other ∈ t.preparation.cases.rows, other ∈ s.preparation.cases.rows ∨
        ∃ decision ∈ s.cases.find decisionCaseId, decision.state = .accepted ∧
          decision.orderId = other.orderId := by
  rw [admitCanonical, get_bind_ok] at ran
  obtain ⟨preparation, prepares, rfl⟩ := within_ok.1 ran
  refine ⟨rfl, rfl, fun other held => ?_⟩
  obtain old | ⟨accepted, decided, about⟩ := admitPreparation_cases prepares other held
  · exact .inl old
  · obtain ⟨decision, found, state, same⟩ := acceptedDecision_eq_some decided
    exact .inr ⟨decision, found, state, same.trans about.symm⟩

end

section

theorem agreed_of_cases (agreed : Agreed s) (apart : Apart s t)
    (agrees : ∀ row ∈ t.cases.rows, row ∈ s.cases.rows ∨ ∀ order ∈ s.orders.orders.find row.orderId,
        (row.state = .accepted → order.state ≠ .rejected) ∧
          (isRefused row.state = true → isTaken order.state = false)) : Agreed t := by
  refine ⟨fun row held decided order found => ?_, fun row held decided order found => ?_,
    fun row held => ?_⟩
  · rw [apart.orders] at found
    obtain old | fits := agrees row held
    · exact agreed.accepted row old decided order found
    · exact (fits order found).1 decided
  · rw [apart.orders] at found
    obtain old | fits := agrees row held
    · exact agreed.refused row old decided order found
    · exact (fits order found).2 decided
  · rw [apart.preparation] at held
    rw [apart.orders]
    exact agreed.prepared row held

variable {call : DecisionCall}

theorem body_agreed (agrees : Agrees s call) (agreed : Agreed s)
    (ran : call.body config s = .ok ((), t)) : Agreed t := by
  cases call with
  | order =>
    rw [DecisionCall.body, within_ok] at ran
    obtain ⟨orders, runs, rfl⟩ := ran
    refine agreed_of_orders (body_effect runs) agreed fun order is_decision => ?_
    simp only [Agrees, is_decision] at agrees
    exact agrees
  | admission =>
    obtain ⟨row, admitted, admits, finished⟩ := bind_ok.1 ran
    obtain ⟨_, rfl⟩ := pure_ok.1 finished
    obtain ⟨apart, kept⟩ := admitDecision_effect admits
    refine agreed_of_cases agreed apart fun other held => (kept other held).imp_right ?_
    intro pending order _
    rw [pending]
    exact ⟨fun state => (by cases state), fun state => (by cases state)⟩
  | decision =>
    obtain ⟨row, decides, _⟩ := bind_pure_ok.1 ran
    obtain ⟨apart, result, kept⟩ := decideCase_effect decides
    refine agreed_of_cases agreed apart fun other held => (kept other held).imp_right ?_
    rintro ⟨state, old, found, pending, about⟩ order read
    obtain ⟨accepts, rejects⟩ := agrees old found pending order (about ▸ read)
    rw [state]
    refine ⟨accepts, fun refused => ?_⟩
    obtain accepted | rejected := result
    · rw [accepted] at refused
      cases refused
    · exact rejects rejected
  | expiry =>
    obtain ⟨count, expires, _⟩ := bind_pure_ok.1 ran
    obtain ⟨apart, kept⟩ := expireDue_effect expires
    refine agreed_of_cases agreed apart fun other held => (kept other held).imp_right ?_
    rintro ⟨state, old, due, about⟩ order read
    rw [state]
    exact ⟨fun accepted => (by cases accepted), fun _ => agrees old due order (about ▸ read)⟩
  | preparation =>
    obtain ⟨row, admits, _⟩ := bind_pure_ok.1 ran
    obtain ⟨orders, cases, kept⟩ := admitCanonical_effect admits
    refine ⟨?_, ?_, fun other held => ?_⟩
    · rw [orders, cases]
      exact agreed.accepted
    · rw [orders, cases]
      exact agreed.refused
    · rw [orders]
      obtain old | ⟨decision, found, accepted, about⟩ := kept other held
      · exact agreed.prepared other old
      · rw [← about]
        exact agrees decision found accepted

theorem step_agreed {store : DecisionStore} (agrees : Agrees store call) (agreed : Agreed store) :
    Agreed (decisionStep config store call) := by
  obtain same | ⟨_, ran⟩ := commit_cases (call.body config) store
  · rw [decisionStep, same]
    exact agreed
  · exact body_agreed agrees agreed ran

theorem initial_agreed : Agreed {} := by
  decide

end

theorem sampleLine_bounded : (1 ≤ 1 ∧ 1 ≤ 99) ∧ ([] : List String).length ≤ 20 ∧
    ∀ text ∈ (none : Option String), text.length ≤ 500 :=
  ⟨⟨le_rfl, by decide⟩, by decide, fun _ mem => nomatch mem⟩

def sampleLine : BasketLine where
  itemId := 31
  quantity := 1
  observedVersion := 1
  variantSelections := []
  modifierSelections := []
  customerInstructions := none
  bounded := sampleLine_bounded

def sampleItem : OrderableItem where
  itemId := 31
  merchantId := 21
  version := 1
  name := "Waffles"
  kind := .product
  categoryId := none
  status := .active
  visibility := .public_
  availability := .available
  basePriceMinor := some 250
  modifierContractVersion := none

def sampleMerchants (merchantId : Uuid) : Option MerchantProfile :=
  if merchantId = 21 then
    some { ownerIdentityId := 11, state := .approved, displayName := "Corner kitchen", version := 1 }
  else none

def sampleOrderConfig : OrderConfig where
  hash payload :=
    match payload with
    | .order .. => "order"
    | .decision .. => "decision"
    | .preparation .. => "preparation"
  pricingHash _ _ := "pricing"
  compositionHash _ := "composition"
  evidenceHash _ _ _ _ _ _ := "evidence"

theorem sampleWindow_bounded : (1 : Int) ≤ 120 ∧ (120 : Int) ≤ 300 := by
  decide

def sampleConfig : DecisionConfig where
  orders := sampleOrderConfig
  policy := { version := 1, maximumWindowSeconds := 120, windowRange := sampleWindow_bounded }
  hash payload := "decision " ++ payload.result.value
  preparation := { policy := { version := 1, maximumEstimateSeconds := 3600 }
                   hash := fun payload => "preparation " ++ payload.action.value }

def sampleContext (identityId : Uuid) (identityType : IdentityType) (key : String) (seconds : Nat) :
    CallContext where
  subject := { identityId, identityType }
  idempotencyKey := key
  time := { instant := seconds * 1000000, offset := some 0 }
  merchants := sampleMerchants

def sampleOrder : DecisionCall :=
  .order
    { context := sampleContext 1 .rider "order-key-0000001" 0
      command := .create
        { merchantId := 21, lines := [sampleLine], areaReference := none
          coverageReference := none, merchantOpen := none, correlationId := none
          requestId := none, accessInteractionId := none, candidate := 41, evaluationId := 51
          items := fun itemId => if itemId = 31 then some sampleItem else none
          modifierCodes := fun _ _ => [], policies := fun _ _ => none } }

def sampleDecision (action : MerchantOrderAction) (text : RejectionText) : DecisionCall :=
  .order
    { context := sampleContext 11 .merchant "action-key-000001" 30
      command := .decision { merchantId := 21, orderId := 41, expectedVersion := 1, action, text } }

def sampleDecisionContext (identityId : Uuid) (identityType : IdentityType) (seconds : Nat) :
    DecisionContext where
  subject := { identityId, identityType }
  time := { instant := seconds * 1000000, offset := some 0 }
  correlationId := 61
  causationId := 62
  caseId := 71
  grants := fun _ _ _ => identityType = .service
  merchants := sampleMerchants
  activeBranches := fun _ _ => true
  staffAuthority := fun _ _ _ => none

def sampleCase : List DecisionCall :=
  [.admission (sampleDecisionContext 12 .service 10) 41 81 91,
   .decision (sampleDecisionContext 11 .merchant 20)
    { decisionCaseId := 71, expectedVersion := 1, result := .accepted, rejectionReason := none
      idempotencyKey := "decide-key-000001" }
    { evidenceId := 92, auditId := 93 }]

def agreeingCalls : List DecisionCall :=
  sampleOrder :: sampleCase ++
    [sampleDecision .accept
      { customerReasonCode := none, customerMessage := none, internalMerchantNote := none },
     .preparation
      { subject := { identityId := 12, identityType := .service }
        time := { instant := 40000000, offset := some 0 }, correlationId := 63, causationId := 64
        caseId := 72, messageId := 94, auditId := 95, grants := fun _ _ _ => true
        merchants := sampleMerchants, staffAuthority := fun _ _ _ _ => none } 71]

def conflictingCalls : List DecisionCall :=
  sampleOrder :: sampleCase ++
    [sampleDecision .reject
      { customerReasonCode := some "kitchen_closed", customerMessage := some "We have closed."
        internalMerchantNote := none }]

/-- While no call decides against what the other path has recorded, the orders and their decision
cases agree in every state of the run. -/
theorem orders_and_cases_agree {calls : List DecisionCall}
    (agreeing : Along (decisionStep config) Agrees {} calls) (n : Nat) :
    Agreed (run (decisionStep config) {} (calls.take n)) := by
  have taken : Along (decisionStep config) Agrees {} (calls.take n) := by
    rw [← List.take_append_drop n calls, along_append] at agreeing
    exact agreeing.1
  exact run_invariant_along (fun _ _ agrees agreed => step_agreed agrees agreed) taken initial_agreed

theorem orders_and_cases_agree_sampleCalls :
    Agreed (run (decisionStep sampleConfig) {} (agreeingCalls.take 5)) :=
  orders_and_cases_agree (by decide +kernel) 5

/-- A case can be accepted and its order rejected afterwards. -/
theorem accepted_case_of_rejected_order :
    ¬ ∀ (config : DecisionConfig) (calls : List DecisionCall),
      Agreed (run (decisionStep config) {} calls) :=
  fun agrees => absurd (agrees sampleConfig conflictingCalls) (by decide +kernel)

end Ayo.MerchantOrders.Agreement
