/- digest: Every approved refund has a permitted approval, and a path of decisions. -/

import Ayo.Refund.CumulativeBound

namespace Ayo.Refund.Approvals

open Kernel.UnitOfWork Kernel.Run Kernel.KeyedTable Kernel.Histories Core.Values Core.Authorization
  Core.Lifecycle
open Payment.Repository (PaymentStore)
open Payment.SingleCapture (sampleConfig captureOnce sampleReads moment)
open Models Repository Application

structure PaidCall where
  payments : PaymentStore
  call : RefundCall

def refundStep (hash : Payload → Digest) (store : RefundStore) (paid : PaidCall) : RefundStore :=
  step hash paid.payments store paid.call

def PastApproval (state : RefundRequestState) : Prop :=
  state = .approved ∨ state = .scheduled ∨ state = .completed

def recordedState? (decision : RefundDecision) : Option RefundRequestState :=
  [.requested, .underReview, .approved, .scheduled, .completed, .rejected].find? fun state =>
    state.value = decision.decisionOutcome

def recordedStates (store : RefundStore) (refundRequestId : Uuid) : List RefundRequestState :=
  (store.decisions.rows.filter fun decision =>
    decision.refundRequestId = refundRequestId).filterMap recordedState?

/-- The call approves a request with an authorization, by a subject who may approve refunds. -/
def Gives (call : RefundCall) (authorization : RefundAuthorization) : Prop :=
  ∃ request, call.command = .approveRequest request ∧
    call.reads.grants call.subject.identityId "refund.approve" request.time = true ∧
    authorization.authorizationId = request.authorizationId ∧
    authorization.refundRequestId = request.refundRequestId ∧
    authorization.authorizedByIdentityId = call.subject.identityId ∧
    authorization.authorityPermission = "refund.approve"

/-- One call of a run gave an authorization and was the one that appended it. -/
def AppendedBy (hash : Payload → Digest) (calls : List PaidCall)
    (authorization : RefundAuthorization) : Prop :=
  ∃ n paid, calls[n]? = some paid ∧ Gives paid.call authorization ∧
    authorization ∉ (run (refundStep hash) {} (calls.take n)).authorizations.rows ∧
    authorization ∈ (run (refundStep hash) {} (calls.take (n + 1))).authorizations.rows

inductive Recording (before : RefundStore) (call : RefundCall) (after : RefundStore) : Prop where
  | idle (requests : after.requests = before.requests)
      (authorizations : after.authorizations = before.authorizations)
      (decisions : ∀ id, recordedStates after id = recordedStates before id)
  | opened (row : RefundRequest) (state : row.state = .requested)
      (requests : after.requests.rows = before.requests.rows ++ [row])
      (authorizations : after.authorizations = before.authorizations)
      (decisions : ∀ id, recordedStates after id =
        recordedStates before id ++ if row.refundRequestId = id then [.requested] else [])
  | moved (current changed : RefundRequest) (stored : current ∈ before.requests.rows)
      (id : changed.refundRequestId = current.refundRequestId)
      (follows : Follows allowedRequestTransitions current.state changed.state)
      (requests : after.requests.rows = before.requests.replaced changed)
      (authorizations : (changed.state ≠ .approved ∧
          after.authorizations = before.authorizations) ∨
        ∃ authorization, Gives call authorization ∧
          authorization.refundRequestId = changed.refundRequestId ∧
          after.authorizations.rows = before.authorizations.rows ++ [authorization])
      (decisions : ∀ id, recordedStates after id =
        recordedStates before id ++
          if changed.refundRequestId = id then [changed.state] else [])

theorem recordedState?_of_value {decision : RefundDecision} {state : RefundRequestState}
    (outcome : decision.decisionOutcome = state.value) : recordedState? decision = some state := by
  unfold recordedState?
  rw [outcome]
  cases state <;> decide

section

variable {hash : Payload → Digest} {reads : RefundReads} {payments : PaymentStore}
  {subject : AuthorizationSubject} {s t : RefundStore} {decision : RefundDecision} {u : Unit}
  {decisionType : RefundDecisionType} {request : AdvanceRequest} {refundRequestId : Uuid}
  {result : RefundRequest} {target : RefundRequestState} {call : RefundCall}

private theorem recordedStates_of_rows
    (rows : t.decisions.rows = s.decisions.rows ++ [decision]) (id : Uuid) :
    recordedStates t id = recordedStates s id ++
      if decision.refundRequestId = id then (recordedState? decision).toList else [] := by
  unfold recordedStates
  rw [rows, List.filter_append, List.filterMap_append]
  congr 1
  by_cases addressed : decision.refundRequestId = id
  · rw [if_pos addressed, List.filter_cons_of_pos (by simpa using addressed)]
    cases records : recordedState? decision <;> simp [records]
  · rw [if_neg addressed, List.filter_cons_of_neg (by simpa using addressed)]
    rfl

private theorem appendDecision_rows (ran : appendDecision decision s = .ok (u, t)) :
    ∃ decisions : Table RefundDecision, decisions.rows = s.decisions.rows ++ [decision] ∧
      t = { s with decisions } := by
  unfold appendDecision at ran
  simp only [↓steps_ok, Table.insert?_eq_some] at ran
  obtain ⟨decisions, rows, rfl⟩ := ran
  exact ⟨decisions, rows, rfl⟩

private theorem recordDecision_rows {outcome : String}
    (ran : recordDecision subject request refundRequestId decisionType outcome s = .ok (u, t)) :
    ∃ decision : RefundDecision, decision.refundRequestId = refundRequestId ∧
      decision.decisionOutcome = outcome ∧ ∃ decisions : Table RefundDecision,
        decisions.rows = s.decisions.rows ++ [decision] ∧ t = { s with decisions } := by
  unfold recordDecision utc at ran
  simp only [bind_assoc, pure_bind, ↓steps_ok] at ran
  obtain ⟨reasonCode, _, _, appended⟩ := ran
  exact ⟨_, rfl, rfl, appendDecision_rows appended⟩

private theorem transitionRequest_moves {correlationId causationId : Uuid} {time : DateTime}
    (ran : transitionRequest refundRequestId target time correlationId causationId s =
      .ok (result, t)) :
    ∃ old, s.requests.find refundRequestId = some old ∧
      result.refundRequestId = old.refundRequestId ∧ result.state = target ∧
      Follows allowedRequestTransitions old.state target ∧
      ∃ (requests : Table RefundRequest) (events : List Event),
        requests.rows = s.requests.replaced result ∧ t = { s with requests, events } := by
  unfold transitionRequest getRequest recordEvent at ran
  simp only [bind_assoc, pure_bind, ↓steps_ok, ↓ensureRequestTransitionAllowed_bind_ok,
    Table.replace?_eq_some, Option.dite_none_right_eq_some, Option.some.injEq] at ran
  obtain ⟨old, found, follows, _, new, ⟨later, built⟩, requests, rows, rfl, rfl⟩ := ran
  subst built
  exact ⟨old, found, rfl, rfl, follows, requests, _, rows, rfl⟩

theorem advance_recording {operation : String} {authorize : RefundTransaction Unit}
    (authorizes : ∀ (s : RefundStore) u t, authorize s = .ok (u, t) →
      (target ≠ .approved ∧ t = s) ∨ ∃ authorization, Gives call authorization ∧
        authorization.refundRequestId = request.refundRequestId ∧
        ∃ authorizations : Table RefundAuthorization,
          authorizations.rows = s.authorizations.rows ++ [authorization] ∧
            t = { s with authorizations })
    (ran : advance hash subject request operation target authorize decisionType target.value
      s = .ok (result, t)) : Recording s call t := by
  unfold advance at ran
  simp only [↓validateIdempotencyKey_bind_ok] at ran
  obtain ⟨_, ran⟩ := ran
  obtain ⟨idempotency, ran⟩ := reserving_ok ran
  obtain ⟨new, _, transitioned, ran⟩ := bind_ok.1 ran
  obtain ⟨old, found, id, state, follows, requests, events, rows, rfl⟩ :=
    transitionRequest_moves transitioned
  obtain ⟨_, _, authorized, ran⟩ := bind_ok.1 ran
  obtain ⟨_, decided, _⟩ := bind_pure_ok.1 ran
  obtain ⟨decision, addressed, outcome, decisions, appended, rfl⟩ := recordDecision_rows decided
  have key : old.refundRequestId = request.refundRequestId := Table.key_of_find found
  have records : recordedState? decision = some new.state :=
    recordedState?_of_value (by rw [outcome, state])
  obtain ⟨apart, rfl⟩ | ⟨authorization, gives, names, authorizations, given, rfl⟩ :=
    authorizes _ _ _ authorized
  · refine .moved old new (Table.mem_of_find found) id (state ▸ follows) rows
      (.inl ⟨state ▸ apart, rfl⟩) fun other => ?_
    rw [recordedStates_of_rows appended, addressed, records]
    rfl
  · refine .moved old new (Table.mem_of_find found) id (state ▸ follows) rows
      (.inr ⟨authorization, gives, names.trans (key.symm.trans id.symm), given⟩) fun other => ?_
    rw [recordedStates_of_rows appended, addressed, records]
    rfl

private theorem linkage_readOnly {request : RequestRefundRequest} :
    ReadOnly (validateLinkage reads payments subject request) :=
  .demands fun _ => .demands fun _ => .requires <| .requires <| .requires <| .requires <|
    .requires <| .requires <| .demands fun _ =>
    .demands fun _ => .requires <| .pure

private theorem createRequest_rows {request : RefundRequest}
    (ran : createRequest request s = .ok (result, t)) :
    result = request ∧ request.state = .requested ∧
      ∃ (requests : Table RefundRequest) (events : List Event),
        requests.rows = s.requests.rows ++ [request] ∧ t = { s with requests, events } := by
  unfold createRequest recordEvent at ran
  simp only [bind_assoc, ↓steps_ok, Table.insert?_eq_some] at ran
  obtain ⟨initial, _, requests, rows, rfl, rfl⟩ := ran
  exact ⟨rfl, initial, requests, _, rows, rfl⟩

theorem requestRefund_recording {request : RequestRefundRequest}
    (ran : requestRefund hash reads payments subject request s = .ok (result, t)) :
    Recording s call t := by
  unfold requestRefund at ran
  simp only [↓guards_ok] at ran
  obtain ⟨_, _, _, _, ran⟩ := ran
  obtain ⟨idempotency, ran⟩ := reserving_ok ran
  simp only [getRequest, bind_assoc, pure_bind, ↓steps_ok, whenSome_ok] at ran
  obtain ⟨_, _, _, rfl⟩ | ⟨_, ran⟩ := ran
  · exact .idle rfl rfl fun _ => rfl
  · obtain ⟨⟨intent, attempt⟩, _, ran⟩ := (linkage_readOnly).bind_ok ran
    obtain ⟨_, _, ran⟩ := (Effects.validateRequestAmount_readOnly).bind_ok ran
    simp only [utc, bind_assoc, pure_bind, ↓steps_ok] at ran
    obtain ⟨amount, _, reasonCode, _, _, ran⟩ := ran
    obtain ⟨created, _, inserted, ran⟩ := bind_ok.1 ran
    obtain ⟨rfl, _, requests, events, rows, rfl⟩ := createRequest_rows inserted
    obtain ⟨_, appended, _⟩ := bind_pure_ok.1 ran
    obtain ⟨decisions, added, rfl⟩ := appendDecision_rows appended
    refine .opened _ rfl rows rfl fun other => ?_
    rw [recordedStates_of_rows added,
      recordedState?_of_value (show _ = RefundRequestState.requested.value from rfl)]
    rfl

private theorem investigateRequest_recording {request : InvestigateRequest}
    (ran : investigateRequest hash reads subject request s = .ok (u, t)) : Recording s call t := by
  unfold investigateRequest at ran
  simp only [↓guards_ok] at ran
  obtain ⟨_, _, _, ran⟩ := ran
  obtain ⟨idempotency, ran⟩ := reserving_ok ran
  simp only [getRequest, appendEvidence, utc, bind_assoc, pure_bind, ↓steps_ok] at ran
  obtain ⟨_, _, _, _, _, _, _, _, evidence, _, decided⟩ := ran
  obtain ⟨decision, _, outcome, decisions, appended, rfl⟩ := recordDecision_rows decided
  refine .idle rfl rfl fun other => ?_
  have none_recorded : recordedState? decision = none := by
    unfold recordedState?
    rw [outcome]
    decide
  rw [recordedStates_of_rows appended, none_recorded, Option.toList_none, ite_self, List.append_nil]
  rfl

end

theorem Recording.of_success {α : Type} {s : RefundStore} {call : RefundCall}
    {body : RefundTransaction α} (ran : ∀ a t, body s = .ok (a, t) → Recording s call t) :
    Recording s call (commit body s) :=
  commit_related (R := fun s => Recording s call) body s (.idle rfl rfl fun _ => rfl) ran

theorem step_recording (hash : Payload → Digest) (store : RefundStore) (paid : PaidCall) :
    Recording store paid.call (refundStep hash store paid) := by
  obtain ⟨payments, reads, subject, command⟩ := paid
  have unauthorized : ∀ target : RefundRequestState, target ≠ .approved → ∀ refundRequestId : Uuid,
      ∀ (s : RefundStore) (u : Unit) t, (pure () : RefundTransaction Unit) s = .ok (u, t) →
        (target ≠ .approved ∧ t = s) ∨ ∃ authorization,
          Gives ⟨reads, subject, command⟩ authorization ∧
          authorization.refundRequestId = refundRequestId ∧
          ∃ authorizations : Table RefundAuthorization,
            authorizations.rows = s.authorizations.rows ++ [authorization] ∧
              t = { s with authorizations } :=
    fun target apart _ s u t ran => .inl ⟨apart, (pure_ok.1 ran).2.symm⟩
  cases command with
  | requestRefund =>
    refine .of_success fun result t ran => ?_
    exact requestRefund_recording ran
  | reviewRequest =>
    refine .of_success fun result t ran => ?_
    unfold reviewRequest at ran
    simp only [↓requirePermission_bind_ok] at ran
    exact advance_recording (unauthorized _ (by decide) _) ran.2.2
  | investigateRequest =>
    refine .of_success fun result t ran => ?_
    exact investigateRequest_recording ran
  | approveRequest request =>
    refine .of_success fun result t ran => ?_
    unfold approveRequest at ran
    simp only [↓requirePermission_bind_ok] at ran
    obtain ⟨_, granted, ran⟩ := ran
    refine advance_recording (fun s u t authorized => .inr ?_) ran
    simp only [utc, appendAuthorization, bind_assoc, pure_bind, ↓steps_ok,
      Table.insert?_eq_some] at authorized
    obtain ⟨reasonCode, _, _, authorizations, rows, rfl⟩ := authorized
    exact ⟨_, ⟨request, rfl, granted, rfl, rfl, rfl, rfl⟩, rfl, authorizations, rows, rfl⟩
  | scheduleRequest =>
    refine .of_success fun result t ran => ?_
    unfold scheduleRequest at ran
    simp only [↓requirePermission_bind_ok] at ran
    exact advance_recording (unauthorized _ (by decide) _) ran.2.2
  | completeRequest =>
    refine .of_success fun result t ran => ?_
    unfold completeRequest at ran
    simp only [↓guards_ok] at ran
    exact advance_recording (unauthorized _ (by decide) _) ran.2.2.2
  | rejectRequest =>
    refine .of_success fun result t ran => ?_
    unfold rejectRequest at ran
    simp only [↓requirePermission_bind_ok] at ran
    exact advance_recording (unauthorized _ (by decide) _) ran.2.2

def Leads (current next : RefundRequestState) : Prop := next ∈ allowedRequestTransitions current

variable {old : RefundRequestState}

theorem pastApproval_of_follows {next : RefundRequestState} (past : PastApproval old)
    (follows : Follows allowedRequestTransitions old next) : PastApproval next := by
  obtain rfl | moves := follows
  · exact past
  · obtain rfl | rfl | rfl := past
    · obtain rfl : next = .scheduled := by simpa [allowedRequestTransitions] using moves
      exact .inr (.inl rfl)
    · obtain rfl : next = .completed := by simpa [allowedRequestTransitions] using moves
      exact .inr (.inr rfl)
    · simp [allowedRequestTransitions] at moves

theorem approved_of_follows {next : RefundRequestState} (unapproved : ¬ PastApproval old)
    (follows : Follows allowedRequestTransitions old next) (past : PastApproval next) :
    next = .approved := by
  obtain rfl | moves := follows
  · exact absurd past unapproved
  · obtain rfl | rfl | rfl := past
    · rfl
    · have approved : old = .approved := by
        cases old <;> simp [allowedRequestTransitions] at moves ⊢
      exact absurd (.inl approved) unapproved
    · have scheduled : old = .scheduled := by
        cases old <;> simp [allowedRequestTransitions] at moves ⊢
      exact absurd (.inr (.inl scheduled)) unapproved

/-- The decisions on a request record a path from `requested` to where it stands, in which a
transition to the current state shows as a state that is recorded again. -/
structure Recorded (store : RefundStore) (request : RefundRequest) : Prop where
  first : (recordedStates store request.refundRequestId).head? = some .requested
  last : (recordedStates store request.refundRequestId).getLast? = some request.state
  lingers : Lingers Leads (recordedStates store request.refundRequestId)

/-- Approvals stand behind the requests, and decisions behind their states. -/
structure Approved (hash : Payload → Digest) (calls : List PaidCall) (store : RefundStore) :
    Prop where
  authorized : ∀ request ∈ store.requests.rows, PastApproval request.state →
    ∃ authorization ∈ store.authorizations.rows,
      authorization.refundRequestId = request.refundRequestId ∧
        AppendedBy hash calls authorization
  recorded : ∀ request ∈ store.requests.rows, Recorded store request
  unrecorded : ∀ id, (∀ request ∈ store.requests.rows, request.refundRequestId ≠ id) →
    recordedStates store id = []

section

variable {hash : Payload → Digest} {calls : List PaidCall} {s t : RefundStore} {new : RefundRequest}

theorem Approved.empty : Approved hash calls {} := by
  refine ⟨?_, ?_, fun _ _ => rfl⟩
  · intro request mem
    cases mem
  · intro request mem
    cases mem

theorem Recorded.moved {old : RefundRequest} (recorded : Recorded s old)
    (id : new.refundRequestId = old.refundRequestId)
    (follows : Follows allowedRequestTransitions old.state new.state)
    (decisions : recordedStates t new.refundRequestId =
      recordedStates s new.refundRequestId ++ [new.state]) :
    Recorded t new := by
  rw [id] at decisions
  refine ⟨?_, ?_, ?_⟩
  · rw [id, decisions, List.head?_append, recorded.first]
    rfl
  · rw [id, decisions, List.getLast?_concat]
  · rw [id, decisions]
    exact recorded.lingers.append recorded.last follows

theorem Recorded.of_same {request : RefundRequest} (recorded : Recorded s request)
    (same : recordedStates t request.refundRequestId =
      recordedStates s request.refundRequestId) : Recorded t request := by
  refine ⟨?_, ?_, ?_⟩
  · rw [same]
    exact recorded.first
  · rw [same]
    exact recorded.last
  · rw [same]
    exact recorded.lingers

private theorem approved_of_opened {row : RefundRequest} (approved : Approved hash calls s)
    (state : row.state = .requested)
    (requests : t.requests.rows = s.requests.rows ++ [row])
    (authorizations : t.authorizations = s.authorizations)
    (decisions : ∀ id, recordedStates t id =
      recordedStates s id ++ if row.refundRequestId = id then [.requested] else []) :
    Approved hash calls t := by
  have new : recordedStates s row.refundRequestId = [] :=
    approved.unrecorded _ fun request held same =>
      Table.apart_of_rows_append requests request held (Row.clash_of_key same)
  refine ⟨?_, ?_, ?_⟩
  · intro request mem past
    rw [authorizations]
    obtain held | rfl := (mem_appended requests).1 mem
    · exact approved.authorized request held past
    · rw [state] at past
      obtain impossible | impossible | impossible := past <;> cases impossible
  · intro request mem
    obtain held | rfl := (mem_appended requests).1 mem
    · refine (approved.recorded request held).of_same ?_
      have other : row.refundRequestId ≠ request.refundRequestId := fun same =>
        Table.apart_of_rows_append requests request held (Row.clash_of_key same.symm)
      rw [decisions, if_neg other, List.append_nil]
    · have states : recordedStates t request.refundRequestId = [.requested] := by
        rw [decisions, new, if_pos rfl, List.nil_append]
      refine ⟨?_, ?_, ?_⟩
      · rw [states]
        rfl
      · rw [states, state]
        rfl
      · rw [states]
        exact .singleton _
  · intro id absent
    rw [requests] at absent
    have other : row.refundRequestId ≠ id := absent row (by simp)
    rw [decisions, if_neg other, List.append_nil]
    exact approved.unrecorded id fun request held =>
      absent request (List.mem_append_left _ held)

private theorem approved_of_moved {current : RefundRequest}
    (approved : Approved hash calls s) (held : current ∈ s.requests.rows)
    (id : new.refundRequestId = current.refundRequestId)
    (follows : Follows allowedRequestTransitions current.state new.state)
    (requests : t.requests.rows = s.requests.replaced new)
    (kept : ∀ authorization ∈ s.authorizations.rows, authorization ∈ t.authorizations.rows)
    (given : new.state = .approved → ∃ authorization ∈ t.authorizations.rows,
      authorization.refundRequestId = new.refundRequestId ∧
        AppendedBy hash calls authorization) (decisions : ∀ id, recordedStates t id =
      recordedStates s id ++ if new.refundRequestId = id then [new.state] else []) :
    Approved hash calls t := by
  refine ⟨?_, ?_, ?_⟩
  · intro request mem past
    rw [requests] at mem
    obtain ⟨rfl, _⟩ | ⟨old, _⟩ := Table.mem_replaced.1 mem
    · by_cases already : PastApproval current.state
      · obtain ⟨authorization, listed, names, appended⟩ :=
          approved.authorized current held already
        exact ⟨authorization, kept _ listed, names.trans id.symm, appended⟩
      · exact given (approved_of_follows already follows past)
    · obtain ⟨authorization, listed, names, appended⟩ := approved.authorized request old past
      exact ⟨authorization, kept _ listed, names, appended⟩
  · intro request mem
    rw [requests] at mem
    obtain ⟨rfl, _⟩ | ⟨old, other⟩ := Table.mem_replaced.1 mem
    · refine (approved.recorded current held).moved id follows ?_
      rw [decisions, if_pos rfl]
    · refine (approved.recorded request old).of_same ?_
      have apart : new.refundRequestId ≠ request.refundRequestId := Ne.symm other
      rw [decisions, if_neg apart, List.append_nil]
  · intro other absent
    rw [requests] at absent
    have apart : new.refundRequestId ≠ other :=
      absent new (Table.mem_replaced.2 (.inl ⟨rfl, current, held, id.symm⟩))
    rw [decisions, if_neg apart, List.append_nil]
    refine approved.unrecorded other fun request listed same => ?_
    by_cases replaced : request.refundRequestId = new.refundRequestId
    · exact apart (replaced.symm.trans same)
    · exact absent request (Table.mem_replaced.2 (.inr ⟨listed, replaced⟩)) same

theorem approved_of_taken {n : Nat} {paid : PaidCall} (taken : calls[n]? = some paid)
    (approved : Approved hash calls (run (refundStep hash) {} (calls.take n))) :
    Approved hash calls (run (refundStep hash) {} (calls.take (n + 1))) := by
  have stepped : run (refundStep hash) {} (calls.take (n + 1)) =
      refundStep hash (run (refundStep hash) {} (calls.take n)) paid := run_take_succ taken
  cases step_recording hash (run (refundStep hash) {} (calls.take n)) paid with
  | idle requests authorizations decisions =>
    rw [← stepped] at requests authorizations decisions
    refine ⟨?_, ?_, ?_⟩
    · rw [requests, authorizations]
      exact approved.authorized
    · rw [requests]
      exact fun request mem => (approved.recorded request mem).of_same (decisions _)
    · intro id absent
      rw [decisions]
      exact approved.unrecorded id (requests ▸ absent)
  | opened row state requests authorizations decisions =>
    rw [← stepped] at requests authorizations decisions
    exact approved_of_opened approved state requests authorizations decisions
  | moved old changed held id follows requests authorizations decisions =>
    rw [← stepped] at requests authorizations decisions
    obtain ⟨apart, same⟩ | ⟨authorization, gives, names, rows⟩ := authorizations
    · exact approved_of_moved approved held id follows requests
        (fun _ listed => same ▸ listed) (fun becomes => absurd becomes apart) decisions
    · have listed : authorization ∈
          (run (refundStep hash) {} (calls.take (n + 1))).authorizations.rows := by
        rw [rows]
        simp
      have new : authorization ∉
          (run (refundStep hash) {} (calls.take n)).authorizations.rows := fun present =>
        Table.apart_of_rows_append rows authorization present (Row.clash_of_key rfl)
      refine approved_of_moved approved held id follows requests (fun other present => ?_)
        (fun _ => ⟨authorization, listed, names, n, paid, taken, gives, new, listed⟩) decisions
      rw [rows]
      exact List.mem_append_left _ present

private theorem pastApproval_of_step {id : Uuid} {store : RefundStore} {paid : PaidCall}
    (past : ∃ row ∈ store.requests.rows, row.refundRequestId = id ∧ PastApproval row.state) :
    ∃ row ∈ (refundStep hash store paid).requests.rows,
      row.refundRequestId = id ∧ PastApproval row.state := by
  obtain ⟨row, mem, key, past⟩ := past
  cases step_recording hash store paid with
  | idle requests =>
    rw [requests]
    exact ⟨row, mem, key, past⟩
  | opened other state requests =>
    rw [requests]
    exact ⟨row, List.mem_append_left _ mem, key, past⟩
  | moved old new held same follows requests =>
    rw [requests]
    by_cases replaced : row.refundRequestId = new.refundRequestId
    · have one : row = old :=
        store.requests.eq_of_key mem held (replaced.trans same)
      subst one
      exact ⟨new, Table.mem_replaced.2 (.inl ⟨rfl, row, mem, replaced⟩),
        replaced.symm.trans key, pastApproval_of_follows past follows⟩
    · exact ⟨row, Table.mem_replaced.2 (.inr ⟨mem, replaced⟩), key, past⟩

end

/-- What stands behind a request at the end of a run: a finance approval once it is past approval,
no approval ever once it is rejected, and decisions that record a path of the lifecycle. -/
structure Backed (hash : Payload → Digest) (calls : List PaidCall) (request : RefundRequest) :
    Prop where
  authorized : PastApproval request.state →
    ∃ authorization ∈ (run (refundStep hash) {} calls).authorizations.rows,
      authorization.refundRequestId = request.refundRequestId ∧
        AppendedBy hash calls authorization
  neverApproved : request.state = .rejected →
    ∀ n, ∀ earlier ∈ (run (refundStep hash) {} (calls.take n)).requests.rows,
      earlier.refundRequestId = request.refundRequestId → ¬ PastApproval earlier.state
  path : (moves (recordedStates (run (refundStep hash) {} calls)
    request.refundRequestId)).IsChain Leads
  start : (moves (recordedStates (run (refundStep hash) {} calls)
    request.refundRequestId)).head? = some .requested
  current : (moves (recordedStates (run (refundStep hash) {} calls)
    request.refundRequestId)).getLast? = some request.state

/-- In every state of the refund store that any calls over any payments lead to, every request is
backed by the approvals and decisions that its state needs. -/
theorem requests_backed (hash : Payload → Digest) (calls : List PaidCall) :
    ∀ request ∈ (run (refundStep hash) {} calls).requests.rows, Backed hash calls request := by
  intro request member
  have approved : Approved hash calls (run (refundStep hash) {} calls) :=
    at_end (invariant_of_taken .empty fun n paid taken holds => approved_of_taken taken holds)
  obtain ⟨first, last, lingers⟩ := approved.recorded request member
  obtain ⟨path, start, current⟩ := moves_of_lingers lingers
  refine ⟨approved.authorized request member, ?_, path, start.trans first, current.trans last⟩
  intro rejected n earlier stored same past
  have stays : ∃ row ∈ (run (refundStep hash) {} calls).requests.rows,
      row.refundRequestId = request.refundRequestId ∧ PastApproval row.state := by
    have preserves : ∀ store paid, (∃ row ∈ store.requests.rows,
        row.refundRequestId = request.refundRequestId ∧ PastApproval row.state) →
        ∃ row ∈ (refundStep hash store paid).requests.rows,
          row.refundRequestId = request.refundRequestId ∧ PastApproval row.state :=
      fun store paid past => pastApproval_of_step past
    have onward := run_invariant preserves (calls.drop n) ⟨earlier, stored, same, past⟩
    rwa [← run_append, List.take_append_drop] at onward
  obtain ⟨row, listed, key, past⟩ := stays
  have one : row = request := Table.eq_of_key _ listed member key
  rw [one, rejected] at past
  obtain impossible | impossible | impossible := past <;> cases impossible

def completedRefund : List PaidCall :=
  let payments := run (Payment.Application.step sampleConfig) {} captureOnce
  let advance (key : String) (decisionId : Uuid) : AdvanceRequest :=
    { refundRequestId := 301, reasonCode := "refund.partial", idempotencyKey := key,
      correlationId := 51, time := moment 300, decisionId }
  let called (subject : AuthorizationSubject) (command : RefundCommand) : PaidCall :=
    { payments, call :=
        { reads :=
            { grants := sampleReads.grants, calculations := sampleReads.calculations,
              journals := sampleReads.journals },
          subject, command } }
  [called ⟨1, .rider⟩ (.requestRefund
     { rideId := 10, fareCalculationId := 20, paymentIntentId := 100, paymentAttemptId := 101,
       ledgerJournalId := 30, refundType := .partialRefund, amountMinor := 250,
       reasonCode := "refund.partial", idempotencyKey := "refund-request-0001",
       correlationId := 51, causationId := 51, time := moment 200, candidateId := 301,
       decisionId := 401 }),
   called ⟨5, .staff⟩ (.reviewRequest (advance "refund-review-00001" 402)),
   called ⟨6, .staff⟩ (.approveRequest
     { toAdvanceRequest := advance "refund-approve-0001" 403, authorizationId := 501 }),
   called ⟨7, .staff⟩ (.scheduleRequest (advance "refund-schedule-001" 404)),
   called ⟨8, .service⟩ (.completeRequest (advance "refund-complete-001" 405))]

theorem completed_refund_backed :
    ∃ request ∈ (run (refundStep sampleConfig.hash) {} completedRefund).requests.rows,
      request.state = .completed ∧ Backed sampleConfig.hash completedRefund request := by
  have states : (run (refundStep sampleConfig.hash) {} completedRefund).requests.rows.map
      RefundRequest.state = [.completed] := by
    decide +kernel
  have completed : RefundRequestState.completed ∈
      (run (refundStep sampleConfig.hash) {} completedRefund).requests.rows.map
        RefundRequest.state := by
    rw [states]
    exact List.mem_singleton_self _
  obtain ⟨request, member, state⟩ := List.mem_map.1 completed
  exact ⟨request, member, state,
    requests_backed sampleConfig.hash completedRefund request member⟩

end Ayo.Refund.Approvals
