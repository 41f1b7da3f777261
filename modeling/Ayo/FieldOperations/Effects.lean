/- digest: What one command of field operations may change. -/

import Ayo.FieldOperations.Application

namespace Ayo.FieldOperations.Effects

open Kernel.UnitOfWork Kernel.KeyedTable Kernel.Ordering Kernel.Related Core.Values
  Core.Authorization Models Engine Repository Application

def KeepsPartners (s t : FieldStore) : Prop :=
  ∀ partner ∈ s.partners.rows, ∃ other ∈ t.partners.rows,
    other.partnerId = partner.partnerId ∧ other.identityId = partner.identityId

/-- Cases, evidence and activities stay, and partners keep their identities. -/
structure Quiet (s t : FieldStore) : Prop where
  cases : t.cases = s.cases
  evidence : t.evidence = s.evidence
  activities : t.activities = s.activities
  partners : KeepsPartners s t

theorem KeepsPartners.of_same {s t : FieldStore} (same : t.partners = s.partners) :
    KeepsPartners s t :=
  fun partner mem => ⟨partner, same ▸ mem, rfl, rfl⟩

instance : IsPreorder FieldStore Quiet where
  refl _ := ⟨rfl, rfl, rfl, .of_same rfl⟩
  trans := by
    intro first second third earlier later
    refine ⟨later.cases.trans earlier.cases, later.evidence.trans earlier.evidence,
      later.activities.trans earlier.activities, ?_⟩
    intro partner member
    obtain ⟨middle, between, id, identity⟩ := earlier.partners partner member
    obtain ⟨other, last, sameId, sameIdentity⟩ := later.partners middle between
    exact ⟨other, last, sameId.trans id, sameIdentity.trans identity⟩

section

variable {α β : Type} {s t : FieldStore} {config : FieldConfig} {call : Call} {operation : String}
  {candidate : Uuid}

theorem query_bind_ok {select : FieldStore → α} {f : α → FieldTransaction β} {b : β} :
    (query select >>= f) s = .ok (b, t) ↔ f (select s) s = .ok (b, t) := by
  simp only [query, bind_assoc, pure_bind, get_bind_ok]

theorem query_quiet {select : FieldStore → α} : Relates Quiet (query select) :=
  .of_readOnly (.bind .get fun _ => .pure)

theorem reserve_ok {payload : Payload} {reference : Uuid}
    (ran : reserve config call operation payload candidate s = .ok (reference, t)) :
    reference = canonicalReference s.idempotency call.subject.identityId operation
        call.idempotencyKey candidate ∧
      ∃ idempotency, t = { s with idempotency } := by
  unfold Application.reserve Repository.reserve at ran
  obtain ⟨-, ran⟩ := validateIdempotencyKey_bind_ok.1 ran
  obtain ⟨idempotency, reserved, rfl⟩ := within_ok.1 ran
  exact ⟨eq_canonicalReference reserved, idempotency, rfl⟩

theorem reserve_quiet {payload : Payload} :
    Relates Quiet (reserve config call operation payload candidate) := by
  intro s reference t ran
  obtain ⟨-, idempotency, rfl⟩ := reserve_ok ran
  exact ⟨rfl, rfl, rfl, .of_same rfl⟩

theorem permission_quiet {code : String} : Relates Quiet (permission call code) :=
  .of_readOnly requirePermission_readOnly

theorem whenSome_pure_quiet {existing : Option α} {absent : FieldTransaction α}
    (quiet : Relates Quiet absent) : Relates Quiet (whenSome existing pure absent) :=
  .whenSome (fun _ => .pure) quiet

end

section

variable (config : FieldConfig) (call : Call)

private theorem insertPartner_quiet {value : FieldPartner} :
    Relates Quiet (Repository.createPartner value) := by
  intro s returned t ran
  simp only [Repository.createPartner, steps_ok, Table.insert?_eq_some] at ran
  obtain ⟨partners, rows, -, rfl⟩ := ran
  refine ⟨rfl, rfl, rfl, fun partner mem => ⟨partner, ?_, rfl, rfl⟩⟩
  rw [rows]
  exact List.mem_append_left _ mem

private theorem updateStatus_quiet {old : FieldPartner} {expected : Nat}
    {status : PartnerStatus} {verificationStatus : VerificationStatus} {time : Instant} :
    Relates Quiet (Repository.updatePartnerStatus old expected status verificationStatus time) := by
  intro s returned t ran
  simp only [Repository.updatePartnerStatus, steps_ok, Table.replace?_eq_some] at ran
  obtain ⟨held, chosen, partners, rows, -, rfl⟩ := ran
  obtain ⟨found, -⟩ := Option.filter_eq_some_iff.1 chosen
  refine ⟨rfl, rfl, rfl, fun partner mem => ?_⟩
  by_cases own : partner.partnerId = held.partnerId
  · obtain rfl := Table.eq_of_key _ mem (Table.mem_of_find found) own
    refine ⟨{ partner with
      status, verificationStatus, version := partner.version + 1, updatedAt := time }, ?_, rfl, rfl⟩
    rw [rows]
    exact Table.mem_replaced.2 (.inl ⟨rfl, partner, mem, rfl⟩)
  · refine ⟨partner, ?_, rfl, rfl⟩
    rw [rows]
    exact Table.mem_replaced.2 (.inr ⟨mem, own⟩)

theorem createPartner_quiet (command : CreatePartner) :
    Relates Quiet (createPartner config call command) :=
  .bind permission_quiet fun _ => .bind reserve_quiet fun _ =>
    .bind query_quiet fun _ => whenSome_pure_quiet <| .demands fun _ => insertPartner_quiet

theorem createRole_quiet (command : CreateRole) :
    Relates Quiet (createRole config call command) := by
  refine .bind permission_quiet fun _ => .bind reserve_quiet fun _ => ?_
  refine .bind query_quiet fun _ => whenSome_pure_quiet ?_
  refine .demands fun _ => .demands fun _ => ?_
  intro s returned t ran
  simp only [Repository.createRole, steps_ok] at ran
  obtain ⟨roles, -, -, rfl⟩ := ran
  exact ⟨rfl, rfl, rfl, .of_same rfl⟩

theorem updatePartnerStatus_quiet (command : UpdatePartnerStatus) :
    Relates Quiet (updatePartnerStatus config call command) :=
  .bind permission_quiet fun _ => .bind query_quiet fun _ =>
    .demands fun _ => .bind reserve_quiet fun _ =>
      .ite (.requires <| .pure) updateStatus_quiet

theorem createTerritory_quiet (command : CreateTerritory) :
    Relates Quiet (createTerritory config call command) := by
  refine .bind permission_quiet fun _ => .bind reserve_quiet fun _ => ?_
  refine .bind query_quiet fun _ => whenSome_pure_quiet ?_
  refine .demands fun _ => .demands fun _ => .demands fun _ => ?_
  refine .demands fun _ => .demands fun _ => ?_
  intro s returned t ran
  simp only [Repository.createTerritory, steps_ok] at ran
  obtain ⟨territories, -, -, rfl⟩ := ran
  exact ⟨rfl, rfl, rfl, .of_same rfl⟩

theorem assignPartner_quiet (command : AssignPartner) :
    Relates Quiet (assignPartner config call command) := by
  refine .bind permission_quiet fun _ => .bind query_quiet fun _ => ?_
  refine .bind query_quiet fun _ => .bind query_quiet fun _ => .requires ?_
  refine .bind reserve_quiet fun _ => .bind query_quiet fun _ => ?_
  refine whenSome_pure_quiet (.demands fun _ => ?_)
  intro s returned t ran
  simp only [createAssignment, steps_ok] at ran
  obtain ⟨assignments, -, -, rfl⟩ := ran
  exact ⟨rfl, rfl, rfl, .of_same rfl⟩

theorem recordConductEvidence_quiet (command : RecordConductEvidence) :
    Relates Quiet (recordConductEvidence config call command) := by
  refine .bind permission_quiet fun _ => .bind reserve_quiet fun _ => ?_
  refine .bind query_quiet fun _ => whenSome_pure_quiet (.demands fun _ => ?_)
  intro s returned t ran
  simp only [appendConductEvidence, steps_ok] at ran
  obtain ⟨conduct, -, -, -, rfl⟩ := ran
  exact ⟨rfl, rfl, rfl, .of_same rfl⟩

end

section

def IsPartner (store : FieldStore) (partnerId identityId : Uuid) : Prop :=
  ∃ partner ∈ store.partners.rows, partner.partnerId = partnerId ∧ partner.identityId = identityId

def InForce (store : FieldStore) (identityId partnerId territoryId : Uuid) (instant : Instant) :
    Prop :=
  (∃ partner ∈ store.partners.rows, partner.partnerId = partnerId ∧
    partner.identityId = identityId ∧ FieldPartner.Working partner) ∧
  ∃ assignment ∈ store.assignments.rows, assignment.partnerId = partnerId ∧
    assignment.territoryId = territoryId ∧ assignment.InForce instant

structure CaseCreated (call : Call) (command : CreateCase) (s t : FieldStore)
    (value : AssistanceCase) (row : CaseEvidence) : Prop where
  unknown : s.cases.find (canonicalReference s.idempotency call.subject.identityId
    "case.create" call.idempotencyKey call.draws.candidate) = none
  single : s.cases.rows.find? (fun row => decide (row.subjectType.1 = command.subjectType ∧
    row.subjectId = command.subjectId ∧ row.capabilityCode.1 = command.capabilityCode)) = none
  assignment : ∃ assignment ∈ s.assignments.find command.assignmentId,
    assignment.partnerId = value.partnerId ∧ assignment.territoryId = value.territoryId
  partner : ∃ partner ∈ s.partners.rows.find? fun partner =>
      decide (partner.identityId = call.subject.identityId), partner.partnerId = value.partnerId
  status : value.status = .assigned
  version : value.version = 1
  createdAt : value.createdAt = call.time.instant
  about : row.caseId = value.caseId ∧ row.caseVersion = 1
  entry : row.fromStatus = none ∧ row.toStatus = .assigned
  actor : row.actorIdentityId = call.subject.identityId ∧ row.occurredAt = call.time.instant
  cases : t.cases.rows = s.cases.rows ++ [value]
  evidence : t.evidence.rows = s.evidence.rows ++ [row]
  activities : t.activities = s.activities
  partners : t.partners = s.partners

inductive MovedBy (input : Call × Command) (store : FieldStore) (current : AssistanceCase)
    (target : CaseStatus) (row : CaseEvidence) : Prop
  | owner (role : row.actorRole = .owner) (reached : target = .ownerVerificationCompleted)
      (owner : current.ownerIdentityId = some row.actorIdentityId)
  | representative (role : row.actorRole = .representative)
      (reached : target = .inProgress ∨ target = .businessOwnerAssisted ∨
        target = .submittedForReview)
      (inForce : InForce store row.actorIdentityId current.partnerId current.territoryId
        row.occurredAt)
  | reviewer (role : row.actorRole = .reviewer) (command : ReviewCase)
      (is : input.2 = .reviewCase command) (same : command.caseId = current.caseId)
      (version : current.version = command.expectedVersion)
      (reached : target = reviewDecisionResult command.decision)
      (reviewable : current.status = .submittedForReview)
      (checked : row.checklist = some command.checklist)
      (complete : command.decision = .approve → command.checklist.complete = true)
      (partner : FieldPartner) (found : store.partners.find current.partnerId = some partner)
      (apart : partner.identityId ≠ row.actorIdentityId)

structure CaseMoved (input : Call × Command) (s t : FieldStore)
    (current : AssistanceCase) (target : CaseStatus) (row : CaseEvidence) : Prop where
  found : s.cases.find current.caseId = some current
  follows : target ∈ followers current.status
  movedBy : MovedBy input s current target row
  about : row.caseId = current.caseId ∧ row.caseVersion = current.version + 1
  edge : row.fromStatus = some current.status ∧ row.toStatus = target
  actor : row.actorIdentityId = input.1.subject.identityId ∧ row.occurredAt = input.1.time.instant
  cases : t.cases.rows =
    s.cases.replaced (AssistanceCase.moved target input.1.time.instant current)
  evidence : t.evidence.rows = s.evidence.rows ++ [row]
  activities : t.activities = s.activities
  partners : t.partners = s.partners

structure ActivityRecorded (call : Call) (command : RecordActivity) (s t : FieldStore)
    (value : FieldActivity) : Prop where
  unknown : s.activities.find (canonicalReference s.idempotency call.subject.identityId
    "activity.record" call.idempotencyKey call.draws.candidate) = none
  partner : ∃ partner ∈ s.partners.rows.find? fun partner =>
      decide (partner.identityId = call.subject.identityId),
    partner.partnerId = value.partnerId ∧ FieldPartner.Working partner
  assignment : ∃ assignment ∈ s.assignments.find command.assignmentId,
    assignment.partnerId = value.partnerId ∧ assignment.territoryId = value.territoryId ∧
      assignment.InForce call.time.instant ∧
      ∃ role ∈ s.roles.find assignment.roleId, role.active = true ∧
        value.kind ∈ role.allowedActivities
  names : value.assignmentId = command.assignmentId ∧ value.caseId = command.caseId
  occurredAt : value.occurredAt = call.time.instant
  referenced : ∀ caseId ∈ command.caseId, (s.cases.find caseId).isSome = true
  activities : t.activities.rows = s.activities.rows ++ [value]
  cases : t.cases = s.cases
  evidence : t.evidence = s.evidence
  partners : t.partners = s.partners

variable {config : FieldConfig} {call : Call} {s t : FieldStore} {u : Unit}
  {value old : AssistanceCase}

private theorem insertEvidence_ok {row : CaseEvidence} (ran : insertEvidence row s = .ok (u, t)) :
    ∃ evidence : Table CaseEvidence, evidence.rows = s.evidence.rows ++ [row] ∧
      t = { s with evidence } := by
  simp only [insertEvidence, steps_ok, Table.insert?_eq_some] at ran
  obtain ⟨evidence, rows, rfl⟩ := ran
  exact ⟨evidence, rows, rfl⟩

theorem createCase_effect {command : CreateCase}
    (ran : createCase config call command s = .ok (value, t)) :
    Quiet s t ∨ ∃ row, CaseCreated call command s t value row := by
  unfold Application.createCase permission at ran
  obtain ⟨-, -, ran⟩ := requirePermission_bind_ok.1 ran
  unfold partnerForIdentity getAssignment at ran
  rw [query_bind_ok, query_bind_ok] at ran
  obtain ⟨partner, own, ran⟩ := demand_bind_ok.1 ran
  obtain ⟨assignment, chosen, ran⟩ := demand_bind_ok.1 ran
  obtain ⟨assigned, same⟩ := Option.filter_eq_some_iff.1 chosen
  obtain ⟨caseId, middle, reserved, ran⟩ := bind_ok.1 ran
  obtain ⟨canonical, idempotency, rfl⟩ := reserve_ok reserved
  unfold getCase at ran
  rw [query_bind_ok] at ran
  obtain ⟨existing, -, ran⟩ | ⟨unknown, ran⟩ := whenSome_ok.1 ran
  · obtain ⟨-, rfl⟩ := pure_ok.1 ran
    exact .inl ⟨rfl, rfl, rfl, .of_same rfl⟩
  · right
    unfold findCaseBySubject at ran
    rw [query_bind_ok] at ran
    obtain ⟨single, ran⟩ := require_bind_ok.1 ran
    obtain ⟨subjectType, -, ran⟩ := demand_bind_ok.1 ran
    obtain ⟨capabilityCode, -, ran⟩ := demand_bind_ok.1 ran
    unfold Repository.createCase at ran
    rw [get_bind_ok] at ran
    obtain ⟨cases, inserted, ran⟩ := demand_bind_ok.1 ran
    rw [put_bind_ok] at ran
    obtain ⟨evidenceReference, -, ran⟩ := demand_bind_ok.1 ran
    obtain ⟨_, added, rfl⟩ := bind_pure_ok.1 ran
    obtain ⟨evidence, rows, rfl⟩ := insertEvidence_ok added
    rw [Table.insert?_eq_some] at inserted
    exact ⟨_, canonical ▸ unknown, single, ⟨assignment, assigned, of_decide_eq_true same, rfl⟩,
      ⟨partner, own, rfl⟩, rfl, rfl, rfl, ⟨rfl, rfl⟩, ⟨rfl, rfl⟩, ⟨rfl, rfl⟩, inserted, rows, rfl,
      rfl⟩

private theorem move_ok {target : CaseStatus} {notes : TransitionNotes} {expected : Nat}
    {time : Instant} (found : s.cases.find old.caseId = some old)
    (ran : Repository.transitionCase old target notes expected time s = .ok (value, t)) :
    ∃ row : CaseEvidence, row.caseId = old.caseId ∧ row.caseVersion = old.version + 1 ∧
      row.fromStatus = some old.status ∧ row.toStatus = target ∧
      row.actorIdentityId = notes.actorId ∧ row.actorRole = notes.actorRole ∧
      row.checklist = notes.checklist ∧ row.occurredAt = time ∧
      t.cases.rows = s.cases.replaced (AssistanceCase.moved target time old) ∧
      t.evidence.rows = s.evidence.rows ++ [row] ∧
      t.activities = s.activities ∧ t.partners = s.partners := by
  unfold Repository.transitionCase at ran
  rw [get_bind_ok] at ran
  obtain ⟨held, chosen, ran⟩ := demand_bind_ok.1 ran
  obtain ⟨same, -⟩ := Option.filter_eq_some_iff.1 chosen
  obtain rfl : old = held := Option.mem_unique found same
  obtain ⟨cases, replaced, ran⟩ := demand_bind_ok.1 ran
  rw [put_bind_ok] at ran
  obtain ⟨evidenceReference, -, ran⟩ := demand_bind_ok.1 ran
  obtain ⟨reasonCode, -, ran⟩ := demand_bind_ok.1 ran
  obtain ⟨_, added, -⟩ := bind_pure_ok.1 ran
  obtain ⟨evidence, rows, rfl⟩ := insertEvidence_ok added
  rw [Table.replace?_eq_some] at replaced
  exact ⟨_, rfl, rfl, rfl, rfl, rfl, rfl, rfl, rfl, replaced, rows, rfl, rfl⟩

private theorem representative_ok (ran : assertCaseRepresentative call old s = .ok (u, t)) :
    s = t ∧ InForce s call.subject.identityId old.partnerId old.territoryId call.time.instant := by
  unfold assertCaseRepresentative partnerForIdentity activeAssignments at ran
  rw [query_bind_ok] at ran
  obtain ⟨partner, chosen, ran⟩ := demand_bind_ok.1 ran
  rw [query_bind_ok] at ran
  obtain ⟨⟨working, item, listed, territory⟩, rfl⟩ := require_ok.1 ran
  obtain ⟨own, same⟩ := Option.filter_eq_some_iff.1 chosen
  have id : partner.partnerId = old.partnerId := of_decide_eq_true same
  have identity : partner.identityId = call.subject.identityId := by
    simpa using List.find?_some own
  have mem := mem_orderedBy.1 (List.mem_of_mem_take listed)
  obtain ⟨stored, held⟩ := List.mem_filter.1 mem
  obtain ⟨holder, inForce⟩ := of_decide_eq_true held
  refine ⟨rfl, ⟨partner, List.mem_of_find?_eq_some own, id, identity, working⟩, ?_⟩
  exact ⟨item, stored, holder.trans id, territory, inForce⟩

theorem transitionCase_effect {command : TransitionCase}
    (ran : transitionCase config call command s = .ok (value, t)) :
    Quiet s t ∨ ∃ old target row, CaseMoved (call, .transitionCase command) s t old target row := by
  unfold Application.transitionCase permission at ran
  obtain ⟨-, -, ran⟩ := requirePermission_bind_ok.1 ran
  unfold getCase at ran
  rw [query_bind_ok] at ran
  obtain ⟨old, found, ran⟩ := demand_bind_ok.1 ran
  obtain ⟨_, authorized, allowed, ran⟩ := bind_ok.1 ran
  -- The owner confirms, and the representative does the rest.
  have actors : s = authorized ∧ ((actorRole command.action = .owner ∧
          old.ownerIdentityId = some call.subject.identityId) ∨
        (actorRole command.action ≠ .owner ∧ InForce s call.subject.identityId
          old.partnerId old.territoryId call.time.instant)) := by
    unfold authorizeAction at allowed
    obtain ⟨owner, checked⟩ | ⟨other, checked⟩ := ite_ok.1 allowed
    · obtain ⟨named, rfl⟩ := require_ok.1 checked
      exact ⟨rfl, .inl ⟨owner, named⟩⟩
    · obtain ⟨rfl, inForce⟩ := representative_ok checked
      exact ⟨rfl, .inr ⟨other, inForce⟩⟩
  obtain ⟨rfl, actors⟩ := actors
  obtain ⟨reference, middle, reserved, ran⟩ := bind_ok.1 ran
  obtain ⟨-, idempotency, rfl⟩ := reserve_ok reserved
  obtain ⟨-, ran⟩ | ⟨-, ran⟩ := ite_ok.1 ran
  · obtain ⟨-, ran⟩ := require_bind_ok.1 ran
    obtain ⟨-, rfl⟩ := pure_ok.1 ran
    exact .inl ⟨rfl, rfl, rfl, .of_same rfl⟩
  · right
    unfold caseTarget at ran
    obtain ⟨target, transition, ran⟩ := demand_bind_ok.1 ran
    have id : old.caseId = command.caseId := Table.key_of_find found
    have own : s.cases.find old.caseId = some old := id ▸ found
    obtain ⟨row, caseId, version, source, reached, actor, role, checklist, occurred, cases, rows,
      activities, partners⟩ := move_ok (by exact own) ran
    have result := actionResult_of_transition transition
    refine ⟨old, target, row, own, follows_of_action transition, ?_, ⟨caseId, version⟩,
      ⟨source, reached⟩, ⟨actor, occurred⟩, cases, rows, activities, partners⟩
    change row.actorIdentityId = call.subject.identityId at actor
    change row.actorRole = actorRole command.action at role
    rcases actors with ⟨owner, named⟩ | ⟨other, inForce⟩
    · have confirms : command.action = .confirmOwnerVerification := by
        by_contra apart
        rw [actorRole, if_neg apart] at owner
        cases owner
      rw [confirms] at result
      exact .owner (role.trans owner) result (actor ▸ named)
    · have apart : command.action ≠ .confirmOwnerVerification := by
        intro confirms
        rw [actorRole, if_pos confirms] at other
        exact other rfl
      have acts : row.actorRole = .representative := by
        rw [role, actorRole, if_neg apart]
      refine .representative acts ?_ (by rwa [actor, occurred])
      rw [result]
      generalize command.action = action at apart
      cases action with
      | confirmOwnerVerification => exact absurd rfl apart
      | start => exact .inl rfl
      | recordOwnerAssisted => exact .inr (.inl rfl)
      | submitForReview => exact .inr (.inr rfl)
      | resumeCorrection => exact .inl rfl

theorem reviewCase_effect {command : ReviewCase}
    (ran : reviewCase config call command s = .ok (value, t)) :
    Quiet s t ∨ ∃ old target row, CaseMoved (call, .reviewCase command) s t old target row := by
  unfold Application.reviewCase permission at ran
  obtain ⟨-, -, ran⟩ := requirePermission_bind_ok.1 ran
  unfold getCase at ran
  rw [query_bind_ok] at ran
  obtain ⟨old, found, ran⟩ := demand_bind_ok.1 ran
  unfold getPartner at ran
  rw [query_bind_ok] at ran
  obtain ⟨partner, known, ran⟩ := demand_bind_ok.1 ran
  obtain ⟨apart, ran⟩ := require_bind_ok.1 ran
  obtain ⟨-, ran⟩ := require_bind_ok.1 ran
  obtain ⟨complete, ran⟩ := require_bind_ok.1 ran
  obtain ⟨reference, middle, reserved, ran⟩ := bind_ok.1 ran
  obtain ⟨-, idempotency, rfl⟩ := reserve_ok reserved
  obtain ⟨-, ran⟩ | ⟨fresh, ran⟩ := ite_ok.1 ran
  · obtain ⟨-, ran⟩ := require_bind_ok.1 ran
    obtain ⟨-, rfl⟩ := pure_ok.1 ran
    exact .inl ⟨rfl, rfl, rfl, .of_same rfl⟩
  · right
    unfold reviewTarget at ran
    rw [bind_assoc] at ran
    obtain ⟨reviewable, ran⟩ := require_bind_ok.1 ran
    rw [bind_assoc] at ran
    obtain ⟨-, ran⟩ := require_bind_ok.1 ran
    rw [pure_bind] at ran
    have id : old.caseId = command.caseId := Table.key_of_find found
    have own : s.cases.find old.caseId = some old := id ▸ found
    obtain ⟨row, caseId, version, source, reached, actor, role, checklist, occurred, cases, rows,
      activities, partners⟩ := move_ok (by exact own) ran
    refine ⟨old, reviewDecisionResult command.decision, row, own, ?_, ?_, ⟨caseId, version⟩,
      ⟨source, reached⟩, ⟨actor, occurred⟩, cases, rows, activities, partners⟩
    · rw [reviewable]
      exact follows_of_review
    · refine .reviewer role command rfl id.symm (not_not.1 fresh) rfl reviewable checklist complete
        partner known ?_
      rw [actor]
      exact apart

theorem recordActivity_effect {command : RecordActivity} {value : FieldActivity}
    (ran : recordActivity config call command s = .ok (value, t)) :
    Quiet s t ∨ ActivityRecorded call command s t value := by
  unfold Application.recordActivity permission at ran
  obtain ⟨-, -, ran⟩ := requirePermission_bind_ok.1 ran
  unfold partnerForIdentity at ran
  rw [query_bind_ok] at ran
  obtain ⟨partner, own, ran⟩ := demand_bind_ok.1 ran
  unfold getAssignment at ran
  rw [query_bind_ok] at ran
  obtain ⟨assignment, chosen, ran⟩ := demand_bind_ok.1 ran
  obtain ⟨assigned, same⟩ := Option.filter_eq_some_iff.1 chosen
  unfold getRole at ran
  rw [query_bind_ok] at ran
  unfold assertAssignmentAuthority at ran
  simp only [bind_assoc, steps_ok] at ran
  obtain ⟨working, role, active, inForce, permitted, ran⟩ := ran
  obtain ⟨known, active⟩ := Option.filter_eq_some_iff.1 active
  obtain ⟨activityId, middle, reserved, ran⟩ := bind_ok.1 ran
  obtain ⟨canonical, idempotency, rfl⟩ := reserve_ok reserved
  unfold getActivity at ran
  rw [query_bind_ok] at ran
  obtain ⟨existing, -, ran⟩ | ⟨unknown, ran⟩ := whenSome_ok.1 ran
  · obtain ⟨-, rfl⟩ := pure_ok.1 ran
    exact .inl ⟨rfl, rfl, rfl, .of_same rfl⟩
  · right
    simp only [appendActivity, steps_ok, Table.insert?_eq_some] at ran
    obtain ⟨subjectType, -, evidenceReference, -, qualityStatus, -, activities, rows, referenced,
      rfl, rfl⟩ := ran
    exact ⟨canonical ▸ unknown, ⟨partner, own, rfl, working⟩,
      ⟨assignment, assigned, of_decide_eq_true same, rfl, inForce, role, known, active, permitted⟩,
      ⟨rfl, rfl⟩, rfl, referenced, rows, rfl, rfl, rfl⟩

inductive Effect (input : Call × Command) (s t : FieldStore) : Prop
  | quiet (quiet : Quiet s t)
  | created (command : CreateCase) (is : input.2 = .createCase command) (value : AssistanceCase)
      (row : CaseEvidence) (created : CaseCreated input.1 command s t value row)
  | moved (current : AssistanceCase) (target : CaseStatus) (row : CaseEvidence)
      (moved : CaseMoved input s t current target row)
  | recorded (command : RecordActivity) (is : input.2 = .recordActivity command)
      (value : FieldActivity) (recorded : ActivityRecorded input.1 command s t value)

theorem step_effect (config : FieldConfig) (store : FieldStore) (input : Call × Command) :
    Effect input store (step config store input) := by
  obtain ⟨call, command⟩ := input
  have same : Quiet store store := ⟨rfl, rfl, rfl, .of_same rfl⟩
  cases command with
  | createPartner command => exact .quiet ((createPartner_quiet config call command).commit store)
  | createRole command => exact .quiet ((createRole_quiet config call command).commit store)
  | updatePartnerStatus command =>
    exact .quiet ((updatePartnerStatus_quiet config call command).commit store)
  | createTerritory command =>
    exact .quiet ((createTerritory_quiet config call command).commit store)
  | assignPartner command => exact .quiet ((assignPartner_quiet config call command).commit store)
  | recordConductEvidence command =>
    exact .quiet ((recordConductEvidence_quiet config call command).commit store)
  | createCase command =>
    refine commit_related (R := Effect _) _ store (.quiet same) fun value t ran => ?_
    rcases createCase_effect ran with quiet | ⟨row, created⟩
    · exact .quiet quiet
    · exact .created command rfl value row created
  | transitionCase =>
    refine commit_related (R := Effect _) _ store (.quiet same) fun value t ran => ?_
    rcases transitionCase_effect ran with quiet | ⟨old, target, row, moved⟩
    · exact .quiet quiet
    · exact .moved old target row moved
  | reviewCase =>
    refine commit_related (R := Effect _) _ store (.quiet same) fun value t ran => ?_
    rcases reviewCase_effect ran with quiet | ⟨old, target, row, moved⟩
    · exact .quiet quiet
    · exact .moved old target row moved
  | recordActivity command =>
    refine commit_related (R := Effect _) _ store (.quiet same) fun value t ran => ?_
    rcases recordActivity_effect ran with quiet | recorded
    · exact .quiet quiet
    · exact .recorded command rfl value recorded

end

end Ayo.FieldOperations.Effects
