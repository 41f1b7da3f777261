/- digest: Field work is done by partners in force, where the lacking checks hold. -/

import Ayo.FieldOperations.Effects
import Ayo.Kernel.Run

namespace Ayo.FieldOperations.PartnersInForce

open Kernel.KeyedTable Kernel.Run Core.Values Core.Authorization
open Models Engine Repository Application Effects

variable (store : FieldStore)

/-- The working partner of an identity records an activity of a kind that its role permits, under an
assignment in force for the territory of the activity. -/
def Permitted (identityId : Uuid) (activity : FieldActivity) : Prop :=
  (∃ partner ∈ store.partners.rows, partner.partnerId = activity.partnerId ∧
    partner.identityId = identityId ∧ FieldPartner.Working partner) ∧
  ∃ assignment ∈ store.assignments.rows, assignment.assignmentId = activity.assignmentId ∧
    assignment.partnerId = activity.partnerId ∧ assignment.territoryId = activity.territoryId ∧
    assignment.InForce activity.occurredAt ∧
    ∃ role ∈ store.roles.find assignment.roleId, activity.kind ∈ role.allowedActivities

/-- Every case that a call creates, every move that a representative makes in it and every activity
that it records is the work of a partner in force. -/
structure WorkInForce (call : Call) (s t : FieldStore) : Prop where
  created : ∀ current ∈ t.cases.rows, s.cases.find current.caseId = none →
    InForce s call.subject.identityId current.partnerId current.territoryId current.createdAt
  moved : ∀ row ∈ t.evidence.rows, row ∉ s.evidence.rows →
    row.actorRole = .representative → ∃ current ∈ t.cases.rows, current.caseId = row.caseId ∧
      row.actorIdentityId = call.subject.identityId ∧
      InForce s row.actorIdentityId current.partnerId current.territoryId row.occurredAt
  recorded : ∀ activity ∈ t.activities.rows, activity ∉ s.activities.rows →
    Permitted s call.subject.identityId activity ∧
      ∀ caseId ∈ activity.caseId, ∃ current ∈ s.cases.rows, current.caseId = caseId ∧
        current.partnerId = activity.partnerId

/-- Every call of a run leaves work of partners in force. -/
def AlwaysInForce (config : FieldConfig) (inputs : List (Call × Command)) : Prop :=
  ∀ n input, inputs[n]? = some input →
    WorkInForce input.1 (run (step config) .empty (inputs.take n))
      (run (step config) .empty (inputs.take (n + 1)))

def partnerOf (call : Call) : Option FieldPartner :=
  store.partners.rows.find? fun partner => decide (partner.identityId = call.subject.identityId)

def IsNew {ρ : Type} [Row ρ Uuid] (store : FieldStore) (call : Call) (table : Table ρ)
    (operation : String) : Prop :=
  (table.find (canonicalReference store.idempotency call.subject.identityId operation
    call.idempotencyKey call.draws.candidate)).isNone = true
deriving Decidable

variable (input : Call × Command)

/-- Where a call creates a case, for a subject without one and under an assignment of its caller,
the caller works and holds an assignment in force for the territory. -/
def CreatorInForce : Prop :=
  ∀ command ∈ input.2.createCase?, ∀ partner ∈ partnerOf store input.1,
    ∀ assignment ∈ store.assignments.find command.assignmentId,
      assignment.partnerId = partner.partnerId ∧ IsNew store input.1 store.cases "case.create" ∧
          (∀ row ∈ store.cases.rows, ¬ (row.subjectType.1 = command.subjectType ∧
            row.subjectId = command.subjectId ∧ row.capabilityCode.1 = command.capabilityCode)) →
        FieldPartner.Working partner ∧ ∃ held ∈ store.assignments.rows,
          held.partnerId = partner.partnerId ∧ held.territoryId = assignment.territoryId ∧
            held.InForce input.1.time.instant
deriving Decidable

/-- Where a working partner records a new activity under its assignment in force, the case that the
activity names is its own. -/
def NamesOwnCase : Prop :=
  ∀ command ∈ input.2.recordActivity?, ∀ partner ∈ partnerOf store input.1,
    ∀ assignment ∈ store.assignments.find command.assignmentId,
      assignment.partnerId = partner.partnerId ∧ FieldPartner.Working partner ∧
          assignment.InForce input.1.time.instant ∧
          IsNew store input.1 store.activities "activity.record" →
        ∀ caseId ∈ command.caseId, ∀ current ∈ store.cases.find caseId,
          current.partnerId = partner.partnerId
deriving Decidable

/-- The call does not need the checks that creating a case and recording an activity lack. -/
def Unchecked : Prop :=
  CreatorInForce store input ∧ NamesOwnCase store input
deriving Decidable

section

variable {input : Call × Command} {s t : FieldStore} {row : CaseEvidence}

theorem WorkInForce.of_quiet {call : Call} (cases : t.cases = s.cases)
    (evidence : t.evidence = s.evidence) (activities : t.activities = s.activities) :
    WorkInForce call s t := by
  refine ⟨fun old mem unknown => ?_, fun row mem unknown => ?_, fun activity mem unknown => ?_⟩
  · rw [cases] at mem
    exact absurd rfl (Table.find_eq_none.1 unknown old mem)
  · exact absurd (evidence ▸ mem) unknown
  · exact absurd (activities ▸ mem) unknown

theorem WorkInForce.of_created {command : CreateCase} {value : AssistanceCase}
    (is : input.2 = .createCase command) (created : CaseCreated input.1 command s t value row)
    (checked : CreatorInForce s input) : WorkInForce input.1 s t := by
  obtain ⟨partner, own, holder⟩ := created.partner
  obtain ⟨assignment, chosen, assigned, territory⟩ := created.assignment
  have single : ∀ row ∈ s.cases.rows, ¬ (row.subjectType.1 = command.subjectType ∧
      row.subjectId = command.subjectId ∧ row.capabilityCode.1 = command.capabilityCode) := by
    intro row mem
    simpa using List.find?_eq_none.1 created.single row mem
  have known : command ∈ input.2.createCase? := by
    rw [is]
    rfl
  obtain ⟨working, held, mem, sameHolder, sameTerritory, inForce⟩ :=
    checked command known partner own assignment chosen
      ⟨assigned.trans holder.symm, Option.isNone_iff_eq_none.2 created.unknown, single⟩
  have identity : partner.identityId = input.1.subject.identityId := by
    simpa using List.find?_some own
  have works : InForce s input.1.subject.identityId value.partnerId value.territoryId
      input.1.time.instant :=
    ⟨⟨partner, List.mem_of_find?_eq_some own, holder, identity, working⟩, held, mem,
      sameHolder.trans holder, sameTerritory.trans territory, inForce⟩
  refine ⟨?_, ?_, ?_⟩
  · intro current listed unknown
    rcases (mem_appended created.cases).1 listed with old | rfl
    · exact absurd rfl (Table.find_eq_none.1 unknown current old)
    · rw [created.createdAt]
      exact works
  · intro other listed unknown _
    rw [created.evidence] at listed
    obtain rfl := List.mem_singleton.1 ((List.mem_append.1 listed).resolve_left unknown)
    refine ⟨value, ?_, created.about.1.symm, created.actor.1, ?_⟩
    · rw [created.cases]
      exact List.mem_append_right _ (List.mem_singleton_self _)
    · rw [created.actor.1, created.actor.2]
      exact works
  · intro activity listed unknown
    exact absurd (created.activities ▸ listed) unknown

theorem WorkInForce.of_moved {current : AssistanceCase} {target : CaseStatus}
    (moved : CaseMoved input s t current target row) : WorkInForce input.1 s t := by
  have held := Table.mem_of_find moved.found
  refine ⟨?_, ?_, ?_⟩
  · intro other listed unknown
    rw [moved.cases] at listed
    rcases Table.mem_replaced.1 listed with ⟨rfl, old, mem, same⟩ | ⟨old, -⟩
    · exact absurd same (Table.find_eq_none.1 unknown old mem)
    · exact absurd rfl (Table.find_eq_none.1 unknown other old)
  · intro other listed unknown role
    rw [moved.evidence] at listed
    obtain rfl := List.mem_singleton.1 ((List.mem_append.1 listed).resolve_left unknown)
    refine ⟨AssistanceCase.moved target input.1.time.instant current, ?_, moved.about.1.symm,
      moved.actor.1, ?_⟩
    · rw [moved.cases]
      exact Table.mem_replaced.2 (.inl ⟨rfl, current, held, rfl⟩)
    · cases moved.movedBy with
      | owner isOwner => cases role.symm.trans isOwner
      | representative _ _ inForce => exact inForce
      | reviewer isReviewer => cases role.symm.trans isReviewer
  · intro activity listed unknown
    exact absurd (moved.activities ▸ listed) unknown

theorem WorkInForce.of_recorded {command : RecordActivity} {value : FieldActivity}
    (is : input.2 = .recordActivity command) (recorded : ActivityRecorded input.1 command s t value)
    (checked : NamesOwnCase s input) : WorkInForce input.1 s t := by
  obtain ⟨partner, own, holder, working⟩ := recorded.partner
  obtain ⟨assignment, chosen, assigned, territory, inForce, role, known, -, kind⟩ :=
    recorded.assignment
  have identity : partner.identityId = input.1.subject.identityId := by
    simpa using List.find?_some own
  refine ⟨?_, ?_, ?_⟩
  · intro old listed unknown
    rw [recorded.cases] at listed
    exact absurd rfl (Table.find_eq_none.1 unknown old listed)
  · intro row listed unknown
    exact absurd (recorded.evidence ▸ listed) unknown
  · intro activity listed unknown
    rw [recorded.activities] at listed
    obtain rfl := List.mem_singleton.1 ((List.mem_append.1 listed).resolve_left unknown)
    refine ⟨⟨⟨partner, List.mem_of_find?_eq_some own, holder, identity, working⟩, assignment,
      Table.mem_of_find chosen, ?_, assigned, territory, ?_, role, known, kind⟩, ?_⟩
    · exact (Table.key_of_find chosen).trans recorded.names.1.symm
    · rwa [recorded.occurredAt]
    · intro caseId named
      rw [recorded.names.2] at named
      obtain ⟨old, found⟩ := Option.isSome_iff_exists.1 (recorded.referenced caseId named)
      have mentioned : command ∈ input.2.recordActivity? := by
        rw [is]
        rfl
      have mine := checked command mentioned partner own assignment chosen
        ⟨assigned.trans holder.symm, working, inForce,
          Option.isNone_iff_eq_none.2 recorded.unknown⟩ caseId named old found
      exact ⟨old, Table.mem_of_find found, Table.key_of_find found, mine.trans holder⟩

theorem step_workInForce (config : FieldConfig) (checked : Unchecked s input) :
    WorkInForce input.1 s (step config s input) := by
  cases step_effect config s input with
  | quiet quiet => exact .of_quiet quiet.cases quiet.evidence quiet.activities
  | created command is value row created => exact .of_created is created checked.1
  | moved old target row moved => exact .of_moved moved
  | recorded command is value recorded => exact .of_recorded is recorded checked.2

end

/-- Field work is done by partners in force, where the creators of cases are in force and activities
name no foreign case. -/
theorem fieldwork_in_force (config : FieldConfig) (inputs : List (Call × Command))
    (checked : Along (step config) Unchecked .empty inputs) : AlwaysInForce config inputs := by
  intro n input taken
  rw [run_take_succ taken]
  exact step_workInForce config (guard_of_along checked taken)

def sampleVisit : List (Call × Command) :=
  samplePartner ++ [sampleActivation, sampleCase 102, acting 101 "visit-the-business" 6
      (.recordActivity ⟨4, some 5, .businessVisited, "merchant", 7, "evidence-of-the-visit", none⟩)]

theorem fieldwork_in_force_sample :
    AlwaysInForce sampleConfig sampleVisit ∧
      ((run (step sampleConfig) .empty sampleVisit).cases.rows.length,
        (run (step sampleConfig) .empty sampleVisit).activities.rows.length) = (1, 1) :=
  ⟨fieldwork_in_force sampleConfig sampleVisit (by decide +kernel), by decide +kernel⟩

/-- A partner that was never activated creates a case. -/
theorem case_of_pending_partner :
    ¬ ∀ (config : FieldConfig) (inputs : List (Call × Command)), AlwaysInForce config inputs := by
  intro claim
  have inForce := claim sampleConfig (samplePartner ++ [sampleCase 102]) 4 (sampleCase 102) rfl
  have created : ∃ current ∈ (run (step sampleConfig) .empty
      ((samplePartner ++ [sampleCase 102]).take (4 + 1))).cases.rows, (run (step sampleConfig)
        .empty ((samplePartner ++ [sampleCase 102]).take 4)).cases.find current.caseId = none := by
    decide +kernel
  obtain ⟨current, member, unknown⟩ := created
  obtain ⟨⟨partner, stored, -, -, working⟩, -⟩ := inForce.created current member unknown
  have pending : ∀ partner ∈ (run (step sampleConfig) .empty
      ((samplePartner ++ [sampleCase 102]).take 4)).partners.rows,
        ¬ FieldPartner.Working partner := by
    decide +kernel
  exact pending partner stored working

end Ayo.FieldOperations.PartnersInForce
