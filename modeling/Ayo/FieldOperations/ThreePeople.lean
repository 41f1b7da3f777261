/- digest: Trails of cases are paths, and approvals are the work of three people. -/

import Ayo.FieldOperations.Effects
import Ayo.Kernel.Run

namespace Ayo.FieldOperations.ThreePeople

open Kernel.KeyedTable Kernel.Run Kernel.Trail Core.Values
open Models Engine Repository Application Effects

variable (store : FieldStore)

def trail (caseId : Uuid) : List CaseEvidence :=
  store.evidence.rows.filter fun row => decide (row.caseId = caseId)

def edge (row : CaseEvidence) : Step CaseStatus := (row.fromStatus, row.toStatus)

def sinceReturn (rows : List CaseEvidence) : List CaseEvidence :=
  (rows.reverse.takeWhile fun row => decide (row.toStatus ≠ .returnedForCorrection)).reverse

/-- The evidence of a case counts its versions, and leads along allowed transitions to its state. -/
structure Recorded (store : FieldStore) (current : AssistanceCase) : Prop where
  versions : (trail store current.caseId).map CaseEvidence.caseVersion =
    List.range' 1 current.version
  path : Path followers .assigned ((trail store current.caseId).map edge) current.status

def Confirmed (current : AssistanceCase) (row : CaseEvidence) : Prop :=
  row.actorRole = .owner ∧ current.ownerIdentityId = some row.actorIdentityId

def Submitted (current : AssistanceCase) (row : CaseEvidence) : Prop :=
  row.actorRole = .representative ∧ IsPartner store current.partnerId row.actorIdentityId

def Approved (row : CaseEvidence) : Prop :=
  row.actorRole = .reviewer ∧ ∃ checklist ∈ row.checklist, checklist.complete = true

/-- Since its last return a case was confirmed, submitted and approved by three people. -/
def ByThree (current : AssistanceCase) : Prop :=
  ∃ owner ∈ sinceReturn (trail store current.caseId),
    ∃ representative ∈ sinceReturn (trail store current.caseId),
      ∃ reviewer ∈ sinceReturn (trail store current.caseId),
        (owner.toStatus = .ownerVerificationCompleted ∧ Confirmed current owner) ∧
        (representative.toStatus = .submittedForReview ∧ Submitted store current representative) ∧
        (reviewer.toStatus = .approved ∧ Approved reviewer) ∧
        owner.actorIdentityId ≠ representative.actorIdentityId ∧
        owner.actorIdentityId ≠ reviewer.actorIdentityId ∧
        representative.actorIdentityId ≠ reviewer.actorIdentityId

def Final (status : CaseStatus) : Prop := status = .approved ∨ status = .rejected

def KeepsFinal (s t : FieldStore) : Prop :=
  ∀ current ∈ s.cases.rows, Final current.status →
    current ∈ t.cases.rows ∧ trail t current.caseId = trail s current.caseId

/-- In a run every trail is in order, nothing approved or rejected changes, and three people stand
behind every approval. -/
structure Orderly (config : FieldConfig) (inputs : List (Call × Command)) : Prop where
  recorded : ∀ n, ∀ current ∈ (run (step config) .empty (inputs.take n)).cases.rows,
    Recorded (run (step config) .empty (inputs.take n)) current
  final : ∀ n m, n ≤ m → KeepsFinal (run (step config) .empty (inputs.take n))
    (run (step config) .empty (inputs.take m))
  byThree : ∀ n, ∀ current ∈ (run (step config) .empty (inputs.take n)).cases.rows,
    current.status = .approved → ByThree (run (step config) .empty (inputs.take n)) current

/-- Where a review approves a submitted case of another's partner, the owner that the case names is
neither the reviewer nor that partner. -/
def OwnerApart (input : Call × Command) : Prop :=
  ∀ command ∈ input.2.review?, ∀ current ∈ store.cases.find command.caseId,
    ∀ partner ∈ store.partners.find current.partnerId,
      command.decision = .approve ∧ command.checklist.complete = true ∧
          current.status = .submittedForReview ∧ current.version = command.expectedVersion ∧
          partner.identityId ≠ input.1.subject.identityId →
        ∀ owner ∈ current.ownerIdentityId,
          owner ≠ input.1.subject.identityId ∧ owner ≠ partner.identityId
deriving Decidable

section

/-- The evidence of an approval was given by a reviewer apart from the partner and the owner. -/
def ApprovedApart (store : FieldStore) (current : AssistanceCase) (row : CaseEvidence) : Prop :=
  Approved row ∧ ∃ partner ∈ store.partners.rows, partner.partnerId = current.partnerId ∧
    partner.identityId ≠ row.actorIdentityId ∧
    ∀ owner ∈ current.ownerIdentityId, owner ≠ row.actorIdentityId ∧ owner ≠ partner.identityId

/-- Whoever led a case to a state was the one to do so. -/
structure Acted (store : FieldStore) (current : AssistanceCase) (row : CaseEvidence) : Prop where
  owner : row.toStatus = .ownerVerificationCompleted → Confirmed current row
  representative : row.toStatus = .submittedForReview → Submitted store current row
  reviewer : row.toStatus = .approved → ApprovedApart store current row

structure Sound (store : FieldStore) : Prop where
  housed : ∀ row ∈ store.evidence.rows, ∃ current ∈ store.cases.rows, current.caseId = row.caseId
  recorded : ∀ current ∈ store.cases.rows, Recorded store current
  acted : ∀ current ∈ store.cases.rows, ∀ row ∈ trail store current.caseId,
    Acted store current row

variable {config : FieldConfig} {input : Call × Command} {s t store : FieldStore}
  {row : CaseEvidence} {old : AssistanceCase} {target : CaseStatus}

theorem Acted.of_keeps (acted : Acted s old row) (keeps : KeepsPartners s t) : Acted t old row := by
  refine ⟨acted.owner, fun reached => ?_, fun reached => ?_⟩
  · obtain ⟨role, partner, mem, id, identity⟩ := acted.representative reached
    obtain ⟨other, kept, sameId, sameIdentity⟩ := keeps partner mem
    exact ⟨role, other, kept, sameId.trans id, sameIdentity.trans identity⟩
  · obtain ⟨approved, partner, mem, id, apart⟩ := acted.reviewer reached
    obtain ⟨other, kept, sameId, sameIdentity⟩ := keeps partner mem
    exact ⟨approved, other, kept, sameId.trans id, by rwa [sameIdentity]⟩

theorem Acted.of_moved {time : Instant} (acted : Acted s old row) :
    Acted s (AssistanceCase.moved target time old) row :=
  ⟨acted.owner, acted.representative, acted.reviewer⟩

theorem trail_append (rows : t.evidence.rows = s.evidence.rows ++ [row]) (caseId : Uuid) :
    trail t caseId = trail s caseId ++ if row.caseId = caseId then [row] else [] := by
  unfold trail
  rw [rows, List.filter_append]
  by_cases own : row.caseId = caseId <;> simp [own]

theorem trail_of_other {caseId : Uuid} (rows : t.evidence.rows = s.evidence.rows ++ [row])
    (other : row.caseId ≠ caseId) : trail t caseId = trail s caseId := by
  rw [trail_append rows, if_neg other, List.append_nil]

theorem Recorded.of_trail (recorded : Recorded s old)
    (same : trail t old.caseId = trail s old.caseId) : Recorded t old := by
  refine ⟨?_, ?_⟩
  · rw [same]
    exact recorded.versions
  · rw [same]
    exact recorded.path

theorem Recorded.of_moved (recorded : Recorded s old) (moved : CaseMoved input s t old target row) :
    Recorded t (AssistanceCase.moved target input.1.time.instant old) := by
  have added : trail t old.caseId = trail s old.caseId ++ [row] := by
    rw [trail_append moved.evidence, if_pos moved.about.1]
  refine ⟨?_, ?_⟩
  · change (trail t old.caseId).map _ = List.range' 1 (old.version + 1)
    rw [added, List.map_append, recorded.versions, List.range'_concat]
    simp [moved.about.2, Nat.add_comm]
  · change Path followers .assigned ((trail t old.caseId).map edge) target
    have last : edge row = (some old.status, target) := Prod.ext moved.edge.1 moved.edge.2
    rw [added, List.map_append, List.map_singleton, last]
    exact recorded.path.append moved.follows

theorem acted_of_moved (moved : CaseMoved input s t old target row) (apart : OwnerApart s input) :
    Acted s old row := by
  have reached := moved.edge.2
  cases moved.movedBy with
  | owner role is owner =>
    refine ⟨fun _ => ⟨role, owner⟩, fun other => ?_, fun other => ?_⟩
    · cases (other.symm.trans reached).trans is
    · cases (other.symm.trans reached).trans is
  | representative role is inForce =>
    obtain ⟨⟨partner, mem, id, identity, -⟩, -⟩ := inForce
    refine ⟨fun other => ?_, fun _ => ⟨role, partner, mem, id, identity⟩, fun other => ?_⟩
    · rw [← reached, other] at is
      rcases is with is | is | is <;> cases is
    · rw [← reached, other] at is
      rcases is with is | is | is <;> cases is
  | reviewer role command is same version decided reviewable checked complete partner found self =>
    have notOther (status : CaseStatus) (outside : ∀ decision, reviewDecisionResult decision ≠ status)
        (other : row.toStatus = status) : False :=
      outside command.decision (decided.symm.trans (reached.symm.trans other))
    refine ⟨fun other => (notOther _ (by rintro ⟨⟩ <;> decide) other).elim,
      fun other => (notOther _ (by rintro ⟨⟩ <;> decide) other).elim, fun approved => ?_⟩
    have approves : command.decision = .approve := by
      rw [← reached, approved] at decided
      cases chosen : command.decision with
      | approve => rfl
      | «return» =>
        rw [chosen] at decided
        cases decided
      | reject =>
        rw [chosen] at decided
        cases decided
    refine ⟨⟨role, command.checklist, checked, complete approves⟩, partner,
      Table.mem_of_find found, Table.key_of_find found, self, ?_⟩
    obtain ⟨call, input⟩ := input
    obtain rfl : input = .reviewCase command := is
    have guard := apart command rfl old (same ▸ moved.found) partner found
    rw [moved.actor.1] at self ⊢
    exact guard ⟨approves, complete approves, reviewable, version, self⟩

theorem Sound.of_same (sound : Sound s) (cases : t.cases = s.cases)
    (evidence : t.evidence = s.evidence) (partners : KeepsPartners s t) : Sound t := by
  have same (caseId : Uuid) : trail t caseId = trail s caseId := by
    unfold trail
    rw [evidence]
  refine ⟨?_, ?_, ?_⟩
  · rw [cases, evidence]
    exact sound.housed
  · rw [cases]
    exact fun old mem => (sound.recorded old mem).of_trail (same _)
  · rw [cases]
    intro old mem row listed
    rw [same] at listed
    exact (sound.acted old mem row listed).of_keeps partners

theorem Sound.of_created {command : CreateCase} {value : AssistanceCase} (sound : Sound s)
    (created : CaseCreated input.1 command s t value row) : Sound t := by
  have keeps : KeepsPartners s t := .of_same created.partners
  have fresh : s.cases.find value.caseId = none :=
    Table.find_eq_none_of_rows_append created.cases
  have none_yet : trail s value.caseId = [] := by
    refine List.filter_eq_nil_iff.2 fun row listed own => ?_
    obtain ⟨current, mem, id⟩ := sound.housed row listed
    exact Table.find_eq_none.1 fresh current mem (id.trans (of_decide_eq_true own))
  have alone : trail t value.caseId = [row] := by
    rw [trail_append created.evidence, none_yet, if_pos created.about.1, List.nil_append]
  have others (current : AssistanceCase) (mem : current ∈ s.cases.rows) :
      trail t current.caseId = trail s current.caseId := by
    refine trail_of_other created.evidence fun same => ?_
    exact Table.find_eq_none.1 fresh current mem (same.symm.trans created.about.1)
  refine ⟨?_, ?_, ?_⟩
  · intro other listed
    rw [created.cases]
    rw [created.evidence] at listed
    rcases List.mem_append.1 listed with old | new
    · obtain ⟨current, mem, id⟩ := sound.housed other old
      exact ⟨current, List.mem_append_left _ mem, id⟩
    · obtain rfl := List.mem_singleton.1 new
      exact ⟨value, by simp, created.about.1.symm⟩
  · intro current mem
    rcases (mem_appended created.cases).1 mem with old | rfl
    · exact (sound.recorded current old).of_trail (others current old)
    · refine ⟨?_, ?_⟩
      · rw [alone, created.version, List.map_singleton, created.about.2]
        rfl
      · rw [alone, created.status]
        exact ⟨created.entry.1, created.entry.2, rfl⟩
  · intro current mem other listed
    rcases (mem_appended created.cases).1 mem with old | rfl
    · rw [others current old] at listed
      exact (sound.acted current old other listed).of_keeps keeps
    · rw [alone, List.mem_singleton] at listed
      subst listed
      have entry := created.entry.2
      refine ⟨fun reached => ?_, fun reached => ?_, fun reached => ?_⟩ <;>
        cases entry.symm.trans reached

theorem Sound.of_moved {current : AssistanceCase} (sound : Sound s)
    (moved : CaseMoved input s t current target row) (acted : Acted s current row) : Sound t := by
  have keeps : KeepsPartners s t := .of_same moved.partners
  have held : current ∈ s.cases.rows := Table.mem_of_find moved.found
  have others (other : AssistanceCase) (apart : other.caseId ≠ current.caseId) :
      trail t other.caseId = trail s other.caseId :=
    trail_of_other moved.evidence fun same => apart (same.symm.trans moved.about.1)
  refine ⟨?_, ?_, ?_⟩
  · intro other listed
    have housed : ∃ case ∈ s.cases.rows, case.caseId = other.caseId := by
      rcases (mem_appended moved.evidence).1 listed with old | rfl
      · exact sound.housed other old
      · exact ⟨current, held, moved.about.1.symm⟩
    obtain ⟨case, mem, id⟩ := housed
    rw [moved.cases]
    by_cases own : case.caseId = current.caseId
    · exact ⟨_, Table.mem_replaced.2 (.inl ⟨rfl, case, mem, own⟩), own.symm.trans id⟩
    · exact ⟨case, Table.mem_replaced.2 (.inr ⟨mem, own⟩), id⟩
  · intro other mem
    rw [moved.cases] at mem
    rcases Table.mem_replaced.1 mem with ⟨rfl, -⟩ | ⟨old, apart⟩
    · exact (sound.recorded current held).of_moved moved
    · exact (sound.recorded other old).of_trail (others other apart)
  · intro other mem evidence listed
    rw [moved.cases] at mem
    rcases Table.mem_replaced.1 mem with ⟨rfl, -⟩ | ⟨old, apart⟩
    · rw [trail_append moved.evidence] at listed
      have by_whom : Acted s current evidence := by
        rcases List.mem_append.1 listed with old | new
        · exact sound.acted current held evidence old
        · obtain rfl : evidence = row := by
            change evidence ∈ if row.caseId = current.caseId then [row] else [] at new
            rw [if_pos moved.about.1] at new
            exact List.mem_singleton.1 new
          exact acted
      exact by_whom.of_moved.of_keeps keeps
    · rw [others other apart] at listed
      exact (sound.acted other old evidence listed).of_keeps keeps

theorem Sound.of_step (sound : Sound s) (apart : OwnerApart s input) :
    Sound (step config s input) := by
  cases step_effect config s input with
  | quiet quiet => exact sound.of_same quiet.cases quiet.evidence quiet.partners
  | created command is value row created => exact sound.of_created created
  | moved old target row moved => exact sound.of_moved moved (acted_of_moved moved apart)
  | recorded command is value recorded =>
    exact sound.of_same recorded.cases recorded.evidence (.of_same recorded.partners)

theorem step_keepsFinal (config : FieldConfig) (s : FieldStore) (input : Call × Command) :
    KeepsFinal s (step config s input) := by
  intro held mem final
  cases step_effect config s input with
  | quiet quiet =>
    rw [quiet.cases, trail, quiet.evidence]
    exact ⟨mem, rfl⟩
  | created command is value row created =>
    rw [created.cases]
    refine ⟨List.mem_append_left _ mem, trail_of_other created.evidence fun same => ?_⟩
    exact Table.find_eq_none.1 (Table.find_eq_none_of_rows_append created.cases) held mem
      (same.symm.trans created.about.1)
  | moved old target row moved =>
    have apart : held.caseId ≠ old.caseId := by
      intro same
      obtain rfl := Table.eq_of_key _ mem (Table.mem_of_find moved.found) same
      have follows := moved.follows
      rcases final with status | status <;> rw [status] at follows <;> cases follows
    rw [moved.cases]
    refine ⟨Table.mem_replaced.2 (.inr ⟨mem, apart⟩), ?_⟩
    exact trail_of_other moved.evidence fun same => apart (same.symm.trans moved.about.1)
  | recorded command is value recorded =>
    rw [recorded.cases, trail, recorded.evidence]
    exact ⟨mem, rfl⟩

private theorem mem_sinceReturn {front back : List CaseEvidence}
    (unreturned : ∀ row ∈ back, row.toStatus ≠ .returnedForCorrection) (mem : row ∈ back) :
    row ∈ sinceReturn (front ++ back) := by
  have met : ∀ row ∈ back.reverse,
      decide (row.toStatus ≠ CaseStatus.returnedForCorrection) = true :=
    fun row listed => decide_eq_true (unreturned row (List.mem_reverse.1 listed))
  rw [sinceReturn, List.mem_reverse, List.reverse_append, List.takeWhile_append_of_pos met]
  exact List.mem_append_left _ (List.mem_reverse.2 mem)

private theorem unsnoc_of_only (source : CaseStatus) {steps : List (Step CaseStatus)}
    (path : Path followers .assigned steps target) (later : target ≠ .assigned)
    (only : ∀ origin, target ∈ followers origin → origin = source) :
    ∃ front, steps = front ++ [(some source, target)] ∧ Path followers .assigned front source := by
  rcases path.unsnoc with entry | ⟨front, origin, rfl, edge, reached⟩
  · exact absurd entry later
  · obtain rfl := only origin edge
    exact ⟨front, rfl, reached⟩

theorem Recorded.ends (recorded : Recorded store old) (approved : old.status = .approved) :
    ∃ front owner representative reviewer,
      trail store old.caseId = front ++ [owner, representative, reviewer] ∧
      owner.toStatus = .ownerVerificationCompleted ∧
      representative.toStatus = .submittedForReview ∧ reviewer.toStatus = .approved := by
  have path := recorded.path
  rw [approved] at path
  obtain ⟨third, split, submitted⟩ := unsnoc_of_only .submittedForReview path (by decide)
    (by rintro ⟨⟩ <;> decide)
  obtain ⟨second, rfl, confirmed⟩ := unsnoc_of_only .ownerVerificationCompleted submitted
    (by decide) (by rintro ⟨⟩ <;> decide)
  obtain ⟨first, rfl, -⟩ := unsnoc_of_only .businessOwnerAssisted confirmed (by decide)
    (by rintro ⟨⟩ <;> decide)
  rw [List.append_assoc, List.append_assoc] at split
  obtain ⟨front, back, whole, -, ends⟩ := List.map_eq_append_iff.1 split
  obtain ⟨owner, rest, rfl, confirmed, ends⟩ := List.map_eq_cons_iff.1 ends
  obtain ⟨representative, rest, rfl, submitted, ends⟩ := List.map_eq_cons_iff.1 ends
  obtain ⟨reviewer, rest, rfl, decided, ends⟩ := List.map_eq_cons_iff.1 ends
  obtain rfl := List.map_eq_nil_iff.1 ends
  exact ⟨front, owner, representative, reviewer, whole, congrArg Prod.snd confirmed,
    congrArg Prod.snd submitted, congrArg Prod.snd decided⟩

theorem Sound.byThree (sound : Sound store) (mem : old ∈ store.cases.rows)
    (approved : old.status = .approved) : ByThree store old := by
  obtain ⟨front, owner, representative, reviewer, whole, confirms, submits, approves⟩ :=
    (sound.recorded old mem).ends approved
  have acted (row : CaseEvidence) (listed : row ∈ [owner, representative, reviewer]) :
      Acted store old row ∧ row ∈ sinceReturn (trail store old.caseId) := by
    refine ⟨sound.acted old mem row ?_, ?_⟩
    · rw [whole]
      exact List.mem_append_right _ listed
    · rw [whole]
      refine mem_sinceReturn ?_ listed
      simp [confirms, submits, approves]
  obtain ⟨byOwner, since⟩ := acted owner (by simp)
  obtain ⟨byRepresentative, since'⟩ := acted representative (by simp)
  obtain ⟨byReviewer, since''⟩ := acted reviewer (by simp)
  have confirmed := byOwner.owner confirms
  have submitted := byRepresentative.representative submits
  obtain ⟨checked, partner, held, id, self, apart⟩ := byReviewer.reviewer approves
  obtain ⟨other, known, sameId, identity⟩ := submitted.2
  obtain rfl := Table.eq_of_key _ known held (sameId.trans id.symm)
  obtain ⟨ownerReviewer, ownerPartner⟩ := apart owner.actorIdentityId confirmed.2
  exact ⟨owner, since, representative, since', reviewer, since'', ⟨confirms, confirmed⟩,
    ⟨submits, submitted⟩, ⟨approves, checked⟩, identity ▸ ownerPartner, ownerReviewer,
    identity ▸ self⟩

end

/-- Cases, decided cases and approvals are in order in every run in which no owner of an approved
case is its reviewer or the partner who handed it in. -/
theorem approvals_by_three (config : FieldConfig) (inputs : List (Call × Command))
    (apart : Along (step config) OwnerApart .empty inputs) : Orderly config inputs := by
  have empty : Sound .empty := by
    refine ⟨?_, ?_, ?_⟩ <;> intro _ member <;> cases member
  have sound (n : Nat) : Sound (run (step config) .empty (inputs.take n)) := by
    refine run_invariant_between (fun _ _ guard inv => inv.of_step guard) apart (Nat.zero_le n) ?_
    rw [List.take_zero]
    exact empty
  refine ⟨fun n => (sound n).recorded, ?_, fun n current member approved =>
    (sound n).byThree member approved⟩
  intro n m le
  refine run_take_related (fun _ _ member _ => ⟨member, rfl⟩) ?_ (step_keepsFinal config) _ _ le
  intro first second third earlier later current member final
  obtain ⟨kept, same⟩ := earlier current member final
  obtain ⟨still, again⟩ := later current kept final
  exact ⟨still, again.trans same⟩

def moving (actor : Uuid) (key : String) (expectedVersion : Nat) (action : CaseAction) :
    Call × Command :=
  acting actor key (5 + expectedVersion)
    (.transitionCase ⟨5, expectedVersion, action, "evidence-of-the-move"⟩)

def sampleApproval (owner : Uuid) : List (Call × Command) :=
  samplePartner ++
    [sampleActivation, sampleCase owner,
     moving 101 "start-the-case--" 1 .start,
     moving 101 "assist-the-owner" 2 .recordOwnerAssisted,
     moving owner "confirm-the-case" 3 .confirmOwnerVerification,
     moving 101 "submit-the-case-" 4 .submitForReview,
     acting 103 "approve-the-case" 10
       (.reviewCase ⟨5, 5, .approve, ⟨true, true, true, true, true, true, true⟩,
         "evidence-of-the-review", none⟩)]

theorem approvals_by_three_sample :
    Orderly sampleConfig (sampleApproval 102) ∧
      ∃ current ∈ (run (step sampleConfig) .empty (sampleApproval 102)).cases.rows,
        current.status = .approved :=
  ⟨approvals_by_three sampleConfig (sampleApproval 102) (by decide +kernel), by decide +kernel⟩

/-- A partner that names itself owner confirms what it submits, and the case is approved. -/
theorem approved_by_two :
    ¬ ∀ (config : FieldConfig) (inputs : List (Call × Command)), Orderly config inputs := by
  intro claim
  have approved : ∃ current ∈ (run (step sampleConfig) .empty
      ((sampleApproval 101).take 11)).cases.rows, current.status = .approved ∧
        current.caseId = 5 := by
    decide +kernel
  obtain ⟨current, member, status, id⟩ := approved
  obtain ⟨owner, inOwner, representative, inTrail, -, -, ⟨confirms, -⟩, ⟨submits, -⟩, -, apart, -⟩ :=
    (claim sampleConfig (sampleApproval 101)).byThree 11 current member status
  have itself : ∀ row ∈ sinceReturn (trail (run (step sampleConfig) .empty
      ((sampleApproval 101).take 11)) 5), row.toStatus = .ownerVerificationCompleted ∨
        row.toStatus = .submittedForReview → row.actorIdentityId = 101 := by
    decide +kernel
  rw [id] at inOwner inTrail
  exact apart ((itself owner inOwner (.inl confirms)).trans
    (itself representative inTrail (.inr submits)).symm)

end Ayo.FieldOperations.ThreePeople
