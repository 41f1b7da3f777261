/- digest: When the question of passenger authority has an answer. -/

import Ayo.CustomerProfile.Households
import Ayo.Kernel.Run

namespace Ayo.CustomerProfile.PassengerAuthority

open Kernel.UnitOfWork Kernel.KeyedTable Kernel.Run Core.Values PersistenceKernel.Idempotency
  Households

/-- The question has one answer for every two subjects, in either order: whether they are the same
or an active relationship stands between them. -/
def Decided (store : HouseholdStore) : Prop :=
  ∀ actor intended, ∃ answer, validateIntendedPassenger actor intended store = .ok (answer, store) ∧
      validateIntendedPassenger intended actor store = .ok (answer, store) ∧
      (answer = true ↔
        actor = intended ∨ ∃ row ∈ store.relationships.rows, ActiveBetween actor intended row)

/-- Every relationship that is active at a point of a run was activated by a call of the subject
that it invites. -/
def ActivatedByInvited (config : HouseholdConfig) (calls : List RelationshipCall) (n : Nat) : Prop :=
  ∀ row ∈ (run (householdStep config) {} (calls.take n)).relationships.rows, row.state = .active →
    ∃ m call expectedVersion, m < n ∧ calls[m]? = some ⟨call, .transition row.invitedSubjectId
        row.relationshipId .active expectedVersion⟩ ∧
      (∃ was ∈ (run (householdStep config) {} (calls.take m)).relationships.rows,
        was.relationshipId = row.relationshipId ∧ was.state ≠ .active) ∧
      ∃ now ∈ (run (householdStep config) {} (calls.take (m + 1))).relationships.rows,
        now.relationshipId = row.relationshipId ∧ now.state = .active

def Fresh (store : HouseholdStore) (actor : Uuid) (key : String) : Prop :=
  ∀ stored ∈ store.records.find ("customer_household.transition", actor, key),
    stored.completedAt = none

/-- A call activates a relationship while the converse one is active. -/
def Crosses (config : HouseholdConfig) (store : HouseholdStore) (input : RelationshipCall) : Prop :=
  match input.command with
  | .transition actor relationshipId target _ =>
    target = .active ∧ Fresh store actor input.call.idempotencyKey ∧
      (input.command.body config input.call store).isOk = true ∧
      ∃ row ∈ store.relationships.rows, row.relationshipId = relationshipId ∧
        ∃ converse ∈ store.relationships.rows, converse.state = .active ∧
          converse.direction = row.direction.swap
  | .invite _ _ _ => False

section

/-- No two active relationships stand between the same subjects. -/
def Uncrossed (store : HouseholdStore) : Prop :=
  ∀ first ∈ store.relationships.rows, ∀ second ∈ store.relationships.rows,
    first.state = .active → second.state = .active → second.direction ≠ first.direction.swap

def Proper (store : HouseholdStore) : Prop :=
  ∀ row ∈ store.relationships.rows, row.invitingSubjectId ≠ row.invitedSubjectId

variable {store : HouseholdStore} {a b : Uuid}

theorem activeBetween_comm {first second : Uuid} {row : HouseholdRelationship} :
    ActiveBetween first second row ↔ ActiveBetween second first row :=
  and_congr_right fun _ => or_comm

theorem eq_of_activeBetween (uncrossed : Uncrossed store) {first second : HouseholdRelationship}
    (left : first ∈ store.relationships.rows) (right : second ∈ store.relationships.rows)
    (one : ActiveBetween a b first) (other : ActiveBetween a b second) : first = second := by
  have apart := uncrossed first left second right one.1 other.1
  have same : first.direction = second.direction := by
    obtain forth | back := one.2
    · obtain forth' | back' := other.2
      · exact forth.trans forth'.symm
      · rw [forth, back'] at apart
        exact absurd rfl apart
    · obtain forth' | back' := other.2
      · rw [back, forth'] at apart
        exact absurd rfl apart
      · exact back.trans back'.symm
  exact store.relationships.eq_of_clash left right (.inr same)

theorem validate_of_apart (apart : a ≠ b) {answer : Bool} :
    validateIntendedPassenger a b store = .ok (answer, store) ↔
      (store.relationships.rows.filter (fun row => ActiveBetween a b row) = [] ∧ answer = false) ∨
        ∃ row, store.relationships.rows.filter (fun row => ActiveBetween a b row) = [row] ∧
          answer = true := by
  unfold validateIntendedPassenger activeRelationshipBetween
  rw [if_neg apart, bind_assoc, get_bind_ok]
  generalize store.relationships.rows.filter (fun row => ActiveBetween a b row) = rows
  rcases rows with _ | ⟨row, _ | ⟨second, rest⟩⟩
  · simp only [pure_bind, pure_ok]
    simp [eq_comm]
  · simp only [pure_bind, pure_ok]
    simp [eq_comm]
  · simp only [bind_ok, throw_ok]
    simp

/-- The question has an answer exactly when no two active relationships are crossed. -/
theorem decided_iff_uncrossed (proper : Proper store) : Decided store ↔ Uncrossed store := by
  constructor
  · intro decided first left second right active active' crossed
    have apart := proper first left
    obtain ⟨answer, validated, _⟩ := decided first.invitingSubjectId first.invitedSubjectId
    have listed : ∀ row ∈ store.relationships.rows,
        ActiveBetween first.invitingSubjectId first.invitedSubjectId row →
        row ∈ store.relationships.rows.filter fun row =>
          ActiveBetween first.invitingSubjectId first.invitedSubjectId row :=
      fun row mem between => List.mem_filter.2 ⟨mem, decide_eq_true between⟩
    have one := listed first left ⟨active, .inl rfl⟩
    have other := listed second right ⟨active', .inr crossed⟩
    obtain ⟨empty, _⟩ | ⟨row, single, _⟩ := (validate_of_apart apart).1 validated
    · rw [empty] at one
      cases one
    · rw [single] at one other
      have same : second = first :=
        (List.mem_singleton.1 other).trans (List.mem_singleton.1 one).symm
      rw [same] at crossed
      exact apart (congrArg Prod.fst crossed)
  · intro uncrossed actor intended
    by_cases same : actor = intended
    · refine ⟨true, ?_, ?_, ?_⟩
      · unfold validateIntendedPassenger
        rw [if_pos same]
        rfl
      · unfold validateIntendedPassenger
        rw [if_pos same.symm]
        rfl
      · simp [same]
    · have comm : (store.relationships.rows.filter fun row => ActiveBetween intended actor row) =
          store.relationships.rows.filter fun row => ActiveBetween actor intended row :=
        List.filter_congr fun row _ => decide_eq_decide.2 activeBetween_comm
      match found : store.relationships.rows.filter fun row => ActiveBetween actor intended row with
      | [] =>
        refine ⟨false, (validate_of_apart same).2 (.inl ⟨found, rfl⟩),
          (validate_of_apart (Ne.symm same)).2 (.inl ⟨comm.trans found, rfl⟩), ?_⟩
        have none := List.filter_eq_nil_iff.1 found
        simpa [same] using none
      | [row] =>
        refine ⟨true, (validate_of_apart same).2 (.inr ⟨row, found, rfl⟩),
          (validate_of_apart (Ne.symm same)).2 (.inr ⟨row, comm.trans found, rfl⟩), ?_⟩
        have mem : row ∈ store.relationships.rows.filter fun row =>
            ActiveBetween actor intended row := found ▸ List.mem_singleton_self row
        obtain ⟨held, between⟩ := List.mem_filter.1 mem
        exact ⟨fun _ => .inr ⟨row, held, of_decide_eq_true between⟩, fun _ => rfl⟩
      | first :: second :: rest =>
        have left : first ∈ store.relationships.rows.filter fun row =>
            ActiveBetween actor intended row := found ▸ List.mem_cons_self
        have right : second ∈ store.relationships.rows.filter fun row =>
            ActiveBetween actor intended row :=
          found ▸ List.mem_cons_of_mem first List.mem_cons_self
        obtain ⟨held, between⟩ := List.mem_filter.1 left
        obtain ⟨stored', between'⟩ := List.mem_filter.1 right
        have one := eq_of_activeBetween uncrossed held stored' (of_decide_eq_true between)
          (of_decide_eq_true between')
        have distinct := store.relationships.distinct.filter fun row =>
          decide (ActiveBetween actor intended row)
        rw [found] at distinct
        have unlike := (List.pairwise_cons.1 distinct).1 second List.mem_cons_self
        exact absurd (Row.clash_of_key (congrArg Row.key one)) unlike

end

section

variable {config : HouseholdConfig} {call : Call} {s t : HouseholdStore}
  {actor relationshipId : Uuid} {material : String} {answer : HouseholdRelationship}
  {reservation : CommandRecord}

theorem reserveCommand_keeps {scope : String} :
    Keeps HouseholdStore.relationships (reserveCommand config call scope actor material) := by
  refine .bind .demand fun _ => .bind .require fun _ => .within ?_ _
  exact fun _ _ => rfl

theorem record_keeps {eventType aggregateType : String} :
    Keeps HouseholdStore.relationships
      (record config call eventType aggregateType relationshipId actor) := by
  refine .bind (.within ?_ _) fun _ => .bind (.within ?_ _) fun _ => .pure
  · exact fun _ _ => rfl
  · exact fun _ _ => rfl

theorem completeCommand_keeps {reservation : CommandRecord} {response : RelationshipReference} :
    Keeps HouseholdStore.relationships (completeCommand call reservation response) := by
  refine .within ?_ _
  exact fun _ _ => rfl

theorem storedInvitation_readOnly (ran : storedInvitation reservation s = .ok (answer, t)) :
    t = s := by
  unfold storedInvitation at ran
  rw [get_bind_ok] at ran
  cases given : reservation.responseReference with
  | none =>
    rw [given] at ran
    exact (throw_ok.1 ran).elim
  | some reference =>
    rw [given] at ran
    cases reference with
    | created => exact (demand_ok.1 ran).2.symm
    | changed => exact (throw_ok.1 ran).elim

variable {actor : Uuid}

theorem reserveCommand_fresh
    (ran : reserveCommand config call "customer_household.transition" actor material s =
      .ok (reservation, t)) :
    Fresh s actor call.idempotencyKey ↔ reservation.completedAt = none := by
  simp only [reserveCommand, steps_ok, within_ok] at ran
  obtain ⟨commandId, _, _, records, reserved, _⟩ := ran
  obtain ⟨found, _, _⟩ | ⟨absent, rfl, _⟩ := reserve_ok reserved
  · unfold Fresh
    rw [show s.records.find ("customer_household.transition", actor, call.idempotencyKey) =
      some reservation from found]
    simp
  · unfold Fresh
    rw [show s.records.find ("customer_household.transition", actor, call.idempotencyKey) =
      none from absent]
    simp

inductive HouseholdEffect (config : HouseholdConfig) (before after : HouseholdStore)
    (input : RelationshipCall) : Prop where
  | idle (same : after.relationships = before.relationships)
  | invited (row : HouseholdRelationship) (pending : row.state = .pending)
      (apart : row.invitingSubjectId ≠ row.invitedSubjectId)
      (rows : after.relationships.rows = before.relationships.rows ++ [row])
  | moved (row : HouseholdRelationship) (actor : Uuid) (target : RelationshipState)
      (expectedVersion : Int) (time : Instant)
      (command : input.command = .transition actor row.relationshipId target expectedVersion)
      (fresh : Fresh before actor input.call.idempotencyKey)
      (stored : row ∈ before.relationships.rows) (leads : target ∈ row.state.transitions)
      (invited : target = .active → actor = row.invitedSubjectId)
      (rows : after.relationships.rows = before.relationships.replaced (row.moved target time))

theorem invite_effect {invited : Uuid} {relationshipType : RelationshipType}
    (ran : inviteRelationship config call actor invited relationshipType s =
      .ok (answer, t)) :
    HouseholdEffect config s t ⟨call, .invite actor invited relationshipType⟩ := by
  simp only [inviteRelationship, checkTime, ↓require_bind_ok, bind_assoc, pure_bind] at ran
  obtain ⟨apart, _, ran⟩ := ran
  obtain ⟨reservation, middle, reserved, ran⟩ := bind_ok.1 ran
  have kept := reserveCommand_keeps _ _ _ reserved
  obtain ⟨_, _, replayed⟩ | ⟨_, ran⟩ := whenSome_ok.1 ran
  · have same := storedInvitation_readOnly replayed
    exact .idle (same ▸ kept)
  · simp only [createRelationship, bind_assoc, ↓steps_ok, pure_bind,
    Table.insert?_eq_some] at ran
    obtain ⟨_, relationships, rows, ran⟩ := ran
    obtain ⟨_, third, recorded, ran⟩ := bind_ok.1 ran
    obtain ⟨_, completed, _⟩ := bind_pure_ok.1 ran
    have recordedKept := record_keeps _ _ _ recorded
    have completedKept := completeCommand_keeps _ _ _ completed
    refine .invited
      { relationshipId := call.relationshipId, invitingSubjectId := actor
        invitedSubjectId := invited, relationshipType, state := .pending
        createdAt := call.time.instant, updatedAt := call.time.instant, version := 1 }
      rfl apart ?_
    rw [completedKept, recordedKept]
    rw [kept] at rows
    exact rows

theorem transition_effect {target : RelationshipState} {expected : Int}
    (ran : transitionRelationship config call actor relationshipId target expected
      s = .ok (answer, t)) :
    HouseholdEffect config s t ⟨call, .transition actor relationshipId target expected⟩ ∧
      (Fresh s actor call.idempotencyKey → ∃ row ∈ s.relationships.rows,
        row.relationshipId = relationshipId ∧ ∃ time,
          t.relationships.rows = s.relationships.replaced (row.moved target time)) := by
  simp only [transitionRelationship, checkTime, ↓require_bind_ok, bind_assoc, pure_bind] at ran
  obtain ⟨_, ran⟩ := ran
  obtain ⟨reservation, middle, reserved, ran⟩ := bind_ok.1 ran
  have kept := reserveCommand_keeps _ _ _ reserved
  have fresh := reserveCommand_fresh reserved
  simp only [↓steps_ok] at ran
  obtain ⟨relationship, found, _, invited, ran⟩ := ran
  obtain ⟨completed, done, replayed⟩ | ⟨unfinished, ran⟩ := whenSome_ok.1 ran
  · obtain ⟨_, rfl⟩ := pure_ok.1 replayed
    refine ⟨.idle kept, fun is => ?_⟩
    rw [fresh.1 is] at done
    cases done
  · simp only [saveTransition, bind_assoc, ↓steps_ok, pure_bind, Table.replace?_eq_some,
    Option.filter_eq_some_iff, decide_eq_true_eq] at ran
    obtain ⟨leads, row, ⟨again, _⟩, relationships, rows, ran⟩ := ran
    obtain ⟨_, third, recorded, ran⟩ := bind_ok.1 ran
    obtain ⟨_, answered, completes, finished⟩ := bind_ok.1 ran
    obtain ⟨_, rfl⟩ := pure_ok.1 finished
    have recordedKept := record_keeps _ _ _ recorded
    have completedKept := completeCommand_keeps _ _ _ completes
    have identified : relationship.relationshipId = relationshipId := Table.key_of_find found
    rw [identified, found] at again
    obtain rfl := Option.some.inj again
    rw [kept] at found rows
    have held := Table.mem_of_find found
    have written : answered.relationships.rows =
        s.relationships.replaced (relationship.moved target call.time.instant) := by
      rw [completedKept, recordedKept]
      exact rows
    refine ⟨.moved relationship actor target expected call.time.instant ?_
      (fresh.2 unfinished) held leads invited written, fun _ => ?_⟩
    · rw [identified]
    · exact ⟨relationship, held, identified, _, written⟩

theorem command_effect {input : RelationshipCall}
    (ran : input.command.body config input.call s = .ok (answer, t)) :
    HouseholdEffect config s t input := by
  obtain ⟨call, command⟩ := input
  cases command with
  | invite => exact invite_effect ran
  | transition => exact (transition_effect ran).1

end

section

variable {config : HouseholdConfig} {store : HouseholdStore} {input : RelationshipCall}

theorem householdStep_cases (config : HouseholdConfig) (store : HouseholdStore)
    (input : RelationshipCall) :
    householdStep config store input = store ∨ ∃ answer,
      input.command.body config input.call store = .ok (answer, householdStep config store input) :=
  commit_cases (input.command.body config input.call) store

theorem Proper.step (proper : Proper store) : Proper (householdStep config store input) := by
  obtain stays | ⟨answer, ran⟩ := householdStep_cases config store input
  · rwa [stays]
  intro other mem
  cases command_effect ran with
  | idle same =>
    rw [same] at mem
    exact proper other mem
  | invited row pending apart rows =>
    obtain held | rfl := (mem_appended rows).1 mem
    · exact proper other held
    · exact apart
  | moved row actor target expected time command fresh held leads invited rows =>
    rw [rows, Table.mem_replaced] at mem
    obtain ⟨rfl, _⟩ | ⟨kept, _⟩ := mem
    · exact proper row held
    · exact proper other kept

theorem active_of_step {answer : HouseholdRelationship} {t : HouseholdStore}
    (ran : input.command.body config input.call store = .ok (answer, t))
    {row : HouseholdRelationship} (mem : row ∈ t.relationships.rows)
    (active : row.state = .active) :
    row ∈ store.relationships.rows ∨ ∃ was ∈ store.relationships.rows, ∃ expected time,
        row = was.moved .active time ∧ was.state ≠ .active ∧
          input.command = .transition row.invitedSubjectId row.relationshipId .active expected ∧
          Fresh store row.invitedSubjectId input.call.idempotencyKey := by
  cases command_effect ran with
  | idle same => exact .inl (same ▸ mem)
  | invited created pending apart rows =>
    obtain held | rfl := (mem_appended rows).1 mem
    · exact .inl held
    · rw [pending] at active
      cases active
  | moved was actor target expected time command fresh held leads invited rows =>
    rw [rows, Table.mem_replaced] at mem
    obtain ⟨rfl, _⟩ | ⟨kept, _⟩ := mem
    · obtain rfl : target = .active := active
      have actor_eq := invited rfl
      subst actor_eq
      refine .inr ⟨was, held, expected, time, rfl, ?_, command, fresh⟩
      intro was_active
      rw [was_active] at leads
      simp [RelationshipState.transitions] at leads
    · exact .inl kept

theorem Uncrossed.step (uncrossed : Uncrossed store) (apart : ¬ Crosses config store input)
    (proper : Proper store) : Uncrossed (householdStep config store input) := by
  obtain stays | ⟨answer, ran⟩ := householdStep_cases config store input
  · rwa [stays]
  intro first left second right active active' crossed
  -- A relationship that the call activates has no active converse.
  have lone : ∀ was ∈ store.relationships.rows, ∀ expected,
      input.command = .transition was.invitedSubjectId was.relationshipId .active expected →
      Fresh store was.invitedSubjectId input.call.idempotencyKey →
      ∀ converse ∈ store.relationships.rows, converse.state = .active →
        converse.direction ≠ was.direction.swap := by
    intro was held expected command fresh converse listed is_active back
    apply apart
    unfold Crosses
    rw [command] at ran ⊢
    refine ⟨rfl, fresh, ?_, was, held, rfl, converse, listed, is_active, back⟩
    rw [ran]
    rfl
  obtain held | ⟨was, held, expected, time, rfl, _, command, fresh⟩ :=
    active_of_step ran left active
  · obtain stored' | ⟨was', stored', expected, time, rfl, _, command, fresh⟩ :=
      active_of_step ran right active'
    · exact uncrossed first held second stored' active active' crossed
    · refine lone was' stored' expected command fresh first held active ?_
      rw [show was'.direction = first.direction.swap from crossed, Prod.swap_swap]
  · obtain stored' | ⟨was', stored', expectedVersion', time', rfl, _, command', _⟩ :=
      active_of_step ran right active'
    · exact lone was held expected command fresh second stored' active' crossed
    · rw [command] at command'
      have ids : was.relationshipId = was'.relationshipId := by
        simpa [HouseholdRelationship.moved] using (RelationshipCommand.transition.inj command').2.1
      have one := store.relationships.eq_of_key held stored' ids
      subst one
      exact proper was held (congrArg Prod.fst crossed)

theorem not_uncrossed_of_crosses (proper : Proper store) (crosses : Crosses config store input) :
    ¬ Uncrossed (householdStep config store input) := by
  obtain ⟨call, command⟩ := input
  cases command with
  | invite => exact crosses.elim
  | transition actor relationshipId target expected =>
    obtain ⟨rfl, fresh, returns, row, held, identified, converse, listed, active, back⟩ :=
      crosses
    obtain ⟨⟨answer, t⟩, ran⟩ := exists_of_isOk returns
    have reached : householdStep config store
        ⟨call, .transition actor relationshipId .active expected⟩ = t :=
      commit_of_ok ran
    obtain ⟨same, stored', identified', time, rows⟩ := (transition_effect ran).2 fresh
    have one := store.relationships.eq_of_key held stored' (identified.trans identified'.symm)
    subst one
    rw [reached]
    intro uncrossed
    have different : converse.relationshipId ≠ row.relationshipId := by
      intro equal
      have is_row := store.relationships.eq_of_key listed held equal
      subst is_row
      exact proper converse listed (congrArg Prod.fst back)
    have moved_in : row.moved .active time ∈ t.relationships.rows := by
      rw [rows]
      exact Table.mem_replaced.2 (.inl ⟨rfl, row, held, rfl⟩)
    have converse_in : converse ∈ t.relationships.rows := by
      rw [rows]
      exact Table.mem_replaced.2 (.inr ⟨listed, different⟩)
    exact uncrossed _ moved_in converse converse_in rfl active back

theorem activatedByInvited {calls : List RelationshipCall} {n : Nat} :
    ActivatedByInvited config calls n := by
  induction n with
  | zero =>
    intro row mem
    cases mem
  | succ n ih =>
    cases taken : calls[n]? with
    | none =>
      have finished : calls.length ≤ n := List.getElem?_eq_none_iff.1 taken
      intro row mem active
      rw [List.take_of_length_le (by omega)] at mem
      rw [← List.take_of_length_le finished] at mem
      obtain ⟨m, call, expected, early, rest⟩ := ih row mem active
      exact ⟨m, call, expected, Nat.lt_succ_of_lt early, rest⟩
    | some input =>
      have reached : run (householdStep config) {} (calls.take (n + 1)) =
          householdStep config (run (householdStep config) {} (calls.take n)) input :=
        run_take_succ taken
      intro row mem active
      have earlier : row ∈ (run (householdStep config) {} (calls.take n)).relationships.rows →
          ∃ m call expected, m < n + 1 ∧ calls[m]? = some ⟨call,
              .transition row.invitedSubjectId row.relationshipId .active expected⟩ ∧
            (∃ was ∈ (run (householdStep config) {} (calls.take m)).relationships.rows,
              was.relationshipId = row.relationshipId ∧ was.state ≠ .active) ∧
            ∃ now ∈ (run (householdStep config) {} (calls.take (m + 1))).relationships.rows,
              now.relationshipId = row.relationshipId ∧ now.state = .active := by
        intro held
        obtain ⟨m, call, expected, early, rest⟩ := ih row held active
        exact ⟨m, call, expected, Nat.lt_succ_of_lt early, rest⟩
      rw [reached] at mem
      obtain stays | ⟨answer, ran⟩ := householdStep_cases config
        (run (householdStep config) {} (calls.take n)) input
      · rw [stays] at mem
        exact earlier mem
      · obtain held | ⟨was, held, expected, time, moved, inactive, command, _⟩ :=
          active_of_step ran mem active
        · exact earlier held
        · have ids : was.relationshipId = row.relationshipId := by
            rw [moved]
            rfl
          refine ⟨n, input.call, expected, Nat.lt_succ_self n, ?_,
            ⟨was, held, ids, inactive⟩, row, ?_, rfl, active⟩
          · rw [taken, ← command]
          · rw [reached]
            exact mem

/-- In a run, the question of who may be named as passenger has its answer at all times exactly
when no call activates a relationship while the converse one is active. -/
theorem decided_iff_never_crossed (config : HouseholdConfig) (calls : List RelationshipCall) :
    (∀ n, Decided (run (householdStep config) {} (calls.take n)) ∧
        ActivatedByInvited config calls n) ↔
      Along (householdStep config) (fun store input => ¬ Crosses config store input) {} calls := by
  have proper : ∀ n, Proper (run (householdStep config) {} (calls.take n)) := by
    intro n
    have start : Proper {} := by
      intro row member
      cases member
    exact run_invariant (fun _ _ holds => Proper.step holds) (calls.take n) start
  constructor
  · intro decided
    refine along_of_taken fun n input taken crosses => ?_
    have broken := not_uncrossed_of_crosses (proper n) crosses
    have reached : run (householdStep config) {} (calls.take (n + 1)) =
        householdStep config (run (householdStep config) {} (calls.take n)) input :=
      run_take_succ taken
    rw [← reached] at broken
    exact broken ((decided_iff_uncrossed (proper (n + 1))).1 (decided (n + 1)).1)
  · intro along n
    have start : Uncrossed {} := by
      intro first left
      cases left
    have preserved : ∀ store input, ¬ Crosses config store input → Proper store ∧ Uncrossed store →
        Proper (householdStep config store input) ∧ Uncrossed (householdStep config store input) :=
      fun _ _ apart holds => ⟨holds.1.step, holds.2.step apart holds.1⟩
    have uncrossed := run_invariant_between preserved along (Nat.zero_le n) ⟨proper 0, start⟩
    exact ⟨(decided_iff_uncrossed (proper n)).2 uncrossed.2, activatedByInvited⟩

def sampleCall (n : Nat) (command : RelationshipCommand) : RelationshipCall where
  call :=
    { idempotencyKey := "key-of-call-" ++ toString n
      trace := { correlationId := n, requestId := n, commandId := some n, causationId := none }
      time := { instant := 3, offset := some 0 }, relationshipId := n, eventId := n, auditId := n }
  command

def crossedInvitations : List RelationshipCall :=
  [sampleCall 1 (.invite 7 8 .familyMember), sampleCall 2 (.invite 8 7 .familyMember),
   sampleCall 3 (.transition 8 1 .active 1), sampleCall 4 (.transition 7 2 .active 1)]

/-- Two people who invite each other and both accept cannot be asked about any more. -/
theorem crossed_invitations_undecided :
    ¬ ∀ (calls : List RelationshipCall) (n : Nat),
      Decided (run (householdStep ⟨id, id, fun _ => true⟩) {} (calls.take n)) ∧
        ActivatedByInvited ⟨id, id, fun _ => true⟩ calls n := by
  intro law
  obtain ⟨answer, validated, _⟩ := (law crossedInvitations 4).1 7 8
  have raised : (validateIntendedPassenger 7 8
      (run (householdStep ⟨id, id, fun _ => true⟩) {} (crossedInvitations.take 4))).isOk =
        false := by
    decide +kernel
  rw [validated] at raised
  cases raised

/-- One transition of a relationship, which stays between the same two people. -/
structure RelationshipStep (old new : HouseholdRelationship) : Prop where
  inviting : new.invitingSubjectId = old.invitingSubjectId
  invited : new.invitedSubjectId = old.invitedSubjectId
  kind : new.relationshipType = old.relationshipType
  version : new.version = old.version + 1
  leads : new.state ∈ old.state.transitions

/-- In any order of invitations and transitions by any subjects a relationship follows its graph one
version at a time, keeps its kind, its direction and its two people, and never disappears. -/
theorem relationships_progress (config : HouseholdConfig) (store : HouseholdStore)
    (calls : List RelationshipCall) :
    Kernel.Evolution.Evolves RelationshipStep store.relationships
      (run (householdStep config) store calls).relationships := by
  refine .of_run (T := fun s => s.relationships) (fun s call => ?_) store calls
  obtain stays | ⟨answer, ran⟩ := householdStep_cases config s call
  · exact .of_eq (congrArg (·.relationships) stays)
  cases command_effect ran with
  | idle same => exact .of_eq same
  | invited _ _ _ rows => exact .of_append rows
  | moved row _ target _ _ _ _ stored leads _ rows =>
    exact .of_replaced rows stored rfl (.single ⟨rfl, rfl, rfl, rfl, leads⟩)

end

end Ayo.CustomerProfile.PassengerAuthority
