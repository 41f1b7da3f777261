/- digest: When stored states follow the graph and consent comes before drivers. -/

import Ayo.Scheduled.Commitments

namespace Ayo.Scheduled.StateChanges

open Kernel.UnitOfWork Kernel.KeyedTable Kernel.Run Core.Values
open Application (Draws ScheduledConfig commitmentFor)
open Commitments Effects Engine Integration Models Repository Scheduled.System

def StatesFollow (before after : ScheduledStore) : Prop :=
  ∀ reservationId item, before.reservations.find reservationId = some item →
    ∃ now, after.reservations.find reservationId = some now ∧
      (now.state = item.state ∨ now.state ∈ allowedTransitions item.state)

def Consented (store : ScheduledStore) (item : ScheduledReservation) : Prop :=
  ∀ row ∈ store.participants.rows, row.reservationId = item.reservationId →
    row.payload.role = .passenger → row.payload.identityId ≠ some item.bookerId →
    row.payload.consentState = .confirmed

/-- The states follow the graph, terminal ones stay, and commitments have consent. -/
structure StatesInOrder (config : ScheduledConfig) (actions : List ScheduledAction) : Prop where
  followed : ∀ n, StatesFollow (run (scheduledStep config) {} (actions.take n))
    (run (scheduledStep config) {} (actions.take (n + 1)))
  ended : ∀ n m, n ≤ m → ∀ reservationId item,
    (run (scheduledStep config) {} (actions.take n)).reservations.find reservationId = some item →
    item.state ∈ terminalStates →
    ∃ now, (run (scheduledStep config) {} (actions.take m)).reservations.find reservationId =
      some now ∧ now.state = item.state
  consented : ∀ n, ∀ item ∈ (run (scheduledStep config) {} (actions.take n)).reservations.rows,
    item.state = .driverCommitted →
    Consented (run (scheduledStep config) {} (actions.take n)) item

/-- A commitment that is asked for in the state of its reservation and would be stored comes in
turn: out of the planning or the reassignment of the reservation. -/
def CommitsInTurn (config : ScheduledConfig) (store : ScheduledStore) : ScheduledAction → Prop
  | .commit draws reservation decision =>
    (∀ other ∈ store.commitments.rows,
      ¬ Row.clash other (commitmentFor config draws reservation decision)) →
    ∀ row ∈ store.reservations.find reservation.reservationId,
      row.version = reservation.version → row.activeCommitmentId = none →
      row.state ∈ [ReservationState.planning, .reassigning, .driverCommitted]
  | _ => True

instance (config : ScheduledConfig) (store : ScheduledStore) (action : ScheduledAction) :
    Decidable (CommitsInTurn config store action) :=
  match action with
  | .commit _ _ _ => inferInstanceAs (Decidable (_ → _))
  | .create _ _ _ _ | .update _ _ _ _ | .confirmOrDecline _ _ _ _ _ | .cancel _ _ _
  | .createPickupCode _ _ _ | .verifyPickup _ _ _ _ | .driverCommitmentResponse _ _ _ _ _
  | .driverProgress _ _ _ _ | .supportHandoff _ _ _ | .plan _ _ _ _ | .moveTo _ _ _ =>
    .isTrue trivial

def LeavesAnswers : ScheduledAction → Prop
  | .moveTo _ _ target => target ≠ .accepted
  | _ => True

instance (action : ScheduledAction) : Decidable (LeavesAnswers action) :=
  match action with
  | .moveTo _ _ _ => inferInstanceAs (Decidable (_ ≠ _))
  | .create _ _ _ _ | .update _ _ _ _ | .confirmOrDecline _ _ _ _ _ | .cancel _ _ _
  | .createPickupCode _ _ _ | .verifyPickup _ _ _ _ | .driverCommitmentResponse _ _ _ _ _
  | .driverProgress _ _ _ _ | .supportHandoff _ _ _ | .plan _ _ _ _ | .commit _ _ _ =>
    .isTrue trivial

def pastAcceptance : List ReservationState :=
  [.accepted, .planning, .driverCommitted, .revalidating, .reassigning, .fallbackDispatch,
   .driverEnRoute, .readyForPickup, .activatedAsRide, .fulfilled, .operationalReview]

/-- What runs that commit drivers in turn keep of the participants. -/
structure ConsentsKept (store : ScheduledStore) : Prop where
  known : ∀ row ∈ store.participants.rows, ∃ item ∈ store.reservations.rows,
    item.reservationId = row.reservationId
  single : ∀ a ∈ store.participants.rows, ∀ b ∈ store.participants.rows,
    a.reservationId = b.reservationId → a.payload.role = .passenger →
    b.payload.role = .passenger → a = b
  consented : ∀ item ∈ store.reservations.rows, item.state ∈ pastAcceptance → Consented store item

variable {s : ReservationState}

theorem pastAcceptance_of_allowed {next : ReservationState} (allowed : next ∈ allowedTransitions s)
    (past : next ∈ pastAcceptance) : s ∈ pastAcceptance ∨ next = .accepted := by
  cases s <;> cases next <;> revert allowed past <;> decide

theorem allowed_of_terminal {next : ReservationState} (terminal : s ∈ terminalStates) :
    next ∉ allowedTransitions s := by
  cases s <;> revert terminal <;> cases next <;> decide

section

variable {config : ScheduledConfig} {store t : ScheduledStore} {action : ScheduledAction}

theorem StatesFollow.refl (store : ScheduledStore) : StatesFollow store store :=
  fun _ item found => ⟨item, found, .inl rfl⟩

theorem statesFollow_of_replaced {row new : ScheduledReservation}
    (found : store.reservations.find new.reservationId = some row)
    (rows : t.reservations.rows = store.reservations.replaced new)
    (follows : new.state = row.state ∨ new.state ∈ allowedTransitions row.state) :
    StatesFollow store t := by
  intro reservationId item read
  have now := Table.find_of_rows_replaced rows reservationId
  by_cases same : reservationId = Row.key new
  · rw [if_pos same, read] at now
    rw [same] at read
    cases found.symm.trans read
    exact ⟨new, now, follows⟩
  · rw [if_neg same, read] at now
    exact ⟨item, now, .inl rfl⟩

theorem statesFollow_of_mutates {reservationId : Uuid} {target : Option ReservationState}
    (mutates : Mutates store t reservationId target) : StatesFollow store t := by
  obtain ⟨row, new, found, follows, mutation, rows⟩ := mutates
  have named : new.reservationId = reservationId :=
    mutation.reservationId.trans (id_of_find found)
  refine statesFollow_of_replaced (named.symm ▸ found) rows ?_
  rw [mutation.state]
  cases target with
  | none => exact .inl rfl
  | some next => exact follows next rfl

theorem statesFollow_of_append {item : ScheduledReservation}
    (rows : t.reservations.rows = store.reservations.rows ++ [item]) : StatesFollow store t := by
  intro reservationId earlier found
  refine ⟨earlier, ?_, .inl rfl⟩
  rw [Table.find_of_rows_append rows, found]
  rfl

theorem follows_of_inTurn
    (inTurn : s ∈ [ReservationState.planning, .reassigning, .driverCommitted]) :
    .driverCommitted = s ∨ .driverCommitted ∈ allowedTransitions s := by
  cases s <;> revert inTurn <;> decide

theorem inTurn_of_committed {draws : Draws} {reservation row : ScheduledReservation}
    {decision : CandidateDecision}
    (inTurn : CommitsInTurn config store (.commit draws reservation decision))
    (unlocked : Unlocked store reservation row)
    (commitments : t.commitments.rows =
      store.commitments.rows ++ [commitmentFor config draws reservation decision]) :
    row.state ∈ [ReservationState.planning, .reassigning, .driverCommitted] :=
  inTurn (Table.apart_of_rows_append commitments) row unlocked.1 unlocked.2.1 unlocked.2.2

theorem step_follows (inTurn : CommitsInTurn config store action) :
    StatesFollow store (scheduledStep config store action) := by
  have effect := step_effect config store action
  generalize scheduledStep config store action = t at effect
  cases effect with
  | kept reservations =>
    intro reservationId item found
    exact ⟨item, reservations ▸ found, .inl rfl⟩
  | opened reservations =>
    exact statesFollow_of_append reservations
  | mutated asked granted mutates =>
    exact statesFollow_of_mutates mutates
  | answered pending mutates =>
    exact statesFollow_of_mutates mutates
  | @committed draws reservation row decision unlocked commitments reservations participants
      softPlans verifications =>
    have found : store.reservations.find (committedRow row
        (commitmentFor config draws reservation decision)).reservationId = some row :=
      (id_of_find unlocked.1).symm ▸ unlocked.1
    exact statesFollow_of_replaced found reservations
      (follows_of_inTurn (inTurn_of_committed inTurn unlocked commitments))
  | planned selects free unlocked reservations =>
    exact statesFollow_of_mutates (mutates_of_planned unlocked reservations)

theorem inTurn_of_follows (follows : StatesFollow store (scheduledStep config store action)) :
    CommitsInTurn config store action := by
  cases action with
  | commit draws reservation decision =>
    intro free row found version unlocked
    obtain ⟨commitments, added⟩ := Table.exists_inserted free
    obtain ⟨reservations, rows⟩ := store.reservations.exists_replaced
      (committedRow row (commitmentFor config draws reservation decision)) fun a b same => same
    have ends : scheduledStep config store (.commit draws reservation decision) =
        { store with commitments, reservations } :=
      commit_of_ok (commit_ok.2 ⟨commitments, added, row, ⟨found, version, unlocked⟩, rfl,
        reservations, rows, rfl⟩)
    rw [ends] at follows
    obtain ⟨now, read, change⟩ := follows _ row found
    have written := Table.find_of_rows_replaced rows reservation.reservationId
    have named : reservation.reservationId = Row.key
        (committedRow row (commitmentFor config draws reservation decision)) :=
      (id_of_find found).symm
    rw [if_pos named, found] at written
    obtain rfl := Option.mem_unique read written
    have change : ReservationState.driverCommitted = row.state ∨
      ReservationState.driverCommitted ∈ allowedTransitions row.state := change
    revert change
    cases row.state <;> decide
  | _ => trivial

end

section

variable {config : ScheduledConfig} {store t : ScheduledStore} {subject : ScheduledSubject}
  {command : CreateCommand} {draws : Draws} {reservationId : Uuid} {action : ScheduledAction}

theorem single_passenger (draws : Draws) (subject : ScheduledSubject) (command : CreateCommand) :
    ∀ a ∈ participantsFor draws subject command, a.role = .passenger →
      a = passenger draws subject command := by
  intro a mem role
  unfold participantsFor at mem
  simp only [List.mem_append, List.mem_cons, List.not_mem_nil, or_false, Option.mem_toList,
    Option.map_eq_some_iff] at mem
  rcases mem with ((rfl | rfl) | ⟨contact, _, rfl⟩) | ⟨contact, _, rfl⟩
  · cases role
  · rfl
  · cases role
  · cases role

theorem accepted_own_booking
    (past : (reservationFor draws subject command).state ∈ pastAcceptance) :
    (passenger draws subject command).identityId = some subject.identityId := by
  unfold reservationFor at past
  unfold passenger
  by_cases own : command.passengerChannel = .identity
  · exact if_pos own
  · simp only [if_neg own] at past
    exact absurd past (by decide)

theorem ConsentsKept.opened (kept : ConsentsKept store)
    (reservations : t.reservations.rows =
      store.reservations.rows ++ [reservationFor draws subject command])
    (participants : t.participants.rows = store.participants.rows ++
      (participantsFor draws subject command).map (ParticipantRow.mk draws.reservationId)) :
    ConsentsKept t := by
  have absent := Table.find_eq_none.1 (Table.find_eq_none_of_rows_append reservations)
  have old_or_new : ∀ row ∈ t.participants.rows,
      (row ∈ store.participants.rows ∧ row.reservationId ≠ draws.reservationId) ∨
        (row.reservationId = draws.reservationId ∧
          row.payload ∈ participantsFor draws subject command) := by
    intro row mem
    rw [participants] at mem
    rcases List.mem_append.1 mem with earlier | new
    · obtain ⟨item, held, own⟩ := kept.known row earlier
      exact .inl ⟨earlier, fun same => absent item held (own.trans same)⟩
    · obtain ⟨payload, listed, rfl⟩ := List.mem_map.1 new
      exact .inr ⟨rfl, listed⟩
  refine ⟨fun row mem => ?_, fun a first b second same passes rides => ?_,
    fun item mem past row held own role third => ?_⟩
  · rw [reservations]
    rcases old_or_new row mem with ⟨earlier, _⟩ | ⟨new, _⟩
    · obtain ⟨item, held, own⟩ := kept.known row earlier
      exact ⟨item, List.mem_append_left _ held, own⟩
    · exact ⟨_, List.mem_append_right _ (List.mem_singleton_self _), new.symm⟩
  · rcases old_or_new a first with ⟨earlier, other⟩ | ⟨new, listed⟩
    · rcases old_or_new b second with ⟨held, _⟩ | ⟨joined, _⟩
      · exact kept.single a earlier b held same passes rides
      · exact absurd (same.trans joined) other
    · rcases old_or_new b second with ⟨_, other⟩ | ⟨joined, named⟩
      · exact absurd (same.symm.trans new) other
      · obtain ⟨id, payload⟩ := a
        obtain ⟨other, payload'⟩ := b
        obtain rfl := single_passenger draws subject command payload listed passes
        obtain rfl := single_passenger draws subject command payload' named rides
        exact congrArg (ParticipantRow.mk · _) same
  · rcases (mem_appended reservations).1 mem with earlier | rfl
    · rcases old_or_new row held with ⟨stored, _⟩ | ⟨joined, _⟩
      · exact kept.consented item earlier past row stored own role third
      · exact absurd (own.symm.trans joined) (absent item earlier)
    · rcases old_or_new row held with ⟨_, other⟩ | ⟨_, listed⟩
      · exact absurd own other
      · rw [single_passenger draws subject command row.payload listed role] at third
        exact absurd (accepted_own_booking past) third

theorem ConsentsKept.replaced {row new : ScheduledReservation} (kept : ConsentsKept store)
    (held : row ∈ store.reservations.rows)
    (rows : t.reservations.rows = store.reservations.replaced new)
    (participants : t.participants = store.participants)
    (id : new.reservationId = row.reservationId) (booker : new.bookerId = row.bookerId)
    (past : new.state ∈ pastAcceptance → row.state ∈ pastAcceptance) : ConsentsKept t := by
  refine ⟨?_, ?_, fun item mem later => ?_⟩
  · rw [participants]
    exact fun part mem => known_of_replaced rows (kept.known part mem)
  · exact participants ▸ kept.single
  · unfold Consented
    rw [participants]
    rw [rows] at mem
    rcases Table.mem_replaced.1 mem with ⟨rfl, _⟩ | ⟨earlier, _⟩
    · rw [id, booker]
      exact kept.consented row held (past later)
    · exact kept.consented item earlier later

theorem ConsentsKept.answered {confirmed : Bool} {passenger : Participant}
    (kept : ConsentsKept store)
    (mutates : Mutates store t reservationId (some (answerOf confirmed)))
    (held : ⟨reservationId, passenger⟩ ∈ store.participants.rows)
    (role : passenger.role = .passenger)
    (participants : t.participants.rows = store.participants.replaced
      ⟨reservationId, { passenger with consentState := consentOf confirmed }⟩) :
    ConsentsKept t := by
  obtain ⟨row, new, found, _, mutation, rows⟩ := mutates
  have named : new.reservationId = reservationId :=
    mutation.reservationId.trans (id_of_find found)
  -- every row of a passenger is the one of before, or the one that has answered
  have before_or_answered : ∀ part ∈ t.participants.rows, (part ∈ store.participants.rows ∧
        (part.reservationId = reservationId → part.payload.role ≠ .passenger)) ∨
      part = ⟨reservationId, { passenger with consentState := consentOf confirmed }⟩ := by
    intro part mem
    rw [participants] at mem
    rcases Table.mem_replaced.1 mem with ⟨answered, _⟩ | ⟨earlier, other⟩
    · exact .inr answered
    · refine .inl ⟨earlier, fun own passes => other ?_⟩
      rw [kept.single part earlier _ held own passes role]
      rfl
  refine ⟨fun part mem => ?_, fun a first b second same passes rides => ?_,
    fun item mem past part listed own passes third => ?_⟩
  · rcases before_or_answered part mem with ⟨earlier, _⟩ | rfl
    · exact known_of_replaced rows (kept.known part earlier)
    · have known := kept.known _ held
      exact known_of_replaced rows known
  · rcases before_or_answered a first with ⟨earlier, other⟩ | rfl
    · rcases before_or_answered b second with ⟨held, _⟩ | rfl
      · exact kept.single a earlier b held same passes rides
      · exact absurd passes (other same)
    · rcases before_or_answered b second with ⟨_, other⟩ | rfl
      · exact absurd rides (other same.symm)
      · rfl
  · rw [rows] at mem
    rcases Table.mem_replaced.1 mem with ⟨rfl, _⟩ | ⟨earlier, other⟩
    · rcases before_or_answered part listed with ⟨_, other⟩ | rfl
      · exact absurd passes (other (own.trans named))
      · cases confirmed with
        | true => rfl
        | false =>
          rw [mutation.state] at past
          have past : ReservationState.passengerDeclined ∈ pastAcceptance := past
          exact absurd past (by decide)
    · rcases before_or_answered part listed with ⟨stored, _⟩ | rfl
      · exact kept.consented item earlier past part stored own passes third
      · exact absurd (own.symm.trans named.symm) other

theorem not_accepted_of_asks {next : ReservationState}
    (asked : asks action = some (reservationId, some next)) (leaves : LeavesAnswers action) :
    next ≠ .accepted := by
  cases action with
  | moveTo =>
    cases asked
    exact leaves
  | driverCommitmentResponse subject draws id accepted =>
    cases accepted <;> cases asked
    decide
  | driverProgress subject draws id ready =>
    cases ready <;> cases asked <;> decide
  | cancel =>
    cases asked
    decide
  | verifyPickup =>
    cases asked
    decide
  | _ => cases asked

theorem step_keeps_consents (inTurn : CommitsInTurn config store action)
    (leaves : LeavesAnswers action) (kept : ConsentsKept store) :
    ConsentsKept (scheduledStep config store action) := by
  have effect := step_effect config store action
  generalize scheduledStep config store action = t at effect
  cases effect with
  | kept reservations participants =>
    refine ⟨?_, ?_, ?_⟩
    · exact reservations ▸ participants ▸ kept.known
    · exact participants ▸ kept.single
    · unfold Consented
      rw [reservations, participants]
      exact kept.consented
  | opened reservations participants =>
    exact kept.opened reservations participants
  | @mutated _ reservationId target asked granted mutates participants =>
    obtain ⟨row, new, found, follows, mutation, rows⟩ := mutates
    refine kept.replaced (Table.mem_of_find found) rows participants mutation.reservationId
      mutation.bookerId fun past => ?_
    rw [mutation.state] at past
    cases target with
    | none => exact past
    | some next =>
      rcases follows next rfl with rfl | allowed
      · exact past
      · rcases pastAcceptance_of_allowed allowed past with already | accepted
        · exact already
        · exact absurd accepted (not_accepted_of_asks asked leaves)
  | answered pending mutates held role participants =>
    exact kept.answered mutates held role participants
  | @committed draws reservation row decision unlocked commitments reservations participants
      softPlans verifications =>
    refine kept.replaced (Table.mem_of_find unlocked.1) reservations participants rfl rfl
      fun _ => ?_
    have turn := inTurn_of_committed inTurn unlocked commitments
    revert turn
    cases row.state <;> decide
  | planned selects free unlocked reservations participants =>
    exact kept.replaced (Table.mem_of_find unlocked.1) reservations participants rfl rfl id

theorem consentsKept_empty : ConsentsKept {} :=
  ⟨fun _ held => absurd held List.not_mem_nil, fun _ held => absurd held List.not_mem_nil,
    fun _ held => absurd held List.not_mem_nil⟩

end

/-- While no worker answers for a passenger, the states of a run are in order exactly when every
commitment that is stored comes in turn. -/
theorem states_in_order_iff (config : ScheduledConfig) (actions : List ScheduledAction)
    (leaves : ∀ action ∈ actions, LeavesAnswers action) :
    StatesInOrder config actions ↔
      Along (scheduledStep config) (CommitsInTurn config) {} actions := by
  constructor
  · intro order
    refine along_of_taken fun n action taken => ?_
    have followed := order.followed n
    rw [run_take_succ taken] at followed
    exact inTurn_of_follows followed
  · intro along
    have followed : ∀ n, StatesFollow (run (scheduledStep config) {} (actions.take n))
        (run (scheduledStep config) {} (actions.take (n + 1))) := by
      intro n
      cases taken : actions[n]? with
      | none =>
        have finished : actions.length ≤ n := List.getElem?_eq_none_iff.1 taken
        rw [List.take_of_length_le finished, List.take_of_length_le (by omega)]
        exact .refl _
      | some action =>
        rw [run_take_succ taken]
        exact step_follows (guard_of_along along taken)
    refine ⟨followed, fun n m le reservationId item found terminal => ?_, fun n => ?_⟩
    · obtain ⟨passed, rfl⟩ := Nat.exists_eq_add_of_le le
      induction passed with
      | zero => exact ⟨item, found, rfl⟩
      | succ passed ih =>
        obtain ⟨now, read, same⟩ := ih (Nat.le_add_right n passed)
        obtain ⟨next, later, change⟩ := followed (n + passed) reservationId now read
        refine ⟨next, later, ?_⟩
        rcases change with stays | allowed
        · exact stays.trans same
        · exact absurd allowed (allowed_of_terminal (same ▸ terminal))
    · have both : Along (scheduledStep config)
          (fun store action => CommitsInTurn config store action ∧ LeavesAnswers action) {}
          actions :=
        along_of_taken fun k action taken =>
          ⟨guard_of_along along taken, leaves action (List.mem_of_getElem? taken)⟩
      have kept : ConsentsKept (run (scheduledStep config) {} (actions.take n)) :=
        run_invariant_between (fun _ _ guarded => step_keeps_consents guarded.1 guarded.2) both
          (Nat.zero_le n) consentsKept_empty
      intro item stored committed
      refine kept.consented item stored ?_
      rw [committed]
      decide

theorem states_in_order_declined : StatesInOrder scheduledConfig declinedTrip :=
  (states_in_order_iff scheduledConfig declinedTrip (by decide)).2 (by decide +kernel)

def contactOfFriend : BoundedText 16 128 := ⟨"contact.reference.friend", by decide⟩

def bookingForFriend : CreateCommand :=
  bookingThrough .verifiedContact (some contactOfFriend)
    (iff_of_false (by decide) (Option.some_ne_none _))

def unansweredCommitment : List ScheduledAction :=
  [.create rider (drawsAt 1) bookingForFriend "booking-for-friend",
   .commit (drawsAt 2) (reservationFor (drawsAt 1) rider bookingForFriend) decisionOnDriver]

/-- The reservation has a driver although the friend has not confirmed. -/
theorem committed_unanswered :
    ¬ ∀ (config : ScheduledConfig) (actions : List ScheduledAction),
      (∀ action ∈ actions, LeavesAnswers action) → StatesInOrder config actions := by
  intro claimed
  have order := claimed scheduledConfig unansweredCommitment (by decide)
  have committed : ∃ item ∈ (run (scheduledStep scheduledConfig) {}
      (unansweredCommitment.take 2)).reservations.rows, item.state = .driverCommitted ∧
        ∃ row ∈ (run (scheduledStep scheduledConfig) {}
          (unansweredCommitment.take 2)).participants.rows,
          row.reservationId = item.reservationId ∧ row.payload.role = .passenger ∧
            row.payload.identityId ≠ some item.bookerId ∧
            row.payload.consentState ≠ .confirmed := by
    decide +kernel
  obtain ⟨item, stored, state, row, listed, own, role, third, unconfirmed⟩ := committed
  exact unconfirmed (order.consented 2 item stored state row listed own role third)

end Ayo.Scheduled.StateChanges
