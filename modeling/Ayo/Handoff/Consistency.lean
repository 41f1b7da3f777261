/- digest: Handoffs, offers and assignments tell one story after every run. -/

import Ayo.Handoff.Responses

namespace Ayo.Handoff.Consistency

open Kernel.KeyedTable Kernel.Run Kernel.Updates Core.Values Effects Models Repository Responses
  Service Handoff.System

variable (store : HandoffStore) (handoffId : Uuid)

def offersIn (state : HandoffOfferState) : List HandoffOffer :=
  store.offers.rows.filter fun offer => offer.handoffId = handoffId ∧ offer.state = state

def assignmentsOf : List HandoffAssignment :=
  store.assignments.rows.filter fun assignment => assignment.handoffId = handoffId

def AssignedOnce (handoff : DispatchHandoff) : Prop :=
  ∃ assignment offer, assignmentsOf store handoff.handoffId = [assignment] ∧
    store.offers.find assignment.offerId = some offer ∧ offer.state = .accepted ∧
    offer.handoffId = handoff.handoffId ∧ offer.driverId = assignment.driverId ∧
    handoff.assignedDriverId = some assignment.driverId

/-- What the offers and the assignments of a handoff say about it, and it about them. -/
structure OneStory (store : HandoffStore) (handoff : DispatchHandoff) : Prop where
  atMostOne : (offersIn store handoff.handoffId .created).length ≤ 1
  offering : handoff.state = .offering ↔ (offersIn store handoff.handoffId .created).length = 1
  assigned : handoff.state = .assigned ↔ AssignedOnce store handoff
  ended : handoff.state ∈ [HandoffState.cancelled, .noDriver] →
    offersIn store handoff.handoffId .created = [] ∧
    offersIn store handoff.handoffId .accepted = [] ∧ assignmentsOf store handoff.handoffId = []

def StateAt (state : HandoffState) : Prop :=
  ∃ handoff, store.handoffs.find handoffId = some handoff ∧ handoff.state = state

/-- What every open or accepted offer and every assignment asks of its handoff, and what an
offering or assigned handoff asks of them. -/
structure Consistent (store : HandoffStore) : Prop where
  offering : ∀ offer ∈ store.offers.rows, offer.state = .created →
    StateAt store offer.handoffId .offering
  accepted : ∀ offer ∈ store.offers.rows, offer.state = .accepted →
    StateAt store offer.handoffId .assigned
  taken : ∀ assignment ∈ store.assignments.rows, ∃ handoff,
    store.handoffs.find assignment.handoffId = some handoff ∧ handoff.state = .assigned ∧
      handoff.assignedDriverId = some assignment.driverId
  answered : ∀ assignment ∈ store.assignments.rows, ∃ offer,
    store.offers.find assignment.offerId = some offer ∧ offer.state = .accepted ∧
      offer.handoffId = assignment.handoffId ∧ offer.driverId = assignment.driverId
  offered : ∀ handoff ∈ store.handoffs.rows, handoff.state = .offering →
    ∃ offer ∈ store.offers.rows, offer.handoffId = handoff.handoffId ∧ offer.state = .created
  assigned : ∀ handoff ∈ store.handoffs.rows, handoff.state = .assigned →
    ∃ assignment ∈ store.assignments.rows, assignment.handoffId = handoff.handoffId

section

variable {store t : HandoffStore} {handoff changed : DispatchHandoff} {outcome : HandoffOfferState}
  {offer : HandoffOffer} {handoffId : Uuid}

abbrev settledOffer (handoffId : Uuid) (outcome : HandoffOfferState) : HandoffOffer → HandoffOffer :=
  updateWhere (fun offer => offer.handoffId = handoffId ∧ offer.state = .created)
    fun offer => resolvedOffer offer outcome

theorem offers_of_resolves (resolves : Resolves store t offer outcome handoff) :
    t.offers.rows = store.offers.rows.map (settledOffer handoff.handoffId outcome) := by
  have held := Table.mem_of_find resolves.found
  rw [resolves.rows]
  symm
  refine map_updateWhere held (fun other mem => ?_) rfl
  constructor
  · rintro ⟨own, created⟩
    have clash : Row.clash other offer :=
      .inr ⟨created, resolves.created, .inl (own.trans resolves.own.symm)⟩
    rw [store.offers.eq_of_clash mem held clash]
  · intro same
    rw [store.offers.eq_of_key mem held same]
    exact ⟨resolves.own, resolves.created⟩

theorem settledOffer_of_ne (different : offer.handoffId ≠ handoffId ∨ offer.state ≠ .created) :
    settledOffer handoffId outcome offer = offer :=
  if_neg fun meets => different.elim (fun other => other meets.1) fun other => other meets.2

theorem settledOffer_of_created (own : offer.handoffId = handoffId)
    (created : offer.state = .created) :
    settledOffer handoffId outcome offer = resolvedOffer offer outcome :=
  if_pos ⟨own, created⟩

theorem offerId_settledOffer (handoffId : Uuid) (offer : HandoffOffer) :
    (settledOffer handoffId outcome offer).offerId = offer.offerId := by
  unfold settledOffer updateWhere
  split <;> rfl

theorem stateAt_of_moves {state : HandoffState} (moves : Moves store t handoff changed)
    (there : StateAt store handoffId state) (different : handoff.state ≠ state) :
    StateAt t handoffId state := by
  obtain ⟨other, found, same⟩ := there
  refine ⟨other, ?_, same⟩
  rw [find_of_moves moves, if_neg]
  · exact found
  · rintro rfl
    rw [moves.found] at found
    exact different (Option.some.inj found ▸ same)

structure Assigns (store after : HandoffStore) (handoff changed : DispatchHandoff)
    (outcome : HandoffOfferState) : Prop where
  kept : ∀ assignment ∈ store.assignments.rows, assignment ∈ after.assignments.rows
  fresh : ∀ assignment ∈ after.assignments.rows, assignment ∈ store.assignments.rows ∨
    (outcome = .accepted ∧ changed.state = .assigned ∧
      changed.assignedDriverId = some assignment.driverId ∧
      assignment.handoffId = handoff.handoffId ∧
      ∃ offer, store.offers.find assignment.offerId = some offer ∧ offer.state = .created ∧
        offer.handoffId = handoff.handoffId ∧ offer.driverId = assignment.driverId)
  taken : changed.state = .assigned →
    ∃ assignment ∈ after.assignments.rows, assignment.handoffId = handoff.handoffId

theorem assigns_of_same (same : t.assignments = store.assignments)
    (unassigned : changed.state ≠ .assigned) : Assigns store t handoff changed outcome := by
  refine ⟨fun assignment held => ?_, fun assignment held => .inl ?_,
    fun assigned => absurd assigned unassigned⟩
  · rwa [same]
  · rwa [same] at held

theorem consistent_of_settled (consistent : Consistent store)
    (moves : Moves store t handoff changed) (unassigned : handoff.state ≠ .assigned)
    (offers : t.offers.rows = store.offers.rows.map (settledOffer handoff.handoffId outcome))
    (resolved : outcome ≠ .created) (closed : changed.state ≠ .offering)
    (accepts : outcome = .accepted → changed.state = .assigned)
    (assigns : Assigns store t handoff changed outcome) : Consistent t := by
  have settled : ∀ offer ∈ t.offers.rows, ∃ old ∈ store.offers.rows,
      settledOffer handoff.handoffId outcome old = offer := by
    intro offer mem
    rw [offers] at mem
    exact List.mem_map.1 mem
  have found_offer : ∀ offerId, t.offers.find offerId =
      (store.offers.find offerId).map (settledOffer handoff.handoffId outcome) :=
    Table.find_of_rows_map (offerId_settledOffer handoff.handoffId) offers
  have moved : t.handoffs.find handoff.handoffId = some changed := by
    rw [find_of_moves moves, if_pos rfl]
  refine ⟨fun offer mem created => ?_, fun offer mem accepted => ?_,
    fun assignment mem => ?_, fun assignment mem => ?_, fun other mem offering => ?_,
    fun other mem assigned => ?_⟩
  · -- a created offer was one before, of another handoff
    obtain ⟨old, held, rfl⟩ := settled offer mem
    by_cases meets : old.handoffId = handoff.handoffId ∧ old.state = .created
    · rw [settledOffer_of_created meets.1 meets.2] at created
      exact absurd created resolved
    · rw [settledOffer, updateWhere, if_neg meets] at created ⊢
      obtain ⟨other, found, offering⟩ := consistent.offering old held created
      refine ⟨other, ?_, offering⟩
      rw [find_of_moves moves, if_neg fun own => meets ⟨own, created⟩]
      exact found
  · obtain ⟨old, held, rfl⟩ := settled offer mem
    by_cases meets : old.handoffId = handoff.handoffId ∧ old.state = .created
    · rw [settledOffer_of_created meets.1 meets.2] at accepted ⊢
      exact ⟨changed, meets.1.symm ▸ moved, accepts accepted⟩
    · rw [settledOffer, updateWhere, if_neg meets] at accepted ⊢
      exact stateAt_of_moves moves (consistent.accepted old held accepted) unassigned
  · rcases assigns.fresh assignment mem with old | ⟨_, assigned, driver, own, _⟩
    · obtain ⟨other, found, assigned, driver⟩ := consistent.taken assignment old
      refine ⟨other, ?_, assigned, driver⟩
      rw [find_of_moves moves, if_neg]
      · exact found
      · intro same
        rw [same, moves.found] at found
        exact unassigned (Option.some.inj found ▸ assigned)
    · exact ⟨changed, own.symm ▸ moved, assigned, driver⟩
  · rcases assigns.fresh assignment mem with old | ⟨accepted, _, _, own, offer, rest⟩
    · obtain ⟨offer, found, accepted, own, driver⟩ := consistent.answered assignment old
      refine ⟨offer, ?_, accepted, own, driver⟩
      have different : offer.state ≠ .created := by simp [accepted]
      rw [found_offer, found, Option.map_some, settledOffer_of_ne (.inr different)]
    · obtain ⟨found, created, named, driver⟩ := rest
      refine ⟨resolvedOffer offer outcome, ?_, accepted, named.trans own.symm, driver⟩
      rw [found_offer, found, Option.map_some, settledOffer_of_created named created]
  · -- an offering handoff is another one, and its created offer is left alone
    have found := Table.find_of_mem mem
    change t.handoffs.find other.handoffId = some other at found
    rw [find_of_moves moves] at found
    split at found
    · exact absurd (Option.some.inj found ▸ offering) closed
    · rename_i different
      obtain ⟨offer, held, own, created⟩ :=
        consistent.offered other (Table.mem_of_find found) offering
      refine ⟨offer, ?_, own, created⟩
      rw [offers]
      refine List.mem_map.2 ⟨offer, held, settledOffer_of_ne (.inl ?_)⟩
      exact fun same => different (own.symm.trans same)
  · have found := Table.find_of_mem mem
    change t.handoffs.find other.handoffId = some other at found
    rw [find_of_moves moves] at found
    split at found
    · rename_i same
      obtain ⟨assignment, held, own⟩ := assigns.taken (Option.some.inj found ▸ assigned)
      exact ⟨assignment, held, own.trans same.symm⟩
    · obtain ⟨assignment, held, own⟩ :=
        consistent.assigned other (Table.mem_of_find found) assigned
      exact ⟨assignment, assigns.kept assignment held, own⟩

end

section

variable {config : HandoffConfig} {store t : HandoffStore} {handoff : DispatchHandoff}
  {time : Instant} {offer : HandoffOffer}

theorem consistent_of_closes {state : HandoffState} {outcome : HandoffOfferState}
    {eventType : String} (consistent : Consistent store) (unassigned : handoff.state ≠ .assigned)
    (closes : Closes store t handoff state outcome eventType time)
    (ended : state = .cancelled ∨ state = .noDriver)
    (resolved : outcome = .cancelled ∨ outcome = .expired) : Consistent t := by
  refine consistent_of_settled consistent closes.moves unassigned closes.offers ?_ ?_ ?_
    (assigns_of_same closes.assignments ?_)
  · rcases resolved with rfl | rfl <;> simp
  · rcases ended with rfl | rfl <;> simp [DispatchHandoff.moved]
  · rcases resolved with rfl | rfl <;> simp
  · rcases ended with rfl | rfl <;> simp [DispatchHandoff.moved]

theorem consistent_of_sweeps (consistent : Consistent store)
    (sweeps : Relation.ReflTransGen (SweepsOne time) store t) : Consistent t := by
  induction sweeps with
  | refl => exact consistent
  | tail _ sweep ih =>
    obtain ⟨handoff, unassigned, closes⟩ := sweep
    refine consistent_of_closes ih ?_ closes (.inr rfl) (.inr rfl)
    intro assigned
    simp [assigned] at unassigned

theorem consistent_of_offered (consistent : Consistent store)
    (moves : Moves store t handoff (handoff.moved .offering))
    (searching : handoff.state = .searching) (created : offer.state = .created)
    (own : offer.handoffId = handoff.handoffId)
    (offers : t.offers.rows = store.offers.rows ++ [offer])
    (assignments : t.assignments = store.assignments) : Consistent t := by
  have moved : t.handoffs.find handoff.handoffId = some (handoff.moved .offering) := by
    rw [find_of_moves moves, if_pos rfl]
  have unassigned : handoff.state ≠ .assigned := by simp [searching]
  have appended : ∀ other ∈ t.offers.rows, other ∈ store.offers.rows ∨ other = offer := by
    intro other mem
    rwa [offers, List.mem_append, List.mem_singleton] at mem
  refine ⟨fun other mem open_ => ?_, fun other mem accepted => ?_,
    fun assignment mem => ?_, fun assignment mem => ?_, fun other mem offering => ?_,
    fun other mem assigned => ?_⟩
  · rcases appended other mem with old | rfl
    · exact stateAt_of_moves moves (consistent.offering other old open_) (by simp [searching])
    · exact ⟨_, own.symm ▸ moved, rfl⟩
  · rcases appended other mem with old | rfl
    · exact stateAt_of_moves moves (consistent.accepted other old accepted) unassigned
    · rw [created] at accepted
      cases accepted
  · rw [assignments] at mem
    obtain ⟨other, found, assigned, driver⟩ := consistent.taken assignment mem
    refine ⟨other, ?_, assigned, driver⟩
    rw [find_of_moves moves, if_neg]
    · exact found
    · intro same
      rw [same, moves.found] at found
      exact unassigned (Option.some.inj found ▸ assigned)
  · rw [assignments] at mem
    obtain ⟨other, found, rest⟩ := consistent.answered assignment mem
    refine ⟨other, ?_, rest⟩
    rw [Table.find_of_rows_append offers, found]
    rfl
  · have found := Table.find_of_mem mem
    change t.handoffs.find other.handoffId = some other at found
    rw [find_of_moves moves] at found
    split at found
    · rename_i same
      exact ⟨offer, by simp [offers], own.trans same.symm, created⟩
    · obtain ⟨old, held, rest⟩ := consistent.offered other (Table.mem_of_find found) offering
      exact ⟨old, by simp [offers, held], rest⟩
  · have found := Table.find_of_mem mem
    change t.handoffs.find other.handoffId = some other at found
    rw [find_of_moves moves] at found
    split at found
    · obtain rfl := Option.some.inj found
      cases assigned
    · rw [assignments]
      exact consistent.assigned other (Table.mem_of_find found) assigned

theorem consistent_of_received (consistent : Consistent store)
    (handoffs : t.handoffs.rows = store.handoffs.rows ++ [handoff])
    (searching : handoff.state = .searching) (offers : t.offers = store.offers)
    (assignments : t.assignments = store.assignments) : Consistent t := by
  have found_of_old : ∀ {handoffId other}, store.handoffs.find handoffId = some other →
      t.handoffs.find handoffId = some other := by
    intro handoffId other found
    rw [Table.find_of_rows_append handoffs, found]
    rfl
  have old_of_state : ∀ {other : DispatchHandoff}, other ∈ t.handoffs.rows →
      other.state ≠ .searching → other ∈ store.handoffs.rows := by
    intro other mem state
    rcases (mem_appended handoffs).1 mem with old | rfl
    · exact old
    · exact absurd searching state
  refine ⟨fun offer mem created => ?_, fun offer mem accepted => ?_,
    fun assignment mem => ?_, fun assignment mem => ?_, fun other mem offering => ?_,
    fun other mem assigned => ?_⟩
  · rw [offers] at mem
    obtain ⟨other, found, offering⟩ := consistent.offering offer mem created
    exact ⟨other, found_of_old found, offering⟩
  · rw [offers] at mem
    obtain ⟨other, found, assigned⟩ := consistent.accepted offer mem accepted
    exact ⟨other, found_of_old found, assigned⟩
  · rw [assignments] at mem
    obtain ⟨other, found, rest⟩ := consistent.taken assignment mem
    exact ⟨other, found_of_old found, rest⟩
  · rw [assignments] at mem
    rw [offers]
    exact consistent.answered assignment mem
  · rw [offers]
    exact consistent.offered other (old_of_state mem (by simp [offering])) offering
  · rw [assignments]
    exact consistent.assigned other (old_of_state mem (by simp [assigned])) assigned

theorem assigns_of_answered {response : OfferResponse}
    (resolves : Resolves store t offer .accepted handoff)
    (driver : offer.driverId = response.driverId)
    (assignments : t.assignments.rows = store.assignments.rows ++ [assignmentOf response offer]) :
    Assigns store t handoff
      { handoff.moved .assigned with assignedDriverId := some response.driverId } .accepted := by
  refine ⟨fun assignment held => ?_, fun assignment held => ?_, fun _ => ?_⟩
  · rw [assignments]
    exact List.mem_append_left _ held
  · rcases (mem_appended assignments).1 held with old | rfl
    · exact .inl old
    · exact .inr ⟨rfl, rfl, rfl, resolves.own, offer, resolves.found, resolves.created,
        resolves.own, driver⟩
  · exact ⟨assignmentOf response offer, by simp [assignments], resolves.own⟩

theorem consistent_of_same (consistent : Consistent store)
    (handoffs : t.handoffs = store.handoffs) (offers : t.offers = store.offers)
    (assignments : t.assignments = store.assignments) : Consistent t := by
  obtain ⟨offering, accepted, taken, answered, offered, assigned⟩ := consistent
  constructor <;> simp only [StateAt, handoffs, offers, assignments] <;> assumption

theorem step_consistent {action : HandoffAction} (effect : HandoffEffect config store t action)
    (consistent : Consistent store) : Consistent t := by
  cases effect with
  | kept handoffs offers assignments | emptyRound found unranked handoffs offers assignments =>
    exact consistent_of_same consistent handoffs offers assignments
  | received handoffs searching first offers assignments =>
    exact consistent_of_received consistent handoffs searching offers assignments
  | offered moves searching created own offers assignments =>
    exact consistent_of_offered consistent moves searching created own offers assignments
  | resolved moves resolves ended assignments =>
    refine consistent_of_settled consistent moves ?_ (offers_of_resolves resolves) ?_ ?_ ?_
      (assigns_of_same assignments ?_)
    · simp [resolves.offering]
    · rintro rfl
      simp at ended
    · simp [DispatchHandoff.moved]
    · rintro rfl
      simp at ended
    · simp [DispatchHandoff.moved]
  | assigned moves resolves carries assignments =>
    refine consistent_of_settled consistent moves ?_ (offers_of_resolves resolves) ?_ ?_ ?_
      (assigns_of_answered resolves carries.driver assignments)
    · simp [resolves.offering]
    · simp
    · simp [DispatchHandoff.moved]
    · exact fun _ => rfl
  | cancelled unassigned closes =>
    exact consistent_of_closes consistent unassigned closes (.inl rfl) (.inl rfl)
  | swept sweeps => exact consistent_of_sweeps consistent sweeps

theorem run_consistent (apart : OffersApart config.hash) (actions : List HandoffAction) :
    Consistent (run (handoffStep config) {} actions) := by
  refine run_effects apart ?_ (fun store t action effect => step_consistent effect) actions
  constructor <;> intro row held <;> exact absurd held List.not_mem_nil

end

section

variable {store : HandoffStore} {offer : HandoffOffer} {assignment : HandoffAssignment}
  {handoff : DispatchHandoff}

theorem mem_offersIn {handoffId : Uuid} {state : HandoffOfferState} :
    offer ∈ offersIn store handoffId state ↔
      offer ∈ store.offers.rows ∧ offer.handoffId = handoffId ∧ offer.state = state := by
  unfold offersIn
  rw [List.mem_filter, decide_eq_true_eq]

theorem offersIn_created_eq (held : offer ∈ store.offers.rows) (created : offer.state = .created) :
    offersIn store offer.handoffId .created = [offer] := by
  refine store.offers.filter_eq_singleton held (decide_eq_true ⟨rfl, created⟩) ?_
  intro other mem meets
  obtain ⟨own, open_⟩ := of_decide_eq_true meets
  exact store.offers.eq_of_clash mem held (.inr ⟨open_, created, .inl own⟩)

theorem offersIn_created_length (store : HandoffStore) (handoffId : Uuid) :
    offersIn store handoffId .created = [] ∨
      ∃ offer, offersIn store handoffId .created = [offer] := by
  cases listed : offersIn store handoffId .created with
  | nil => exact .inl rfl
  | cons offer rest =>
    obtain ⟨held, rfl, created⟩ := mem_offersIn.1 (listed ▸ List.mem_cons_self)
    rw [offersIn_created_eq held created] at listed
    exact .inr ⟨offer, listed.symm⟩

theorem assignmentsOf_eq (held : assignment ∈ store.assignments.rows) :
    assignmentsOf store assignment.handoffId = [assignment] := by
  refine store.assignments.filter_eq_singleton held (decide_eq_true rfl) ?_
  intro other mem meets
  exact store.assignments.eq_of_clash mem held (.inr (.inl (of_decide_eq_true meets)))

theorem state_of_stateAt {state : HandoffState} (held : handoff ∈ store.handoffs.rows)
    (there : StateAt store handoff.handoffId state) : handoff.state = state := by
  obtain ⟨other, found, same⟩ := there
  have own : store.handoffs.find handoff.handoffId = some handoff := Table.find_of_mem held
  rw [own] at found
  rwa [Option.some.inj found]

theorem assignedOnce_of_mem (consistent : Consistent store) (held : handoff ∈ store.handoffs.rows)
    (taken : assignment ∈ store.assignments.rows) (own : assignment.handoffId = handoff.handoffId) :
    handoff.state = .assigned ∧ AssignedOnce store handoff := by
  obtain ⟨other, found, assigned, driver⟩ := consistent.taken assignment taken
  obtain ⟨offer, answered, accepted, named, offerDriver⟩ := consistent.answered assignment taken
  have found_own : store.handoffs.find handoff.handoffId = some handoff :=
    Table.find_of_mem held
  rw [own, found_own] at found
  obtain rfl := Option.some.inj found
  refine ⟨assigned, assignment, offer, ?_, answered, accepted, named.trans own, offerDriver, driver⟩
  rw [← own]
  exact assignmentsOf_eq taken

theorem oneStory_of_consistent (consistent : Consistent store)
    (held : handoff ∈ store.handoffs.rows) : OneStory store handoff := by
  have none_created : handoff.state ≠ .offering →
      offersIn store handoff.handoffId .created = [] := by
    intro closed
    refine List.eq_nil_iff_forall_not_mem.2 fun offer listed => ?_
    obtain ⟨mem, own, created⟩ := mem_offersIn.1 listed
    exact closed (state_of_stateAt held (own ▸ consistent.offering offer mem created))
  have none_accepted : handoff.state ≠ .assigned →
      offersIn store handoff.handoffId .accepted = [] := by
    intro unassigned
    refine List.eq_nil_iff_forall_not_mem.2 fun offer listed => ?_
    obtain ⟨mem, own, accepted⟩ := mem_offersIn.1 listed
    exact unassigned (state_of_stateAt held (own ▸ consistent.accepted offer mem accepted))
  have none_assigned : handoff.state ≠ .assigned → assignmentsOf store handoff.handoffId = [] := by
    intro unassigned
    refine List.eq_nil_iff_forall_not_mem.2 fun assignment listed => ?_
    obtain ⟨mem, own⟩ := List.mem_filter.1 listed
    exact unassigned (assignedOnce_of_mem consistent held mem (of_decide_eq_true own)).1
  refine ⟨?_, ⟨fun offering => ?_, fun one => ?_⟩, ⟨fun assigned => ?_, fun once => ?_⟩,
    fun ended => ?_⟩
  · obtain empty | ⟨offer, single⟩ := offersIn_created_length store handoff.handoffId
    · simp [empty]
    · simp [single]
  · obtain ⟨offer, mem, own, created⟩ := consistent.offered handoff held offering
    rw [← own, offersIn_created_eq mem created]
    rfl
  · by_contra closed
    simp [none_created closed] at one
  · obtain ⟨assignment, mem, own⟩ := consistent.assigned handoff held assigned
    exact (assignedOnce_of_mem consistent held mem own).2
  · obtain ⟨assignment, offer, single, _⟩ := once
    by_contra unassigned
    simp [none_assigned unassigned] at single
  · have states : handoff.state ≠ .offering ∧ handoff.state ≠ .assigned := by
      simp only [List.mem_cons, List.not_mem_nil, or_false] at ended
      rcases ended with same | same <;> simp [same]
    exact ⟨none_created states.1, none_accepted states.2, none_assigned states.2⟩

end

/-- After every run each handoff, its offers and its assignments tell one story. -/
theorem handoffs_tell_one_story {config : HandoffConfig} (apart : OffersApart config.hash)
    (actions : List HandoffAction) {handoff : DispatchHandoff}
    (stored : handoff ∈ (run (handoffStep config) {} actions).handoffs.rows) :
    OneStory (run (handoffStep config) {} actions) handoff :=
  oneStory_of_consistent (run_consistent apart actions) stored

def offerDigest : Payload → Digest
  | (_, .uuid offerId) :: ("accept", _) :: _ => offerId + 1
  | _ => 0

theorem offerDigest_apart : OffersApart offerDigest := by
  intro offerId accept expected otherId otherAccept otherVersion same
  exact Nat.succ.inj same

def handoffConfig : HandoffConfig where
  hash := offerDigest
  policyVersion := "dispatch-1"
  requireWorkerSession := true

def readyRequest : ReadySource where
  riderIdentityId := 1
  serviceType := "immediate_standard"
  serviceZoneId := some 2
  expiresAt := seconds 100

def confirmedPricing : PricingRow where
  fareEstimateId := 3
  estimateAcceptanceId := 4
  policyId := 5
  policyVersion := "fare-1"
  lineageHash := 0
  riderIdentityId := 1
  estimateRiderId := 1
  acceptanceRiderId := 1
  acceptedPolicyVersion := "fare-1"
  acceptedAmountMinor := 25000
  currency := "ETB"
  riderTotalMinor := some 25000
  breakdownCurrency := some "ETB"
  acceptedAt := seconds 0
  expiresAt := seconds 300

def openSources : DispatchSources where
  readySource _ := some readyRequest
  pricing _ := some confirmedPricing
  latestDecision driverId :=
    some { status := "eligible", expiresAt := some (seconds 3600), vehicleId := some (driverId + 1) }
  vehicleApproval _ := some "approved"
  authorizationExpiry _ _ := some (seconds 3600)
  rideDriverOnline _ _ _ _ := true

def nearbyDriver (driverId : Uuid) (second : Int) : EligibleDriverInput where
  driverId
  vehicleId := driverId + 1
  authorizedVehicleId := driverId + 1
  accountActive := true
  eligibilityStatus := "eligible"
  eligibilityExpiresAt := seconds 3600
  vehicleApproved := true
  supportedServices := ["immediate_standard"]
  availability := "available"
  availabilityObservedAt := seconds second
  pickupCostSeconds := 240
  pickupConfidenceBps := ⟨9001, by decide⟩
  reliabilityBps := ⟨5003, by decide⟩
  cancellationHistoryBps := ⟨61, by decide⟩
  opportunityDeficitBps := ⟨43, by decide⟩
  routeEvidenceId := ⟨"route-to-pickup", by decide⟩

def rideRequest : ReceiveCommand where
  rideRequestId := 8
  serviceActorId := 9
  idempotencyKey := "receive-request-8"
  correlationId := 10
  causationId := 11

def receivedAt (second : Int) : HandoffAction :=
  .receive openSources rideRequest (some confirmedPricing) (seconds second) 20

def answerAt (offerId driverId : Uuid) (accept : Bool) (second : Int) : OfferResponse where
  offerId
  driverId
  accept
  expectedVersion := 1
  idempotencyKey := "respond-to-offer"
  time := seconds second
  assignmentId := 50 + offerId

def secondDriverAccepts : List HandoffAction :=
  [receivedAt 10, .offerNext openSources 20 [nearbyDriver 30 11] (seconds 11) 40,
   .respond openSources (answerAt 40 30 false 15),
   .offerNext openSources 20 [nearbyDriver 32 16] (seconds 16) 41,
   .respond openSources (answerAt 41 32 true 20)]

theorem handoffs_tell_one_story_assigned :
    ∃ handoff ∈ (run (handoffStep handoffConfig) {} secondDriverAccepts).handoffs.rows,
      handoff.state = .assigned ∧
        OneStory (run (handoffStep handoffConfig) {} secondDriverAccepts) handoff := by
  have present : ∃ handoff ∈ (run (handoffStep handoffConfig) {} secondDriverAccepts).handoffs.rows,
      handoff.state = .assigned := by
    decide +kernel
  obtain ⟨handoff, stored, assigned⟩ := present
  exact ⟨handoff, stored, assigned,
    handoffs_tell_one_story offerDigest_apart secondDriverAccepts stored⟩

end Ayo.Handoff.Consistency
