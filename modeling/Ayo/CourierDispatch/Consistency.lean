/- digest: Requests, offers, assignments and events of courier dispatches agree. -/

import Ayo.CourierDispatch.Effects
import Ayo.Kernel.Run

namespace Ayo.CourierDispatch.Consistency

open Kernel.UnitOfWork Kernel.KeyedTable Kernel.Run Kernel.Selections Core.Values Core.Authorization
  Courier.Store Courier.System Courier.Frames Courier.Writers Models Repository Application Effects
open Kernel.Evolution (Evolves)

variable (dispatches : DispatchStore) (dispatchId : Uuid)

def offersOf : List CourierOffer :=
  dispatches.offers.rows.filter fun offer => offer.dispatchId = dispatchId

def activeOffers : List CourierOffer :=
  dispatches.offers.rows.filter fun offer => offer.dispatchId = dispatchId ∧ offer.state = .active

def standingAssignments : List CourierAssignment :=
  dispatches.assignments.rows.filter fun assignment =>
    assignment.dispatchId = dispatchId ∧ assignment.state = .assigned

def eventVersions : List Nat :=
  (dispatches.events.filter fun event => event.dispatchId = dispatchId).map
    CourierDispatchEvent.version

structure Agrees (dispatches : DispatchStore) (request : CourierDispatchRequest) : Prop where
  offered : request.state = .offered → ∃ offer,
    activeOffers dispatches request.dispatchId = [offer] ∧
      request.activeOfferId = some offer.offerId ∧
      request.offeredCourierIdentityId = some offer.courierIdentityId
  unoffered : request.state ≠ .offered →
    activeOffers dispatches request.dispatchId = [] ∧ request.activeOfferId = none
  assigned : request.state = .assigned → ∃ assignment,
    standingAssignments dispatches request.dispatchId = [assignment] ∧
      request.activeAssignmentId = some assignment.assignmentId ∧
      request.assignedCourierIdentityId = some assignment.courierIdentityId
  unassigned : request.state ≠ .assigned →
    standingAssignments dispatches request.dispatchId = [] ∧ request.activeAssignmentId = none ∧
      request.assignedCourierIdentityId = none
  attempts : request.attemptNumber = (offersOf dispatches request.dispatchId).length

/-- A request agrees with its offers and assignments, and its events carry all its versions. -/
structure Sound (dispatches : DispatchStore) (request : CourierDispatchRequest) : Prop
    extends Agrees dispatches request where
  versions : eventVersions dispatches request.dispatchId = List.range' 1 request.version

/-- A request that is neither offered nor assigned names no courier as offered. -/
def Unbound (request : CourierDispatchRequest) : Prop :=
  request.state ≠ .offered → request.state ≠ .assigned → request.offeredCourierIdentityId = none

/-- Every request is sound, and every row of the child tables is one of a request. -/
structure SoundStore (dispatches : DispatchStore) : Prop where
  sound : ∀ request ∈ dispatches.requests.rows, Sound dispatches request
  offersOwned : ∀ offer ∈ dispatches.offers.rows,
    ∃ request ∈ dispatches.requests.rows, request.dispatchId = offer.dispatchId
  assignmentsOwned : ∀ assignment ∈ dispatches.assignments.rows,
    ∃ request ∈ dispatches.requests.rows, request.dispatchId = assignment.dispatchId
  eventsOwned : ∀ event ∈ dispatches.events,
    ∃ request ∈ dispatches.requests.rows, request.dispatchId = event.dispatchId

/-- Two states have the same offers and assignments of a dispatch, as far as a request tells. -/
structure SameChildren (before after : DispatchStore) (dispatchId : Uuid) : Prop where
  active : activeOffers after dispatchId = activeOffers before dispatchId
  standing : standingAssignments after dispatchId = standingAssignments before dispatchId
  count : (offersOf after dispatchId).length = (offersOf before dispatchId).length

section

variable {draws : Draws} {s t : CourierStore} {current : CourierDispatchRequest}
  {change : RequestChange} {eventType : DispatchEventType} {dispatchId : Uuid}
  {first second : DispatchStore}

theorem Agrees.congr {request : CourierDispatchRequest} (agrees : Agrees first request)
    (same : SameChildren first second request.dispatchId) : Agrees second request := by
  refine ⟨?_, ?_, ?_, ?_, ?_⟩
  · rw [same.active]
    exact agrees.offered
  · rw [same.active]
    exact agrees.unoffered
  · rw [same.standing]
    exact agrees.assigned
  · rw [same.standing]
    exact agrees.unassigned
  · rw [same.count]
    exact agrees.attempts

theorem eventVersions_of_appended {event : CourierDispatchEvent}
    (events : second.events = first.events ++ [event]) :
    eventVersions second dispatchId = eventVersions first dispatchId ++
      if event.dispatchId = dispatchId then [event.version] else [] := by
  unfold eventVersions
  rw [events, List.filter_append, List.map_append]
  by_cases addressed : event.dispatchId = dispatchId
  · simp [addressed]
  · simp [addressed]

theorem SoundStore.moved (inv : SoundStore s.dispatch)
    (moved : Moved draws s t current change eventType)
    (others : ∀ id, id ≠ current.dispatchId → SameChildren s.dispatch t.dispatch id)
    (agrees : Agrees t.dispatch (current.changed current change))
    (offersOwned : ∀ offer ∈ t.dispatch.offers.rows, offer.dispatchId = current.dispatchId ∨
      ∃ old ∈ s.dispatch.offers.rows, old.dispatchId = offer.dispatchId)
    (assignmentsOwned : ∀ assignment ∈ t.dispatch.assignments.rows,
      assignment.dispatchId = current.dispatchId ∨
        ∃ old ∈ s.dispatch.assignments.rows, old.dispatchId = assignment.dispatchId) :
    SoundStore t.dispatch := by
  have stored := Table.mem_of_find moved.stored
  obtain ⟨event, addressed, version, events⟩ := moved.events
  have placed : current.changed current change ∈ t.dispatch.requests.rows := by
    rw [moved.requests]
    exact Table.mem_replaced.2 (.inl ⟨rfl, current, stored, rfl⟩)
  have owned : ∀ id, (∃ request ∈ s.dispatch.requests.rows, request.dispatchId = id) →
      ∃ request ∈ t.dispatch.requests.rows, request.dispatchId = id := by
    rintro id ⟨request, listed, rfl⟩
    by_cases same : request.dispatchId = current.dispatchId
    · exact ⟨_, placed, same.symm⟩
    · refine ⟨request, ?_, rfl⟩
      rw [moved.requests]
      exact Table.mem_replaced.2 (.inr ⟨listed, same⟩)
  refine ⟨?_, ?_, ?_, ?_⟩
  · intro request listed
    rw [moved.requests] at listed
    obtain ⟨rfl, _⟩ | ⟨listed, apart⟩ := Table.mem_replaced.1 listed
    · refine ⟨agrees, ?_⟩
      show eventVersions t.dispatch current.dispatchId = List.range' 1 (current.version + 1)
      rw [eventVersions_of_appended events, if_pos addressed, version,
        (inv.sound current stored).versions, List.range'_1_concat, Nat.add_comm 1]
    · have sound := inv.sound request listed
      refine ⟨sound.toAgrees.congr (others _ apart), ?_⟩
      have elsewhere : event.dispatchId ≠ request.dispatchId :=
        fun same => apart (same.symm.trans addressed)
      rw [eventVersions_of_appended events, if_neg elsewhere, List.append_nil, sound.versions]
  · intro offer listed
    obtain same | ⟨old, was, same⟩ := offersOwned offer listed
    · exact ⟨_, placed, same.symm⟩
    · rw [← same]
      exact owned _ (inv.offersOwned old was)
  · intro assignment listed
    obtain same | ⟨old, was, same⟩ := assignmentsOwned assignment listed
    · exact ⟨_, placed, same.symm⟩
    · rw [← same]
      exact owned _ (inv.assignmentsOwned old was)
  · intro recorded listed
    rw [events] at listed
    rcases List.mem_append.1 listed with earlier | last
    · exact owned _ (inv.eventsOwned recorded earlier)
    · rw [List.mem_singleton.1 last, addressed]
      exact ⟨_, placed, rfl⟩

end

section

variable {first second : DispatchStore} {request : CourierDispatchRequest} {dispatchId id : Uuid}
  {offer : CourierOffer} {assignment : CourierAssignment} {time : Instant} {ρ : Type}

theorem Agrees.activeOffer (agrees : Agrees first request) (offered : request.state = .offered)
    (active : request.activeOfferId = some offer.offerId)
    (found : first.offers.find offer.offerId = some offer) :
    activeOffers first request.dispatchId = [offer] ∧ offer.dispatchId = request.dispatchId := by
  obtain ⟨only, single, names, _⟩ := agrees.offered offered
  have listed : only ∈ activeOffers first request.dispatchId := by
    rw [single]
    exact List.mem_singleton_self only
  obtain ⟨held, meets⟩ := List.mem_filter.1 listed
  have same : only.offerId = offer.offerId := Option.mem_unique names active
  obtain rfl : only = offer := Table.eq_of_key _ held (Table.mem_of_find found) same
  exact ⟨single, (of_decide_eq_true meets).1⟩

theorem Agrees.standingAssignment (agrees : Agrees first request)
    (assigned : request.state = .assigned)
    (active : request.activeAssignmentId = some assignment.assignmentId)
    (found : first.assignments.find assignment.assignmentId = some assignment) :
    standingAssignments first request.dispatchId = [assignment] ∧
      assignment.dispatchId = request.dispatchId := by
  obtain ⟨only, single, names, _⟩ := agrees.assigned assigned
  have listed : only ∈ standingAssignments first request.dispatchId := by
    rw [single]
    exact List.mem_singleton_self only
  obtain ⟨held, meets⟩ := List.mem_filter.1 listed
  have same : only.assignmentId = assignment.assignmentId :=
    Option.mem_unique names active
  obtain rfl : only = assignment := Table.eq_of_key _ held (Table.mem_of_find found) same
  exact ⟨single, (of_decide_eq_true meets).1⟩

theorem offers_of_resolved {state : CourierOfferState} {actorId : Uuid}
    {reason : String} (single : activeOffers first dispatchId = [offer])
    (owner : offer.dispatchId = dispatchId) (closed : state ≠ .active)
    (rows : second.offers.rows = first.offers.replaced (offer.resolved state actorId reason time)) :
    activeOffers second dispatchId = [] ∧
      (∀ id, id ≠ dispatchId → activeOffers second id = activeOffers first id) ∧
      ∀ id, (offersOf second id).length = (offersOf first id).length := by
  have listed : offer ∈ activeOffers first dispatchId := by
    rw [single]
    exact List.mem_singleton_self offer
  have held : offer ∈ first.offers.rows := (List.mem_filter.1 listed).1
  unfold activeOffers offersOf at *
  rw [rows]
  refine ⟨?_, ?_, ?_⟩
  · refine filter_replaced_of_cleared single rfl (decide_eq_false ?_)
    rintro ⟨_, active⟩
    exact closed active
  · intro id apart
    refine filter_replaced_of_passed held rfl (decide_eq_false ?_) (decide_eq_false ?_)
    · rintro ⟨same, _⟩
      exact apart (same.symm.trans owner)
    · rintro ⟨same, _⟩
      exact apart (same.symm.trans owner)
  · intro id
    exact length_filter_replaced held rfl rfl

theorem assignments_of_closed {state : CourierAssignmentState} {reason : String}
    (single : standingAssignments first dispatchId = [assignment])
    (owner : assignment.dispatchId = dispatchId) (closed : state ≠ .assigned)
    (rows : second.assignments.rows =
      first.assignments.replaced (assignment.closed state reason time)) :
    standingAssignments second dispatchId = [] ∧
      ∀ id, id ≠ dispatchId → standingAssignments second id = standingAssignments first id := by
  have listed : assignment ∈ standingAssignments first dispatchId := by
    rw [single]
    exact List.mem_singleton_self assignment
  have held : assignment ∈ first.assignments.rows := (List.mem_filter.1 listed).1
  unfold standingAssignments at *
  rw [rows]
  refine ⟨?_, ?_⟩
  · refine filter_replaced_of_cleared single rfl (decide_eq_false ?_)
    rintro ⟨_, standing⟩
    exact closed standing
  · intro id apart
    refine filter_replaced_of_passed held rfl (decide_eq_false ?_) (decide_eq_false ?_)
    · rintro ⟨same, _⟩
      exact apart (same.symm.trans owner)
    · rintro ⟨same, _⟩
      exact apart (same.symm.trans owner)

theorem owned_of_replaced [Row ρ Uuid] {table : Table ρ} {owner : ρ → Uuid} {current row : ρ}
    (held : current ∈ table.rows) (same : owner row = owner current) :
    ∀ other ∈ table.replaced row, owner other = id ∨
      ∃ old ∈ table.rows, owner old = owner other := by
  intro other listed
  obtain ⟨rfl, _⟩ | ⟨was, _⟩ := Table.mem_replaced.1 listed
  · exact .inr ⟨current, held, same.symm⟩
  · exact .inr ⟨other, was, rfl⟩

theorem owned_of_kept [Row ρ Uuid] {table result : Table ρ} {owner : ρ → Uuid}
    (kept : result = table) : ∀ other ∈ result.rows, owner other = id ∨
      ∃ old ∈ table.rows, owner old = owner other := by
  intro other listed
  rw [kept] at listed
  exact .inr ⟨other, listed, rfl⟩

theorem owned_of_appended [Row ρ Uuid] {table result : Table ρ} {owner : ρ → Uuid} {row : ρ}
    (rows : result.rows = table.rows ++ [row]) (same : owner row = id) :
    ∀ other ∈ result.rows, owner other = id ∨ ∃ old ∈ table.rows, owner old = owner other := by
  intro other listed
  rcases (mem_appended rows).1 listed with was | rfl
  · exact .inr ⟨other, was, rfl⟩
  · exact .inl same

theorem Agrees.offersClosed (agrees : Agrees first request)
    (closed : ActiveClosed Revokes request.activeOfferId first.offers second.offers) :
    activeOffers second request.dispatchId = [] ∧
      (∀ id, id ≠ request.dispatchId → activeOffers second id = activeOffers first id) ∧
      (∀ id, (offersOf second id).length = (offersOf first id).length) ∧
      ∀ offer ∈ second.offers.rows, offer.dispatchId = request.dispatchId ∨
        ∃ old ∈ first.offers.rows, old.dispatchId = offer.dispatchId := by
  obtain ⟨absent, same⟩ | ⟨offerId, offer, revoked, active, found, ⟨_, _, _, _, rfl⟩, rows⟩ := closed
  · have unoffered : request.state ≠ .offered := by
      intro offered
      obtain ⟨_, _, names, _⟩ := agrees.offered offered
      rw [absent] at names
      cases names
    refine ⟨?_, ?_, ?_, owned_of_kept same⟩
    · unfold activeOffers
      rw [same]
      exact (agrees.unoffered unoffered).1
    · intro id _
      unfold activeOffers
      rw [same]
    · intro id
      unfold offersOf
      rw [same]
  · have offered : request.state = .offered := by
      by_contra unoffered
      rw [(agrees.unoffered unoffered).2] at active
      cases active
    obtain rfl : offer.offerId = offerId := Table.key_of_find found
    obtain ⟨single, owner⟩ := agrees.activeOffer offered active found
    obtain ⟨none, others, counts⟩ := offers_of_resolved single owner (by decide) rows
    refine ⟨none, others, counts, ?_⟩
    rw [rows]
    exact owned_of_replaced (Table.mem_of_find found) (by rfl)

theorem Agrees.assignmentsClosed (agrees : Agrees first request)
    (closed : ActiveClosed Cancels request.activeAssignmentId first.assignments
      second.assignments) :
    standingAssignments second request.dispatchId = [] ∧ (∀ id, id ≠ request.dispatchId →
        standingAssignments second id = standingAssignments first id) ∧
      ∀ assignment ∈ second.assignments.rows, assignment.dispatchId = request.dispatchId ∨
        ∃ old ∈ first.assignments.rows, old.dispatchId = assignment.dispatchId := by
  obtain ⟨absent, same⟩ | ⟨id, assignment, cancelled, active, found, ⟨_, _, _, rfl⟩, rows⟩ :=
    closed
  · have unassigned : request.state ≠ .assigned := by
      intro assigned
      obtain ⟨_, _, names, _⟩ := agrees.assigned assigned
      rw [absent] at names
      cases names
    refine ⟨?_, ?_, owned_of_kept same⟩
    · unfold standingAssignments
      rw [same]
      exact (agrees.unassigned unassigned).1
    · intro id _
      unfold standingAssignments
      rw [same]
  · have assigned : request.state = .assigned := by
      by_contra unassigned
      rw [(agrees.unassigned unassigned).2.1] at active
      cases active
    obtain rfl : assignment.assignmentId = id := Table.key_of_find found
    obtain ⟨single, owner⟩ := agrees.standingAssignment assigned active found
    obtain ⟨none, others⟩ := assignments_of_closed single owner (by decide) rows
    refine ⟨none, others, ?_⟩
    rw [rows]
    exact owned_of_replaced (Table.mem_of_find found) (by rfl)

theorem standing_of_kept (same : second.assignments = first.assignments) (id : Uuid) :
    standingAssignments second id = standingAssignments first id := by
  unfold standingAssignments
  rw [same]

theorem active_of_kept (same : second.offers = first.offers) (id : Uuid) :
    activeOffers second id = activeOffers first id := by
  unfold activeOffers
  rw [same]

theorem count_of_kept (same : second.offers = first.offers) (id : Uuid) :
    (offersOf second id).length = (offersOf first id).length := by
  unfold offersOf
  rw [same]

theorem offers_of_appended (active : offer.state = .active)
    (rows : second.offers.rows = first.offers.rows ++ [offer]) (id : Uuid) :
    activeOffers second id =
        activeOffers first id ++ (if offer.dispatchId = id then [offer] else []) ∧
      (offersOf second id).length =
        (offersOf first id).length + if offer.dispatchId = id then 1 else 0 := by
  unfold activeOffers offersOf
  rw [rows, List.filter_append, List.filter_append, List.length_append]
  by_cases same : offer.dispatchId = id
  · simp [same, active]
  · simp [same]

theorem standing_of_appended (standing : assignment.state = .assigned)
    (rows : second.assignments.rows = first.assignments.rows ++ [assignment]) (id : Uuid) :
    standingAssignments second id = standingAssignments first id ++
      if assignment.dispatchId = id then [assignment] else [] := by
  unfold standingAssignments
  rw [rows, List.filter_append]
  by_cases same : assignment.dispatchId = id
  · simp [same, standing]
  · simp [same]

end

section

variable {draws : Draws} {action : Option CourierDispatchAction} {s t : CourierStore}

theorem SoundStore.admitted (inv : SoundStore s.dispatch) {policy : DispatchPolicy}
    {messageId orderId merchantId : Uuid} {time : Instant} {event : CourierDispatchEvent}
    (requests : t.dispatch.requests.rows = s.dispatch.requests.rows ++
      [admittedRequest policy draws messageId orderId merchantId time])
    (offers : t.dispatch.offers = s.dispatch.offers)
    (assignments : t.dispatch.assignments = s.dispatch.assignments)
    (addressed : event.dispatchId = draws.row) (first : event.version = 1)
    (events : t.dispatch.events = s.dispatch.events ++ [event]) : SoundStore t.dispatch := by
  have free : ∀ request ∈ s.dispatch.requests.rows, request.dispatchId ≠ draws.row := by
    intro request listed same
    exact Table.apart_of_rows_append requests request listed (Row.clash_of_key same)
  have kept : ∀ id, (∃ request ∈ s.dispatch.requests.rows, request.dispatchId = id) →
      ∃ request ∈ t.dispatch.requests.rows, request.dispatchId = id := by
    rintro id ⟨request, listed, same⟩
    refine ⟨request, ?_, same⟩
    rw [requests]
    exact List.mem_append_left _ listed
  have alone : ∀ id, id ≠ draws.row →
      eventVersions t.dispatch id = eventVersions s.dispatch id := by
    intro id apart
    rw [eventVersions_of_appended events, if_neg (by rw [addressed]; exact apart.symm),
      List.append_nil]
  -- no row of the child tables can belong to a request that was not there
  have noOffers : ∀ test : CourierOffer → Bool, (∀ offer, test offer = true →
      offer.dispatchId = draws.row) → s.dispatch.offers.rows.filter test = [] := by
    intro test addresses
    refine List.filter_eq_nil_iff.2 fun offer listed selected => ?_
    obtain ⟨request, owner, same⟩ := inv.offersOwned offer listed
    exact free request owner (same.trans (addresses offer selected))
  have noAssignments : standingAssignments s.dispatch draws.row = [] := by
    refine List.filter_eq_nil_iff.2 fun assignment listed selected => ?_
    obtain ⟨request, owner, same⟩ := inv.assignmentsOwned assignment listed
    exact free request owner (same.trans (of_decide_eq_true selected).1)
  have noEvents : eventVersions s.dispatch draws.row = [] := by
    unfold eventVersions
    rw [List.filter_eq_nil_iff.2, List.map_nil]
    intro recorded listed selected
    obtain ⟨request, owner, same⟩ := inv.eventsOwned recorded listed
    exact free request owner (same.trans (of_decide_eq_true selected))
  refine ⟨?_, ?_, ?_, ?_⟩
  · intro request listed
    rcases (mem_appended requests).1 listed with was | rfl
    · have sound := inv.sound request was
      refine ⟨sound.toAgrees.congr ⟨active_of_kept offers _, standing_of_kept assignments _,
        count_of_kept offers _⟩, ?_⟩
      rw [alone _ (free request was), sound.versions]
    · refine ⟨⟨fun offered => (by cases offered), fun _ => ⟨?_, rfl⟩,
        fun assigned => (by cases assigned), fun _ => ⟨?_, rfl, rfl⟩, ?_⟩, ?_⟩
      · rw [active_of_kept offers]
        exact noOffers _ fun offer selected => (of_decide_eq_true selected).1
      · rw [standing_of_kept assignments]
        exact noAssignments
      · rw [count_of_kept offers]
        unfold offersOf
        rw [noOffers]
        · rfl
        · intro offer selected
          exact of_decide_eq_true selected
      · show eventVersions t.dispatch draws.row = [1]
        rw [eventVersions_of_appended events, noEvents, if_pos addressed, first]
        rfl
  · intro offer listed
    rw [offers] at listed
    exact kept _ (inv.offersOwned offer listed)
  · intro assignment listed
    rw [assignments] at listed
    exact kept _ (inv.assignmentsOwned assignment listed)
  · intro recorded listed
    rw [events] at listed
    rcases List.mem_append.1 listed with was | last
    · exact kept _ (inv.eventsOwned recorded was)
    · refine ⟨admittedRequest policy draws messageId orderId merchantId time, ?_, ?_⟩
      · rw [requests]
        exact List.mem_append_right _ (List.mem_singleton_self _)
      · rw [List.mem_singleton.1 last, addressed]
        rfl

theorem SoundStore.step (inv : SoundStore s.dispatch)
    (effect : DispatchEffect draws action s t) : SoundStore t.dispatch := by
  cases effect with
  | idle requests offers assignments events =>
    have same : ∀ id, SameChildren s.dispatch t.dispatch id := fun id =>
      ⟨active_of_kept offers id, standing_of_kept assignments id, count_of_kept offers id⟩
    refine ⟨?_, ?_, ?_, ?_⟩
    · intro request listed
      rw [requests] at listed
      have sound := inv.sound request listed
      refine ⟨sound.toAgrees.congr (same _), ?_⟩
      unfold eventVersions
      rw [events]
      exact sound.versions
    · rw [offers, requests]
      exact inv.offersOwned
    · rw [assignments, requests]
      exact inv.assignmentsOwned
    · rw [events, requests]
      exact inv.eventsOwned
  | admitted acts policy messageId orderId merchantId time event message requests offers
      assignments addressed first events type outbox =>
    exact inv.admitted requests offers assignments addressed first events
  | offered acts old courierId expiresAt time waiting moved offers assignments =>
    have sound := inv.sound old (Table.mem_of_find moved.stored)
    have added := offers_of_appended
      (rfl : (newOffer draws old courierId expiresAt time).state = .active) offers
    have own : (newOffer draws old courierId expiresAt time).dispatchId = old.dispatchId :=
      rfl
    refine inv.moved moved ?_ ⟨fun _ => ?_, fun apart => absurd rfl apart,
      fun assigned => (by cases assigned), fun _ => ?_, ?_⟩ (owned_of_appended offers rfl)
      (owned_of_kept assignments)
    · intro id apart
      have elsewhere : (newOffer draws old courierId expiresAt time).dispatchId ≠ id :=
        fun same => apart same.symm
      obtain ⟨active, count⟩ := added id
      rw [if_neg elsewhere, List.append_nil] at active
      rw [if_neg elsewhere] at count
      exact ⟨active, standing_of_kept assignments id, count⟩
    · refine ⟨newOffer draws old courierId expiresAt time, ?_, rfl, rfl⟩
      have active := (added old.dispatchId).1
      have unoffered : old.state ≠ .offered := by simp [waiting]
      rw [if_pos own, (sound.unoffered unoffered).1] at active
      exact active
    · refine ⟨?_, rfl, rfl⟩
      have unassigned : old.state ≠ .assigned := by simp [waiting]
      exact (standing_of_kept assignments _).trans (sound.unassigned unassigned).1
    · have count := (added old.dispatchId).2
      rw [if_pos own, ← sound.attempts] at count
      exact count.symm
  | accepted acts old offer time offered active found standing moved offers assignments =>
    have sound := inv.sound old (Table.mem_of_find moved.stored)
    obtain ⟨single, owner⟩ := sound.activeOffer offered active found
    obtain ⟨cleared, others, counts⟩ := offers_of_resolved single owner (by decide) offers
    have added := standing_of_appended
      (rfl : (newAssignment draws old offer.offerId offer.courierIdentityId time).state =
        .assigned) assignments
    refine inv.moved moved ?_ ⟨fun offered => (by cases offered), fun _ => ⟨cleared, rfl⟩,
      fun _ => ?_, fun apart => absurd rfl apart, ?_⟩ ?_ (owned_of_appended assignments rfl)
    · intro id apart
      have elsewhere : (newAssignment draws old offer.offerId offer.courierIdentityId
          time).dispatchId ≠ id := fun same => apart same.symm
      have standing := added id
      rw [if_neg elsewhere, List.append_nil] at standing
      exact ⟨others id apart, standing, counts id⟩
    · refine ⟨newAssignment draws old offer.offerId offer.courierIdentityId time, ?_, rfl, rfl⟩
      have standing := added old.dispatchId
      have unassigned : old.state ≠ .assigned := by simp [offered]
      have own : (newAssignment draws old offer.offerId offer.courierIdentityId
          time).dispatchId = old.dispatchId := rfl
      rw [if_pos own, (sound.unassigned unassigned).1] at standing
      exact standing
    · exact sound.attempts.trans (counts _).symm
    · rw [offers]
      exact owned_of_replaced (Table.mem_of_find found) (by rfl)
  | offerClosed acts old offer state actorId reason change eventType offered active found
      standing closes changes unaccepted moved offers assignments =>
    have sound := inv.sound old (Table.mem_of_find moved.stored)
    obtain ⟨single, owner⟩ := sound.activeOffer offered active found
    have inactive : state ≠ .active := by
      rintro rfl
      rcases closes with impossible | impossible | impossible <;> cases impossible
    obtain ⟨cleared, others, counts⟩ := offers_of_resolved single owner inactive offers
    have unassigned : old.state ≠ .assigned := by simp [offered]
    obtain ⟨noStanding, noAssignment, noCourier⟩ := sound.unassigned unassigned
    -- an offered request has no assignment that could be carried over
    have change_eq : change = openChange old .waiting change.time := by
      rcases changes with same | same
      · exact same
      · rw [same, noAssignment, noCourier]
        rfl
    have waits : (old.changed old change).state = .waiting := by
      rw [change_eq]
      rfl
    refine inv.moved moved ?_ ⟨fun offered => ?_, fun _ => ⟨cleared, ?_⟩, fun assigned => ?_,
      fun _ => ⟨?_, ?_, ?_⟩, ?_⟩ ?_ (owned_of_kept assignments)
    · exact fun id apart => ⟨others id apart, standing_of_kept assignments id, counts id⟩
    · rw [waits] at offered
      cases offered
    · rw [change_eq]
      rfl
    · rw [waits] at assigned
      cases assigned
    · exact (standing_of_kept assignments _).trans noStanding
    · rw [change_eq]
      rfl
    · rw [change_eq]
      rfl
    · rw [change_eq]
      exact sound.attempts.trans (counts _).symm
    · rw [offers]
      exact owned_of_replaced (Table.mem_of_find found) (by rfl)
  | released acts old assignment reason time assigned active found standing custody moved offers
      assignments =>
    have sound := inv.sound old (Table.mem_of_find moved.stored)
    obtain ⟨single, owner⟩ := sound.standingAssignment assigned active found
    obtain ⟨cleared, others⟩ := assignments_of_closed single owner (by decide) assignments
    have unoffered : old.state ≠ .offered := by simp [assigned]
    obtain ⟨noActive, noOffer⟩ := sound.unoffered unoffered
    refine inv.moved moved ?_ ⟨fun offered => (by cases offered), fun _ => ⟨?_, noOffer⟩,
      fun assigned => (by cases assigned), fun _ => ⟨cleared, rfl, rfl⟩, ?_⟩ (owned_of_kept offers) ?_
    · exact fun id apart => ⟨active_of_kept offers id, others id apart, count_of_kept offers id⟩
    · exact (active_of_kept offers _).trans noActive
    · exact sound.attempts.trans (count_of_kept offers _).symm
    · rw [assignments]
      exact owned_of_replaced (Table.mem_of_find found) (by rfl)
  | cancelled acts old time open_ custody moved offers assignments =>
    have sound := inv.sound old (Table.mem_of_find moved.stored)
    obtain ⟨noActive, othersActive, counts, offersOwned⟩ := sound.offersClosed offers
    obtain ⟨noStanding, othersStanding, assignmentsOwned⟩ := sound.assignmentsClosed assignments
    refine inv.moved moved ?_ ⟨fun offered => (by cases offered), fun _ => ⟨noActive, rfl⟩,
      fun assigned => (by cases assigned), fun _ => ⟨noStanding, rfl, rfl⟩, ?_⟩ offersOwned
      assignmentsOwned
    · exact fun id apart => ⟨othersActive id apart, othersStanding id apart, counts id⟩
    · exact sound.attempts.trans (counts _).symm
  | concluded acts old time waiting moved offers assignments =>
    have sound := inv.sound old (Table.mem_of_find moved.stored)
    have unoffered : old.state ≠ .offered := by simp [waiting]
    have unassigned : old.state ≠ .assigned := by simp [waiting]
    obtain ⟨noActive, noOffer⟩ := sound.unoffered unoffered
    obtain ⟨noStanding, noAssignment, noCourier⟩ := sound.unassigned unassigned
    refine inv.moved moved ?_ ⟨fun offered => (by cases offered), fun _ => ⟨?_, noOffer⟩,
      fun assigned => (by cases assigned), fun _ => ⟨?_, noAssignment, noCourier⟩, ?_⟩
      (owned_of_kept offers) (owned_of_kept assignments)
    · exact fun id _ =>
        ⟨active_of_kept offers id, standing_of_kept assignments id, count_of_kept offers id⟩
    · exact (active_of_kept offers _).trans noActive
    · exact (standing_of_kept assignments _).trans noStanding
    · exact sound.attempts.trans (count_of_kept offers _).symm

end

section

variable {config : CourierConfig} {store : CourierStore} {move : CourierMove}

theorem dispatch_step (config : CourierConfig) (store : CourierStore) (move : CourierMove) :
    (courierStep config store move).dispatch = store.dispatch ∨ ∃ draws reads subject command view,
        move = .call ⟨draws, reads, subject, .dispatch command⟩ ∧
          command.body config draws reads subject store =
            .ok (view, courierStep config store move) := by
  cases courierStep_of config store move with
  | dispatch draws reads subject command calls ends =>
    rw [ends]
    obtain unchanged | ⟨view, ran⟩ :=
      commit_cases (command.body config draws reads subject) store
    · rw [unchanged]
      exact .inl rfl
    · exact .inr ⟨draws, reads, subject, command, view, calls, ran⟩
  | pickup draws reads subject command calls ends =>
    have same := (commit_stays store (pickupCommand_stays config draws reads subject command)).same
    rw [ends]
    exact .inl (congrArg (fun part => part.2.1) same)
  | custody draws reads subject command calls ends =>
    have same := (commit_stays store (custodyCommand_stays config draws reads subject command)).same
    rw [ends]
    exact .inl (congrArg (fun part => part.2.1) same)
  | delivery draws reads subject command calls ends =>
    have same := (commit_stays store (deliveryCommand_stays config draws subject command)).same
    rw [ends]
    exact .inl (congrArg (fun part => part.2.1) same)
  | orders stays => exact .inl (congrArg Prod.fst stays.same)

theorem SoundStore.courierStep (inv : SoundStore store.dispatch) :
    SoundStore (courierStep config store move).dispatch := by
  obtain same | ⟨draws, reads, subject, command, view, _, ran⟩ :=
    dispatch_step config store move
  · rw [same]
    exact inv
  · exact inv.step (dispatchCommand_effect ran)

theorem SoundStore.empty : SoundStore {} := by
  refine ⟨?_, ?_, ?_, ?_⟩ <;>
  · intro row listed
    cases listed

end

section

variable {config : CourierConfig} {draws : Draws} {reads : CourierReads}
  {subject : AuthorizationSubject} {s t : CourierStore} {view : MerchantCourierDispatchView}

/-- The release of an assignment goes through, by all that the service and the tables check. -/
structure Admits (store : CourierStore) (draws : Draws) (reads : CourierReads)
    (subject : AuthorizationSubject) (request : AuthorityRequest) : Prop where
  action : request.action = .release
  aware : request.time.aware = true
  granted : reads.grants subject.identityId "courier_dispatch.manage" (.utc request.time.instant) =
    true
  reason : 3 ≤ request.reason.length ∧ request.reason.length ≤ 80
  standing : ∃ current, store.dispatch.requests.find request.dispatchId = some current ∧
    current.state = .assigned ∧ (current.version : Int) = request.expectedVersion ∧
    CustodyOpen store current.orderId
  unreserved : store.dispatch.idempotency.find
    (subject.identityId, .release, request.idempotencyKey) = none
  unsent : store.outbox.find draws.message = none
  auditable : Auditable store.audit
    (successEvent draws subject "courier_dispatch" "release_assignment" request.dispatchId
      request.correlationId request.causationId "waiting_for_courier" request.idempotencyKey)

/-- The move is a release that the service admits. -/
def Releases (store : CourierStore) (move : CourierMove) : Prop :=
  ∃ draws reads subject request,
    move = .call ⟨draws, reads, subject, .dispatch (.authorityCommand request)⟩ ∧
      Admits store draws reads subject request

theorem transition_answer {old : CourierDispatchRequest} {change : RequestChange} {actorId : Uuid}
    {key : String} {operation : CourierDispatchAction} {step : StepRecord}
    (ran : transition draws old change actorId key operation step s = .ok (view, t))
    (found : s.dispatch.requests.find old.dispatchId = some old) :
    view.dispatch = old.changed old change ∧ t.audit = s.audit ∧
      s.outbox.find draws.message = none := by
  obtain ⟨requests, outbox, idempotency, _, sent, _, rfl, rfl⟩ := (transition_ok found).1 ran
  exact ⟨rfl, rfl, Table.find_eq_none_of_rows_append sent⟩

theorem admits_of_success {request : AuthorityRequest} (release : request.action = .release)
    (ran : authorityCommand config draws reads subject request s = .ok (view, t)) :
    t = s ∨ Admits s draws reads subject request := by
  unfold authorityCommand utcTime at ran
  simp only [↓guards_ok, ↓utc_bind_ok] at ran
  obtain ⟨_, aware, _, granted, ran⟩ := ran
  obtain ⟨old, found, ⟨idempotency, reserved, version, taken⟩ | ⟨_, _, rfl⟩⟩ :=
    reserving_ok.1 ran
  · right
    have identified : old.dispatchId = request.dispatchId := Table.key_of_find found
    unfold actOn checkCustody checkTarget at taken
    simp only [bind_assoc, ↓steps_ok] at taken
    obtain ⟨custody, target, leads, taken⟩ := taken
    obtain ⟨result, between, acted, taken⟩ := bind_ok.1 taken
    have audited := auditable_of_bind_ok taken
    rw [release] at leads acted audited custody reserved
    obtain ⟨assigned, rfl⟩ := targetState_release leads
    unfold authorityTransition releaseAssignment authorityStep carriedOver at acted
    simp only [↓steps_ok, ↓closeAssignment_bind_ok] at acted
    obtain ⟨reason, _, _, _, _, _, _, _, acted⟩ := acted
    have found : s.dispatch.requests.find old.dispatchId = some old := by
      rw [identified]
      exact found
    obtain ⟨answer, log, unsent⟩ := transition_answer acted found
    rw [log, answer] at audited
    refine ⟨release, aware, granted, reason, ⟨old, ?_, assigned, version, custody (.inl rfl)⟩,
      Table.find_eq_none_of_rows_append reserved, unsent, ?_⟩
    · rw [← identified]
      exact found
    · rw [← identified]
      exact audited
  · exact .inl rfl

theorem unbound_of_effect {action : Option CourierDispatchAction}
    (unbound : ∀ request ∈ s.dispatch.requests.rows, Unbound request)
    (effect : DispatchEffect draws action s t) (kept : action ≠ some .release) :
    ∀ request ∈ t.dispatch.requests.rows, Unbound request := by
  have moved : ∀ {old change eventType}, Moved draws s t old change eventType →
      Unbound (old.changed old change) → ∀ request ∈ t.dispatch.requests.rows, Unbound request := by
    intro old change eventType moved written request listed
    rw [moved.requests] at listed
    obtain ⟨rfl, _⟩ | ⟨was, _⟩ := Table.mem_replaced.1 listed
    · exact written
    · exact unbound request was
  cases effect with
  | idle requests =>
    rw [requests]
    exact unbound
  | admitted acts policy messageId orderId merchantId time event message requests =>
    intro request listed
    rw [requests] at listed
    rcases List.mem_append.1 listed with was | last
    · exact unbound request was
    · rw [List.mem_singleton.1 last]
      exact fun _ _ => rfl
  | offered acts old courierId expiresAt time waiting stepped =>
    exact moved stepped fun apart => absurd rfl apart
  | accepted acts old offer time offered active found standing stepped =>
    exact moved stepped fun _ apart => absurd rfl apart
  | offerClosed acts old offer state actorId reason change eventType offered active found
      standing closes changes unaccepted stepped =>
    refine moved stepped fun _ _ => ?_
    rcases changes with same | same <;>
    · rw [same]
      rfl
  | released acts => exact absurd acts kept
  | cancelled acts old time open_ custody stepped => exact moved stepped fun _ _ => rfl
  | concluded acts old time waiting stepped =>
    refine moved stepped fun _ _ => ?_
    have listed := Table.mem_of_find stepped.stored
    exact unbound old listed (by simp [waiting]) (by simp [waiting])

end

/-- A request agrees with its offers, assignments and events, and names no courier when it is
neither offered nor assigned. -/
structure Consistent (dispatches : DispatchStore) (request : CourierDispatchRequest) : Prop
    extends Sound dispatches request where
  unbound : Unbound request

/-- In every run in which no assignment is released, every request is consistent at the end. -/
theorem consistent_without_release (config : CourierConfig) (moves : List CourierMove)
    (kept : Along (courierStep config) (fun store move => ¬ Releases store move) {} moves) :
    ∀ request ∈ (run (courierStep config) {} moves).dispatch.requests.rows,
      Consistent (run (courierStep config) {} moves).dispatch request := by
  have preserves : ∀ store move, ¬ Releases store move →
      (SoundStore store.dispatch ∧ ∀ request ∈ store.dispatch.requests.rows, Unbound request) →
        SoundStore (courierStep config store move).dispatch ∧
          ∀ request ∈ (courierStep config store move).dispatch.requests.rows, Unbound request := by
    rintro store move unreleased ⟨inv, unbound⟩
    refine ⟨inv.courierStep, ?_⟩
    obtain same | ⟨draws, reads, subject, command, view, calls, success⟩ :=
      dispatch_step config store move
    · rw [same]
      exact unbound
    · by_cases release : actionOf? command = some .release
      · -- a release by the authority is a replay; a response is never one
        have unchanged : courierStep config store move = store := by
          cases command with
          | consumeMerchantReady => cases release
          | offerCourier => cases release
          | command =>
            unfold DispatchCommand.body Application.command at success
            simp only [↓require_bind_ok] at success
            have response := success.1
            rw [Option.some.inj release] at response
            rcases response with impossible | impossible <;> cases impossible
          | authorityCommand request =>
            obtain same | admits := admits_of_success (Option.some.inj release) success
            · exact same
            · exact absurd ⟨draws, reads, subject, request, calls, admits⟩ unreleased
        rw [unchanged]
        exact unbound
      · exact unbound_of_effect unbound (dispatchCommand_effect success) release
  have start : SoundStore ({} : CourierStore).dispatch ∧
      ∀ request ∈ ({} : CourierStore).dispatch.requests.rows, Unbound request :=
    ⟨.empty, fun _ listed => by cases listed⟩
  obtain ⟨inv, unbound⟩ := run_invariant_along preserves kept start
  exact fun request listed => ⟨inv.sound request listed, unbound request listed⟩

def textDigest (text : String) : Digest :=
  text.toList.foldl (fun digest char => digest * 1114112 + char.toNat + 1) 0

def sampleConfig : CourierConfig where
  hash payload := textDigest (String.intercalate ";" (payload.map fun field =>
    match field.2 with
    | .number value => field.1 ++ toString value
    | .text value => field.1 ++ value
    | _ => field.1))
  pickupCode custodyId key := toString custodyId ++ ":" ++ key
  pickupDigest := textDigest
  deliveryCode orderId := toString orderId
  deliveryDigest := textDigest
  snapshotBytes _ := 2

variable (n : Nat)

def sampleDraws : Draws where
  row := 100 * n + 1
  event := 100 * n + 2
  message := 100 * n + 3
  evidence := 100 * n + 4
  audit := 100 * n + 5
  secondRow := 100 * n + 6
  secondEvent := 100 * n + 7
  secondMessage := 100 * n + 8
  secondEvidence := 100 * n + 9
  now := 1000000 * n

def sampleReads : CourierReads where
  grants _ _ _ := true
  merchants merchantId := if merchantId = 40 then some ⟨50, .approved⟩ else none
  preparation _ := none

def sampleTime : DateTime := .utc (1000000 * n)

def sampleCall (subject : AuthorizationSubject) (command : CourierCommand) : CourierMove :=
  .call ⟨sampleDraws n, sampleReads, subject, command⟩

def sampleStaff : AuthorizationSubject := ⟨20, .staff⟩

def sampleCourier : AuthorizationSubject := ⟨30, .driver⟩

def sampleEvidence : List CourierEligibilityEvidence :=
  EligibilityEvidenceType.all.map fun evidenceType =>
    { evidenceType, sourceReference := 60, sourceVersion := 1, eligible := true,
      observedAt := 1000000 * n, validUntil := 1000000 * n + 1000 }

def sampleAdmission : List CourierMove :=
  [.orderPlaced { orderId := 10, merchantId := 40, customerIdentityId := 70 },
   .orderMessage .preparationReady 11 10 0,
   sampleCall 1 sampleStaff (.dispatch (.consumeMerchantReady
    { messageId := 11, orderId := 10, merchantId := 40,
      eventType := "commerce.preparation.ready_for_pickup", time := sampleTime 1 }))]

def sampleOffer (version : Int) : CourierMove :=
  sampleCall n sampleStaff (.dispatch (.offerCourier
    { dispatchId := 101, expectedVersion := version, eligibleCourierIdentityId := 30,
      eligibilityEvidence := sampleEvidence n, idempotencyKey := "offer-key-" ++ toString n,
      correlationId := 12, causationId := 13, time := sampleTime n }))

def sampleAccept (version : Int) : CourierMove :=
  sampleCall n sampleCourier (.dispatch (.command
    { dispatchId := 101, expectedVersion := version, action := .accept,
      courierIdentityId := 30, idempotencyKey := "accept-key-" ++ toString n, time := sampleTime n,
      correlationId := none, causationId := none }))

def sampleRelease (version : Int) : CourierMove :=
  sampleCall n sampleStaff (.dispatch (.authorityCommand
    { dispatchId := 101, expectedVersion := version, action := .release,
      idempotencyKey := "release-key-" ++ toString n, correlationId := 12, causationId := 13,
      reason := "courier unavailable", time := sampleTime n }))

def sampleAccepted : List CourierMove :=
  sampleAdmission ++ [sampleOffer 2 1, sampleAccept 3 2]

theorem consistent_sampleAccepted :
    Along (courierStep sampleConfig) (fun store move => ¬ Releases store move) {}
        sampleAccepted ∧
      (run (courierStep sampleConfig) {} sampleAccepted).dispatch.requests.rows.map
        CourierDispatchRequest.state = [.assigned] ∧
      ∀ request ∈ (run (courierStep sampleConfig) {} sampleAccepted).dispatch.requests.rows,
        Consistent (run (courierStep sampleConfig) {} sampleAccepted).dispatch request := by
  have kept : Along (courierStep sampleConfig) (fun store move => ¬ Releases store move) {}
      sampleAccepted := by
    refine ⟨?_, ?_, ?_, ?_, ?_, trivial⟩ <;>
    · rintro ⟨_, _, _, _, calls, _⟩
      cases calls
  exact ⟨kept, by decide +kernel, consistent_without_release sampleConfig sampleAccepted kept⟩

/-- After a release the dispatch waits and still names the courier whom it was offered to. -/
theorem released_names_courier :
    ¬ ∀ (config : CourierConfig) (moves : List CourierMove),
      ∀ request ∈ (run (courierStep config) {} moves).dispatch.requests.rows,
        Consistent (run (courierStep config) {} moves).dispatch request := by
  intro claim
  have bound : ∃ request ∈ (run (courierStep sampleConfig) {}
      (sampleAccepted ++ [sampleRelease 4 3])).dispatch.requests.rows,
      request.state = .waiting ∧ request.offeredCourierIdentityId ≠ none := by
    decide +kernel
  obtain ⟨request, listed, waiting, named⟩ := bound
  have consistent := claim sampleConfig (sampleAccepted ++ [sampleRelease 4 3]) request listed
  exact named (consistent.unbound (by simp [waiting]) (by simp [waiting]))

/-- One action of the graph on a dispatch, which stays with its order. -/
structure DispatchStep (old new : CourierDispatchRequest) : Prop where
  orderId : new.orderId = old.orderId
  version : new.version = old.version + 1
  leads : ∃ action, targetState old.state action = some new.state

/-- An active offer is resolved, for the same courier. -/
structure OfferStep (old new : CourierOffer) : Prop where
  active : old.state = .active
  resolved : new.state ≠ .active
  dispatchId : new.dispatchId = old.dispatchId
  courier : new.courierIdentityId = old.courierIdentityId

structure AssignmentStep (old new : CourierAssignment) : Prop where
  standing : old.state = .assigned
  closed : new.state ≠ .assigned
  dispatchId : new.dispatchId = old.dispatchId
  courier : new.courierIdentityId = old.courierIdentityId

/-- Dispatches move along their graph; an offer and an assignment are decided once. -/
structure Progresses (s t : DispatchStore) : Prop where
  requests : Evolves DispatchStep s.requests t.requests
  offers : Evolves OfferStep s.offers t.offers
  assignments : Evolves AssignmentStep s.assignments t.assignments

section

variable {draws : Draws} {s t : CourierStore} {old : CourierDispatchRequest}

private theorem evolves_of_moved {change : RequestChange} {eventType : DispatchEventType}
    (moved : Moved draws s t old change eventType) (action : CourierDispatchAction)
    (leads : targetState old.state action = some change.target) :
    Evolves DispatchStep s.dispatch.requests t.dispatch.requests :=
  .of_replaced moved.requests (Table.mem_of_find moved.stored) rfl
    (.single ⟨rfl, rfl, action, leads⟩)

theorem progresses_of_effect {action : Option CourierDispatchAction}
    (effect : DispatchEffect draws action s t) : Progresses s.dispatch t.dispatch := by
  cases effect with
  | idle requests offers assignments =>
    exact ⟨.of_eq requests, .of_eq offers, .of_eq assignments⟩
  | admitted _ _ _ _ _ _ _ _ requests offers assignments =>
    exact ⟨.of_append requests, .of_eq offers, .of_eq assignments⟩
  | offered _ _ _ _ _ waiting moved offers assignments =>
    exact ⟨evolves_of_moved moved .offer (by rw [waiting]; rfl), .of_append offers,
      .of_eq assignments⟩
  | accepted _ _ offer _ offered _ found standing moved offers assignments =>
    refine ⟨evolves_of_moved moved .accept (by rw [offered]; rfl), ?_, .of_append assignments⟩
    exact .of_replaced offers (Table.mem_of_find found) rfl
      (.single ⟨standing, by simp [CourierOffer.resolved], rfl, rfl⟩)
  | offerClosed _ _ offer state _ _ change _ offered _ found standing closes changes _ moved offers
      assignments =>
    refine ⟨evolves_of_moved moved .decline ?_, ?_, .of_eq assignments⟩
    · rw [offered]
      rcases changes with same | same <;> rw [same] <;> rfl
    · refine .of_replaced offers (Table.mem_of_find found) rfl (.single ⟨standing, ?_, rfl, rfl⟩)
      rcases closes with rfl | rfl | rfl <;> simp [CourierOffer.resolved]
  | released _ _ assignment _ _ assigned _ found standing _ moved offers assignments =>
    refine ⟨evolves_of_moved moved .release (by rw [assigned]; rfl), .of_eq offers, ?_⟩
    exact .of_replaced assignments (Table.mem_of_find found) rfl
      (.single ⟨standing, by simp [CourierAssignment.closed], rfl, rfl⟩)
  | cancelled _ current _ open_ _ moved offers assignments =>
    obtain ⟨target, leads⟩ := Option.isSome_iff_exists.1 open_
    refine ⟨evolves_of_moved moved .cancel (targetState_cancel leads ▸ leads), ?_, ?_⟩
    · obtain ⟨_, same⟩ | ⟨_, _, _, _, found, ⟨standing, _, _, _, rfl⟩, rows⟩ := offers
      · exact .of_eq same
      · exact .of_replaced rows (Table.mem_of_find found) rfl
          (.single ⟨standing, by simp [CourierOffer.resolved], rfl, rfl⟩)
    · obtain ⟨_, same⟩ | ⟨_, _, _, _, found, ⟨standing, _, _, rfl⟩, rows⟩ := assignments
      · exact .of_eq same
      · exact .of_replaced rows (Table.mem_of_find found) rfl
          (.single ⟨standing, by simp [CourierAssignment.closed], rfl, rfl⟩)
  | concluded _ _ _ waiting moved offers assignments =>
    exact ⟨evolves_of_moved moved .concludeUnfulfilled (by rw [waiting]; rfl), .of_eq offers,
      .of_eq assignments⟩

end

theorem courierStep_progresses (config : CourierConfig) (store : CourierStore)
    (move : CourierMove) : Progresses store.dispatch (courierStep config store move).dispatch := by
  obtain same | ⟨_, _, _, _, _, _, ran⟩ := dispatch_step config store move
  · rw [same]
    exact ⟨.refl, .refl, .refl⟩
  · exact progresses_of_effect (dispatchCommand_effect ran)

/-- In any order of moves a dispatch follows its graph one version at a time and stays with its
order; an offer is resolved and an assignment closed at most once, and neither changes its courier
or disappears. -/
theorem dispatches_progress (config : CourierConfig) (store : CourierStore)
    (moves : List CourierMove) :
    Progresses store.dispatch (run (courierStep config) store moves).dispatch :=
  run_related (R := fun s t : CourierStore => Progresses s.dispatch t.dispatch)
    (fun _ => ⟨.refl, .refl, .refl⟩)
    (fun early late => ⟨early.1.trans late.1, early.2.trans late.2, early.3.trans late.3⟩)
    (courierStep_progresses config) store moves

end Ayo.CourierDispatch.Consistency
