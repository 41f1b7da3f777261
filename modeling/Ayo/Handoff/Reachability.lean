/- digest: Drivers who go online are found online, and offline ones have no offer. -/

import Ayo.Handoff.Effects
import Ayo.Handoff.WorkerSessions

namespace Ayo.Handoff.Reachability

open Kernel.UnitOfWork Kernel.KeyedTable Kernel.Ordering Kernel.Run Kernel.Updates Core.Values
  Core.Authorization Models Repository Service Handoff.System Effects WorkerSessions

variable {config : HandoffConfig} (store : ReachStore)

def Working (identityId : Uuid) : Prop :=
  ∃ row ∈ store.workers.rows, row.identityId = identityId ∧ row.state = .online

def Unoffered (store : HandoffStore) (driverId : Uuid) : Prop :=
  ∀ offer ∈ store.offers.rows, offer.driverId = driverId → offer.state ≠ .created

/-- No offer waits for the driver, and no acceptance of the driver changes an offer or assigns. -/
structure Unreachable (config : HandoffConfig) (store : ReachStore) (driverId : Uuid) : Prop where
  unoffered : Unoffered store.handoff driverId
  refused : ∀ (sources : DispatchSources) (response : OfferResponse),
    response.driverId = driverId → response.accept = true →
      (reachStep config store (.dispatch (.respond sources response))).handoff.offers =
          store.handoff.offers ∧
        (reachStep config store (.dispatch (.respond sources response))).handoff.assignments =
          store.handoff.assignments

def Started (call : StartCall) : Prop :=
  ∃ session after, startRideDriver call store = .ok (session, after)

def Stopped (subject : DriverSubject) (time : Instant) : Prop :=
  ∃ session after, stopRideDriver subject time store = .ok (session, after)

abbrev storeAt (config : HandoffConfig) (calls : List ReachCall) (n : Nat) : ReachStore :=
  run (reachStep config) reachInitial (calls.take n)

/-- Online means reachable, there is one online session for each driver, and offline means
unreachable. -/
structure ReachLaw (config : HandoffConfig) (calls : List ReachCall) : Prop where
  online : ∀ n call, calls[n]? = some (.start call) → Started (storeAt config calls n) call →
    RideDriverOnline (storeAt config calls (n + 1)) call.subject.identityId call.vehicleId
      call.serviceZoneId call.time.instant
  single : ∀ n, ∀ first ∈ (storeAt config calls n).workers.rows,
    ∀ second ∈ (storeAt config calls n).workers.rows, first.state = .online →
      second.state = .online → first.identityId = second.identityId → first = second
  offline : ∀ n subject time, calls[n]? = some (.stop subject time) →
    Stopped (storeAt config calls n) subject time →
      ¬ Working (storeAt config calls (n + 1)) subject.identityId ∧
      ∀ m, n < m → (∀ k, n < k → k ≤ m →
          ¬ Working (storeAt config calls k) subject.identityId) →
        Unreachable config (storeAt config calls m) subject.identityId

def Admitted (call : StartCall) (sessionId : Uuid) : Prop :=
  call.subject.identityType = .driver ∧ call.time.aware = true ∧
    EligibilityCurrent call.sources call.subject.identityId call.vehicleId call.time.instant ∧
    ValidLogin store sessionId call.subject.identityId call.time.instant

/-- Where an admitted start finds a session of its role, that session was not started later and its
login is still valid. -/
def Renewed : ReachCall → Prop
  | .start call => ∀ sessionId ∈ call.subject.sessionId, Admitted store call sessionId →
      ∀ current ∈ getActive store call.subject.identityId,
        current.SameRole (call.item sessionId) → current.startedAt ≤ call.time.instant ∧
          ValidLogin store current.identitySessionId call.subject.identityId call.time.instant
  | _ => True

section

variable {store t : ReachStore} {old : WorkerCapabilitySession} {call : StartCall}

theorem single_online {first second : WorkerCapabilitySession}
    (left : first ∈ store.workers.rows) (right : second ∈ store.workers.rows)
    (active : first.state = .online) (alsoActive : second.state = .online)
    (same : first.identityId = second.identityId) : first = second := by
  refine store.workers.eq_of_clash left right (.inr ?_)
  refine ⟨WorkerCapabilitySession.activeIdentity, List.mem_singleton_self _, ?_, ?_⟩
  · simp [WorkerCapabilitySession.activeIdentity, active]
  · simp [WorkerCapabilitySession.activeIdentity, active, alsoActive, same]

theorem getActive_eq_some {identityId : Uuid} :
    getActive store identityId = some old ↔ old ∈ store.workers.rows ∧ old.identityId = identityId ∧
        old.state = .online := by
  constructor
  · intro found
    exact ⟨List.mem_of_find?_eq_some found, by simpa using List.find?_some found⟩
  · rintro ⟨held, own, active⟩
    cases found : getActive store identityId with
    | none =>
      exact absurd (List.find?_eq_none.1 found old held) (by simp [own, active])
    | some other =>
      have meets : other.identityId = identityId ∧ other.state = .online := by
        simpa using List.find?_some found
      rw [single_online (List.mem_of_find?_eq_some found) held meets.2 active
        (meets.1.trans own.symm)]

theorem driverSession_bind_ok {α : Type} {subject : DriverSubject} {f : Uuid → ReachTransaction α}
    {answer : α} :
    (driverSession subject >>= f) store = .ok (answer, t) ↔
      subject.identityType = .driver ∧ ∃ sessionId, subject.sessionId = some sessionId ∧
        f sessionId store = .ok (answer, t) := by
  simp only [driverSession, bind_assoc, steps_ok]

theorem startRideDriver_ok {session : WorkerCapabilitySession} :
    startRideDriver call store = .ok (session, t) ↔
      ∃ sessionId, call.subject.sessionId = some sessionId ∧ Admitted store call sessionId ∧
        ((getActive store call.subject.identityId = some session ∧
            session.SameRole (call.item sessionId) ∧ t = store) ∨
          (getActive store call.subject.identityId = none ∧ session = call.item sessionId ∧
            ∃ workers : Table WorkerCapabilitySession,
              workers.rows = store.workers.rows ++ [call.item sessionId] ∧
              t = { store with workers })) := by
  simp only [startRideDriver, startSession, driverSession_bind_ok, steps_ok, whenSome_ok,
    Table.insert?_eq_some, Admitted]
  constructor
  · rintro ⟨driver, sessionId, named, aware, eligible, login, ⟨old, found, role, rfl, rfl⟩ |
      ⟨idle, workers, rows, rfl, rfl⟩⟩
    · exact ⟨sessionId, named, ⟨driver, aware, eligible, login⟩, .inl ⟨found, role, rfl⟩⟩
    · exact ⟨sessionId, named, ⟨driver, aware, eligible, login⟩,
        .inr ⟨idle, rfl, workers, rows, rfl⟩⟩
  · rintro ⟨sessionId, named, ⟨driver, aware, eligible, login⟩, ⟨found, role, rfl⟩ |
      ⟨idle, rfl, workers, rows, rfl⟩⟩
    · exact ⟨driver, sessionId, named, aware, eligible, login, .inl ⟨session, found, role, rfl, rfl⟩⟩
    · exact ⟨driver, sessionId, named, aware, eligible, login, .inr ⟨idle, workers, rows, rfl, rfl⟩⟩

theorem online_of_current {sessionId : Uuid}
    (found : getActive store call.subject.identityId = some old)
    (role : old.SameRole (call.item sessionId)) :
    RideDriverOnline store call.subject.identityId call.vehicleId call.serviceZoneId
        call.time.instant ↔
      old.startedAt ≤ call.time.instant ∧
        ValidLogin store old.identitySessionId call.subject.identityId call.time.instant := by
  obtain ⟨held, own, active⟩ := getActive_eq_some.1 found
  obtain ⟨capability, vehicle, zone⟩ := role
  constructor
  · rintro ⟨row, mem, driver, _, _, _, online, started, login⟩
    obtain rfl := single_online mem held online active (driver.trans own.symm)
    exact ⟨started, login⟩
  · rintro ⟨started, login⟩
    exact ⟨old, held, own, capability, vehicle, zone, active, started, login⟩

theorem started_online_iff : (∀ session t, startRideDriver call store = .ok (session, t) →
        RideDriverOnline t call.subject.identityId call.vehicleId call.serviceZoneId
          call.time.instant) ↔ Renewed store (.start call) := by
  constructor
  · intro reaches sessionId named admitted old found role
    have reached := reaches old store
      (startRideDriver_ok.2 ⟨sessionId, named, admitted, .inl ⟨found, role, rfl⟩⟩)
    exact (online_of_current found role).1 reached
  · intro renewed session t ran
    obtain ⟨sessionId, named, admitted, ⟨found, role, rfl⟩ | ⟨_, rfl, workers, rows, rfl⟩⟩ :=
      startRideDriver_ok.1 ran
    · exact (online_of_current found role).2 (renewed sessionId named admitted session found role)
    · refine ⟨call.item sessionId, ?_, rfl, rfl, rfl, rfl, rfl, le_refl _, admitted.2.2.2⟩
      show call.item sessionId ∈ workers.rows
      rw [rows]
      exact List.mem_append_right _ (List.mem_singleton_self _)

end

section

variable {store t : HandoffStore} {response : OfferResponse} {answer : Option Uuid}
  {sources : DispatchSources} {time : Instant}

def OpensNone (before after : HandoffStore) : Prop :=
  ∀ offer ∈ after.offers.rows, offer.state = .created → offer ∈ before.offers.rows

theorem OpensNone.of_same (same : t.offers = store.offers) : OpensNone store t := by
  intro offer held _
  rwa [same] at held

theorem OpensNone.of_update {condition : HandoffOffer → Prop} [DecidablePred condition]
    {change : HandoffOffer → HandoffOffer} (closes : ∀ offer, (change offer).state ≠ .created)
    (rows : t.offers.rows = store.offers.rows.map (updateWhere condition change)) :
    OpensNone store t := by
  intro offer held created
  rw [rows] at held
  obtain ⟨old, mem, rfl⟩ := List.mem_map.1 held
  by_cases meets : condition old
  · rw [updateWhere_of_meets meets] at created
    exact absurd created (closes old)
  · rw [updateWhere_of_not meets]
    exact mem

theorem OpensNone.of_resolves {offer : HandoffOffer} {handoff : DispatchHandoff}
    {outcome : HandoffOfferState} (closed : outcome ≠ .created)
    (resolves : Resolves store t offer outcome handoff) : OpensNone store t := by
  intro other held created
  rw [resolves.rows, Table.mem_replaced] at held
  obtain ⟨rfl, _⟩ | ⟨old, _⟩ := held
  · exact absurd created closed
  · exact old

theorem opensNone_of_effect {action : HandoffAction} (effect : HandoffEffect config store t action)
    (other : ∀ sources handoffId observations time offerId,
      action ≠ .offerNext sources handoffId observations time offerId) :
    OpensNone store t := by
  cases effect with
  | kept handoffs offers => exact .of_same offers
  | received handoffs searching first offers => exact .of_same offers
  | emptyRound found unranked handoffs offers => exact .of_same offers
  | offered =>
    exact absurd rfl (other _ _ _ _ _)
  | resolved moves resolves ended =>
    refine .of_resolves ?_ resolves
    rintro rfl
    exact absurd ended (by decide)
  | assigned moves resolves =>
    exact .of_resolves (by decide) resolves
  | cancelled unassigned closes =>
    exact .of_update (fun _ => (by simp [resolvedOffer])) closes.offers
  | swept sweeps =>
    induction sweeps with
    | refl => exact .of_same rfl
    | tail _ sweep ih =>
      obtain ⟨handoff, _, closes⟩ := sweep
      have last : OpensNone _ _ :=
        .of_update (fun _ => (by simp [resolvedOffer])) closes.offers
      exact fun offer held created => ih offer (last offer held created) created

theorem repositoryRespond_offers {hash : Payload → Digest}
    (ran : Repository.respond hash response store = .ok (answer, t)) :
    (t.offers = store.offers ∧ t.assignments = store.assignments) ∨
      (OpensNone store t ∧ ¬ Unoffered store response.driverId) := by
  unfold Repository.respond at ran
  obtain ⟨canonical, between, reserved, asked⟩ := bind_ok.1 ran
  obtain ⟨reservations, rfl, _⟩ := reserveIdempotency_ok reserved
  simp only [steps_ok, ite_ok, updateOffers_bind_ok] at asked
  obtain ⟨offer, found, drives, handoff, held, ⟨_, _, _, _, rfl⟩ | ⟨_, ⟨_, _, rfl⟩ | ⟨_,
    ⟨created, _⟩, _, offers, answered, finished⟩⟩⟩ := asked
  · exact .inl ⟨rfl, rfl⟩
  · exact .inl ⟨rfl, rfl⟩
  refine .inr ⟨?_, fun unoffered => unoffered offer (Table.mem_of_find found) drives created⟩
  have closed : ∀ other : HandoffOffer,
      (if response.accept = true then HandoffOfferState.accepted else .rejected) ≠ .created := by
    intro other
    split <;> decide
  rcases finished with ⟨_, assigned⟩ | ⟨_, rejected⟩
  · unfold assignOffer at assigned
    simp only [steps_ok, updateHandoffs_bind_ok, event_bind_ok] at assigned
    obtain ⟨_, _, _, _, _, _, _, _, _, _, _, _, _, rfl⟩ := assigned
    exact .of_update closed answered
  · unfold rejectOffer at rejected
    simp only [updateHandoffs_bind_ok, event_bind_ok, pure_ok] at rejected
    obtain ⟨_, _, _, _, _, rfl⟩ := rejected
    exact .of_update closed answered

theorem respond_offers (ran : Service.respond config sources response store = .ok (answer, t)) :
    (t.offers = store.offers ∧ t.assignments = store.assignments) ∨
      (OpensNone store t ∧ ¬ Unoffered store response.driverId) := by
  unfold Service.respond at ran
  rcases ite_ok.1 ran with ⟨_, answered⟩ | ⟨_, answered⟩
  · unfold respondCanonical at answered
    simp only [steps_ok] at answered
    obtain ⟨_, _, _, _, _, answered⟩ := answered
    exact repositoryRespond_offers answered
  · exact repositoryRespond_offers answered

theorem offerNext_offers {handoffId offerId : Uuid} {observations : List EligibleDriverInput}
    {answer : Option HandoffOffer}
    (ran : offerNext config sources handoffId observations time offerId store = .ok (answer, t)) :
    ∀ offer ∈ t.offers.rows, offer ∈ store.offers.rows ∨
      ∃ handoff, ∃ item ∈ rankedDrivers config sources handoff observations time,
        offer.driverId = item.driverId := by
  unfold offerNext recordCandidates at ran
  simp only [getHandoff_bind_ok, steps_ok, event_bind_ok] at ran
  obtain ⟨handoff, _, _, events, _, asked⟩ := ran
  intro offer held
  cases ranked : rankedDrivers config sources handoff observations time with
  | nil =>
    rw [ranked] at asked
    obtain ⟨failed, _, finished⟩ := event_bind_ok.1 asked
    obtain ⟨_, rfl⟩ := pure_ok.1 finished
    exact .inl held
  | cons selected others =>
    rw [ranked] at asked
    dsimp only at asked
    split at asked
    · unfold createOffer at asked
      simp only [bind_assoc, pure_bind, steps_ok, updateHandoffs_bind_ok, event_bind_ok,
        Table.insert?_eq_some] at asked
      obtain ⟨offers, rows, _, _, _, _, _, _, _, _, _, _, _, rfl⟩ := asked
      replace held : offer ∈ offers.rows := held
      rw [rows, List.mem_append, List.mem_singleton] at held
      refine held.imp_right fun new => ⟨handoff, selected, ?_, ?_⟩
      · rw [ranked]
        exact List.mem_cons_self
      · rw [new]
    · exact (throw_ok.1 asked).elim

theorem revokeDriverOffer_clears {driverId : Uuid} {answer : Bool}
    (ran : revokeDriverOffer driverId time store = .ok (answer, t)) : Unoffered t driverId := by
  unfold revokeDriverOffer at ran
  simp only [steps_ok, whenSome_ok] at ran
  obtain ⟨waiting, found, resolved⟩ | ⟨unfound, _, rfl⟩ := ran
  · rw [bind_pure_ok] at resolved
    obtain ⟨_, resolved, _⟩ := resolved
    have mem := List.mem_of_find?_eq_some found
    have meets : waiting.driverId = driverId ∧ waiting.state = .created := by
      simpa using List.find?_some found
    unfold resolveOpenOffer at resolved
    simp only [steps_ok, updateOffers_bind_ok, updateHandoffs_bind_ok, event_ok] at resolved
    obtain ⟨_, _, _, _, _, _, _, _, offers, rows, _, _, _, _, rfl⟩ := resolved
    intro offer held own created
    replace held : offer ∈ offers.rows := held
    rw [rows] at held
    obtain ⟨old, oldStored, rfl⟩ := List.mem_map.1 held
    by_cases named : old.offerId = waiting.offerId
    · rw [updateWhere, if_pos named] at created
      cases created
    · rw [updateWhere, if_neg named] at own created
      have clash : Row.clash old waiting :=
        .inr ⟨created, meets.2, .inr (own.trans meets.1.symm)⟩
      exact named (congrArg HandoffOffer.offerId (store.offers.eq_of_clash oldStored mem clash))
  · intro offer held own created
    exact absurd (List.find?_eq_none.1 unfound offer held) (by simp [own, created])

end

section

variable {store : ReachStore} {driverId : Uuid}

theorem working_of_online {identityId vehicleId serviceZoneId : Uuid} {now : Instant}
    (online : RideDriverOnline store identityId vehicleId serviceZoneId now) :
    Working store identityId := by
  obtain ⟨row, held, own, _, _, _, active, _⟩ := online
  exact ⟨row, held, own, active⟩

theorem stopRideDriver_ok {subject : DriverSubject} {time : Instant}
    {session : WorkerCapabilitySession} {t : ReachStore}
    (ran : stopRideDriver subject time store = .ok (session, t)) :
    ¬ Working t subject.identityId ∧ ∃ answer,
      revokeDriverOffer subject.identityId time store.handoff = .ok (answer, t.handoff) := by
  simp only [stopRideDriver, stopSession, driverSession_bind_ok, bind_assoc, steps_ok, pure_bind,
    Table.replace?_eq_some] at ran
  obtain ⟨_, _, _, current, found, workers, rows, revoked⟩ := ran
  rw [bind_pure_ok] at revoked
  obtain ⟨answer, offers, _⟩ := revoked
  obtain ⟨handoff, revoked, rfl⟩ := within_ok.1 offers
  refine ⟨?_, answer, revoked⟩
  obtain ⟨held, own, active⟩ := getActive_eq_some.1 (Option.filter_eq_some_iff.1 found).1
  rintro ⟨row, mem, mine, online⟩
  replace mem : row ∈ workers.rows := mem
  rw [rows, Table.mem_replaced] at mem
  obtain ⟨rfl, _⟩ | ⟨old, apart⟩ := mem
  · cases online
  · have same : row = current := single_online old held online active (mine.trans own.symm)
    have key : row.workerSessionId = current.workerSessionId := by rw [same]
    exact apart key

theorem start_handoff (config : HandoffConfig) (store : ReachStore) (call : StartCall) :
    (reachStep config store (.start call)).handoff = store.handoff := by
  obtain same | ⟨session, ran⟩ := commit_cases (startRideDriver call) store
  · exact congrArg ReachStore.handoff same
  · obtain ⟨_, _, _, ⟨_, _, same⟩ | ⟨_, _, workers, _, same⟩⟩ := startRideDriver_ok.1 ran
    · rw [reachStep, same]
    · rw [reachStep, same]

theorem step_offers {call : ReachCall} (unoffered : Unoffered store.handoff driverId)
    (idle : ¬ Working store driverId) :
    Unoffered (reachStep config store call).handoff driverId := by
  have closed : ∀ {t : HandoffStore}, OpensNone store.handoff t → Unoffered t driverId :=
    fun opens offer held own created =>
      unoffered offer (opens offer held created) own created
  have kept_of_effect : ∀ (action : HandoffAction) {t : HandoffStore},
      HandoffEffect (canonicalConfig config) store.handoff t action →
      (∀ sources handoffId observations time offerId,
        action ≠ .offerNext sources handoffId observations time offerId) →
      Unoffered t driverId :=
    fun _ _ effect other => closed (opensNone_of_effect effect other)
  cases call with
  | login => exact unoffered
  | start =>
    rw [start_handoff]
    exact unoffered
  | stop subject time =>
    obtain same | ⟨session, ran⟩ := commit_cases (stopRideDriver subject time) store
    · have kept : (reachStep config store (.stop subject time)).handoff = store.handoff :=
        congrArg ReachStore.handoff same
      rw [kept]
      exact unoffered
    · obtain ⟨_, answer, revoked⟩ := stopRideDriver_ok ran
      have effect : HandoffEffect config store.handoff
          (reachStep config store (.stop subject time)).handoff
          (.revokeDriverOffer subject.identityId time) := revokeDriverOffer_effect revoked
      exact closed (opensNone_of_effect effect fun _ _ _ _ _ different => (by cases different))
  | dispatch action =>
    cases action with
    | offerNext sources handoffId observations time offerId =>
      refine commit_related (R := fun _ t => Unoffered t driverId)
        (offerNext (canonicalConfig config) (DispatchSources.reading sources store) handoffId
          observations time offerId) store.handoff unoffered ?_
      intro answer t ran offer held own created
      obtain old | ⟨handoff, item, ranked, made⟩ := offerNext_offers ran offer held
      · exact unoffered offer old own created
      · -- a driver who is ranked has an online session
        have listed := (List.mem_filter.1 (mem_orderedBy.1 ranked)).1
        have meets := of_decide_eq_true (List.mem_filter.1 listed).2
        have online := of_decide_eq_true (meets.2 rfl)
        rw [← made, own] at online
        exact idle (working_of_online online)
    | respond sources response =>
      refine commit_related (R := fun _ t => Unoffered t driverId)
        (Service.respond (canonicalConfig config) (DispatchSources.reading sources store) response)
        store.handoff unoffered ?_
      intro answer t ran
      obtain ⟨same, _⟩ | ⟨opens, _⟩ := respond_offers ran
      · exact closed (.of_same same)
      · exact closed opens
    | receive sources command pricing time candidateId =>
      exact kept_of_effect (.receive sources command pricing time candidateId)
        (effect_of_commit _ fun _ _ ran => receive_effect ran)
        fun _ _ _ _ _ different => (by cases different)
    | expireOffer offerId time =>
      exact kept_of_effect (.expireOffer offerId time)
        (effect_of_commit _ fun _ _ ran => resolveOpenOffer_effect ran)
        fun _ _ _ _ _ different => (by cases different)
    | supersedeOffer offerId time =>
      exact kept_of_effect (.supersedeOffer offerId time)
        (effect_of_commit _ fun _ _ ran => resolveOpenOffer_effect ran)
        fun _ _ _ _ _ different => (by cases different)
    | revokeDriverOffer revoked time =>
      exact kept_of_effect (.revokeDriverOffer revoked time)
        (effect_of_commit _ fun _ _ ran => revokeDriverOffer_effect ran)
        fun _ _ _ _ _ different => (by cases different)
    | cancelBeforeAssignment rideRequestId time =>
      exact kept_of_effect (.cancelBeforeAssignment rideRequestId time)
        (effect_of_commit _ fun _ _ ran => cancelBeforeAssignment_effect ran)
        fun _ _ _ _ _ different => (by cases different)
    | closeExpiredHandoffs time limit locked =>
      exact kept_of_effect (.closeExpiredHandoffs time limit locked)
        (effect_of_commit _ fun _ _ ran => closeExpiredHandoffs_effect ran)
        fun _ _ _ _ _ different => (by cases different)

theorem unreachable_of_unoffered (unoffered : Unoffered store.handoff driverId) :
    Unreachable config store driverId := by
  refine ⟨unoffered, fun sources response named _ => ?_⟩
  refine commit_related (R := fun (s t : HandoffStore) => t.offers = s.offers ∧
      t.assignments = s.assignments)
    (Service.respond (canonicalConfig config) (DispatchSources.reading sources store) response)
    store.handoff ⟨rfl, rfl⟩ ?_
  intro answer t ran
  obtain same | ⟨_, waits⟩ := respond_offers ran
  · exact same
  · rw [named] at waits
    exact absurd unoffered waits

end

section

variable {calls : List ReachCall} {n : Nat}

theorem storeAt_succ {call : ReachCall} (taken : calls[n]? = some call) :
    storeAt config calls (n + 1) = reachStep config (storeAt config calls n) call :=
  run_take_succ taken

theorem unoffered_until_online {driverId : Uuid} {m : Nat} (le : n ≤ m)
    (start : Unoffered (storeAt config calls n).handoff driverId)
    (idle : ∀ k, n ≤ k → k < m → ¬ Working (storeAt config calls k) driverId) :
    Unoffered (storeAt config calls m).handoff driverId := by
  induction m, le using Nat.le_induction with
  | base => exact start
  | succ m le ih =>
    have before := ih fun k from_ below => idle k from_ (Nat.lt_succ_of_lt below)
    cases taken : calls[m]? with
    | none =>
      have finished : calls.length ≤ m := List.getElem?_eq_none_iff.1 taken
      rw [storeAt, List.take_of_length_le (Nat.le_succ_of_le finished)]
      rwa [storeAt, List.take_of_length_le finished] at before
    | some call =>
      rw [storeAt_succ taken]
      exact step_offers before (idle m le (Nat.lt_succ_self m))

theorem offline_unreachable {subject : DriverSubject} {time : Instant}
    (taken : calls[n]? = some (.stop subject time))
    (stopped : Stopped (storeAt config calls n) subject time) :
    ¬ Working (storeAt config calls (n + 1)) subject.identityId ∧ ∀ m, n < m → (∀ k, n < k → k ≤ m →
          ¬ Working (storeAt config calls k) subject.identityId) →
        Unreachable config (storeAt config calls m) subject.identityId := by
  obtain ⟨session, t, ran⟩ := stopped
  have next : storeAt config calls (n + 1) = t := by
    rw [storeAt_succ taken]
    exact commit_of_ok ran
  obtain ⟨idle, answer, revoked⟩ := stopRideDriver_ok ran
  rw [next]
  refine ⟨idle, fun m later idles => unreachable_of_unoffered ?_⟩
  refine unoffered_until_online (n := n + 1) later ?_ fun k from_ below =>
    idles k from_ (Nat.le_of_lt below)
  rw [next]
  exact revokeDriverOffer_clears revoked

/-- A run keeps the law of reachability exactly when every admitted start that finds a session of
its role finds one whose login is still valid. -/
theorem reachLaw_iff_renewed (config : HandoffConfig) (calls : List ReachCall) :
    ReachLaw config calls ↔ Along (reachStep config) Renewed reachInitial calls := by
  constructor
  · intro law
    refine along_of_taken fun n call taken => ?_
    cases call with
    | start call =>
      refine started_online_iff.1 fun session after success => ?_
      have reached := law.online n call taken ⟨session, after, success⟩
      have next : storeAt config calls (n + 1) = after := by
        rw [storeAt_succ taken]
        exact commit_of_ok success
      rwa [next] at reached
    | login => trivial
    | stop => trivial
    | dispatch => trivial
  · intro renewed
    refine ⟨fun n call taken started => ?_, fun n first left second right => single_online left
      right, fun n subject time taken stopped => offline_unreachable taken stopped⟩
    obtain ⟨session, after, success⟩ := started
    rw [storeAt_succ taken, reachStep, commit_of_ok success]
    exact started_online_iff.2 (guard_of_along renewed taken) session after success

end

variable (sessionId : Uuid)

def sampleSubject : DriverSubject where
  identityId := 5
  identityType := .driver
  sessionId := some sessionId

def sampleLogin (secret : RateLimit.Models.Bytes) (createdAt : Instant) : ReachCall :=
  .login (.createSession
    { sessionId, identityId := some 5, tokenFamilyId := none, refreshRotationCounter := 0
      tokenHash := secret, createdAt, expiresAt := createdAt + seconds 3600, revokedAt := none
      revocationReason := none, version := 1 })

def sampleSources : DispatchSources where
  readySource _ := none
  pricing _ := none
  latestDecision _ := some
    { status := "eligible", expiresAt := some (seconds 86400), vehicleId := some 8 }
  vehicleApproval _ := some "approved"
  authorizationExpiry _ _ := some (seconds 86400)
  rideDriverOnline _ _ _ _ := false

def sampleStart (time : Int) (workerSessionId : Uuid) : StartCall where
  sources := sampleSources
  subject := sampleSubject sessionId
  vehicleId := 8
  serviceZoneId := 9
  time := .utc (seconds time)
  workerSessionId

def sampleConfig : HandoffConfig where
  hash payload := payload.length
  policyVersion := "dispatch.v1"

def relogged : List ReachCall :=
  [sampleLogin 1 [1] 0, .start (sampleStart 1 10 21),
   .login (.revokeSession 1 (seconds 20) "user_sign_out"), sampleLogin 2 [2] (seconds 30),
   .start (sampleStart 2 40 22)]

/-- A driver can go online under a new login and not be found online. -/
theorem relogged_driver_unreachable :
    ¬ ∀ (config : HandoffConfig) (calls : List ReachCall), ReachLaw config calls := by
  intro law
  have started : Started (storeAt sampleConfig relogged 4) (sampleStart 2 40 22) := by
    have succeeds : (startRideDriver (sampleStart 2 40 22)
        (storeAt sampleConfig relogged 4)).toOption.isSome = true := by decide +kernel
    cases result : startRideDriver (sampleStart 2 40 22) (storeAt sampleConfig relogged 4) with
    | ok answer => exact ⟨answer.1, answer.2, result⟩
    | error =>
      rw [result] at succeeds
      cases succeeds
  exact absurd ((law sampleConfig relogged).online 4 _ rfl started) (by decide +kernel)

end Ayo.Handoff.Reachability
