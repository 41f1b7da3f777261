/- digest: What a later dispatch command under the same key does. -/

import Ayo.CourierDispatch.Consistency

namespace Ayo.CourierDispatch.NamedCommands

open Kernel.UnitOfWork Kernel.KeyedTable Kernel.Failures Kernel.Related Kernel.Run Kernel.Updates
  Core.Values Core.Authorization Courier.Store Courier.System Courier.Frames Courier.Writers Models
  Repository Application Effects Consistency

def name? : DispatchCommand → Option (CourierDispatchAction × String)
  | .consumeMerchantReady _ => none
  | .offerCourier request => some (.offer, request.idempotencyKey)
  | .command request => some (request.action, request.idempotencyKey)
  | .authorityCommand request => some (request.action, request.idempotencyKey)

structure BusinessArguments where
  dispatchId : Uuid
  expectedVersion : Int
  courierIdentityId : Option Uuid
  eligibilityEvidence : List CourierEligibilityEvidence
  reason : Option String
deriving DecidableEq

def argumentsOf? : DispatchCommand → Option BusinessArguments
  | .consumeMerchantReady _ => none
  | .offerCourier request =>
    some
      { dispatchId := request.dispatchId, expectedVersion := request.expectedVersion,
        courierIdentityId := some request.eligibleCourierIdentityId,
        eligibilityEvidence := request.eligibilityEvidence, reason := none }
  | .command request =>
    some
      { dispatchId := request.dispatchId, expectedVersion := request.expectedVersion,
        courierIdentityId := some request.courierIdentityId, eligibilityEvidence := [],
        reason := none }
  | .authorityCommand request =>
    some
      { dispatchId := request.dispatchId, expectedVersion := request.expectedVersion,
        courierIdentityId := none, eligibilityEvidence := [], reason := some request.reason }

/-- Every type of evidence is there once, and each piece of it says so at the moment. -/
def Eligible (evidence : List CourierEligibilityEvidence) (time : Instant) : Prop :=
  ((∀ type ∈ EligibilityEvidenceType.all, ∃ item ∈ evidence, item.evidenceType = type) ∧
      evidence.length = EligibilityEvidenceType.all.length) ∧
    ∀ item ∈ evidence, item.eligible = true ∧ item.observedAt ≤ time ∧ time < item.validUntil

/-- The checks that a command passes before it looks at its key. -/
def Reaches (reads : CourierReads) (subject : AuthorizationSubject) (store : CourierStore) :
    DispatchCommand → Prop
  | .consumeMerchantReady _ => False
  | .offerCourier request =>
    request.time.aware = true ∧ Eligible request.eligibilityEvidence request.time.instant ∧
      reads.grants subject.identityId "courier_dispatch.manage" (.utc request.time.instant) = true ∧
      (store.dispatch.requests.find request.dispatchId).isSome = true
  | .command request =>
    (request.action = .accept ∨ request.action = .decline) ∧
      subject.identityId = request.courierIdentityId ∧
      (store.dispatch.requests.find request.dispatchId).isSome = true
  | .authorityCommand request =>
    request.action ∈ authorityActions ∧ request.time.aware = true ∧
      reads.grants subject.identityId "courier_dispatch.manage" (.utc request.time.instant) = true ∧
      (store.dispatch.requests.find request.dispatchId).isSome = true

section

variable {config : CourierConfig} {actorId : Uuid} {key : String}
  {action : CourierDispatchAction} {s t : CourierStore}

def ReservedFor (hash : Payload → Digest) (actorId : Uuid) (action : CourierDispatchAction)
    (key : String) (dispatchId : Uuid) (expectedVersion : Int) (store : CourierStore) : Prop :=
  ∃ reserved, store.dispatch.idempotency.find (actorId, action, key) = some reserved ∧
    reserved.dispatchId = dispatchId ∧
    reserved.requestHash = hash (requestText action expectedVersion)

def KeepsReservations (before after : CourierStore) : Prop :=
  ∀ name reserved, before.dispatch.idempotency.find name = some reserved →
    ∃ later, after.dispatch.idempotency.find name = some later ∧
      later.dispatchId = reserved.dispatchId ∧ later.requestHash = reserved.requestHash

theorem keepsReservations_of_same (same : t.dispatch.idempotency = s.dispatch.idempotency) :
    KeepsReservations s t := by
  intro name reserved found
  rw [same]
  exact ⟨reserved, found, rfl, rfl⟩

instance : IsPreorder CourierStore KeepsReservations where
  refl _ := keepsReservations_of_same rfl
  trans := by
    intro r s t first second name reserved found
    obtain ⟨between, stands, dispatch, hash⟩ := first name reserved found
    obtain ⟨later, remains, sameDispatch, sameHash⟩ := second name between stands
    exact ⟨later, remains, sameDispatch.trans dispatch, sameHash.trans hash⟩

theorem reserve_keepsReservations (hash : Payload → Digest) (actorId dispatchId : Uuid)
    (key : String) (action : CourierDispatchAction) (expected : Int) (time : DateTime) :
    Relates KeepsReservations (reserve hash actorId dispatchId key action expected time) := by
  intro s view t ran
  simp only [reserve, ↓steps_ok, whenSome_ok, ↓putDispatch_bind_ok, Table.insert?_eq_some] at ran
  obtain ⟨idempotency, rows, _, rfl⟩ | ⟨_, _, _, _, ran⟩ := ran
  · intro name reserved found
    refine ⟨reserved, ?_, rfl, rfl⟩
    show idempotency.find name = some reserved
    rw [Table.find_of_rows_append rows, found]
    rfl
  · obtain ⟨_, _, required, ran⟩ := bind_ok.1 ran
    obtain ⟨_, _, _, rfl⟩ := required_ok.1 required
    obtain ⟨_, ran⟩ := require_bind_ok.1 ran
    obtain ⟨_, rfl⟩ := pure_ok.1 ran
    exact keepsReservations_of_same rfl

theorem transition_keepsReservations (draws : Draws) (old : CourierDispatchRequest)
    (change : RequestChange) (actorId : Uuid) (key : String) (operation : CourierDispatchAction)
    (step : StepRecord) :
    Relates KeepsReservations (transition draws old change actorId key operation step) := by
  intro s view t ran
  simp only [transition, ↓steps_ok, ↓putDispatch_bind_ok, ↓recordEvent_bind_ok,
    ↓recordEvidence_bind_ok, Table.replace?_eq_some, Table.rewrite?_eq_some, required_ok] at ran
  obtain ⟨_, _, _, _, _, _, idempotency, rows, _, _, _, rfl⟩ := ran
  intro name reserved found
  have looked := find_of_updated (by exact fun _ => rfl) rows name
  rw [found] at looked
  exact ⟨_, looked, updateWhere_keeps (by exact fun _ => rfl) _,
    updateWhere_keeps (by exact fun _ => rfl) _⟩

theorem dispatchWriters_keepReservations : DispatchWriters KeepsReservations where
  put _ kept := .get_bind fun s _ _ ran => by
    obtain rfl := put_ok.1 ran
    exact keepsReservations_of_same (kept s.dispatch)
  message _ _ _ s _ _ ran := by
    obtain ⟨_, _, rfl⟩ := appendMessage_ok.1 ran
    exact keepsReservations_of_same rfl
  audit event s _ _ ran := by
    have stays : Stays CourierStore.dispatch (fun _ => False) s _ :=
      appendAudit_stays (fun _ _ => rfl) event s _ _ ran
    exact keepsReservations_of_same (congrArg DispatchStore.idempotency stays.same)
  reserve := reserve_keepsReservations
  transition := transition_keepsReservations

theorem courierStep_keepsReservations (config : CourierConfig) (store : CourierStore)
    (move : CourierMove) : KeepsReservations store (courierStep config store move) := by
  obtain same | ⟨draws, reads, subject, command, view, _, ran⟩ :=
    dispatch_step config store move
  · exact keepsReservations_of_same (congrArg DispatchStore.idempotency same)
  · exact dispatchWriters_keepReservations.command config draws reads subject command _ _ _ ran

theorem ReservedFor.run {hash : Payload → Digest} {dispatchId : Uuid} {expected : Int}
    {store : CourierStore}
    (reserved : ReservedFor hash actorId action key dispatchId expected store)
    (config : CourierConfig) (moves : List CourierMove) :
    ReservedFor hash actorId action key dispatchId expected
      (Kernel.Run.run (courierStep config) store moves) := by
  have kept : KeepsReservations store (Kernel.Run.run (courierStep config) store moves) :=
    run_related (fun _ => keepsReservations_of_same rfl)
      (fun first second => IsTrans.trans _ _ _ first second)
      (courierStep_keepsReservations config) store moves
  obtain ⟨row, found, dispatch, hashed⟩ := reserved
  obtain ⟨later, stands, sameDispatch, sameHash⟩ := kept _ row found
  exact ⟨later, stands, sameDispatch.trans dispatch, sameHash.trans hashed⟩

end

section

variable {config : CourierConfig} {draws : Draws} {reads : CourierReads}
  {subject : AuthorizationSubject} {store t : CourierStore} {action : CourierDispatchAction}
  {key : String} {reserved : DispatchReservation} {dispatchId : Uuid} {time : DateTime}
  {fresh : CourierDispatchRequest → CourierTransaction MerchantCourierDispatchView} {expected : Int}
  {view : MerchantCourierDispatchView} {e : Failure} {arguments : BusinessArguments}
  {command : DispatchCommand}

theorem reserving_conflict
    (standing : store.dispatch.idempotency.find (subject.identityId, action, key) = some reserved) :
    reserving config subject dispatchId key action expected time fresh store =
        .error (.conflict "idempotency_conflict") ↔
      (store.dispatch.requests.find dispatchId).isSome = true ∧
        ¬ (reserved.dispatchId = dispatchId ∧
          reserved.requestHash = config.hash (requestText action expected)) := by
  have refused : store.dispatch.idempotency.insert?
      (reservationOf config.hash subject.identityId dispatchId key action expected time) =
        none := insert?_of_reserved standing
  unfold reservationOf at refused
  simp only [reserving, getRequest, bind_assoc, pure_bind, get_bind_fails, demand_bind_fails,
    reserve, refused, whenSome, standing, require_bind_fails, required, Option.some.injEq,
    exists_eq_left', reduceCtorEq, false_or, Failure.conflict.injEq, and_true,
    String.reduceEq, and_false, pure_fails, exists_false, or_false]
  cases found : store.dispatch.requests.find dispatchId with
  | none => simp
  | some old => simp

theorem reserving_unchanged
    (standing : store.dispatch.idempotency.find (subject.identityId, action, key) = some reserved)
    (ran : reserving config subject dispatchId key action expected time fresh store =
      .ok (view, t)) : t = store := by
  obtain ⟨old, found, ⟨idempotency, rows, _, _⟩ | ⟨_, _, same⟩⟩ := reserving_ok.1 ran
  · have free : store.dispatch.idempotency.find (subject.identityId, action, key) = none :=
      Table.find_eq_none_of_rows_append rows
    rw [free] at standing
    cases standing
  · exact same

theorem utc_bind_fails {α : Type} {component : String} {f : Instant → CourierTransaction α} :
    (utc component time >>= f) store = .error e ↔
      (time.aware ≠ true ∧ .value (component ++ " timestamp must be timezone-aware") = e) ∨
        (time.aware = true ∧ f time.instant store = .error e) := by
  simp only [utc, bind_assoc, pure_bind, require_bind_fails]

theorem requirePermission_bind_fails {α : Type} {permission : String}
    {f : Unit → CourierTransaction α} :
    (requirePermission reads.grants subject permission time >>= f) store = .error e ↔
      (time.aware ≠ true ∧ .value "Authorization decision time must be timezone-aware" = e) ∨
        (time.aware = true ∧ ((reads.grants subject.identityId permission time ≠ true ∧
              .conflict "access_denied" = e) ∨
            (reads.grants subject.identityId permission time = true ∧ f () store = .error e))) := by
  simp only [requirePermission, hasPermission, bind_assoc, pure_bind, require_bind_fails]

theorem conflict_iff (named : name? command = some (action, key))
    (about : argumentsOf? command = some arguments)
    (standing : store.dispatch.idempotency.find (subject.identityId, action, key) = some reserved) :
    command.body config draws reads subject store = .error (.conflict "idempotency_conflict") ↔
      Reaches reads subject store command ∧ ¬ (reserved.dispatchId = arguments.dispatchId ∧
          reserved.requestHash = config.hash (requestText action arguments.expectedVersion)) := by
  cases command with
  | consumeMerchantReady => cases named
  | offerCourier =>
    cases named
    cases about
    simp only [DispatchCommand.body, offerCourier, utcTime, utc_bind_fails,
      DispatchPolicy.evaluate, bind_assoc, pure_bind, require_bind_fails,
      requirePermission_bind_fails, reserving_conflict standing, reduceCtorEq,
      and_false, false_or, Failure.conflict.injEq, String.reduceEq, Reaches, Eligible,
      DateTime.aware, DateTime.utc, Option.isSome_some, true_and, ne_eq, and_assoc]
  | command =>
    cases named
    cases about
    simp only [DispatchCommand.body, Application.command, require_bind_fails,
      reserving_conflict standing, and_false, false_or,
      Failure.conflict.injEq, String.reduceEq, Reaches, and_assoc]
  | authorityCommand =>
    cases named
    cases about
    simp only [DispatchCommand.body, authorityCommand, utcTime, require_bind_fails,
      utc_bind_fails, requirePermission_bind_fails, reserving_conflict standing,
      reduceCtorEq, and_false, false_or, Failure.conflict.injEq,
      String.reduceEq, Reaches, DateTime.aware, DateTime.utc, Option.isSome_some, true_and,
      ne_eq, and_assoc]

theorem reservedFor_of_reserving (goesOn : ∀ old, Relates KeepsReservations (fresh old))
    (ran : reserving config subject dispatchId key action expected time fresh store =
      .ok (view, t)) :
    ReservedFor config.hash subject.identityId action key dispatchId expected t := by
  obtain ⟨old, found, ⟨idempotency, rows, _, taken⟩ | ⟨replays, _, rfl⟩⟩ :=
    reserving_ok.1 ran
  · have inserted : idempotency.find (subject.identityId, action, key) = some
        (reservationOf config.hash subject.identityId dispatchId key action expected time) :=
      Table.find_of_inserted rows
    obtain ⟨later, stands, dispatch, hashed⟩ := goesOn old _ _ _ taken _ _ inserted
    exact ⟨later, stands, dispatch, hashed⟩
  · obtain ⟨row, stands, dispatch, hashed, _⟩ := replays
    exact ⟨row, stands, dispatch.trans (Table.key_of_find found), hashed⟩

theorem reserving_of_success (named : name? command = some (action, key))
    (about : argumentsOf? command = some arguments)
    (ran : command.body config draws reads subject store = .ok (view, t)) :
    ∃ time fresh, (∀ old, Relates KeepsReservations (fresh old)) ∧
      reserving config subject arguments.dispatchId key action arguments.expectedVersion time fresh
        store = .ok (view, t) := by
  cases command with
  | consumeMerchantReady => cases named
  | offerCourier =>
    cases named
    cases about
    simp only [DispatchCommand.body, offerCourier, utcTime, DispatchPolicy.evaluate, bind_assoc,
      pure_bind, ↓utc_bind_ok, ↓guards_ok] at ran
    obtain ⟨_, _, _, _, _, ran⟩ := ran
    exact ⟨_, _, fun _ => dispatchWriters_keepReservations.makeOffer, ran⟩
  | command =>
    cases named
    cases about
    simp only [DispatchCommand.body, Application.command, ↓require_bind_ok] at ran
    obtain ⟨_, _, ran⟩ := ran
    exact ⟨_, _, fun _ => dispatchWriters_keepReservations.respond, ran⟩
  | authorityCommand =>
    cases named
    cases about
    simp only [DispatchCommand.body, authorityCommand, utcTime, ↓utc_bind_ok, ↓guards_ok] at ran
    obtain ⟨_, _, _, _, ran⟩ := ran
    exact ⟨_, _, fun _ => dispatchWriters_keepReservations.actOn, ran⟩

theorem step_unchanged (named : name? command = some (action, key))
    (about : argumentsOf? command = some arguments)
    (standing : store.dispatch.idempotency.find (subject.identityId, action, key) = some reserved) :
    courierStep config store (.call ⟨draws, reads, subject, .dispatch command⟩) = store := by
  obtain same | ⟨view, ran⟩ := commit_cases (command.body config draws reads subject) store
  · exact same
  · obtain ⟨time, fresh, _, taken⟩ := reserving_of_success named about ran
    exact reserving_unchanged standing taken

end

/-- A later call under the key of an earlier one changes no row, and it raises a conflict instead
of returning a view, if any argument differs, exactly when then it passes the checks before the
key and the dispatch or the version differs. -/
theorem one_command_iff {config : CourierConfig}
    (injective : ∀ action, Function.Injective fun version : Int =>
      config.hash (requestText action version))
    {draws : Draws} {reads : CourierReads} {subject : AuthorizationSubject}
    {first : DispatchCommand} {before after : CourierStore} {view : MerchantCourierDispatchView}
    (success : first.body config draws reads subject before = .ok (view, after))
    (moves : List CourierMove) (later : DispatchCommand) (laterDraws : Draws)
    (laterReads : CourierReads) (laterSubject : AuthorizationSubject)
    (actor : laterSubject.identityId = subject.identityId)
    {name : CourierDispatchAction × String} (named : name? first = some name)
    (again : name? later = some name) {arguments repeated : BusinessArguments}
    (about : argumentsOf? first = some arguments) (next : argumentsOf? later = some repeated) :
    (courierStep config (run (courierStep config) after moves)
          (.call ⟨laterDraws, laterReads, laterSubject, .dispatch later⟩) =
        run (courierStep config) after moves ∧
      (repeated ≠ arguments →
        later.body config laterDraws laterReads laterSubject
          (run (courierStep config) after moves) = .error (.conflict "idempotency_conflict"))) ↔
      (repeated ≠ arguments →
        Reaches laterReads laterSubject (run (courierStep config) after moves) later ∧
          (repeated.dispatchId ≠ arguments.dispatchId ∨
            repeated.expectedVersion ≠ arguments.expectedVersion)) := by
  obtain ⟨action, key⟩ := name
  obtain ⟨time, fresh, goesOn, taken⟩ := reserving_of_success named about success
  obtain ⟨reserved, standing, dispatch, hashed⟩ :=
    (reservedFor_of_reserving goesOn taken).run config moves
  rw [← actor] at standing
  have unchanged : courierStep config (run (courierStep config) after moves)
      (.call ⟨laterDraws, laterReads, laterSubject, .dispatch later⟩) =
        run (courierStep config) after moves := step_unchanged again next standing
  have mismatch : (¬ (reserved.dispatchId = repeated.dispatchId ∧
      reserved.requestHash = config.hash (requestText action repeated.expectedVersion))) ↔
      (repeated.dispatchId ≠ arguments.dispatchId ∨
        repeated.expectedVersion ≠ arguments.expectedVersion) := by
    rw [dispatch, hashed, not_and_or]
    refine or_congr ⟨fun apart same => apart same.symm, fun apart same => apart same.symm⟩ ?_
    refine ⟨fun apart same => apart (by rw [same]), fun apart same => apart ?_⟩
    exact (injective action same).symm
  rw [conflict_iff again next standing, mismatch]
  exact ⟨fun holds => holds.2, fun holds => ⟨unchanged, holds⟩⟩

def versionDigest : Int → Nat
  | .ofNat n => 2 * n
  | .negSucc n => 2 * n + 1

theorem versionDigest_injective : Function.Injective versionDigest := by
  intro first second same
  cases first <;> cases second <;> simp only [versionDigest] at same
  · congr 1
    omega
  · omega
  · omega
  · congr 1
    omega

def versionConfig : CourierConfig :=
  { sampleConfig with
    hash := fun payload => payload.foldl (fun digest field =>
      match field.2 with
      | .number value => versionDigest value
      | _ => digest) 0 }

theorem versionConfig_injective (action : CourierDispatchAction) :
    Function.Injective fun version : Int => versionConfig.hash (requestText action version) :=
  fun _ _ same => versionDigest_injective same

def offerTo (courierId : Uuid) (version : Int) : DispatchCommand :=
  .offerCourier
    { dispatchId := 101, expectedVersion := version, eligibleCourierIdentityId := courierId,
      eligibilityEvidence := sampleEvidence 2, idempotencyKey := "offer-key", correlationId := 12,
      causationId := 13, time := sampleTime 2 }

/-- The sample offer is made, and the key is used for an offer in another version. -/
theorem one_command_sample :
    ∃ view after, (offerTo 30 1).body versionConfig (sampleDraws 2) sampleReads sampleStaff
        (run (courierStep versionConfig) {} sampleAdmission) = .ok (view, after) ∧
      ((courierStep versionConfig after
            (.call ⟨sampleDraws 3, sampleReads, sampleStaff, .dispatch (offerTo 30 7)⟩) = after ∧
          (argumentsOf? (offerTo 30 7) ≠ argumentsOf? (offerTo 30 1) →
            (offerTo 30 7).body versionConfig (sampleDraws 3) sampleReads sampleStaff after =
              .error (.conflict "idempotency_conflict"))) ↔
        (argumentsOf? (offerTo 30 7) ≠ argumentsOf? (offerTo 30 1) →
          Reaches sampleReads sampleStaff after (offerTo 30 7) ∧
            ((101 : Uuid) ≠ 101 ∨ (7 : Int) ≠ 1))) := by
  obtain ⟨⟨view, after⟩, success⟩ := exists_of_isOk
    (show ((offerTo 30 1).body versionConfig (sampleDraws 2) sampleReads sampleStaff
      (run (courierStep versionConfig) {} sampleAdmission)).isOk = true by decide +kernel)
  have settled := one_command_iff versionConfig_injective success [] (offerTo 30 7)
    (sampleDraws 3) sampleReads sampleStaff rfl rfl rfl rfl rfl
  refine ⟨view, after, success, ?_⟩
  simpa only [argumentsOf?, offerTo, ne_eq, Option.some.injEq, run_nil] using settled

/-- An offer to another courier under the key of the first one returns the first answer. -/
theorem repeated_for_another_courier :
    ¬ ∀ (config : CourierConfig) (draws : Draws) (reads : CourierReads)
        (subject : AuthorizationSubject) (first : DispatchCommand) (before after : CourierStore)
        (view : MerchantCourierDispatchView) (later : DispatchCommand) (laterDraws : Draws)
        (arguments repeated : BusinessArguments),
      (∀ action, Function.Injective fun version : Int =>
        config.hash (requestText action version)) →
      first.body config draws reads subject before = .ok (view, after) →
      name? later = name? first → argumentsOf? first = some arguments →
      argumentsOf? later = some repeated → repeated ≠ arguments →
      later.body config laterDraws reads subject after =
        .error (.conflict "idempotency_conflict") := by
  intro claim
  have returned : ∃ view after,
      (offerTo 30 1).body versionConfig (sampleDraws 2) sampleReads sampleStaff
          (run (courierStep versionConfig) {} sampleAdmission) = .ok (view, after) ∧
        ((offerTo 31 1).body versionConfig (sampleDraws 3) sampleReads sampleStaff after).isOk =
          true := by
    cases outcome : (offerTo 30 1).body versionConfig (sampleDraws 2) sampleReads sampleStaff
        (run (courierStep versionConfig) {} sampleAdmission) with
    | error e =>
      have success : ((offerTo 30 1).body versionConfig (sampleDraws 2) sampleReads sampleStaff
        (run (courierStep versionConfig) {} sampleAdmission)).isOk = true := by decide +kernel
      rw [outcome] at success
      cases success
    | ok pair =>
      refine ⟨pair.1, pair.2, rfl, ?_⟩
      have replayed : ((offerTo 31 1).body versionConfig (sampleDraws 3) sampleReads sampleStaff
          (commit ((offerTo 30 1).body versionConfig (sampleDraws 2) sampleReads sampleStaff)
            (run (courierStep versionConfig) {} sampleAdmission))).isOk = true := by
        decide +kernel
      rwa [commit_of_ok outcome] at replayed
  obtain ⟨view, after, success, replayed⟩ := returned
  have conflict := claim versionConfig (sampleDraws 2) sampleReads sampleStaff (offerTo 30 1) _
    after view (offerTo 31 1) (sampleDraws 3) _ _ versionConfig_injective success rfl rfl rfl
    (by decide)
  rw [conflict] at replayed
  cases replayed

end Ayo.CourierDispatch.NamedCommands
