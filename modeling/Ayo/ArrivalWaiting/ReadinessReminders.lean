/- digest: Reminders keep to the numbers and distances of their policy. -/

import Ayo.ArrivalWaiting.Effects
import Ayo.Kernel.Run
import Mathlib.Tactic.Linarith

namespace Ayo.ArrivalWaiting.ReadinessReminders

open Kernel.UnitOfWork Kernel.KeyedTable Kernel.Run
open Kernel.Validation (ensure_bind_eq_ok)
open Core.Values hiding isCode Code
open Models Engine Repository Application Effects

def reminders (store : WaitingStore) (rideId : Uuid) : List ReadinessDecision :=
  store.readiness.rows.filter fun row =>
    decide (row.rideId = rideId ∧ row.notificationRecommended = true)

variable (config : WaitingConfig)

def cooldown : Int :=
  timedelta config.readinessPolicy.notificationCooldownSeconds.1

/-- A ride has no more reminders than the policy allows, each a cool-down after the earlier ones. -/
structure Capped (config : WaitingConfig) (store : WaitingStore) (rideId : Uuid) : Prop where
  few : ((reminders store rideId).length : Int) ≤
    config.readinessPolicy.maximumNotificationsPerRide.1
  apart : (reminders store rideId).Pairwise fun earlier later =>
    earlier.evaluatedAt + cooldown config ≤ later.evaluatedAt

/-- The numbers that a request supplies hold it back wherever the stored reminders do. -/
def HeldBack (store : WaitingStore) (rideId : Uuid) (request : ReadinessCommand) (now : Instant) :
    Prop :=
  (config.readinessPolicy.maximumNotificationsPerRide.1 ≤ (reminders store rideId).length →
    config.readinessPolicy.maximumNotificationsPerRide.1 ≤ request.notificationCount.1) ∧
  ∀ reminder ∈ reminders store rideId, now - reminder.evaluatedAt < cooldown config →
    ∃ prior ∈ request.priorNotificationAt, now - prior.instant < cooldown config
deriving Decidable

def asksReadiness : WaitingInput → Option (WaitingCall × ReadinessCommand)
  | .command call =>
    match call.command with
    | .evaluateRiderReadiness request => some (call, request)
    | _ => none
  | .recovery _ _ _ => none

/-- A readiness request on the ride is held back where the stored reminders say so. -/
def HeldBackOn (rideId : Uuid) (store : WaitingStore) (input : WaitingInput) : Prop :=
  ∀ asked ∈ asksReadiness input, asked.1.rideId = rideId →
    HeldBack config store rideId asked.2 asked.1.now
deriving Decidable

section

variable {config : WaitingConfig} {call : WaitingCall} {s t : WaitingStore} {response : Response}
  {now : Instant}

theorem once_keepsReadiness {body : WaitingTransaction Response}
    (keeps : Keeps WaitingStore.readiness body) :
    Keeps WaitingStore.readiness (once config call body) := by
  refine .bind (idempotentResponse_readOnly).keeps fun duplicate =>
    .whenSome (fun _ => .pure) (.bind keeps fun response => .bind ?_ fun _ => .pure)
  intro store u result saved
  obtain ⟨idempotency, rfl⟩ := saveIdempotentResponse_ok saved
  rfl

theorem saveArrival_keepsReadiness {item : ArrivalEvaluation} :
    Keeps WaitingStore.readiness (saveArrival item) := by
  intro store u result saved
  unfold saveArrival at saved
  simp only [steps_ok] at saved
  obtain ⟨_, _, rfl⟩ := saved
  rfl

theorem saveSnapshot_keepsReadiness {item : WaitingPolicySnapshot} :
    Keeps WaitingStore.readiness (saveSnapshot item) := by
  intro store u result saved
  unfold saveSnapshot at saved
  simp only [steps_ok] at saved
  obtain ⟨_, _, rfl⟩ := saved
  rfl

theorem saveEvidence_keepsReadiness {item : EvidenceDecision} :
    Keeps WaitingStore.readiness (saveEvidence item) := by
  intro store u result saved
  unfold saveEvidence at saved
  simp only [steps_ok] at saved
  obtain ⟨_, _, rfl⟩ := saved
  rfl

theorem recordNotification_keepsReadiness {item : NotificationEvidence} :
    Keeps WaitingStore.readiness (recordNotification item) := by
  intro store u result saved
  unfold recordNotification at saved
  simp only [steps_ok] at saved
  subst saved
  rfl

theorem recordSessionEvent_keepsReadiness {item : WaitingSession} {eventType : String} :
    Keeps WaitingStore.readiness (recordSessionEvent item eventType) := by
  intro store u result saved
  unfold recordSessionEvent at saved
  simp only [steps_ok] at saved
  obtain ⟨_, _, rfl⟩ := saved
  rfl

theorem createSession_keepsReadiness {item : WaitingSession} :
    Keeps WaitingStore.readiness (createSession item) := by
  intro store u result saved
  unfold createSession at saved
  simp only [steps_ok] at saved
  obtain ⟨_, _, recorded⟩ := saved
  have kept := recordSessionEvent_keepsReadiness _ _ _ recorded
  exact kept

theorem updateSession_keepsReadiness {item : WaitingSession} {expected : Nat} :
    Keeps WaitingStore.readiness (updateSession item expected) := by
  intro store u result saved
  unfold updateSession at saved
  simp only [steps_ok] at saved
  obtain ⟨_, _, _, _, _, recorded⟩ := saved
  have kept := recordSessionEvent_keepsReadiness _ _ _ recorded
  exact kept

private theorem read_keeps {α : Type} {read : WaitingStore → α} : Keeps WaitingStore.readiness
      ((get : WaitingTransaction WaitingStore) >>= fun store => pure (read store)) :=
  .bind .get fun _ => .pure

private theorem attempt_keeps {α : Type} {result : Except Failure α} :
    Keeps WaitingStore.readiness (attempt result : WaitingTransaction α) :=
  (ReadOnly.attempt result).keeps

private theorem owned_keeps {driverOnly : Bool} :
    Keeps WaitingStore.readiness (owned call driverOnly) :=
  .bind .demand fun _ => .bind .require fun _ => .pure

theorem submitArrival_keepsReadiness {request : ArrivalCommand} :
    Keeps WaitingStore.readiness (submitArrival config call request) :=
  .bind .require fun _ => .bind owned_keeps fun _ => once_keepsReadiness <|
    .bind .require fun _ => .bind .require fun _ => .bind .demand fun _ =>
    .bind .require fun _ => .bind saveArrival_keepsReadiness fun _ => .pure

theorem start_keepsReadiness {request : StartWaitingCommand} :
    Keeps WaitingStore.readiness (start config call request) :=
  .bind .require fun _ => .bind owned_keeps fun _ => once_keepsReadiness <|
    .bind .require fun _ => .bind read_keeps fun _ => .bind .require fun _ =>
    .bind read_keeps fun _ => .bind .demand fun _ => .bind .demand fun _ =>
    .bind attempt_keeps fun _ => .bind attempt_keeps fun _ =>
    .bind saveSnapshot_keepsReadiness fun _ => .bind createSession_keepsReadiness fun _ =>
    .pure

theorem continuity_keepsReadiness {request : ContinuityCommand} :
    Keeps WaitingStore.readiness (continuity config call request) :=
  .bind .require fun _ => .bind owned_keeps fun _ => once_keepsReadiness <|
    .bind read_keeps fun _ => .bind .demand fun _ => .bind .require fun _ =>
    .bind read_keeps fun _ => .bind .demand fun _ => .bind attempt_keeps fun _ =>
    .bind updateSession_keepsReadiness fun _ => .pure

theorem riderPresent_keepsReadiness {request : RiderPresentCommand} :
    Keeps WaitingStore.readiness (riderPresent config call request) :=
  .bind .require fun _ => .bind owned_keeps fun _ => once_keepsReadiness <|
    .bind read_keeps fun _ => .bind .demand fun _ => .bind .require fun _ =>
    .bind recordNotification_keepsReadiness fun _ => .pure

theorem evaluateNoShow_keepsReadiness {request : EvidenceCommand} :
    Keeps WaitingStore.readiness (evaluateNoShow config call request) :=
  .bind .require fun _ => .bind owned_keeps fun _ => once_keepsReadiness <|
    .bind read_keeps fun _ => .bind .demand fun _ => .bind .require fun _ =>
    .bind read_keeps fun _ => .bind .demand fun _ => .bind saveEvidence_keepsReadiness
      fun _ => .pure

theorem projectEach_keepsReadiness {sessions : List WaitingSession} :
    Keeps WaitingStore.readiness (projectEach now sessions) := by
  induction sessions with
  | nil => exact .pure
  | cons session rest ih =>
    refine .bind ?_ fun new => .bind ih fun others => .pure
    exact .ite (.bind updateSession_keepsReadiness fun _ => .pure) .pure

theorem runOnce_keepsReadiness {rowOrder : Uuid → Nat} {batchSize : Ranged 1 500} :
    Keeps WaitingStore.readiness (runOnce rowOrder batchSize now) :=
  .bind read_keeps fun _ => projectEach_keepsReadiness

theorem evaluateRiderReadiness_ok {request : ReadinessCommand}
    (ran : evaluateRiderReadiness config call request s = .ok (response, t)) :
    t.readiness = s.readiness ∨
      ∃ item, evaluateReadiness call.itemId call.rideId request.signals config.readinessPolicy
          call.now request.priorNotificationAt request.notificationCount.1 = .ok item ∧
        t.readiness.rows = s.readiness.rows ++ [item] := by
  unfold evaluateRiderReadiness at ran
  simp only [↓owned_bind_ok] at ran
  obtain ⟨_, _, _, answered⟩ := ran
  obtain ⟨duplicate, _, rest⟩ := (idempotentResponse_readOnly).bind_ok answered
  obtain ⟨_, _, replayed⟩ | ⟨_, executed⟩ := whenSome_ok.1 rest
  · obtain ⟨_, rfl⟩ := pure_ok.1 replayed
    exact .inl rfl
  · obtain ⟨made, between, done, kept⟩ := bind_ok.1 executed
    rw [attempt_bind_ok] at done
    obtain ⟨item, evaluated, written⟩ := done
    obtain ⟨_, saved, _⟩ := bind_pure_ok.1 written
    unfold saveReadiness at saved
    simp only [steps_ok, Table.insert?_eq_some] at saved
    obtain ⟨readiness, rows, rfl⟩ := saved
    obtain ⟨_, answer, _⟩ := bind_pure_ok.1 kept
    obtain ⟨idempotency, rfl⟩ := saveIdempotentResponse_ok answer
    exact .inr ⟨item, evaluated, rows⟩

end

section

variable {config : WaitingConfig} {store : WaitingStore} {rideId : Uuid}

theorem evaluateReadiness_recommends {decisionId : Uuid} {signals : ReadinessSignals}
    {policy : ReadinessPolicy} {now : Instant} {prior : Option DateTime} {count : Int}
    {item : ReadinessDecision}
    (evaluated : evaluateReadiness decisionId rideId signals policy now prior count = .ok item) :
    item.rideId = rideId ∧ item.evaluatedAt = now ∧ (item.notificationRecommended = true →
        count < policy.maximumNotificationsPerRide.1 ∧
          ¬ ∃ last ∈ prior, now - last.instant < timedelta policy.notificationCooldownSeconds.1) := by
  unfold evaluateReadiness at evaluated
  obtain ⟨_, evaluated⟩ := ensure_bind_eq_ok.1 evaluated
  cases evaluated
  refine ⟨rfl, rfl, fun recommended => ?_⟩
  obtain ⟨_, _, cool, capped, _⟩ := of_decide_eq_true recommended
  exact ⟨Int.not_le.1 capped, cool⟩

inductive Reminded (config : WaitingConfig) (rideId : Uuid) (store after : WaitingStore)
    (input : WaitingInput) : Prop
  | same (unchanged : reminders after rideId = reminders store rideId)
  | added (call : WaitingCall) (request : ReadinessCommand) (reminder : ReadinessDecision)
      (asked : asksReadiness input = some (call, request)) (own : call.rideId = rideId)
      (time : reminder.evaluatedAt = call.now)
      (below : request.notificationCount.1 <
        config.readinessPolicy.maximumNotificationsPerRide.1)
      (cool : ¬ ∃ prior ∈ request.priorNotificationAt,
        call.now - prior.instant < cooldown config)
      (rows : reminders after rideId = reminders store rideId ++ [reminder])

theorem step_reminds (config : WaitingConfig) (rideId : Uuid) (store : WaitingStore)
    (input : WaitingInput) :
    Reminded config rideId store (waitingStep config store input) input := by
  have same : ∀ after : WaitingStore, after.readiness = store.readiness →
      Reminded config rideId store after input := by
    intro after stays
    refine .same ?_
    unfold reminders
    rw [stays]
  have commits : ∀ {α : Type} (body : WaitingTransaction α),
      (∀ a after, body store = .ok (a, after) → Reminded config rideId store after input) →
        Reminded config rideId store (commit body store) input := by
    intro α body ran
    exact commit_related (R := fun s t => s = store → Reminded config rideId store t input) body
      store (fun _ => same store rfl) (fun a t done _ => ran a t done) rfl
  cases input with
  | recovery rowOrder batchSize now =>
    exact commits _ fun a after ran =>
      same after (runOnce_keepsReadiness _ _ _ ran)
  | command call =>
    refine commits _ fun response after ran => ?_
    unfold executed at ran
    cases command : call.command with
    | submitArrival request =>
      rw [command] at ran
      exact same after (submitArrival_keepsReadiness _ _ _ ran)
    | start request =>
      rw [command] at ran
      exact same after (start_keepsReadiness _ _ _ ran)
    | continuity request =>
      rw [command] at ran
      exact same after (continuity_keepsReadiness _ _ _ ran)
    | riderPresent request =>
      rw [command] at ran
      exact same after (riderPresent_keepsReadiness _ _ _ ran)
    | evaluateNoShow request =>
      rw [command] at ran
      exact same after (evaluateNoShow_keepsReadiness _ _ _ ran)
    | evaluateRiderReadiness request =>
      rw [command] at ran
      obtain stays | ⟨item, evaluated, rows⟩ := evaluateRiderReadiness_ok ran
      · exact same after stays
      obtain ⟨ride, time, free⟩ := evaluateReadiness_recommends evaluated
      by_cases counts : item.rideId = rideId ∧ item.notificationRecommended = true
      · obtain ⟨below, cool⟩ := free counts.2
        refine .added call request item ?_ (ride.symm.trans counts.1) time below cool ?_
        · simp only [asksReadiness, command]
        · unfold reminders
          rw [rows, List.filter_append]
          congr 1
          exact List.filter_cons_of_pos (by simpa using counts)
      · refine .same ?_
        unfold reminders
        rw [rows, List.filter_append]
        conv_rhs => rw [← List.append_nil (List.filter _ _)]
        congr 1
        exact List.filter_cons_of_neg (by simpa using counts)

theorem capped_of_added_iff {t : WaitingStore} {call : WaitingCall}
    {request : ReadinessCommand} {reminder : ReadinessDecision}
    (capped : Capped config store rideId) (time : reminder.evaluatedAt = call.now)
    (below : request.notificationCount.1 < config.readinessPolicy.maximumNotificationsPerRide.1)
    (cool : ¬ ∃ prior ∈ request.priorNotificationAt, call.now - prior.instant < cooldown config)
    (rows : reminders t rideId = reminders store rideId ++ [reminder]) :
    Capped config t rideId ↔ HeldBack config store rideId request call.now := by
  constructor
  · rintro ⟨few, apart⟩
    rw [rows] at few apart
    rw [List.length_append, List.length_singleton] at few
    rw [List.pairwise_append] at apart
    constructor
    · intro full
      push_cast at few
      omega
    · intro earlier mem recent
      have distance := apart.2.2 earlier mem reminder (List.mem_singleton.2 rfl)
      rw [time] at distance
      have late : cooldown config ≤ call.now - earlier.evaluatedAt := by
        linarith
      exact absurd recent (Int.not_lt.2 late)
  · rintro ⟨count, distances⟩
    constructor
    · rw [rows, List.length_append, List.length_singleton]
      have room : ¬ config.readinessPolicy.maximumNotificationsPerRide.1 ≤
          ((reminders store rideId).length : Int) :=
        fun full => absurd (count full) (Int.not_le.2 below)
      push_cast
      omega
    · rw [rows, List.pairwise_append]
      refine ⟨capped.apart, List.pairwise_singleton _ _, ?_⟩
      intro earlier mem later last
      obtain rfl := List.mem_singleton.1 last
      have settled : ¬ call.now - earlier.evaluatedAt < cooldown config :=
        fun recent => cool (distances earlier mem recent)
      rw [time]
      have late := Int.not_lt.1 settled
      change (_ : Int) ≤ _
      linarith

theorem step_keeps_capped {input : WaitingInput} (held : HeldBackOn config rideId store input)
    (capped : Capped config store rideId) :
    Capped config (waitingStep config store input) rideId := by
  obtain stays | ⟨call, request, reminder, asked, own, time, below, cool, rows⟩ :=
    step_reminds config rideId store input
  · exact ⟨stays ▸ capped.few, stays ▸ capped.apart⟩
  · exact (capped_of_added_iff capped time below cool rows).2 (held (call, request) asked own)

theorem capped_of_run {inputs : List WaitingInput}
    (held : Along (waitingStep config) (HeldBackOn config rideId) {} inputs) :
    Capped config (run (waitingStep config) {} inputs) rideId :=
  run_invariant_along (fun _ _ => step_keeps_capped) held
    ⟨config.readinessPolicy.maximumNotificationsPerRide.2.1, .nil⟩

end

/-- In every run whose readiness requests on a ride are held back wherever its stored reminders say
so, the ride has at most the reminders that the policy allows, each a cool-down after the earlier
ones; and a further step that adds a reminder keeps this exactly when its request is held back. -/
theorem reminders_capped (config : WaitingConfig) (rideId : Uuid) (inputs : List WaitingInput)
    (held : Along (waitingStep config) (HeldBackOn config rideId) {} inputs) :
    let store := run (waitingStep config) {} inputs
    Capped config store rideId ∧
      ∀ input, reminders (waitingStep config store input) rideId ≠ reminders store rideId →
        (Capped config (waitingStep config store input) rideId ↔
          HeldBackOn config rideId store input) := by
  intro store
  have capped : Capped config store rideId := capped_of_run held
  refine ⟨capped, fun input adds => ?_⟩
  obtain unchanged | ⟨call, request, reminder, asked, own, time, below, cool, rows⟩ :=
    step_reminds config rideId store input
  · exact absurd unchanged adds
  · rw [capped_of_added_iff capped time below cool rows]
    constructor
    · intro back other is _
      rw [asked] at is
      cases is
      exact back
    · intro back
      exact back (call, request) asked own

def lateSignals : ReadinessSignals where
  riderLocationAgeSeconds := some ⟨3, by decide⟩
  riderLocationAccuracyMeters := some ⟨9, by decide⟩
  riderWalkingEtaSeconds := some ⟨300, by decide⟩
  driverEtaSeconds := some ⟨60, by decide⟩
  pickupConfidenceBps := ⟨9200, by decide⟩

def readinessAsked (second : Nat) (prior : Option DateTime) (count : Ranged 0 20) : WaitingInput :=
  .command (driverCall second (.evaluateRiderReadiness
    { commandId := 900 + second, signals := lateSignals, priorNotificationAt := prior,
      notificationCount := count }))

def informedRequests : List WaitingInput :=
  [readinessAsked 0 none ⟨0, by decide⟩,
    readinessAsked 100 (some (.utc (timedelta 0))) ⟨1, by decide⟩]

theorem reminders_capped_of_informed :
    let store := run (waitingStep waitingConfig) {} informedRequests
    let late := readinessAsked 110 none ⟨0, by decide⟩
    Along (waitingStep waitingConfig) (HeldBackOn waitingConfig 820) {} informedRequests ∧
      Capped waitingConfig store 820 ∧
      (Capped waitingConfig (waitingStep waitingConfig store late) 820 ↔
        HeldBackOn waitingConfig 820 store late) := by
  intro store late
  have held : Along (waitingStep waitingConfig) (HeldBackOn waitingConfig 820) {}
      informedRequests := by
    decide +kernel
  obtain ⟨capped, breaks⟩ := reminders_capped waitingConfig 820 informedRequests held
  exact ⟨held, capped, breaks late (by decide +kernel)⟩

/-- Two requests a second apart that both claim no earlier reminder both recommend one. -/
theorem forgotten_reminder_is_repeated :
    ¬ Capped waitingConfig
      (run (waitingStep waitingConfig) {}
        [readinessAsked 0 none ⟨0, by decide⟩, readinessAsked 1 none ⟨0, by decide⟩]) 820 := by
  intro capped
  have apart := capped.apart
  revert apart
  decide +kernel

end Ayo.ArrivalWaiting.ReadinessReminders
