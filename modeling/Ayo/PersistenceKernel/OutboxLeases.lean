/- digest: Every event is delivered under a lease and ends at most once. -/

import Ayo.Kernel.Leases
import Ayo.PersistenceKernel.Outbox

namespace Ayo.PersistenceKernel.OutboxLeases

open Kernel.UnitOfWork Kernel.KeyedTable Kernel.Leases Kernel.Ordering Kernel.Run Kernel.Updates
  Core.Values Models Outbox

/-- The database, with a log of what was handed out and which reports were accepted. -/
structure Delivery where
  store : EventStore
  log : List (Uuid × Entry String)

def initial : Delivery := ⟨.empty, []⟩

inductive Move where
  | append (event : DomainEvent)
  | claim (workerId : String) (now : Instant) (limit leaseSeconds : Int) (locked : List Uuid)
  | publish (eventId : Uuid) (workerId : String) (publishedAt : Instant)
  | fail (eventId : Uuid) (workerId : String) (failedAt : Instant) (errorCode : String)
      (bounds : RetryBounds)

def failureEntries (store : EventStore) (eventId : Uuid) (workerId : String) (failedAt : Instant)
    (bounds : RetryBounds) : List (Uuid × Entry String) :=
  (store.outbox.rows.filter fun row => decide (row.ClaimedBy eventId workerId)).map fun row =>
    let attempts := row.attemptCount + 1
    (row.eventId, .failed workerId failedAt (seconds (bounds.backoff attempts))
      (bounds.exhausted attempts))

def step (isAlnum : Char → Bool) (delivery : Delivery) : Move → Delivery
  | .append event => { delivery with store := commit (append event) delivery.store }
  | .claim workerId now limit leaseSeconds locked =>
    match claimReady isAlnum workerId now limit leaseSeconds locked delivery.store with
    | .ok (envelopes, store) =>
      { store
        log := delivery.log ++ envelopes.map fun envelope =>
          (envelope.event.eventId, .handed workerId now (seconds leaseSeconds)) }
    | .error _ => delivery
  | .publish eventId workerId publishedAt =>
    match markPublished eventId workerId publishedAt delivery.store with
    | .ok (changed, store) =>
      { store
        log := delivery.log ++ if changed = true then [(eventId, .published workerId publishedAt)]
          else [] }
    | .error _ => delivery
  | .fail eventId workerId failedAt errorCode bounds =>
    match markFailed eventId workerId failedAt errorCode bounds delivery.store with
    | .ok (_, store) =>
      { store
        log := delivery.log ++ failureEntries delivery.store eventId workerId failedAt bounds }
    | .error _ => delivery

def history (eventId : Uuid) (log : List (Uuid × Entry String)) : List (Entry String) :=
  (log.filter fun entry => decide (entry.1 = eventId)).map Prod.snd

def item (row : OutboxRow) : Item String where
  dueAt := row.availableAt
  attempts := row.attemptCount
  claim := row.claimedBy.bind fun worker => row.claimedAt.map fun since => (worker, since)
  publishedAt := row.publishedAt
  deadLetteredAt := row.deadLetteredAt

/-- Every outbox row is the item that the history of its event leaves, and nothing happened to an
event that was not allowed. -/
structure Told (delivery : Delivery) : Prop where
  rows : ∀ row ∈ delivery.store.outbox.rows, ∃ event ∈ delivery.store.events.rows,
    event.eventId = row.eventId ∧
      Item.Legal event.occurredAt (history row.eventId delivery.log) ∧
      item row = Item.left event.occurredAt (history row.eventId delivery.log)
  complete : ∀ row ∈ delivery.store.outbox.rows, row.claimedAt.isSome = row.claimedBy.isSome
  stored : ∀ event ∈ delivery.store.events.rows, ∃ row ∈ delivery.store.outbox.rows,
    row.eventId = event.eventId
  known : ∀ entry ∈ delivery.log, ∃ row ∈ delivery.store.outbox.rows, row.eventId = entry.1

section

variable {eventId : Uuid} {log added : List (Uuid × Entry String)}

theorem history_append :
    history eventId (log ++ added) = history eventId log ++ history eventId added := by
  simp [history]

theorem history_of_absent (absent : ∀ entry ∈ added, entry.1 ≠ eventId) :
    history eventId added = [] := by
  unfold history
  rw [List.filter_eq_nil_iff.2 fun entry listed => by simpa using absent entry listed]
  rfl

theorem history_of_each {ids : List Uuid} {entry : Entry String} (distinct : ids.Nodup)
    (listed : eventId ∈ ids) : history eventId (ids.map fun id => (id, entry)) = [entry] := by
  induction ids with
  | nil => cases listed
  | cons id rest ih =>
    obtain ⟨apart, others⟩ := List.nodup_cons.1 distinct
    rw [List.map_cons, ← List.singleton_append, history_append]
    rcases List.mem_cons.1 listed with rfl | later
    · have quiet : history eventId (rest.map fun id => (id, entry)) = [] := by
        refine history_of_absent fun other mem => ?_
        obtain ⟨id, held, rfl⟩ := List.mem_map.1 mem
        rintro rfl
        exact apart held
      rw [quiet]
      simp [history]
    · have different : id ≠ eventId := by
        rintro rfl
        exact apart later
      rw [history_of_absent (by simpa using different), ih others later]
      rfl

end

structure Delivers (before after : Delivery) (change : OutboxRow → OutboxRow)
    (added : List (Uuid × Entry String)) : Prop where
  events : after.store.events = before.store.events
  log : after.log = before.log ++ added
  rows : after.store.outbox.rows = before.store.outbox.rows.map change
  keeps : ∀ row, (change row).eventId = row.eventId
  known : ∀ entry ∈ added, ∃ row ∈ before.store.outbox.rows, row.eventId = entry.1
  tells : ∀ row ∈ before.store.outbox.rows,
    (change row = row ∧ history row.eventId added = []) ∨
      ∃ entry, history row.eventId added = [entry] ∧ (item row).Allows entry ∧
        item (change row) = (item row).after entry ∧
        (change row).claimedAt.isSome = (change row).claimedBy.isSome

section

variable {isAlnum : Char → Bool} {s t : Delivery} {added : List (Uuid × Entry String)}
  {change : OutboxRow → OutboxRow} {row : OutboxRow} {workerId : String} {store : EventStore}
  {eventId : Uuid}

theorem Delivers.told (delivers : Delivers s t change added) (told : Told s) : Told t := by
  have rewritten : ∀ row ∈ t.store.outbox.rows, ∃ old ∈ s.store.outbox.rows, change old = row := by
    intro row mem
    rw [delivers.rows] at mem
    exact List.mem_map.1 mem
  have kept : ∀ old ∈ s.store.outbox.rows, ∃ row ∈ t.store.outbox.rows,
      row.eventId = old.eventId := by
    intro old mem
    refine ⟨change old, ?_, delivers.keeps old⟩
    rw [delivers.rows]
    exact List.mem_map_of_mem mem
  refine ⟨?_, ?_, ?_, ?_⟩
  · intro row mem
    obtain ⟨old, stored, rfl⟩ := rewritten row mem
    obtain ⟨event, present, same, legal, leaves⟩ := told.rows old stored
    refine ⟨event, delivers.events ▸ present, same.trans (delivers.keeps old).symm, ?_⟩
    rw [delivers.keeps, delivers.log, history_append]
    obtain ⟨stays, quiet⟩ | ⟨entry, told, allowed, becomes, _⟩ := delivers.tells old stored
    · rw [quiet, List.append_nil, stays]
      exact ⟨legal, leaves⟩
    · rw [told, left_append, becomes, leaves]
      refine ⟨legal_append.2 ⟨legal, ?_⟩, rfl⟩
      rwa [leaves] at allowed
  · intro row mem
    obtain ⟨old, stored, rfl⟩ := rewritten row mem
    obtain ⟨stays, _⟩ | ⟨_, _, _, _, complete⟩ := delivers.tells old stored
    · rw [stays]
      exact told.complete old stored
    · exact complete
  · intro event mem
    rw [delivers.events] at mem
    obtain ⟨old, stored, same⟩ := told.stored event mem
    obtain ⟨row, present, key⟩ := kept old stored
    exact ⟨row, present, key.trans same⟩
  · intro entry mem
    rw [delivers.log] at mem
    have source : ∃ row ∈ s.store.outbox.rows, row.eventId = entry.1 := by
      rcases List.mem_append.1 mem with earlier | added
      · exact told.known entry earlier
      · exact delivers.known entry added
    obtain ⟨old, stored, same⟩ := source
    obtain ⟨row, present, key⟩ := kept old stored
    exact ⟨row, present, key.trans same⟩

theorem Delivers.final (delivers : Delivers s t change added) (held : row ∈ s.store.outbox.rows)
    (ended : ¬ (item row).Open) : row ∈ t.store.outbox.rows := by
  obtain ⟨stays, _⟩ | ⟨entry, _, allowed, _⟩ := delivers.tells row held
  · rw [delivers.rows, ← stays]
    exact List.mem_map_of_mem held
  · exact absurd (open_of_allows allowed) ended

theorem claim_delivers {now : Instant} {limit leaseSeconds : Int} {locked : List Uuid}
    {envelopes : List OutboxEnvelope}
    (ran : claimReady isAlnum workerId now limit leaseSeconds locked s.store =
      .ok (envelopes, store)) :
    ∃ change, Delivers s (step isAlnum s (.claim workerId now limit leaseSeconds locked))
      change (envelopes.map fun envelope =>
        (envelope.event.eventId, .handed workerId now (seconds leaseSeconds))) := by
  obtain ⟨listed, events, rows⟩ := claimReady_ok ran
  have ready : ∀ row ∈ readyRows s.store.outbox now limit.toNat leaseSeconds locked,
      row ∈ s.store.outbox.rows ∧ row.Ready now leaseSeconds locked := by
    intro row mem
    obtain ⟨held, is⟩ := List.mem_filter.1 (mem_orderedBy.1 (List.mem_of_mem_take mem))
    exact ⟨held, of_decide_eq_true is⟩
  generalize readied : readyRows s.store.outbox now limit.toNat leaseSeconds locked = chosen
    at listed rows ready
  have distinct : (chosen.map OutboxRow.eventId).Nodup := by
    rw [← readied]
    have keys : ((orderedBy OutboxRow.position (s.store.outbox.rows.filter fun row =>
        decide (OutboxRow.Ready now leaseSeconds locked row))).map OutboxRow.eventId).Nodup :=
      ((List.perm_insertionSort _ _).map OutboxRow.eventId).nodup_iff.2
        ((List.filter_sublist.map OutboxRow.eventId).nodup s.store.outbox.keys_nodup)
    exact ((List.take_sublist _ _).map OutboxRow.eventId).nodup keys
  have entries : (envelopes.map fun envelope => (envelope.event.eventId,
      Entry.handed workerId now (seconds leaseSeconds))) =
      (chosen.map OutboxRow.eventId).map fun id =>
        (id, Entry.handed workerId now (seconds leaseSeconds)) := by
    rw [← listed, List.map_map]
    rfl
  let picks : OutboxRow → Prop := fun row => row.eventId ∈ chosen.map OutboxRow.eventId
  refine ⟨updateWhere picks (.claimed workerId now), ?_, ?_, ?_, updateWhere_keeps fun _ => rfl,
    ?_, ?_⟩
  · simp only [step, ran]
    exact events
  · simp only [step, ran]
  · simp only [step, ran]
    exact rows
  · intro entry mem
    rw [entries] at mem
    obtain ⟨id, chosenId, rfl⟩ := List.mem_map.1 mem
    obtain ⟨row, picked, rfl⟩ := List.mem_map.1 chosenId
    exact ⟨row, (ready row picked).1, rfl⟩
  · intro row held
    rw [entries]
    by_cases picked : picks row
    · obtain ⟨same, mem, key⟩ := List.mem_map.1 picked
      obtain ⟨present, published, dead, due, young, _⟩ := ready same mem
      obtain rfl : same = row := s.store.outbox.eq_of_key present held key
      refine .inr ⟨_, history_of_each distinct picked, ⟨⟨published, dead⟩, due, ?_⟩, ?_, ?_⟩
      · intro claim standing
        obtain ⟨worker, _, found⟩ := Option.bind_eq_some_iff.1 standing
        obtain ⟨since, claimedAt, rfl⟩ := Option.map_eq_some_iff.1 found
        have old : since ≤ now - seconds leaseSeconds := young since claimedAt
        change since + seconds leaseSeconds ≤ now
        change (_ : Int) ≤ _ at old
        omega
      · rw [updateWhere_of_meets picked]
        rfl
      · rw [updateWhere_of_meets picked]
        rfl
    · refine .inl ⟨updateWhere_of_not picked, history_of_absent fun entry mem => ?_⟩
      obtain ⟨id, chosenId, rfl⟩ := List.mem_map.1 mem
      rintro rfl
      exact picked chosenId

private theorem claim_of_claimedBy (told : Told s) (held : row ∈ s.store.outbox.rows)
    (claimed : row.ClaimedBy eventId workerId) :
    (item row).Open ∧ ∃ since, (item row).claim = some (workerId, since) := by
  obtain ⟨_, holder, published, dead⟩ := claimed
  have complete := told.complete row held
  rw [holder] at complete
  obtain ⟨since, claimedAt⟩ := Option.isSome_iff_exists.1 complete
  refine ⟨⟨published, dead⟩, since, ?_⟩
  simp only [item, holder, claimedAt, Option.bind_some, Option.map_some]

theorem publish_delivers (told : Told s) {publishedAt : Instant} {new : Bool}
    (ran : markPublished eventId workerId publishedAt s.store = .ok (new, store)) :
    ∃ change added, Delivers s
      (step isAlnum s (.publish eventId workerId publishedAt)) change added := by
  obtain ⟨rfl, events, rows⟩ := markPublished_ok ran
  refine ⟨updateWhere (OutboxRow.ClaimedBy eventId workerId) (.published publishedAt),
    if (s.store.outbox.rows.any fun row => decide (row.ClaimedBy eventId workerId)) = true then
      [(eventId, .published workerId publishedAt)] else [],
    ?_, ?_, ?_, updateWhere_keeps fun _ => rfl, ?_, ?_⟩
  · simp only [step, ran]
    exact events
  · simp only [step, ran]
  · simp only [step, ran]
    exact rows
  · intro entry mem
    split at mem
    · next holds =>
      obtain ⟨row, held, claimed⟩ := List.any_eq_true.1 holds
      obtain rfl := List.mem_singleton.1 mem
      exact ⟨row, held, (of_decide_eq_true claimed : row.ClaimedBy eventId workerId).1⟩
    · cases mem
  · intro row held
    by_cases claimed : row.ClaimedBy eventId workerId
    · have holds : (s.store.outbox.rows.any fun row =>
          decide (row.ClaimedBy eventId workerId)) = true :=
        List.any_eq_true.2 ⟨row, held, decide_eq_true claimed⟩
      rw [if_pos holds, updateWhere_of_meets claimed]
      refine .inr ⟨.published workerId publishedAt, ?_, claim_of_claimedBy told held claimed,
        rfl, rfl⟩
      simp [history, claimed.1]
    · refine .inl ⟨updateWhere_of_not claimed, history_of_absent fun entry mem => ?_⟩
      split at mem
      · next holds =>
        obtain ⟨other, present, also⟩ := List.any_eq_true.1 holds
        have claims : other.ClaimedBy eventId workerId := of_decide_eq_true also
        obtain rfl := List.mem_singleton.1 mem
        intro same
        have one : other = row :=
          s.store.outbox.eq_of_key present held (claims.1.trans same)
        exact claimed (one ▸ claims)
      · cases mem

theorem fail_delivers (told : Told s) {failedAt : Instant} {errorCode : String}
    {bounds : RetryBounds} {dead : Bool}
    (ran : markFailed eventId workerId failedAt errorCode bounds s.store = .ok (dead, store)) :
    ∃ change added, Delivers s
      (step isAlnum s (.fail eventId workerId failedAt errorCode bounds)) change added := by
  obtain ⟨events, rows⟩ := markFailed_ok ran
  refine ⟨updateWhere (OutboxRow.ClaimedBy eventId workerId)
      (OutboxRow.failed failedAt errorCode bounds),
    failureEntries s.store eventId workerId failedAt bounds,
    ?_, ?_, ?_, updateWhere_keeps fun _ => rfl, ?_, ?_⟩
  · simp only [step, ran]
    exact events
  · simp only [step, ran]
  · simp only [step, ran]
    exact rows
  · intro entry mem
    obtain ⟨row, filtered, rfl⟩ := List.mem_map.1 mem
    exact ⟨row, List.mem_of_mem_filter filtered, rfl⟩
  · intro row held
    unfold failureEntries
    by_cases claimed : row.ClaimedBy eventId workerId
    · have alone : s.store.outbox.rows.filter
          (fun row => decide (row.ClaimedBy eventId workerId)) = [row] := by
        refine s.store.outbox.filter_eq_singleton held (decide_eq_true claimed) ?_
        intro other present also
        have claims : other.ClaimedBy eventId workerId := of_decide_eq_true also
        exact s.store.outbox.eq_of_key present held (claims.1.trans claimed.1.symm)
      rw [alone, updateWhere_of_meets claimed]
      refine .inr ⟨.failed workerId failedAt (seconds (bounds.backoff (row.attemptCount + 1)))
        (bounds.exhausted (row.attemptCount + 1)), ?_,
        claim_of_claimedBy told held claimed, rfl, rfl⟩
      simp [history]
    · refine .inl ⟨updateWhere_of_not claimed, history_of_absent fun entry mem => ?_⟩
      obtain ⟨other, filtered, rfl⟩ := List.mem_map.1 mem
      obtain ⟨present, also⟩ := List.mem_filter.1 filtered
      intro same
      have one : other = row := s.store.outbox.eq_of_key present held same
      exact claimed (one ▸ of_decide_eq_true also)

theorem append_told (told : Told s) (event : DomainEvent) :
    Told (step isAlnum s (.append event)) := by
  obtain stays | ⟨returned, ran⟩ := commit_cases (append event) s.store
  · simp only [step, stays]
    exact told
  obtain ⟨_, events, outbox⟩ := append_ok ran
  have own : ∀ row ∈ s.store.outbox.rows, row.eventId ≠ event.eventId := by
    intro row stored
    exact Table.apart_of_rows_append outbox row stored
  refine ⟨?_, ?_, ?_, ?_⟩
  · intro row mem
    simp only [step, outbox] at mem
    simp only [step, events]
    rcases List.mem_append.1 mem with stored | new
    · obtain ⟨source, present, rest⟩ := told.rows row stored
      exact ⟨source, List.mem_append_left _ present, rest⟩
    · obtain rfl := List.mem_singleton.1 new
      have quiet : history event.eventId s.log = [] := by
        refine history_of_absent fun entry listed same => ?_
        obtain ⟨row, stored, key⟩ := told.known entry listed
        exact own row stored (key.trans same)
      refine ⟨event, List.mem_append_right _ (List.mem_singleton_self event), rfl, ?_⟩
      rw [show (OutboxRow.waiting event).eventId = event.eventId from rfl, quiet]
      exact ⟨trivial, rfl⟩
  · intro row mem
    simp only [step, outbox] at mem
    rcases (mem_appended rfl).1 mem with stored | rfl
    · exact told.complete row stored
    · rfl
  · intro other mem
    simp only [step, events] at mem
    simp only [step, outbox]
    rcases (mem_appended rfl).1 mem with stored | rfl
    · obtain ⟨row, present, same⟩ := told.stored other stored
      exact ⟨row, List.mem_append_left _ present, same⟩
    · exact ⟨_, List.mem_append_right _ (List.mem_singleton_self _), rfl⟩
  · intro entry listed
    obtain ⟨row, stored, same⟩ := told.known entry listed
    simp only [step, outbox]
    exact ⟨row, List.mem_append_left _ stored, same⟩

theorem step_cases (isAlnum : Char → Bool) (told : Told s) (move : Move) :
    step isAlnum s move = s ∨ (∃ event, move = .append event) ∨
      ∃ change added, Delivers s (step isAlnum s move) change added := by
  cases move with
  | append event => exact .inr (.inl ⟨event, rfl⟩)
  | claim workerId now limit leaseSeconds locked =>
    cases outcome : claimReady isAlnum workerId now limit leaseSeconds locked s.store with
    | error => exact .inl (by simp only [step, outcome])
    | ok =>
      obtain ⟨change, delivers⟩ := claim_delivers outcome
      exact .inr (.inr ⟨change, _, delivers⟩)
  | publish eventId workerId publishedAt =>
    cases outcome : markPublished eventId workerId publishedAt s.store with
    | error => exact .inl (by simp only [step, outcome])
    | ok => exact .inr (.inr (publish_delivers told outcome))
  | fail eventId workerId failedAt errorCode bounds =>
    cases outcome : markFailed eventId workerId failedAt errorCode bounds s.store with
    | error => exact .inl (by simp only [step, outcome])
    | ok => exact .inr (.inr (fail_delivers told outcome))

theorem step_told {delivery : Delivery} {move : Move} (told : Told delivery) :
    Told (step isAlnum delivery move) := by
  obtain stays | ⟨event, rfl⟩ | ⟨change, added, delivers⟩ := step_cases isAlnum told move
  · rw [stays]
    exact told
  · exact append_told told event
  · exact delivers.told told

theorem step_final (told : Told s) (move : Move) (held : row ∈ s.store.outbox.rows)
    (ended : ¬ (item row).Open) : row ∈ (step isAlnum s move).store.outbox.rows := by
  obtain stays | ⟨event, rfl⟩ | ⟨change, added, delivers⟩ := step_cases isAlnum told move
  · rw [stays]
    exact held
  · obtain stays | ⟨returned, ran⟩ := commit_cases (append event) s.store
    · simp only [step, stays]
      exact held
    · simp only [step, (append_ok ran).2.2]
      exact List.mem_append_left _ held
  · exact delivers.final held ended

end

theorem initial_told : Told initial := by
  refine ⟨?_, ?_, ?_, ?_⟩ <;> (intro _ mem; cases mem)

theorem run_told (isAlnum : Char → Bool) (moves : List Move) :
    Told (run (step isAlnum) initial moves) :=
  run_invariant (fun _ _ told => step_told told) moves initial_told

/-- Before an event is handed to a second worker the first one reported back, or it was taken over
after the lease that the call of the taker named. -/
def LeasesOutlast (history : List (Entry String)) : Prop :=
  ∀ (i j : Nat) (first second : String) (time later lease lease' : Int), i < j →
    history[i]? = some (.handed first time lease) →
    history[j]? = some (.handed second later lease') → first ≠ second →
    (∃ k report, i < k ∧ k < j ∧ history[k]? = some report ∧ report.ReportOf first) ∨
      ∃ k worker moment length, i < k ∧ k ≤ j ∧
        history[k]? = some (.handed worker moment length) ∧ time + length ≤ moment

/-- Before an event is handed to a second worker the first one reported back, or the lease that
the call of the first one named has ended. -/
def FirstLeaseOutlasts (history : List (Entry String)) : Prop :=
  ∀ (i j : Nat) (first second : String) (time later lease lease' : Int), i < j →
    history[i]? = some (.handed first time lease) →
    history[j]? = some (.handed second later lease') → first ≠ second →
    (∃ k report, i < k ∧ k < j ∧ history[k]? = some report ∧ report.ReportOf first) ∨
      time + lease ≤ later

/-- A row is handed out by a proper claim, made when its backoff and lease have passed, that fewer
rows than its limit precede and that no other transaction locks out. -/
def Claimable (isAlnum : Char → Bool) (store : EventStore) (row : OutboxRow) : Prop :=
  ∀ (workerId : String) (now : Instant) (limit leaseSeconds : Int) (locked : List Uuid),
    validWorkerId isAlnum workerId = true → 1 ≤ limit ∧ limit ≤ 500 →
    5 ≤ leaseSeconds ∧ leaseSeconds ≤ 3600 → row.eventId ∉ locked →
    row.availableAt ≤ now →
    (∀ claimedAt ∈ row.claimedAt, claimedAt + seconds leaseSeconds ≤ now) →
    (store.outbox.rows.countP fun other =>
      decide (other.Ready now leaseSeconds locked ∧ other.position < row.position)) < limit →
    ∃ envelopes after,
      claimReady isAlnum workerId now limit leaseSeconds locked store = .ok (envelopes, after) ∧
        ∃ envelope ∈ envelopes, envelope.event.eventId = row.eventId

structure EventKept (store : EventStore) (event : DomainEvent) (row : OutboxRow)
    (history : List (Entry String)) : Prop where
  alone : ∀ other ∈ store.outbox.rows, other.eventId = event.eventId → other = row
  claim : ∀ worker since, (row.claimedBy = some worker ∧ row.claimedAt = some since) ↔
    ∃ lease, history.getLast? = some (.handed worker since lease)
  leases : LeasesOutlast history
  reports : ∀ (n : Nat) (worker : String) (entry : Entry String), history[n]? = some entry →
    entry.ReportOf worker →
    ∃ i time lease, n = i + 1 ∧ history[i]? = some (.handed worker time lease)
  published : ∀ time, row.publishedAt = some time ↔
    ∃ entry, history.getLast? = some entry ∧ entry.Publishes time
  deadLettered : ∀ time, row.deadLetteredAt = some time ↔
    ∃ entry, history.getLast? = some entry ∧ entry.DeadLetters time
  exclusive : row.publishedAt = none ∨ row.deadLetteredAt = none
  last : ∀ (n : Nat) (entry : Entry String) (time : Int), history[n]? = some entry →
    entry.Publishes time ∨ entry.DeadLetters time → n + 1 = history.length
  attempts : row.attemptCount = history.countP Entry.isFailure
  due : row.availableAt = ((history.filterMap Entry.retryAt).getLast?).getD event.occurredAt

section

variable {isAlnum : Char → Bool} {delivery : Delivery}

theorem Told.eventKept (told : Told delivery) {row : OutboxRow}
    (held : row ∈ delivery.store.outbox.rows) :
    ∃ event ∈ delivery.store.events.rows, event.eventId = row.eventId ∧
      EventKept delivery.store event row (history row.eventId delivery.log) := by
  obtain ⟨event, present, same, legal, leaves⟩ := told.rows row held
  have field : ∀ {α : Type} (part : Item String → α), part (item row) =
      part (Item.left event.occurredAt (history row.eventId delivery.log)) :=
    fun part => congrArg part leaves
  have exclusive := (ended_of_legal legal).1
  have publishes := publishedAt_eq_some legal
  have deadLetters := deadLetteredAt_eq_some legal
  rw [← field Item.publishedAt] at exclusive publishes
  rw [← field Item.deadLetteredAt] at exclusive deadLetters
  refine ⟨event, present, same, ⟨?_, ?_, ?_, ?_, publishes, deadLetters, exclusive, ?_, ?_, ?_⟩⟩
  · intro other mem also
    exact delivery.store.outbox.eq_of_key mem held (also.trans same)
  · intro worker since
    rw [← claim_eq_some event.occurredAt, ← field Item.claim]
    have complete := told.complete row held
    cases holder : row.claimedBy with
    | none => simp [item, holder]
    | some other =>
      rw [holder] at complete
      obtain ⟨time, claimedAt⟩ := Option.isSome_iff_exists.1 complete
      simp [item, holder, claimedAt]
  · intro i j first second time later lease lease' earlier taken taken' _
    exact handover legal earlier taken taken'
  · intro n worker entry taken report
    exact handed_of_report legal taken report
  · intro n entry time taken ends
    exact last_of_ending legal taken ends
  · rw [← attempts_eq event.occurredAt]
    exact field Item.attempts
  · rw [← dueAt_eq]
    exact field Item.dueAt

theorem Told.claimable (told : Told delivery) {row : OutboxRow}
    (held : row ∈ delivery.store.outbox.rows) (unpublished : row.publishedAt = none)
    (alive : row.deadLetteredAt = none) : Claimable isAlnum delivery.store row := by
  intro workerId now limit leaseSeconds locked worker limited lease free due expired fewer
  have events : ∀ row ∈ delivery.store.outbox.rows, ∃ event ∈ delivery.store.events.rows,
      event.eventId = row.eventId := by
    intro row mem
    obtain ⟨event, present, same, _⟩ := told.rows row mem
    exact ⟨event, present, same⟩
  obtain ⟨envelopes, t, ran⟩ := exists_claimed worker limited lease now locked events
  refine ⟨envelopes, t, ran, ?_⟩
  have listed := (claimReady_ok ran).1
  have ready : row.Ready now leaseSeconds locked := by
    refine ⟨unpublished, alive, due, ?_, free⟩
    intro claimedAt standing
    exact Int.le_sub_right_of_add_le (expired claimedAt standing)
  have chosen : row ∈ readyRows delivery.store.outbox now limit.toNat leaseSeconds locked := by
    refine mem_take_orderedBy (List.mem_filter.2 ⟨held, decide_eq_true ready⟩) ?_ ?_
    · have keys : ((delivery.store.outbox.rows.filter fun other =>
          decide (OutboxRow.Ready now leaseSeconds locked other)).map OutboxRow.eventId).Nodup :=
        (List.filter_sublist.map OutboxRow.eventId).nodup delivery.store.outbox.keys_nodup
      refine List.Nodup.of_map (fun position : Instant ×ₗ Uuid => (ofLex position).2) ?_
      rw [List.map_map]
      exact keys
    · rw [List.countP_filter]
      have counted : (delivery.store.outbox.rows.countP fun other =>
          decide (other.position < row.position) &&
            decide (OutboxRow.Ready now leaseSeconds locked other)) =
          delivery.store.outbox.rows.countP fun other =>
            decide (other.Ready now leaseSeconds locked ∧ other.position < row.position) := by
        refine List.countP_congr fun other _ => ?_
        rw [Bool.and_eq_true, decide_eq_true_eq, decide_eq_true_eq, decide_eq_true_eq]
        exact And.comm
      rw [counted]
      omega
  have found : row.eventId ∈ envelopes.map fun envelope => envelope.event.eventId := by
    rw [listed]
    exact List.mem_map_of_mem chosen
  obtain ⟨envelope, mem, same⟩ := List.mem_map.1 found
  exact ⟨envelope, mem, same⟩

end

/-- In every run of publishers and workers on the outbox, every event is claimed by at most one
worker, handed over only after a report or a lease, reported on by its claimant alone, ended at
most once and for good, and claimable until then. -/
theorem outbox_neither_loses_nor_doubles (isAlnum : Char → Bool) (moves : List Move) :
    let delivery := run (step isAlnum) initial moves
    (∀ event ∈ delivery.store.events.rows, ∃ row ∈ delivery.store.outbox.rows,
      row.eventId = event.eventId ∧
      EventKept delivery.store event row (history event.eventId delivery.log) ∧
      (row.publishedAt = none → row.deadLetteredAt = none →
        Claimable isAlnum delivery.store row)) ∧
    ∀ move, ∀ row ∈ delivery.store.outbox.rows,
      row.publishedAt ≠ none ∨ row.deadLetteredAt ≠ none →
        row ∈ (step isAlnum delivery move).store.outbox.rows := by
  intro delivery
  have told : Told delivery := run_told isAlnum moves
  constructor
  · intro event present
    obtain ⟨row, stored, same⟩ := told.stored event present
    obtain ⟨source, also, key, kept⟩ := told.eventKept stored
    obtain rfl : source = event :=
      delivery.store.events.eq_of_key also present (key.trans same)
    rw [same] at kept
    exact ⟨row, stored, same, kept, told.claimable stored⟩
  · intro move row stored ended
    refine step_final told move stored fun still => ?_
    rcases ended with published | dead
    · exact published still.1
    · exact dead still.2

/-- A worker claims an event for an hour, and another that names a lease of five seconds gets it
after five seconds. -/
theorem short_lease_takes_over :
    ¬ ∀ eventId, FirstLeaseOutlasts (history eventId
      (run (step Char.isAlphanum) initial
        [.append ⟨1, "ride.requested", "ride", "1", "rides", 0, none⟩,
          .claim "worker-1" 0 100 3600 [], .claim "worker-2" 5000000 100 5 []]).log) := by
  intro outlasts
  have told : history 1 (run (step Char.isAlphanum) initial
      [.append ⟨1, "ride.requested", "ride", "1", "rides", 0, none⟩,
        .claim "worker-1" 0 100 3600 [], .claim "worker-2" 5000000 100 5 []]).log =
      [.handed "worker-1" 0 3600000000, .handed "worker-2" 5000000 5000000] := by
    decide +kernel
  have broken := outlasts 1
  rw [told] at broken
  obtain ⟨k, report, after, before, _⟩ | ended := broken 0 1 "worker-1" "worker-2" 0 5000000
    3600000000 5000000 Nat.one_pos rfl rfl (by decide)
  · omega
  · omega

end Ayo.PersistenceKernel.OutboxLeases
