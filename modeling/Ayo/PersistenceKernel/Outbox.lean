/- digest: Domain events with their outbox rows, claimed and delivered by workers. -/

import Mathlib.Data.List.TakeDrop
import Ayo.Kernel.Ordering
import Ayo.PersistenceKernel.Audit

namespace Ayo.PersistenceKernel.Outbox

open Kernel.UnitOfWork Kernel.KeyedTable Kernel.Ordering Kernel.Updates Core.Values Models

def append (event : DomainEvent) : Transaction EventStore Failure DomainEvent := do
  let store ← get
  let events ← demand (store.events.insert? event)
    (.conflict "Domain event identity or idempotency key already exists.")
  let outbox ← demand (store.outbox.insert? (OutboxRow.waiting event))
    (.conflict "Domain event identity or idempotency key already exists.")
  put { events, outbox }
  pure event

def validWorkerId (isAlnum : Char → Bool) (workerId : String) : Bool :=
  let letters := workerId.toList.filter fun c => c != '-'
  decide (1 ≤ workerId.length ∧ workerId.length ≤ 64) && !letters.isEmpty && letters.all isAlnum

/-- The ready rows that `claim_ready` locks. -/
def readyRows (outbox : Table OutboxRow) (now : Instant) (limit : Nat) (leaseSeconds : Int)
    (locked : List Uuid) : List OutboxRow :=
  (orderedBy OutboxRow.position
    (outbox.rows.filter fun row => decide (OutboxRow.Ready now leaseSeconds locked row))).take limit

def envelope? (events : Table DomainEvent) (row : OutboxRow) : Option OutboxEnvelope :=
  (events.find row.eventId).map fun event =>
    { event, attemptCount := row.attemptCount, availableAt := row.availableAt,
      claimedBy := row.claimedBy }

def claimReady (isAlnum : Char → Bool) (workerId : String) (now : Instant) (limit leaseSeconds : Int)
    (locked : List Uuid) : Transaction EventStore Failure (List OutboxEnvelope) := do
  require (validWorkerId isAlnum workerId = true) (.value "Worker identifier is invalid")
  require (1 ≤ limit ∧ limit ≤ 500) (.value "Outbox claim limit must be between 1 and 500")
  require (5 ≤ leaseSeconds ∧ leaseSeconds ≤ 3600)
    (.value "Outbox lease must be between 5 and 3600 seconds")
  let store ← get
  let ready := readyRows store.outbox now limit.toNat leaseSeconds locked
  let ids := ready.map OutboxRow.eventId
  let outbox ← demand
    (store.outbox.rewrite? (updateWhere (fun row => row.eventId ∈ ids) (.claimed workerId now)))
    (.integrity "persistence_outbox")
  -- The returned rows, sorted back into the order of the selection.
  let claimed := ready.map (.claimed workerId now)
  let envelopes ← demand (claimed.mapM (envelope? store.events)) (.value "KeyError")
  put { store with outbox }
  pure envelopes

/-- `mark_published`: whether one row was changed. -/
def markPublished (eventId : Uuid) (workerId : String) (publishedAt : Instant) :
    Transaction EventStore Failure Bool := do
  let store ← get
  let outbox ← demand (store.outbox.rewrite?
      (updateWhere (OutboxRow.ClaimedBy eventId workerId) (.published publishedAt)))
    (.integrity "persistence_outbox")
  put { store with outbox }
  pure (store.outbox.rows.countP (fun row => decide (row.ClaimedBy eventId workerId)) == 1)

/-- `mark_failed`: whether the event was given up; a report of another worker changes nothing. -/
def markFailed (eventId : Uuid) (workerId : String) (failedAt : Instant) (errorCode : String)
    (bounds : RetryBounds) : Transaction EventStore Failure Bool := do
  require (1 ≤ errorCode.length ∧ errorCode.length ≤ 63) (.value "Outbox error code is invalid")
  require (1 ≤ bounds.maximumAttempts ∧ bounds.maximumAttempts ≤ 20)
    (.value "Maximum attempts must be between 1 and 20")
  require (1 ≤ bounds.baseBackoffSeconds ∧
      bounds.baseBackoffSeconds ≤ bounds.maximumBackoffSeconds ∧
      bounds.maximumBackoffSeconds ≤ 86400)
    (.value "Outbox backoff bounds are invalid")
  let store ← get
  whenSome ((store.outbox.find eventId).filter fun row => decide (row.ClaimedBy eventId workerId))
    (fun row => do
      let outbox ← demand (store.outbox.replace? (row.failed failedAt errorCode bounds))
        (.integrity "persistence_outbox")
      put { store with outbox }
      pure (bounds.exhausted (row.attemptCount + 1)))
    (pure false)

section

variable {s t : EventStore} {event : DomainEvent} {events : Table DomainEvent}
  {envelopes : List OutboxEnvelope} {rows : List OutboxRow} {workerId : String}
  {isAlnum : Char → Bool} {leaseSeconds limit : Int} {eventId : Uuid}

theorem append_ok {returned : DomainEvent} (ran : append event s = .ok (returned, t)) :
    returned = event ∧ t.events.rows = s.events.rows ++ [event] ∧
      t.outbox.rows = s.outbox.rows ++ [OutboxRow.waiting event] := by
  unfold append at ran
  simp only [steps_ok, Table.insert?_eq_some] at ran
  obtain ⟨events, eventRows, outbox, outboxRows, rfl, rfl⟩ := ran
  exact ⟨rfl, eventRows, outboxRows⟩

theorem append_of_free (free : ∀ other ∈ s.events.rows, ¬ Row.clash other event)
    (fresh : ∀ row ∈ s.outbox.rows, row.eventId ≠ event.eventId) :
    ∃ t, append event s = .ok (event, t) := by
  obtain ⟨events, eventRows⟩ := Table.exists_inserted free
  obtain ⟨outbox, outboxRows⟩ : ∃ outbox : Table OutboxRow,
      outbox.rows = s.outbox.rows ++ [.waiting event] := Table.exists_inserted fresh
  exact ⟨{ events, outbox }, get_bind_ok.2 (demand_bind_ok.2 ⟨events,
    Table.insert?_eq_some.2 eventRows, demand_bind_ok.2 ⟨outbox, Table.insert?_eq_some.2 outboxRows,
      put_bind_ok.2 (pure_ok.2 ⟨rfl, rfl⟩)⟩⟩)⟩

theorem eventId_of_envelope {row : OutboxRow} {envelope : OutboxEnvelope}
    (found : envelope? events row = some envelope) : envelope.event.eventId = row.eventId := by
  obtain ⟨event, held, rfl⟩ := Option.map_eq_some_iff.1 found
  exact Table.key_of_find held

private theorem eventIds_of_envelopes (found : rows.mapM (envelope? events) = some envelopes) :
    (envelopes.map fun envelope => envelope.event.eventId) = rows.map OutboxRow.eventId := by
  induction rows generalizing envelopes with
  | nil =>
    rw [List.mapM_nil] at found
    cases found
    rfl
  | cons row rest ih =>
    rw [List.mapM_cons] at found
    obtain ⟨first, own, found⟩ := Option.bind_eq_some_iff.1 found
    obtain ⟨others, rest, same⟩ := Option.bind_eq_some_iff.1 found
    cases same
    rw [List.map_cons, List.map_cons, eventId_of_envelope own, ih rest]

private theorem exists_envelopes
    (held : ∀ row ∈ rows, ∃ event ∈ events.rows, event.eventId = row.eventId) :
    ∃ envelopes, rows.mapM (envelope? events) = some envelopes := by
  induction rows with
  | nil => exact ⟨[], rfl⟩
  | cons row rest ih =>
    obtain ⟨event, mem, same⟩ := held row List.mem_cons_self
    obtain ⟨others, found⟩ := ih fun other later => held other (List.mem_cons_of_mem _ later)
    have own : events.find row.eventId = some event := same ▸ Table.find_of_mem mem
    rw [List.mapM_cons, found, envelope?, own]
    exact ⟨_, rfl⟩

theorem claimReady_ok {now : Instant} {locked : List Uuid}
    (ran : claimReady isAlnum workerId now limit leaseSeconds locked s = .ok (envelopes, t)) :
    let ids := (readyRows s.outbox now limit.toNat leaseSeconds locked).map OutboxRow.eventId
    (envelopes.map fun envelope => envelope.event.eventId) = ids ∧ t.events = s.events ∧
      t.outbox.rows =
        s.outbox.rows.map (updateWhere (fun row => row.eventId ∈ ids) (.claimed workerId now)) := by
  unfold claimReady at ran
  simp only [steps_ok, Table.rewrite?_eq_some] at ran
  obtain ⟨_, _, _, outbox, rows, found, listed, rfl, rfl⟩ := ran
  refine ⟨?_, rfl, rows⟩
  rw [eventIds_of_envelopes listed, List.map_map]
  rfl

theorem exists_claimed (worker : validWorkerId isAlnum workerId = true)
    (limited : 1 ≤ limit ∧ limit ≤ 500) (lease : 5 ≤ leaseSeconds ∧ leaseSeconds ≤ 3600)
    (now : Instant) (locked : List Uuid)
    (held : ∀ row ∈ s.outbox.rows, ∃ event ∈ s.events.rows, event.eventId = row.eventId) :
    ∃ envelopes t, claimReady isAlnum workerId now limit leaseSeconds locked s =
      .ok (envelopes, t) := by
  have selected : ∀ row ∈ readyRows s.outbox now limit.toNat leaseSeconds locked,
      row ∈ s.outbox.rows := fun row mem =>
    List.mem_of_mem_filter (mem_orderedBy.1 (List.mem_of_mem_take mem))
  obtain ⟨envelopes, found⟩ : ∃ envelopes,
      ((readyRows s.outbox now limit.toNat leaseSeconds locked).map
        (.claimed workerId now)).mapM (envelope? s.events) = some envelopes := by
    refine exists_envelopes fun row mem => ?_
    obtain ⟨old, ready, rfl⟩ := List.mem_map.1 mem
    exact held old (selected old ready)
  have keeps : ∀ row : OutboxRow, (row.claimed workerId now).eventId = row.eventId := fun _ => rfl
  obtain ⟨outbox, rows⟩ := s.outbox.exists_rewritten (f := updateWhere (fun row => row.eventId ∈
      (readyRows s.outbox now limit.toNat leaseSeconds locked).map OutboxRow.eventId)
      (.claimed workerId now)) fun a b clash => by
        have same : (updateWhere _ _ a).eventId = (updateWhere _ _ b).eventId := clash
        rw [updateWhere_keeps keeps, updateWhere_keeps keeps] at same
        exact same
  refine ⟨envelopes, { s with outbox }, ?_⟩
  unfold claimReady
  refine require_bind_ok.2 ⟨worker, require_bind_ok.2 ⟨limited, require_bind_ok.2 ⟨lease, ?_⟩⟩⟩
  refine get_bind_ok.2 (demand_bind_ok.2 ⟨outbox, Table.rewrite?_eq_some.2 rows, ?_⟩)
  exact demand_bind_ok.2 ⟨envelopes, found, put_bind_ok.2 (pure_ok.2 ⟨rfl, rfl⟩)⟩

theorem claimedBy_count {outbox : Table OutboxRow} :
    (outbox.rows.countP (fun row => decide (row.ClaimedBy eventId workerId)) == 1) =
      outbox.rows.any fun row => decide (row.ClaimedBy eventId workerId) := by
  cases present : outbox.rows.any fun row => decide (row.ClaimedBy eventId workerId) with
  | true =>
    obtain ⟨row, mem, claimed⟩ := List.any_eq_true.1 present
    have own : row.ClaimedBy eventId workerId := of_decide_eq_true claimed
    have alone := outbox.filter_eq_singleton mem claimed fun other held also => by
      have claims : other.ClaimedBy eventId workerId := of_decide_eq_true also
      exact outbox.eq_of_key held mem (claims.1.trans own.1.symm)
    rw [List.countP_eq_length_filter, alone]
    rfl
  | false =>
    have absent := List.any_eq_false.1 present
    rw [List.countP_eq_zero.2 absent]
    rfl

theorem markPublished_ok {publishedAt : Instant} {new : Bool}
    (ran : markPublished eventId workerId publishedAt s = .ok (new, t)) :
    new = (s.outbox.rows.any fun row => decide (row.ClaimedBy eventId workerId)) ∧
      t.events = s.events ∧
      t.outbox.rows = s.outbox.rows.map
        (updateWhere (OutboxRow.ClaimedBy eventId workerId) (.published publishedAt)) := by
  unfold markPublished at ran
  simp only [steps_ok, Table.rewrite?_eq_some] at ran
  obtain ⟨outbox, rows, rfl, rfl⟩ := ran
  exact ⟨claimedBy_count, rfl, rows⟩

theorem markFailed_ok {failedAt : Instant} {errorCode : String} {bounds : RetryBounds} {dead : Bool}
    (ran : markFailed eventId workerId failedAt errorCode bounds s = .ok (dead, t)) :
    t.events = s.events ∧ t.outbox.rows = s.outbox.rows.map
        (updateWhere (OutboxRow.ClaimedBy eventId workerId)
          (OutboxRow.failed failedAt errorCode bounds)) := by
  unfold markFailed at ran
  simp only [steps_ok, whenSome_ok, Table.replace?_eq_some, Option.filter_eq_some_iff,
    Option.filter_eq_none_iff, decide_eq_true_eq] at ran
  obtain ⟨_, _, _, ⟨row, ⟨found, claimed⟩, outbox, rows, _, rfl⟩ | ⟨absent, _, rfl⟩⟩ := ran
  · refine ⟨rfl, rows.trans (map_updateWhere (Table.mem_of_find found) ?_ rfl).symm⟩
    intro other mem
    have own : Row.key other = Row.key row ↔ other.eventId = row.eventId := Iff.rfl
    rw [own]
    constructor
    · intro also
      exact also.1.trans claimed.1.symm
    · intro same
      rwa [s.outbox.eq_of_key mem (Table.mem_of_find found) same]
  · refine ⟨rfl, ?_⟩
    conv_lhs => rw [← List.map_id s.outbox.rows]
    refine List.map_congr_left fun row mem => ?_
    refine (updateWhere_of_not fun claimed => ?_).symm
    exact absent row (claimed.1 ▸ Table.find_of_mem mem) claimed

end
end Ayo.PersistenceKernel.Outbox
