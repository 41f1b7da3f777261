/- digest: The history of an order is a path that its state tells of. -/

import Ayo.MerchantOrders.Effects

namespace Ayo.MerchantOrders.Histories

open Kernel.UnitOfWork Kernel.KeyedTable Kernel.Ordering Kernel.Run Kernel.Trail Core.Values Models
  Repository Application Effects

def eventStep (event : OrderTimelineEvent) : Step OrderState := (event.fromState, event.toState)

/-- The events, decision and preparation of an order agree with its row, and all sides can read
it. -/
structure OrderHistory (store : OrderStore) (row : OrderRow) : Prop where
  versions : (timelineOf store row.orderId).map OrderTimelineEvent.orderVersion =
    List.range' 1 row.version
  path : Path successors .waitingForMerchantConfirmation
    ((timelineOf store row.orderId).map eventStep) row.state
  rejected : (store.rejections.find row.orderId).isSome = true ↔ row.state = .rejected
  prepared : (store.preparations.find row.orderId).isSome = true ↔
    row.state = .preparing ∨ row.state = .readyForPickup
  increasing : ((preparationEventsOf store row.orderId).map
    PreparationEvent.progressPercent).Pairwise (· < ·)
  progress : ((preparationEventsOf store row.orderId).map
    PreparationEvent.progressPercent).getLast? =
      (store.preparations.find row.orderId).map PreparationRecord.progressPercent
  ready : ∀ record ∈ store.preparations.find row.orderId,
    (record.progressPercent = 100 ↔ row.state = .readyForPickup) ∧
      (record.readyAt.isSome = true ↔ row.state = .readyForPickup)
  merchantReads : ∃ view, getView row.orderId store = .ok (some view, store)
  preparationReads : ∃ view, getPreparationView row.orderId store = .ok (some view, store)
  customerReads : ∃ order, findOrder row.orderId store = .ok (some order, store)

/-- Every stored order has a history that leads to its state. -/
def OrdersRecorded (store : OrderStore) : Prop :=
  ∀ row ∈ store.orders.rows, OrderHistory store row

structure Prepared (state : OrderState) (version : Nat) (preparation : Option PreparationRecord)
    (events : List PreparationEvent) : Prop where
  present : preparation.isSome = true ↔ state = .preparing ∨ state = .readyForPickup
  valid : ∀ record ∈ preparation, record.Valid
  full : ∀ record ∈ preparation, (record.progressPercent = 100 ↔ state = .readyForPickup) ∧
    (record.readyAt.isSome = true ↔ state = .readyForPickup)
  last : (events.map PreparationEvent.progressPercent).getLast? =
    preparation.map PreparationRecord.progressPercent
  increasing : (events.map PreparationEvent.progressPercent).Pairwise (· < ·)
  counted : (events.map PreparationEvent.orderVersion).Pairwise (· < ·)
  passed : ∀ event ∈ events, event.orderVersion ≤ version
  sound : ∀ event ∈ events, event.Valid

/-- What the tables hold of an order agrees with its state and version. -/
structure Recorded (row : OrderRow) (timeline : List OrderTimelineEvent)
    (lines : List OrderLineEvidence) (rejection : Option RejectionDecision)
    (preparation : Option PreparationRecord) (events : List PreparationEvent) : Prop where
  versions : timeline.map OrderTimelineEvent.orderVersion = List.range' 1 row.version
  path : Path successors .waitingForMerchantConfirmation (timeline.map eventStep) row.state
  valid : ∀ event ∈ timeline, event.Valid
  readable : ReadableOrder row.merchantDisplayName lines row.version
  rejected : rejection.isSome = true ↔ row.state = .rejected
  explained : ∀ decision ∈ rejection, decision.Valid
  prepared : Prepared row.state row.version preparation events

section

variable {state target : OrderState} {version : Nat} {old record : PreparationRecord}
  {events : List PreparationEvent} {event : PreparationEvent}

private theorem le_last {values : List Int} {last : Int} (increasing : values.Pairwise (· < ·))
    (ends : values.getLast? = some last) : ∀ value ∈ values, value ≤ last := by
  obtain ⟨earlier, rfl⟩ := List.getLast?_eq_some_iff.1 ends
  rw [List.pairwise_append] at increasing
  intro value mem
  obtain sooner | rfl := (mem_appended rfl).1 mem
  · exact Int.le_of_lt (increasing.2.2 value sooner last (List.mem_singleton_self _))
  · exact Int.le_refl _

theorem Prepared.start (prepared : Prepared .accepted version none events)
    (valid : record.Valid) (none_ : record.progressPercent = 0) (unready : record.readyAt = none)
    (counts : event.orderVersion = version + 1)
    (same : event.progressPercent = record.progressPercent) (sound : event.Valid) :
    Prepared .preparing (version + 1) (some record) (events ++ [event]) := by
  have empty : events = [] := by
    have ends := prepared.last
    simpa using ends
  subst empty
  refine ⟨by simp, ?_, ?_, by simp [same], by simp, by simp, ?_, ?_⟩
  · rintro _ ⟨⟩
    exact valid
  · rintro _ ⟨⟩
    simp [none_, unready]
  · intro other mem
    obtain rfl := List.mem_singleton.1 mem
    exact Nat.le_of_eq counts
  · intro other mem
    obtain rfl := List.mem_singleton.1 mem
    exact sound

theorem Prepared.advance (prepared : Prepared .preparing version (some old)
      events) (valid : record.Valid)
    (onward : target = .preparing ∨ target = .readyForPickup)
    (more : old.progressPercent < record.progressPercent)
    (full : (record.progressPercent = 100 ↔ target = .readyForPickup) ∧
      (record.readyAt.isSome = true ↔ target = .readyForPickup))
    (counts : event.orderVersion = version + 1)
    (same : event.progressPercent = record.progressPercent) (sound : event.Valid) :
    Prepared target (version + 1) (some record) (events ++ [event]) := by
  refine ⟨by simpa using onward, ?_, ?_, by simp [same], ?_, ?_, ?_, ?_⟩
  · rintro _ ⟨⟩
    exact valid
  · rintro _ ⟨⟩
    exact full
  · have below := le_last prepared.increasing prepared.last
    rw [List.map_append, List.pairwise_append]
    refine ⟨prepared.increasing, List.pairwise_singleton _ _, ?_⟩
    intro value mem other single
    obtain rfl := List.mem_singleton.1 single
    rw [same]
    exact Int.lt_of_le_of_lt (below value mem) more
  · rw [List.map_append, List.pairwise_append]
    refine ⟨prepared.counted, List.pairwise_singleton _ _, ?_⟩
    intro earlier mem other single
    obtain rfl := List.mem_singleton.1 single
    obtain ⟨entry, held, rfl⟩ := List.mem_map.1 mem
    rw [counts]
    exact Nat.lt_succ_of_le (prepared.passed entry held)
  · intro other mem
    obtain earlier | rfl := (mem_appended rfl).1 mem
    · exact Nat.le_succ_of_le (prepared.passed other earlier)
    · exact Nat.le_of_eq counts
  · intro other mem
    obtain earlier | rfl := (mem_appended rfl).1 mem
    · exact prepared.sound other earlier
    · exact sound

theorem Prepared.absent {preparation : Option PreparationRecord}
    (prepared : Prepared .waitingForMerchantConfirmation version preparation events)
    (decided : target = .accepted ∨ target = .rejected) :
    Prepared target (version + 1) preparation events := by
  have none_ : preparation = none := by
    cases preparation with
    | none => rfl
    | some record => simpa using prepared.present
  subst none_
  refine ⟨?_, prepared.valid, fun record mem => (by cases mem), prepared.last,
    prepared.increasing, prepared.counted,
    fun event mem => Nat.le_succ_of_le (prepared.passed event mem), prepared.sound⟩
  obtain rfl | rfl := decided
  · simp
  · simp

end

theorem Recorded.move {row : OrderRow} {timeline : List OrderTimelineEvent}
    {lines : List OrderLineEvidence} {rejection rejection' : Option RejectionDecision}
    {preparation preparation' : Option PreparationRecord} {events events' : List PreparationEvent}
    {target : OrderState} {event : OrderTimelineEvent}
    (recorded : Recorded row timeline lines rejection preparation events)
    (named : event.fromState = some row.state ∧ event.toState = target ∧
      event.orderVersion = row.version + 1 ∧ event.Valid)
    (edge : target ∈ successors row.state)
    (rejected : rejection'.isSome = true ↔ target = .rejected)
    (explained : ∀ decision ∈ rejection', decision.Valid)
    (prepared : Prepared target (row.version + 1) preparation' events') :
    Recorded { row with state := target, version := row.version + 1 } (timeline ++ [event]) lines
      rejection' preparation' events' := by
  obtain ⟨source, reached, counts, valid⟩ := named
  refine ⟨?_, ?_, ?_, ⟨recorded.readable.name, recorded.readable.each, recorded.readable.count,
    Nat.succ_pos _⟩, rejected, explained, prepared⟩
  · rw [List.map_append, recorded.versions, List.range'_1_concat]
    simp [counts, Nat.add_comm]
  · have step : eventStep event = (some row.state, target) := by rw [eventStep, source, reached]
    rw [List.map_append, List.map_singleton, step]
    exact recorded.path.append edge
  · intro other mem
    obtain earlier | rfl := (mem_appended rfl).1 mem
    · exact recorded.valid other earlier
    · exact valid

section

variable (store : OrderStore)

def timelineRows (orderId : Uuid) : List OrderTimelineEvent :=
  store.timeline.filter fun event => event.orderId = orderId

def preparationRows (orderId : Uuid) : List PreparationEvent :=
  store.preparationEvents.filter fun event => event.orderId = orderId

def RecordedIn (row : OrderRow) : Prop :=
  Recorded row (timelineRows store row.orderId) (linesOf store row.orderId)
    (store.rejections.find row.orderId) (store.preparations.find row.orderId)
    (preparationRows store row.orderId)

structure Sound (store : OrderStore) : Prop where
  recorded : ∀ row ∈ store.orders.rows, RecordedIn store row
  ofTimeline : ∀ event ∈ store.timeline, (store.orders.find event.orderId).isSome = true
  ofLines : ∀ line ∈ store.lines, (store.orders.find line.orderId).isSome = true
  ofRejections : ∀ row ∈ store.rejections.rows, (store.orders.find row.orderId).isSome = true
  ofPreparations : ∀ row ∈ store.preparations.rows, (store.orders.find row.orderId).isSome = true
  ofEvents : ∀ event ∈ store.preparationEvents, (store.orders.find event.orderId).isSome = true

variable {s t : OrderStore} {orderId : Uuid} {lines : List OrderLineEvidence}

theorem sound_empty : Sound {} := by
  refine ⟨?_, ?_, ?_, ?_, ?_, ?_⟩
  all_goals
    intro row held
    cases held

theorem Sound.of_same (sound : Sound s) (same : SameHistory s t) : Sound t := by
  obtain ⟨_, _, _, _, _, _, _, _, _, _⟩ := s
  obtain ⟨_, _, _, _, _, _, _, _, _, _⟩ := t
  obtain ⟨rfl, rfl, rfl, rfl, rfl, rfl⟩ := same
  exact ⟨sound.recorded, sound.ofTimeline, sound.ofLines, sound.ofRejections,
    sound.ofPreparations, sound.ofEvents⟩

theorem Sound.nothing (sound : Sound s) (absent : s.orders.find orderId = none) :
    timelineRows s orderId = [] ∧ (s.lines.filter fun line => line.orderId = orderId) = [] ∧
      s.rejections.find orderId = none ∧ s.preparations.find orderId = none ∧
      preparationRows s orderId = [] := by
  have missing : (s.orders.find orderId).isSome ≠ true := by simp [absent]
  refine ⟨?_, ?_, ?_, ?_, ?_⟩
  · refine List.filter_eq_nil_iff.2 fun event held about => missing ?_
    rw [← of_decide_eq_true about]
    exact sound.ofTimeline event held
  · refine List.filter_eq_nil_iff.2 fun line held about => missing ?_
    rw [← of_decide_eq_true about]
    exact sound.ofLines line held
  · refine Table.find_eq_none.2 fun row held about => missing ?_
    rw [← about]
    exact sound.ofRejections row held
  · refine Table.find_eq_none.2 fun row held about => missing ?_
    rw [← about]
    exact sound.ofPreparations row held
  · refine List.filter_eq_nil_iff.2 fun event held about => missing ?_
    rw [← of_decide_eq_true about]
    exact sound.ofEvents event held

theorem linesOf_inserted (inserted : t.lines = s.lines ++ lineRows orderId lines)
    (empty : (s.lines.filter fun line => line.orderId = orderId) = []) :
    linesOf t orderId = lines := by
  have own : (lineRows orderId lines).filter (fun line => line.orderId = orderId) =
      lineRows orderId lines := by
    refine List.filter_eq_self.2 fun line mem => ?_
    obtain ⟨source, _, rfl⟩ := List.mem_map.1 mem
    exact decide_eq_true rfl
  have numbered : (lines.zipIdx.map Prod.snd).Pairwise (· < ·) := by
    rw [List.zipIdx_map_snd]
    exact List.pairwise_lt_range'
  have ascending : (lineRows orderId lines).Pairwise fun a b => a.lineNumber ≤ b.lineNumber :=
    List.pairwise_map.2 ((List.pairwise_map.1 numbered).imp fun less =>
      Nat.succ_le_succ (Nat.le_of_lt less))
  rw [linesOf, inserted, List.filter_append, empty, own, List.nil_append,
    orderedBy_of_pairwise ascending, lineRows, List.map_map]
  exact List.zipIdx_map_fst 0 lines

theorem linesOf_other {other : Uuid} (inserted : t.lines = s.lines ++ lineRows orderId lines)
    (apart : other ≠ orderId) : linesOf t other = linesOf s other := by
  have none_ : (lineRows orderId lines).filter (fun line => line.orderId = other) = [] := by
    refine List.filter_eq_nil_iff.2 fun line mem => ?_
    obtain ⟨source, _, rfl⟩ := List.mem_map.1 mem
    simpa using apart.symm
  rw [linesOf, linesOf, inserted, List.filter_append, none_, List.append_nil]

theorem timelineRows_appended {event : OrderTimelineEvent}
    (appended : t.timeline = s.timeline ++ [event]) :
    timelineRows t orderId =
      timelineRows s orderId ++ if event.orderId = orderId then [event] else [] := by
  rw [timelineRows, appended, List.filter_append, timelineRows]
  by_cases about : event.orderId = orderId <;> simp [about]

theorem preparationRows_appended {event : PreparationEvent}
    (appended : t.preparationEvents = s.preparationEvents ++ [event]) :
    preparationRows t orderId =
      preparationRows s orderId ++ if event.orderId = orderId then [event] else [] := by
  rw [preparationRows, appended, List.filter_append, preparationRows]
  by_cases about : event.orderId = orderId <;> simp [about]

theorem RecordedIn.kept {row : OrderRow} (recorded : RecordedIn s row)
    (timeline : timelineRows t row.orderId = timelineRows s row.orderId)
    (lines : linesOf t row.orderId = linesOf s row.orderId)
    (rejections : t.rejections.find row.orderId = s.rejections.find row.orderId)
    (preparations : t.preparations.find row.orderId = s.preparations.find row.orderId)
    (events : preparationRows t row.orderId = preparationRows s row.orderId) :
    RecordedIn t row := by
  unfold RecordedIn
  rw [timeline, lines, rejections, preparations, events]
  exact recorded

theorem Sound.created (sound : Sound s) {value : CanonicalOrder} {merchantVersion : Nat}
    (state : value.state = .waitingForMerchantConfirmation) (version : value.version = 1)
    (readable : ReadableOrder value.merchantDisplayName value.lines value.version)
    (orders : t.orders.rows = s.orders.rows ++ [CanonicalOrder.row value merchantVersion])
    (lines : t.lines = s.lines ++ lineRows value.orderId value.lines)
    (timeline : t.timeline = s.timeline ++ [createdEvent value])
    (rejections : t.rejections = s.rejections) (preparations : t.preparations = s.preparations)
    (events : t.preparationEvents = s.preparationEvents) : Sound t := by
  have absent : s.orders.find value.orderId = none :=
    Table.find_eq_none_of_rows_append orders
  have present : (t.orders.find value.orderId).isSome = true := by
    have found : t.orders.find value.orderId = some (CanonicalOrder.row value merchantVersion) :=
      Table.find_of_inserted orders
    rw [found]
    rfl
  have stays : ∀ id, (s.orders.find id).isSome = true → (t.orders.find id).isSome = true := by
    intro id found
    rw [Table.find_of_rows_append orders, Option.isSome_or, found, Bool.true_or]
  obtain ⟨noEntries, noLines, noRejection, noPreparation, noEvents⟩ := sound.nothing absent
  refine ⟨fun row held => ?_, fun event held => ?_, fun line held => ?_,
    fun row held => stays _ (sound.ofRejections row (rejections ▸ held)),
    fun row held => stays _ (sound.ofPreparations row (preparations ▸ held)),
    fun event held => stays _ (sound.ofEvents event (events ▸ held))⟩
  · obtain old | rfl := (mem_appended orders).1 held
    · have apart : row.orderId ≠ value.orderId := Table.find_eq_none.1 absent row old
      refine (sound.recorded row old).kept ?_ (linesOf_other lines apart) (by rw [rejections])
        (by rw [preparations]) (by rw [preparationRows, events]; rfl)
      rw [timelineRows_appended timeline, if_neg fun about => apart about.symm, List.append_nil]
    · have entries : timelineRows t value.orderId = [createdEvent value] := by
        rw [timelineRows_appended timeline, noEntries, List.nil_append]
        exact if_pos rfl
      have nothing : preparationRows t value.orderId = [] := by
        rw [preparationRows, events]
        exact noEvents
      show Recorded _ (timelineRows t value.orderId) (linesOf t value.orderId)
        (t.rejections.find value.orderId) (t.preparations.find value.orderId)
        (preparationRows t value.orderId)
      rw [entries, rejections, preparations, noRejection, noPreparation, nothing,
        linesOf_inserted lines noLines]
      refine ⟨?_, ⟨rfl, state, state.symm⟩, ?_, readable, ?_, fun _ absent => (by cases absent), ?_⟩
      · show [value.version] = List.range' 1 value.version
        rw [version]
        rfl
      · intro event mem
        obtain rfl := List.mem_singleton.1 mem
        exact ⟨version ▸ Nat.le_refl 1, fun _ absent => by cases absent⟩
      · show false = true ↔ value.state = .rejected
        rw [state]
        simp
      · show Prepared value.state value.version none []
        rw [state]
        refine ⟨by simp, fun _ absent => (by cases absent), fun _ absent => (by cases absent), rfl,
          .nil, .nil, fun _ absent => (by cases absent), fun _ absent => (by cases absent)⟩
  · obtain old | rfl := (mem_appended timeline).1 held
    · exact stays _ (sound.ofTimeline event old)
    · exact present
  · rw [lines, List.mem_append] at held
    obtain old | new := held
    · exact stays _ (sound.ofLines line old)
    · obtain ⟨source, _, rfl⟩ := List.mem_map.1 new
      exact present

end

section

variable {s t : OrderStore} {row : OrderRow} {target : OrderState}

theorem others_of_detail (detail : MoveDetail s t row target) {orderId : Uuid}
    (apart : orderId ≠ row.orderId) :
    t.rejections.find orderId = s.rejections.find orderId ∧
      t.preparations.find orderId = s.preparations.find orderId ∧
      preparationRows t orderId = preparationRows s orderId := by
  cases detail with
  | accepted _ rejections preparations events =>
    refine ⟨by rw [rejections], by rw [preparations], ?_⟩
    rw [preparationRows, events]
    rfl
  | rejected decision _ about _ rejections preparations events =>
    have other : Row.key decision ≠ orderId := fun key => apart (key.symm.trans about)
    refine ⟨?_, by rw [preparations], ?_⟩
    · rw [Table.find_of_rows_append rejections, if_neg other, Option.or_none]
    · rw [preparationRows, events]
      rfl
  | started record event inserted events _ about _ _ _ named rejections =>
    have other : Row.key record ≠ orderId := fun key => apart (key.symm.trans about)
    refine ⟨by rw [rejections], ?_, ?_⟩
    · rw [Table.find_of_rows_append inserted, if_neg other, Option.or_none]
    · rw [preparationRows_appended events, if_neg fun same => apart (same.symm.trans named.1),
        List.append_nil]
  | progressed old record event replaced events _ _ about _ _ _ _ named rejections
  | readied old record event replaced events _ _ about _ _ _ named rejections =>
    have other : orderId ≠ Row.key record := fun key => apart (key.trans about)
    refine ⟨by rw [rejections], ?_, ?_⟩
    · rw [Table.find_of_rows_replaced replaced, if_neg other]
    · rw [preparationRows_appended events, if_neg fun same => apart (same.symm.trans named.1),
        List.append_nil]

private theorem prepared_of_replaced {old record : PreparationRecord}
    (replaced : t.preparations.rows = s.preparations.replaced record)
    (about : record.orderId = row.orderId) (held : s.preparations.find row.orderId = some old) :
    t.preparations.find row.orderId = some record := by
  have key : row.orderId = Row.key record := about.symm
  rw [Table.find_of_rows_replaced replaced, if_pos key, held]
  rfl

theorem recorded_of_detail (detail : MoveDetail s t row target) (recorded : RecordedIn s row) :
    ((t.rejections.find row.orderId).isSome = true ↔ target = .rejected) ∧
      (∀ decision ∈ t.rejections.find row.orderId, decision.Valid) ∧
      Prepared target (row.version + 1) (t.preparations.find row.orderId)
        (preparationRows t row.orderId) := by
  have unrejected (rejections : t.rejections = s.rejections) (from_ : row.state ≠ .rejected)
      (to_ : target ≠ .rejected) :
      ((t.rejections.find row.orderId).isSome = true ↔ target = .rejected) ∧
        ∀ decision ∈ t.rejections.find row.orderId, decision.Valid := by
    rw [rejections]
    cases found : s.rejections.find row.orderId with
    | none => simp [to_]
    | some decision =>
      have rejected := recorded.rejected
      rw [found] at rejected
      exact (from_ (rejected.1 rfl)).elim
  have prepared := recorded.prepared
  cases detail with
  | accepted from_ rejections preparations events =>
    obtain ⟨unexplained, valid⟩ := unrejected rejections (by rw [from_]; decide) (by decide)
    rw [from_] at prepared
    refine ⟨unexplained, valid, ?_⟩
    rw [preparations, preparationRows, events]
    exact prepared.absent (.inl rfl)
  | rejected decision from_ about valid rejections preparations events =>
    rw [from_] at prepared
    have found : t.rejections.find row.orderId = some decision := by
      rw [← about]
      exact Table.find_of_inserted rejections
    refine ⟨by simp [found], ?_, ?_⟩
    · intro other mem
      rw [found] at mem
      cases mem
      exact valid
    · rw [preparations, preparationRows, events]
      exact prepared.absent (.inr rfl)
  | started record event inserted events from_ about valid none_ unready named rejections =>
    obtain ⟨unexplained, explained⟩ := unrejected rejections (by rw [from_]; decide) (by decide)
    have key : Row.key record = row.orderId := about
    have free := Table.find_eq_none_of_rows_append inserted
    rw [key] at free
    rw [from_, free] at prepared
    have found : t.preparations.find row.orderId = some record := by
      rw [← key]
      exact Table.find_of_inserted inserted
    refine ⟨unexplained, explained, ?_⟩
    rw [found, preparationRows_appended events, if_pos named.1]
    exact prepared.start valid none_ unready named.2.1 named.2.2.1 named.2.2.2
  | progressed old record event replaced events from_ held about valid more less unready named
      rejections =>
    obtain ⟨unexplained, explained⟩ := unrejected rejections (by rw [from_]; decide) (by decide)
    rw [from_, held] at prepared
    refine ⟨unexplained, explained, ?_⟩
    rw [prepared_of_replaced replaced about held, preparationRows_appended events,
      if_pos named.1]
    refine prepared.advance valid (.inl rfl) more ⟨?_, by simp [unready]⟩ named.2.1 named.2.2.1
      named.2.2.2
    simp [Int.ne_of_lt less]
  | readied old record event replaced events from_ held about valid full ready named rejections =>
    obtain ⟨unexplained, explained⟩ := unrejected rejections (by rw [from_]; decide) (by decide)
    rw [from_, held] at prepared
    refine ⟨unexplained, explained, ?_⟩
    rw [prepared_of_replaced replaced about held, preparationRows_appended events,
      if_pos named.1]
    have unfinished : old.progressPercent ≠ 100 := by
      intro complete
      have readied := (prepared.full old rfl).1.1 complete
      cases readied
    have bounded := (prepared.valid old rfl).2.1.2
    refine prepared.advance valid (.inr rfl) ?_ ⟨by simp [full], by simp [ready]⟩ named.2.1
      named.2.2.1 named.2.2.2
    rw [full]
    omega

theorem owned_of_detail (detail : MoveDetail s t row target) :
    (∀ decision ∈ t.rejections.rows, decision ∈ s.rejections.rows ∨
      decision.orderId = row.orderId) ∧
      (∀ record ∈ t.preparations.rows, record ∈ s.preparations.rows ∨
        record.orderId = row.orderId) ∧
      ∀ event ∈ t.preparationEvents, event ∈ s.preparationEvents ∨ event.orderId = row.orderId := by
  have appended {α : Type} {rows : List α} {new : α} {about : α → Prop} (named : about new) :
      ∀ other ∈ rows ++ [new], other ∈ rows ∨ about other := fun other held =>
    ((mem_appended rfl).1 held).imp_right fun (same : other = new) => same ▸ named
  have replaced {record : PreparationRecord} (about : record.orderId = row.orderId) :
      ∀ other ∈ s.preparations.replaced record,
        other ∈ s.preparations.rows ∨ other.orderId = row.orderId := by
    intro other held
    obtain ⟨rfl, _⟩ | ⟨kept, _⟩ := Table.mem_replaced.1 held
    · exact .inr about
    · exact .inl kept
  cases detail with
  | accepted _ rejections preparations events =>
    rw [rejections, preparations, events]
    exact ⟨fun _ => .inl, fun _ => .inl, fun _ => .inl⟩
  | rejected decision _ about _ rejections preparations events =>
    rw [rejections, preparations, events]
    exact ⟨appended about, fun _ => .inl, fun _ => .inl⟩
  | started record event inserted events _ about _ _ _ named rejections =>
    rw [rejections, inserted, events]
    exact ⟨fun _ => .inl, appended about, appended named.1⟩
  | progressed old record event rows events _ _ about _ _ _ _ named rejections
  | readied old record event rows events _ _ about _ _ _ named rejections =>
    rw [rejections, rows, events]
    exact ⟨fun _ => .inl, replaced about, appended named.1⟩

theorem Sound.moved (sound : Sound s) {event : OrderTimelineEvent}
    (found : s.orders.find row.orderId = some row)
    (orders : t.orders.rows =
      s.orders.replaced { row with state := target, version := row.version + 1 })
    (lines : t.lines = s.lines) (timeline : t.timeline = s.timeline ++ [event])
    (named : event.orderId = row.orderId ∧ event.fromState = some row.state ∧
      event.toState = target ∧ event.orderVersion = row.version + 1 ∧ event.Valid)
    (detail : MoveDetail s t row target) : Sound t := by
  have stays : ∀ id, (s.orders.find id).isSome = true → (t.orders.find id).isSome = true := by
    intro id present
    rw [Table.find_of_rows_replaced orders]
    split
    · rw [Option.isSome_map]
      exact present
    · exact present
  have present : (t.orders.find row.orderId).isSome = true := stays _ (by rw [found]; rfl)
  have same_lines : ∀ id, linesOf t id = linesOf s id := by
    intro id
    rw [linesOf, lines]
    rfl
  obtain ⟨ownRejections, ownPreparations, ownEvents⟩ := owned_of_detail detail
  refine ⟨fun other held => ?_, fun entry held => ?_,
    fun line held => stays _ (sound.ofLines line (lines ▸ held)), fun decision held => ?_,
    fun record held => ?_, fun entry held => ?_⟩
  · rw [orders, Table.mem_replaced] at held
    obtain ⟨rfl, _⟩ | ⟨old, apart⟩ := held
    · have recorded := sound.recorded row (Table.mem_of_find found)
      obtain ⟨rejected, explained, prepared⟩ := recorded_of_detail detail recorded
      show Recorded _ (timelineRows t row.orderId) (linesOf t row.orderId) _ _ _
      rw [timelineRows_appended timeline, if_pos named.1, same_lines]
      exact Recorded.move recorded named.2 detail.edge rejected explained prepared
    · have apart : other.orderId ≠ row.orderId := apart
      obtain ⟨rejections, preparations, events⟩ := others_of_detail detail apart
      refine (sound.recorded other old).kept ?_ (same_lines _) rejections preparations events
      rw [timelineRows_appended timeline, if_neg fun about => apart (about.symm.trans named.1),
        List.append_nil]
  · obtain old | rfl := (mem_appended timeline).1 held
    · exact stays _ (sound.ofTimeline entry old)
    · rw [named.1]
      exact present
  · obtain old | about := ownRejections decision held
    · exact stays _ (sound.ofRejections decision old)
    · rw [about]
      exact present
  · obtain old | about := ownPreparations record held
    · exact stays _ (sound.ofPreparations record old)
    · rw [about]
      exact present
  · obtain old | about := ownEvents entry held
    · exact stays _ (sound.ofEvents entry old)
    · rw [about]
      exact present

theorem sound_of_effect {allowed : Uuid → OrderState → Prop}
    (effect : OrderEffect allowed s t) (sound : Sound s) : Sound t := by
  cases effect with
  | quiet same => exact sound.of_same same
  | created value merchantVersion state version readable orders lines timeline rejections
      preparations events =>
    exact sound.created state version readable orders lines timeline rejections preparations events
  | moved row target event found orders lines timeline named detail =>
    exact sound.moved found orders lines timeline named detail

end

section

variable {store : OrderStore} {row : OrderRow}

theorem timelineOf_eq (recorded : RecordedIn store row) :
    timelineOf store row.orderId = timelineRows store row.orderId := by
  refine orderedBy_of_pairwise ?_
  have sorted : ((timelineRows store row.orderId).map
      OrderTimelineEvent.orderVersion).Pairwise (· < ·) := by
    rw [recorded.versions]
    exact List.pairwise_lt_range'
  exact (List.pairwise_map.1 sorted).imp fun less => Nat.le_of_lt less

theorem preparationEventsOf_eq (recorded : RecordedIn store row) :
    preparationEventsOf store row.orderId = preparationRows store row.orderId := by
  refine orderedBy_of_pairwise ?_
  exact (List.pairwise_map.1 recorded.prepared.counted).imp fun less => Nat.le_of_lt less

section
variable (held : row ∈ store.orders.rows) (recorded : RecordedIn store row)
include held recorded

theorem getOrder_reads :
    ∃ order, getOrder row.orderId store = .ok (some order, store) ∧ order.state = row.state := by
  have found : store.orders.find row.orderId = some row := Table.find_of_mem held
  have readable := recorded.readable
  simp only [getOrder, steps_ok, found, and_true]
  exact ⟨_, ⟨readable, rfl⟩, rfl⟩

theorem getView_reads : ∃ view, getView row.orderId store = .ok (some view, store) := by
  obtain ⟨order, reads, state⟩ := getOrder_reads held recorded
  have agrees : (order.state = .rejected) ↔ (store.rejections.find row.orderId).isSome = true := by
    rw [state]
    exact recorded.rejected.symm
  have entries : ∀ event ∈ timelineOf store row.orderId, event.Valid := by
    rw [timelineOf_eq recorded]
    exact recorded.valid
  refine ⟨⟨CanonicalOrder.safe order, timelineOf store row.orderId,
    store.rejections.find row.orderId, agrees⟩, ?_⟩
  rw [getView, bind_ok]
  refine ⟨some order, store, reads, ?_⟩
  rw [whenSome_ok]
  refine .inl ⟨order, rfl, ?_⟩
  rw [get_bind_ok, require_bind_ok, require_bind_ok, dif_pos agrees, pure_ok]
  exact ⟨entries, recorded.explained, rfl, rfl⟩

theorem getPreparationView_reads :
    ∃ view, getPreparationView row.orderId store = .ok (some view, store) := by
  obtain ⟨view, reads⟩ := getView_reads held recorded
  have events : ∀ event ∈ preparationEventsOf store row.orderId, event.Valid := by
    rw [preparationEventsOf_eq recorded]
    exact recorded.prepared.sound
  refine ⟨⟨view, store.preparations.find row.orderId, preparationEventsOf store row.orderId⟩, ?_⟩
  rw [getPreparationView, bind_ok]
  refine ⟨some view, store, reads, ?_⟩
  rw [whenSome_ok]
  refine .inl ⟨view, rfl, ?_⟩
  rw [get_bind_ok, bind_ok]
  refine ⟨store.preparations.find row.orderId, store, ?_, ?_⟩
  · rw [getRecord, get_bind_ok, require_bind_ok, pure_ok]
    exact ⟨recorded.prepared.valid, rfl, rfl⟩
  · rw [require_bind_ok, pure_ok]
    exact ⟨events, rfl, rfl⟩

theorem findOrder_reads : ∃ order, findOrder row.orderId store = .ok (some order, store) := by
  have found : store.orders.find row.orderId = some row := Table.find_of_mem held
  have readable := recorded.readable
  simp only [findOrder, steps_ok, found, and_true]
  exact ⟨_, readable, rfl⟩

theorem history_of_recorded : OrderHistory store row where
  versions := timelineOf_eq recorded ▸ recorded.versions
  path := timelineOf_eq recorded ▸ recorded.path
  rejected := recorded.rejected
  prepared := recorded.prepared.present
  increasing := preparationEventsOf_eq recorded ▸ recorded.prepared.increasing
  progress := preparationEventsOf_eq recorded ▸ recorded.prepared.last
  ready := recorded.prepared.full
  merchantReads := getView_reads held recorded
  preparationReads := getPreparationView_reads held recorded
  customerReads := findOrder_reads held recorded

end

end

theorem orderStep_sound {config : OrderConfig} (store : OrderStore) (call : OrderCall)
    (sound : Sound store) : Sound (orderStep config store call) := by
  obtain stays | ⟨answer, ran⟩ := commit_cases (call.body config) store
  · unfold orderStep
    rw [stays]
    exact sound
  · exact sound_of_effect (body_effect ran) sound

/-- In every run of creations, decisions and preparation commands, the history of every order is a
path of its states that every reader can read. -/
theorem orders_recorded_always (config : OrderConfig) (calls : List OrderCall) (n : Nat) :
    OrdersRecorded (run (orderStep config) {} (calls.take n)) := by
  have sound : Sound (run (orderStep config) {} (calls.take n)) :=
    run_invariant orderStep_sound (calls.take n) sound_empty
  exact fun row stored => history_of_recorded stored (sound.recorded row stored)

end Ayo.MerchantOrders.Histories
