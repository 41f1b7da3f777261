/- digest: Accepted evidence in every run: read back, lineage, and sources in force. -/

import Ayo.Kernel.Run
import Ayo.RequestAccess.Effects

namespace Ayo.RequestAccess.Provenance

open Kernel.UnitOfWork Kernel.KeyedTable Kernel.Run Models Repository Service Effects

structure Founded (store : RequestAccessStore) (earlier : List ProvenanceRow)
    (row : ProvenanceRow) (record : InteractionProvenanceRecord) : Prop where
  stored : rowOf record = row
  dropped : record.continuityReference = none
  adapter : ∃ adapter ∈ store.adapters.rows, adapter.adapterId = record.adapterId ∧
    Registered record.toInteractionTerms adapter
  continuation : record.purpose = .continuation → ∃ reference ∈ store.continuity.rows,
    record.continuityId = some reference.continuityId ∧
      Continues record.toInteractionTerms record.acceptedAt reference
  correction : record.purpose = .correction → ∃ superseded : InteractionProvenanceRecord,
    rowOf superseded ∈ earlier ∧ superseded.continuityReference = none ∧
      record.supersedesProvenanceId = some superseded.provenanceId ∧
      superseded.toInteractionTerms.SameTarget record.toInteractionTerms
  superseding : ∀ named ∈ record.supersedesProvenanceId,
    named = record.provenanceId ∨ ∃ other ∈ earlier, other.provenanceId = named

def Evidence (store : RequestAccessStore) : Prop :=
  ∀ earlier row later, store.provenance.rows = earlier ++ row :: later →
    ∃ record, Founded store earlier row record

section

variable {store : RequestAccessStore} {record : InteractionProvenanceRecord}

theorem Evidence.of_mem (evidence : Evidence store) {row : ProvenanceRow}
    (mem : row ∈ store.provenance.rows) :
    ∃ earlier later record, store.provenance.rows = earlier ++ row :: later ∧
      Founded store earlier row record := by
  obtain ⟨earlier, later, placed⟩ := List.append_of_mem mem
  obtain ⟨record, founded⟩ := evidence earlier row later placed
  exact ⟨earlier, later, record, placed, founded⟩

theorem reads_of_row (dropped : record.continuityReference = none)
    (mem : rowOf record ∈ store.provenance.rows) : Reads store record := by
  have found : store.provenance.find record.provenanceId = some (rowOf record) :=
    Table.find_of_mem mem
  exact reads_iff_row.2 ⟨_, found, recordFromRow_rowOf dropped⟩

theorem Evidence.founded_of_reads (evidence : Evidence store) (reads : Reads store record) :
    ∃ earlier later, store.provenance.rows = earlier ++ rowOf record :: later ∧
      Founded store earlier (rowOf record) record := by
  obtain ⟨row, found, read⟩ := reads_iff_row.1 reads
  obtain ⟨earlier, later, original, placed, founded⟩ := evidence.of_mem (Table.mem_of_find found)
  have back : recordFromRow row = some original :=
    founded.stored ▸ recordFromRow_rowOf founded.dropped
  obtain rfl : original = record := Option.mem_unique back read
  have same := founded.stored
  subst same
  exact ⟨earlier, later, placed, founded⟩

theorem Evidence.mem_of_reads (evidence : Evidence store) (reads : Reads store record) :
    rowOf record ∈ store.provenance.rows ∧ record.continuityReference = none := by
  obtain ⟨earlier, later, placed, founded⟩ := evidence.founded_of_reads reads
  refine ⟨?_, founded.dropped⟩
  rw [placed]
  exact List.mem_append_right _ List.mem_cons_self

end

section

variable {s t : RequestAccessStore} {record : InteractionProvenanceRecord}

theorem Founded.of_grows {earlier : List ProvenanceRow} {row : ProvenanceRow}
    (founded : Founded s earlier row record) (grows : Grows s t) :
    Founded t earlier row record := by
  refine { founded with adapter := ?_, continuation := ?_ }
  · obtain ⟨adapter, mem, registered⟩ := founded.adapter
    exact ⟨adapter, grows.1.subset mem, registered⟩
  · intro purpose
    obtain ⟨reference, mem, continues⟩ := founded.continuation purpose
    exact ⟨reference, grows.2.1.subset mem, continues⟩

theorem Evidence.of_quiet (evidence : Evidence s) (quiet : Quiet s t) : Evidence t := by
  intro earlier row later placed
  rw [quiet.2.2] at placed
  obtain ⟨record, founded⟩ := evidence earlier row later placed
  exact ⟨record, founded.of_grows quiet.grows⟩

theorem founded_of_supported {directory : Directory} (evidence : Evidence s)
    (supported : Supported s record) (dropped : record.continuityReference = none)
    (references : References directory s (rowOf record)) :
    Founded s s.provenance.rows (rowOf record) record := by
  refine ⟨rfl, dropped, supported.adapter, supported.continuation, ?_, ?_⟩
  · intro purpose
    obtain ⟨superseded, reads, named, same⟩ := supported.correction purpose
    obtain ⟨mem, without⟩ := evidence.mem_of_reads reads
    exact ⟨superseded, mem, without, named, same⟩
  · obtain ⟨-, -, -, -, -, -, -, -, -, -, superseding⟩ := references
    exact superseding

theorem Evidence.added (evidence : Evidence s)
    (founded : Founded s s.provenance.rows (rowOf record) record) (grows : Grows s t)
    (rows : t.provenance.rows = s.provenance.rows ++ [rowOf record]) : Evidence t := by
  intro earlier row later placed
  rw [rows] at placed
  rcases List.eq_nil_or_concat' later with rfl | ⟨middle, last, rfl⟩
  · obtain ⟨rfl, same⟩ := List.append_inj' placed rfl
    obtain rfl : rowOf record = row := by simpa using same
    exact ⟨record, founded.of_grows grows⟩
  · have placed : s.provenance.rows ++ [rowOf record] = (earlier ++ row :: middle) ++ [last] := by
      rw [placed, List.append_assoc, List.cons_append]
    obtain ⟨before', -⟩ := List.append_inj' placed rfl
    obtain ⟨other, founded⟩ := evidence earlier row middle before'
    exact ⟨other, founded.of_grows grows⟩

variable (config : AccessConfig)

theorem step_cases (state : AccessState) (input : Call × Command) :
    Quiet state.store (step config state input).store ∨
      ∃ envelope record, input.2 = .recordAcceptedInteraction envelope ∧
        recordAcceptedInteraction config input.1 envelope state =
          .ok (record, step config state input) ∧
        Supported state.store record ∧ record.continuityReference = none ∧
        record.acceptedAt = input.1.time.instant ∧
        References input.1.directory state.store (rowOf record) ∧
        Grows state.store (step config state input).store ∧
        (step config state input).store.provenance.rows =
          state.store.provenance.rows ++ [rowOf record] := by
  obtain ⟨call, command⟩ := input
  cases command with
  | registerAdapter command =>
    left
    exact (registerAdapter_quietStore).commit state
  | declareCapability command expected =>
    left
    exact (declareCapability_quietStore).commit state
  | issueContinuityReference request =>
    left
    exact (issueContinuityReference_quietStore).commit state
  | recordAcceptedInteraction envelope =>
    change Quiet state.store (commit (recordAcceptedInteraction config call envelope) state).store ∨
      _
    rcases commit_cases (recordAcceptedInteraction config call envelope) state with
      stays | ⟨record, ran⟩
    · left
      rw [stays]
      exact Quiet.refl _
    · rcases recordAcceptedInteraction_ok ran with ⟨-, same⟩ |
        ⟨supported, dropped, accepted, references, rows, adapters, continuity⟩
      · left
        rw [same]
        exact Quiet.refl _
      · right
        refine ⟨envelope, record, rfl, ran, supported, dropped, accepted, references, ?_, rows⟩
        refine ⟨adapters ▸ List.prefix_rfl, continuity ▸ List.prefix_rfl, ?_⟩
        exact rows ▸ List.prefix_append _ _

theorem step_grows (state : AccessState) (input : Call × Command) :
    Grows state.store (step config state input).store := by
  rcases step_cases config state input with quiet | ⟨-, -, -, -, -, -, -, -, grows, -⟩
  · exact quiet.grows
  · exact grows

theorem step_evidence (state : AccessState) (input : Call × Command)
    (evidence : Evidence state.store) : Evidence (step config state input).store := by
  rcases step_cases config state input with quiet |
    ⟨envelope, record, -, -, supported, dropped, -, references, grows, rows⟩
  · exact evidence.of_quiet quiet
  · have founded := founded_of_supported evidence supported dropped references
    exact evidence.added founded grows rows

theorem run_grows (state : AccessState) (inputs : List (Call × Command)) {n m : Nat} (le : n ≤ m) :
    Grows (run (step config) state (inputs.take n)).store
      (run (step config) state (inputs.take m)).store := by
  let R : AccessState → AccessState → Prop := fun s t => Grows s.store t.store
  have refl : ∀ state, R state state := fun state => Grows.refl state.store
  have trans : ∀ {first second third}, R first second → R second third → R first third :=
    fun earlier later => Grows.trans earlier later
  exact run_take_related refl trans (step_grows config) state inputs le

theorem run_evidence (inputs : List (Call × Command)) :
    Evidence (run (step config) .empty inputs).store := by
  refine run_invariant (step_evidence config) inputs ?_
  intro earlier row later placed
  cases earlier <;> cases placed

end

section

def Supersedes (store : RequestAccessStore) (superseded record : InteractionProvenanceRecord) :
    Prop :=
  Reads store superseded ∧ Reads store record ∧
    record.supersedesProvenanceId = some superseded.provenanceId ∧
    superseded.provenanceId ≠ record.provenanceId

structure Lawful (store : RequestAccessStore) : Prop where
  every_row_read : ∀ row ∈ store.provenance.rows, ∃ record, rowOf record = row ∧ Reads store record
  single_initiation : ∀ first second, Reads store first → Reads store second →
    first.purpose = .initiation → second.purpose = .initiation →
    first.toInteractionTerms.SameTarget second.toInteractionTerms → first = second
  continuation_unexpired : ∀ record, Reads store record → record.purpose = .continuation →
    ∃ reference ∈ store.continuity.rows, record.continuityId = some reference.continuityId ∧
      Continues record.toInteractionTerms record.acceptedAt reference
  correction_of_earlier : ∀ record, Reads store record → record.purpose = .correction →
    ∃ superseded earlier later, Supersedes store superseded record ∧
      superseded.toInteractionTerms.SameTarget record.toInteractionTerms ∧
      store.provenance.rows = earlier ++ rowOf record :: later ∧ rowOf superseded ∈ earlier
  chains_finite : WellFounded (Supersedes store)

/-- What a call recorded can be read ever after. -/
def ReadBack (config : AccessConfig) (inputs : List (Call × Command)) : Prop :=
  ∀ n m call envelope record after, inputs[n]? = some (call, .recordAcceptedInteraction envelope) →
    recordAcceptedInteraction config call envelope
      (run (step config) .empty (inputs.take n)) = .ok (record, after) →
    n < m → Reads (run (step config) .empty (inputs.take m)).store record

/-- Every record at the end of a run was returned by a call whose time is the time of the record,
from a state that supports it. -/
def AcceptedInForce (config : AccessConfig) (inputs : List (Call × Command)) : Prop :=
  ∀ record, Reads (run (step config) .empty inputs).store record →
    ∃ n call envelope, inputs[n]? = some (call, .recordAcceptedInteraction envelope) ∧
      recordAcceptedInteraction config call envelope (run (step config) .empty (inputs.take n)) =
          .ok (record, run (step config) .empty (inputs.take (n + 1))) ∧
      record.acceptedAt = call.time.instant ∧
      Supported (run (step config) .empty (inputs.take n)).store record

variable {store : RequestAccessStore} {config : AccessConfig} {inputs : List (Call × Command)}

private theorem rows_apart {earlier later : List ProvenanceRow} {row other : ProvenanceRow}
    (placed : store.provenance.rows = earlier ++ row :: later) (placedBefore : other ∈ earlier) :
    other.provenanceId ≠ row.provenanceId := by
  have distinct : (store.provenance.rows.map ProvenanceRow.provenanceId).Nodup :=
    store.provenance.keys_nodup
  rw [placed, List.map_append, List.map_cons, List.nodup_append] at distinct
  obtain ⟨-, -, apart⟩ := distinct
  exact apart _ (List.mem_map_of_mem placedBefore) _ List.mem_cons_self

private theorem position_lt {earlier later : List ProvenanceRow} {row other : ProvenanceRow}
    (placed : store.provenance.rows = earlier ++ row :: later) (placedBefore : other ∈ earlier) :
    (store.provenance.rows.map ProvenanceRow.provenanceId).idxOf other.provenanceId <
      (store.provenance.rows.map ProvenanceRow.provenanceId).idxOf row.provenanceId := by
  have mem : other.provenanceId ∈ earlier.map ProvenanceRow.provenanceId :=
    List.mem_map_of_mem placedBefore
  have absent : row.provenanceId ∉ earlier.map ProvenanceRow.provenanceId := by
    intro again
    obtain ⟨same, found, equal⟩ := List.mem_map.1 again
    exact rows_apart placed found equal
  rw [placed, List.map_append, List.map_cons, List.idxOf_append_of_mem mem,
    List.idxOf_append_of_notMem absent, List.idxOf_cons_self, Nat.add_zero]
  exact List.idxOf_lt_length_of_mem mem

theorem Evidence.lawful (evidence : Evidence store) : Lawful store where
  every_row_read := by
    intro row mem
    obtain ⟨earlier, later, record, -, founded⟩ := evidence.of_mem mem
    have same := founded.stored
    subst same
    exact ⟨record, rfl, reads_of_row founded.dropped mem⟩
  single_initiation := by
    intro first second readsFirst readsSecond purposeFirst purposeSecond same
    obtain ⟨memberFirst, droppedFirst⟩ := evidence.mem_of_reads readsFirst
    obtain ⟨memberSecond, droppedSecond⟩ := evidence.mem_of_reads readsSecond
    have initiation : (rowOf first).SameInitiation (rowOf second) := by
      refine ⟨congrArg ProvenancePurpose.value purposeFirst,
        congrArg ProvenancePurpose.value purposeSecond, ?_, ?_, ?_⟩
      · exact congrArg Subtype.val same.1
      · exact congrArg Subtype.val same.2.1
      · exact congrArg Subtype.val same.2.2
    have rows : rowOf first = rowOf second :=
      store.provenance.eq_of_clash memberFirst memberSecond (.inr (.inr initiation))
    have read := recordFromRow_rowOf droppedFirst
    rw [rows, recordFromRow_rowOf droppedSecond] at read
    exact (Option.some.inj read).symm
  continuation_unexpired := by
    intro record reads purpose
    obtain ⟨earlier, later, -, founded⟩ := evidence.founded_of_reads reads
    exact founded.continuation purpose
  correction_of_earlier := by
    intro record reads purpose
    obtain ⟨earlier, later, placed, founded⟩ := evidence.founded_of_reads reads
    obtain ⟨superseded, before, dropped, named, same⟩ := founded.correction purpose
    have mem : rowOf superseded ∈ store.provenance.rows := by
      rw [placed]
      exact List.mem_append_left _ before
    refine ⟨superseded, earlier, later, ⟨?_, reads, named, ?_⟩, same, placed, before⟩
    · exact reads_of_row dropped mem
    · exact rows_apart placed before
  chains_finite := by
    -- A superseded record stands before the record, so the positions of the rows decrease.
    let position : InteractionProvenanceRecord → Nat := fun record =>
      (store.provenance.rows.map ProvenanceRow.provenanceId).idxOf record.provenanceId
    refine Subrelation.wf ?_ (measure position).wf
    rintro superseded record ⟨-, reads, named, apart⟩
    obtain ⟨earlier, later, placed, founded⟩ := evidence.founded_of_reads reads
    rcases founded.superseding _ named with itself | ⟨other, before, same⟩
    · exact absurd itself apart
    · have lower := position_lt placed before
      rw [same] at lower
      exact lower

theorem read_back : ReadBack config inputs := by
  intro n m call envelope record t taken ran later
  have committed : run (step config) .empty (inputs.take (n + 1)) = t := by
    rw [run_take_succ taken]
    exact commit_of_ok ran
  have reads : Reads (run (step config) .empty (inputs.take (n + 1))).store record := by
    rw [committed]
    rcases recordAcceptedInteraction_ok ran with ⟨reads, same⟩ | ⟨-, dropped, -, -, rows, -⟩
    · rw [same]
      exact reads
    · refine reads_of_row dropped ?_
      rw [rows]
      exact List.mem_append_right _ (List.mem_singleton_self _)
  exact reads.of_grows (run_grows config .empty inputs later)

theorem accepted_in_force : AcceptedInForce config inputs := by
  induction inputs using List.reverseRecOn with
  | nil =>
    intro record reads
    obtain ⟨row, found, -⟩ := reads_iff_row.1 reads
    cases Table.mem_of_find found
  | append_singleton inputs input ih =>
    intro record reads
    have earlier : ∀ k ≤ inputs.length, (inputs ++ [input]).take k = inputs.take k :=
      fun k bound => List.take_append_of_le_length bound
    -- A record that the last call did not add was read before it.
    have known : Reads (run (step config) .empty inputs).store record → ∃ n call envelope,
        (inputs ++ [input])[n]? = some (call, .recordAcceptedInteraction envelope) ∧
          recordAcceptedInteraction config call envelope
            (run (step config) .empty ((inputs ++ [input]).take n)) =
              .ok (record, run (step config) .empty ((inputs ++ [input]).take (n + 1))) ∧
          record.acceptedAt = call.time.instant ∧
          Supported (run (step config) .empty ((inputs ++ [input]).take n)).store record := by
      intro readBefore
      obtain ⟨n, call, envelope, taken, returned, accepted, supported⟩ := ih record readBefore
      have bound : n < inputs.length := (List.getElem?_eq_some_iff.1 taken).1
      refine ⟨n, call, envelope, ?_, ?_, accepted, ?_⟩
      · rw [List.getElem?_append_left bound, taken]
      · rw [earlier n (Nat.le_of_lt bound), earlier (n + 1) bound]
        exact returned
      · rw [earlier n (Nat.le_of_lt bound)]
        exact supported
    have last : run (step config) .empty (inputs ++ [input]) =
        step config (run (step config) .empty inputs) input := run_append _ _ _
    rw [last] at reads
    rcases step_cases config (run (step config) .empty inputs) input with quiet |
      ⟨envelope, added, command, returned, supported, dropped, accepted, references, grows, rows⟩
    · apply known
      obtain ⟨row, found, read⟩ := reads_iff_row.1 reads
      exact reads_iff_row.2 ⟨row, quiet.2.2 ▸ found, read⟩
    · have evidence := run_evidence config (inputs ++ [input])
      rw [last] at evidence
      obtain ⟨mem, without⟩ := evidence.mem_of_reads reads
      rw [rows] at mem
      rcases List.mem_append.1 mem with old | new
      · exact known (reads_of_row without old)
      · have same : rowOf record = rowOf added := List.mem_singleton.1 new
        have read := recordFromRow_rowOf without
        rw [same, recordFromRow_rowOf dropped] at read
        obtain rfl : added = record := Option.some.inj read
        refine ⟨inputs.length, input.1, envelope, ?_, ?_, accepted, ?_⟩
        · rw [List.getElem?_append_right (Nat.le_refl _), Nat.sub_self, ← command]
          rfl
        · rw [earlier _ (Nat.le_refl _), List.take_length,
            List.take_of_length_le (by rw [List.length_append, List.length_singleton]), last]
          exact returned
        · rw [earlier _ (Nat.le_refl _), List.take_length]
          exact supported

/-- In every run, stored interactions are lawful, every record that a call returned is read back
as it was returned, and every record was accepted with its adapter and capability in force. -/
theorem accepted_evidence_founded (config : AccessConfig) (inputs : List (Call × Command)) :
    Lawful (run (step config) .empty inputs).store ∧ ReadBack config inputs ∧
      AcceptedInForce config inputs := by
  refine ⟨?_, read_back, accepted_in_force⟩
  exact (run_evidence config inputs).lawful

end

end Ayo.RequestAccess.Provenance
