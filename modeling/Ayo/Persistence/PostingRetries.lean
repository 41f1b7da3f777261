/- digest: A posting that succeeded is answered alike ever after. -/

import Ayo.FinancialControl.Effects
import Ayo.Persistence.Services
import Ayo.Refund.Effects

namespace Ayo.Persistence.PostingRetries

open Kernel.UnitOfWork Kernel.Run Kernel.KeyedTable Kernel.Ordering Core.Values Core.Authorization
open Core.Lifecycle (Follows)
open Kernel.Evolution (Extends)
open Persistence.Composition Services
open Postings.Application (PostingIds post postingPayload)
open Postings.Effects Postings.Models Postings.Repository
open Refund.Effects (RequestsEffect)
open Refund.Models (allowedRequestTransitions)
open Refund.Repository (RefundStore)
open Settlement.Effects (StoreEffect)
open Settlement.Models (SettlementBatch SettlementItem allowedBatchTransitions)
open Settlement.Repository (SettlementStore itemsOfBatch mem_itemsOfBatch)

section

/-! The states in which a source may be posted are closed under the moves of its own service. -/

private theorem approved_closed {old target : Refund.Models.RefundRequestState}
    (approved : old ∈ [.approved, .scheduled, .completed])
    (follows : Follows allowedRequestTransitions old target) :
    target ∈ [.approved, .scheduled, .completed] := by
  rcases follows with rfl | moved
  · exact approved
  · simp only [List.mem_cons, List.not_mem_nil, or_false] at approved
    rcases approved with rfl | rfl | rfl
    · simp [List.mem_singleton.1 moved]
    · simp [List.mem_singleton.1 moved]
    · cases moved

variable {id : Uuid}

theorem approved_survives {payments : Payment.Repository.PaymentStore} {s t : RefundStore}
    {call : Refund.Application.RefundCall} (effect : RequestsEffect payments s call t)
    (accepted : ∃ refund, s.requests.find id = some refund ∧
      refund.state ∈ [.approved, .scheduled, .completed]) :
    ∃ refund, t.requests.find id = some refund ∧
      refund.state ∈ [.approved, .scheduled, .completed] := by
  obtain ⟨refund, found, approved⟩ := accepted
  exact effect.evolves.find (fun moved approved => approved_closed approved moved.follows) found
    approved

def BatchPostable (store : SettlementStore) (id : Uuid) : Prop :=
  ∃ batch item, store.batches.find id = some batch ∧
    batch.state ∈ [.balanced, .readyForSettlement, .resolved] ∧
    (itemsOfBatch store batch.settlementBatchId).head? = some item

private theorem postable_of {store : SettlementStore} {batch : SettlementBatch}
    {item : SettlementItem} (found : store.batches.find id = some batch)
    (settled : batch.state ∈ [.balanced, .readyForSettlement, .resolved])
    (collected : item ∈ store.items.rows) (inBatch : item.settlementBatchId = id) :
    BatchPostable store id := by
  have named : batch.settlementBatchId = id := Table.key_of_find found
  have listed : item ∈ itemsOfBatch store batch.settlementBatchId :=
    mem_itemsOfBatch.2 ⟨collected, inBatch.trans named.symm⟩
  obtain ⟨first, rest, split⟩ := List.exists_cons_of_ne_nil (List.ne_nil_of_mem listed)
  exact ⟨batch, first, found, settled, by rw [split, List.head?_cons]⟩

theorem postable_survives {holds : FinancialControl.Repository.HoldStore} {s t : SettlementStore}
    {call : Settlement.Application.SettlementCall} (effect : StoreEffect holds s call t)
    (postable : BatchPostable s id) : BatchPostable t id := by
  obtain ⟨batch, item, found, settled, first⟩ := postable
  obtain ⟨collected, onBatch⟩ := mem_itemsOfBatch.1 (List.mem_of_head? first)
  have closed : ∀ old target, Follows allowedBatchTransitions old target →
      old ∈ [.balanced, .readyForSettlement, .resolved] →
      target ∈ [.balanced, .readyForSettlement, .resolved] := by
    intro old target
    cases old <;> cases target <;> decide
  obtain ⟨kept, stays, still⟩ := effect.batches_evolve.find
    (fun moved settled => closed _ _ moved.follows settled) found settled
  have held := effect.evidenceKept.items.find (Table.find_of_mem collected)
  exact postable_of stays still (Table.mem_of_find held) (onBatch.trans (Table.key_of_find found))

end

section

variable {config : PlatformConfig} {platform : Platform} {call : PlatformCall}
  {surroundings : Surroundings} {command : FinancialPostingCommand}

theorem payments_of_step (config : PlatformConfig) (platform : Platform) (call : PlatformCall) :
    (platformStep config platform call).payments = platform.payments ∨
      ∃ paymentCall, (platformStep config platform call).payments =
        Payment.Application.step config.payment platform.payments paymentCall := by
  obtain ⟨_, _, command⟩ := call
  cases command with
  | payment _ => exact .inr ⟨_, rfl⟩
  | _ => exact .inl rfl

private theorem refunds_of_step (config : PlatformConfig) (platform : Platform)
    (call : PlatformCall) :
    (platformStep config platform call).refunds = platform.refunds ∨
      ∃ refundCall, (platformStep config platform call).refunds =
        Refund.Application.step config.hash platform.payments platform.refunds refundCall := by
  obtain ⟨_, _, command⟩ := call
  cases command with
  | refund _ => exact .inr ⟨_, rfl⟩
  | _ => exact .inl rfl

private theorem settlements_of_step (config : PlatformConfig) (platform : Platform)
    (call : PlatformCall) :
    (platformStep config platform call).settlements = platform.settlements ∨
      ∃ settlementCall, (platformStep config platform call).settlements =
        Settlement.Application.step config.hash platform.holds platform.settlements
          settlementCall := by
  obtain ⟨_, _, command⟩ := call
  cases command with
  | settlement _ => exact .inr ⟨_, rfl⟩
  | _ => exact .inl rfl

theorem step_preserves_accepted (accepted : Accepted (financialReads platform surroundings) command) :
    Accepted (financialReads (platformStep config platform call) surroundings) command := by
  unfold Accepted at accepted ⊢
  cases source : command.sourceType with
  | completedPayment =>
    rw [source] at accepted
    obtain ⟨attempt, intent, journalId, found, captured, linked, named⟩ := accepted
    simp only [financialReads] at found linked ⊢
    rcases payments_of_step config platform call with kept | ⟨paymentCall, stepped⟩
    · rw [kept]
      exact ⟨attempt, intent, journalId, found, captured, linked, named⟩
    · rw [stepped]
      obtain ⟨attempt', found', captured', sameIntent, _⟩ :=
        Payment.Effects.step_captured_survives found
          captured
      obtain ⟨intent', linked', lineage⟩ :=
        Payment.Effects.step_intent_survives linked
      exact ⟨attempt', intent', journalId, found', captured', by rw [sameIntent, linked'],
        by rw [lineage, named]⟩
  | approvedRefund =>
    rw [source] at accepted
    simp only [financialReads] at accepted ⊢
    rcases refunds_of_step config platform call with kept | ⟨refundCall, stepped⟩
    · rwa [kept]
    · rw [stepped]
      exact approved_survives (Refund.Effects.step_effect _ _ _ _) accepted
  | settlementEvent =>
    rw [source] at accepted
    simp only [financialReads] at accepted ⊢
    rcases settlements_of_step config platform call with kept | ⟨settlementCall, stepped⟩
    · rwa [kept]
    · rw [stepped]
      exact postable_survives (Settlement.Effects.step_effect _ _ _ _) accepted
  | walletAdjustment =>
    rw [source] at accepted
    exact accepted

end

def LinesHoused (store : PostingStore) : Prop :=
  ∀ line ∈ store.lines.rows, ∃ posting ∈ store.postings.rows, posting.postingId = line.postingId

structure Answered (hash : Payload → Digest) (subject : AuthorizationSubject)
    (command : FinancialPostingCommand) (answer : FinancialPosting × List FinancialPostingLine)
    (surroundings : Surroundings) (platform : Platform) : Prop where
  accepted : Accepted (financialReads platform surroundings) command
  reserved : ReservedFor hash subject command answer.1.postingId platform.financial.postings
  found : platform.financial.postings.postings.find answer.1.postingId = some answer.1
  listed : linesOf platform.financial.postings answer.1.postingId = answer.2

section

variable {hash : Payload → Digest} {reads : FinancialReads} {subject : AuthorizationSubject}
  {command : FinancialPostingCommand} {ids : PostingIds} {s t : FinancialStore}
  {result : FinancialPosting × List FinancialPostingLine} {posting : FinancialPosting}

section
variable (ran : post hash reads subject command ids s = .ok (result, t))
include ran

theorem post_linesHoused (housed : LinesHoused s.postings) : LinesHoused t.postings := by
  cases (post_ok ran).2.2.2.2 with
  | repeated posting idempotency found kept =>
    subst kept
    exact housed
  | recorded posting lines journalId entryType account last new recorded =>
    intro line held
    rw [recorded.lineRows, List.mem_append] at held
    rw [recorded.postings]
    rcases held with old | fresh
    · obtain ⟨other, present, same⟩ := housed line old
      exact ⟨other, List.mem_append_left _ present, same⟩
    · rw [recorded.listed] at fresh
      obtain ⟨_, _, rfl⟩ := List.mem_map.1 fresh
      exact ⟨posting, by simp, rfl⟩

theorem post_extends : Extends s.postings.postings t.postings.postings ∧
      Extends s.postings.lines t.postings.lines := by
  cases (post_ok ran).2.2.2.2 with
  | repeated _ _ _ kept =>
    rw [kept]
    exact ⟨.refl, .refl⟩
  | recorded _ _ _ _ _ _ _ recorded =>
    exact ⟨.of_append recorded.postings, .of_append recorded.lineRows⟩

theorem post_keeps_lines {id : Uuid} (found : s.postings.postings.find id = some posting) :
    t.postings.postings.find id = some posting ∧ linesOf t.postings id = linesOf s.postings id := by
  cases (post_ok ran).2.2.2.2 with
  | repeated _ _ _ kept =>
    subst kept
    exact ⟨found, rfl⟩
  | recorded other lines journalId entryType account last new recorded =>
    have different : other.postingId ≠ id := by
      intro same
      have fresh := Table.find_eq_none_of_rows_append recorded.postings
      rw [show Row.key other = id from same, found] at fresh
      cases fresh
    refine ⟨by rw [Table.find_of_rows_append recorded.postings, found]; rfl, ?_⟩
    have none_added : lines.filter (fun line => line.postingId = id) = [] := by
      rw [recorded.listed]
      refine List.filter_eq_nil_iff.2 fun line mem selected => ?_
      obtain ⟨_, _, rfl⟩ := List.mem_map.1 mem
      exact different (by simpa using selected)
    rw [linesOf, recorded.lineRows, List.filter_append, none_added, List.append_nil]
    rfl

theorem post_answers (housed : LinesHoused s.postings) :
    t.postings.postings.find result.1.postingId = some result.1 ∧
      linesOf t.postings result.1.postingId = result.2 := by
  cases (post_ok ran).2.2.2.2 with
  | repeated posting idempotency found kept =>
    subst kept
    have named := Table.key_of_find found
    rw [← named] at found
    exact ⟨found, rfl⟩
  | recorded posting lines journalId entryType account last new recorded =>
    refine ⟨Table.find_of_inserted recorded.postings, ?_⟩
    have fresh : s.postings.postings.find posting.postingId = none := by
      rw [recorded.postingId]
      exact new
    have none_before : s.postings.lines.rows.filter
        (fun line => line.postingId = posting.postingId) = [] := by
      refine List.filter_eq_nil_iff.2 fun line held selected => ?_
      obtain ⟨other, present, same⟩ := housed line held
      have named : line.postingId = posting.postingId := by simpa using selected
      exact Table.find_eq_none.1 fresh other present (same.trans named)
    have all_new : lines.filter (fun line => line.postingId = posting.postingId) = lines := by
      refine List.filter_eq_self.2 fun line mem => ?_
      rw [recorded.listed] at mem
      obtain ⟨_, _, rfl⟩ := List.mem_map.1 mem
      simp
    have sorted : lines.Pairwise fun a b => a.lineIndex.1 ≤ b.lineIndex.1 := by
      rw [recorded.listed]
      exact List.pairwise_map.2 (pairwise_orderedBy _ command.lines)
    rw [linesOf, recorded.lineRows, List.filter_append, none_before, all_new, List.nil_append]
    exact orderedBy_of_pairwise sorted

end

theorem post_of_answered {lines : List FinancialPostingLine}
    (granted : reads.grants subject.identityId "financial.posting.create"
      (.utc command.occurredAt) = true)
    (service : subject.identityType = .service) (balanced : Balanced command)
    (accepted : Accepted reads command)
    (reserved : ReservedFor hash subject command posting.postingId s.postings)
    (found : s.postings.postings.find posting.postingId = some posting)
    (listed : linesOf s.postings posting.postingId = lines) :
    post hash reads subject command ids s = .ok ((posting, lines), s) := by
  obtain ⟨totals, summed⟩ := validateBalancedLines_of_balanced balanced s
  obtain ⟨traceability, traced⟩ := (lineage_ok s).2 accepted
  obtain ⟨reservation, held, sameHash, answers⟩ := reserved
  have replayed : onPostings (reserveIdempotency hash subject.identityId command.operation.1
      command.idempotencyKey.1 (postingPayload command) ids.postingId (.utc command.occurredAt))
        s = .ok (posting.postingId, s) := by
    rw [← answers]
    exact within_ok.2 ⟨s.postings, within_ok.2 ⟨s.postings.idempotency,
      reserveIdempotency_of_stored held sameHash _ _, rfl⟩, rfl⟩
  unfold post getPosting listLines
  refine requirePermission_bind_ok.2 ⟨rfl, granted, require_bind_ok.2 ⟨service, ?_⟩⟩
  refine bind_ok.2 ⟨totals, s, summed, bind_ok.2 ⟨traceability, s, traced, ?_⟩⟩
  refine bind_ok.2 ⟨posting.postingId, s, replayed, ?_⟩
  refine onPostings_read_bind_ok.2 (whenSome_ok.2 (.inl ⟨posting, found, ?_⟩))
  exact onPostings_read_bind_ok.2 (pure_ok.2 ⟨by rw [← listed]; rfl, rfl⟩)

end

theorem linesHoused_of_step (config : PlatformConfig) (platform : Platform) (call : PlatformCall)
    (housed : LinesHoused platform.financial.postings) :
    LinesHoused (platformStep config platform call).financial.postings := by
  rcases postings_of_step config platform call with kept | ⟨_, _, _, _, posted⟩
  · rwa [kept]
  · exact post_linesHoused posted housed

theorem answered_of_step {subject : AuthorizationSubject} {command : FinancialPostingCommand}
    {answer : FinancialPosting × List FinancialPostingLine} {surroundings : Surroundings}
    (config : PlatformConfig) (platform : Platform) (call : PlatformCall)
    (answered : Answered config.hash subject command answer surroundings platform) :
    Answered config.hash subject command answer surroundings
      (platformStep config platform call) := by
  obtain ⟨accepted, reserved, found, listed⟩ := answered
  have stillAccepted :
      Accepted (financialReads (platformStep config platform call) surroundings) command :=
    step_preserves_accepted accepted
  rcases postings_of_step config platform call with kept | ⟨_, _, _, _, posted⟩
  · exact ⟨stillAccepted, by rwa [kept], by rwa [kept], by rwa [kept]⟩
  · obtain ⟨reservation, held, sameHash, answers⟩ := reserved
    obtain ⟨stays, sameLines⟩ := post_keeps_lines posted found
    exact ⟨stillAccepted,
      ⟨reservation, (post_ok posted).2.2.2.1.2 _ _ held, sameHash, answers⟩, stays,
      sameLines.trans listed⟩

/-- After a successful posting and any further calls of the services, the same command of the same
subject, still permitted, returns the same posting with the same lines and changes nothing. -/
theorem post_retry_stable (config : PlatformConfig) (earlier later : List PlatformCall)
    (surroundings again : Surroundings) (subject : AuthorizationSubject)
    (command : FinancialPostingCommand) (ids retryIds : PostingIds)
    (result : FinancialPosting × List FinancialPostingLine) (after : FinancialStore)
    (posted : post config.hash
      (financialReads (run (platformStep config) {} earlier) surroundings) subject command ids
        (run (platformStep config) {} earlier).financial = .ok (result, after))
    (granted : again.grants subject.identityId "financial.posting.create"
      (.utc command.occurredAt) = true) :
    let reached := run (platformStep config)
      { run (platformStep config) {} earlier with financial := after } later
    post config.hash (financialReads reached again) subject command retryIds reached.financial =
      .ok (result, reached.financial) := by
  intro reached
  have housed : LinesHoused (run (platformStep config) {} earlier).financial.postings := by
    refine @run_invariant _ _ (platformStep config)
      (fun platform => LinesHoused platform.financial.postings) (linesHoused_of_step config) _
      earlier ?_
    intro line stored
    simp at stored
  obtain ⟨service, balanced, accepted, ⟨reserved, _⟩, _⟩ := post_ok posted
  obtain ⟨found, listed⟩ := post_answers posted housed
  have answered : Answered config.hash subject command result again reached :=
    run_invariant (answered_of_step config) later ⟨accepted, reserved, found, listed⟩
  exact post_of_answered granted service balanced answered.accepted answered.reserved
    answered.found answered.listed

theorem post_retry_after_credit : ∃ result after, postAfter capturedRide = .ok (result, after) ∧
    let reached := run (platformStep platformConfig)
      { run (platformStep platformConfig) {} capturedRide with financial := after }
      [creditEvent 300 "wallet-credit-00001" 901 500]
    post platformConfig.hash (financialReads reached surroundings) ⟨9, .service⟩ postingAt450
      (idsFrom 800) reached.financial = .ok (result, reached.financial) := by
  have posts : (postAfter capturedRide).isOk = true := by decide +kernel
  obtain ⟨⟨result, after⟩, success⟩ := exists_of_isOk posts
  exact ⟨result, after, success,
    post_retry_stable platformConfig capturedRide
      [creditEvent 300 "wallet-credit-00001" 901 500] surroundings surroundings ⟨9, .service⟩
      postingAt450 (idsFrom 700) (idsFrom 800) result after success rfl⟩

end Ayo.Persistence.PostingRetries

/-! What the services do to their rows, in any order of calls. -/

namespace Ayo.Persistence.Progress

open Kernel.UnitOfWork Kernel.Run Kernel.KeyedTable Kernel.Evolution
open FinancialControl.Effects (HoldStep)
open Ledger.Lineage (LedgerEffect)
open Payment.Effects (AttemptStep IntentStep step_attempts_evolve step_intents_evolve)
open PostingRetries Refund.Effects Services
open Settlement.Effects (BatchStep EvidenceKept)
open Persistence.Composition (FinancialStore)

private theorem holds_of_step (config : PlatformConfig) (platform : Platform)
    (call : PlatformCall) :
    (platformStep config platform call).holds = platform.holds ∨
      ∃ input, (platformStep config platform call).holds =
        FinancialControl.Effects.holdStep config.hash platform.holds input := by
  obtain ⟨_, _, command⟩ := call
  cases command with
  | hold _ => exact .inr ⟨(platform.settlements, _), rfl⟩
  | _ => exact .inl rfl

private theorem ledger_of_step (config : PlatformConfig) (platform : Platform)
    (call : PlatformCall) :
    LedgerEffect (fun _ => True) platform.financial.ledger
      (platformStep config platform call).financial.ledger := by
  obtain ⟨surroundings, _, command⟩ := call
  cases command with
  | post | settle | postCash | clearCash | addBook | addAccount =>
    exact (BookIsolation.step_effect platform.financial _).imp fun _ _ => trivial
  | postJournal journal =>
    refine commit_related (R := fun s t : FinancialStore =>
      LedgerEffect (fun _ => True) s.ledger t.ledger) _ _ (.of_eq rfl) fun result t ran => ?_
    obtain ⟨ledger, posted, rfl⟩ := Composition.onLedger_ok.1 ran
    exact .of_posted trivial (Ledger.Repository.postJournal_ok posted).2
  | _ => exact .of_eq rfl

/-- A payment keeps what it is about and moves along its graph; so does a refund. -/
structure Progresses (s t : Platform) : Prop where
  attempts : Evolves AttemptStep s.payments.attempts t.payments.attempts
  intents : Evolves IntentStep s.payments.intents t.payments.intents
  requests : Evolves RequestStep s.refunds.requests t.refunds.requests
  batches : Evolves BatchStep s.settlements.batches t.settlements.batches
  holds : Evolves HoldStep s.holds.holds t.holds.holds
  wallets : Evolves (fun current changed => changed.ownerIdentityId = current.ownerIdentityId)
    s.financial.wallets.accounts t.financial.wallets.accounts

/-- What was posted, entered or recorded once is there unchanged. -/
structure Records (s t : Platform) : Prop where
  journals : Extends s.financial.ledger.journals t.financial.ledger.journals
  journalEntries : Extends s.financial.ledger.entries t.financial.ledger.entries
  walletEntries : Extends s.financial.wallets.entries t.financial.wallets.entries
  postings : Extends s.financial.postings.postings t.financial.postings.postings
  lines : Extends s.financial.postings.lines t.financial.postings.lines
  settlement : EvidenceKept s.settlements t.settlements
  holdHistory : Extends s.holds.history t.holds.history

theorem step_progresses (config : PlatformConfig) (platform : Platform) (call : PlatformCall) :
    Progresses platform (platformStep config platform call) where
  attempts := by
    rcases payments_of_step config platform call with kept | ⟨_, stepped⟩
    · exact .of_eq (congrArg (·.attempts) kept)
    · rw [stepped]
      exact step_attempts_evolve _ _ _
  intents := by
    rcases payments_of_step config platform call with kept | ⟨_, stepped⟩
    · exact .of_eq (congrArg (·.intents) kept)
    · rw [stepped]
      exact step_intents_evolve _ _ _
  requests := by
    rcases refunds_of_step config platform call with kept | ⟨_, stepped⟩
    · exact .of_eq (congrArg (·.requests) kept)
    · rw [stepped]
      exact (Refund.Effects.step_effect _ _ _ _).evolves
  batches := by
    rcases settlements_of_step config platform call with kept | ⟨_, stepped⟩
    · exact .of_eq (congrArg (·.batches) kept)
    · rw [stepped]
      exact (Settlement.Effects.step_effect _ _ _ _).batches_evolve
  holds := by
    rcases holds_of_step config platform call with kept | ⟨_, stepped⟩
    · exact .of_eq (congrArg (·.holds) kept)
    · rw [stepped]
      exact (FinancialControl.Effects.step_effect _ _ _).1.evolves.1
  wallets := by
    rcases wallets_of_step config platform call with kept | ⟨_, _, _, _, consumed⟩
    · exact .of_eq (congrArg (·.accounts) kept)
    · exact (Wallet.Effects.consumeAuthoritativeEvent_extends consumed).1

/-- In any order of calls, payments, refunds, batches and holds move along their graphs only, an
attempt keeps its intent, provider and amount, a refund its attempt and amount, a batch its creator
and a wallet its owner, and none of them disappears. -/
theorem services_progress (config : PlatformConfig) (platform : Platform)
    (calls : List PlatformCall) : Progresses platform (run (platformStep config) platform calls) :=
  run_related (R := Progresses) (fun _ => ⟨.refl, .refl, .refl, .refl, .refl, .refl⟩)
    (fun early late => ⟨early.1.trans late.1, early.2.trans late.2, early.3.trans late.3,
      early.4.trans late.4, early.5.trans late.5, early.6.trans late.6⟩)
    (step_progresses config) platform calls

theorem step_records (config : PlatformConfig) (platform : Platform) (call : PlatformCall) :
    Records platform (platformStep config platform call) where
  journals := (ledger_of_step config platform call).extends.1
  journalEntries := (ledger_of_step config platform call).extends.2
  walletEntries := by
    rcases wallets_of_step config platform call with kept | ⟨_, _, _, _, consumed⟩
    · exact .of_eq (congrArg (·.entries) kept)
    · exact (Wallet.Effects.consumeAuthoritativeEvent_extends consumed).2
  postings := by
    rcases postings_of_step config platform call with kept | ⟨_, _, _, _, posted⟩
    · exact .of_eq (congrArg (·.postings) kept)
    · exact (post_extends posted).1
  lines := by
    rcases postings_of_step config platform call with kept | ⟨_, _, _, _, posted⟩
    · exact .of_eq (congrArg (·.lines) kept)
    · exact (post_extends posted).2
  settlement := by
    rcases settlements_of_step config platform call with kept | ⟨_, stepped⟩
    · rw [kept]
      exact ⟨.refl, .refl, .refl, .refl⟩
    · rw [stepped]
      exact (Settlement.Effects.step_effect _ _ _ _).evidenceKept
  holdHistory := by
    rcases holds_of_step config platform call with kept | ⟨_, stepped⟩
    · exact .of_eq (congrArg (·.history) kept)
    · rw [stepped]
      exact (FinancialControl.Effects.step_effect _ _ _).1.evolves.2

/-- In any order of calls no journal, entry, posting, posting line, settlement item, reconciliation
record, exception, approval or step of a hold is ever changed or taken back. -/
theorem records_permanent (config : PlatformConfig) (platform : Platform)
    (calls : List PlatformCall) : Records platform (run (platformStep config) platform calls) := by
  refine run_related (R := Records) (fun _ => ⟨.refl, .refl, .refl, .refl, .refl,
    ⟨.refl, .refl, .refl, .refl⟩, .refl⟩) (fun early late => ?_) (step_records config) platform calls
  have ⟨items, records, exceptions, approvals⟩ := early.settlement
  have ⟨later, reconciled, raised, decided⟩ := late.settlement
  exact ⟨early.1.trans late.1, early.2.trans late.2, early.3.trans late.3, early.4.trans late.4,
    early.5.trans late.5, ⟨items.trans later, records.trans reconciled, exceptions.trans raised,
      approvals.trans decided⟩, early.7.trans late.7⟩

end Ayo.Persistence.Progress
