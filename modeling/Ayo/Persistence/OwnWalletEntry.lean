/- digest: When a posting or a settled trip names the wallet entry of its own call. -/

import Ayo.Persistence.Services
import Ayo.Wallet.Replay

namespace Ayo.Persistence.OwnWalletEntry

open Kernel.UnitOfWork Kernel.Run Kernel.KeyedTable Kernel.Ordering Core.Values Core.Authorization
  Persistence.Composition Services
open PostTrip.Models (PostTripRecord)
open PostTrip.Settlement (SettlementConfig SettleRequest settle)
open PostTrip.SettlementEffects
open Postings.Application (PostingIds post)
open Postings.Effects
open Postings.Models (FinancialPosting FinancialPostingCommand FinancialPostingLine)
open Rides.Models (ActiveRide)
open Wallet.Application (ConsumeRequest WalletReads consumeAuthoritativeEvent)
open Wallet.Effects Wallet.Models
open Wallet.Replay (entryKey)
open Wallet.Repository (WalletStore lineageOf)

def CreatedAs (s t : WalletStore) (walletEntryId : Uuid) : Prop :=
  ∃ entry, t.entries.rows = s.entries.rows ++ [entry] ∧ walletEntryId = entry.walletEntryId

/-- Every posting that a call records names the wallet entry that the call creates. -/
def PostingNamesOwnEntry (s t : FinancialStore) : Prop :=
  ∀ posting ∈ t.postings.postings.rows, s.postings.postings.find posting.postingId = none →
      CreatedAs s.wallets t.wallets posting.walletEntryId

/-- The record of a digitally paid trip that a call settles names the wallet entry that the call
creates. -/
def RecordNamesOwnEntry (rideId : Uuid) (s t : FinancialStore) : Prop :=
  Unsettled s.postTrip rideId → PaidDigitally s.postTrip rideId →
    ∃ record ∈ t.postTrip.records.find rideId, ∃ walletEntryId ∈ record.walletEntryId,
      CreatedAs s.wallets t.wallets walletEntryId

def EntersAsLast (wallets : WalletStore) (subject : AuthorizationSubject) (owner : Uuid)
    (key : String) (candidateId : Uuid) (time : Instant) : Prop :=
  let entryId := canonicalReference wallets.idempotency subject.identityId "wallet.event.consume"
    key candidateId
  wallets.entries.find entryId = none ∧
    ∀ account ∈ accountOf wallets owner, ∀ entry ∈ wallets.entries.rows,
      entry.walletAccountId = account.walletAccountId → entryKey entry < toLex (time, entryId)
deriving Decidable

/-- When a new posting of the wallet names its own entry. -/
def PostingEntersAsLast (store : FinancialStore) (subject : AuthorizationSubject)
    (command : FinancialPostingCommand) (ids : PostingIds) : Prop :=
  store.postings.postings.find (canonicalPostingId store.postings subject command ids) = none →
    EntersAsLast store.wallets subject command.walletOwnerIdentityId
      ("wallet:" ++ command.operation.1 ++ ":" ++ command.idempotencyKey.1) ids.walletEntryId
      command.occurredAt
deriving Decidable

/-- When a command that settles a digitally paid trip names its own entry. -/
def SettlementEntersAsLast (rides : Rides.Models.ActiveRides) (store : FinancialStore)
    (subject : AuthorizationSubject) (request : SettleRequest) : Prop :=
  Unsettled store.postTrip request.rideId → PaidDigitally store.postTrip request.rideId →
    ∀ driverId ∈ (rides request.rideId).bind ActiveRide.driverId,
      EntersAsLast store.wallets subject driverId ("wallet:" ++ request.idempotencyKey)
        request.walletEntryId request.time.instant

section

variable {hash : Payload → Digest} {reads : WalletReads} {subject : AuthorizationSubject}
  {request : ConsumeRequest} {s t : WalletStore} {account : WalletAccount}
  {last : WalletLineageEntry}

private theorem entries_of_written {entry : WalletLineageEntry} {current : WalletAccount}
    (written : Written subject request s t entry current account)
    (ends : (lineageOf t account.walletAccountId).getLast? = some last) :
    CreatedAs s t last.walletEntryId ↔
      ∀ other ∈ s.entries.rows, other.walletAccountId = current.walletAccountId →
        entryKey other < entryKey entry := by
  have apart : ∀ other ∈ s.entries.rows, other.walletEntryId ≠ entry.walletEntryId :=
    Table.find_eq_none.1 (Table.find_eq_none_of_rows_append written.entries)
  have listed : lineageOf t account.walletAccountId = orderedBy entryKey
      ((s.entries.rows.filter fun other =>
        other.walletAccountId = current.walletAccountId) ++ [entry]) := by
    rw [lineageOf, written.entries, List.filter_append, written.id]
    simp only [List.filter_singleton, written.accountId, decide_true]
    rfl
  rw [listed] at ends
  have keyApart : ∀ other ∈ s.entries.rows.filter (fun other =>
      other.walletAccountId = current.walletAccountId), entryKey other ≠ entryKey entry := by
    intro other mem same
    have ids : other.walletEntryId = entry.walletEntryId :=
      congrArg (fun key => (ofLex key).2) same
    exact apart other (List.mem_of_mem_filter mem) ids
  have lastIff := getLast?_orderedBy_append keyApart
  constructor
  · rintro ⟨created, rows, named⟩ other held onAccount
    have same : created = entry := by
      have both := rows.symm.trans written.entries
      simpa using both
    have isLast : last = entry := by
      have held : last ∈ t.entries.rows := by
        have mem := (le_of_getLast?_orderedBy ends).1
        rw [written.entries]
        rcases List.mem_append.1 mem with old | new
        · exact List.mem_append_left _ (List.mem_of_mem_filter old)
        · exact List.mem_append_right _ new
      have entryStored : entry ∈ t.entries.rows := by simp [written.entries]
      exact t.entries.eq_of_key held entryStored (named.trans (congrArg _ same))
    rw [isLast] at ends
    exact lastIff.1 ends other (List.mem_filter.2 ⟨held, by simpa using onAccount⟩)
  · intro below
    have entryLast := lastIff.2 fun other mem => by
      obtain ⟨held, onAccount⟩ := List.mem_filter.1 mem
      exact below other held (by simpa using onAccount)
    rw [ends] at entryLast
    exact ⟨entry, written.entries, congrArg _ (Option.some.inj entryLast)⟩

theorem createdAs_last_iff (housed : Housed s)
    (consumed : consumeAuthoritativeEvent hash reads subject request s = .ok (account, t))
    (ends : (lineageOf t account.walletAccountId).getLast? = some last) :
    CreatedAs s t last.walletEntryId ↔
      EntersAsLast s subject request.ownerIdentityId request.idempotencyKey
        request.candidateId request.time.instant := by
  obtain ⟨between, reservations, opening, happened⟩ := consumeAuthoritativeEvent_effect consumed
  have entries : between.entries = s.entries := by
    rcases opening with rfl | ⟨_, _, opened⟩
    · rfl
    · exact opened.entries
  have sameId : canonicalEntryId between subject request =
      canonicalReference s.idempotency subject.identityId "wallet.event.consume"
        request.idempotencyKey request.candidateId := by
    rw [canonicalEntryId, reservations]
  cases happened with
  | repeated entry held owned accounts kept =>
    constructor
    · rintro ⟨created, rows, _⟩
      rw [kept, entries] at rows
      simp at rows
    · rintro ⟨free, _⟩
      rw [entries, sameId, free] at held
      cases held
  | entered entry old admitted written =>
    have free : s.entries.find (canonicalReference s.idempotency subject.identityId
        "wallet.event.consume" request.idempotencyKey request.candidateId) = none := by
      rw [← entries, ← sameId]
      exact admitted.2.2.2.1
    have created := entries_of_written written ends
    have named : entryKey entry = toLex (request.time.instant,
        canonicalReference s.idempotency subject.identityId "wallet.event.consume"
          request.idempotencyKey request.candidateId) := by
      rw [entryKey, written.recordedAt, written.entryId, sameId]
    unfold CreatedAs at created ⊢
    rw [entries, named] at created
    rw [created]
    rcases opening with rfl | ⟨opened, absent, opens⟩
    · constructor
      · intro below
        refine ⟨free, fun owned found => ?_⟩
        obtain rfl := Option.some.inj (written.owned.symm.trans found)
        exact below
      · rintro ⟨_, below⟩
        exact below old written.owned
    · -- the event opened the account, which therefore had no entries
      obtain rfl := opens.accountOf_eq absent written.owned
      constructor
      · intro _
        refine ⟨free, fun owned found => ?_⟩
        rw [absent] at found
        cases found
      · intro _ other held onAccount
        exact absurd onAccount (opens.unused housed other held)

end

theorem housed_of_run (config : PlatformConfig) (calls : List PlatformCall) :
    Housed (run (platformStep config) {} calls).financial.wallets := by
  refine @run_invariant _ _ (platformStep config)
    (fun platform => Housed platform.financial.wallets) ?_ _ calls ?_
  · intro platform call housed
    rcases wallets_of_step config platform call with kept | ⟨_, _, _, _, consumed⟩
    · rwa [kept]
    · exact consumeAuthoritativeEvent_housed consumed housed
  · intro entry held
    simp at held

section

variable {config : SettlementConfig} {hash : Payload → Digest} {reads : FinancialReads}
  {subject : AuthorizationSubject} {s t : FinancialStore}

theorem posting_names_iff {command : FinancialPostingCommand} {ids : PostingIds}
    {result : FinancialPosting × List FinancialPostingLine} (housed : Housed s.wallets)
    (ran : post hash reads subject command ids s = .ok (result, t)) :
    PostingNamesOwnEntry s t ↔ PostingEntersAsLast s subject command ids := by
  cases (post_ok ran).2.2.2.2 with
  | repeated posting idempotency found kept =>
    have held : t.postings.postings = s.postings.postings := by rw [kept]
    constructor
    · intro _ new
      rw [new] at found
      cases found
    · intro _ other mem new
      rw [held] at mem
      exact absurd rfl (Table.find_eq_none.1 new other mem)
  | recorded posting lines journalId entryType account last new recorded =>
    have created := createdAs_last_iff housed recorded.consumed recorded.ends
    rw [← recorded.walletEntryId] at created
    constructor
    · intro names _
      refine created.1 (names posting (by simp [recorded.postings]) ?_)
      rw [recorded.postingId]
      exact new
    · intro enters other mem fresh
      rcases (mem_appended recorded.postings).1 mem with old | rfl
      · exact absurd rfl (Table.find_eq_none.1 fresh other old)
      · exact created.2 (enters new)

theorem record_names_iff {request : SettleRequest} {result : PostTripRecord}
    (housed : Housed s.wallets) (ran : settle config reads subject request s = .ok (result, t)) :
    RecordNamesOwnEntry request.rideId s t ↔
      SettlementEntersAsLast reads.rides s subject request := by
  cases settle_ok ran with
  | settledBefore closed same =>
    exact ⟨fun _ unsettled => absurd unsettled closed, fun _ unsettled => absurd unsettled closed⟩
  | uncredited method =>
    exact ⟨fun _ _ paid => absurd paid method, fun _ _ paid => absurd paid method⟩
  | credited driverId journalId amountMinor account last record unsettled paid credited _ =>
    have created := createdAs_last_iff housed credited.consumed credited.ends
    constructor
    · intro names _ _ driver driven
      obtain rfl := Option.some.inj (credited.driver.symm.trans driven)
      obtain ⟨stored, found, entryId, named, own⟩ := names unsettled paid
      obtain rfl := Option.some.inj (credited.stored.symm.trans found)
      obtain rfl := Option.some.inj (credited.walletEntryId.symm.trans named)
      exact created.1 own
    · intro enters _ _
      exact ⟨record, credited.stored, last.walletEntryId, credited.walletEntryId,
        created.2 (enters unsettled paid driverId credited.driver)⟩

end

/-- In every state that the platform reaches, a successful posting names the wallet entry of its
own call exactly when that entry is new and listed after all others of its wallet, and so does the
settlement of a digitally paid trip. -/
theorem own_entry_iff_last (config : PlatformConfig) (calls : List PlatformCall)
    (surroundings : Surroundings) (subject : AuthorizationSubject) :
    let platform := run (platformStep config) {} calls
    (∀ command ids result after,
      post config.hash (financialReads platform surroundings) subject command ids
          platform.financial = .ok (result, after) →
        (PostingNamesOwnEntry platform.financial after ↔
          PostingEntersAsLast platform.financial subject command ids)) ∧
    (∀ request result after,
      settle config.settlement (financialReads platform surroundings) subject request
          platform.financial = .ok (result, after) →
        (RecordNamesOwnEntry request.rideId platform.financial after ↔
          SettlementEntersAsLast surroundings.rides platform.financial subject request)) := by
  intro platform
  have housed : Housed platform.financial.wallets := housed_of_run config calls
  exact ⟨fun _ _ _ _ success => posting_names_iff housed success,
    fun _ _ _ success => record_names_iff housed success⟩

/-- The payment of ride 10 and two credits of driver 2, the second one at a given time. -/
def twoCredits (time : Instant) : List PlatformCall :=
  capturedRide ++
    [creditEvent 300 "wallet-credit-00001" 901 400, creditEvent 50 "wallet-credit-00002" 902 time]

theorem own_entry_after_credits : ∃ result after,
    postAfter (twoCredits 410) = .ok (result, after) ∧
      PostingNamesOwnEntry (run (platformStep platformConfig) {} (twoCredits 410)).financial
        after := by
  have posts : (postAfter (twoCredits 410)).isOk = true := by decide +kernel
  obtain ⟨⟨result, after⟩, success⟩ := exists_of_isOk posts
  have enters : PostingEntersAsLast
      (run (platformStep platformConfig) {} (twoCredits 410)).financial ⟨9, .service⟩ postingAt450
      (idsFrom 700) := by decide +kernel
  exact ⟨result, after, success,
    ((own_entry_iff_last platformConfig (twoCredits 410) surroundings ⟨9, .service⟩).1
      postingAt450 (idsFrom 700) result after success).2 enters⟩

theorem other_entry_before_credit : ¬ ∀ result after,
    postAfter (twoCredits 500) = .ok (result, after) →
      PostingNamesOwnEntry (run (platformStep platformConfig) {} (twoCredits 500)).financial
        after := by
  intro named
  have posts : (postAfter (twoCredits 500)).isOk = true := by decide +kernel
  obtain ⟨⟨result, after⟩, success⟩ := exists_of_isOk posts
  have enters := (posting_names_iff (housed_of_run platformConfig (twoCredits 500)) success).1
    (named result after success)
  have late : ¬ PostingEntersAsLast
      (run (platformStep platformConfig) {} (twoCredits 500)).financial ⟨9, .service⟩ postingAt450
      (idsFrom 700) := by decide +kernel
  exact late enters

end Ayo.Persistence.OwnWalletEntry
