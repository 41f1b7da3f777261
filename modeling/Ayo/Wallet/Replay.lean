/- digest: When the listed history of a wallet leads to its balances. -/

import Ayo.Wallet.Conservation

namespace Ayo.Wallet.Replay

open Kernel.UnitOfWork Kernel.Run Kernel.KeyedTable Kernel.Ordering Core.Values
open Payment.SingleCapture (sampleHash)
open Models Repository Application Effects
open Conservation (walletCall creditAndRelease)

variable {σ : Type} {s t : WalletStore} {subject : Core.Authorization.AuthorizationSubject}
  {entry : WalletLineageEntry} {request : ConsumeRequest}

def replay : Int × Int → List WalletLineageEntry → Transaction σ Failure (List (Int × Int))
  | balances, [] => pure [balances]
  | balances, entry :: rest => do
    let next ← applyWalletEntry balances.1 balances.2 entry.entryType entry.amountMinor.value
      (.utc entry.recordedAt)
    let later ← replay next rest
    pure (balances :: later)

def resultingBalances (entry : WalletLineageEntry) : Int × Int :=
  (entry.resultingAvailableMinor.value, entry.resultingPendingMinor.value)

def storedBalances (account : WalletAccount) : Int × Int :=
  (account.availableMinor.value, account.pendingMinor.value)

/-- Replayed from empty balances, entries succeed, reproduce the balances that each of them
records, and end at those of an account. -/
def Reproduces (entries : List WalletLineageEntry) (account : WalletAccount) : Prop :=
  (replay (0, 0) entries : Transaction Unit Failure (List (Int × Int))) () =
      .ok ((0, 0) :: entries.map resultingBalances, ()) ∧
    ((0, 0) :: entries.map resultingBalances).getLast? = some (storedBalances account)
deriving Decidable

/-- The lineage of every account replays to its balances. -/
def HistoriesReplay (store : WalletStore) : Prop :=
  ∀ account ∈ store.accounts.rows, Reproduces (lineageOf store account.walletAccountId) account
deriving Decidable

def entryKey (entry : WalletLineageEntry) : Lex (Instant × Uuid) :=
  toLex (entry.recordedAt, entry.walletEntryId)

/-- An event that an account admits comes after every entry of the account in that order. -/
def EntersLast (store : WalletStore) (call : WalletCall) : Prop :=
  ∀ account ∈ accountOf store call.request.ownerIdentityId,
    Admitted call.reads call.subject call.request store account →
      ∀ entry ∈ store.entries.rows, entry.walletAccountId = account.walletAccountId →
        entryKey entry <
          toLex (call.request.time.instant, canonicalEntryId store call.subject call.request)
deriving Decidable

section

variable {start : Int × Int} {entries : List WalletLineageEntry} {s t : σ}
  {entry : WalletLineageEntry}

theorem replay_append_ok {next last : Int × Int}
    {trace : List (Int × Int)} (replayed : replay start entries s = .ok (trace, s))
    (ends : trace.getLast? = some last)
    (applied : applyWalletEntry last.1 last.2 entry.entryType entry.amountMinor.value
      (.utc entry.recordedAt) s = .ok (next, s)) :
    replay start (entries ++ [entry]) s = .ok (trace ++ [next], s) := by
  induction entries generalizing start trace with
  | nil =>
    obtain ⟨rfl, _⟩ := pure_ok.1 replayed
    obtain rfl : start = last := by simpa using ends
    exact bind_ok.2 ⟨next, s, applied, bind_ok.2 ⟨[next], s, pure_ok.2 ⟨rfl, rfl⟩, rfl⟩⟩
  | cons first rest ih =>
    obtain ⟨middle, _, moved, replayed⟩ := bind_ok.1 replayed
    obtain ⟨rfl, _⟩ := applyWalletEntry_ok_iff.1 moved
    obtain ⟨later, _, goes, finished⟩ := bind_ok.1 replayed
    obtain ⟨rfl, kept⟩ := pure_ok.1 finished
    rw [kept] at goes
    have nonempty : later ≠ [] := by
      intro empty
      cases rest with
      | nil =>
        obtain ⟨same, _⟩ := pure_ok.1 goes
        simp [empty] at same
      | cons second rest =>
        obtain ⟨_, _, _, goes⟩ := bind_ok.1 goes
        obtain ⟨_, _, _, finished⟩ := bind_ok.1 goes
        obtain ⟨same, _⟩ := pure_ok.1 finished
        simp [empty] at same
    have laterEnds : later.getLast? = some last := by
      rw [List.getLast?_cons, Option.some.injEq] at ends
      rw [← ends, List.getLast?_eq_some_getLast nonempty, Option.getD_some]
    have extended := ih goes laterEnds
    exact bind_ok.2 ⟨middle, s, moved, bind_ok.2 ⟨later ++ [next], s, extended, rfl⟩⟩

theorem reproduces_append {old new : WalletAccount}
    (available : entry.resultingAvailableMinor.value =
      old.availableMinor.value + availableChange entry.amountMinor.value entry.entryType)
    (pending : entry.resultingPendingMinor.value =
      old.pendingMinor.value + pendingChange entry.amountMinor.value entry.entryType)
    (taken : storedBalances new = resultingBalances entry)
    (reproduces : Reproduces entries old) : Reproduces (entries ++ [entry]) new := by
  obtain ⟨replayed, ends⟩ := reproduces
  have applied : applyWalletEntry (storedBalances old).1 (storedBalances old).2
      entry.entryType entry.amountMinor.value (.utc entry.recordedAt) () =
        .ok (resultingBalances entry, ()) := by
    refine applyWalletEntry_ok_iff.2 ⟨rfl, rfl, entry.amountMinor.nonneg, ?_,
      entry.resultingAvailableMinor.nonneg, entry.resultingPendingMinor.nonneg⟩
    exact Prod.ext available pending
  have extended := replay_append_ok replayed ends applied
  refine ⟨?_, ?_⟩
  · rw [extended, List.map_append, List.map_singleton, List.cons_append]
  · rw [List.map_append, List.map_singleton, ← List.cons_append, List.getLast?_append, taken]
    rfl

end

def writtenTo (store : WalletStore) (walletAccountId : Uuid) : List WalletLineageEntry :=
  store.entries.rows.filter fun entry => entry.walletAccountId = walletAccountId

/-- Entries lie on accounts that exist, were written in the order in which they are listed, and
reproduce the balances of their account. -/
structure Chronicled (store : WalletStore) : Prop where
  housed : Housed store
  ascending : ∀ walletAccountId,
    (writtenTo store walletAccountId).Pairwise fun a b => entryKey a < entryKey b
  reproduces : ∀ account ∈ store.accounts.rows,
    Reproduces (writtenTo store account.walletAccountId) account

theorem Chronicled.lineageOf_eq {store : WalletStore} (chronicled : Chronicled store)
    (walletAccountId : Uuid) : lineageOf store walletAccountId = writtenTo store walletAccountId :=
  orderedBy_of_pairwise ((chronicled.ascending walletAccountId).imp fun {_ _} s => le_of_lt s)

private theorem chronicled_of_kept (accounts : t.accounts = s.accounts)
    (entries : t.entries = s.entries) (chronicled : Chronicled s) : Chronicled t := by
  obtain ⟨housed, ascending, reproduces⟩ := chronicled
  refine ⟨?_, ?_, ?_⟩
  · unfold Housed
    rwa [accounts, entries]
  · simpa only [writtenTo, entries] using ascending
  · simpa only [writtenTo, entries, accounts] using reproduces

private theorem chronicled_of_opened {account : WalletAccount}
    (opened : Opened s t account) (chronicled : Chronicled s) : Chronicled t := by
  have unwritten : writtenTo s account.walletAccountId = [] :=
    List.filter_eq_nil_iff.2 fun entry held selected =>
      opened.unused chronicled.housed entry held (by simpa using selected)
  have same : ∀ id, writtenTo t id = writtenTo s id := by
    intro id
    rw [writtenTo, opened.entries]
    rfl
  refine ⟨opened.housed chronicled.housed, ?_, ?_⟩
  · intro id
    rw [same]
    exact chronicled.ascending id
  · intro other mem
    rw [opened.accounts, List.mem_append, List.mem_singleton] at mem
    rw [same]
    rcases mem with old | rfl
    · exact chronicled.reproduces other old
    · rw [unwritten]
      refine ⟨rfl, ?_⟩
      simp [storedBalances, opened.available, opened.pending]

private theorem writtenTo_of_written {old new : WalletAccount}
    (written : Written subject request s t entry old new) (id : Uuid) :
    writtenTo t id = writtenTo s id ++ if old.walletAccountId = id then [entry] else [] := by
  rw [writtenTo, written.entries, List.filter_append, ← written.accountId]
  by_cases same : entry.walletAccountId = id
  · simp [writtenTo, same]
  · simp [writtenTo, same]

private theorem chronicled_of_written {current changed : WalletAccount}
    (written : Written subject request s t entry current changed)
    (last : ∀ other ∈ writtenTo s current.walletAccountId, entryKey other < entryKey entry)
    (chronicled : Chronicled s) : Chronicled t := by
  have found : current ∈ s.accounts.rows := List.mem_of_find?_eq_some written.owned
  refine ⟨written.housed chronicled.housed, ?_, ?_⟩
  · intro id
    rw [writtenTo_of_written written]
    by_cases same : current.walletAccountId = id
    · rw [if_pos same]
      refine List.pairwise_append.2 ⟨chronicled.ascending id, List.pairwise_singleton _ _, ?_⟩
      intro other mem added new
      rw [List.mem_singleton.1 new]
      exact last other (same ▸ mem)
    · rw [if_neg same, List.append_nil]
      exact chronicled.ascending id
  · intro account mem
    rw [writtenTo_of_written written]
    rw [written.accounts] at mem
    obtain ⟨rfl, _⟩ | ⟨old, different⟩ := Table.mem_replaced.1 mem
    · rw [if_pos written.id.symm, written.id]
      refine reproduces_append written.available written.pending ?_
        (chronicled.reproduces current found)
      rw [storedBalances, written.takenAvailable, written.takenPending]
      rfl
    · have elsewhere : current.walletAccountId ≠ account.walletAccountId := by
        intro same
        exact different (same.symm.trans written.id.symm)
      rw [if_neg elsewhere, List.append_nil]
      exact chronicled.reproduces account old

theorem step_preserves_chronicled (hash : Payload → Digest) (store : WalletStore)
    (call : WalletCall) (enters : EntersLast store call) (chronicled : Chronicled store) :
    Chronicled (step hash store call) := by
  refine commit_related (R := fun _ => Chronicled) _ store chronicled fun result t ran => ?_
  obtain ⟨between, reservations, opening, consumed⟩ := consumeAuthoritativeEvent_effect ran
  have ready : Chronicled between := by
    rcases opening with rfl | ⟨account, _, opened⟩
    · exact chronicled
    · exact chronicled_of_opened opened chronicled
  cases consumed with
  | repeated _ _ _ accounts entries => exact chronicled_of_kept accounts entries ready
  | entered entry old admitted written =>
    refine chronicled_of_written written ?_ ready
    intro other mem
    rcases opening with rfl | ⟨account, absent, opened⟩
    · obtain ⟨held, named⟩ := List.mem_filter.1 mem
      have later := enters old written.owned admitted other held (by simpa using named)
      rw [← written.recordedAt, ← written.entryId] at later
      exact later
    · -- the account was opened by this event, so nothing was written to it before
      obtain rfl := opened.accountOf_eq absent written.owned
      rw [writtenTo, opened.entries] at mem
      obtain ⟨held, named⟩ := List.mem_filter.1 mem
      exact absurd (by simpa using named) (opened.unused chronicled.housed other held)

/-- In a run whose events enter themselves after the entries of their wallet in the listed order,
the listed history of every wallet replays to its balances. -/
theorem histories_replay_along (hash : Payload → Digest) (calls : List WalletCall)
    (along : Along (step hash) EntersLast {} calls) :
    HistoriesReplay (run (step hash) {} calls) := by
  have chronicled : Chronicled (run (step hash) {} calls) := by
    refine run_invariant_along (step_preserves_chronicled hash) along ⟨?_, ?_, ?_⟩
    · intro entry stored
      simp at stored
    · intro id
      exact .nil
    · intro account member
      simp at member
  intro account member
  rw [chronicled.lineageOf_eq]
  exact chronicled.reproduces account member

theorem histories_replay_release : HistoriesReplay (run (step sampleHash) {} creditAndRelease) :=
  histories_replay_along sampleHash creditAndRelease (by decide)

/-- Two credits, and a release of more than the first that is dated between them. -/
def releaseBetweenCredits : List WalletCall :=
  [walletCall .pendingCredit 300 "wallet-credit-00001" 901 400,
   walletCall .pendingCredit 200 "wallet-credit-00002" 902 410,
   walletCall .pendingRelease 400 "wallet-release-0001" 903 405]

theorem history_fails_release_between :
    ¬ HistoriesReplay (run (step sampleHash) {} releaseBetweenCredits) := by
  decide

end Ayo.Wallet.Replay
