/- digest: The balances of every wallet are the signed sums of its lineage entries. -/

import Ayo.Payment.SingleCapture
import Ayo.Wallet.Effects

namespace Ayo.Wallet.Conservation

open Kernel.UnitOfWork Kernel.Run Kernel.KeyedTable Kernel.Grouping Core.Values Core.Authorization
open Payment.SingleCapture (sampleHash sampleConfig sampleReads moment captureOnce)
open Models Repository Application Effects

def entryAmount (entry : WalletLineageEntry) : Int := entry.amountMinor.value

variable (store : WalletStore) (walletAccountId : Uuid)

def entryTotal (entryType : WalletEntryType) : Int :=
  total entryAmount (fun entry => entry.walletAccountId = walletAccountId ∧
    entry.entryType = entryType) store.entries.rows

def pendingHistory : Int :=
  entryTotal store walletAccountId .pendingCredit - entryTotal store walletAccountId .pendingRelease -
    entryTotal store walletAccountId .pendingReversal

def availableHistory : Int :=
  entryTotal store walletAccountId .pendingRelease +
    entryTotal store walletAccountId .availableCredit -
      entryTotal store walletAccountId .availableDebit

/-- Both balances of every account are nonnegative and what its history leaves. -/
def Conserved : Prop :=
  ∀ account ∈ store.accounts.rows,
    (0 ≤ account.pendingMinor.value ∧ 0 ≤ account.availableMinor.value) ∧
      account.pendingMinor.value = pendingHistory store account.walletAccountId ∧
      account.availableMinor.value = availableHistory store account.walletAccountId

structure Entered (before after : WalletStore) (entry : WalletLineageEntry)
    (current changed : WalletAccount) : Prop where
  found : current ∈ before.accounts.rows
  accountId : entry.walletAccountId = current.walletAccountId
  id : changed.walletAccountId = current.walletAccountId
  available : changed.availableMinor.value =
    current.availableMinor.value + availableChange (entryAmount entry) entry.entryType
  pending : changed.pendingMinor.value =
    current.pendingMinor.value + pendingChange (entryAmount entry) entry.entryType
  accounts : after.accounts.rows = before.accounts.replaced changed
  entries : after.entries.rows = before.entries.rows ++ [entry]

variable {s t : WalletStore} {entry : WalletLineageEntry}

theorem consumeAuthoritativeEvent_ok {hash : Payload → Digest} {reads : WalletReads}
    {subject : AuthorizationSubject} {request : ConsumeRequest} {result : WalletAccount}
    (ran : consumeAuthoritativeEvent hash reads subject request s = .ok (result, t)) :
    ∃ between : WalletStore, (between = s ∨ ∃ opened, Opened s between opened) ∧
      ((t.accounts = between.accounts ∧ t.entries = between.entries) ∨
        ∃ entry old, Entered between t entry old result) := by
  obtain ⟨between, _, opening, consumed⟩ := consumeAuthoritativeEvent_effect ran
  refine ⟨between, opening.imp_right fun ⟨account, _, opened⟩ => ⟨account, opened⟩, ?_⟩
  cases consumed with
  | repeated _ _ _ accounts entries => exact .inl ⟨accounts, entries⟩
  | entered entry old _ written =>
    refine .inr ⟨entry, old, List.mem_of_find?_eq_some written.owned, written.accountId,
      written.id, ?_, ?_, written.accounts, written.entries⟩
    · rw [written.takenAvailable]
      exact written.available
    · rw [written.takenPending]
      exact written.pending

/-- Entries lie on accounts that exist, and the balances are what the entries leave. -/
structure Sound (store : WalletStore) : Prop where
  housed : ∀ entry ∈ store.entries.rows, ∃ account ∈ store.accounts.rows,
    account.walletAccountId = entry.walletAccountId
  pending : ∀ account ∈ store.accounts.rows,
    account.pendingMinor.value = pendingHistory store account.walletAccountId
  available : ∀ account ∈ store.accounts.rows,
    account.availableMinor.value = availableHistory store account.walletAccountId

private theorem entryTotal_append (entries : t.entries.rows = s.entries.rows ++ [entry])
    (walletAccountId : Uuid) (entryType : WalletEntryType) :
    entryTotal t walletAccountId entryType = entryTotal s walletAccountId entryType +
      if entry.walletAccountId = walletAccountId ∧ entry.entryType = entryType then
        entryAmount entry
      else
        0 := by
  rw [entryTotal, entries, total_append, total_cons, total_nil, add_zero]
  simp only [decide_eq_true_eq]
  rfl

private theorem pendingHistory_append
    (entries : t.entries.rows = s.entries.rows ++ [entry]) (walletAccountId : Uuid) :
    pendingHistory t walletAccountId = pendingHistory s walletAccountId +
      if entry.walletAccountId = walletAccountId then
        pendingChange (entryAmount entry) entry.entryType
      else
        0 := by
  simp only [pendingHistory, entryTotal_append entries]
  by_cases same : entry.walletAccountId = walletAccountId
  · cases kind : entry.entryType <;> simp [same, pendingChange] <;> omega
  · simp [same]

private theorem availableHistory_append
    (entries : t.entries.rows = s.entries.rows ++ [entry]) (walletAccountId : Uuid) :
    availableHistory t walletAccountId = availableHistory s walletAccountId +
      if entry.walletAccountId = walletAccountId then
        availableChange (entryAmount entry) entry.entryType
      else
        0 := by
  simp only [availableHistory, entryTotal_append entries]
  by_cases same : entry.walletAccountId = walletAccountId
  · cases kind : entry.entryType <;> simp [same, availableChange] <;> omega
  · simp [same]

private theorem sound_of_opened {account : WalletAccount} (opened : Opened s t account)
    (sound : Sound s) : Sound t := by
  have unused : ∀ entryType, entryTotal s account.walletAccountId entryType = 0 := by
    intro entryType
    refine total_eq_zero fun entry held => ?_
    have different := opened.unused sound.housed entry held
    simp [different]
  have totals : ∀ id entryType, entryTotal t id entryType = entryTotal s id entryType := by
    intro id entryType
    simp only [entryTotal, opened.entries]
  refine ⟨opened.housed sound.housed, ?_, ?_⟩
  · intro other mem
    rw [opened.accounts, List.mem_append, List.mem_singleton] at mem
    simp only [pendingHistory, totals]
    rcases mem with old | rfl
    · exact sound.pending other old
    · simp [unused, opened.pending]
  · intro other mem
    rw [opened.accounts, List.mem_append, List.mem_singleton] at mem
    simp only [availableHistory, totals]
    rcases mem with old | rfl
    · exact sound.available other old
    · simp [unused, opened.available]

private theorem sound_of_entered {current changed : WalletAccount}
    (entered : Entered s t entry current changed) (sound : Sound s) : Sound t := by
  have origin : ∀ account ∈ t.accounts.rows, account = changed ∨
      (account ∈ s.accounts.rows ∧ entry.walletAccountId ≠ account.walletAccountId) := by
    intro account mem
    rw [entered.accounts] at mem
    obtain ⟨rfl, _⟩ | ⟨old, different⟩ := Table.mem_replaced.1 mem
    · exact .inl rfl
    · exact .inr ⟨old, fun same =>
        different (same.symm.trans (entered.accountId.trans entered.id.symm))⟩
  have addressed : entry.walletAccountId = changed.walletAccountId :=
    entered.accountId.trans entered.id.symm
  refine ⟨?_, ?_, ?_⟩
  · rw [entered.entries, entered.accounts]
    intro other held
    have house : ∃ account ∈ s.accounts.rows, account.walletAccountId = other.walletAccountId := by
      rcases List.mem_append.1 held with old | new
      · exact sound.housed other old
      · rw [List.mem_singleton.1 new]
        exact ⟨current, entered.found, entered.accountId.symm⟩
    obtain ⟨account, present, same⟩ := house
    by_cases replaced : account.walletAccountId = changed.walletAccountId
    · exact ⟨changed, Table.mem_replaced.2 (.inl ⟨rfl, account, present, replaced⟩),
        replaced.symm.trans same⟩
    · exact ⟨account, Table.mem_replaced.2 (.inr ⟨present, replaced⟩), same⟩
  · intro account mem
    rw [pendingHistory_append entered.entries]
    obtain rfl | ⟨old, elsewhere⟩ := origin account mem
    · rw [if_pos addressed, entered.pending, sound.pending current entered.found, entered.id]
    · rw [if_neg elsewhere, add_zero]
      exact sound.pending account old
  · intro account mem
    rw [availableHistory_append entered.entries]
    obtain rfl | ⟨old, elsewhere⟩ := origin account mem
    · rw [if_pos addressed, entered.available, sound.available current entered.found, entered.id]
    · rw [if_neg elsewhere, add_zero]
      exact sound.available account old

private theorem sound_of_kept (accounts : t.accounts = s.accounts)
    (entries : t.entries = s.entries) (sound : Sound s) : Sound t := by
  obtain ⟨housed, pending, available⟩ := sound
  refine ⟨by simpa only [accounts, entries] using housed, ?_, ?_⟩
  · simpa only [accounts, pendingHistory, entryTotal, entries] using pending
  · simpa only [accounts, availableHistory, entryTotal, entries] using available

theorem step_preserves_sound (hash : Payload → Digest) (store : WalletStore) (call : WalletCall)
    (sound : Sound store) : Sound (step hash store call) := by
  refine commit_related (R := fun _ => Sound) _ store sound fun result t ran => ?_
  obtain ⟨between, created, entered⟩ := consumeAuthoritativeEvent_ok ran
  have ready : Sound between := by
    obtain rfl | ⟨account, opened⟩ := created
    · exact sound
    · exact sound_of_opened opened sound
  obtain ⟨accounts, entries⟩ | ⟨entry, old, entered⟩ := entered
  · exact sound_of_kept accounts entries ready
  · exact sound_of_entered entered ready

/-- After every run the balances of every wallet are nonnegative and the signed sums of its
entries, and a rejected event leaves the whole store as it was. -/
theorem wallets_conserved (hash : Payload → Digest) (calls : List WalletCall) :
    Conserved (run (step hash) {} calls) ∧
      ∀ (call : WalletCall) (failure : Failure),
        consumeAuthoritativeEvent hash call.reads call.subject call.request
            (run (step hash) {} calls) = .error failure →
          step hash (run (step hash) {} calls) call = run (step hash) {} calls := by
  have sound : Sound (run (step hash) {} calls) := by
    refine run_invariant (step_preserves_sound hash) calls ⟨?_, ?_, ?_⟩ <;>
      · intro row member
        simp at member
  refine ⟨fun account member => ?_, fun call failure rejected => commit_of_error rejected⟩
  exact ⟨⟨account.pendingMinor.nonneg, account.availableMinor.nonneg⟩,
    sound.pending account member, sound.available account member⟩

/-- Service 9 enters an amount of the captured sample payment into the wallet of driver 2. -/
def walletCall (entryType : WalletEntryType) (amountMinor : Int) (key : String)
    (candidateId : Uuid) (time : Instant) : WalletCall :=
  { reads :=
      { grants := fun _ _ _ => true, journals := sampleReads.journals,
        payments := run (Payment.Application.step sampleConfig) {} captureOnce, refunds := {},
        settlements := {} },
    subject := ⟨9, .service⟩,
    request :=
      { ownerIdentityId := 2, authoritativeSourceType := .paymentAttempt,
        authoritativeSourceId := 101, entryType, amountMinor, reasonCode := "wallet.earned",
        idempotencyKey := key, correlationId := 53, causationId := 53, time := moment time,
        accountCandidateId := 900, candidateId } }

def creditAndRelease : List WalletCall :=
  [walletCall .pendingCredit 300 "wallet-credit-00001" 901 400,
   walletCall .pendingRelease 100 "wallet-release-0001" 902 401]

theorem wallets_conserved_rejected :
    Conserved (run (step sampleHash) {} creditAndRelease) ∧
      step sampleHash (run (step sampleHash) {} creditAndRelease)
          (walletCall .availableDebit 101 "wallet-debit-000001" 903 402) =
        run (step sampleHash) {} creditAndRelease :=
  ⟨(wallets_conserved sampleHash creditAndRelease).1,
    (wallets_conserved sampleHash creditAndRelease).2
      (walletCall .availableDebit 101 "wallet-debit-000001" 903 402)
      (.conflict "wallet_available_insufficient") (by rfl)⟩

end Ayo.Wallet.Conservation
