/- digest: What one event does to the wallet store. -/

import Ayo.Kernel.Run
import Ayo.Wallet.Application

namespace Ayo.Wallet.Effects

open Kernel.UnitOfWork Kernel.KeyedTable Core.Values Core.Authorization Models Repository
  Application
open Kernel.Evolution (Evolves Extends)

def accountOf (store : WalletStore) (ownerIdentityId : Uuid) : Option WalletAccount :=
  store.accounts.rows.find? fun account => account.ownerIdentityId = ownerIdentityId

/-- The identifier under which an event is entered: that of an earlier event with its key, or the
new one. -/
def canonicalEntryId (store : WalletStore) (subject : AuthorizationSubject)
    (request : ConsumeRequest) : Uuid :=
  canonicalReference store.idempotency subject.identityId "wallet.event.consume"
    request.idempotencyKey request.candidateId

structure Opened (s t : WalletStore) (account : WalletAccount) : Prop where
  available : account.availableMinor.value = 0
  pending : account.pendingMinor.value = 0
  accounts : t.accounts.rows = s.accounts.rows ++ [account]
  entries : t.entries = s.entries

/-- The entry of an event was appended to the wallet of its owner, which took over the balances
that result. -/
structure Written (subject : AuthorizationSubject) (request : ConsumeRequest) (s t : WalletStore)
    (entry : WalletLineageEntry) (current changed : WalletAccount) : Prop where
  owned : accountOf s request.ownerIdentityId = some current
  entryId : entry.walletEntryId = canonicalEntryId s subject request
  accountId : entry.walletAccountId = current.walletAccountId
  sourceId : entry.authoritativeSourceId = request.authoritativeSourceId
  entryType : entry.entryType = request.entryType
  amount : entry.amountMinor.value = request.amountMinor
  recordedAt : entry.recordedAt = request.time.instant
  id : changed.walletAccountId = current.walletAccountId
  owner : changed.ownerIdentityId = current.ownerIdentityId
  takenAvailable : changed.availableMinor = entry.resultingAvailableMinor
  takenPending : changed.pendingMinor = entry.resultingPendingMinor
  available : entry.resultingAvailableMinor.value =
    current.availableMinor.value + availableChange entry.amountMinor.value entry.entryType
  pending : entry.resultingPendingMinor.value =
    current.pendingMinor.value + pendingChange entry.amountMinor.value entry.entryType
  accounts : t.accounts.rows = s.accounts.replaced changed
  entries : t.entries.rows = s.entries.rows ++ [entry]

/-- An event is new and allowed, its source exists, and the balances of an account cover it. -/
def Admitted (reads : WalletReads) (subject : AuthorizationSubject) (request : ConsumeRequest)
    (store : WalletStore) (account : WalletAccount) : Prop :=
  reads.grants subject.identityId "wallet.event.consume" request.time = true ∧
    subject.identityType = .service ∧
    sourceFound reads request.authoritativeSourceId request.authoritativeSourceType = true ∧
    store.entries.find (canonicalEntryId store subject request) = none ∧
    ((applyWalletEntry account.availableMinor.value account.pendingMinor.value request.entryType
      request.amountMinor request.time : Transaction Unit Failure (Int × Int)) ()).isOk = true
deriving Decidable

/-- An event whose account is there repeats an entry or writes its own. -/
inductive Consumed (reads : WalletReads) (subject : AuthorizationSubject)
    (request : ConsumeRequest) (s t : WalletStore) (result : WalletAccount) : Prop
  | repeated (entry : WalletLineageEntry)
      (stored : s.entries.find (canonicalEntryId s subject request) = some entry)
      (owned : accountOf s request.ownerIdentityId = some result)
      (accounts : t.accounts = s.accounts) (entries : t.entries = s.entries)
  | entered (entry : WalletLineageEntry) (current : WalletAccount)
      (admitted : Admitted reads subject request s current)
      (written : Written subject request s t entry current result)

section

variable {s t : WalletStore} {owner : Uuid} {time : DateTime} {account result : WalletAccount}
  {entry : WalletLineageEntry} {reads : WalletReads} {subject : AuthorizationSubject}
  {request : ConsumeRequest} {hash : Payload → Digest}

theorem getAccountByOwner_bind_ok {α : Type} {f : Option WalletAccount → WalletTransaction α}
    {a : α} :
    (getAccountByOwner owner >>= f) s = .ok (a, t) ↔ f (accountOf s owner) s = .ok (a, t) := by
  simp only [getAccountByOwner, bind_assoc, pure_bind, get_bind_ok, accountOf]

theorem walletUtc_bind_ok {α : Type} {f : Instant → WalletTransaction α} {a : α} :
    (utc time >>= f) s = .ok (a, t) ↔ time.aware = true ∧ f time.instant s = .ok (a, t) := by
  simp only [utc, bind_assoc, pure_bind, require_bind_ok]

theorem getOrCreateAccount_ok {candidateId : Uuid}
    (ran : getOrCreateAccount owner time candidateId s = .ok (account, t)) :
    accountOf t owner = some account ∧ t.idempotency = s.idempotency ∧
      (t = s ∨ (accountOf s owner = none ∧ Opened s t account)) := by
  unfold getOrCreateAccount at ran
  simp only [↓getAccountByOwner_bind_ok, whenSome_ok, ↓steps_ok, ↓walletUtc_bind_ok, demand_ok,
    Table.insert?_eq_some] at ran
  obtain ⟨_, found, rfl, rfl⟩ | ⟨absent, _, ⟨accounts, rows, rfl, rfl⟩ | ⟨_, found, rfl⟩⟩ := ran
  · exact ⟨found, rfl, .inl rfl⟩
  · refine ⟨?_, rfl, .inr ⟨absent, rfl, rfl, rows, rfl⟩⟩
    unfold accountOf at absent ⊢
    rw [rows, List.find?_append, absent]
    simp
  · exact ⟨found, rfl, .inl rfl⟩

theorem appendLineageEntry_ok {updated : WalletAccount}
    (ran : appendLineageEntry entry s = .ok (updated, t)) :
    ∃ old ∈ s.accounts.rows, old.walletAccountId = entry.walletAccountId ∧
      updated.walletAccountId = entry.walletAccountId ∧
      updated.ownerIdentityId = old.ownerIdentityId ∧
      updated.availableMinor = entry.resultingAvailableMinor ∧
      updated.pendingMinor = entry.resultingPendingMinor ∧
      t.accounts.rows = s.accounts.replaced updated ∧
      t.entries.rows = s.entries.rows ++ [entry] := by
  unfold appendLineageEntry at ran
  simp only [↓steps_ok, Table.insert?_eq_some, Table.replace?_eq_some,
    Option.dite_none_right_eq_some, Option.some.injEq] at ran
  obtain ⟨old, found, entries, entryRows, updated, ⟨later, built⟩, accounts, accountRows, rfl,
    rfl⟩ := ran
  have id : old.walletAccountId = entry.walletAccountId := Table.key_of_find found
  subst built
  exact ⟨old, Table.mem_of_find found, id, id, rfl, rfl, rfl, accountRows, entryRows⟩

theorem consumeAuthoritativeEvent_effect
    (ran : consumeAuthoritativeEvent hash reads subject request s = .ok (result, t)) :
    ∃ between : WalletStore, between.idempotency = s.idempotency ∧
      (between = s ∨ ∃ opened, accountOf s request.ownerIdentityId = none ∧
        Opened s between opened) ∧
      Consumed reads subject request between t result := by
  unfold consumeAuthoritativeEvent at ran
  simp only [↓guards_ok] at ran
  obtain ⟨_, granted, service, _, ran⟩ := ran
  obtain ⟨account, between, created, ran⟩ := bind_ok.1 ran
  obtain ⟨_, kept, opening⟩ := getOrCreateAccount_ok created
  refine ⟨between, kept, opening.imp_right fun opened => ⟨account, opened⟩, ?_⟩
  obtain ⟨canonical, _, reserved, ran⟩ := bind_ok.1 ran
  simp only [reserveIdempotency, within_ok] at reserved
  obtain ⟨idempotency, reserving, rfl⟩ := reserved
  have entryId : canonical = canonicalEntryId between subject request :=
    eq_canonicalReference reserving
  unfold getLineageEntry assertAuthoritativeSourceExists at ran
  simp only [bind_assoc, pure_bind, ↓steps_ok, whenSome_ok, ↓getAccountByOwner_bind_ok,
    demand_ok] at ran
  obtain ⟨entry, held, owned, rfl⟩ | ⟨free, source, locked, found, _, ran⟩ := ran
  · rw [entryId] at held
    exact .repeated entry held owned rfl rfl
  · obtain ⟨next, _, applied, ran⟩ := bind_ok.1 ran
    obtain ⟨rfl, aware, nonneg, rfl, covered⟩ := applyWalletEntry_ok_iff.1 applied
    have applies : (applyWalletEntry locked.availableMinor.value locked.pendingMinor.value
        request.entryType request.amountMinor request.time :
          Transaction Unit Failure (Int × Int)) () = .ok (_, ()) :=
      applyWalletEntry_ok_iff.2 ⟨rfl, aware, nonneg, rfl, covered⟩
    simp only [↓demand_bind_ok, ↓walletUtc_bind_ok, MinorAmount.ofInt?_eq_some] at ran
    obtain ⟨amount, amountValue, nextAvailable, availableValue, nextPending, pendingValue,
      reasonCode, _, _, ran⟩ := ran
    obtain ⟨old, held, same, id, owner, takenAvailable, takenPending, accountRows,
      entryRows⟩ := appendLineageEntry_ok ran
    have lockedStored : locked ∈ between.accounts.rows := List.mem_of_find?_eq_some found
    obtain rfl : old = locked := between.accounts.eq_of_key held lockedStored same
    rw [← amountValue] at availableValue pendingValue
    rw [entryId] at free
    exact .entered _ old ⟨granted, service, source, free, by rw [applies]; rfl⟩
      { owned := found, entryId, accountId := same.symm, sourceId := rfl, entryType := rfl,
        amount := amountValue, recordedAt := rfl, id := id.trans same.symm, owner,
        takenAvailable, takenPending, available := availableValue, pending := pendingValue,
        accounts := accountRows, entries := entryRows }

theorem consumeAuthoritativeEvent_extends
    (ran : consumeAuthoritativeEvent hash reads subject request s = .ok (result, t)) :
    Evolves (fun current changed => changed.ownerIdentityId = current.ownerIdentityId)
        s.accounts t.accounts ∧ Extends s.entries t.entries := by
  obtain ⟨between, _, opening, consumed⟩ := consumeAuthoritativeEvent_effect ran
  have opens : Evolves (fun current changed => changed.ownerIdentityId = current.ownerIdentityId)
      s.accounts between.accounts ∧ Extends s.entries between.entries := by
    rcases opening with rfl | ⟨_, _, opened⟩
    · exact ⟨.refl, .refl⟩
    · exact ⟨.of_append opened.accounts, .of_eq opened.entries⟩
  cases consumed with
  | repeated _ _ _ accounts entries =>
    exact ⟨opens.1.trans (.of_eq accounts), opens.2.trans (.of_eq entries)⟩
  | entered entry current _ written =>
    have held : current ∈ between.accounts.rows := List.mem_of_find?_eq_some written.owned
    exact ⟨opens.1.trans (.of_replaced written.accounts held written.id (.single written.owner)),
      opens.2.trans (.of_append written.entries)⟩

theorem accountOf_of_consumed (consumed : Consumed reads subject request s t result) :
    accountOf t request.ownerIdentityId = some result := by
  cases consumed with
  | repeated entry held owned accounts => rwa [accountOf, accounts]
  | entered entry old admitted written =>
    have owner : old.ownerIdentityId = request.ownerIdentityId := by
      simpa using List.find?_some written.owned
    rw [accountOf, written.accounts]
    refine Table.find?_replaced written.owned written.id ?_
    simpa using written.owner.trans owner

def Housed (store : WalletStore) : Prop :=
  ∀ entry ∈ store.entries.rows, ∃ account ∈ store.accounts.rows,
    account.walletAccountId = entry.walletAccountId

theorem Opened.housed (opened : Opened s t account) (housed : Housed s) : Housed t := by
  unfold Housed
  rw [opened.entries, opened.accounts]
  intro entry held
  obtain ⟨other, present, same⟩ := housed entry held
  exact ⟨other, List.mem_append_left _ present, same⟩

theorem Opened.unused (opened : Opened s t account) (housed : Housed s) :
    ∀ entry ∈ s.entries.rows, entry.walletAccountId ≠ account.walletAccountId := by
  intro entry held named
  obtain ⟨other, present, same⟩ := housed entry held
  have absent := Table.find_eq_none.1 (Table.find_eq_none_of_rows_append opened.accounts)
  exact absent other present (same.trans named)

theorem Opened.accountOf_eq {old : WalletAccount} (opened : Opened s t account)
    (absent : accountOf s owner = none) (owned : accountOf t owner = some old) : account = old := by
  rw [accountOf, opened.accounts, List.find?_append] at owned
  rw [accountOf] at absent
  rw [absent, Option.none_or, List.find?_singleton] at owned
  split at owned
  · exact Option.some.inj owned
  · cases owned

theorem Written.housed {current changed : WalletAccount}
    (written : Written subject request s t entry current changed) (housed : Housed s) :
    Housed t := by
  have found : current ∈ s.accounts.rows := List.mem_of_find?_eq_some written.owned
  unfold Housed
  rw [written.entries, written.accounts]
  intro other held
  have house : ∃ account ∈ s.accounts.rows, account.walletAccountId = other.walletAccountId := by
    rcases List.mem_append.1 held with old | new
    · exact housed other old
    · rw [List.mem_singleton.1 new]
      exact ⟨current, found, written.accountId.symm⟩
  obtain ⟨account, present, same⟩ := house
  by_cases moved : account.walletAccountId = changed.walletAccountId
  · exact ⟨changed, Table.mem_replaced.2 (.inl ⟨rfl, account, present, moved⟩),
      moved.symm.trans same⟩
  · exact ⟨account, Table.mem_replaced.2 (.inr ⟨present, moved⟩), same⟩

theorem consumeAuthoritativeEvent_housed
    (ran : consumeAuthoritativeEvent hash reads subject request s = .ok (result, t))
    (housed : Housed s) : Housed t := by
  obtain ⟨between, _, opening, consumed⟩ := consumeAuthoritativeEvent_effect ran
  have ready : Housed between := by
    rcases opening with rfl | ⟨account, _, opened⟩
    · exact housed
    · exact opened.housed housed
  cases consumed with
  | repeated _ _ _ accounts entries =>
    unfold Housed
    rwa [accounts, entries]
  | entered _ _ _ written => exact written.housed ready

end

end Ayo.Wallet.Effects
