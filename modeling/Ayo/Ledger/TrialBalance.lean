/- digest: Debits equal credits in every journal and over all accounts. -/

import Ayo.Kernel.Run
import Ayo.Ledger.Repository

namespace Ayo.Ledger.TrialBalance

open Kernel.UnitOfWork Kernel.Run Kernel.KeyedTable Kernel.Grouping Core.Values
open Pricing.Models (Calculations)
open Models Repository

inductive LedgerCommand where
  | addBook (book : LedgerBook)
  | addAccount (account : LedgerAccount)
  | postJournal (calculations : Calculations) (journal : LedgerJournal)

def addBook (book : LedgerBook) : LedgerTransaction Unit := do
  let store ← get
  let books ← demand (store.books.insert? book) (.integrity "ledger_books")
  put { store with books }

def addAccount (account : LedgerAccount) : LedgerTransaction Unit := do
  let store ← get
  require ((store.books.find account.bookId).isSome = true) (.integrity "ledger_books")
  let accounts ← demand (store.accounts.insert? account) (.integrity "ledger_accounts")
  put { store with accounts }

def step (store : LedgerStore) : LedgerCommand → LedgerStore
  | .addBook book => commit (addBook book) store
  | .addAccount account => commit (addAccount account) store
  | .postJournal calculations journal => commit (postJournal calculations journal) store

def amount (row : EntryRow) : Int := row.entry.amountMinor.1

def carries (side : LedgerEntrySide) (currency : Currency) (row : EntryRow) : Bool :=
  row.entry.currency = currency && row.entry.side = side

/-- Every entry stands on an account of its currency and in a stored journal, and the two sides of
every journal agree in every currency. -/
structure Consistent (store : LedgerStore) : Prop where
  onAccounts : ∀ row ∈ store.entries.rows,
    (store.accounts.find row.entry.accountId).map LedgerAccount.currency = some row.entry.currency
  inJournals : ∀ row ∈ store.entries.rows,
    row.journalId ∈ store.journals.rows.map JournalHeader.journalId
  balanced : ∀ journalId currency,
    total amount (fun row => row.journalId = journalId && carries .debit currency row)
        store.entries.rows =
      total amount (fun row => row.journalId = journalId && carries .credit currency row)
        store.entries.rows

private theorem journal_sides_agree (journal : LedgerJournal) (currency : Currency) :
    total amount (carries .debit currency)
        (journal.entries.map fun entry => ⟨journal.journalId, entry⟩) =
      total amount (carries .credit currency)
        (journal.entries.map fun entry => ⟨journal.journalId, entry⟩) := by
  obtain ⟨only, single⟩ := journal.single_currency
  by_cases same : only = currency
  · have side_total : ∀ side, total amount (carries side currency)
        (journal.entries.map fun entry => ⟨journal.journalId, entry⟩) =
          sideTotal side journal.entries := by
      intro side
      rw [total_map]
      exact total_congr fun entry mem => by simp [carries, single entry mem, same]
    rw [side_total, side_total, journal.balanced]
  · have nothing : ∀ side, total amount (carries side currency)
        (journal.entries.map fun entry => ⟨journal.journalId, entry⟩) = 0 := by
      intro side
      rw [total_map]
      exact total_eq_zero fun entry mem => by simp [carries, single entry mem, same]
    rw [nothing, nothing]

private theorem consistent_of_posted {journal : LedgerJournal} {s t : LedgerStore}
    (posted : Posted journal s t) (start : Consistent s) : Consistent t := by
  have fresh : ∀ row ∈ s.entries.rows, row.journalId ≠ journal.journalId := by
    intro row mem same
    obtain ⟨header, held, id⟩ := List.mem_map.1 (start.inJournals row mem)
    have absent := Table.find_eq_none.1 (Table.find_eq_none_of_rows_append posted.journals)
    exact absent header held (id.trans same)
  refine ⟨?_, ?_, ?_⟩
  · intro row mem
    rw [posted.accounts]
    rw [posted.entries, List.mem_append, List.mem_map] at mem
    obtain old | ⟨entry, new, rfl⟩ := mem
    · exact start.onAccounts row old
    · exact posted.accountCurrency entry new
  · intro row mem
    rw [posted.journals, List.map_append, List.mem_append]
    rw [posted.entries, List.mem_append, List.mem_map] at mem
    obtain old | ⟨entry, _, rfl⟩ := mem
    · exact .inl (start.inJournals row old)
    · exact .inr (by simp)
  · intro journalId currency
    rw [posted.entries, total_append, total_append, start.balanced]
    congr 1
    by_cases same : journal.journalId = journalId
    · have whole : ∀ side, total amount
          (fun row => row.journalId = journalId && carries side currency row)
          (journal.entries.map fun entry => ⟨journal.journalId, entry⟩) =
            total amount (carries side currency)
              (journal.entries.map fun entry => ⟨journal.journalId, entry⟩) := fun side =>
        total_congr fun row mem => by
          obtain ⟨entry, _, rfl⟩ := List.mem_map.1 mem
          simp [same]
      rw [whole, whole, journal_sides_agree]
    · have nothing : ∀ side, total amount
          (fun row => row.journalId = journalId && carries side currency row)
          (journal.entries.map fun entry => ⟨journal.journalId, entry⟩) = 0 := fun side =>
        total_eq_zero fun row mem => by
          obtain ⟨entry, _, rfl⟩ := List.mem_map.1 mem
          simp [same]
      rw [nothing, nothing]

private theorem step_preserves_consistent (store : LedgerStore) (command : LedgerCommand)
    (start : Consistent store) : Consistent (step store command) := by
  cases command with
  | addBook =>
    refine commit_related (R := fun _ t => Consistent t) _ store start ?_
    intro _ t ran
    simp only [addBook, bind_ok, get_ok, demand_ok, put_ok] at ran
    obtain ⟨_, _, ⟨rfl, rfl⟩, _, _, ⟨_, rfl⟩, rfl⟩ := ran
    exact ⟨start.onAccounts, start.inJournals, start.balanced⟩
  | addAccount =>
    refine commit_related (R := fun _ t => Consistent t) _ store start ?_
    intro _ t ran
    simp only [addAccount, bind_ok, get_ok, require_ok, demand_ok, put_ok,
      Table.insert?_eq_some] at ran
    obtain ⟨_, _, ⟨rfl, rfl⟩, _, _, ⟨_, rfl⟩, accounts, _, ⟨rows, rfl⟩, rfl⟩ := ran
    refine ⟨fun row mem => ?_, start.inJournals, start.balanced⟩
    obtain ⟨found, held, currency⟩ := Option.map_eq_some_iff.1 (start.onAccounts row mem)
    rw [Table.find_of_rows_append rows, held]
    simpa using currency
  | postJournal =>
    refine commit_related (R := fun _ t => Consistent t) _ store start ?_
    intro _ t ran
    exact consistent_of_posted (postJournal_ok ran).2 start

theorem consistent_of_run (commands : List LedgerCommand) : Consistent (run step {} commands) := by
  refine run_invariant step_preserves_consistent commands ⟨?_, ?_, ?_⟩
  · intro row mem
    simp at mem
  · intro row mem
    simp at mem
  · intro journalId currency
    rfl

private theorem foldl_addRow (rows : List EntryRow) (debit credit : Int) :
    rows.foldl addRow (debit, credit) =
      (debit + total amount (fun row => row.entry.side = .debit) rows,
        credit + total amount (fun row => row.entry.side = .credit) rows) := by
  induction rows generalizing debit credit with
  | nil => simp
  | cons row rows ih =>
    cases side : row.entry.side <;> simp [addRow, side, ih, total_cons, amount, add_assoc]

private theorem balanceOf_totals (accountId : Uuid) (currency : Currency) (rows : List EntryRow) :
    (balanceOf accountId currency rows).debitTotalMinor =
        total amount (fun row => row.entry.accountId = accountId && carries .debit currency row)
          rows ∧
      (balanceOf accountId currency rows).creditTotalMinor =
        total amount (fun row => row.entry.accountId = accountId && carries .credit currency row)
          rows := by
  simp only [balanceOf, foldl_addRow, total_filter, zero_add]
  constructor
  · exact total_congr fun row _ => by
      simp [onAccount, carries, Bool.and_comm, Bool.and_left_comm]
  · exact total_congr fun row _ => by
      simp [onAccount, carries, Bool.and_comm, Bool.and_left_comm]

variable {store : LedgerStore}

private theorem journal_keys_nodup : (store.journals.rows.map JournalHeader.journalId).Nodup :=
  store.journals.keys_nodup

private theorem account_keys_nodup : (store.accounts.rows.map LedgerAccount.accountId).Nodup :=
  store.accounts.keys_nodup

private theorem account_named (consistent : Consistent store) {row : EntryRow}
    (mem : row ∈ store.entries.rows) :
    row.entry.accountId ∈ store.accounts.rows.map LedgerAccount.accountId := by
  obtain ⟨account, held, _⟩ := Option.map_eq_some_iff.1 (consistent.onAccounts row mem)
  exact List.mem_map.2 ⟨account, Table.mem_of_find held, Table.key_of_find held⟩

private theorem sum_over_accounts (consistent : Consistent store) (select : EntryRow → Bool)
    {rows : List EntryRow} (part : ∀ row ∈ rows, row ∈ store.entries.rows) :
    (store.accounts.rows.map fun account =>
      total amount (fun row => row.entry.accountId = account.accountId && select row) rows).sum =
      total amount select rows := by
  have by_key := sum_totals_by_key amount select (fun row => row.entry.accountId)
    (store.accounts.rows.map LedgerAccount.accountId) account_keys_nodup rows
    fun row mem => account_named consistent (part row mem)
  rwa [List.map_map] at by_key

private theorem sum_over_journals (consistent : Consistent store) (select : EntryRow → Bool) :
    (store.journals.rows.map fun header =>
      total amount (fun row => row.journalId = header.journalId && select row)
        store.entries.rows).sum = total amount select store.entries.rows := by
  have by_key := sum_totals_by_key amount select EntryRow.journalId
    (store.journals.rows.map JournalHeader.journalId) journal_keys_nodup store.entries.rows
    consistent.inJournals
  rwa [List.map_map] at by_key

private theorem sides_agree (consistent : Consistent store) (currency : Currency) :
    total amount (carries .debit currency) store.entries.rows =
      total amount (carries .credit currency) store.entries.rows := by
  rw [← sum_over_journals consistent, ← sum_over_journals consistent]
  simp only [consistent.balanced]

/-- In every reachable ledger the nets of all accounts cancel in every currency, every journal
contributes as much debit as credit, and the contributions of the journals make up the balances. -/
theorem trial_balance (commands : List LedgerCommand) (currency : Currency) :
    let store := run step {} commands
    (store.accounts.rows.map fun account =>
        (accountBalance store account.accountId currency).netMinor).sum = 0 ∧
      (∀ header ∈ store.journals.rows,
        (store.accounts.rows.map fun account =>
          (journalContribution store header.journalId account.accountId
            currency).debitTotalMinor).sum =
        (store.accounts.rows.map fun account =>
          (journalContribution store header.journalId account.accountId
            currency).creditTotalMinor).sum) ∧
      ∀ accountId,
        (accountBalance store accountId currency).debitTotalMinor =
          (store.journals.rows.map fun header =>
            (journalContribution store header.journalId accountId currency).debitTotalMinor).sum ∧
        (accountBalance store accountId currency).creditTotalMinor =
          (store.journals.rows.map fun header =>
            (journalContribution store header.journalId accountId
              currency).creditTotalMinor).sum := by
  intro store
  have consistent : Consistent store := consistent_of_run commands
  refine ⟨?_, ?_, ?_⟩
  · have net : ∀ account : LedgerAccount,
        (accountBalance store account.accountId currency).netMinor =
          total amount
              (fun row => row.entry.accountId = account.accountId && carries .debit currency row)
              store.entries.rows -
            total amount
              (fun row => row.entry.accountId = account.accountId && carries .credit currency row)
              store.entries.rows := by
      intro account
      have totals := balanceOf_totals account.accountId currency store.entries.rows
      rw [← totals.1, ← totals.2]
      rfl
    simp only [net]
    rw [sum_map_sub, sum_over_accounts consistent _ fun _ member => member,
      sum_over_accounts consistent _ fun _ member => member, sides_agree consistent, sub_self]
  · intro header _
    have part : ∀ row ∈ store.entries.rows.filter fun row => row.journalId = header.journalId,
        row ∈ store.entries.rows := fun row member => List.mem_of_mem_filter member
    simp only [journalContribution, (balanceOf_totals _ _ _).1, (balanceOf_totals _ _ _).2]
    rw [sum_over_accounts consistent _ part, sum_over_accounts consistent _ part, total_filter,
      total_filter]
    simpa only [Bool.and_comm] using consistent.balanced header.journalId currency
  · intro accountId
    have gathered : ∀ side,
        (store.journals.rows.map fun header =>
          total amount (fun row => row.entry.accountId = accountId && carries side currency row)
            (store.entries.rows.filter fun row => row.journalId = header.journalId)).sum =
        total amount (fun row => row.entry.accountId = accountId && carries side currency row)
          store.entries.rows := by
      intro side
      rw [← sum_over_journals consistent]
      simp only [total_filter]
      congr 1
      refine List.map_congr_left fun header _ => total_congr fun row _ => ?_
      exact Bool.and_comm _ _
    simp only [journalContribution, accountBalance, (balanceOf_totals _ _ _).1,
      (balanceOf_totals _ _ _).2, gathered]
    exact ⟨trivial, trivial⟩

end Ayo.Ledger.TrialBalance
