/- digest: Journals on accounts of their book that point back at their predecessor. -/

import Ayo.Kernel.Run
import Ayo.Ledger.Repository

namespace Ayo.Ledger.Lineage

open Kernel.KeyedTable
open Kernel.Ordering (mem_orderedBy)
open Core.Values Models Repository

variable (ledger : LedgerStore)

/-- Every entry of a journal stands on an account of the journal's book. -/
def OwnBook : Prop :=
  ∀ header ∈ ledger.journals.rows, ∀ row ∈ ledger.entries.rows, row.journalId = header.journalId →
      (ledger.accounts.find row.entry.accountId).map LedgerAccount.bookId = some header.bookId
deriving Decidable

def PointsBack (entries : List EntryRow) (traceability : LedgerTraceability)
    (entry : LedgerEntry) : Prop :=
  ∀ predecessorId ∈ entry.predecessorEntryId, ∃ prior ∈ entries,
    prior.entry.entryId = predecessorId ∧
      traceability.predecessorLedgerJournalId = some prior.journalId

/-- Every entry of a journal points back. -/
def Linked : Prop :=
  ∀ header ∈ ledger.journals.rows, ∀ row ∈ ledger.entries.rows, row.journalId = header.journalId →
      PointsBack ledger.entries.rows header.traceability row.entry

def Housed : Prop :=
  ∀ row ∈ ledger.entries.rows, row.journalId ∈ ledger.journals.rows.map JournalHeader.journalId

/-- A step leaves the journals and entries and at most adds accounts, or posts one journal, which
is allowed and whose accounts exist. -/
inductive LedgerEffect (allowed : LedgerJournal → Prop) (s t : LedgerStore) : Prop
  | kept
      (accounts : ∀ {id account}, s.accounts.find id = some account →
        t.accounts.find id = some account)
      (journals : t.journals = s.journals)
      (entries : t.entries = s.entries)
  | posted (journal : LedgerJournal) (permitted : allowed journal)
      (known : ∀ entry ∈ journal.entries,
        (s.accounts.find entry.accountId).isSome = true)
      (accounts : t.accounts = s.accounts)
      (journals : t.journals.rows = s.journals.rows ++ [journal.toJournalHeader])
      (entries : t.entries.rows =
        s.entries.rows ++ journal.entries.map fun entry => ⟨journal.journalId, entry⟩)

section

variable {allowed : LedgerJournal → Prop} {s t : LedgerStore} {journal : LedgerJournal}

theorem LedgerEffect.of_eq (same : t = s) : LedgerEffect allowed s t := by
  subst same
  exact .kept (fun found => found) rfl rfl

theorem LedgerEffect.imp {weaker : LedgerJournal → Prop}
    (weaken : ∀ journal, allowed journal → weaker journal)
    (effect : LedgerEffect allowed s t) : LedgerEffect weaker s t := by
  cases effect with
  | kept accounts journals entries => exact .kept accounts journals entries
  | posted journal permitted known accounts journals entries =>
    exact .posted journal (weaken journal permitted) known accounts journals entries

theorem LedgerEffect.of_posted (permitted : allowed journal) (posted : Posted journal s t) :
    LedgerEffect allowed s t := by
  refine .posted journal permitted (fun entry mem => ?_) posted.accounts posted.journals
    posted.entries
  have currency := posted.accountCurrency entry mem
  cases found : s.accounts.find entry.accountId with
  | none => simp [found] at currency
  | some account => rfl

theorem LedgerEffect.of_reserved {idempotency : Table Core.Authorization.Reservation}
    (effect : LedgerEffect allowed { s with idempotency } t) : LedgerEffect allowed s t := by
  cases effect with
  | kept accounts journals entries => exact .kept accounts journals entries
  | posted journal permitted known accounts journals entries =>
    exact .posted journal permitted known accounts journals entries

private theorem pairs_of_posted {related : JournalHeader → EntryRow → Prop} (housed : Housed s)
    (journals : t.journals.rows = s.journals.rows ++ [journal.toJournalHeader])
    (entries : t.entries.rows =
      s.entries.rows ++ journal.entries.map fun entry => ⟨journal.journalId, entry⟩)
    (old : ∀ header ∈ s.journals.rows, ∀ row ∈ s.entries.rows,
      row.journalId = header.journalId → related header row)
    (new : ∀ entry ∈ journal.entries, related journal.toJournalHeader ⟨journal.journalId, entry⟩) :
    ∀ header ∈ t.journals.rows, ∀ row ∈ t.entries.rows,
      row.journalId = header.journalId → related header row := by
  have fresh : ∀ header ∈ s.journals.rows, header.journalId ≠ journal.journalId :=
    Table.find_eq_none.1 (Table.find_eq_none_of_rows_append journals)
  intro header headed row held same
  rw [journals, List.mem_append, List.mem_singleton] at headed
  rw [entries, List.mem_append, List.mem_map] at held
  rcases headed with oldHeader | rfl <;> rcases held with oldRow | ⟨entry, mem, rfl⟩
  · exact old header oldHeader row oldRow same
  · exact absurd same.symm (fresh header oldHeader)
  · obtain ⟨house, stays, id⟩ := List.mem_map.1 (housed row oldRow)
    exact absurd (id.trans same) (fresh house stays)
  · exact new entry mem

theorem LedgerEffect.extends (effect : LedgerEffect allowed s t) :
    Kernel.Evolution.Extends s.journals t.journals ∧
      Kernel.Evolution.Extends s.entries t.entries := by
  cases effect with
  | kept _ journals entries => exact ⟨.of_eq journals, .of_eq entries⟩
  | posted _ _ _ _ journals entries => exact ⟨.of_append journals, .of_append entries⟩

theorem LedgerEffect.housed (effect : LedgerEffect allowed s t) (housed : Housed s) : Housed t := by
  cases effect with
  | kept _ journals entries => simpa only [Housed, journals, entries] using housed
  | posted journal _ _ _ journals entries =>
    intro row held
    rw [journals, List.map_append, List.mem_append]
    rw [entries, List.mem_append, List.mem_map] at held
    rcases held with old | ⟨entry, _, rfl⟩
    · exact .inl (housed row old)
    · exact .inr (by simp)

theorem LedgerEffect.linked (effect : LedgerEffect allowed s t) (housed : Housed s)
    (pointsBack : ∀ journal, allowed journal → ∀ entry ∈ journal.entries,
      PointsBack s.entries.rows journal.traceability entry)
    (linked : Linked s) : Linked t := by
  cases effect with
  | kept _ journals entries => simpa only [Linked, journals, entries] using linked
  | posted journal permitted _ _ journals entries =>
    have grown : ∀ {traceability entry}, PointsBack s.entries.rows traceability entry →
        PointsBack t.entries.rows traceability entry := by
      intro traceability entry back predecessorId named
      obtain ⟨prior, held, found⟩ := back predecessorId named
      exact ⟨prior, entries ▸ List.mem_append_left _ held, found⟩
    exact pairs_of_posted housed journals entries
      (fun header headed row held same => grown (linked header headed row held same))
      (fun entry mem => grown (pointsBack journal permitted entry mem))

theorem LedgerEffect.ownBook (effect : LedgerEffect allowed s t) (housed : Housed s)
    (inBook : ∀ journal, allowed journal → ∀ entry ∈ journal.entries,
      ∀ account ∈ s.accounts.find entry.accountId, account.bookId = journal.bookId)
    (own : OwnBook s) : OwnBook t := by
  cases effect with
  | kept accounts journals entries =>
    intro header headed row held same
    rw [journals] at headed
    rw [entries] at held
    obtain ⟨account, found, book⟩ :=
      Option.map_eq_some_iff.1 (own header headed row held same)
    rw [accounts found, Option.map_some, book]
  | posted journal permitted known accounts journals entries =>
    unfold OwnBook
    rw [accounts]
    refine pairs_of_posted housed journals entries own fun entry mem => ?_
    obtain ⟨account, found⟩ := Option.isSome_iff_exists.1 (known entry mem)
    have book := inBook journal permitted entry mem account found
    rw [found, Option.map_some, book]

end

variable {s : LedgerStore}

theorem insertAccount_effect {allowed : LedgerJournal → Prop} {account : LedgerAccount}
    {accounts : Table LedgerAccount} (rows : accounts.rows = s.accounts.rows ++ [account]) :
    LedgerEffect allowed s { s with accounts } := by
  refine .kept (fun {id held} found => ?_) rfl rfl
  show accounts.find id = some held
  rw [Table.find_of_rows_append rows, found]
  rfl

theorem getJournal_entry {journalId : Uuid} {t : LedgerStore} {journal : LedgerJournal}
    (ran : getJournal journalId s = .ok (some journal, t)) :
    t = s ∧ journal.journalId = journalId ∧
      ∀ entry ∈ journal.entries, ⟨journalId, entry⟩ ∈ s.entries.rows := by
  obtain ⟨rfl, ⟨absent, _⟩ | ⟨found, same, held, entries⟩⟩ := getJournal_ok ran
  · cases absent
  · cases same
    refine ⟨rfl, Table.key_of_find held, fun entry mem => ?_⟩
    rw [entries, entryRows, mem_orderedBy, List.mem_map] at mem
    obtain ⟨row, listed, rfl⟩ := mem
    obtain ⟨mem, same⟩ := List.mem_filter.1 listed
    obtain rfl : row.journalId = journalId := by simpa using same
    exact mem

end Ayo.Ledger.Lineage

namespace Ayo.Ledger.RideNet

open Kernel.KeyedTable Core.Values Lineage Models Repository

variable (ledger : LedgerStore)

def rideJournals (rideId : Uuid) : List JournalHeader :=
  ledger.journals.rows.filter fun header => header.traceability.activeRideId = rideId

def rideEntries (rideId : Uuid) : List EntryRow :=
  ledger.entries.rows.filter fun row =>
    (rideJournals ledger rideId).any fun header => header.journalId = row.journalId

def rideNet (rideId accountId : Uuid) : Int :=
  (balanceOf accountId etb (rideEntries ledger rideId)).netMinor

variable (accountId : Uuid)

def signed (entry : LedgerEntry) : Int :=
  if entry.accountId = accountId ∧ entry.currency = etb then
    if entry.side = .debit then entry.amountMinor.1 else -entry.amountMinor.1
  else 0

def net (entries : List LedgerEntry) : Int :=
  (entries.map (signed accountId)).sum

theorem net_cons (entry : LedgerEntry) (entries : List LedgerEntry) :
    net accountId (entry :: entries) = signed accountId entry + net accountId entries := by
  simp [net]

private theorem sub_foldl_addRow (accountId : Uuid) (rows : List EntryRow) (debit credit : Int) :
    let totals := (rows.filter (onAccount accountId etb)).foldl addRow (debit, credit)
    totals.1 - totals.2 =
      debit - credit + (rows.map fun row => signed accountId row.entry).sum := by
  induction rows generalizing debit credit with
  | nil => simp
  | cons row rows ih =>
    intro totals
    by_cases on : row.entry.accountId = accountId ∧ row.entry.currency = etb
    · have kept : onAccount accountId etb row = true := by
        simpa [onAccount] using on
      cases side : row.entry.side with
      | debit =>
        have later := ih (debit + row.entry.amountMinor.1) credit
        simp only [totals, List.filter_cons, kept, if_true, List.foldl_cons, addRow, side,
          List.map_cons, List.sum_cons, signed, if_pos on] at later ⊢
        omega
      | credit =>
        have later := ih debit (credit + row.entry.amountMinor.1)
        simp only [totals, List.filter_cons, kept, if_true, List.foldl_cons, addRow, side,
          List.map_cons, List.sum_cons, signed, if_pos on] at later ⊢
        simp only [reduceCtorEq, if_false] at later ⊢
        omega
    · have dropped : onAccount accountId etb row = false := by
        simpa [onAccount] using on
      have later := ih debit credit
      simp only [totals, List.filter_cons, dropped, List.map_cons, List.sum_cons, signed,
        if_neg on] at later ⊢
      simpa using later

theorem rideNet_eq (rideId accountId : Uuid) :
    rideNet ledger rideId accountId =
      net accountId ((rideEntries ledger rideId).map EntryRow.entry) := by
  have folded := sub_foldl_addRow accountId (rideEntries ledger rideId) 0 0
  simp only [rideNet, balanceOf, net, List.map_map]
  simpa [Function.comp_def] using folded

section

variable {s t : LedgerStore} {journal : LedgerJournal} (housed : Housed s)
  (journals : t.journals.rows = s.journals.rows ++ [journal.toJournalHeader])
  (entries : t.entries.rows =
    s.entries.rows ++ journal.entries.map fun entry => ⟨journal.journalId, entry⟩)

include journals

theorem rideJournals_of_posted (rideId : Uuid) : rideJournals t rideId = rideJournals s rideId ++
      if journal.traceability.activeRideId = rideId then [journal.toJournalHeader] else [] := by
  unfold rideJournals
  rw [journals, List.filter_append]
  by_cases own : journal.traceability.activeRideId = rideId <;> simp [own]

include housed entries

theorem rideEntries_of_posted (rideId : Uuid) : rideEntries t rideId = rideEntries s rideId ++
      if journal.traceability.activeRideId = rideId then
        journal.entries.map fun entry => ⟨journal.journalId, entry⟩ else [] := by
  have fresh : ∀ header ∈ s.journals.rows, header.journalId ≠ journal.journalId :=
    Table.find_eq_none.1 (Table.find_eq_none_of_rows_append journals)
  unfold rideEntries
  rw [entries, List.filter_append, rideJournals_of_posted journals]
  congr 1
  · refine List.filter_congr fun row held => ?_
    have apart : journal.journalId ≠ row.journalId := by
      intro same
      obtain ⟨house, stays, id⟩ := List.mem_map.1 (housed row held)
      exact fresh house stays (id.trans same.symm)
    by_cases own : journal.traceability.activeRideId = rideId <;> simp [own, apart]
  · by_cases own : journal.traceability.activeRideId = rideId
    · rw [if_pos own, if_pos own]
      refine List.filter_eq_self.2 fun row added => ?_
      obtain ⟨entry, _, rfl⟩ := List.mem_map.1 added
      simp
    · rw [if_neg own, if_neg own, List.append_nil]
      refine List.filter_eq_nil_iff.2 fun row added => ?_
      obtain ⟨entry, _, rfl⟩ := List.mem_map.1 added
      simp only [List.any_eq_true, decide_eq_true_eq, not_exists, not_and]
      intro header mem
      exact fresh header (List.mem_of_mem_filter mem)

theorem rideNet_of_posted (rideId accountId : Uuid) :
    rideNet t rideId accountId = rideNet s rideId accountId +
      if journal.traceability.activeRideId = rideId then net accountId journal.entries else 0 := by
  rw [rideNet_eq, rideNet_eq, rideEntries_of_posted housed journals entries]
  by_cases own : journal.traceability.activeRideId = rideId
  · simp [own, net, Function.comp_def]
  · simp [own]

end

theorem rideNet_of_unnamed {ledger : LedgerStore} {rideId : Uuid}
    (none : rideJournals ledger rideId = []) (accountId : Uuid) :
    rideNet ledger rideId accountId = 0 := by
  simp [rideNet_eq, rideEntries, none, net]

end Ayo.Ledger.RideNet
