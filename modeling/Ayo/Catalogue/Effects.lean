/- digest: What a catalogue command wrote, and what every catalogue keeps. -/

import Ayo.Kernel.Run
import Ayo.Catalogue.Application

namespace Ayo.Catalogue.Effects

open Kernel.UnitOfWork Kernel.KeyedTable Core.Values Core.Authorization Models Application

/-- A category whose parents, up to a root, are so many with it, all of one merchant. -/
inductive Chain (categories : Table CatalogueCategory) : CatalogueCategory → Nat → Prop
  | root {row : CatalogueCategory} (top : row.parentCategoryId = none) : Chain categories row 1
  | child {row parent : CatalogueCategory} {parentId : Uuid} {n : Nat}
      (named : row.parentCategoryId = some parentId) (found : categories.find parentId = some parent)
      (same : parent.merchantId = row.merchantId) (rest : Chain categories parent n) :
      Chain categories row (n + 1)

def Scoped (store : CatalogueStore) (merchantId : Uuid) (categoryId : Option Uuid) : Prop :=
  ∀ id ∈ categoryId, ∃ category ∈ store.categories.find id, category.merchantId = merchantId

/-- Items keep to the categories of their merchants, and an archived one is out of sight. -/
structure CatalogueSound (store : CatalogueStore) : Prop where
  placed : ∀ item ∈ store.items.rows, Scoped store item.merchantId item.categoryId
  shallow : ∀ row ∈ store.categories.rows, ∃ n, n ≤ 4 ∧ Chain store.categories row n
  archived : ∀ item ∈ store.items.rows, item.status = .archived →
    item.availability = .hidden ∧ item.visibility = .private_

/-- What a catalogue never takes back: categories, reservations, and the merchants of its items. -/
structure Grows (s t : CatalogueStore) : Prop where
  categories : ∀ id row, s.categories.find id = some row →
    t.categories.find id = some row
  reservations : ∀ name row, s.reservations.find name = some row →
    t.reservations.find name = some row
  items : ∀ id item, s.items.find id = some item →
    ∃ later, t.items.find id = some later ∧ later.merchantId = item.merchantId

theorem Grows.refl (store : CatalogueStore) : Grows store store where
  categories _ _ found := found
  reservations _ _ found := found
  items _ item found := ⟨item, found, rfl⟩

theorem Grows.trans {first second third : CatalogueStore} (earlier : Grows first second)
    (later : Grows second third) : Grows first third where
  categories id row found := later.categories id row (earlier.categories id row found)
  reservations name row found := later.reservations name row (earlier.reservations name row found)
  items id item found := by
    obtain ⟨between, foundBetween, same⟩ := earlier.items id item found
    obtain ⟨last, foundLast, again⟩ := later.items id between foundBetween
    exact ⟨last, foundLast, again.trans same⟩

section

variable {categories : Table CatalogueCategory} {row : CatalogueCategory} {n : Nat}
  {seen : List Uuid}

theorem Chain.unique {m : Nat} (first : Chain categories row n) (second : Chain categories row m) :
    n = m := by
  induction first generalizing m with
  | root top =>
    cases second with
    | root => rfl
    | child named => rw [top] at named; cases named
  | child named found _ _ ih =>
    cases second with
    | root top => rw [top] at named; cases named
    | child named' found' _ rest' =>
      obtain rfl := Option.some.inj (named.symm.trans named')
      obtain rfl := Option.some.inj (found.symm.trans found')
      rw [ih rest']

theorem Chain.mono {later : Table CatalogueCategory}
    (grows : ∀ id row, categories.find id = some row → later.find id = some row)
    (chain : Chain categories row n) : Chain later row n := by
  induction chain with
  | root top => exact .root top
  | child named found same _ ih => exact .child named (grows _ _ found) same ih

theorem chain_of_categoryDepth
    (parents : ∀ row ∈ categories.rows, ∃ n, n ≤ 4 ∧ Chain categories row n) {left : Nat}
    {depth : Nat} (held : row ∈ categories.rows)
    (counted : categoryDepth categories left seen (some row) = .ok depth) :
    Chain categories row depth := by
  induction left generalizing seen row depth with
  | zero => cases counted
  | succ left ih =>
    rw [categoryDepth] at counted
    by_cases cyclic : row.categoryId ∈ seen
    · rw [if_pos cyclic] at counted
      cases counted
    · rw [if_neg cyclic] at counted
      obtain ⟨n, _, chain⟩ := parents row held
      cases chain with
      | root top =>
        rw [top] at counted
        simp only [Option.bind_none, categoryDepth, Except.ok.injEq] at counted
        obtain rfl := counted
        exact .root top
      | @child _ parent _ _ named found same =>
        rw [named, Option.bind_some, found] at counted
        cases above : categoryDepth categories left (row.categoryId :: seen) (some parent) with
        | error => rw [above] at counted; cases counted
        | ok d =>
          rw [above] at counted
          obtain rfl : d + 1 = depth := Except.ok.inj counted
          exact .child named found same (ih (Table.mem_of_find found) above)

theorem categoryDepth_of_chain (chain : Chain categories row n) {left : Nat} (room : n ≤ left)
    (held : row ∈ categories.rows)
    (below : ∀ id ∈ seen, ∃ other k, categories.find id = some other ∧
      Chain categories other k ∧ n < k) :
    categoryDepth categories left seen (some row) = .ok n := by
  induction chain generalizing left seen with
  | @root row top =>
    obtain ⟨left, rfl⟩ := Nat.exists_eq_add_of_le' room
    have fresh : row.categoryId ∉ seen := by
      intro repeated
      obtain ⟨other, k, found, chain, more⟩ := below _ repeated
      obtain rfl := Option.some.inj ((Table.find_of_mem held).symm.trans found)
      have same := Chain.unique chain (.root top)
      omega
    rw [categoryDepth, if_neg fresh, top]
    simp only [Option.bind_none, categoryDepth]
  | @child row parent parentId n named found same rest ih =>
    obtain ⟨left, rfl⟩ : ∃ smaller, left = smaller + 1 := ⟨left - 1, by omega⟩
    have chain : Chain categories row (n + 1) := .child named found same rest
    have fresh : row.categoryId ∉ seen := by
      intro repeated
      obtain ⟨other, k, foundOther, otherChain, more⟩ := below _ repeated
      obtain rfl := Option.some.inj ((Table.find_of_mem held).symm.trans foundOther)
      have same := Chain.unique otherChain chain
      omega
    have above : categoryDepth categories left (row.categoryId :: seen) (some parent) = .ok n := by
      refine ih (by omega) (Table.mem_of_find found) fun id mem => ?_
      obtain rfl | earlier := List.mem_cons.1 mem
      · exact ⟨row, n + 1, Table.find_of_mem held, chain, Nat.lt_succ_self n⟩
      · obtain ⟨other, k, foundOther, otherChain, more⟩ := below id earlier
        exact ⟨other, k, foundOther, otherChain, by omega⟩
    rw [categoryDepth, if_neg fresh, named, Option.bind_some, found, above]

end

variable {config : CatalogueConfig} {context : CallContext} {s t : CatalogueStore}
  {merchantId candidate : Uuid} {categoryId : Option Uuid} {operation : CatalogueOperation}
  {payload : RequestPayload}

/-- The owner of the merchant asks, with the grant to manage a catalogue of one's own. -/
structure Owns (context : CallContext) (merchantId : Uuid) : Prop where
  owner : context.owners merchantId = some context.subject.identityId
  aware : context.time.aware = true
  granted : context.grants context.subject.identityId "catalogue.manage_own" context.time = true

theorem requireOwner_ok : requireOwner context merchantId s = .ok ((), t) ↔
      Owns context merchantId ∧ s = t := by
  simp only [requireOwner, ↓require_bind_ok, ↓hasPermission_bind_ok, require_ok]
  exact ⟨fun ⟨owner, aware, granted, same⟩ => ⟨⟨owner, aware, granted⟩, same⟩,
    fun ⟨owns, same⟩ => ⟨owns.owner, owns.aware, owns.granted, same⟩⟩

theorem requireScope_ok {branchId : Option Uuid} :
    requireScope config merchantId categoryId branchId s = .ok ((), t) ↔
      Scoped s merchantId categoryId ∧
        (∀ id ∈ branchId, config.branchMerchant id = some merchantId) ∧ s = t := by
  simp only [requireScope, ↓steps_ok, require_ok]
  rfl

def Parented (store : CatalogueStore) (merchantId : Uuid) (parentCategoryId : Option Uuid) : Prop :=
  ∀ parentId ∈ parentCategoryId, ∃ parent depth, store.categories.find parentId = some parent ∧
    parent.merchantId = merchantId ∧
    categoryDepth store.categories 8 [] (some parent) = .ok depth ∧ depth < 4

theorem requireParent_ok {parentCategoryId : Option Uuid} :
    requireParent merchantId parentCategoryId s = .ok ((), t) ↔
      Parented s merchantId parentCategoryId ∧ s = t := by
  cases parentCategoryId with
  | none =>
    simp only [requireParent, pure_ok, true_and]
    exact ⟨fun same => ⟨fun _ absent => (by cases absent), same⟩, fun parented => parented.2⟩
  | some parentId =>
    simp only [requireParent, ↓steps_ok, ↓attempt_bind_ok, require_ok, Option.filter_eq_some_iff,
      decide_eq_true_eq]
    constructor
    · rintro ⟨parent, ⟨found, owned⟩, depth, counted, room, same⟩
      refine ⟨?_, same⟩
      rintro _ ⟨⟩
      exact ⟨parent, depth, found, owned, counted, room⟩
    · rintro ⟨parented, same⟩
      obtain ⟨parent, depth, found, owned, counted, room⟩ := parented parentId rfl
      exact ⟨parent, ⟨found, owned⟩, depth, counted, room, same⟩

structure Reserves (s t : CatalogueStore) : Prop where
  categories : t.categories = s.categories
  items : t.items = s.items
  reservations : ∀ name row, s.reservations.find name = some row →
    t.reservations.find name = some row

theorem reserve_ok {reference : Uuid} {created : Bool}
    (ran : reserve config context operation payload candidate s = .ok ((reference, created), t)) :
    Reserves s t ∧ (created = true → reference = candidate) ∧ ∃ row, t.reservations.find
          (context.subject.identityId, operation, context.idempotencyKey) = some row ∧
        row.requestHash = config.hash payload ∧ row.responseReference = reference := by
  unfold reserve at ran
  rw [get_bind_ok] at ran
  cases found : s.reservations.find
      (reservationOf config context operation payload candidate).name with
  | some row =>
    simp only [found, ↓steps_ok, Prod.mk.injEq] at ran
    obtain ⟨same, ⟨rfl, rfl⟩, rfl⟩ := ran
    exact ⟨⟨rfl, rfl, fun _ _ kept => kept⟩, fun absurd => (by cases absurd), row, found, same, rfl⟩
  | none =>
    simp only [found, ↓steps_ok, Prod.mk.injEq, Table.insert?_eq_some] at ran
    obtain ⟨reservations, inserted, ⟨rfl, rfl⟩, rfl⟩ := ran
    refine ⟨⟨rfl, rfl, fun name row kept => ?_⟩, fun _ => rfl, _, Table.find_of_inserted inserted,
      rfl, rfl⟩
    show reservations.find name = some row
    rw [Table.find_of_rows_append inserted, kept]
    rfl

theorem reserve_of_found {row : CatalogueReservation}
    (found : s.reservations.find
      (context.subject.identityId, operation, context.idempotencyKey) = some row) :
    reserve config context operation payload candidate s =
      .ok ((row.responseReference, false), s) ↔ row.requestHash = config.hash payload := by
  have named : s.reservations.find
      (reservationOf config context operation payload candidate).name = some row := found
  unfold reserve
  rw [get_bind_ok, named]
  simp only [↓steps_ok, and_true]
  rfl

/-- What a command that returns wrote beside its reservation. -/
inductive CatalogueEffect (s t : CatalogueStore) : Prop where
  | quiet (categories : t.categories = s.categories) (items : t.items = s.items)
  | categoryAdded (row : CatalogueCategory)
      (rows : t.categories.rows = s.categories.rows ++ [row])
      (parented : Parented s row.merchantId row.parentCategoryId)
      (items : t.items = s.items)
  | itemAdded (item : CatalogueItem) (rows : t.items.rows = s.items.rows ++ [item])
      (placed : CatalogueSound s → Scoped s item.merchantId item.categoryId)
      (categories : t.categories = s.categories)
  | itemReplaced (item old : CatalogueItem)
      (found : s.items.find item.itemId = some old)
      (same : old.merchantId = item.merchantId)
      (rows : t.items.rows = s.items.replaced item)
      (placed : CatalogueSound s → Scoped s item.merchantId item.categoryId)
      (categories : t.categories = s.categories) (raised : item.version = old.version + 1)

theorem CatalogueEffect.grows (effect : CatalogueEffect s t)
    (reservations : ∀ name row, s.reservations.find name = some row →
      t.reservations.find name = some row) : Grows s t := by
  cases effect with
  | quiet categories items =>
    exact ⟨fun _ _ found => categories ▸ found, reservations,
      fun _ item found => ⟨item, items ▸ found, rfl⟩⟩
  | categoryAdded row rows parented items =>
    refine ⟨fun id other found => ?_, reservations, fun _ item found => ⟨item, items ▸ found, rfl⟩⟩
    rw [Table.find_of_rows_append rows, found]
    rfl
  | itemAdded item rows placed categories =>
    refine ⟨fun _ _ found => categories ▸ found, reservations, fun id other found => ?_⟩
    refine ⟨other, ?_, rfl⟩
    rw [Table.find_of_rows_append rows, found]
    rfl
  | itemReplaced item old held same rows placed categories =>
    refine ⟨fun _ _ found => categories ▸ found, reservations, fun id other found => ?_⟩
    rw [Table.find_of_rows_replaced rows]
    by_cases key : id = Row.key item
    · rw [if_pos key, found]
      rw [key] at found
      obtain rfl := Option.mem_unique found held
      exact ⟨item, rfl, same.symm⟩
    · rw [if_neg key]
      exact ⟨other, found, rfl⟩

theorem Scoped.mono
    (categories : ∀ id row, s.categories.find id = some row → t.categories.find id = some row)
    (placed : Scoped s merchantId categoryId) : Scoped t merchantId categoryId := by
  intro id named
  obtain ⟨category, found, owned⟩ := placed id named
  exact ⟨category, categories id category found, owned⟩

theorem CatalogueEffect.sound (effect : CatalogueEffect s t)
    (sound : CatalogueSound s) : CatalogueSound t := by
  have hidden : ∀ item ∈ t.items.rows, item.status = .archived →
      item.availability = .hidden ∧ item.visibility = .private_ :=
    fun item _ => item.archiveIsHidden
  cases effect with
  | quiet categories items =>
    have unscoped : ∀ {m c}, Scoped s m c → Scoped t m c :=
      .mono fun _ _ found => categories ▸ found
    refine ⟨fun item held => unscoped (sound.placed item (items ▸ held)), ?_, hidden⟩
    rw [categories]
    exact sound.shallow
  | categoryAdded row rows parented items =>
    have grows : ∀ id other, s.categories.find id = some other →
        t.categories.find id = some other := by
      intro id other found
      rw [Table.find_of_rows_append rows, found]
      rfl
    refine ⟨fun item held => (sound.placed item (items ▸ held)).mono grows, ?_, hidden⟩
    intro other held
    obtain old | rfl := (mem_appended rows).1 held
    · obtain ⟨n, few, chain⟩ := sound.shallow other old
      exact ⟨n, few, chain.mono grows⟩
    · cases named : other.parentCategoryId with
      | none => exact ⟨1, by decide, .root named⟩
      | some parentId =>
        obtain ⟨parent, depth, found, owned, counted, room⟩ := parented parentId named
        have chain := chain_of_categoryDepth sound.shallow (Table.mem_of_find found) counted
        exact ⟨depth + 1, room, .child named (grows _ _ found) owned (chain.mono grows)⟩
  | itemAdded item rows placed categories =>
    have unscoped : ∀ {m c}, Scoped s m c → Scoped t m c :=
      .mono fun _ _ found => categories ▸ found
    refine ⟨fun other held => ?_, ?_, hidden⟩
    · obtain old | rfl := (mem_appended rows).1 held
      · exact unscoped (sound.placed other old)
      · exact unscoped (placed sound)
    · rw [categories]
      exact sound.shallow
  | itemReplaced item old found same rows placed categories =>
    have unscoped : ∀ {m c}, Scoped s m c → Scoped t m c :=
      .mono fun _ _ found => categories ▸ found
    refine ⟨fun other held => ?_, ?_, hidden⟩
    · rw [rows, Table.mem_replaced] at held
      obtain ⟨rfl, _⟩ | ⟨old, _⟩ := held
      · exact unscoped (placed sound)
      · exact unscoped (sound.placed other old)
    · rw [categories]
      exact sound.shallow

section

def OnRecord (config : CatalogueConfig) (store : CatalogueStore) (context : CallContext)
    (operation : CatalogueOperation) (payload : RequestPayload) (reference : Uuid) : Prop :=
  ∃ row, store.reservations.find
      (context.subject.identityId, operation, context.idempotencyKey) = some row ∧
    row.requestHash = config.hash payload ∧ row.responseReference = reference

structure Done (s t : CatalogueStore) : Prop where
  effect : CatalogueEffect s t
  reservations : ∀ name row, s.reservations.find name = some row →
    t.reservations.find name = some row

theorem Reserves.done (reserves : Reserves s t) : Done s t :=
  ⟨.quiet reserves.categories reserves.items, reserves.reservations⟩

theorem Reserves.followed {reserved : CatalogueStore} (reserves : Reserves s reserved)
    (effect : CatalogueEffect reserved t) (same : t.reservations = reserved.reservations) :
    Done s t := by
  obtain ⟨categories, items, reservations⟩ := reserves
  refine ⟨?_, fun name row found => same ▸ reservations name row found⟩
  obtain ⟨_, _, _, _⟩ := s
  obtain ⟨_, _, _, _⟩ := reserved
  obtain rfl := categories
  obtain rfl := items
  cases effect with
  | quiet categories items => exact .quiet categories items
  | categoryAdded row rows parented items => exact .categoryAdded row rows parented items
  | itemAdded item rows placed categories =>
    exact .itemAdded item rows
      (fun sound => placed ⟨sound.placed, sound.shallow, sound.archived⟩) categories
  | itemReplaced item old found merchant rows placed categories raised =>
    exact .itemReplaced item old found merchant rows
      (fun sound => placed ⟨sound.placed, sound.shallow, sound.archived⟩) categories raised

variable {itemId merchantId : Uuid} {fields : ItemFields} {item saved old : CatalogueItem}
  {status : ItemStatus} {eventType : String} {expected : Int}

theorem validateItem_ok {sourceItemId : Option Uuid} {version : Int} {createdAt updatedAt : Instant}
    (ran : validateItem config fields itemId merchantId status sourceItemId version createdAt
      updatedAt s = .ok (item, t)) :
    item.itemId = itemId ∧ item.merchantId = merchantId ∧ item.categoryId = fields.categoryId ∧
      item.version = version ∧ t = s := by
  simp only [validateItem, ↓require_bind_ok] at ran
  obtain ⟨_, _, ran⟩ := ran
  split at ran
  · obtain ⟨rfl, rfl⟩ := pure_ok.1 ran
    exact ⟨rfl, rfl, rfl, rfl, rfl⟩
  · exact (throw_ok.1 ran).elim

theorem insertItem_ok {inserted : CatalogueItem}
    (ran : insertItem item eventType s = .ok (inserted, t)) :
    inserted = item ∧ t.items.rows = s.items.rows ++ [item] ∧
      t.categories = s.categories ∧ t.reservations = s.reservations := by
  simp only [insertItem, appendEvent, bind_assoc, ↓steps_ok, Table.insert?_eq_some] at ran
  obtain ⟨items, rows, rfl, rfl⟩ := ran
  exact ⟨rfl, rows, rfl, rfl⟩

theorem updateItem_ok (ran : updateItem item expected eventType s = .ok (saved, t)) :
    saved.itemId = item.itemId ∧ saved.merchantId = item.merchantId ∧
      saved.categoryId = item.categoryId ∧ saved.version = item.version ∧
      (∃ row, s.items.find item.itemId = some row ∧ row.merchantId = item.merchantId ∧
        row.version = expected) ∧
      t.items.rows = s.items.replaced saved ∧
      t.categories = s.categories ∧ t.reservations = s.reservations := by
  simp only [updateItem, appendEvent, bind_assoc, ↓steps_ok, Table.replace?_eq_some,
    Option.filter_eq_some_iff, decide_eq_true_eq] at ran
  obtain ⟨row, ⟨found, same⟩, items, rows, rfl, rfl⟩ := ran
  exact ⟨rfl, rfl, rfl, rfl, ⟨row, found, same⟩, rows, rfl, rfl⟩

theorem updateItem_done
    (held : old ∈ s.items.rows) (placed : Scoped s item.merchantId item.categoryId ∨
      item.merchantId = old.merchantId ∧ item.categoryId = old.categoryId)
    (raised : item.version = expected + 1)
    (ran : updateItem item expected eventType s = .ok (saved, t)) :
    CatalogueEffect s t ∧ t.reservations = s.reservations ∧
      t.items.find item.itemId = some saved := by
  obtain ⟨sameId, sameMerchant, sameCategory, sameVersion, ⟨row, found, owned, rfl⟩, rows,
    categories, reservations⟩ := updateItem_ok ran
  refine ⟨.itemReplaced saved row (sameId ▸ found) (owned.trans sameMerchant.symm) rows
    (fun sound => ?_) categories (sameVersion.trans raised), reservations, ?_⟩
  · rw [sameMerchant, sameCategory]
    obtain scope | ⟨merchant, category⟩ := placed
    · exact scope
    · rw [merchant, category]
      exact sound.placed old held
  · have key : item.itemId = Row.key saved := sameId.symm
    rw [Table.find_of_rows_replaced rows, if_pos key, found]
    rfl

theorem ownedItem_ok (ran : ownedItem context itemId s = .ok (old, t)) :
    s.items.find itemId = some old ∧ Owns context old.merchantId ∧ t = s := by
  simp only [ownedItem, ↓steps_ok] at ran
  obtain ⟨found, held, ran⟩ := ran
  obtain ⟨⟨⟩, between, owned, finished⟩ := bind_ok.1 ran
  obtain ⟨owns, rfl⟩ := requireOwner_ok.1 owned
  obtain ⟨rfl, rfl⟩ := pure_ok.1 finished
  exact ⟨held, owns, rfl⟩

theorem createCategory_ok {parentCategoryId : Option Uuid} {name : String}
    {description : Option String} {sortOrder : Int} {category : CatalogueCategory}
    (ran : createCategory config context merchantId parentCategoryId name description sortOrder
      s = .ok (category, t)) :
    Parented s merchantId parentCategoryId ∧ Done s t ∧
      ∃ reference, OnRecord config t context .createCategory
        (.category merchantId parentCategoryId name description sortOrder) reference ∧
        t.categories.find reference = some category := by
  rw [createCategory, bind_ok] at ran
  obtain ⟨⟨⟩, _, owned, ran⟩ := ran
  obtain ⟨owns, rfl⟩ := requireOwner_ok.1 owned
  rw [bind_ok] at ran
  obtain ⟨⟨⟩, _, allowed, ran⟩ := ran
  obtain ⟨parented, rfl⟩ := requireParent_ok.1 allowed
  rw [bind_ok] at ran
  obtain ⟨⟨reference, created⟩, reserved, reserves, ran⟩ := ran
  obtain ⟨beside, _, row, found, hashed, referred⟩ := reserve_ok reserves
  rw [get_bind_ok] at ran
  refine ⟨parented, ?_⟩
  rw [whenSome_ok] at ran
  obtain ⟨existing, held, ran⟩ | ⟨_, ran⟩ := ran
  · obtain ⟨rfl, rfl⟩ := pure_ok.1 ran
    exact ⟨beside.done, reference, ⟨row, found, hashed, referred⟩, held⟩
  · simp only [newCategory, insertCategory, bind_assoc, pure_bind, ↓steps_ok,
    Table.insert?_eq_some] at ran
    obtain ⟨_, _, _, _, categories, rows, rfl, rfl⟩ := ran
    have below : Parented reserved merchantId parentCategoryId := by
      rw [Parented, beside.categories]
      exact parented
    exact ⟨beside.followed (.categoryAdded _ rows below rfl) rfl, reference,
      ⟨row, found, hashed, referred⟩, Table.find_of_inserted rows⟩

theorem createItem_ok (ran : createItem config context merchantId fields s = .ok (item, t)) :
    Scoped s merchantId fields.categoryId ∧
      (∀ id ∈ fields.branchId, config.branchMerchant id = some merchantId) ∧ Done s t ∧
      ∃ reference, OnRecord config t context .createItem (.item merchantId fields) reference ∧
        t.items.find reference = some item := by
  rw [createItem, bind_ok] at ran
  obtain ⟨⟨⟩, _, owned, ran⟩ := ran
  obtain ⟨owns, rfl⟩ := requireOwner_ok.1 owned
  rw [bind_ok] at ran
  obtain ⟨⟨⟩, _, allowed, ran⟩ := ran
  obtain ⟨placed, branch, rfl⟩ := requireScope_ok.1 allowed
  rw [bind_ok] at ran
  obtain ⟨⟨reference, created⟩, reserved, reserves, ran⟩ := ran
  obtain ⟨beside, _, row, found, hashed, referred⟩ := reserve_ok reserves
  rw [get_bind_ok] at ran
  refine ⟨placed, branch, ?_⟩
  rw [whenSome_ok] at ran
  obtain ⟨existing, held, ran⟩ | ⟨_, ran⟩ := ran
  · obtain ⟨rfl, rfl⟩ := pure_ok.1 ran
    exact ⟨beside.done, reference, ⟨row, found, hashed, referred⟩, held⟩
  · rw [bind_ok] at ran
    obtain ⟨fresh, checked, validates, ran⟩ := ran
    obtain ⟨rfl, rfl, category, _, rfl⟩ := validateItem_ok validates
    obtain ⟨rfl, rows, categories, reservations⟩ := insertItem_ok ran
    have inside : Scoped checked item.merchantId item.categoryId := by
      rw [Scoped, beside.categories, category]
      exact placed
    exact ⟨beside.followed (.itemAdded item rows (fun _ => inside) categories) reservations,
      item.itemId, ⟨row, reservations ▸ found, hashed, referred⟩, Table.find_of_inserted rows⟩

theorem duplicate_ok (ran : duplicate config context itemId s = .ok (item, t)) :
    ∃ old, s.items.find itemId = some old ∧ Done s t ∧
      ∃ reference, OnRecord config t context (.duplicate itemId)
        (.duplicate itemId old.version) reference ∧
        t.items.find reference = some item := by
  rw [duplicate, bind_ok] at ran
  obtain ⟨old, _, owned, ran⟩ := ran
  obtain ⟨source, owns, rfl⟩ := ownedItem_ok owned
  rw [bind_ok] at ran
  obtain ⟨⟨reference, created⟩, reserved, reserves, ran⟩ := ran
  obtain ⟨beside, _, row, found, hashed, referred⟩ := reserve_ok reserves
  rw [get_bind_ok] at ran
  refine ⟨old, source, ?_⟩
  rw [whenSome_ok] at ran
  obtain ⟨existing, held, ran⟩ | ⟨_, ran⟩ := ran
  · obtain ⟨rfl, rfl⟩ := pure_ok.1 ran
    exact ⟨beside.done, reference, ⟨row, found, hashed, referred⟩, held⟩
  · rw [bind_ok] at ran
    obtain ⟨copy, checked, validates, ran⟩ := ran
    obtain ⟨rfl, merchant, category, version, rfl⟩ := validateItem_ok validates
    obtain ⟨rfl, rows, categories, reservations⟩ := insertItem_ok ran
    have held : old ∈ checked.items.rows := beside.items ▸ Table.mem_of_find source
    have inside : CatalogueSound checked → Scoped checked item.merchantId item.categoryId := by
      intro sound
      rw [merchant, category]
      exact sound.placed old held
    exact ⟨beside.followed (.itemAdded item rows inside categories) reservations, item.itemId,
      ⟨row, reservations ▸ found, hashed, referred⟩, Table.find_of_inserted rows⟩

structure Changed (config : CatalogueConfig) (s t : CatalogueStore)
    (context : CallContext) (operation : CatalogueOperation) (payload : RequestPayload)
    (itemId : Uuid) (item : CatalogueItem) : Prop where
  source : ∃ current, s.items.find itemId = some current
  done : Done s t
  record : OnRecord config t context operation payload itemId
  answer : t.items.find itemId = some item

theorem editItem_ok (ran : editItem config context itemId expected fields status s = .ok (item, t))
    :
    Changed config s t context (.edit itemId) (.edit expected fields status) itemId item := by
  rw [editItem, bind_ok] at ran
  obtain ⟨old, _, owned, ran⟩ := ran
  obtain ⟨source, owns, rfl⟩ := ownedItem_ok owned
  rw [bind_ok] at ran
  obtain ⟨⟨reference, created⟩, reserved, reserves, ran⟩ := ran
  obtain ⟨beside, _, row, found, hashed, referred⟩ := reserve_ok reserves
  simp only [↓require_bind_ok, ite_ok] at ran
  obtain ⟨rfl, ⟨_, ran⟩ | ⟨_, ran⟩⟩ := ran
  · obtain ⟨rfl, rfl⟩ := pure_ok.1 ran
    exact ⟨⟨_, source⟩, beside.done, ⟨row, found, hashed, referred⟩, beside.items ▸ source⟩
  · rw [bind_ok] at ran
    obtain ⟨⟨⟩, _, allowed, ran⟩ := ran
    obtain ⟨placed, _, rfl⟩ := requireScope_ok.1 allowed
    rw [require_bind_ok] at ran
    obtain ⟨_, ran⟩ := ran
    rw [bind_ok] at ran
    obtain ⟨updated, checked, validates, ran⟩ := ran
    obtain ⟨rfl, merchant, category, version, rfl⟩ := validateItem_ok validates
    have held : old ∈ checked.items.rows := beside.items ▸ Table.mem_of_find source
    rw [← merchant, ← category] at placed
    obtain ⟨effect, reservations, answer⟩ := updateItem_done held (.inl placed) version ran
    exact ⟨⟨old, source⟩, beside.followed effect reservations,
      ⟨row, reservations ▸ found, hashed, referred⟩, answer⟩

theorem lifecycle_ok {target : ItemStatus}
    (ran : lifecycle config context operation target eventType itemId expected s = .ok (item, t)) :
    (∃ old, s.items.find itemId = some old) ∧ Done s t ∧
      (∃ reference, OnRecord config t context operation (.lifecycle expected) reference) ∧
      t.items.find itemId = some item := by
  rw [lifecycle, bind_ok] at ran
  obtain ⟨old, _, owned, ran⟩ := ran
  obtain ⟨source, owns, rfl⟩ := ownedItem_ok owned
  rw [bind_ok] at ran
  obtain ⟨⟨reference, created⟩, reserved, reserves, ran⟩ := ran
  obtain ⟨beside, _, row, found, hashed, referred⟩ := reserve_ok reserves
  rw [ite_ok] at ran
  obtain ⟨_, ran⟩ | ⟨_, ran⟩ := ran
  · obtain ⟨rfl, rfl⟩ := pure_ok.1 ran
    exact ⟨⟨_, source⟩, beside.done, ⟨_, row, found, hashed, referred⟩, beside.items ▸ source⟩
  · rw [require_bind_ok] at ran
    obtain ⟨_, ran⟩ := ran
    rw [bind_ok] at ran
    obtain ⟨updated, checked, validates, ran⟩ := ran
    obtain ⟨rfl, merchant, category, version, rfl⟩ := validateItem_ok validates
    have held : old ∈ checked.items.rows := beside.items ▸ Table.mem_of_find source
    obtain ⟨effect, reservations, answer⟩ :=
      updateItem_done held (.inr ⟨merchant, category⟩) version ran
    exact ⟨⟨old, source⟩, beside.followed effect reservations,
      ⟨_, row, reservations ▸ found, hashed, referred⟩, answer⟩

end

end Ayo.Catalogue.Effects
