/- digest: A repeated catalogue command answers as before, but for a copy of an edited item. -/

import Ayo.Catalogue.Effects

namespace Ayo.Catalogue.Replays

open Kernel.UnitOfWork Kernel.KeyedTable Kernel.Run Core.Values Models Application Effects

def actsFor (store : CatalogueStore) : CatalogueCommand → Option Uuid
  | .createCategory merchantId _ _ _ _ => some merchantId
  | .createItem merchantId _ => some merchantId
  | .editItem itemId _ _ _ => (store.items.find itemId).map CatalogueItem.merchantId
  | .archive itemId _ => (store.items.find itemId).map CatalogueItem.merchantId
  | .restore itemId _ => (store.items.find itemId).map CatalogueItem.merchantId
  | .duplicate itemId => (store.items.find itemId).map CatalogueItem.merchantId

/-- The same actor makes the same command under the same key. -/
structure Repeats (again first : CatalogueCall) : Prop where
  actor : again.context.subject.identityId = first.context.subject.identityId
  key : again.context.idempotencyKey = first.context.idempotencyKey
  command : again.command = first.command

variable (config : CatalogueConfig)

/-- An answer names what an earlier answer named: the category, or the item as it now stands. -/
def SameAnswer (store : CatalogueStore) :
    CatalogueAnswer → CatalogueAnswer → Prop
  | .category category, answer => answer = .category category
  | .item view, answer => ∃ item ∈ store.items.find view.item.itemId,
      answer = .item (viewOf config item)

/-- The call answers as before and leaves the store as it is. -/
def AnswersAgain (store : CatalogueStore) (call : CatalogueCall) (earlier : CatalogueAnswer) :
    Prop :=
  ∃ answer, call.body config store = .ok (answer, store) ∧ SameAnswer config store earlier answer

/-- A copied item still has the version that was copied. -/
def SourceUnmoved (before after : CatalogueStore) : CatalogueCommand → Prop
  | .duplicate itemId => (after.items.find itemId).map CatalogueItem.version =
      (before.items.find itemId).map CatalogueItem.version
  | _ => True

def stateAt (calls : List CatalogueCall) (n : Nat) : CatalogueStore :=
  run (catalogueStep config) {} (calls.take n)

variable {config : CatalogueConfig} {s t later : CatalogueStore} {context repeated : CallContext}

theorem body_done {call : CatalogueCall} {answer : CatalogueAnswer}
    (ran : call.body config s = .ok (answer, t)) : Done s t := by
  unfold CatalogueCall.body answered at ran
  cases command : call.command with
  | createCategory =>
    rw [command] at ran
    obtain ⟨_, created, _⟩ := bind_pure_ok.1 ran
    exact (createCategory_ok created).2.1
  | createItem =>
    rw [command] at ran
    obtain ⟨_, created, _⟩ := bind_pure_ok.1 ran
    exact (createItem_ok created).2.2.1
  | editItem =>
    rw [command] at ran
    obtain ⟨_, edited, _⟩ := bind_pure_ok.1 ran
    exact (editItem_ok edited).done
  | archive =>
    rw [command] at ran
    obtain ⟨_, archived, _⟩ := bind_pure_ok.1 ran
    exact (lifecycle_ok archived).2.1
  | restore =>
    rw [command] at ran
    obtain ⟨_, restored, _⟩ := bind_pure_ok.1 ran
    exact (lifecycle_ok restored).2.1
  | duplicate =>
    rw [command] at ran
    obtain ⟨_, copied, _⟩ := bind_pure_ok.1 ran
    obtain ⟨_, _, done, _⟩ := duplicate_ok copied
    exact done

theorem catalogueStep_grows (store : CatalogueStore) (call : CatalogueCall) :
    Grows store (catalogueStep config store call) := by
  refine commit_related (R := Grows) _ store (.refl store) fun answer next ran => ?_
  have done := body_done ran
  exact done.effect.grows done.reservations

theorem catalogueStep_sound (store : CatalogueStore) (call : CatalogueCall)
    (sound : CatalogueSound store) : CatalogueSound (catalogueStep config store call) := by
  obtain stays | ⟨answer, ran⟩ := commit_cases (call.body config) store
  · unfold catalogueStep
    rw [stays]
    exact sound
  · exact (body_done ran).effect.sound sound

theorem sound_at (calls : List CatalogueCall) (n : Nat) :
    CatalogueSound (stateAt config calls n) := by
  refine run_invariant catalogueStep_sound _ ⟨?_, ?_, ?_⟩
  · intro item held
    cases held
  · intro row held
    cases held
  · intro item held
    cases held

theorem grows_between {calls : List CatalogueCall} {n m : Nat} (le : n ≤ m) :
    Grows (stateAt config calls n) (stateAt config calls m) :=
  run_take_related (R := Grows) .refl .trans catalogueStep_grows _ calls le

section

variable {itemId merchantId : Uuid} {fields : ItemFields} {parentCategoryId : Option Uuid}
  {operation : CatalogueOperation} {old item source : CatalogueItem} {expected : Int}

theorem parented_of_grows (grows : Grows s later) (sound : CatalogueSound s)
    (parented : Parented s merchantId parentCategoryId) :
    Parented later merchantId parentCategoryId := by
  intro parentId named
  obtain ⟨parent, depth, found, owned, counted, room⟩ := parented parentId named
  have chain := (chain_of_categoryDepth sound.shallow (Table.mem_of_find found) counted).mono
    grows.categories
  have found := grows.categories parentId parent found
  have held := Table.mem_of_find found
  have again : categoryDepth later.categories 8 [] (some parent) = .ok depth :=
    categoryDepth_of_chain chain (by omega) held fun id absent => by cases absent
  exact ⟨parent, depth, found, owned, again, room⟩

theorem reserve_again {payload : RequestPayload} {reference : Uuid} (candidate : Uuid)
    (grows : Grows t later) (record : OnRecord config t context operation payload reference)
    (actor : repeated.subject.identityId = context.subject.identityId)
    (key : repeated.idempotencyKey = context.idempotencyKey) :
    reserve config repeated operation payload candidate later = .ok ((reference, false), later) := by
  obtain ⟨row, found, hashed, rfl⟩ := record
  rw [← actor, ← key] at found
  exact (reserve_of_found (grows.reservations _ row found)).2 hashed

theorem ownedItem_again (found : later.items.find itemId = some old)
    (owns : Owns repeated old.merchantId) : ownedItem repeated itemId later = .ok (old, later) := by
  rw [ownedItem, get_bind_ok, demand_bind_ok]
  refine ⟨old, found, bind_ok.2 ⟨(), later, requireOwner_ok.2 ⟨owns, rfl⟩, ?_⟩⟩
  exact pure_ok.2 ⟨rfl, rfl⟩

theorem createCategory_again {name : String}
    {description : Option String} {sortOrder : Int} {category : CatalogueCategory}
    (ran : createCategory config context merchantId parentCategoryId name description sortOrder
      s = .ok (category, t))
    (sound : CatalogueSound s) (sooner : Grows s t) (grows : Grows t later)
    (actor : repeated.subject.identityId = context.subject.identityId)
    (key : repeated.idempotencyKey = context.idempotencyKey) (owns : Owns repeated merchantId) :
    createCategory config repeated merchantId parentCategoryId name description sortOrder later =
      .ok (category, later) := by
  obtain ⟨parented, _, reference, record, found⟩ := createCategory_ok ran
  have reserved := reserve_again repeated.candidate grows record actor key
  have found := grows.categories reference category found
  have parented := parented_of_grows (sooner.trans grows) sound parented
  simp only [createCategory, bind_ok, get_ok]
  refine ⟨(), later, requireOwner_ok.2 ⟨owns, rfl⟩, (), later, requireParent_ok.2 ⟨parented, rfl⟩,
    (reference, false), later, reserved, later, later, ⟨rfl, rfl⟩, ?_⟩
  rw [whenSome_ok]
  exact .inl ⟨category, found, pure_ok.2 ⟨rfl, rfl⟩⟩

theorem createItem_again (ran : createItem config context merchantId fields s = .ok (item, t))
    (sooner : Grows s t) (grows : Grows t later)
    (actor : repeated.subject.identityId = context.subject.identityId)
    (key : repeated.idempotencyKey = context.idempotencyKey) (owns : Owns repeated merchantId) :
    ∃ old, later.items.find item.itemId = some old ∧
      createItem config repeated merchantId fields later = .ok (old, later) := by
  obtain ⟨placed, branch, _, reference, record, found⟩ := createItem_ok ran
  have reserved := reserve_again repeated.candidate grows record actor key
  obtain rfl : item.itemId = reference := Table.key_of_find found
  obtain ⟨old, held, _⟩ := grows.items _ item found
  refine ⟨old, held, ?_⟩
  simp only [createItem, bind_ok, get_ok]
  refine ⟨(), later, requireOwner_ok.2 ⟨owns, rfl⟩, (), later,
    requireScope_ok.2 ⟨placed.mono (sooner.trans grows).categories, branch, rfl⟩,
    (item.itemId, false), later, reserved, later, later, ⟨rfl, rfl⟩, ?_⟩
  rw [whenSome_ok]
  exact .inl ⟨old, held, pure_ok.2 ⟨rfl, rfl⟩⟩

theorem editItem_again {status : ItemStatus}
    (ran : editItem config context itemId expected fields status s = .ok (item, t))
    (grows : Grows t later) (actor : repeated.subject.identityId = context.subject.identityId)
    (key : repeated.idempotencyKey = context.idempotencyKey)
    (held : later.items.find itemId = some old) (owns : Owns repeated old.merchantId) :
    editItem config repeated itemId expected fields status later = .ok (old, later) := by
  have reserved := reserve_again itemId grows (editItem_ok ran).record actor key
  rw [editItem, bind_ok]
  refine ⟨old, later, ownedItem_again held owns, ?_⟩
  rw [bind_ok]
  refine ⟨(itemId, false), later, reserved, ?_⟩
  rw [require_bind_ok, ite_ok]
  exact ⟨rfl, .inl ⟨rfl, pure_ok.2 ⟨rfl, rfl⟩⟩⟩

theorem lifecycle_again {target : ItemStatus} {eventType : String}
    (ran : lifecycle config context operation target eventType itemId expected s = .ok (item, t))
    (grows : Grows t later) (actor : repeated.subject.identityId = context.subject.identityId)
    (key : repeated.idempotencyKey = context.idempotencyKey)
    (held : later.items.find itemId = some old) (owns : Owns repeated old.merchantId) :
    lifecycle config repeated operation target eventType itemId expected later =
      .ok (old, later) := by
  obtain ⟨_, _, ⟨reference, record⟩, _⟩ := lifecycle_ok ran
  have reserved := reserve_again itemId grows record actor key
  rw [lifecycle, bind_ok]
  refine ⟨old, later, ownedItem_again held owns, ?_⟩
  rw [bind_ok]
  refine ⟨(reference, false), later, reserved, ?_⟩
  rw [ite_ok]
  exact .inl ⟨.inl rfl, pure_ok.2 ⟨rfl, rfl⟩⟩

theorem duplicate_again (ran : duplicate config context itemId s = .ok (item, t))
    (copied : s.items.find itemId = some source) (grows : Grows t later)
    (actor : repeated.subject.identityId = context.subject.identityId)
    (key : repeated.idempotencyKey = context.idempotencyKey)
    (held : later.items.find itemId = some old) (owns : Owns repeated old.merchantId) :
    (config.hash (.duplicate itemId source.version) = config.hash (.duplicate itemId old.version) →
      ∃ kept, later.items.find item.itemId = some kept ∧
        duplicate config repeated itemId later = .ok (kept, later)) ∧
    (∀ kept, duplicate config repeated itemId later = .ok (kept, later) →
      config.hash (.duplicate itemId source.version) =
        config.hash (.duplicate itemId old.version)) := by
  obtain ⟨_, sourced, _, reference, ⟨row, found, hashed, rfl⟩, answered⟩ := duplicate_ok ran
  obtain rfl := Option.mem_unique copied sourced
  obtain same : item.itemId = row.responseReference := Table.key_of_find answered
  have recorded := grows.reservations _ row found
  rw [← actor, ← key] at recorded
  constructor
  · intro equal
    obtain ⟨kept, foundKept, _⟩ := grows.items _ item answered
    refine ⟨kept, same ▸ foundKept, ?_⟩
    rw [duplicate, bind_ok]
    refine ⟨old, later, ownedItem_again held owns, ?_⟩
    rw [bind_ok]
    refine ⟨(row.responseReference, false), later,
      (reserve_of_found recorded).2 (hashed.trans equal), ?_⟩
    rw [get_bind_ok, whenSome_ok]
    exact .inl ⟨kept, foundKept, pure_ok.2 ⟨rfl, rfl⟩⟩
  · intro kept repeatedly
    obtain ⟨source', found', _, _, ⟨row', recorded', hashed', _⟩, _⟩ := duplicate_ok repeatedly
    obtain rfl := Option.some.inj (held.symm.trans found')
    obtain rfl := Option.some.inj (recorded.symm.trans recorded')
    exact hashed.symm.trans hashed'

theorem still_owned (found : s.items.find itemId = some source) (grows : Grows s later)
    (owns : ∀ merchantId ∈ (s.items.find itemId).map CatalogueItem.merchantId,
      Owns repeated merchantId) :
    ∃ old, later.items.find itemId = some old ∧ Owns repeated old.merchantId := by
  obtain ⟨old, held, same⟩ := grows.items itemId source found
  refine ⟨old, held, same ▸ owns _ ?_⟩
  rw [found]
  rfl

end

theorem answersAgain_iff
    (distinct : ∀ id v w, config.hash (.duplicate id v) = config.hash (.duplicate id w) → v = w)
    {first again : CatalogueCall} {answer : CatalogueAnswer}
    (ran : first.body config s = .ok (answer, t)) (sound : CatalogueSound s)
    (grows : Grows t later) (repeats : Repeats again first)
    (owns : ∀ merchantId ∈ actsFor s first.command, Owns again.context merchantId) :
    AnswersAgain config later again answer ↔ SourceUnmoved s later first.command := by
  have done := body_done ran
  have sooner := done.effect.grows done.reservations
  obtain ⟨actor, key, command⟩ := repeats
  unfold AnswersAgain CatalogueCall.body answered
  rw [command]
  unfold CatalogueCall.body answered at ran
  cases kind : first.command with
  | createCategory =>
    rw [kind] at ran owns
    obtain ⟨category, created, rfl⟩ := bind_pure_ok.1 ran
    have repetition := createCategory_again created sound sooner grows actor key (owns _ rfl)
    refine iff_of_true ⟨.category category, ?_, rfl⟩ trivial
    exact bind_ok.2 ⟨category, later, repetition, pure_ok.2 ⟨rfl, rfl⟩⟩
  | createItem =>
    rw [kind] at ran owns
    obtain ⟨item, created, rfl⟩ := bind_pure_ok.1 ran
    obtain ⟨old, found, repetition⟩ :=
      createItem_again created sooner grows actor key (owns _ rfl)
    refine iff_of_true ⟨.item (viewOf config old), ?_, old, found, rfl⟩ trivial
    exact bind_ok.2 ⟨old, later, repetition, pure_ok.2 ⟨rfl, rfl⟩⟩
  | editItem itemId =>
    rw [kind] at ran owns
    obtain ⟨item, edited, rfl⟩ := bind_pure_ok.1 ran
    have new := editItem_ok edited
    obtain ⟨source, sourced⟩ := new.source
    obtain ⟨old, held, owned⟩ := still_owned sourced (sooner.trans grows) owns
    have repetition := editItem_again edited grows actor key held owned
    have same : item.itemId = itemId := Table.key_of_find new.answer
    refine iff_of_true ⟨.item (viewOf config old), ?_, old, same ▸ held, rfl⟩ trivial
    exact bind_ok.2 ⟨old, later, repetition, pure_ok.2 ⟨rfl, rfl⟩⟩
  | archive itemId | restore itemId =>
    rw [kind] at ran owns
    obtain ⟨item, moved, rfl⟩ := bind_pure_ok.1 ran
    obtain ⟨⟨source, sourced⟩, _, _, answered⟩ := lifecycle_ok moved
    obtain ⟨old, held, owned⟩ := still_owned sourced (sooner.trans grows) owns
    have repetition := lifecycle_again moved grows actor key held owned
    have same : item.itemId = itemId := Table.key_of_find answered
    refine iff_of_true ⟨.item (viewOf config old), ?_, old, same ▸ held, rfl⟩ trivial
    exact bind_ok.2 ⟨old, later, repetition, pure_ok.2 ⟨rfl, rfl⟩⟩
  | duplicate itemId =>
    rw [kind] at ran owns
    obtain ⟨item, copied, rfl⟩ := bind_pure_ok.1 ran
    obtain ⟨source, sourced, _⟩ := duplicate_ok copied
    obtain ⟨old, held, owned⟩ := still_owned sourced (sooner.trans grows) owns
    obtain ⟨accepted, matched⟩ := duplicate_again copied sourced grows actor key held owned
    have versions : SourceUnmoved s later (.duplicate itemId) ↔ old.version = source.version := by
      simp [SourceUnmoved, held, sourced]
    rw [versions]
    constructor
    · rintro ⟨answer, repetition, _⟩
      obtain ⟨kept, repetition, _⟩ := bind_pure_ok.1 repetition
      exact (distinct _ _ _ (matched kept repetition)).symm
    · intro unmoved
      obtain ⟨kept, found, repetition⟩ := accepted (by rw [unmoved])
      refine ⟨.item (viewOf config kept), ?_, kept, found, rfl⟩
      exact bind_ok.2 ⟨kept, later, repetition, pure_ok.2 ⟨rfl, rfl⟩⟩

/-- Whatever is called is answered again when it is repeated later by an owner. -/
def ActsOnce (config : CatalogueConfig) (calls : List CatalogueCall) : Prop :=
  ∀ (n m : Nat) (first again : CatalogueCall) (answer : CatalogueAnswer) (after : CatalogueStore),
    calls[n]? = some first → n < m →
    first.body config (stateAt config calls n) = .ok (answer, after) → Repeats again first →
    (∀ merchantId ∈ actsFor (stateAt config calls n) first.command, Owns again.context merchantId) →
    AnswersAgain config (stateAt config calls m) again answer

/-- In every run catalogues are sound, and a repeated command is answered as before without a write
exactly when an item that it copies has the version that was copied. -/
theorem acts_once_iff_source_unmoved
    (distinct : ∀ id v w, config.hash (.duplicate id v) = config.hash (.duplicate id w) → v = w)
    (calls : List CatalogueCall) :
    (∀ n, CatalogueSound (stateAt config calls n)) ∧
      ∀ (n m : Nat) (first again : CatalogueCall) (answer : CatalogueAnswer)
        (after : CatalogueStore), calls[n]? = some first → n < m →
        first.body config (stateAt config calls n) = .ok (answer, after) → Repeats again first →
        (∀ merchantId ∈ actsFor (stateAt config calls n) first.command,
          Owns again.context merchantId) →
        (AnswersAgain config (stateAt config calls m) again answer ↔
          SourceUnmoved (stateAt config calls n) (stateAt config calls m) first.command) := by
  refine ⟨sound_at calls, fun n m first again answer after taken lt success repeats owns => ?_⟩
  have next : stateAt config calls (n + 1) = after := by
    rw [stateAt, run_take_succ taken]
    exact commit_of_ok success
  have grows : Grows (stateAt config calls (n + 1)) (stateAt config calls m) :=
    grows_between lt
  rw [next] at grows
  exact answersAgain_iff distinct success (sound_at calls n) grows repeats owns

def unaryText (v : Int) : String :=
  if 0 ≤ v then String.ofList (List.replicate v.toNat '+')
  else String.ofList (List.replicate (-v).toNat '-')

theorem unaryText_injective {v w : Int} (same : unaryText v = unaryText w) : v = w := by
  unfold unaryText at same
  by_cases first : 0 ≤ v
  · by_cases second : 0 ≤ w
    · simp only [first, second, if_true, String.ofList_inj, List.replicate_inj] at same
      omega
    · simp only [first, second, if_true, if_false, String.ofList_inj, List.replicate_inj] at same
      obtain ⟨lengths, empty | signs⟩ := same
      · omega
      · cases signs
  · by_cases second : 0 ≤ w
    · simp only [first, second, if_true, if_false, String.ofList_inj, List.replicate_inj] at same
      obtain ⟨lengths, empty | signs⟩ := same
      · omega
      · cases signs
    · simp only [first, second, if_false, String.ofList_inj, List.replicate_inj] at same
      omega

def sampleHash : RequestPayload → String
  | .category _ _ _ _ _ => "category"
  | .item _ _ => "item"
  | .edit version _ _ => unaryText version
  | .lifecycle version => unaryText version
  | .duplicate _ version => unaryText version

def sampleConfig : CatalogueConfig where
  hash := sampleHash
  strip := id
  casefold := id
  collapse := id
  branchMerchant _ := none

def sampleContext (key : String) (candidate : Uuid) : CallContext where
  subject := { identityId := 5, identityType := .merchant }
  idempotencyKey := key
  time := { instant := 1000000, offset := some 0 }
  candidate
  owners _ := some 5
  grants _ _ _ := true

def sampleFields (price : Int) : ItemFields where
  categoryId := none
  branchId := none
  kind := .meal
  name := "Jollof rice"
  description := none
  media := []
  availability := .available
  visibility := .public_
  tags := []
  searchKeywords := []
  basePriceMinor := some price

def sampleCopy : CatalogueCall := ⟨sampleContext "copy-the-rice-0001" 11, .duplicate 10⟩

def sampleCalls : List CatalogueCall :=
  [⟨sampleContext "create-the-rice-0001" 10, .createItem 1 (sampleFields 2500)⟩, sampleCopy,
    ⟨sampleContext "edit-the-rice-0001" 12, .editItem 10 1 (sampleFields 2700) .draft⟩]

private theorem sampleCopy_owned :
    ∀ merchantId ∈ actsFor (stateAt sampleConfig sampleCalls 1) sampleCopy.command,
      Owns sampleCopy.context merchantId :=
  fun _ _ => ⟨rfl, rfl, rfl⟩

/-- A copy is made again while its source is as it was, and refused after an edit of it. -/
theorem acts_once_sampleCalls :
    CatalogueSound (stateAt sampleConfig sampleCalls 3) ∧
      ∃ answer, AnswersAgain sampleConfig (stateAt sampleConfig sampleCalls 2) sampleCopy answer ∧
        ¬ AnswersAgain sampleConfig (stateAt sampleConfig sampleCalls 3) sampleCopy answer := by
  have distinct : ∀ id v w, sampleConfig.hash (.duplicate id v) =
      sampleConfig.hash (.duplicate id w) → v = w :=
    fun _ _ _ same => unaryText_injective same
  obtain ⟨sound, answers⟩ := acts_once_iff_source_unmoved distinct sampleCalls
  have copies : (sampleCopy.body sampleConfig
      (stateAt sampleConfig sampleCalls 1)).isOk = true := by decide +kernel
  obtain ⟨⟨answer, after⟩, copied⟩ := exists_of_isOk copies
  refine ⟨sound 3, answer, ?_, ?_⟩
  · refine (answers 1 2 sampleCopy sampleCopy answer after rfl (by decide) copied ⟨rfl, rfl, rfl⟩
      sampleCopy_owned).2 ?_
    show ((stateAt sampleConfig sampleCalls 2).items.find 10).map CatalogueItem.version =
      ((stateAt sampleConfig sampleCalls 1).items.find 10).map CatalogueItem.version
    decide +kernel
  · intro again
    have unmoved := (answers 1 3 sampleCopy sampleCopy answer after rfl (by decide) copied
      ⟨rfl, rfl, rfl⟩ sampleCopy_owned).1 again
    have moved : ((stateAt sampleConfig sampleCalls 3).items.find 10).map CatalogueItem.version ≠
        ((stateAt sampleConfig sampleCalls 1).items.find 10).map CatalogueItem.version := by
      decide +kernel
    exact moved unmoved

/-- Once the source has been edited, the copy is not answered again under its key. -/
theorem edited_source_not_copied_again : ¬ ActsOnce sampleConfig sampleCalls := by
  intro once
  have copies : (sampleCopy.body sampleConfig
      (stateAt sampleConfig sampleCalls 1)).isOk = true := by decide +kernel
  obtain ⟨⟨answer, after⟩, copied⟩ := exists_of_isOk copies
  obtain ⟨answer', again, _⟩ := once 1 3 sampleCopy sampleCopy answer after rfl (by decide) copied
    ⟨rfl, rfl, rfl⟩ sampleCopy_owned
  have refused : (sampleCopy.body sampleConfig
      (stateAt sampleConfig sampleCalls 3)).isOk = false := by decide +kernel
  rw [again] at refused
  cases refused

end Ayo.Catalogue.Replays
