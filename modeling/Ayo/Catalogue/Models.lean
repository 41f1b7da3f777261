/- digest: Categories and items of the catalogue, their quality and their requests. -/

import Ayo.Core.Authorization

namespace Ayo.Catalogue.Models

open Kernel.UnitOfWork Kernel.KeyedTable Core.Values

inductive ItemKind where
  | product
  | meal
  | service
  | digitalItem

inductive ItemStatus where
  | draft
  | active
  | archived
deriving DecidableEq

inductive ItemAvailability where
  | available
  | temporarilyUnavailable
  | outOfStock
  | hidden
deriving DecidableEq

inductive ItemVisibility where
  | public_
  | unlisted
  | private_
deriving DecidableEq

structure CatalogueCategory where
  (categoryId merchantId : Uuid)
  parentCategoryId : Option Uuid
  name : String
  description : Option String
  normalizedName : String
  active : Bool
  sortOrder : Int
  version : Nat
  (createdAt updatedAt : Instant)

def CatalogueCategory.sibling (row : CatalogueCategory) : Uuid × Option Uuid × String :=
  (row.merchantId, row.parentCategoryId, row.normalizedName)

instance : Row CatalogueCategory Uuid :=
  .keyedUnique CatalogueCategory.categoryId CatalogueCategory.sibling

structure MediaReference where
  mediaId : Uuid
  (opaqueReference altText : String)
  sortOrder : Nat
  moderationState : String

structure ItemFields where
  (categoryId branchId : Option Uuid)
  kind : ItemKind
  name : String
  description : Option String
  media : List MediaReference
  availability : ItemAvailability
  visibility : ItemVisibility
  (tags searchKeywords : List String)
  basePriceMinor : Option Int

structure CatalogueItem extends ItemFields where
  (itemId merchantId : Uuid)
  status : ItemStatus
  sourceItemId : Option Uuid
  version : Int
  (createdAt updatedAt : Instant)
  archiveIsHidden : status = .archived → availability = .hidden ∧ visibility = .private_

instance : Row CatalogueItem Uuid := .keyed CatalogueItem.itemId

structure CatalogueQuality where
  score : Nat
  missing : List String
  (photoScore descriptionScore pricingScore categoryScore availabilityScore visibilityScore : Nat)

structure CatalogueItemView where
  item : CatalogueItem
  quality : CatalogueQuality

inductive CatalogueAnswer where
  | category (category : CatalogueCategory)
  | item (view : CatalogueItemView)

inductive CatalogueOperation where
  | createCategory
  | createItem
  | edit (itemId : Uuid)
  | archive (itemId : Uuid)
  | restore (itemId : Uuid)
  | duplicate (itemId : Uuid)
deriving DecidableEq

inductive RequestPayload where
  | category (merchantId : Uuid) (parentCategoryId : Option Uuid) (name : String)
      (description : Option String) (sortOrder : Int)
  | item (merchantId : Uuid) (fields : ItemFields)
  | edit (expectedVersion : Int) (fields : ItemFields) (status : ItemStatus)
  | lifecycle (expectedVersion : Int)
  | duplicate (itemId : Uuid) (sourceVersion : Int)

structure CatalogueReservation where
  actorIdentityId : Uuid
  operation : CatalogueOperation
  (idempotencyKey requestHash : String)
  responseReference : Uuid
  createdAt : Instant

def CatalogueReservation.name (row : CatalogueReservation) : Uuid × CatalogueOperation × String :=
  (row.actorIdentityId, row.operation, row.idempotencyKey)

instance : Row CatalogueReservation (Uuid × CatalogueOperation × String) :=
  .keyed CatalogueReservation.name

structure CatalogueEvent where
  (merchantId itemId : Uuid)
  eventType : String
  status : ItemStatus
  version : Option Int
  occurredAt : Instant

structure CatalogueStore where
  categories : Table CatalogueCategory := .empty
  items : Table CatalogueItem := .empty
  reservations : Table CatalogueReservation := .empty
  events : List CatalogueEvent := []

abbrev CatalogueTransaction (α : Type) := Transaction CatalogueStore Failure α

structure CatalogueConfig where
  hash : RequestPayload → String
  (strip casefold collapse : String → String)
  branchMerchant : Uuid → Option Uuid

variable (config : CatalogueConfig)

def normalizeSearch (value : String) : String :=
  config.collapse (config.casefold (config.strip value))

def normalizedTerms (values : List String) : List String :=
  ((values.filter fun value => config.strip value ≠ "").map fun value =>
    config.casefold (config.strip value)).eraseDups

/-- `^[a-z0-9][a-z0-9 -]{1,119}$`. -/
def isSearchName : String → Bool :=
  isPattern (fun c => c.isLower || c.isDigit)
    (fun c => c.isLower || c.isDigit || c == ' ' || c == '-') 1 119

def scoreOf (condition : Prop) [Decidable condition] : Nat := if condition then 100 else 0

def missingPart (score : Nat) (name : String) : List String := if score = 0 then [name] else []

def quality (item : CatalogueItem) : CatalogueQuality :=
  let photo := scoreOf (∃ media ∈ item.media, media.moderationState = "approved")
  let description := scoreOf (∃ text ∈ item.description, 20 ≤ (config.strip text).length)
  let pricing := scoreOf (item.basePriceMinor.isSome = true)
  let category := scoreOf (item.categoryId.isSome = true)
  let availability := scoreOf (item.availability ≠ .hidden)
  let visibility := scoreOf (item.visibility = .public_)
  { score := (photo * 15 + description * 20 + pricing * 20 + category * 15 + availability * 15 +
      visibility * 15) / 100
    missing := missingPart photo "approved_photo" ++ missingPart description "description" ++
      missingPart pricing "base_price" ++ missingPart category "category" ++
      missingPart availability "availability" ++ missingPart visibility "visibility"
    photoScore := photo, descriptionScore := description, pricingScore := pricing
    categoryScore := category, availabilityScore := availability, visibilityScore := visibility }

def viewOf (item : CatalogueItem) : CatalogueItemView := ⟨item, quality config item⟩

def invalidField (fields : ItemFields) : Option String :=
  refuse (fields.name.length < 2 ∨ 160 < fields.name.length) "name" <|
  refuse (∃ text ∈ fields.description, 2000 < text.length) "description" <|
  refuse (12 < fields.media.length) "media" <|
  refuse (20 < fields.tags.length ∨ ∃ term ∈ normalizedTerms config fields.tags, 63 < term.length)
    "tags" <|
  refuse (30 < fields.searchKeywords.length ∨
    ∃ term ∈ normalizedTerms config fields.searchKeywords, 63 < term.length) "search_keywords" <|
  refuse (∃ price ∈ fields.basePriceMinor, price < 0 ∨ 10000000000 < price) "base_price_minor" none

def normalized (fields : ItemFields) : ItemFields :=
  { fields with
    tags := normalizedTerms config fields.tags
    searchKeywords := normalizedTerms config fields.searchKeywords }

end Ayo.Catalogue.Models
