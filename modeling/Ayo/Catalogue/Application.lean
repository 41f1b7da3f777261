/- digest: The commands of the catalogue, each in a unit of work of its own. -/

import Ayo.Catalogue.Models

namespace Ayo.Catalogue.Application

open Kernel.UnitOfWork Kernel.KeyedTable Core.Values Core.Authorization Models

inductive CatalogueCommand where
  | createCategory (merchantId : Uuid) (parentCategoryId : Option Uuid) (name : String)
      (description : Option String) (sortOrder : Int)
  | createItem (merchantId : Uuid) (fields : ItemFields)
  | editItem (itemId : Uuid) (expectedVersion : Int) (fields : ItemFields) (status : ItemStatus)
  | archive (itemId : Uuid) (expectedVersion : Int)
  | restore (itemId : Uuid) (expectedVersion : Int)
  | duplicate (itemId : Uuid)

/-- What a call tells of itself: who makes it, its key, its time, the id that it draws, and the
owners of merchants and the grants as it reads them. -/
structure CallContext where
  subject : AuthorizationSubject
  idempotencyKey : String
  time : DateTime
  candidate : Uuid
  owners : Uuid → Option Uuid
  grants : Grants

structure CatalogueCall where
  context : CallContext
  command : CatalogueCommand

variable (config : CatalogueConfig) (context : CallContext) (merchantId : Uuid)

def requireOwner : CatalogueTransaction Unit := do
  require (context.owners merchantId = some context.subject.identityId)
    (.conflict "merchant_not_found")
  let allowed ← hasPermission context.grants context.subject.identityId "catalogue.manage_own"
    context.time
  require (allowed = true) (.conflict "access_denied")

variable (operation : CatalogueOperation)

def reservationOf (payload : RequestPayload) (candidate : Uuid) : CatalogueReservation where
  actorIdentityId := context.subject.identityId
  operation
  idempotencyKey := context.idempotencyKey
  requestHash := config.hash payload
  responseReference := candidate
  createdAt := context.time.instant

def reserve (payload : RequestPayload) (candidate : Uuid) : CatalogueTransaction (Uuid × Bool) := do
  let store ← get
  let row := reservationOf config context operation payload candidate
  match store.reservations.find row.name with
  | some found =>
    require (found.requestHash = row.requestHash) (.conflict "idempotency_conflict")
    pure (found.responseReference, false)
  | none =>
    let reservations ← demand (store.reservations.insert? row) (.integrity "catalogue_idempotency")
    put { store with reservations }
    pure (candidate, true)

def categoryDepth (categories : Table CatalogueCategory) :
    Nat → List Uuid → Option CatalogueCategory → Except Failure Nat
  | _, _, none => .ok 0
  | 0, seen, some current =>
    .error (.conflict (if current.categoryId ∈ seen then "catalogue_category_cycle"
      else "catalogue_category_depth_exceeded"))
  | left + 1, seen, some current =>
    if current.categoryId ∈ seen then .error (.conflict "catalogue_category_cycle")
    else
      match categoryDepth categories left (current.categoryId :: seen)
          (current.parentCategoryId.bind categories.find) with
      | .ok depth => .ok (depth + 1)
      | .error failure => .error failure

def insertCategory (category : CatalogueCategory) : CatalogueTransaction CatalogueCategory := do
  let store ← get
  let categories ← demand (store.categories.insert? category) (.integrity "catalogue_categories")
  put { store with categories }
  pure category

def appendEvent (event : CatalogueEvent) : CatalogueTransaction Unit := do
  let store ← get
  put { store with events := store.events ++ [event] }

def insertItem (item : CatalogueItem) (eventType : String) :
    CatalogueTransaction CatalogueItem := do
  let store ← get
  let items ← demand (store.items.insert? item) (.integrity "universal_catalogue_items")
  put { store with items }
  appendEvent
    { merchantId := item.merchantId, itemId := item.itemId, eventType, status := item.status
      version := none, occurredAt := item.createdAt }
  pure item

def updateItem (item : CatalogueItem) (expectedVersion : Int) (eventType : String) :
    CatalogueTransaction CatalogueItem := do
  let store ← get
  let row ← demand ((store.items.find item.itemId).filter fun row =>
      row.merchantId = item.merchantId ∧ row.version = expectedVersion)
    (.conflict "catalogue_item_version_conflict")
  let saved := { item with createdAt := row.createdAt }
  let items ← demand (store.items.replace? saved) (.integrity "universal_catalogue_items")
  put { store with items }
  appendEvent
    { merchantId := saved.merchantId, itemId := saved.itemId, eventType, status := saved.status
      version := some saved.version, occurredAt := saved.updatedAt }
  pure saved

def validateItem (fields : ItemFields) (itemId merchantId : Uuid) (status : ItemStatus)
    (sourceItemId : Option Uuid) (version : Int) (createdAt updatedAt : Instant) :
    CatalogueTransaction CatalogueItem := do
  require (invalidField config fields = none) (.field ((invalidField config fields).getD "name"))
  require (1 ≤ version) (.field "version")
  let fields := normalized config fields
  if hidden : status = .archived →
      fields.availability = .hidden ∧ fields.visibility = .private_ then
    pure { fields with itemId, merchantId, status, sourceItemId, version, createdAt, updatedAt
                       archiveIsHidden := hidden }
  else throw (.value "archived items must be hidden and private")

variable (itemId : Uuid)

def ownedItem : CatalogueTransaction CatalogueItem := do
  let store ← get
  let item ← demand (store.items.find itemId) (.conflict "catalogue_item_not_found")
  requireOwner context item.merchantId
  pure item

def requireScope (categoryId branchId : Option Uuid) : CatalogueTransaction Unit := do
  let store ← get
  require (∀ id ∈ categoryId, ∃ category ∈ store.categories.find id,
      category.merchantId = merchantId)
    (.conflict "catalogue_category_not_found")
  require (∀ id ∈ branchId, config.branchMerchant id = some merchantId)
    (.conflict "merchant_branch_not_found")

def requireParent (parentCategoryId : Option Uuid) : CatalogueTransaction Unit :=
  match parentCategoryId with
  | none => pure ()
  | some parentId => do
    let store ← get
    let parent ← demand ((store.categories.find parentId).filter fun parent =>
        parent.merchantId = merchantId)
      (.conflict "catalogue_parent_category_not_found")
    let depth ← attempt (categoryDepth store.categories 8 [] (some parent))
    require (depth < 4) (.conflict "catalogue_category_depth_exceeded")

def newCategory (categoryId merchantId : Uuid) (parentCategoryId : Option Uuid) (name : String)
    (description : Option String) (sortOrder : Int) : CatalogueTransaction CatalogueCategory := do
  require (2 ≤ name.length ∧ name.length ≤ 120) (.field "name")
  require (∀ text ∈ description, text.length ≤ 500) (.field "description")
  require (isSearchName (normalizeSearch config name) = true) (.field "normalized_name")
  require (0 ≤ sortOrder ∧ sortOrder ≤ 1000000) (.field "sort_order")
  pure
    { categoryId, merchantId, parentCategoryId, name, description
      normalizedName := normalizeSearch config name, active := true, sortOrder, version := 1
      createdAt := context.time.instant, updatedAt := context.time.instant }

def createCategory (parentCategoryId : Option Uuid) (name : String) (description : Option String)
    (sortOrder : Int) : CatalogueTransaction CatalogueCategory := do
  requireOwner context merchantId
  requireParent merchantId parentCategoryId
  let (categoryId, _) ← reserve config context .createCategory
    (.category merchantId parentCategoryId name description sortOrder) context.candidate
  let store ← get
  whenSome (store.categories.find categoryId) (fun existing => pure existing) do
    let category ← newCategory config context categoryId merchantId parentCategoryId name
      description sortOrder
    insertCategory category

def createItem (fields : ItemFields) : CatalogueTransaction CatalogueItem := do
  requireOwner context merchantId
  requireScope config merchantId fields.categoryId fields.branchId
  let (itemId, _) ← reserve config context .createItem (.item merchantId fields) context.candidate
  let store ← get
  whenSome (store.items.find itemId) (fun existing => pure existing) do
    let item ← validateItem config fields itemId merchantId .draft none 1 context.time.instant
      context.time.instant
    insertItem item "catalogue.item.created"

def editItem (expectedVersion : Int) (fields : ItemFields) (status : ItemStatus) :
    CatalogueTransaction CatalogueItem := do
  let current ← ownedItem context itemId
  let (canonical, created) ← reserve config context (.edit itemId)
    (.edit expectedVersion fields status) itemId
  require (canonical = itemId) (.conflict "catalogue_item_not_found")
  if created = false then
    pure current
  else do
    requireScope config current.merchantId fields.categoryId fields.branchId
    require (status = .archived → fields.availability = .hidden ∧ fields.visibility = .private_)
      (.conflict "catalogue_archived_item_must_be_hidden")
    let updated ← validateItem config fields itemId current.merchantId status
      current.sourceItemId (expectedVersion + 1) current.createdAt context.time.instant
    updateItem updated expectedVersion "catalogue.item.edited"

/-- `duplicate`, with the copy that `duplicate_item` makes. -/
def duplicate : CatalogueTransaction CatalogueItem := do
  let current ← ownedItem context itemId
  let (duplicateId, _) ← reserve config context (.duplicate itemId)
    (.duplicate itemId current.version) context.candidate
  let store ← get
  whenSome (store.items.find duplicateId) (fun existing => pure existing) do
    let copy ← validateItem config
      { current.toItemFields with
        name := String.ofList ((current.name ++ " copy").toList.take 160)
        availability := .hidden, visibility := .private_ }
      duplicateId current.merchantId .draft (some current.itemId) 1 context.time.instant
      context.time.instant
    insertItem copy "catalogue.item.duplicated"

def lifecycle (target : ItemStatus) (eventType : String) (itemId : Uuid) (expectedVersion : Int) :
    CatalogueTransaction CatalogueItem := do
  let current ← ownedItem context itemId
  let (_, created) ← reserve config context operation (.lifecycle expectedVersion) itemId
  if created = false ∨ (current.status = target ∧ expectedVersion ≤ current.version) then
    pure current
  else do
    require (target = .draft → current.status = .archived) (.conflict "catalogue_item_not_archived")
    let updated ← validateItem config
      { current.toItemFields with availability := .hidden, visibility := .private_ }
      itemId current.merchantId target current.sourceItemId (expectedVersion + 1)
      current.createdAt context.time.instant
    updateItem updated expectedVersion eventType

def archive (expectedVersion : Int) : CatalogueTransaction CatalogueItem :=
  lifecycle config context (.archive itemId) .archived "catalogue.item.archived" itemId
    expectedVersion

def restore (expectedVersion : Int) : CatalogueTransaction CatalogueItem :=
  lifecycle config context (.restore itemId) .draft "catalogue.item.restored" itemId expectedVersion

def answered (body : CatalogueTransaction CatalogueItem) : CatalogueTransaction CatalogueAnswer := do
  let item ← body
  pure (.item (viewOf config item))

def CatalogueCall.body (call : CatalogueCall) : CatalogueTransaction CatalogueAnswer :=
  match call.command with
  | .createCategory merchantId parentCategoryId name description sortOrder => do
    let category ← createCategory config call.context merchantId parentCategoryId name description
      sortOrder
    pure (.category category)
  | .createItem merchantId fields =>
    answered config (createItem config call.context merchantId fields)
  | .editItem itemId expectedVersion fields status =>
    answered config (editItem config call.context itemId expectedVersion fields status)
  | .archive itemId expectedVersion =>
    answered config (archive config call.context itemId expectedVersion)
  | .restore itemId expectedVersion =>
    answered config (restore config call.context itemId expectedVersion)
  | .duplicate itemId => answered config (duplicate config call.context itemId)

def catalogueStep (store : CatalogueStore) (call : CatalogueCall) : CatalogueStore :=
  commit (call.body config) store

end Ayo.Catalogue.Application
