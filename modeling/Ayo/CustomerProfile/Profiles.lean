/- digest: Profiles that closure and used keys protect, but for updates and what no hash covers. -/

import Ayo.CustomerProfile.Households
import Ayo.Kernel.Run

namespace Ayo.CustomerProfile.Profiles

open Kernel.UnitOfWork Kernel.KeyedTable Kernel.Run Kernel.Failures Core.Values Households
open PersistenceKernel.Idempotency

inductive ProfileLifecycle where
  | active
  | suspended
  | closed
deriving DecidableEq

def ProfileLifecycle.value : ProfileLifecycle → String
  | .active => "active"
  | .suspended => "suspended"
  | .closed => "closed"

def ProfileLifecycle.transitions : ProfileLifecycle → List ProfileLifecycle
  | .active => [.suspended, .closed]
  | .suspended => [.active, .closed]
  | .closed => []

structure ProfileFields where
  (displayName language region timezone : String)
  (preferredName serviceAreaPreference profileImageReference : Option String := none)
deriving DecidableEq

structure Profile extends ProfileFields where
  (profileId subjectId : Uuid)
  state : ProfileLifecycle := .active
  (createdAt updatedAt : Instant)
  version : Nat := 1
deriving DecidableEq

instance : Row Profile Uuid :=
  .keyedUnique Profile.subjectId Profile.profileId

def sized (least most : Nat) (text : String) : Bool :=
  decide (least ≤ text.length ∧ text.length ≤ most)

def languageTag (text : String) : Bool :=
  match text.toList.splitOn '-' with
  | [] => false
  | first :: rest => decide (2 ≤ first.length ∧ first.length ≤ 8) && first.all Char.isAlpha &&
    rest.all fun part => decide (1 ≤ part.length ∧ part.length ≤ 8) && part.all Char.isAlphanum

def regionCode (text : String) : Bool :=
  match text.toList.splitOn '-' with
  | [] => false
  | first :: rest => decide (first.length = 2 ∧ rest.length ≤ 1) && first.all Char.isUpper &&
    rest.all fun part => decide (1 ≤ part.length ∧ part.length ≤ 8) &&
      part.all fun c => c.isUpper || c.isDigit

def ProfileFields.checks (fields : ProfileFields) : List (String × Bool) :=
  [("display_name", sized 1 120 fields.displayName),
   ("preferred_name", fields.preferredName.all (sized 1 120)),
   ("language", languageTag fields.language && sized 0 35 fields.language),
   ("region", regionCode fields.region && sized 0 63 fields.region),
   ("timezone", sized 1 63 fields.timezone),
   ("service_area_preference", fields.serviceAreaPreference.all (sized 1 80)),
   ("profile_image_reference", fields.profileImageReference.all (sized 1 200))]

def ProfileFields.invalidField (fields : ProfileFields) : Option String :=
  (fields.checks.find? fun check => !check.2).map (·.1)

structure ProfileChanges where
  (displayName preferredName language region timezone serviceAreaPreference
    profileImageReference : Option String := none)
deriving DecidableEq

def ProfileChanges.items (changes : ProfileChanges) : List (String × String) :=
  [("display_name", changes.displayName), ("language", changes.language),
   ("preferred_name", changes.preferredName),
   ("profile_image_reference", changes.profileImageReference), ("region", changes.region),
   ("service_area_preference", changes.serviceAreaPreference),
   ("timezone", changes.timezone)].filterMap fun item => item.2.map (item.1, ·)

def ProfileChanges.applied (changes : ProfileChanges) (fields : ProfileFields) : ProfileFields where
  displayName := changes.displayName.getD fields.displayName
  preferredName := changes.preferredName.or fields.preferredName
  language := changes.language.getD fields.language
  region := changes.region.getD fields.region
  timezone := changes.timezone.getD fields.timezone
  serviceAreaPreference := changes.serviceAreaPreference.or fields.serviceAreaPreference
  profileImageReference := changes.profileImageReference.or fields.profileImageReference

inductive ProfileCommand where
  | create (fields : ProfileFields)
  | update (expectedVersion : Int) (changes : ProfileChanges)
  | transition (target : ProfileLifecycle) (expectedVersion : Int)
deriving DecidableEq

structure ProfileStore where
  profiles : Table Profile := .empty
  households : HouseholdStore := {}

/-- The service with `str.strip` and with `repr` of a text. -/
structure ProfileConfig extends HouseholdConfig where
  strip : String → String
  repr : String → String

abbrev ProfileTransaction (α : Type) := Transaction ProfileStore Failure α

def onHouseholds {α : Type} (body : HouseholdTransaction α) : ProfileTransaction α :=
  within ProfileStore.households (fun households store => { store with households }) body

variable (config : ProfileConfig) (call : Call) (actor : Uuid)

def changesText (items : List (String × String)) : String :=
  "[" ++ ", ".intercalate (items.map fun item =>
    "(" ++ config.repr item.1 ++ ", " ++ config.repr item.2 ++ ")") ++ "]"

def ProfileCommand.scope : ProfileCommand → String
  | .create _ => "customer_profile.create"
  | .update _ _ => "customer_profile.update"
  | .transition _ _ => "customer_profile.transition"

def ProfileCommand.material : ProfileCommand → String
  | .create fields => ":".intercalate
    [toString actor, fields.displayName, fields.language, fields.region, fields.timezone]
  | .update expectedVersion changes => ":".intercalate
    [toString actor, toString expectedVersion, changesText config changes.items]
  | .transition target expectedVersion => ":".intercalate
    [toString actor, target.value, toString expectedVersion]

def reserveProfile (command : ProfileCommand) : ProfileTransaction CommandRecord :=
  onHouseholds (reserveCommand config.toHouseholdConfig call command.scope actor
    (command.material config actor))

def finishProfile (reservation : CommandRecord) (eventType : String)
    (response : RelationshipReference) (profile : Profile) : ProfileTransaction Profile := do
  onHouseholds (record config.toHouseholdConfig call eventType "customer_profile" profile.profileId
    actor)
  onHouseholds (completeCommand call reservation response)
  pure profile

variable (profile : Profile)

def checkProfile : ProfileTransaction Unit :=
  whenSome profile.invalidField (fun name => throw (.field name)) (pure ())

def insertProfile : ProfileTransaction Unit := do
  require (config.known profile.subjectId = true) (.conflict "Profile already exists")
  let store ← get
  let profiles ← demand (store.profiles.insert? profile) (.conflict "Profile already exists")
  put { store with profiles }

def newProfile (profileId : Uuid) (fields : ProfileFields) (instant : Instant) : Profile :=
  { fields with
    profileId, subjectId := actor, createdAt := instant, updatedAt := instant
    displayName := config.strip fields.displayName
    preferredName := fields.preferredName.map config.strip }

def createProfile (profileId : Uuid) (fields : ProfileFields) : ProfileTransaction Profile := do
  let instant ← onHouseholds (checkTime call)
  let reservation ← reserveProfile config call actor (.create fields)
  let store ← get
  whenSome (reservation.completedAt.bind fun _ => store.profiles.find actor) pure do
    checkProfile (newProfile config actor profileId fields instant)
    insertProfile config (newProfile config actor profileId fields instant)
    finishProfile config call actor reservation "customer_profile.created" (.created profileId)
      (newProfile config actor profileId fields instant)

def saveProfile (expectedVersion : Int) (time : Instant) (change : Profile → Profile) :
    ProfileTransaction Profile := do
  let store ← get
  let row ← demand ((store.profiles.find profile.subjectId).filter fun row =>
    (row.version : Int) = expectedVersion) (.conflict "Customer profile changed")
  let updated := { change row with updatedAt := time, version := row.version + 1 }
  checkProfile updated
  let profiles ← demand (store.profiles.replace? updated) (.integrity "customer_profiles")
  put { store with profiles }
  pure updated

def changeProfile (command : ProfileCommand) (eventType : String)
    (save : Profile → ProfileTransaction Profile) : ProfileTransaction Profile := do
  let reservation ← reserveProfile config call actor command
  let store ← get
  let profile ← demand (store.profiles.find actor) (.value "Customer profile does not exist")
  whenSome reservation.completedAt (fun _ => pure profile) do
    let updated ← save profile
    finishProfile config call actor reservation eventType
      (.changed updated.profileId updated.version) updated

def updateProfile (expectedVersion : Int) (changes : ProfileChanges) :
    ProfileTransaction Profile := do
  let instant ← onHouseholds (checkTime call)
  require (changes.items ≠ []) (.value "At least one profile change is required")
  changeProfile config call actor (.update expectedVersion changes) "customer_profile.updated"
    fun profile => saveProfile profile expectedVersion instant fun row =>
      { row with toProfileFields := changes.applied row.toProfileFields }

def transitionProfile (target : ProfileLifecycle) (expectedVersion : Int) :
    ProfileTransaction Profile := do
  let instant ← onHouseholds (checkTime call)
  changeProfile config call actor (.transition target expectedVersion)
    "customer_profile.lifecycle_changed" fun profile => do
      require (target ∈ profile.state.transitions)
        (.value ("Invalid profile transition: " ++ profile.state.value ++ "->" ++ target.value))
      saveProfile profile expectedVersion instant fun row => { row with state := target }

/-- A command of an actor, with the id that it draws for a new profile. -/
structure ProfileCall where
  call : Call
  (actor profileId : Uuid)
  command : ProfileCommand

def ProfileCall.body (input : ProfileCall) : ProfileTransaction Profile :=
  match input.command with
  | .create fields => createProfile config input.call input.actor input.profileId fields
  | .update expectedVersion changes =>
    updateProfile config input.call input.actor expectedVersion changes
  | .transition target expectedVersion =>
    transitionProfile config input.call input.actor target expectedVersion

variable (store : ProfileStore)

def profileStep (input : ProfileCall) : ProfileStore :=
  commit (input.body config) store

/-- The name under which a call reserves its key. -/
def ProfileCall.name (input : ProfileCall) : String × Uuid × String :=
  (input.command.scope, input.actor, input.call.idempotencyKey)

def ProfileCall.hash (input : ProfileCall) : String :=
  config.requestHash (input.command.material config input.actor)

abbrev Settled (store : ProfileStore) (name : String × Uuid × String) (hash : String) : Prop :=
  Answered store.households.records name hash

/-- A change of the current version of a closed profile. -/
def UpdatesClosed (input : ProfileCall) : Prop :=
  ∃ profile ∈ store.profiles.find input.actor, profile.state = .closed ∧
    ∃ changes, input.command = .update profile.version changes ∧ changes.items ≠ [] ∧
      (changes.applied profile.toProfileFields).invalidField = none

/-- The later call is well formed, and the hash tells it from the first one. -/
structure Told (first later : ProfileCall) : Prop where
  aware : later.call.time.aware = true
  identified : later.call.trace.commandId.isSome = true
  changes : ∀ expectedVersion changes,
    later.command = .update expectedVersion changes → changes.items ≠ []
  hash : later.hash config ≠ first.hash config

def Repeated (first later : ProfileCall) : Prop :=
  profileStep config store later = store ∧
    (later.command ≠ first.command → later.body config store = .error keyReused)

/-- No closed profile changes, and the key of a successful call belongs to its command. -/
def Respects (calls : List ProfileCall) : Prop :=
  let reached n := run (profileStep config) {} (calls.take n)
  (∀ m n, m ≤ n → ∀ profile ∈ (reached m).profiles.rows, profile.state = .closed →
    profile ∈ (reached n).profiles.rows) ∧
  ∀ m n first later, m < n → calls[m]? = some first → calls[n]? = some later →
    (first.body config (reached m)).isOk = true → later.name = first.name →
      Repeated config (reached n) first later

structure Grows (before after : ProfileStore) : Prop where
  answered : ∀ name hash, Settled before name hash → Settled after name hash
  present : ∀ actor, (before.profiles.find actor).isSome = true →
    (after.profiles.find actor).isSome = true

structure Effect (before after : ProfileStore) (input : ProfileCall) : Prop where
  grows : Grows before after
  keyed : 8 ≤ input.call.idempotencyKey.length ∧ input.call.idempotencyKey.length ≤ 128
  settled : Settled after input.name (input.hash config)
  present : (after.profiles.find input.actor).isSome = true
  replayed : ∀ hash, Settled before input.name hash →
    (before.profiles.find input.actor).isSome = true → after = before
  closed : ¬ UpdatesClosed before input → ∀ profile ∈ before.profiles.rows,
    profile.state = .closed → profile ∈ after.profiles.rows

structure Reserved (before after : ProfileStore) (input : ProfileCall)
    (reservation : CommandRecord) : Prop where
  profiles : after.profiles = before.profiles
  keyed : 8 ≤ input.call.idempotencyKey.length ∧ input.call.idempotencyKey.length ≤ 128
  answered : ∀ name hash, Settled before name hash → Settled after name hash
  name : reservation.name = input.name
  hash : reservation.requestHash = input.hash config
  settled : reservation.completedAt ≠ none →
    after = before ∧ Settled before input.name (input.hash config)
  completed : ∀ hash, Settled before input.name hash → reservation.completedAt ≠ none

section

variable {config : ProfileConfig} {call : Call} {actor profileId : Uuid}
  {s t m : ProfileStore} {answer profile : Profile} {reservation : CommandRecord}
  {command : ProfileCommand} {input first later : ProfileCall} {hash : String}

theorem onHouseholds_ok {α : Type} {body : HouseholdTransaction α} {a : α} :
    onHouseholds body s = .ok (a, t) ↔
      ∃ households, body s.households = .ok (a, households) ∧ { s with households } = t :=
  within_ok

theorem checkTime_ok {instant : Instant}
    (ran : onHouseholds (checkTime call) s = .ok (instant, t)) : s = t := by
  simp only [onHouseholds_ok, checkTime, steps_ok] at ran
  obtain ⟨_, ⟨_, _, rfl⟩, rfl⟩ := ran
  rfl

theorem checkProfile_ok {u : Unit} (ran : checkProfile profile s = .ok (u, t)) :
    profile.invalidField = none ∧ s = t := by
  obtain ⟨_, _, thrown⟩ | ⟨valid, stays⟩ := whenSome_ok.1 ran
  · exact (throw_ok.1 thrown).elim
  · exact ⟨valid, (pure_ok.1 stays).2⟩

theorem reserveProfile_ok (profileId : Uuid)
    (ran : reserveProfile config call actor command s = .ok (reservation, t)) :
    Reserved config s t ⟨call, actor, profileId, command⟩ reservation := by
  unfold reserveProfile reserveCommand at ran
  simp only [onHouseholds_ok, steps_ok, within_ok] at ran
  obtain ⟨_, ⟨commandId, _, keyed, records, reserves, rfl⟩, rfl⟩ := ran
  have named : reservation.name = (command.scope, actor, call.idempotencyKey) ∧
      reservation.requestHash = config.requestHash (command.material config actor) := by
    obtain ⟨found, hashed, _⟩ | ⟨_, rfl, _⟩ := reserve_ok reserves
    · exact ⟨Table.key_of_find found, hashed⟩
    · exact ⟨rfl, rfl⟩
  refine ⟨rfl, keyed, fun _ _ answered => answered.of_reserve reserves, named.1, named.2,
    fun done => ?_, fun hash answered => (Answered.reserved answered reserves).1⟩
  obtain ⟨found, hashed, rfl⟩ | ⟨_, rfl, _⟩ := reserve_ok reserves
  · exact ⟨rfl, reservation, found, hashed, done⟩
  · exact absurd rfl done

theorem record_keepsRecords {config : HouseholdConfig} {eventType aggregateType : String} :
    Keeps HouseholdStore.records (record config call eventType aggregateType profileId actor) := by
  refine .bind (.within ?_ _) fun _ => .bind (.within ?_ _) fun _ => .pure
  · exact fun _ _ => rfl
  · exact fun _ _ => rfl

theorem settled_of_finished {middle : ProfileStore} {eventType : String}
    {response : RelationshipReference} (reserved : Reserved config s m input reservation)
    (kept : middle.households = m.households)
    (ran : finishProfile config call actor reservation eventType response profile middle =
      .ok (answer, t)) :
    t.profiles = middle.profiles ∧ (∀ name hash, Settled s name hash → Settled t name hash) ∧
      Settled t input.name (input.hash config) := by
  unfold finishProfile completeCommand at ran
  simp only [bind_ok, onHouseholds_ok, within_ok, pure_ok] at ran
  obtain ⟨_, _, ⟨recorded, records, rfl⟩, _, _, ⟨_, ⟨completed, completes, rfl⟩, rfl⟩, _, rfl⟩ :=
    ran
  have same := record_keepsRecords _ _ _ records
  rw [kept] at same
  refine ⟨rfl, fun name hash answered => Answered.of_complete ?_ completes, ?_⟩
  · rw [same]
    exact reserved.answered name hash answered
  · rw [← reserved.name, ← reserved.hash]
    exact answered_of_complete completes

theorem Reserved.replay (reserved : Reserved config s m input reservation)
    (done : reservation.completedAt ≠ none) (found : m.profiles.find input.actor = some profile) :
    Effect config s m input := by
  obtain ⟨rfl, settled⟩ := reserved.settled done
  exact ⟨⟨fun _ _ => id, fun _ => id⟩, reserved.keyed, settled, Option.isSome_of_eq_some found,
    fun _ _ _ => rfl, fun _ _ mem _ => mem⟩

theorem create_effect {fields : ProfileFields}
    (ran : createProfile config call actor profileId fields s = .ok (answer, t)) :
    Effect config s t ⟨call, actor, profileId, .create fields⟩ := by
  unfold createProfile at ran
  obtain ⟨instant, _, timed, ran⟩ := bind_ok.1 ran
  cases checkTime_ok timed
  obtain ⟨reservation, m, reserves, ran⟩ := bind_ok.1 ran
  have reserved := reserveProfile_ok profileId reserves
  rw [get_bind_ok] at ran
  obtain ⟨existing, done, returned⟩ | ⟨fresh, ran⟩ := whenSome_ok.1 ran
  · obtain ⟨rfl, rfl⟩ := pure_ok.1 returned
    obtain ⟨completedAt, completed, found⟩ := Option.bind_eq_some_iff.1 done
    exact reserved.replay (by simp [completed]) found
  · obtain ⟨_, _, checks, ran⟩ := bind_ok.1 ran
    obtain ⟨_, rfl⟩ := checkProfile_ok checks
    simp only [insertProfile, bind_assoc, ↓steps_ok, Table.insert?_eq_some] at ran
    obtain ⟨_, table, rows, ran⟩ := ran
    have kept : (ProfileStore.mk table m.households).households = m.households := rfl
    obtain ⟨written, answered, settled⟩ := settled_of_finished reserved kept ran
    rw [reserved.profiles] at rows fresh
    refine ⟨⟨answered, fun other held => ?_⟩, reserved.keyed, settled, ?_,
      fun hash earlier present => ?_, fun _ old mem _ => ?_⟩
    · rw [written, Table.find_of_rows_append rows, Option.isSome_or, held, Bool.true_or]
    · rw [written]
      exact Option.isSome_of_eq_some (Table.find_of_inserted rows)
    · obtain ⟨time, done⟩ := Option.ne_none_iff_exists'.1 (reserved.completed hash earlier)
      rw [done, Option.bind_some] at fresh
      rw [fresh] at present
      cases present
    · rw [written, rows]
      exact List.mem_append_left _ mem

theorem saveProfile_ok {expectedVersion : Int} {time : Instant} {change : Profile → Profile}
    {updated : Profile}
    (ran : saveProfile profile expectedVersion time change s = .ok (updated, t))
    (keeps : ∀ row, (change row).subjectId = row.subjectId) :
    ∃ row, s.profiles.find profile.subjectId = some row ∧ (row.version : Int) = expectedVersion ∧
      (change row).invalidField = none ∧ updated.subjectId = profile.subjectId ∧
      t.households = s.households ∧ t.profiles.rows = s.profiles.replaced updated := by
  unfold saveProfile at ran
  rw [get_bind_ok] at ran
  obtain ⟨row, chosen, ran⟩ := demand_bind_ok.1 ran
  obtain ⟨found, version⟩ := Option.filter_eq_some_iff.1 chosen
  obtain ⟨_, _, checks, ran⟩ := bind_ok.1 ran
  obtain ⟨valid, rfl⟩ := checkProfile_ok checks
  simp only [steps_ok, Table.replace?_eq_some] at ran
  obtain ⟨table, rows, rfl, rfl⟩ := ran
  refine ⟨row, found, of_decide_eq_true version, valid, ?_, rfl, rows⟩
  exact (keeps row).trans (Table.key_of_find found)

theorem change_effect {eventType : String} {save : Profile → ProfileTransaction Profile}
    (saves : ∀ profile m updated n, m.profiles.find actor = some profile →
      save profile m = .ok (updated, n) → n.households = m.households ∧
        updated.subjectId = actor ∧ n.profiles.rows = m.profiles.replaced updated ∧
        (profile.state = .closed → UpdatesClosed m ⟨call, actor, profileId, command⟩))
    (ran : changeProfile config call actor command eventType save s = .ok (answer, t)) :
    Effect config s t ⟨call, actor, profileId, command⟩ := by
  unfold changeProfile at ran
  obtain ⟨reservation, m, reserves, ran⟩ := bind_ok.1 ran
  have reserved := reserveProfile_ok profileId reserves
  rw [get_bind_ok] at ran
  obtain ⟨profile, found, ran⟩ := demand_bind_ok.1 ran
  obtain ⟨completedAt, done, returned⟩ | ⟨fresh, ran⟩ := whenSome_ok.1 ran
  · obtain ⟨rfl, rfl⟩ := pure_ok.1 returned
    exact reserved.replay (by simp [done]) found
  · obtain ⟨updated, n, saved, ran⟩ := bind_ok.1 ran
    obtain ⟨kept, same, rows, reaches⟩ := saves profile m updated n found saved
    obtain ⟨written, answered, settled⟩ := settled_of_finished reserved kept ran
    rw [reserved.profiles] at found rows
    have owned : Row.key updated = actor := same
    have stays : ∀ k, (t.profiles.find k).isSome = (s.profiles.find k).isSome := by
      intro k
      rw [written, Table.find_of_rows_replaced rows]
      split
      · exact Option.isSome_map
      · rfl
    refine ⟨⟨answered, fun other held => (stays other).trans held⟩, reserved.keyed, settled, ?_,
      fun hash earlier _ => absurd fresh (reserved.completed hash earlier), ?_⟩
    · exact (stays actor).trans (Option.isSome_of_eq_some found)
    · intro spared old mem closed
      rw [written, rows, Table.mem_replaced]
      refine .inr ⟨mem, fun equal => spared ?_⟩
      have owner : Row.key old = actor := equal.trans owned
      rw [← owner, Table.find_of_mem mem] at found
      cases found
      have reached := reaches closed
      unfold UpdatesClosed at reached ⊢
      rwa [reserved.profiles] at reached

theorem body_effect (ran : input.body config s = .ok (answer, t)) : Effect config s t input := by
  obtain ⟨call, actor, profileId, command⟩ := input
  cases command with
  | create => exact create_effect ran
  | update expectedVersion changes =>
    simp only [ProfileCall.body, updateProfile] at ran
    obtain ⟨instant, _, timed, ran⟩ := bind_ok.1 ran
    cases checkTime_ok timed
    obtain ⟨changed, ran⟩ := require_bind_ok.1 ran
    refine change_effect (fun profile m updated n found saved => ?_) ran
    have keyed : profile.subjectId = actor := Table.key_of_find found
    obtain ⟨row, again, version, valid, same, kept, rows⟩ := saveProfile_ok saved fun _ => rfl
    rw [keyed, found] at again
    cases again
    refine ⟨kept, same.trans keyed, rows, fun closed => ⟨profile, found, closed, changes, ?_⟩⟩
    exact ⟨by rw [version], changed, valid⟩
  | transition target expectedVersion =>
    simp only [ProfileCall.body, transitionProfile] at ran
    obtain ⟨instant, _, timed, ran⟩ := bind_ok.1 ran
    cases checkTime_ok timed
    refine change_effect (fun profile m updated n found saved => ?_) ran
    have keyed : profile.subjectId = actor := Table.key_of_find found
    obtain ⟨leads, saved⟩ := require_bind_ok.1 saved
    obtain ⟨row, _, _, _, same, kept, rows⟩ := saveProfile_ok saved fun _ => rfl
    refine ⟨kept, same.trans keyed, rows, fun closed => ?_⟩
    rw [closed] at leads
    exact absurd leads List.not_mem_nil

theorem reserveProfile_refused
    (settled : Settled s (command.scope, actor, call.idempotencyKey) hash)
    (keyed : 8 ≤ call.idempotencyKey.length ∧ call.idempotencyKey.length ≤ 128)
    (identified : call.trace.commandId.isSome = true)
    (apart : config.requestHash (command.material config actor) ≠ hash) :
    reserveProfile config call actor command s = .error keyReused := by
  obtain ⟨commandId, identified⟩ := Option.isSome_iff_exists.1 identified
  unfold reserveProfile reserveCommand onHouseholds
  refine within_fails.2 (demand_bind_fails.2 (.inr ⟨commandId, identified, ?_⟩))
  exact require_bind_fails.2 (.inr ⟨keyed, within_fails.2 (Answered.refused settled apart)⟩)

theorem refused_of_told (told : Told config first later)
    (settled : Settled s later.name (first.hash config))
    (keyed : 8 ≤ later.call.idempotencyKey.length ∧ later.call.idempotencyKey.length ≤ 128) :
    later.body config s = .error keyReused := by
  obtain ⟨call, actor, profileId, command⟩ := later
  obtain ⟨aware, identified, changed, apart⟩ := told
  have timed : onHouseholds (checkTime call) s = .ok (call.time.instant, s) :=
    within_ok.2 ⟨s.households, require_bind_ok.2 ⟨aware, pure_ok.2 ⟨rfl, rfl⟩⟩, rfl⟩
  have refused := reserveProfile_refused settled keyed identified apart
  cases command with
  | update _ changes =>
    exact bind_fails.2 (.inr ⟨_, _, timed, require_bind_fails.2
      (.inr ⟨changed _ changes rfl, bind_fails.2 (.inl refused)⟩)⟩)
  | create | transition => exact bind_fails.2 (.inr ⟨_, _, timed, bind_fails.2 (.inl refused)⟩)

theorem Grows.trans {r : ProfileStore} (first : Grows r s) (second : Grows s t) : Grows r t where
  answered name hash held := second.answered name hash (first.answered name hash held)
  present actor held := second.present actor (first.present actor held)

theorem grows_step (store : ProfileStore) (input : ProfileCall) :
    Grows store (profileStep config store input) :=
  commit_related _ store ⟨fun _ _ => id, fun _ => id⟩ fun _ _ ran => (body_effect ran).grows

theorem closed_step (store : ProfileStore) (input : ProfileCall)
    (spared : ¬ UpdatesClosed store input) (closed : profile.state = .closed)
    (mem : profile ∈ store.profiles.rows) :
    profile ∈ (profileStep config store input).profiles.rows :=
  commit_related (R := fun before after => before = store →
      profile ∈ before.profiles.rows → profile ∈ after.profiles.rows) _ store (fun _ => id)
    (fun _ _ ran same held => (body_effect ran).closed (same ▸ spared) profile held closed) rfl mem

theorem repeated_of_told (told : later.command ≠ first.command → Told config first later)
    (settled : Settled s later.name (first.hash config))
    (keyed : 8 ≤ later.call.idempotencyKey.length ∧ later.call.idempotencyKey.length ≤ 128)
    (present : (s.profiles.find later.actor).isSome = true) : Repeated config s first later := by
  refine ⟨?_, fun apart => refused_of_told (told apart) settled keyed⟩
  obtain stays | ⟨answer, ran⟩ := commit_cases (later.body config) s
  · exact stays
  · exact (body_effect ran).replayed _ settled present

/-- The commands respect closure and their keys while no closed profile is updated, and each later
command under the key of another one is told from it by its hash. -/
theorem respects_of_told (config : ProfileConfig) (calls : List ProfileCall)
    (spared : Along (profileStep config) (fun store input => ¬ UpdatesClosed store input) {} calls)
    (told : ∀ m n first later, m < n → calls[m]? = some first → calls[n]? = some later →
      (first.body config (run (profileStep config) {} (calls.take m))).isOk = true →
      later.name = first.name → later.command ≠ first.command → Told config first later) :
    Respects config calls := by
  refine ⟨fun m n le profile mem closed => ?_, fun m n first later before taken listed returns
    same => ?_⟩
  · have kept : ∀ store input, ¬ UpdatesClosed store input → profile ∈ store.profiles.rows →
        profile ∈ (profileStep config store input).profiles.rows :=
      fun store input spares held => closed_step store input spares closed held
    exact run_invariant_between kept spared le mem
  · obtain ⟨⟨answer, after⟩, ran⟩ := exists_of_isOk returns
    have effect := body_effect ran
    have reached : run (profileStep config) {} (calls.take (m + 1)) = after :=
      (run_take_succ taken).trans (commit_of_ok ran)
    have grows : Grows after (run (profileStep config) {} (calls.take n)) := by
      rw [← reached]
      exact run_take_related (R := Grows) (fun _ => ⟨fun _ _ => id, fun _ => id⟩) Grows.trans
        grows_step _ _ before
    obtain ⟨_, actor, key⟩ : _ ∧ later.actor = first.actor ∧
        later.call.idempotencyKey = first.call.idempotencyKey := by
      simpa [ProfileCall.name] using same
    refine repeated_of_told (told m n first later before taken listed returns same) ?_ ?_ ?_
    · rw [same]
      exact grows.answered _ _ effect.settled
    · rw [key]
      exact effect.keyed
    · rw [actor]
      exact grows.present _ effect.present

/-- A call at the third o'clock of the seventh subject. -/
def sampleCall (n : Nat) (key : String) (command : ProfileCommand) : ProfileCall where
  call :=
    { idempotencyKey := key
      trace := { correlationId := n, requestId := n, commandId := some n, causationId := none }
      time := { instant := 3, offset := some 0 }, relationshipId := n, eventId := n, auditId := n }
  actor := 7
  profileId := n
  command

def sampleConfig : ProfileConfig where
  requestHash := id
  keyDigest := id
  known _ := true
  strip := id
  repr := id

def abebe : ProfileFields where
  displayName := "Abebe"
  language := "am-ET"
  region := "ET"
  timezone := "Africa/Addis_Ababa"

/-- A profile is created, closed, and created again under the first key. -/
def createdTwice : List ProfileCall :=
  [sampleCall 1 "key-of-create" (.create abebe), sampleCall 2 "key-of-close" (.transition .closed 1),
   sampleCall 3 "key-of-create" (.create { abebe with displayName := "Bekele" })]

theorem respects_of_createdTwice : Respects sampleConfig createdTwice := by
  refine respects_of_told sampleConfig createdTwice ⟨?_, ?_, ?_, trivial⟩ ?_
  iterate 3
    rintro ⟨_, _, _, _, command, _⟩
    cases command
  intro m n first later before taken listed _ same _
  have short : n < 3 := (List.getElem?_eq_some_iff.1 listed).1
  obtain ⟨rfl, rfl⟩ | ⟨rfl, rfl⟩ | ⟨rfl, rfl⟩ :
      m = 0 ∧ n = 1 ∨ m = 0 ∧ n = 2 ∨ m = 1 ∧ n = 2 := by omega
  · cases taken
    cases listed
    exact absurd same (by decide)
  · cases taken
    cases listed
    exact ⟨rfl, rfl, fun _ _ command => (by cases command), by decide +kernel⟩
  · cases taken
    cases listed
    exact absurd same (by decide)

def closedThenRenamed : List ProfileCall :=
  [sampleCall 1 "key-of-create" (.create abebe), sampleCall 2 "key-of-close" (.transition .closed 1),
   sampleCall 3 "key-of-update" (.update 2 { displayName := some "Bekele" })]

/-- The name of a profile changes after it was closed. -/
theorem renamed_although_closed :
    ¬ ∀ (config : ProfileConfig) (calls : List ProfileCall), Respects config calls := by
  intro law
  let closed : Profile :=
    { abebe with profileId := 1, subjectId := 7, state := .closed, createdAt := 3, updatedAt := 3
                 version := 2 }
  have kept := (law sampleConfig closedThenRenamed).1 2 3 (by decide) closed (by decide +kernel) rfl
  exact absurd kept (by decide +kernel)

end

end Ayo.CustomerProfile.Profiles
