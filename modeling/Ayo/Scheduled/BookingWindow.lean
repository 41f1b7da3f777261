/- digest: The booking window, which a new reservation is held to and an update is not. -/

import Ayo.Scheduled.Commitments

namespace Ayo.Scheduled.BookingWindow

open Kernel.UnitOfWork Kernel.KeyedTable Kernel.Run Core.Values
open Application (Draws ScheduledConfig)
open Commitments Effects Integration Models Repository Scheduled.System

/-- A pickup lies between the shortest lead and the longest horizon of the policy. -/
def Bookable (policy : ReservationPolicy) (now pickup : Instant) : Prop :=
  seconds policy.minimumBookingLeadSeconds ≤ pickup - now ∧
    pickup - now ≤ seconds policy.maximumBookingHorizonSeconds
deriving Decidable

/-- A command sets a pickup at its time: a booking that it stores, or an accepted update that brings
a pickup. -/
inductive SetsPickup (config : ScheduledConfig) (s : ScheduledStore) :
    ScheduledAction → Instant → Instant → Prop where
  | created {subject : ScheduledSubject} {draws : Draws} {command : CreateCommand} {key : String}
      {item : ScheduledReservation} {t : ScheduledStore}
      (ran : Integration.create config draws subject command key s = .ok ((item, true), t)) :
      SetsPickup config s (.create subject draws command key) draws.now item.requestedPickupAt
  | updated {subject : ScheduledSubject} {draws : Draws} {reservationId : Uuid}
      {command : UpdateCommand} {item : ScheduledReservation} {t : ScheduledStore}
      (brings : command.requestedPickupAt.isSome = true)
      (ran : update draws subject reservationId command s = .ok (item, t)) :
      SetsPickup config s (.update subject draws reservationId command) draws.now
        item.requestedPickupAt

/-- The pickups that an action sets lie in the window at the time of the command. -/
def WindowKept (config : ScheduledConfig) (store : ScheduledStore) (action : ScheduledAction) :
    Prop :=
  ∀ now pickup, SetsPickup config store action now pickup → Bookable config.policy now pickup

structure Updatable (store : ScheduledStore) (subject : ScheduledSubject)
    (reservationId : Uuid) (command : UpdateCommand) (item : ScheduledReservation) : Prop where
  found : store.reservations.find reservationId = some item
  steppedUp : subject.assuranceLevel ≠ .basic
  booked : item.bookerId = subject.identityId
  standing : item.state = .passengerConfirmationPending ∨ item.state = .accepted
  version : item.version = command.expectedVersion
  places : item.pickupPlaceId ≠ command.destinationPlaceId.getD item.destinationPlaceId

/-- An update of a reservation that it may change brings no pickup out of the window. -/
def UpdatesInWindow (config : ScheduledConfig) (store : ScheduledStore) : ScheduledAction → Prop
  | .update subject draws reservationId command =>
    ∀ item, Updatable store subject reservationId command item →
      ∀ pickup ∈ command.requestedPickupAt, Bookable config.policy draws.now pickup
  | _ => True

def updatedRow (draws : Draws) (command : UpdateCommand) (item : ScheduledReservation)
    (places : item.pickupPlaceId ≠ command.destinationPlaceId.getD item.destinationPlaceId) :
    ScheduledReservation :=
  { item with
    destinationPlaceId := command.destinationPlaceId.getD item.destinationPlaceId
    distinct := places
    requestedPickupAt := command.requestedPickupAt.getD item.requestedPickupAt
    updatedAt := draws.now, version := item.version + 1, counted := item.next_counted }

section

variable {config : ScheduledConfig} {subject : ScheduledSubject} {draws : Draws}
  {s t : ScheduledStore} {reservationId : Uuid}

theorem create_bookable {command : CreateCommand} {key : String} {item : ScheduledReservation}
    (ran : Integration.create config draws subject command key s = .ok ((item, true), t)) :
    Bookable config.policy draws.now item.requestedPickupAt := by
  unfold Integration.create requireType Application.create Repository.create at ran
  simp only [require_bind_ok] at ran
  obtain ⟨_, window, asked⟩ := ran
  obtain ⟨_, _, _, asked⟩ := bind_ok.1 asked
  obtain ⟨_, _, _, asked⟩ := bind_ok.1 asked
  simp only [steps_ok, whenSome_ok] at asked
  obtain ⟨_, _, ⟨_, _, _, _, _, retried, _⟩ | ⟨_, written⟩⟩ := asked
  · cases retried
  · obtain ⟨_, _, stored⟩ := bind_pure_ok.1 written
    cases stored
    exact window

theorem update_ok {command : UpdateCommand} {answer : ScheduledReservation} :
    update draws subject reservationId command s = .ok (answer, t) ↔
      ∃ item, ∃ updatable : Updatable s subject reservationId command item,
        answer = updatedRow draws command item updatable.places ∧
        ∃ reservations : Table ScheduledReservation,
          reservations.rows = s.reservations.replaced answer ∧ t = { s with reservations } := by
  unfold update requireStepUp
  simp only [require_bind_ok, owned_bind_ok, mutate_ok, ScheduledReservation.changed?]
  constructor
  · rintro ⟨steppedUp, item, found, booked | ⟨other, _⟩ | ⟨other, _⟩, standing, _, row, read,
      version, changes, written⟩
    · rw [id_of_find found, found] at read
      cases read
      split at changes
      · rename_i places
        cases changes
        exact ⟨item, ⟨found, steppedUp, booked, standing, version, places⟩, rfl, written⟩
      · cases changes
    · cases other
    · cases other
  · rintro ⟨item, ⟨found, steppedUp, booked, standing, version, places⟩, rfl, written⟩
    refine ⟨steppedUp, item, found, .inl booked, standing, ?_, item, ?_, version,
      dif_pos places, written⟩
    · exact fun _ absent => by cases absent
    · rw [id_of_find found, found]

theorem windowKept_create {command : CreateCommand} {key : String} :
    WindowKept config s (.create subject draws command key) := by
  rintro _ _ ⟨ran⟩
  exact create_bookable ran

theorem windowKept_update {command : UpdateCommand} :
    WindowKept config s (.update subject draws reservationId command) ↔
      UpdatesInWindow config s (.update subject draws reservationId command) := by
  constructor
  · intro kept item updatable pickup asked
    have asked : command.requestedPickupAt = some pickup := asked
    have time : (updatedRow draws command item updatable.places).requestedPickupAt = pickup := by
      simp [updatedRow, asked]
    obtain ⟨reservations, rows⟩ := s.reservations.exists_replaced
      (updatedRow draws command item updatable.places) fun _ _ same => same
    have ran := update_ok.2 ⟨item, updatable, rfl, reservations, rows, rfl⟩
    exact time ▸ kept _ _ (.updated (by rw [asked]; rfl) ran)
  · rintro timed _ _ ⟨⟩
    rename_i brings ran
    obtain ⟨row, updatable, rfl, _⟩ := update_ok.1 ran
    obtain ⟨pickup, asked⟩ := Option.isSome_iff_exists.1 brings
    simp only [updatedRow, asked, Option.getD_some]
    exact timed row updatable pickup asked

theorem windowKept_step {store : ScheduledStore} {action : ScheduledAction} :
    WindowKept config store action ↔ UpdatesInWindow config store action := by
  cases action with
  | create subject draws command key => exact iff_of_true windowKept_create trivial
  | update subject draws reservationId command => exact windowKept_update
  | _ => exact iff_of_true (fun _ _ sets => by cases sets) trivial

end

/-- A run keeps the window exactly when none of its updates brings a pickup out of it. -/
theorem window_kept_iff_updates (config : ScheduledConfig) (actions : List ScheduledAction) :
    Along (scheduledStep config) (WindowKept config) {} actions ↔
      Along (scheduledStep config) (UpdatesInWindow config) {} actions := by
  generalize ({} : ScheduledStore) = store
  induction actions generalizing store with
  | nil => exact Iff.rfl
  | cons action rest ih => exact and_congr windowKept_step (ih _)

def movedPickup : List ScheduledAction :=
  [.create rider (drawsAt 1) ownBooking "own-booking",
   .update { rider with assuranceLevel := .multiFactor } (drawsAt 2) 10
     { requestedPickupAt := some 0, expectedVersion := 1 }]

theorem pickup_moved_out_of_window :
    ¬ ∀ (config : ScheduledConfig) (actions : List ScheduledAction),
      Along (scheduledStep config) (WindowKept config) {} actions := by
  intro claimed
  have kept := (claimed scheduledConfig movedPickup).2.1
  have accepted : (update (drawsAt 2) { rider with assuranceLevel := .multiFactor } 10
      { requestedPickupAt := some 0, expectedVersion := 1 } (run (scheduledStep scheduledConfig) {}
        (movedPickup.take 1))).isOk = true := by decide +kernel
  obtain ⟨⟨_, _⟩, ran⟩ := exists_of_isOk accepted
  obtain ⟨_, _, rfl, _⟩ := update_ok.1 ran
  have window : Bookable scheduledConfig.policy (seconds 2) 0 := kept _ _ (.updated rfl ran)
  exact absurd window (by decide)

end Ayo.Scheduled.BookingWindow
