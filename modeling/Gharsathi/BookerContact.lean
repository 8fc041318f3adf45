import Gharsathi.ChatPartners
import Gharsathi.LandlordView

/-!
# How a landlord reaches the booker

Below the room the landlord's page shows who has booked it: the name and the uid
from the booking record, and a phone number that it looks up in the collection
of users by the uid. The record is as old as the booking; the number is the one
the booker's document has when the page asks.
-/

namespace BookerContact

open Authentication DartValues FirestoreCollection Models RoomDetails Runs UserDirectory
open Booking (Invocation)
open ChatPartners (Interpolation)
open LandlordView (landlordBookings)
open SharedStore (System both)

/-- The three lines below a room that has a booking. -/
structure BookingPanel where
  bookedBy : String
  bookerId : String
  phoneNumber : String
  deriving DecidableEq

section Panel
variable {K : Type}

/-- The documents with this uid in the field; a booker without one matches none. -/
def whereUid (users : Collection String (Map K)) (bookerUid : Value K) :
    List (DocumentSnapshot K) :=
  match bookerUid with
  | .str uid => users.docs.filter (isEqualTo "uid" uid)
  | _ => []

/-- `getSpecificField`: null when there is no such user or no such field. -/
def getSpecificField (T : Interpolation K) (users : Collection String (Map K)) (data : Map K) :
    Option String :=
  match (whereUid users (Map.get data "bookerUid")).head? with
  | none => none
  | some d =>
    match field d "phoneNumber" with
    | .error _ => none
    | .ok fieldValue => some (T.text fieldValue)

/-- What the page of a room shows of its booking; none is `No Booking Data`. -/
def bookingPanel (T : Interpolation K) (users bookings : Collection String (Map K))
    (d : DocumentSnapshot K) : Result (Option BookingPanel) := do
  let found ← landlordBookings bookings d
  match found with
  | [] => return none
  | record :: _ =>
    return some
      { bookedBy := T.text ((Map.get record.data "bookedBy").orElse (.str "Not Booked"))
        bookerId := T.text ((Map.get record.data "bookerUid").orElse (.str "Not Booked"))
        phoneNumber := (getSpecificField T users record.data).getD "No number found" }

end Panel

section Lookup
variable {K : Type}

/-- The query by uid finds the document under this uid, and no other. -/
theorem whereUid_head {store : UserDirectory.Store K} (sound : Sound store) (uid : String) :
    (whereUid store.users (.str uid)).head? =
      (store.users.get? uid).map (fun userDoc => ⟨uid, userDoc⟩) := by
  have hsame : store.users.docs.filter (isEqualTo "uid" uid) =
      store.users.docs.filter (fun d => decide (d.id = uid)) := by
    apply List.filter_congr
    intro d hd
    obtain ⟨_, _, hid⟩ := sound.documents d.id d.data
      ((store.users.get?_eq_some_iff _ _).mpr hd)
    rw [Bool.eq_iff_iff, isEqualTo_iff, decide_eq_true_eq, hid.uid]
    simp
  simp only [whereUid, hsame, List.head?_filter, Collection.get?, Option.map_map]
  cases hfind : store.users.docs.find? (fun d => decide (d.id = uid)) with
  | none => rfl
  | some d =>
    have hid : d.id = uid := by simpa using List.find?_some hfind
    simp [← hid]

theorem getSpecificField_eq {store : UserDirectory.Store K} (sound : Sound store)
    (T : Interpolation K) {data : Map K} {uid : String}
    (huid : Map.get data "bookerUid" = .str uid) :
    getSpecificField T store.users data =
      (store.users.get? uid).map (fun userDoc => T.text (Map.get userDoc "phoneNumber")) := by
  rw [getSpecificField, huid, whereUid_head sound]
  cases hdoc : store.users.get? uid with
  | none => rfl
  | some userDoc =>
    obtain ⟨_, _, hid⟩ := sound.documents uid userDoc hdoc
    obtain ⟨phoneNumber, hphone⟩ := hid.phoneNumber
    have hkey : Map.containsKey userDoc "phoneNumber" = true := by
      apply Map.containsKey_of_get
      rw [hphone]
      exact nofun
    simp [field, hkey]

end Lookup

section Shown
variable {K ι : Type} [DecidableEq ι]

/-- The panel names a tenant whose booking of this very room went through, with
the phone number of the tenant's users document. -/
def ShowsBooker (users : Collection String (Map K)) (id : String) (panel : BookingPanel)
    (inv : Invocation K) : Prop :=
  inv.room = id ∧ inv.phase = .booked ∧
    panel.bookedBy = inv.tenant.displayName.getD "Not Booked" ∧
    panel.bookerId = inv.tenant.uid ∧
    (∀ userDoc, users.get? inv.tenant.uid = some userDoc →
      Map.get userDoc "phoneNumber" = .str panel.phoneNumber) ∧
    (users.get? inv.tenant.uid = none → panel.phoneNumber = "No number found")

theorem booking_bookedBy (inv : Invocation K) :
    Map.get (inv.booking.toJson : Map K) "bookedBy" = .ofStringOrNull inv.tenant.displayName := by
  simp [Bookroom.toJson, Invocation.booking]

/-- A record under the id of a room is the one that a booking of this room added. -/
theorem record_booking {b : Booking.State K} (hpages : Booking.PagesOk b)
    (hrecorded : Booking.Recorded b) {id : String} (hid : id ≠ "") {d : DocumentSnapshot K}
    (hd : d ∈ b.bookings.docs) (hroomId : Map.get d.data "roomId" = .str id) :
    ∃ inv ∈ b.invocations, inv.room = id ∧ inv.phase = .booked ∧ d.data = inv.booking.toJson := by
  have hdata := hrecorded.mem_iff.mp (List.mem_map_of_mem hd)
  obtain ⟨inv, hinv, heq⟩ := List.mem_map.mp hdata
  obtain ⟨hmem, hbooked⟩ := List.mem_filter.mp hinv
  obtain ⟨_, _, _, huid⟩ := hpages inv hmem
  rw [← heq, LandlordView.booking_roomId] at hroomId
  rw [Value.str.inj hroomId] at huid
  cases hpass : inv.opening.passesId with
  | false =>
    rw [hpass] at huid
    exact absurd huid hid
  | true =>
    rw [hpass] at huid
    exact ⟨inv, hmem, huid.symm, of_decide_eq_true hbooked, heq.symm⟩

/-- The panel of a record that comes from a booking. -/
theorem showsBooker_of_record {store : UserDirectory.Store K} (sound : Sound store)
    (T : Interpolation K) {id : String} {inv : Invocation K} (hroom : inv.room = id)
    (hbooked : inv.phase = .booked) :
    ShowsBooker store.users id
      { bookedBy := T.text ((Map.get (inv.booking.toJson : Map K) "bookedBy").orElse
          (.str "Not Booked"))
        bookerId := T.text ((Map.get (inv.booking.toJson : Map K) "bookerUid").orElse
          (.str "Not Booked"))
        phoneNumber := (getSpecificField T store.users inv.booking.toJson).getD "No number found" }
      inv := by
  have huid := LandlordView.booking_bookerUid (K := K) inv
  rw [getSpecificField_eq sound T huid, huid, booking_bookedBy]
  refine ⟨hroom, hbooked, ?_, T.text_str _, ?_, ?_⟩
  · cases inv.tenant.displayName with
    | none => exact T.text_str _
    | some name => exact T.text_str _
  · intro userDoc hdoc
    obtain ⟨_, _, hid⟩ := sound.documents _ userDoc hdoc
    obtain ⟨phoneNumber, hphone⟩ := hid.phoneNumber
    simp [hdoc, hphone, T.text_str]
  · intro hnone
    simp [hnone]

variable [IntCast K]

/-- However bookings and the changes of accounts and profiles on any devices are
interleaved, the page of a posted room shows no booking exactly while there is
no record under its id, and otherwise a tenant who has booked this room, with
the phone number that stands in the tenant's document then. -/
theorem bookingPanel_shows (isEmail : String → Bool) (T : Interpolation K)
    (rooms : Collection String (PostedRoom K)) (ids : ∀ d ∈ rooms.docs, d.id ≠ "")
    (acts : List ((ι × UserDirectory.Action K) ⊕ Booking.Action))
    (s : System (UserDirectory.Store K) ι (Device K)) (b : Booking.State K)
    (hrun : run (both (SharedStore.step (deviceStep isEmail)) Booking.step)
      (UserDirectory.initial, Booking.initial rooms) acts = some (s, b))
    (id : String) (r : PostedRoom K) (hroom : rooms.get? id = some r) :
    (bookingPanel T s.store.users b.bookings (postedSnapshot id r) = .ok none ∧
      ∀ d ∈ b.bookings.docs, Map.get d.data "roomId" ≠ .str id) ∨
    (∃ d ∈ b.bookings.docs, Map.get d.data "roomId" = .str id) ∧
      ∃ panel, bookingPanel T s.store.users b.bookings (postedSnapshot id r) = .ok (some panel) ∧
        ∃ inv ∈ b.invocations, ShowsBooker s.store.users id panel inv := by
  obtain ⟨hdirectory, hbooking⟩ := SharedStore.run_both hrun
  obtain ⟨sound, _⟩ := run_ok hdirectory
  have hpages := Booking.run_pagesOk hbooking
  have hrecorded := Booking.run_recorded hbooking
  have hid : id ≠ "" := ids ⟨id, r⟩ ((rooms.get?_eq_some_iff _ _).mp hroom)
  have hquery := LandlordView.landlordBookings_posted b.bookings id r
  cases hfound : b.bookings.docs.filter (isEqualTo "roomId" id) with
  | nil =>
    rw [hfound] at hquery
    refine Or.inl ⟨?_, fun d hd heq => ?_⟩
    · rw [bookingPanel, hquery]
      rfl
    · have hmem := List.mem_filter.mpr ⟨hd, (isEqualTo_iff "roomId" id d).mpr heq⟩
      rw [hfound] at hmem
      cases hmem
  | cons record rest =>
    rw [hfound] at hquery
    have hmem : record ∈ b.bookings.docs.filter (isEqualTo "roomId" id) := by simp [hfound]
    obtain ⟨hrecord, hmatch⟩ := List.mem_filter.mp hmem
    obtain ⟨inv, hinv, hroomEq, hbooked, hdata⟩ := record_booking hpages hrecorded hid hrecord
      ((isEqualTo_iff _ _ record).mp hmatch)
    have hshows := showsBooker_of_record sound T hroomEq hbooked
    rw [← hdata] at hshows
    refine Or.inr ⟨⟨record, hrecord, (isEqualTo_iff _ _ record).mp hmatch⟩, _, ?_, inv, hinv,
      hshows⟩
    rw [bookingPanel, hquery]
    rfl

/-- While one device runs the registrations, a tenant books on the other. -/
def bookedMeanwhile : List ((Bool × UserDirectory.Action ℚ) ⊕ Booking.Action) :=
  twoRegistrations.map Sum.inl ++
    [.inr (.tap (some ⟨"u1", some "Ramesh Karki"⟩) .search "r1" 0), .inr (.query 0), .inr (.test 0),
      .inr (.commit 0 "b1")]

theorem bookingPanel_shows_bookedMeanwhile :
    ∃ s b, run (both (SharedStore.step (deviceStep (fun _ => true))) Booking.step)
        ((UserDirectory.initial : System _ Bool _), Booking.initial LandlordView.sampleRooms)
        bookedMeanwhile = some (s, b) ∧
      ∃ panel, bookingPanel ChatPartners.plainText s.store.users b.bookings
          (postedSnapshot "r1" LandlordView.sampleRoom) = .ok (some panel) ∧
        ∃ inv ∈ b.invocations, ShowsBooker s.store.users "r1" panel inv := by
  obtain ⟨⟨s, b⟩, hrun, hrecord⟩ := exists_of_check
    (both (SharedStore.step (deviceStep (fun _ => true))) Booking.step)
    ((UserDirectory.initial : System _ Bool _), Booking.initial LandlordView.sampleRooms)
    bookedMeanwhile
    (fun s => ∃ d ∈ s.2.bookings.docs, isEqualTo "roomId" "r1" d = true) (by decide)
  have ids : ∀ d ∈ LandlordView.sampleRooms.docs, d.id ≠ "" := by
    intro d hd
    rw [List.mem_singleton.mp (show d ∈ [⟨"r1", LandlordView.sampleRoom⟩] from hd)]
    decide
  rcases bookingPanel_shows (fun _ => true) ChatPartners.plainText LandlordView.sampleRooms ids
    bookedMeanwhile s b hrun "r1" LandlordView.sampleRoom rfl with ⟨_, hnone⟩ | ⟨_, hshows⟩
  · obtain ⟨d, hd, hroom⟩ := hrecord
    exact absurd ((isEqualTo_iff _ _ d).mp hroom) (hnone d hd)
  · exact ⟨s, b, hrun, hshows⟩

end Shown

end BookerContact
