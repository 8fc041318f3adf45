import Gharsathi.Booking
import Mathlib.Data.Rat.Defs
import Mathlib.Algebra.Order.Ring.Rat

/-!
# What the landlord sees of a booking

The landlord's page takes the id of the room document from its arguments and
asks `bookingList` for one record under that id. A record reaches it when the
tenant's page carried the id, which only the search results and the full list
pass on. No statement is made about which of several records is shown.
-/

namespace LandlordView

open DartDouble DartValues FirestoreCollection Models RoomDetails Runs Booking

section Query
variable {K : Type}

/-- The query of the booking section, `limit(1)`. -/
def landlordBookings (bookings : Collection String (Map K)) (d : DocumentSnapshot K) :
    Result (List (DocumentSnapshot K)) := do
  let arguments ← landlordArguments d
  let roomId ← (Map.get arguments "roomId").asString
  return (bookings.docs.filter (isEqualTo "roomId" roomId)).take 1

/-- The landlord of the room sees a record, and its booker is a tenant whose
booking of this very room went through. -/
def LandlordSees (s : State K) (id : String) (r : PostedRoom K) : Prop :=
  ∃ d uid, landlordBookings s.bookings (postedSnapshot id r) = .ok [d] ∧
    Map.get d.data "bookerUid" = .str uid ∧
    ∃ inv ∈ s.invocations, inv.room = id ∧ inv.phase = .booked ∧ inv.tenant.uid = uid

theorem landlordBookings_posted (bookings : Collection String (Map K)) (id : String)
    (r : PostedRoom K) : landlordBookings bookings (postedSnapshot id r) =
      .ok ((bookings.docs.filter (isEqualTo "roomId" id)).take 1) := by
  simp [landlordBookings, landlordArguments, field, postedSnapshot, Rooms.toJson,
    PostedRoom.toRooms, Value.ofMapOrNull, bind, Except.bind, pure, Except.pure]

theorem booking_roomId (inv : Invocation K) :
    Map.get (inv.booking.toJson : Map K) "roomId" = .str inv.page.roomUid := by
  simp [Bookroom.toJson, Invocation.booking, Value.ofStringOrNull]

theorem booking_bookerUid (inv : Invocation K) :
    Map.get (inv.booking.toJson : Map K) "bookerUid" = .str inv.tenant.uid := by
  simp [Bookroom.toJson, Invocation.booking, Value.ofStringOrNull]

/-- A record under a nonempty room id comes from a booking of that room. -/
theorem record_origin {s : State K} (hpages : PagesOk s) (hrec : Recorded s) {id : String}
    (hid : id ≠ "") {d : DocumentSnapshot K} (hd : d ∈ s.bookings.docs)
    (hroomId : Map.get d.data "roomId" = .str id) :
    ∃ inv ∈ s.invocations, inv.room = id ∧ inv.phase = .booked ∧
      Map.get d.data "bookerUid" = .str inv.tenant.uid := by
  have hdata := hrec.mem_iff.mp (List.mem_map_of_mem hd)
  obtain ⟨inv, hinv, heq⟩ := List.mem_map.mp hdata
  obtain ⟨hmem, hbooked⟩ := List.mem_filter.mp hinv
  obtain ⟨r, _, _, huid⟩ := hpages inv hmem
  rw [← heq, booking_roomId] at hroomId
  rw [Value.str.inj hroomId] at huid
  have hpass : inv.opening.passesId = true := by
    by_contra hno
    rw [if_neg hno] at huid
    exact hid huid
  rw [if_pos hpass] at huid
  refine ⟨inv, hmem, huid.symm, of_decide_eq_true hbooked, ?_⟩
  rw [← heq]
  exact booking_bookerUid inv

/-- One record under the id of the room is enough for its landlord. -/
theorem landlordSees_of_record {s : State K} (hpages : PagesOk s) (hrec : Recorded s)
    {id : String} (hid : id ≠ "") (r : PostedRoom K) {d : DocumentSnapshot K}
    (hd : d ∈ s.bookings.docs) (hroomId : Map.get d.data "roomId" = .str id) :
    LandlordSees s id r := by
  have hmatch : d ∈ s.bookings.docs.filter (isEqualTo "roomId" id) :=
    List.mem_filter.mpr ⟨hd, (isEqualTo_iff _ _ d).mpr hroomId⟩
  obtain ⟨first, rest, heq⟩ := List.exists_cons_of_ne_nil (List.ne_nil_of_mem hmatch)
  have hfirst : first ∈ s.bookings.docs.filter (isEqualTo "roomId" id) := by simp [heq]
  obtain ⟨hmem, hid'⟩ := List.mem_filter.mp hfirst
  obtain ⟨inv, hinv, hroom, hbooked, huid⟩ :=
    record_origin hpages hrec hid hmem ((isEqualTo_iff _ _ first).mp hid')
  refine ⟨first, inv.tenant.uid, ?_, huid, inv, hinv, hroom, hbooked, rfl⟩
  rw [landlordBookings_posted, heq]
  rfl

theorem record_of_landlordSees {s : State K} {id : String} {r : PostedRoom K}
    (h : LandlordSees s id r) :
    ∃ d ∈ s.bookings.docs, Map.get d.data "roomId" = .str id := by
  obtain ⟨d, _, hquery, _⟩ := h
  rw [landlordBookings_posted] at hquery
  have hd : d ∈ (s.bookings.docs.filter (isEqualTo "roomId" id)).take 1 := by
    rw [Except.ok.inj hquery]
    exact List.mem_singleton_self d
  obtain ⟨hmem, hmatch⟩ := List.mem_filter.mp (List.mem_of_mem_take hd)
  exact ⟨d, hmem, (isEqualTo_iff _ _ d).mp hmatch⟩

variable [IntCast K]

/-- After an add went through, the landlord of the room sees a booking from
then on exactly when the tenant's page came from a list that passes the
document id, or the room had a record under its id before. -/
theorem landlordSees_after_commit_iff (rooms : Collection String (PostedRoom K))
    (ids : ∀ d ∈ rooms.docs, d.id ≠ "") (acts : List Action) (s t : State K) (i : Nat)
    (id : String) (inv : Invocation K) (r : PostedRoom K)
    (hrun : run step (initial rooms) acts = some s)
    (hinv : s.invocations[i]? = some inv) (hroom : rooms.get? inv.room = some r)
    (hcommit : step s (.commit i id) = some t) :
    (∀ later u, run step t later = some u → LandlordSees u inv.room r) ↔
      (inv.opening.passesId = true ∨
        ∃ d ∈ s.bookings.docs, Map.get d.data "roomId" = .str inv.room) := by
  have hne : inv.room ≠ "" := ids ⟨inv.room, r⟩ ((rooms.get?_eq_some_iff _ _).mp hroom)
  have hpages := run_pagesOk hrun
  obtain ⟨_, _, _, huid⟩ := hpages inv (List.mem_of_getElem? hinv)
  have hrun' : run step (initial rooms) (acts ++ [.commit i id]) = some t :=
    run_snoc.mpr ⟨s, hrun, hcommit⟩
  cases step_did hcommit with
  | committed hinv' hphase fresh perm =>
    cases hinv.symm.trans hinv'
    constructor
    · intro h
      obtain ⟨d, hd, hroomId⟩ := record_of_landlordSees (h [] _ rfl)
      rcases List.mem_cons.mp (perm.mem_iff.mp hd) with rfl | hold
      · left
        rw [booking_roomId] at hroomId
        by_contra hno
        rw [if_neg hno, Value.str.inj hroomId] at huid
        exact hne huid
      · exact Or.inr ⟨d, hold, hroomId⟩
    · intro h later u hlater
      have hall := run_append.mpr ⟨_, hrun', hlater⟩
      obtain ⟨d, hd, hroomId⟩ : ∃ d ∈ (s.bookings.set id inv.booking.toJson).docs,
          Map.get d.data "roomId" = .str inv.room := by
        rcases h with hpass | ⟨d, hd, hroomId⟩
        · rw [if_pos hpass] at huid
          refine ⟨_, perm.mem_iff.mpr List.mem_cons_self, ?_⟩
          rw [booking_roomId, huid]
        · exact ⟨d, perm.mem_iff.mpr (List.mem_cons_of_mem _ hd), hroomId⟩
      exact landlordSees_of_record (run_pagesOk hall) (run_recorded hall) hne r
        (run_keeps_records hd hlater) hroomId

end Query

def sampleRoom : PostedRoom ℚ where
  roomTitle := "Sunny flat"
  titleNonempty := by decide
  posterUid := "landlord"
  postedBy := some "Sita Rai"
  postedByEmail := some "sita@example.com"
  address := "Patan"
  latitude := 27
  longitude := 85
  price := .fin 9000
  description := "Two rooms"
  amenities := ["Gym"]
  images := ["rooms/1.png"]
  propertyType := "Apartment"
  postDate := "2024-01-01"

def sampleRooms : Collection String (PostedRoom ℚ) := Collection.empty.set "r1" sampleRoom

def bookingRun (opening : Opening) : List Action :=
  [.tap (some ⟨"tenant", some "Hari"⟩) opening "r1" 0, .query 0, .test 0]

theorem landlordSees_after_commit_search :
    ∃ s t inv, run step (initial sampleRooms) (bookingRun .search) = some s ∧
      s.invocations[0]? = some inv ∧ step s (.commit 0 "b1") = some t ∧
      ∀ later u, run step t later = some u → LandlordSees u inv.room sampleRoom := by
  have ids : ∀ d ∈ sampleRooms.docs, d.id ≠ "" := by
    intro d hd
    rw [List.mem_singleton.mp (show d ∈ [⟨"r1", sampleRoom⟩] from hd)]
    decide
  refine ⟨_, _, _, rfl, rfl, rfl, ?_⟩
  exact (landlordSees_after_commit_iff sampleRooms ids (bookingRun .search) _ _ 0 "b1" _
    sampleRoom rfl rfl rfl rfl).mpr (Or.inl rfl)

/-- Booked from the filtered list, the room shows no booking to its landlord
right after the add went through. -/
theorem filtered_booking_unseen :
    ∃ s t inv, run step (initial sampleRooms) (bookingRun .filtered) = some s ∧
      s.invocations[0]? = some inv ∧ sampleRooms.get? inv.room = some sampleRoom ∧
      step s (.commit 0 "b1") = some t ∧
      ¬ LandlordSees t inv.room sampleRoom := by
  refine ⟨_, _, _, rfl, rfl, rfl, rfl, ?_⟩
  intro h
  obtain ⟨d, hd, hroomId⟩ := record_of_landlordSees h
  have hd' : d ∈ [(⟨"b1", Bookroom.toJson
      ⟨some "Hari", some 0, some "Sunny flat", some "tenant", some ""⟩⟩ : DocumentSnapshot ℚ)] := hd
  rw [List.mem_singleton.mp hd'] at hroomId
  have hempty : (Value.str "" : Value ℚ) = .str "r1" := hroomId
  simp at hempty

end LandlordView
