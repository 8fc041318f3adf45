import Gharsathi.LocationChange
import Gharsathi.RoomDetails

/-!
# The landlord's page of a room

An entry of the landlord's list is built with its card, and opens the room page
when it is tapped. An entry whose card cannot be built, such as that of a room
without images, is an error box that does not take a tap. The page shows the
fields of the document; a change of location rewrites one of them.
-/

namespace OwnRoomPage

open DartDouble DartValues FirestoreCollection Models RoomDetails
open LocationChange (get_setField setField)
open PostingScreen (Pick)

/-- What `Landlordroomdetails` takes from its arguments. -/
structure LandlordRoomPage (K : Type) where
  location : String
  roomTitle : String
  price : Double K
  propertyType : String
  description : String
  images : List String
  amenities : List String
  roomId : String
  postDate : String

section Page
variable {K : Type}

/-- The decoding in `Landlordroomdetails`. -/
def landlordRoomPage [IntCast K] (data : Map K) : Result (LandlordRoomPage K) := do
  let location ← (Map.get data "location").asString
  let roomTitle ← (Map.get data "roomTitle").asString
  let price ← (Map.get data "price").numToDouble
  let propertyType ← ((Map.get data "propertyType").orElse (.str "Not found")).asString
  let description ← (Map.get data "description").asString
  let images ← (Map.get data "images").asStringList
  let amenities ← stringsOrEmpty (Map.get data "amenities")
  let roomId ← (Map.get data "roomId").asString
  let postDate ← (Map.get data "postDate").asString
  return ⟨location, roomTitle, price, propertyType, description, images, amenities, roomId,
    postDate⟩

/-- A tap on an entry of the landlord's list. -/
def openLandlordRoom [IntCast K] (d : DocumentSnapshot K) : Result (LandlordRoomPage K) := do
  let _card ← roomcard d
  let arguments ← landlordArguments d
  landlordRoomPage arguments

/-- The update of `updateRoomLocation`. -/
def relocated (data : Map K) (pick : Pick K) : Map K :=
  setField data "location" (.map (locationMap pick.address pick.latitude pick.longitude))

/-- The document has what the card and the page need, and the page shows it. -/
structure Shows [IntCast K] (data : Map K) (page : LandlordRoomPage K) : Prop where
  roomTitle : Map.get data "name" = .str page.roomTitle
  postedBy : ∃ poster, Map.get data "postedBy" = .str poster
  location : ∃ entries, Map.get data "location" = .map entries ∧
    Map.get entries "address" = .str page.location
  price : (Map.get data "price").numToDouble = .ok page.price
  description : Map.get data "description" = .str page.description
  images : Map.get data "images" = .ofStrings page.images
  someImage : page.images ≠ []
  amenities : Map.get data "amenities" = .ofStrings page.amenities
  propertyType : Map.get data "propertyType" = .str page.propertyType
  postDate : Map.get data "postDate" = .str page.postDate

end Page

section Decoding
variable {K : Type}

theorem field_eq_ok_iff {d : DocumentSnapshot K} {name : String} {v : Value K} :
    field d name = .ok v ↔ Map.containsKey d.data name = true ∧ Map.get d.data name = v := by
  unfold field
  cases Map.containsKey d.data name <;> simp

/-- A field that is there with a value can be read. -/
theorem field_of_get {d : DocumentSnapshot K} {name : String} {v : Value K}
    (h : Map.get d.data name = v) (hv : v ≠ .null) : field d name = .ok v :=
  field_eq_ok_iff.mpr ⟨Map.containsKey_of_get (h ▸ hv), h⟩

theorem numToDouble_ne_null [IntCast K] {v : Value K} {x : Double K}
    (h : v.numToDouble = .ok x) : v ≠ .null := by
  rintro rfl
  cases h

end Decoding

section Opening
variable {K : Type} [IntCast K]

omit [IntCast K] in
theorem landlordArguments_eq {d : DocumentSnapshot K} {arguments : Map K} {address : Value K}
    (haddress : (Map.get d.data "location").index "address" = .ok address)
    (h : landlordArguments d = .ok arguments) :
    arguments = [("roomTitle", Map.get d.data "name"), ("location", address),
      ("price", Map.get d.data "price"), ("description", Map.get d.data "description"),
      ("images", Map.get d.data "images"), ("amenities", Map.get d.data "amenities"),
      ("roomId", .str d.id), ("propertyType", Map.get d.data "propertyType"),
      ("postDate", Map.get d.data "postDate")] := by
  simp only [landlordArguments, bind_eq_ok, pure_eq_ok, field_eq_ok_iff] at h
  obtain ⟨_, ⟨_, rfl⟩, _, ⟨_, rfl⟩, _, hindex, _, ⟨_, rfl⟩, _, ⟨_, rfl⟩, _, ⟨_, rfl⟩, _, ⟨_, rfl⟩,
    _, ⟨_, rfl⟩, _, ⟨_, rfl⟩, rfl⟩ := h
  cases haddress.symm.trans hindex
  rfl

theorem shows_of_open {d : DocumentSnapshot K} {page : LandlordRoomPage K}
    (h : openLandlordRoom d = .ok page) : page.roomId = d.id ∧ Shows d.data page := by
  obtain ⟨card, hcard, hrest⟩ := bind_eq_ok.mp h
  obtain ⟨arguments, harguments, hpage⟩ := bind_eq_ok.mp hrest
  simp only [roomcard, bind_eq_ok, pure_eq_ok, field_eq_ok_iff, Value.asString_eq_ok_iff,
    Value.asList_eq_ok_iff, Value.index_eq_ok_iff] at hcard
  -- what the card reads, in the order it reads it
  obtain ⟨_, ⟨_, hname⟩, title, rfl, _, ⟨_, hposted⟩, poster, rfl, _, ⟨_, hlocation⟩, _,
    ⟨entries, rfl, haddress⟩, address, rfl, _, ⟨_, hprice⟩, price, hdouble, _, ⟨_, hdescription⟩,
    description, rfl, _, ⟨_, himages⟩, _, hfirst, image, rfl, _, ⟨_, hamenities⟩, amenities, rfl, _,
    ⟨_, htype⟩, propertyType, rfl, _, ⟨_, hdate⟩, postDate, rfl, -⟩ := hcard
  have hindex : (Map.get d.data "location").index "address" = .ok (.str address) :=
    Value.index_eq_ok_iff.mpr ⟨entries, hlocation, haddress⟩
  rw [landlordArguments_eq hindex harguments] at hpage
  have hall : stringsOrEmpty (Value.list amenities) = (Value.list amenities).asStringList := rfl
  simp only [landlordRoomPage, bind_eq_ok, pure_eq_ok, Map.get_cons, String.reduceEq,
    ↓reduceIte, Value.asString_eq_ok_iff, hname, htype, hdescription, hdate, hamenities, hall,
    Value.asStringList_eq_ok_iff, Value.orElse_str, Value.str.injEq, exists_eq_left', himages]
    at hpage
  obtain ⟨price', hprice', images, rfl, shown, hshown, rfl⟩ := hpage
  refine ⟨rfl, hname, ⟨poster, hposted⟩, ⟨entries, hlocation, haddress⟩, hprice', hdescription,
    himages, ?_, hamenities.trans hshown, htype, hdate⟩
  rintro rfl
  cases hfirst

/-- Which entries of the list open, and what the page then shows. -/
theorem openLandlordRoom_eq_ok_iff {d : DocumentSnapshot K} {page : LandlordRoomPage K} :
    openLandlordRoom d = .ok page ↔ page.roomId = d.id ∧ Shows d.data page := by
  refine ⟨shows_of_open, ?_⟩
  rintro ⟨hid, shows⟩
  obtain ⟨poster, hposted⟩ := shows.postedBy
  obtain ⟨entries, hlocation, haddress⟩ := shows.location
  obtain ⟨location, roomTitle, price, propertyType, description, images, amenities, roomId,
    postDate⟩ := page
  obtain ⟨image, others, rfl⟩ := List.exists_cons_of_ne_nil shows.someImage
  have hname := field_of_get shows.roomTitle nofun
  have hposter := field_of_get hposted nofun
  have hplace := field_of_get hlocation nofun
  have hprice := field_of_get rfl (numToDouble_ne_null shows.price)
  have hdescription := field_of_get shows.description nofun
  have himages := field_of_get shows.images nofun
  have hamenities := field_of_get shows.amenities nofun
  have htype := field_of_get shows.propertyType nofun
  have hdate := field_of_get shows.postDate nofun
  have hindex := Value.index_eq_ok_iff.mpr ⟨entries, rfl, haddress⟩
  obtain rfl : roomId = d.id := hid
  have hcard : roomcard d = .ok ⟨roomTitle, poster, description, location, price, image,
      amenities.map .str, propertyType, postDate⟩ := by
    simp only [roomcard, bind_eq_ok, pure_eq_ok]
    exact ⟨_, hname, _, rfl, _, hposter, _, rfl, _, hplace, _, hindex, _, rfl, _, hprice, _,
      shows.price, _, hdescription, _, rfl, _, himages, _, rfl, _, rfl, _, hamenities, _, rfl, _,
      htype, _, rfl, _, hdate, _, rfl, rfl⟩
  have harguments : landlordArguments d = .ok [("roomTitle", .str roomTitle),
      ("location", .str location), ("price", Map.get d.data "price"),
      ("description", .str description), ("images", .ofStrings (image :: others)),
      ("amenities", .ofStrings amenities), ("roomId", .str d.id),
      ("propertyType", .str propertyType), ("postDate", .str postDate)] := by
    simp only [landlordArguments, bind_eq_ok, pure_eq_ok]
    exact ⟨_, hname, _, hplace, _, hindex, _, hprice, _, hdescription, _, himages, _, hamenities, _,
      htype, _, hdate, haddress ▸ rfl⟩
  refine bind_eq_ok.mpr ⟨_, hcard, bind_eq_ok.mpr ⟨_, harguments, ?_⟩⟩
  simp only [landlordRoomPage, bind_eq_ok, pure_eq_ok]
  exact ⟨_, rfl, _, rfl, _, shows.price, _, rfl, _, rfl, _, Value.asStringList_ofStrings _, _,
    Value.asStringList_ofStrings _, _, rfl, _, rfl, rfl⟩

end Opening

section Posted
variable {K : Type}

theorem get_relocated_other (data : Map K) (pick : Pick K) {key : String}
    (h : "location" ≠ key) : Map.get (relocated data pick) key = Map.get data key := by
  rw [relocated, get_setField, if_neg h]

theorem get_relocated_location (data : Map K) (pick : Pick K) :
    Map.get (relocated data pick) "location" =
      .map (locationMap pick.address pick.latitude pick.longitude) := by
  rw [relocated, get_setField, if_pos rfl]

/-- Changes of its location leave all else of a document. -/
theorem get_relocations_other (data : Map K) (picks : List (Pick K)) {key : String}
    (h : "location" ≠ key) : Map.get (picks.foldl relocated data) key = Map.get data key := by
  induction picks generalizing data with
  | nil => rfl
  | cons pick picks ih => exact (ih _).trans (get_relocated_other data pick h)

/-- The location is that of the last change, if there was one. -/
theorem get_relocations_location (data : Map K) (picks : List (Pick K)) :
    Map.get (picks.foldl relocated data) "location" =
      match picks.getLast? with
      | none => Map.get data "location"
      | some pick => .map (locationMap pick.address pick.latitude pick.longitude) := by
  induction picks using List.reverseRecOn with
  | nil => rfl
  | append_singleton picks pick _ =>
    rw [List.foldl_append, List.foldl_cons, List.foldl_nil, get_relocated_location,
      List.getLast?_append_of_ne_nil _ (by simp)]
    rfl

/-- The page shows the room as it was posted, its location apart. -/
structure Displays (room : Rooms K) (page : LandlordRoomPage K) : Prop where
  roomTitle : room.roomTitle = some page.roomTitle
  price : room.price = some page.price
  description : room.description = some page.description
  images : room.images = some (page.images.map some)
  someImage : page.images ≠ []
  amenities : room.amenities = page.amenities
  propertyType : room.propertyType = some page.propertyType
  postDate : room.postDate = page.postDate

theorem ofStringOrNull_eq_str_iff {o : Option String} {s : String} :
    (Value.ofStringOrNull o : Value K) = .str s ↔ o = some s := by
  cases o <;> simp [Value.ofStringOrNull]

theorem map_ofStringOrNull_eq_iff {urls : List (Option String)} {xs : List String} :
    urls.map (Value.ofStringOrNull (K := K)) = xs.map .str ↔ urls = xs.map some := by
  induction urls generalizing xs with
  | nil => simp
  | cons url urls ih =>
    cases xs with
    | nil => simp
    | cons x xs => simp [ofStringOrNull_eq_str_iff, ih]

theorem ofStrings_injective {xs ys : List String}
    (h : (Value.ofStrings xs : Value K) = .ofStrings ys) : xs = ys := by
  have hcast := congrArg Value.asStringList h
  rw [Value.asStringList_ofStrings, Value.asStringList_ofStrings] at hcast
  exact Except.ok.inj hcast

variable [IntCast K]

theorem numToDouble_ofDoubleOrNull_eq_ok {o : Option (Double K)} {x : Double K}
    (h : (Value.ofDoubleOrNull o).numToDouble = .ok x) : o = some x := by
  cases o with
  | none => cases h
  | some y =>
    cases h
    rfl

theorem Shows.displays {room : Rooms K} {picks : List (Pick K)} {page : LandlordRoomPage K}
    (shows : Shows (picks.foldl relocated room.toJson) page) : Displays room page := by
  have same : ∀ key, "location" ≠ key →
      Map.get (picks.foldl relocated room.toJson) key = Map.get room.toJson key :=
    fun key h => get_relocations_other _ _ h
  have hname := (same "name" (by decide)).symm.trans shows.roomTitle
  have hprice := (congrArg Value.numToDouble (same "price" (by decide))).symm.trans shows.price
  have hdescription := (same "description" (by decide)).symm.trans shows.description
  have himages := (same "images" (by decide)).symm.trans shows.images
  have hamenities := (same "amenities" (by decide)).symm.trans shows.amenities
  have htype := (same "propertyType" (by decide)).symm.trans shows.propertyType
  have hdate := (same "postDate" (by decide)).symm.trans shows.postDate
  simp only [Rooms.toJson, Map.get_cons, String.reduceEq, ↓reduceIte,
    ofStringOrNull_eq_str_iff, Value.str.injEq]
    at hname hprice hdescription himages hamenities htype hdate
  refine ⟨hname, numToDouble_ofDoubleOrNull_eq_ok hprice, hdescription, ?_, shows.someImage,
    ofStrings_injective hamenities, htype, hdate⟩
  cases hurls : room.images with
  | none =>
    rw [hurls] at himages
    cases himages
  | some urls =>
    rw [hurls] at himages
    rw [map_ofStringOrNull_eq_iff.mp (Value.list.inj himages)]

/-- A room that opens still opens after its location was changed, and shows
the new one. -/
theorem Shows.relocated {data : Map K} {page : LandlordRoomPage K} (shows : Shows data page)
    (pick : Pick K) :
    Shows (OwnRoomPage.relocated data pick) { page with location := pick.address } where
  roomTitle := (get_relocated_other _ _ (by decide)).trans shows.roomTitle
  postedBy := shows.postedBy.imp (fun _ h => (get_relocated_other _ _ (by decide)).trans h)
  location := ⟨_, get_relocated_location _ _, locationMap_address _ _ _⟩
  price := (congrArg Value.numToDouble (get_relocated_other _ _ (by decide))).trans shows.price
  description := (get_relocated_other _ _ (by decide)).trans shows.description
  images := (get_relocated_other _ _ (by decide)).trans shows.images
  someImage := shows.someImage
  amenities := (get_relocated_other _ _ (by decide)).trans shows.amenities
  propertyType := (get_relocated_other _ _ (by decide)).trans shows.propertyType
  postDate := (get_relocated_other _ _ (by decide)).trans shows.postDate

end Posted

end OwnRoomPage
