import Gharsathi.FirestoreCollection
import Gharsathi.Models

/-!
# Ways to the room page

The room page reads everything it shows, the id of the room included, from the
argument map of its route. Each list of rooms builds that map on its own: two
from a document snapshot, one from a bare data map, one through a
recommendation card and one from the snapshot a room card saved earlier.
-/

namespace RoomDetails

open DartDouble DartValues FirestoreCollection Models

/-- What `Roomdetails.build` takes from the route arguments. -/
structure RoomPage (K : Type) where
  roomTitle : String
  postedBy : String
  postedByEmail : String
  posterUid : String
  location : String
  price : Double K
  description : String
  images : List String
  amenities : List String
  roomUid : String
  propertyType : String
  postDate : String

structure RecommendationCard (K : Type) where
  roomTitle : String
  postedBy : String
  propertyType : String
  description : String
  location : String
  price : Double K
  image : String
  amenities : List (Value K)
  postDate : String
  posterUid : Option String
  postedByEmail : Option String

structure Roomcard (K : Type) where
  roomTitle : String
  postedBy : String
  description : String
  location : String
  price : Double K
  image : String
  amenities : List (Value K)
  propertyType : String
  postDate : String

/-- The lists a room page can be opened from; a saved room was saved at some time. -/
inductive Opening where
  | search
  | allRooms
  | filtered
  | recommendation
  | saved (savedAt : Int)
  deriving DecidableEq, Repr

section Pages
variable {K : Type} [IntCast K]

/-- `v != null ? List<String>.from(v) : []`. -/
def stringsOrEmpty (v : Value K) : Result (List String) :=
  if v.isNull then .ok [] else v.asStringList

/-- The decoding at the top of `Roomdetails.build`. -/
def build (data : Map K) : Result (RoomPage K) := do
  let roomTitle ← ((Map.get data "roomTitle").orElse (.str "Unknown Room")).asString
  let postedBy ← ((Map.get data "postedBy").orElse (.str "Unknown")).asString
  let postedByEmail ← ((Map.get data "postedByEmail").orElse (.str "")).asString
  let posterUid ← ((Map.get data "posterUid").orElse (.str "")).asString
  let location ← ((Map.get data "location").orElse (.str "Unknown Location")).asString
  let price ← (Map.get data "price").numToDouble
  let description ← ((Map.get data "description").orElse (.str "No Description")).asString
  let images ← ((Map.get data "images").orElse (.list [])).asStringList
  let amenities ← stringsOrEmpty (Map.get data "amenities")
  let roomUid ← ((Map.get data "roomId").orElse (.str "")).asString
  let propertyType ← ((Map.get data "propertyType").orElse (.str "Unknown")).asString
  let postDate ← ((Map.get data "postDate").orElse (.str "No Date Found")).asString
  return ⟨roomTitle, postedBy, postedByEmail, posterUid, location, price, description, images,
    amenities, roomUid, propertyType, postDate⟩

/-- The arguments the search results and the full list pass, with the id of
the document. -/
def snapshotArguments (d : DocumentSnapshot K) : Result (Map K) := do
  let name ← field d "name"
  let postedBy ← field d "postedBy"
  let address ← (← field d "location").index "address"
  let price ← field d "price"
  let description ← field d "description"
  let images ← field d "images"
  let amenities ← field d "amenities"
  let propertyType ← field d "propertyType"
  let postDate ← field d "postDate"
  let postedByEmail ← field d "postedByEmail"
  let posterUid ← field d "posterUid"
  return [("roomTitle", name), ("postedBy", postedBy), ("location", address), ("price", price),
    ("description", description), ("images", images), ("amenities", amenities),
    ("roomId", .str d.id), ("propertyType", propertyType), ("postDate", postDate),
    ("postedByEmail", postedByEmail), ("posterUid", posterUid)]

def searchArguments (d : DocumentSnapshot K) : Result (Map K) := snapshotArguments d

def allRoomsArguments (d : DocumentSnapshot K) : Result (Map K) := snapshotArguments d

/-- The filtered list holds bare data maps and passes an empty room id. -/
def filteredArguments (room : Map K) : Result (Map K) := do
  let address ← (Map.get room "location").index "address"
  return [("roomTitle", Map.get room "name"), ("postedBy", Map.get room "postedBy"),
    ("location", address), ("price", Map.get room "price"),
    ("description", Map.get room "description"), ("images", Map.get room "images"),
    ("amenities", Map.get room "amenities"), ("roomId", .str ""),
    ("propertyType", Map.get room "propertyType"), ("postDate", Map.get room "postDate"),
    ("postedByEmail", Map.get room "postedByEmail"), ("posterUid", Map.get room "posterUid")]

/-- `data['images']?[0] ?? ''`. -/
def firstImage (images : Value K) : Result (Value K) :=
  if images.isNull then .ok (.str "")
  else match images.elementAt 0 with
    | .ok image => .ok (image.orElse (.str ""))
    | .error e => .error e

/-- The card the recommendation list builds for one room. -/
def recommendationCard (data : Map K) : Result (RecommendationCard K) := do
  let roomTitle ← ((Map.get data "name").orElse (.str "Unnamed Property")).asString
  let postedBy ← ((Map.get data "postedBy").orElse (.str "Unknown")).asString
  let propertyType ← ((Map.get data "propertyType").orElse (.str "Unknown")).asString
  let description ← ((Map.get data "description").orElse (.str "No description")).asString
  let address ← (Map.get data "location").index "address"
  let location ← (address.orElse (.str "No location")).asString
  let price ← (Map.get data "price").numToDouble
  let image ← (← firstImage (Map.get data "images")).asString
  let amenities ← ((Map.get data "amenities").orElse (.list [])).asList
  let postDate ← ((Map.get data "postDate").orElse (.str "")).asString
  let posterUid ← (Map.get data "posterUid").asStringOrNull
  let postedByEmail ← (Map.get data "postedByEmail").asStringOrNull
  return ⟨roomTitle, postedBy, propertyType, description, location, price, image, amenities,
    postDate, posterUid, postedByEmail⟩

/-- The arguments of the card's tap; the room id is empty here as well. -/
def RecommendationCard.arguments (c : RecommendationCard K) : Map K :=
  [("roomTitle", .str c.roomTitle), ("postedBy", .str c.postedBy), ("location", .str c.location),
    ("price", .double c.price), ("propertyType", .str c.propertyType),
    ("description", .str c.description), ("images", .list [.str c.image]),
    ("amenities", .list c.amenities), ("roomId", .str ""), ("postDate", .str c.postDate),
    ("posterUid", .ofStringOrNull c.posterUid), ("postedByEmail", .ofStringOrNull c.postedByEmail)]

/-- The room card of the full list. -/
def roomcard (d : DocumentSnapshot K) : Result (Roomcard K) := do
  let roomTitle ← (← field d "name").asString
  let postedBy ← (← field d "postedBy").asString
  let location ← (← (← field d "location").index "address").asString
  let price ← (← field d "price").numToDouble
  let description ← (← field d "description").asString
  let image ← (← (← field d "images").elementAt 0).asString
  let amenities ← (← field d "amenities").asList
  let propertyType ← (← field d "propertyType").asString
  let postDate ← (← field d "postDate").asString
  return ⟨roomTitle, postedBy, description, location, price, image, amenities, propertyType,
    postDate⟩

/-- `roomData` in `_toggleSave`. -/
def Roomcard.roomData (c : Roomcard K) : Map K :=
  [("roomTitle", .str c.roomTitle), ("postedBy", .str c.postedBy),
    ("amenities", .list c.amenities), ("description", .str c.description),
    ("location", .str c.location), ("price", .double c.price), ("images", .str c.image),
    ("propertyType", .str c.propertyType), ("postDate", .str c.postDate)]

/-- The document `toggleSaveRoom` sets. -/
def savedDocument (roomData : Map K) (savedAt : Int) : Map K :=
  roomData ++ [("savedAt", .timestamp savedAt)]

/-- `v is String ? [v] : <String>[]`. -/
def singletonIfString (v : Value K) : Value K :=
  match v with
  | .str s => .list [.str s]
  | _ => .list []

/-- `v is List ? List<String>.from(v) : <String>[]`. -/
def stringsIfList (v : Value K) : Result (List String) :=
  match v with
  | .list xs => (Value.list xs).asStringList
  | _ => .ok []

/-- The arguments the saved-rooms list builds from a saved document. -/
def savedArguments (room : Map K) : Result (Map K) := do
  let amenities ← stringsIfList (Map.get room "amenities")
  return [("roomTitle", (Map.get room "roomTitle").orElse (.str "No Title")),
    ("postedBy", (Map.get room "postedBy").orElse (.str "Unknown")),
    ("location", (Map.get room "location").orElse (.str "Unknown Location")),
    ("price", (Map.get room "price").orElse (.str "N/A")),
    ("description", (Map.get room "description").orElse (.str "No Description")),
    ("images", singletonIfString (Map.get room "images")), ("amenities", .ofStrings amenities),
    ("roomId", (Map.get room "roomId").orElse (.str "")),
    ("propertyType", (Map.get room "propertyType").orElse (.str "Unknown")),
    ("postDate", Map.get room "postDate")]

/-- The page that opens for a room document along one of the five ways. -/
def openPage (o : Opening) (d : DocumentSnapshot K) : Result (RoomPage K) :=
  match o with
  | .search => searchArguments d >>= build
  | .allRooms => allRoomsArguments d >>= build
  | .filtered => filteredArguments d.data >>= build
  | .recommendation => recommendationCard d.data >>= fun card => build card.arguments
  | .saved savedAt => roomcard d >>= fun card =>
      savedArguments (savedDocument card.roomData savedAt) >>= build

/-- The arguments of the landlord's own list for its details page. -/
def landlordArguments (d : DocumentSnapshot K) : Result (Map K) := do
  let name ← field d "name"
  let address ← (← field d "location").index "address"
  let price ← field d "price"
  let description ← field d "description"
  let images ← field d "images"
  let amenities ← field d "amenities"
  let propertyType ← field d "propertyType"
  let postDate ← field d "postDate"
  return [("roomTitle", name), ("location", address), ("price", price),
    ("description", description), ("images", images), ("amenities", amenities),
    ("roomId", .str d.id), ("propertyType", propertyType), ("postDate", postDate)]

end Pages

/-- The ways that pass the id of the document. -/
def Opening.passesId : Opening → Bool
  | .search => true
  | .allRooms => true
  | .filtered => false
  | .recommendation => false
  | .saved _ => false

/-- A posted room under the id the store gave it. -/
def postedSnapshot {K : Type} (id : String) (r : PostedRoom K) : DocumentSnapshot K :=
  ⟨id, r.toRooms.toJson⟩

section Identity
variable {K : Type}

@[simp] theorem get_posted_name (id : String) (r : PostedRoom K) :
    Map.get (postedSnapshot id r).data "name" = .str r.roomTitle := by
  simp [postedSnapshot, Rooms.toJson, PostedRoom.toRooms, Value.ofStringOrNull]

@[simp] theorem field_posted_name (id : String) (r : PostedRoom K) :
    field (postedSnapshot id r) "name" = .ok (.str r.roomTitle) := by
  simp [field, postedSnapshot, Rooms.toJson, PostedRoom.toRooms, Value.ofStringOrNull]

theorem snapshotArguments_posted {id : String} {r : PostedRoom K} {arguments : Map K}
    (h : snapshotArguments (postedSnapshot id r) = .ok arguments) :
    Map.get arguments "roomId" = .str id ∧ Map.get arguments "roomTitle" = .str r.roomTitle := by
  simp only [snapshotArguments, bind_eq_ok, pure_eq_ok, field_posted_name, Except.ok.injEq,
    exists_eq_left'] at h
  -- one step for each value read, the last one for the returned map
  repeat obtain ⟨_, _, h⟩ := h
  simp [postedSnapshot]

theorem filteredArguments_posted {id : String} {r : PostedRoom K} {arguments : Map K}
    (h : filteredArguments (postedSnapshot id r).data = .ok arguments) :
    Map.get arguments "roomId" = .str "" ∧ Map.get arguments "roomTitle" = .str r.roomTitle := by
  simp only [filteredArguments, bind_eq_ok, pure_eq_ok, get_posted_name] at h
  obtain ⟨_, _, h⟩ := h
  subst h
  simp

theorem savedArguments_savedDocument {card : Roomcard K} {savedAt : Int} {arguments : Map K}
    (h : savedArguments (savedDocument card.roomData savedAt) = .ok arguments) :
    Map.get arguments "roomId" = .str "" ∧ Map.get arguments "roomTitle" = .str card.roomTitle := by
  simp only [savedArguments, bind_eq_ok, pure_eq_ok] at h
  obtain ⟨_, _, h⟩ := h
  subst h
  simp [savedDocument, Roomcard.roomData]

variable [IntCast K]

theorem build_roomUid {data : Map K} {page : RoomPage K} {id : String}
    (hid : Map.get data "roomId" = .str id) (h : build data = .ok page) : page.roomUid = id := by
  simp only [build, bind_eq_ok, pure_eq_ok, hid, Value.orElse_str, Value.asString_str,
    Except.ok.injEq, exists_eq_left'] at h
  repeat obtain ⟨_, _, h⟩ := h
  rfl

theorem build_roomTitle {data : Map K} {page : RoomPage K} {title : String}
    (htitle : Map.get data "roomTitle" = .str title) (h : build data = .ok page) :
    page.roomTitle = title := by
  simp only [build, bind_eq_ok, pure_eq_ok, htitle, Value.orElse_str, Value.asString_str,
    Except.ok.injEq, exists_eq_left'] at h
  repeat obtain ⟨_, _, h⟩ := h
  rfl

theorem recommendationCard_posted {id : String} {r : PostedRoom K} {card : RecommendationCard K}
    (h : recommendationCard (postedSnapshot id r).data = .ok card) :
    card.roomTitle = r.roomTitle := by
  simp only [recommendationCard, bind_eq_ok, pure_eq_ok, get_posted_name, Value.orElse_str,
    Value.asString_str, Except.ok.injEq, exists_eq_left'] at h
  repeat obtain ⟨_, _, h⟩ := h
  rfl

theorem roomcard_posted {id : String} {r : PostedRoom K} {card : Roomcard K}
    (h : roomcard (postedSnapshot id r) = .ok card) : card.roomTitle = r.roomTitle := by
  simp only [roomcard, bind_eq_ok, pure_eq_ok, field_posted_name, Value.asString_str,
    Except.ok.injEq, exists_eq_left'] at h
  repeat obtain ⟨_, _, h⟩ := h
  rfl

/-- A page opened for a posted room carries its title, and its id exactly on
the two ways that start from the document snapshot. -/
theorem openPage_posted {o : Opening} {id : String} {r : PostedRoom K} {page : RoomPage K}
    (h : openPage o (postedSnapshot id r) = .ok page) :
    page.roomTitle = r.roomTitle ∧ page.roomUid = if o.passesId then id else "" := by
  cases o with
  | search =>
    obtain ⟨arguments, harg, hpage⟩ := bind_eq_ok.mp h
    obtain ⟨hid, htitle⟩ := snapshotArguments_posted harg
    exact ⟨build_roomTitle htitle hpage, build_roomUid hid hpage⟩
  | allRooms =>
    obtain ⟨arguments, harg, hpage⟩ := bind_eq_ok.mp h
    obtain ⟨hid, htitle⟩ := snapshotArguments_posted harg
    exact ⟨build_roomTitle htitle hpage, build_roomUid hid hpage⟩
  | filtered =>
    obtain ⟨arguments, harg, hpage⟩ := bind_eq_ok.mp h
    obtain ⟨hid, htitle⟩ := filteredArguments_posted harg
    exact ⟨build_roomTitle htitle hpage, build_roomUid hid hpage⟩
  | recommendation =>
    obtain ⟨card, hcard, hpage⟩ := bind_eq_ok.mp h
    have htitle : Map.get card.arguments "roomTitle" = .str r.roomTitle := by
      rw [← recommendationCard_posted hcard]
      rfl
    have hid : Map.get card.arguments "roomId" = .str "" := by simp [RecommendationCard.arguments]
    exact ⟨build_roomTitle htitle hpage, build_roomUid hid hpage⟩
  | saved savedAt =>
    obtain ⟨card, hcard, hrest⟩ := bind_eq_ok.mp h
    obtain ⟨arguments, harg, hpage⟩ := bind_eq_ok.mp hrest
    obtain ⟨hid, htitle⟩ := savedArguments_savedDocument harg
    rw [roomcard_posted hcard] at htitle
    exact ⟨build_roomTitle htitle hpage, build_roomUid hid hpage⟩

end Identity

end RoomDetails
