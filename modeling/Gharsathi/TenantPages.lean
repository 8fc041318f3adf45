import Gharsathi.OwnRoomPage
import Gharsathi.RoomLists
import Gharsathi.SavedRooms

/-!
# The tenant's page of a room

A tenant opens the room page from a row of one of five lists. A row whose tile
or card cannot be built is an error box that does not take a tap. What the page
then shows of a posted room depends on the list alone: the recommendations and
the saved rooms hand on one image, three lists drop the id of the room, and the
saved rooms drop its poster as well.
-/

namespace TenantPages

open DartDouble DartValues FirestoreCollection Models OwnRoomPage RoomDetails RoomLists SavedRooms
open PostingScreen (Pick)

inductive TenantList where
  | search
  | allRooms
  | filtered
  | recommendations
  | saved
  deriving DecidableEq

/-- The lists that hand the id of the document on to the page. -/
def TenantList.passesId : TenantList → Bool
  | .search => true
  | .allRooms => true
  | _ => false

def TenantList.passesPoster : TenantList → Bool
  | .saved => false
  | _ => true

def TenantList.passesImages : TenantList → Bool
  | .recommendations => false
  | .saved => false
  | _ => true

/-- What a list holds of a room. -/
inductive TenantRow (K : Type) where
  | search (d : DocumentSnapshot K)
  | allRooms (d : DocumentSnapshot K)
  | filtered (room : Map K)
  | recommendation (d : DocumentSnapshot K)
  | saved (room : Map K)

section Rows
variable {K : Type}

def TenantRow.list : TenantRow K → TenantList
  | .search _ => .search
  | .allRooms _ => .allRooms
  | .filtered _ => .filtered
  | .recommendation _ => .recommendations
  | .saved _ => .saved

/-- A tap on a row: its tile or card has been built, and the page is built from
the arguments of the row. -/
def TenantRow.details [IntCast K] : TenantRow K → Result (RoomPage K)
  | .search d => do
    let _tile ← searchTile d
    build (← searchArguments d)
  | .allRooms d => do
    let _card ← roomcard d
    build (← allRoomsArguments d)
  | .filtered room => do
    let _card ← filteredCard room
    build (← filteredArguments room)
  | .recommendation d => do
    let card ← recommendationCard d.data
    build card.arguments
  | .saved room => do
    build (← savedArguments room)

/-- The card of a row, which has the bookmark. -/
def TenantRow.roomcard [IntCast K] : TenantRow K → Option (Roomcard K)
  | .allRooms d => (RoomDetails.roomcard d).toOption
  | .filtered room => (filteredCard room).toOption
  | _ => none

/-- What the page shows of a room that was opened from a list. -/
def shownPage (list : TenantList) (id : String) (r : PostedRoom K) : RoomPage K where
  roomTitle := r.roomTitle
  postedBy := r.postedBy.getD "Unknown"
  postedByEmail := if list.passesPoster then r.postedByEmail.getD "" else ""
  posterUid := if list.passesPoster then r.posterUid else ""
  location := r.address
  price := r.price
  description := r.description
  images := if list.passesImages then r.images else r.images.take 1
  amenities := r.amenities
  roomUid := if list.passesId then id else ""
  propertyType := r.propertyType
  postDate := r.postDate

/-- The card of a room whose poster has a name and which has an image. -/
def shownCard (r : PostedRoom K) (postedBy image : String) : Roomcard K where
  roomTitle := r.roomTitle
  postedBy := postedBy
  description := r.description
  location := r.address
  price := r.price
  image := image
  amenities := r.amenities.map .str
  propertyType := r.propertyType
  postDate := r.postDate

def CardOf (r : PostedRoom K) (card : Roomcard K) : Prop :=
  ∃ postedBy image, r.postedBy = some postedBy ∧ r.images.head? = some image ∧
    card = shownCard r postedBy image

/-- The row of a room in one of the lists; a saved room is the card it had. -/
inductive RowOf (id : String) (r : PostedRoom K) : TenantRow K → Prop where
  | search : RowOf id r (.search (postedSnapshot id r))
  | allRooms : RowOf id r (.allRooms (postedSnapshot id r))
  | filtered : RowOf id r (.filtered r.toRooms.toJson)
  | recommendation : RowOf id r (.recommendation (postedSnapshot id r))
  | saved {card : Roomcard K} (savedAt : Int) (of : CardOf r card) :
      RowOf id r (.saved (savedDocument card.roomData savedAt))

end Rows

section Posted
variable {K : Type}

/-- A room after a change of its location. -/
def moved (r : PostedRoom K) (pick : Pick K) : PostedRoom K :=
  { r with
    address := pick.address
    latitude := pick.latitude
    longitude := pick.longitude }

theorem relocated_toRooms (r : PostedRoom K) (pick : Pick K) :
    relocated r.toRooms.toJson pick = (moved r pick).toRooms.toJson := by
  simp [relocated, LocationChange.setField, Rooms.toJson, PostedRoom.toRooms, moved,
    Map.containsKey, Value.ofMapOrNull]

theorem relocations_toRooms (r : PostedRoom K) (picks : List (Pick K)) :
    picks.foldl relocated r.toRooms.toJson = (picks.foldl moved r).toRooms.toJson := by
  induction picks generalizing r with
  | nil => rfl
  | cons pick picks ih =>
    rw [List.foldl_cons, relocated_toRooms]
    exact ih _

/-- Changes of its location leave all else of a room. -/
theorem moves_eq (r : PostedRoom K) (picks : List (Pick K)) :
    ∃ address latitude longitude, picks.foldl moved r =
      { r with address := address, latitude := latitude, longitude := longitude } := by
  induction picks generalizing r with
  | nil => exact ⟨_, _, _, rfl⟩
  | cons pick picks ih =>
    obtain ⟨address, latitude, longitude, h⟩ := ih (moved r pick)
    exact ⟨address, latitude, longitude, h⟩

theorem toOption_eq_some {α : Type} {x : Result α} {a : α} :
    x.toOption = some a ↔ x = .ok a := by
  cases x <;> simp [Except.toOption]

theorem list_ofStrings (images : List String) :
    .list (images.map (Value.ofStringOrNull (K := K) ∘ some)) = Value.ofStrings images := rfl

theorem stringsOrEmpty_ofStrings (xs : List String) :
    stringsOrEmpty (.ofStrings xs : Value K) = .ok xs :=
  Value.asStringList_ofStrings xs

theorem orElse_ofStringOrNull (o : Option String) (s : String) :
    (Value.ofStringOrNull o : Value K).orElse (.str s) = .str (o.getD s) := by
  cases o <;> rfl

def roomArguments (roomId : String) (r : PostedRoom K) : Map K :=
  [("roomTitle", .str r.roomTitle), ("postedBy", .ofStringOrNull r.postedBy),
    ("location", .str r.address), ("price", .double r.price), ("description", .str r.description),
    ("images", .ofStrings r.images), ("amenities", .ofStrings r.amenities), ("roomId", .str roomId),
    ("propertyType", .str r.propertyType), ("postDate", .str r.postDate),
    ("postedByEmail", .ofStringOrNull r.postedByEmail), ("posterUid", .str r.posterUid)]

variable [IntCast K]

theorem roomcard_posted {id : String} {r : PostedRoom K} {card : Roomcard K}
    (h : RoomDetails.roomcard (postedSnapshot id r) = .ok card) : CardOf r card := by
  cases hposter : r.postedBy with
  | none =>
    simp [RoomDetails.roomcard, field, postedSnapshot, Rooms.toJson, PostedRoom.toRooms, hposter,
      Value.ofStringOrNull, Value.asString, bind, Except.bind] at h
  | some postedBy =>
    cases himages : r.images with
    | nil =>
      simp [RoomDetails.roomcard, field, postedSnapshot, Rooms.toJson, PostedRoom.toRooms,
        hposter, himages, Value.ofStringOrNull, Value.ofMapOrNull, Value.ofDoubleOrNull,
        Value.numToDouble, Value.elementAt, bind, Except.bind] at h
    | cons image images =>
      rw [roomcard_ofPosted id r hposter himages] at h
      cases h
      exact ⟨postedBy, image, hposter, by rw [himages]; rfl, rfl⟩

omit [IntCast K] in
/-- The arguments that three of the lists build. -/
theorem snapshotArguments_eq (id : String) (r : PostedRoom K) :
    snapshotArguments (postedSnapshot id r) = .ok (roomArguments id r) := by
  simp [snapshotArguments, field, postedSnapshot, Rooms.toJson, PostedRoom.toRooms, roomArguments,
    Value.ofMapOrNull_some, Value.ofStringOrNull_some, Value.ofDoubleOrNull, list_ofStrings, bind,
    Except.bind, pure, Except.pure]

omit [IntCast K] in
theorem filteredArguments_eq (r : PostedRoom K) :
    filteredArguments r.toRooms.toJson = .ok (roomArguments "" r) := by
  simp [filteredArguments, Rooms.toJson, PostedRoom.toRooms, roomArguments,
    Value.ofMapOrNull_some, Value.ofStringOrNull_some, Value.ofDoubleOrNull, list_ofStrings, bind,
    Except.bind, pure, Except.pure]

theorem build_roomArguments (roomId : String) (r : PostedRoom K) :
    build (roomArguments roomId r) = .ok (shownPage .search roomId r) := by
  simp [build, roomArguments, shownPage, stringsOrEmpty_ofStrings, orElse_ofStringOrNull,
    Value.numToDouble, TenantList.passesPoster, TenantList.passesImages, TenantList.passesId,
    bind, Except.bind, pure, Except.pure]

/-- The card of a recommended room, which must have an image. -/
theorem recommendationCard_posted {id : String} {r : PostedRoom K} {card : RecommendationCard K}
    (h : recommendationCard (postedSnapshot id r).data = .ok card) :
    ∃ image, r.images.head? = some image ∧ card =
      ⟨r.roomTitle, r.postedBy.getD "Unknown", r.propertyType, r.description, r.address, r.price,
        image, r.amenities.map .str, r.postDate, some r.posterUid, r.postedByEmail⟩ := by
  cases himages : r.images with
  | nil =>
    simp [recommendationCard, postedSnapshot, Rooms.toJson, PostedRoom.toRooms, himages,
      orElse_ofStringOrNull, Value.ofStringOrNull_some, Value.ofMapOrNull_some, firstImage,
      Value.ofDoubleOrNull, Value.numToDouble, Value.isNull, Value.elementAt, bind,
      Except.bind] at h
  | cons image images =>
    have hposterUid : (Value.str r.posterUid : Value K).asStringOrNull = .ok (some r.posterUid) :=
      rfl
    simp [recommendationCard, postedSnapshot, Rooms.toJson, PostedRoom.toRooms, himages,
      orElse_ofStringOrNull, Value.ofStringOrNull_some, Value.ofMapOrNull_some, firstImage,
      Value.ofDoubleOrNull, Value.numToDouble, Value.isNull, Value.elementAt, Value.ofStrings,
      Value.orElse_list, Value.asList, hposterUid, bind, Except.bind, pure, Except.pure] at h
    exact ⟨image, rfl, h.symm⟩

theorem build_recommendationCard {id : String} {r : PostedRoom K} {card : RecommendationCard K}
    (hcard : recommendationCard (postedSnapshot id r).data = .ok card) :
    build card.arguments = .ok (shownPage .recommendations id r) := by
  obtain ⟨image, himage, rfl⟩ := recommendationCard_posted hcard
  have hamenities : Value.list (r.amenities.map (.str (K := K))) = .ofStrings r.amenities := rfl
  have hone : (Value.list [.str image] : Value K).asStringList = .ok [image] := rfl
  simp [build, RecommendationCard.arguments, shownPage, hamenities, hone, himage, List.take_one,
    stringsOrEmpty_ofStrings, orElse_ofStringOrNull, Value.ofStringOrNull_some, Value.orElse_list,
    Value.numToDouble, TenantList.passesPoster, TenantList.passesImages, TenantList.passesId,
    bind, Except.bind, pure, Except.pure]

theorem build_savedArguments {r : PostedRoom K} {card : Roomcard K} (savedAt : Int)
    (of : CardOf r card) (id : String) :
    (savedArguments (savedDocument card.roomData savedAt) >>= build) =
      .ok (shownPage .saved id r) := by
  obtain ⟨postedBy, image, hposter, himage, rfl⟩ := of
  have hamenities : Value.list (r.amenities.map (.str (K := K))) = .ofStrings r.amenities := rfl
  have hlist : stringsIfList (.ofStrings r.amenities : Value K) = .ok r.amenities :=
    Value.asStringList_ofStrings _
  have hone : (Value.list [.str image] : Value K).asStringList = .ok [image] := rfl
  simp [savedArguments, savedDocument, Roomcard.roomData, shownCard, build, shownPage, hamenities,
    hlist, hone, hposter, himage, List.take_one, singletonIfString, stringsOrEmpty_ofStrings,
    Value.orElse_list, Value.numToDouble, TenantList.passesPoster, TenantList.passesImages,
    TenantList.passesId, bind, Except.bind, pure, Except.pure]

/-- A page opened from a row of a posted room shows this room. -/
theorem RowOf.details {id : String} {r : PostedRoom K} {row : TenantRow K} {page : RoomPage K}
    (of : RowOf id r row) (h : row.details = .ok page) : page = shownPage row.list id r := by
  cases of with
  | search =>
    obtain ⟨_, _, hrest⟩ := bind_eq_ok.mp h
    rw [searchArguments, snapshotArguments_eq] at hrest
    exact (Except.ok.inj ((build_roomArguments id r).symm.trans hrest)).symm
  | allRooms =>
    obtain ⟨_, _, hrest⟩ := bind_eq_ok.mp h
    rw [allRoomsArguments, snapshotArguments_eq] at hrest
    exact (Except.ok.inj ((build_roomArguments id r).symm.trans hrest)).symm
  | filtered =>
    obtain ⟨_, _, hrest⟩ := bind_eq_ok.mp h
    rw [filteredArguments_eq] at hrest
    exact (Except.ok.inj ((build_roomArguments "" r).symm.trans hrest)).symm
  | recommendation =>
    obtain ⟨card, hcard, hpage⟩ := bind_eq_ok.mp h
    exact (Except.ok.inj ((build_recommendationCard hcard).symm.trans hpage)).symm
  | saved savedAt of =>
    exact (Except.ok.inj ((build_savedArguments savedAt of id).symm.trans h)).symm

/-- The card that a bookmark is on is the card of the room. -/
theorem RowOf.roomcard {id : String} {r : PostedRoom K} {row : TenantRow K} {card : Roomcard K}
    (of : RowOf id r row) (h : row.roomcard = some card) : CardOf r card := by
  cases of with
  | allRooms =>
    exact roomcard_posted (toOption_eq_some.mp h)
  | filtered =>
    rw [TenantRow.roomcard, filteredCard_toJson id] at h
    exact roomcard_posted (toOption_eq_some.mp h)
  | _ => cases h

end Posted

end TenantPages
