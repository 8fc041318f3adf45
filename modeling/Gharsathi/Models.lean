import Gharsathi.DartValues

/-!
# The data classes and their documents

The classes of `lib/model` with the maps their `toJson` writes. Nullable
fields are options. `PostedRoom` is the part of `Rooms` the posting screen can
produce: it fills every field from the form, so none is null, and the location
map has the three entries a location pick returns.
-/

namespace Models

open DartDouble DartValues

structure Rooms (K : Type) where
  roomTitle : Option String
  posterUid : Option String
  postedBy : Option String
  postedByEmail : Option String
  location : Option (Map K)
  price : Option (Double K)
  description : Option String
  amenities : List String
  images : Option (List (Option String))
  isBooked : Int
  propertyType : Option String
  postDate : String

structure Bookroom where
  bookedBy : Option String
  bookDate : Option Int
  bookedHouse : Option String
  bookerUid : Option String
  roomId : Option String

structure Preferences (K : Type) where
  user : Option String
  uid : Option String
  location : Option (Map K)
  distance : Option (Double K)
  price : Option (Double K)
  propertyType : Option String
  amenities : Option (List String)

structure Message where
  senderID : String
  senderEmail : String
  receiverID : String
  message : String
  timestamp : Int
  deriving DecidableEq, Repr

section ToJson
variable {K : Type}

/-- The map written for a room; `isBooked` is written as the constant `0`. -/
def Rooms.toJson (r : Rooms K) : Map K :=
  [("name", .ofStringOrNull r.roomTitle),
   ("posterUid", .ofStringOrNull r.posterUid),
   ("postedBy", .ofStringOrNull r.postedBy),
   ("postedByEmail", .ofStringOrNull r.postedByEmail),
   ("location", .ofMapOrNull r.location),
   ("price", .ofDoubleOrNull r.price),
   ("description", .ofStringOrNull r.description),
   ("amenities", .ofStrings r.amenities),
   ("images", match r.images with
      | none => .null
      | some urls => .list (urls.map .ofStringOrNull)),
   ("isBooked", .int 0),
   ("propertyType", .ofStringOrNull r.propertyType),
   ("postDate", .str r.postDate)]

def Bookroom.toJson (b : Bookroom) : Map K :=
  [("bookedBy", .ofStringOrNull b.bookedBy),
   ("bookDate", match b.bookDate with
      | none => .null
      | some t => .timestamp t),
   ("bookedHouse", .ofStringOrNull b.bookedHouse),
   ("bookerUid", .ofStringOrNull b.bookerUid),
   ("roomId", .ofStringOrNull b.roomId)]

def Preferences.toJson (p : Preferences K) : Map K :=
  [("user", .ofStringOrNull p.user),
   ("uid", .ofStringOrNull p.uid),
   ("location", .ofMapOrNull p.location),
   ("distance", .ofDoubleOrNull p.distance),
   ("price", .ofDoubleOrNull p.price),
   ("propertyType", .ofStringOrNull p.propertyType),
   ("amenities", .ofStringsOrNull p.amenities)]

def Message.toMap (m : Message) : Map K :=
  [("senderID", .str m.senderID),
   ("senderEmail", .str m.senderEmail),
   ("receiverID", .str m.receiverID),
   ("message", .str m.message),
   ("timestamp", .timestamp m.timestamp)]

end ToJson

/-- The map a location pick returns, also the one stored as `location`. -/
def locationMap {K : Type} (address : String) (latitude longitude : K) : Map K :=
  [("address", .str address),
   ("latitude", .double (.fin latitude)),
   ("longitude", .double (.fin longitude))]

/-- A room as the posting screen writes it; the form's title validator
rejects the empty title. -/
structure PostedRoom (K : Type) where
  roomTitle : String
  titleNonempty : roomTitle ≠ ""
  posterUid : String
  postedBy : Option String
  postedByEmail : Option String
  address : String
  latitude : K
  longitude : K
  price : Double K
  description : String
  amenities : List String
  images : List String
  propertyType : String
  postDate : String

def PostedRoom.toRooms {K : Type} (r : PostedRoom K) : Rooms K where
  roomTitle := some r.roomTitle
  posterUid := some r.posterUid
  postedBy := r.postedBy
  postedByEmail := r.postedByEmail
  location := some (locationMap r.address r.latitude r.longitude)
  price := some r.price
  description := some r.description
  amenities := r.amenities
  images := some (r.images.map some)
  isBooked := 0
  propertyType := some r.propertyType
  postDate := r.postDate

section Lookups
variable {K : Type}

@[simp] theorem locationMap_latitude (address : String) (latitude longitude : K) :
    Map.get (locationMap address latitude longitude) "latitude" = .double (.fin latitude) := by
  simp [locationMap]

@[simp] theorem locationMap_longitude (address : String) (latitude longitude : K) :
    Map.get (locationMap address latitude longitude) "longitude" = .double (.fin longitude) := by
  simp [locationMap]

@[simp] theorem locationMap_address (address : String) (latitude longitude : K) :
    Map.get (locationMap address latitude longitude) "address" = .str address := by
  simp [locationMap]

end Lookups

end Models
