import Gharsathi.FirestoreCollection
import Gharsathi.Models

/-!
# Stored preferences

`userPreference` holds one document for each user. `savePreferences` writes the
map of `Preferences.toJson`, and `getPreferences` reads it back for the
preference screen; any error while it decodes is caught and gives null. What
the screen can save always has every field, so it is a structure of its own.
-/

namespace PreferenceServices

open DartDouble DartValues FirestoreCollection Models

structure User where
  uid : String
  displayName : Option String
  deriving DecidableEq

def amenitiesOptions : List String :=
  ["Gym", "School", "Hospital", "Swimming Pool", "Supermarkets", "Restaurants", "Healthcare",
    "Parks", "Banks", "Coffee Shops"]

theorem gym_known : ["Gym"].Sublist amenitiesOptions := by decide

/-- Preferences as the screen saves them; the amenities are options of the
screen, in its order. -/
structure SavedPreferences (K : Type) where
  user : Option String
  uid : String
  address : String
  latitude : Double K
  longitude : Double K
  distance : Double K
  price : Double K
  propertyType : String
  amenities : List String
  amenitiesKnown : amenities.Sublist amenitiesOptions

section Services
variable {K : Type}

def SavedPreferences.toPreferences (p : SavedPreferences K) : Preferences K where
  user := p.user
  uid := some p.uid
  location := some
    [("address", .str p.address),
     ("latitude", .double p.latitude),
     ("longitude", .double p.longitude)]
  distance := some p.distance
  price := some p.price
  propertyType := some p.propertyType
  amenities := some p.amenities

def savePreferences (userPreference : Collection String (Map K)) (user : User)
    (preferences : Preferences K) : Collection String (Map K) :=
  userPreference.set user.uid preferences.toJson

theorem get?_savePreferences (userPreference : Collection String (Map K)) (user : User)
    (preferences : Preferences K) :
    (savePreferences userPreference user preferences).get? user.uid = some preferences.toJson :=
  userPreference.get?_set_self user.uid preferences.toJson

variable [IntCast K]

/-- The body of `getPreferences` for an existing document; the entry
`longitude` is read from the key `location`. -/
def decodePreferences (data : Map K) : Result (Preferences K) := do
  let user ← (Map.get data "user").asStringOrNull
  let uid ← (Map.get data "uid").asStringOrNull
  let address ← (Map.get data "location").index "address"
  let latitude ← (Map.get data "location").index "latitude"
  let longitude ← (Map.get data "location").index "location"
  let distance ← (Map.get data "distance").asDoubleOrNull
  let price ← (Map.get data "price").numToDouble
  let propertyType ← (Map.get data "propertyType").asStringOrNull
  let amenities ← (Map.get data "amenities").asStringList
  return {
    user := user
    uid := uid
    location := some [("address", address), ("latitude", latitude), ("longitude", longitude)]
    distance := distance
    price := some price
    propertyType := propertyType
    amenities := some amenities }

def getPreferences (userPreference : Collection String (Map K)) (user : Option User) :
    Option (Preferences K) :=
  match user with
  | none => none
  | some user =>
    match userPreference.get? user.uid with
    | none => none
    | some data => (decodePreferences data).toOption

/-- The location `getPreferences` returns for saved preferences. -/
def SavedPreferences.loadedLocation (p : SavedPreferences K) : Map K :=
  [("address", .str p.address), ("latitude", .double p.latitude), ("longitude", .null)]

/-- Everything comes back but the longitude, which comes back as null. -/
theorem decodePreferences_saved (p : SavedPreferences K) :
    decodePreferences p.toPreferences.toJson =
      .ok { p.toPreferences with location := some p.loadedLocation } := by
  simp [decodePreferences, SavedPreferences.toPreferences, SavedPreferences.loadedLocation,
    Preferences.toJson, Value.ofMapOrNull, Value.ofStringsOrNull, Value.numToDouble_ofDoubleOrNull]
  rfl

theorem getPreferences_stored {userPreference : Collection String (Map K)} {user : User}
    {p : SavedPreferences K}
    (h : userPreference.get? user.uid = some p.toPreferences.toJson) :
    getPreferences userPreference (some user) =
      some { p.toPreferences with location := some p.loadedLocation } := by
  simp only [getPreferences, h, decodePreferences_saved, Except.toOption]

end Services

end PreferenceServices
