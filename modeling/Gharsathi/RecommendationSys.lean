import Gharsathi.DartSort
import Gharsathi.Haversine
import Gharsathi.PreferenceServices
import Mathlib.Data.Finset.Card

/-!
# The recommender

`getRecommendations` scores every room against the stored preferences, keeps
the scores above the threshold, sorts and takes the first ones. A score is a
sum of four weighted components; a component is skipped where either side has
no value for it. Errors of the location component are caught, all others are
not. Scores are computed in exact arithmetic.
-/

namespace RecommendationSys

open DartDouble DartMath DartValues DartSort FirestoreCollection Models PreferenceServices

inductive Feature where
  | location
  | price
  | propertyType
  | amenities

section Model
variable {K : Type} [Field K] [LinearOrder K]

def weight : Feature → K
  | .location => 4 / 10
  | .price => 3 / 10
  | .propertyType => 15 / 100
  | .amenities => 15 / 100

def featureWeights (feature : Feature) : Double K := .fin (weight feature)

/-- The body of `getUserPreferences` for an existing document. -/
def decodeUserPreferences (data : Map K) : Result (Preferences K) := do
  let location :=
    match Map.get data "location" with
    | .map location => some
        [("address", Map.get location "address"),
         ("latitude", Map.get location "latitude"),
         ("longitude", Map.get location "longitude")]
    | _ => none
  let distance ← (Map.get data "distance").asDoubleOrNull
  let price ← (Map.get data "price").asDoubleOrNull
  let propertyType ← (Map.get data "propertyType").asStringOrNull
  let amenities ← ((Map.get data "amenities").orElse (.list [])).asStringList
  return {
    user := none
    uid := none
    location := location
    distance := distance
    price := price
    propertyType := propertyType
    amenities := some amenities }

def getUserPreferences (userPreference : Collection String (Map K)) (uid : Option String) :
    Option (Preferences K) :=
  match uid.bind userPreference.get? with
  | none => none
  | some data => (decodeUserPreferences data).toOption

def calculateDistance (M : Functions K) : Double K → Double K → Double K → Double K → Double K :=
  Haversine.calculateDistance M

def calculateJaccardSimilarity (list1 list2 : List String) : Double K :=
  let set1 := list1.toFinset
  let set2 := list2.toFinset
  let intersection : Double K := .fin ((set1 ∩ set2).card : K)
  let union : Double K := .fin ((set1 ∪ set2).card : K)
  intersection / union

def calculatePriceScore (price propertyPrice : Double K) : Double K :=
  let deviation := Double.abs (price - propertyPrice) / price
  .fin 1 - Double.clamp deviation (.fin 0) (.fin 1)

/-- The `try` block of the location component. -/
def scoreLocation (M : Functions K) (userPreferences : Preferences K) (userLocation : Map K)
    (location : Value K) (similarityScore : Double K) : Result (Double K) := do
  let propertyLocation ← location.asMap
  if (Map.get userLocation "latitude").isNull || (Map.get userLocation "longitude").isNull ||
      (Map.get propertyLocation "latitude").isNull ||
      (Map.get propertyLocation "longitude").isNull then
    return similarityScore
  let lat1 ← (Map.get userLocation "latitude").asDouble
  let long1 ← (Map.get userLocation "longitude").asDouble
  let lat2 ← (Map.get propertyLocation "latitude").asDouble
  let long2 ← (Map.get propertyLocation "longitude").asDouble
  let distance := calculateDistance M lat1 long1 lat2 long2
  let maxDistance := userPreferences.distance.getD (.fin 50)
  let locationScore := .fin 1 - Double.clamp (distance / maxDistance) (.fin 0) (.fin 1)
  return similarityScore + locationScore * featureWeights .location

def addLocation (M : Functions K) (userPreferences : Preferences K)
    (property : DocumentSnapshot K) (similarityScore : Double K) : Result (Double K) :=
  match userPreferences.location with
  | none => return similarityScore
  | some userLocation => do
    let location ← field property "location"
    if location.isNull then
      return similarityScore
    match scoreLocation M userPreferences userLocation location similarityScore with
    | .ok score => return score
    | .error _ => return similarityScore

def addPrice (userPreferences : Preferences K) (property : DocumentSnapshot K)
    (similarityScore : Double K) : Result (Double K) :=
  match userPreferences.price with
  | none => return similarityScore
  | some price => do
    let value ← field property "price"
    if value.isNull then
      return similarityScore
    let propertyPrice ← value.numToDouble
    return similarityScore + calculatePriceScore price propertyPrice * featureWeights .price

def addPropertyType (userPreferences : Preferences K) (property : DocumentSnapshot K)
    (similarityScore : Double K) : Result (Double K) :=
  match userPreferences.propertyType with
  | none => return similarityScore
  | some propertyType => do
    let value ← field property "propertyType"
    if value.isNull then
      return similarityScore
    let typeScore : Double K :=
      match value with
      | .str t => if propertyType = t then .fin 1 else .fin 0
      | _ => .fin 0
    return similarityScore + typeScore * featureWeights .propertyType

def addAmenities (userPreferences : Preferences K) (property : DocumentSnapshot K)
    (similarityScore : Double K) : Result (Double K) :=
  match userPreferences.amenities with
  | none => return similarityScore
  | some amenities => do
    let value ← field property "amenities"
    if value.isNull then
      return similarityScore
    let propertyAmenities ← value.asStringList
    let amenitiesScore := calculateJaccardSimilarity amenities propertyAmenities
    return similarityScore + amenitiesScore * featureWeights .amenities

def calculateSimilarityScore (M : Functions K) (userPreferences : Preferences K)
    (property : DocumentSnapshot K) : Result (Double K) := do
  let similarityScore ← addLocation M userPreferences property (.fin 0)
  let similarityScore ← addPrice userPreferences property similarityScore
  let similarityScore ← addPropertyType userPreferences property similarityScore
  addAmenities userPreferences property similarityScore

def threshold : Double K := .fin (3 / 10)

structure ScoredProperty (K : Type) where
  property : DocumentSnapshot K
  score : Double K

/-- The scoring loop, with the properties it has kept so far. -/
def scoreProperties (M : Functions K) (userPreferences : Preferences K) :
    List (DocumentSnapshot K) → List (ScoredProperty K) → Result (List (ScoredProperty K))
  | [], scoredProperties => return scoredProperties
  | property :: docs, scoredProperties => do
    let score ← calculateSimilarityScore M userPreferences property
    if score.gt threshold then
      scoreProperties M userPreferences docs (scoredProperties ++ [⟨property, score⟩])
    else
      scoreProperties M userPreferences docs scoredProperties

def getRecommendations (M : Functions K) (S : ListSort)
    (userPreference : Collection String (Map K)) (uid : Option String)
    (rooms : List (DocumentSnapshot K)) (limit : Nat) : Result (List (DocumentSnapshot K)) :=
  match getUserPreferences userPreference uid with
  | none => return []
  | some userPreferences => do
    let scoredProperties ← scoreProperties M userPreferences rooms []
    let sorted := S.sort (fun a b => Double.compareTo b.score a.score) scoredProperties
    return (sorted.take limit).map ScoredProperty.property

end Model

end RecommendationSys
