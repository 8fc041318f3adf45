import Gharsathi.DartStrings
import Gharsathi.Haversine
import Gharsathi.RoomDetails

/-!
# Filtering the rooms

The dialog loads the user's stored location when it opens and turns the texts
of its fields into bounds when `Filter` is pressed: a blank minimum becomes
`0.0`, a blank maximum or distance infinity. Price and type go into the query,
the distance is checked on the client, and only if a location has been loaded.
-/

namespace PropertyFiltering

open DartDouble DartMath DartStrings DartValues FirestoreCollection Models RoomDetails

section Service
variable {K : Type}

/-- The number in a field of a document. -/
def numberAt [IntCast K] (name : String) (d : DocumentSnapshot K) : Option (Double K) :=
  (Map.get d.data name).numToDouble.toOption

variable [Field K] [LinearOrder K]

/-- `where(name, isGreaterThanOrEqualTo: bound)`. -/
def isGreaterThanOrEqualTo (name : String) (bound : Double K) (d : DocumentSnapshot K) : Bool :=
  match numberAt name d with
  | none => false
  | some x => bound.le x

/-- `where(name, isLessThanOrEqualTo: bound)`. -/
def isLessThanOrEqualTo (name : String) (bound : Double K) (d : DocumentSnapshot K) : Bool :=
  match numberAt name d with
  | none => false
  | some x => x.le bound

/-- The order of a query with a range of prices. -/
def priceAtMost (d e : DocumentSnapshot K) : Prop :=
  match numberAt "price" d, numberAt "price" e with
  | some x, some y => (Double.compareTo x y).isLE = true
  | _, _ => True

instance (d e : DocumentSnapshot K) : Decidable (priceAtMost d e) := by
  unfold priceAtMost
  split <;> infer_instance

/-- The documents the query of `filterProperties` returns. -/
def query (rooms : List (DocumentSnapshot K)) (minPrice maxPrice : Option (Double K))
    (propertyType : Option String) : List (DocumentSnapshot K) :=
  let docs :=
    match minPrice with
    | none => rooms
    | some minPrice => rooms.filter (isGreaterThanOrEqualTo "price" minPrice)
  let docs :=
    match maxPrice with
    | none => docs
    | some maxPrice => docs.filter (isLessThanOrEqualTo "price" maxPrice)
  let docs :=
    match propertyType with
    | none => docs
    | some propertyType => docs.filter (isEqualTo "propertyType" propertyType)
  if minPrice.isSome || maxPrice.isSome then docs.insertionSort priceAtMost else docs

def calculateDistance (A : Arithmetic K) : Double K → Double K → Double K → Double K → Double K :=
  Haversine.distance A

/-- The test of one property on the client. -/
def isWithin (A : Arithmetic K) (latitude longitude maxDistKm : Double K) (property : Map K) :
    Result Bool := do
  if (Map.get property "location").isNull then
    return false
  let propertyLat ← (Map.get property "location").index "latitude"
  if propertyLat.isNull then
    return false
  let propertyLong ← (Map.get property "location").index "longitude"
  if propertyLong.isNull then
    return false
  let propertyLat ← propertyLat.asDouble
  let propertyLong ← propertyLong.asDouble
  return (calculateDistance A latitude longitude propertyLat propertyLong).le maxDistKm

/-- `results.where(test).toList()`, for a test that may throw. -/
def whereToList (test : Map K → Result Bool) : List (Map K) → Result (List (Map K))
  | [] => return []
  | property :: results => do
    let keep ← test property
    let rest ← whereToList test results
    return if keep then property :: rest else rest

def filterProperties (A : Arithmetic K) (rooms : List (DocumentSnapshot K))
    (latitude longitude maxDistKm minPrice maxPrice : Option (Double K))
    (propertyType : Option String) : List (Map K) :=
  let results := (query rooms minPrice maxPrice propertyType).map Doc.data
  match latitude, longitude, maxDistKm with
  | some latitude, some longitude, some maxDistKm =>
    match whereToList (isWithin A latitude longitude maxDistKm) results with
    | .error _ => []
    | .ok filteredResults => filteredResults
  | _, _, _ => results

end Service

section Dialog
variable {K : Type}

structure Dialog (K : Type) where
  minPriceText : String
  maxPriceText : String
  distanceText : String
  filterPropertyValue : Option String
  latitude : Option (Double K)
  longitude : Option (Double K)

/-- What `getUserLatLong` sets `latitude` and `longitude` to. -/
def getUserLatLong (userDoc : Option (Map K)) : Option (Double K) × Option (Double K) :=
  match userDoc with
  | none => (none, none)
  | some userData =>
    if Map.containsKey userData "location" then
      match (Map.get userData "location").asMapOrNull with
      | .ok (some location) =>
        match (Map.get location "latitude").asDoubleOrNull with
        | .error _ => (none, none)
        | .ok latitude =>
          match (Map.get location "longitude").asDoubleOrNull with
          | .error _ => (latitude, none)
          | .ok longitude => (latitude, longitude)
      | _ => (none, none)
    else (none, none)

variable [Field K] [LinearOrder K]

/-- Whether the warning about the prices is shown. -/
def warnsPrices (T : DoubleParser K) (minPriceText maxPriceText : String) : Result Bool :=
  if minPriceText ≠ "" ∧ maxPriceText ≠ "" then do
    let minPrice ← T.parse minPriceText
    let maxPrice ← T.parse maxPriceText
    return minPrice.gt maxPrice
  else return false

/-- `Filter` pressed: whether there was a warning, and the list that is
delivered with or without it. -/
def filterPressed (T : DoubleParser K) (A : Arithmetic K) (rooms : List (DocumentSnapshot K))
    (dialog : Dialog K) : Result (Bool × List (Map K)) := do
  let warned ← warnsPrices T dialog.minPriceText dialog.maxPriceText
  return (warned, filterProperties A rooms dialog.latitude dialog.longitude
    (some ((T.tryParse dialog.distanceText).getD .posInf))
    (some ((T.tryParse dialog.minPriceText).getD (.fin 0)))
    (some ((T.tryParse dialog.maxPriceText).getD .posInf))
    dialog.filterPropertyValue)

end Dialog

section Results
variable {K : Type}

theorem whereToList_ok {test : Map K → Result Bool} {p : Map K → Bool} {results : List (Map K)}
    (h : ∀ m ∈ results, test m = .ok (p m)) : whereToList test results = .ok (results.filter p) := by
  induction results with
  | nil => rfl
  | cons m results ih =>
    have hrest := ih (fun n hn => h n (List.mem_cons_of_mem m hn))
    simp only [whereToList, h m List.mem_cons_self, hrest, bind, Except.bind, pure, Except.pure]
    by_cases hm : p m = true
    · rw [if_pos hm, List.filter_cons_of_pos hm]
    · rw [if_neg hm, List.filter_cons_of_neg hm]

theorem mem_whereToList {test : Map K → Result Bool} {results kept : List (Map K)}
    (h : whereToList test results = .ok kept) {m : Map K} (hm : m ∈ kept) : m ∈ results := by
  induction results generalizing kept with
  | nil =>
    cases h
    cases hm
  | cons n results ih =>
    simp only [whereToList, bind_eq_ok, pure_eq_ok] at h
    obtain ⟨keep, _, rest, hrest, rfl⟩ := h
    cases keep with
    | true =>
      rcases List.mem_cons.mp hm with rfl | hm
      · exact List.mem_cons_self
      · exact List.mem_cons_of_mem _ (ih hrest hm)
    | false => exact List.mem_cons_of_mem _ (ih hrest hm)

variable [Field K] [LinearOrder K]

/-- The query returns the documents that pass its three filters. -/
theorem query_perm (rooms : List (DocumentSnapshot K)) (minPrice maxPrice : Double K)
    (propertyType : Option String) :
    (query rooms (some minPrice) (some maxPrice) propertyType).Perm
      (rooms.filter (fun d => isGreaterThanOrEqualTo "price" minPrice d &&
        isLessThanOrEqualTo "price" maxPrice d &&
        propertyType.all (fun propertyType => isEqualTo "propertyType" propertyType d))) := by
  refine (List.perm_insertionSort _ _).trans (List.Perm.of_eq ?_)
  cases propertyType with
  | none =>
    simp only [List.filter_filter, Option.all_none, Bool.and_true]
    apply List.filter_congr
    intro d _
    rw [Bool.and_comm]
  | some propertyType =>
    simp only [List.filter_filter, Option.all_some]
    apply List.filter_congr
    intro d _
    rw [Bool.and_comm, Bool.and_comm (isLessThanOrEqualTo _ _ _)]

/-- Whatever is delivered is one of the rooms. -/
theorem mem_filterPressed {T : DoubleParser K} {A : Arithmetic K}
    {rooms : List (DocumentSnapshot K)} {dialog : Dialog K} {warned : Bool} {results : List (Map K)}
    (h : filterPressed T A rooms dialog = .ok (warned, results)) {m : Map K} (hm : m ∈ results) :
    ∃ d ∈ rooms, d.data = m := by
  obtain ⟨_, _, h⟩ := bind_eq_ok.mp h
  cases h
  -- the service keeps some of the documents that its query found
  have hquery : ∀ minPrice maxPrice, m ∈ (query rooms (some minPrice) (some maxPrice)
      dialog.filterPropertyValue).map Doc.data → ∃ d ∈ rooms, d.data = m := by
    intro minPrice maxPrice hfound
    obtain ⟨d, hd, hdata⟩ := List.mem_map.mp hfound
    exact ⟨d, (List.mem_filter.mp ((query_perm _ _ _ _).mem_iff.mp hd)).1, hdata⟩
  simp only [filterProperties] at hm
  split at hm
  · split at hm
    · cases hm
    · rename_i hkept
      exact hquery _ _ (mem_whereToList hkept hm)
  · exact hquery _ _ hm

end Results

end PropertyFiltering
