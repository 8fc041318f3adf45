import Gharsathi.PostingScreen
import Gharsathi.PropertyFiltering

/-!
# What the filter delivers

A filled field is a constraint on the rooms, a blank one is not. The delivered
list and the list of the rooms that meet every filled constraint differ for
three reasons: the default minimum `0.0` drops the rooms with a negative price
or a price that is not a number, without a loaded location the distance is not
looked at, and with one a blank distance drops the rooms whose distance is
computed to NaN. All are conditions on the rooms, so they say exactly when the
two lists agree, in any arithmetic.
-/

namespace FilteredRooms

open DartDouble DartMath DartStrings DartValues FirestoreCollection Models PropertyFiltering

/-- What the filter depends on in a room of the posting screen. -/
structure StoredRoom (K : Type) where
  room : Rooms K
  price : Double K
  propertyType : String
  address : String
  latitude : K
  longitude : K
  hasPrice : room.price = some price
  hasType : room.propertyType = some propertyType
  hasLocation : room.location = some (locationMap address latitude longitude)

/-- A field for a number, left blank or filled with one. -/
structure NumberField {K : Type} (T : DoubleParser K) where
  text : String
  value : Option (Double K)
  reads : T.tryParse text = value
  notNaN : value ≠ some .nan
  blank : value = none → text = ""

structure Inputs {K : Type} (T : DoubleParser K) where
  minPrice : NumberField T
  maxPrice : NumberField T
  maxDistance : NumberField T
  propertyType : Option String

/-- The users document, with the location the profile screen may have added. -/
structure UserDocument (K : Type) where
  profile : Map K
  location : Option (K × K)
  unlocated : Map.containsKey profile "location" = false

section Specification
variable {K : Type}

def UserDocument.data (user : UserDocument K) : Map K :=
  match user.location with
  | none => user.profile
  | some (latitude, longitude) =>
    ("location", .map [("latitude", .double (.fin latitude)),
      ("longitude", .double (.fin longitude))]) :: user.profile

/-- The rooms the posting screen builds are of this form. -/
theorem buildRoom_stored {T : DoubleText K} {user : Option PostingScreen.User}
    {form : PostingScreen.Form K} {amenities urls : List String} {today : String} {room : Rooms K}
    (h : PostingScreen.buildRoom T user form amenities urls today = .ok room) :
    ∃ r : StoredRoom K, r.room = room := by
  simp only [PostingScreen.buildRoom, bind_eq_ok, pure_eq_ok] at h
  obtain ⟨_, _, latitude, _, longitude, _, price, _, rfl⟩ := h
  exact ⟨⟨_, price, form.propertyType, form.address, latitude, longitude, rfl, rfl, rfl⟩, rfl⟩

def storedLocation (userDoc : Option (UserDocument K)) : Option (K × K) :=
  userDoc.bind UserDocument.location

/-- The dialog at the moment `Filter` is pressed, before or after the load. -/
def dialogAt {T : DoubleParser K} (inputs : Inputs T) (userDoc : Option (UserDocument K))
    (loaded : Bool) : Dialog K :=
  let (latitude, longitude) :=
    if loaded then getUserLatLong (userDoc.map UserDocument.data) else (none, none)
  { minPriceText := inputs.minPrice.text
    maxPriceText := inputs.maxPrice.text
    distanceText := inputs.maxDistance.text
    filterPropertyValue := inputs.propertyType
    latitude := latitude
    longitude := longitude }

def loadedLocation (userDoc : Option (UserDocument K)) (loaded : Bool) : Option (K × K) :=
  if loaded then storedLocation userDoc else none

def snapshot (d : Doc String (StoredRoom K)) : DocumentSnapshot K := ⟨d.id, d.data.room.toJson⟩

variable [Field K] [LinearOrder K]

def meetsPrices {T : DoubleParser K} (inputs : Inputs T) (r : StoredRoom K) : Bool :=
  inputs.minPrice.value.all (fun minPrice => minPrice.le r.price) &&
    inputs.maxPrice.value.all (fun maxPrice => r.price.le maxPrice)

def meetsType {T : DoubleParser K} (inputs : Inputs T) (r : StoredRoom K) : Bool :=
  inputs.propertyType.all (fun propertyType => decide (r.propertyType = propertyType))

/-- The distance from `location` is known to be at most `maxDistKm`. -/
def isNear (A : Arithmetic K) (location : Option (K × K)) (maxDistKm : Double K)
    (r : StoredRoom K) : Bool :=
  location.any (fun l => (calculateDistance A (.fin l.1) (.fin l.2) (.fin r.latitude)
    (.fin r.longitude)).le maxDistKm)

def meetsDistance {T : DoubleParser K} (A : Arithmetic K) (inputs : Inputs T)
    (location : Option (K × K)) (r : StoredRoom K) : Bool :=
  inputs.maxDistance.value.all (fun maxDistKm => isNear A location maxDistKm r)

/-- The room meets every constraint the user filled in. -/
def meets {T : DoubleParser K} (A : Arithmetic K) (inputs : Inputs T)
    (userDoc : Option (UserDocument K)) (r : StoredRoom K) : Bool :=
  meetsPrices inputs r && meetsType inputs r && meetsDistance A inputs (storedLocation userDoc) r

/-- The list delivered is that of the rooms that meet the constraints. -/
def DeliversExactly {T : DoubleParser K} (A : Arithmetic K) (inputs : Inputs T)
    (userDoc : Option (UserDocument K)) (loaded : Bool)
    (rooms : Collection String (StoredRoom K)) : Prop :=
  ∃ warned results,
    filterPressed T A (rooms.docs.map snapshot) (dialogAt inputs userDoc loaded) =
      .ok (warned, results) ∧
    results.Perm ((rooms.docs.filter (fun d => meets A inputs userDoc d.data)).map
      (fun d => d.data.room.toJson))

/-- No room is lost to the default minimum. -/
def BlankMinimumKeeps {T : DoubleParser K} (A : Arithmetic K) (inputs : Inputs T)
    (userDoc : Option (UserDocument K)) (rooms : Collection String (StoredRoom K)) : Prop :=
  inputs.minPrice.value = none → ∀ d ∈ rooms.docs, meets A inputs userDoc d.data = true →
    (Double.fin 0).le d.data.price = true

/-- If the distance cannot be looked at, no room that passes the query is too
far away, or at an unknown distance. -/
def DistanceNeedless {T : DoubleParser K} (A : Arithmetic K) (inputs : Inputs T)
    (userDoc : Option (UserDocument K)) (loaded : Bool)
    (rooms : Collection String (StoredRoom K)) : Prop :=
  loadedLocation userDoc loaded = none → ∀ d ∈ rooms.docs,
    meetsPrices inputs d.data = true → meetsType inputs d.data = true →
    (inputs.minPrice.value = none → (Double.fin 0).le d.data.price = true) →
    meetsDistance A inputs (storedLocation userDoc) d.data = true

/-- The distance of every room that meets the constraints comes out as a number. -/
def DistanceComputed {T : DoubleParser K} (A : Arithmetic K) (inputs : Inputs T)
    (userDoc : Option (UserDocument K)) (loaded : Bool)
    (rooms : Collection String (StoredRoom K)) : Prop :=
  ∀ l, loadedLocation userDoc loaded = some l → ∀ d ∈ rooms.docs,
    meets A inputs userDoc d.data = true →
    calculateDistance A (.fin l.1) (.fin l.2) (.fin d.data.latitude) (.fin d.data.longitude) ≠ .nan

end Specification

section Delivered
variable {K : Type}

theorem price_snapshot [IntCast K] (d : Doc String (StoredRoom K)) :
    numberAt "price" (snapshot d) = some d.data.price := by
  simp [numberAt, snapshot, Rooms.toJson, d.data.hasPrice, Except.toOption]

theorem propertyType_snapshot (d : Doc String (StoredRoom K)) (propertyType : String) :
    isEqualTo "propertyType" propertyType (snapshot d) =
      decide (d.data.propertyType = propertyType) := by
  simp [isEqualTo, snapshot, Rooms.toJson, d.data.hasType, Value.ofStringOrNull]

theorem location_toJson (r : StoredRoom K) :
    Map.get r.room.toJson "location" = .map (locationMap r.address r.latitude r.longitude) := by
  simp [Rooms.toJson, r.hasLocation, Value.ofMapOrNull]

/-- What the load sets, for a document of the users collection. -/
theorem getUserLatLong_stored (userDoc : Option (UserDocument K)) :
    getUserLatLong (userDoc.map UserDocument.data) =
      ((storedLocation userDoc).map (fun l => .fin l.1),
        (storedLocation userDoc).map (fun l => .fin l.2)) := by
  cases userDoc with
  | none => rfl
  | some user =>
    obtain ⟨profile, location, unlocated⟩ := user
    cases location with
    | none => simp [getUserLatLong, UserDocument.data, storedLocation, unlocated]
    | some l => simp [getUserLatLong, UserDocument.data, storedLocation, Value.asMapOrNull,
        Value.asDoubleOrNull]

theorem dialogAt_eq {T : DoubleParser K} (inputs : Inputs T) (userDoc : Option (UserDocument K))
    (loaded : Bool) :
    dialogAt inputs userDoc loaded =
      { minPriceText := inputs.minPrice.text
        maxPriceText := inputs.maxPrice.text
        distanceText := inputs.maxDistance.text
        filterPropertyValue := inputs.propertyType
        latitude := (loadedLocation userDoc loaded).map (fun l => .fin l.1)
        longitude := (loadedLocation userDoc loaded).map (fun l => .fin l.2) } := by
  cases loaded with
  | false => rfl
  | true => simp only [dialogAt, loadedLocation, getUserLatLong_stored, if_true]

variable [Field K] [LinearOrder K]

theorem isWithin_toJson (A : Arithmetic K) (latitude longitude maxDistKm : Double K)
    (r : StoredRoom K) :
    isWithin A latitude longitude maxDistKm r.room.toJson =
      .ok ((calculateDistance A latitude longitude (.fin r.latitude) (.fin r.longitude)).le
        maxDistKm) := by
  simp [isWithin, location_toJson, Value.isNull, Value.asDouble, bind, Except.bind, pure,
    Except.pure]

omit [Field K] in
/-- The numbers in the fields give the warning, never an exception. -/
theorem warnsPrices_ok {T : DoubleParser K} (minPrice maxPrice : NumberField T) :
    ∃ warned, warnsPrices T minPrice.text maxPrice.text = .ok warned := by
  have hparse : ∀ field : NumberField T, field.text ≠ "" → ∃ x, T.parse field.text = .ok x := by
    intro field hfilled
    cases hvalue : field.value with
    | none => exact absurd (field.blank hvalue) hfilled
    | some x => exact ⟨x, by simp [DoubleParser.parse, field.reads, hvalue]⟩
  unfold warnsPrices
  split
  · rename_i hfilled
    obtain ⟨lower, hlower⟩ := hparse minPrice hfilled.1
    obtain ⟨upper, hupper⟩ := hparse maxPrice hfilled.2
    rw [hlower, hupper]
    exact ⟨_, rfl⟩
  · exact ⟨false, rfl⟩

/-- The test the code makes of a room, the defaults included. -/
def delivered {T : DoubleParser K} (A : Arithmetic K) (inputs : Inputs T)
    (location : Option (K × K)) (r : StoredRoom K) : Bool :=
  (inputs.minPrice.value.getD (.fin 0)).le r.price &&
    r.price.le (inputs.maxPrice.value.getD .posInf) && meetsType inputs r &&
    location.all (fun l => isNear A (some l) (inputs.maxDistance.value.getD .posInf) r)

/-- The part of the test that goes into the query. -/
def queried {T : DoubleParser K} (inputs : Inputs T) (r : StoredRoom K) : Bool :=
  (inputs.minPrice.value.getD (.fin 0)).le r.price &&
    r.price.le (inputs.maxPrice.value.getD .posInf) && meetsType inputs r

theorem query_snapshot_perm {T : DoubleParser K} (inputs : Inputs T)
    (docs : List (Doc String (StoredRoom K))) :
    ((query (docs.map snapshot) (some (inputs.minPrice.value.getD (.fin 0)))
      (some (inputs.maxPrice.value.getD .posInf)) inputs.propertyType).map Doc.data).Perm
      ((docs.filter (fun d => queried inputs d.data)).map (fun d => d.data.room.toJson)) := by
  refine ((query_perm _ _ _ _).map Doc.data).trans (List.Perm.of_eq ?_)
  rw [List.filter_map, List.map_map]
  have hsame : ∀ d : Doc String (StoredRoom K), ((fun d => isGreaterThanOrEqualTo "price"
      (inputs.minPrice.value.getD (.fin 0)) d && isLessThanOrEqualTo "price"
      (inputs.maxPrice.value.getD .posInf) d && inputs.propertyType.all
      (fun propertyType => isEqualTo "propertyType" propertyType d)) ∘ snapshot) d =
      queried inputs d.data := by
    intro d
    simp only [queried, Function.comp_apply, isGreaterThanOrEqualTo, isLessThanOrEqualTo,
      price_snapshot, propertyType_snapshot, meetsType]
  rw [List.filter_congr (fun d _ => hsame d)]
  rfl

theorem filterProperties_perm {T : DoubleParser K} (A : Arithmetic K) (inputs : Inputs T)
    (location : Option (K × K)) (docs : List (Doc String (StoredRoom K))) :
    (filterProperties A (docs.map snapshot) (location.map (fun l => .fin l.1))
      (location.map (fun l => .fin l.2)) (some (inputs.maxDistance.value.getD .posInf))
      (some (inputs.minPrice.value.getD (.fin 0))) (some (inputs.maxPrice.value.getD .posInf))
      inputs.propertyType).Perm
      ((docs.filter (fun d => delivered A inputs location d.data)).map
        (fun d => d.data.room.toJson)) := by
  have hquery := query_snapshot_perm inputs docs
  cases location with
  | none =>
    simpa only [filterProperties, Option.map_none, delivered, Option.all_none, Bool.and_true, queried]
      using hquery
  | some l =>
    let near := fun m : Map K => (isWithin A (.fin l.1) (.fin l.2)
      (inputs.maxDistance.value.getD .posInf) m).toOption.getD false
    have hnear : ∀ r : StoredRoom K, near r.room.toJson =
        isNear A (some l) (inputs.maxDistance.value.getD .posInf) r := by
      intro r
      simp only [near, isWithin_toJson, Except.toOption, Option.getD_some, isNear, Option.any_some]
    have htest : ∀ m ∈ (query (docs.map snapshot) (some (inputs.minPrice.value.getD (.fin 0)))
        (some (inputs.maxPrice.value.getD .posInf)) inputs.propertyType).map Doc.data,
        isWithin A (.fin l.1) (.fin l.2) (inputs.maxDistance.value.getD .posInf) m =
          .ok (near m) := by
      intro m hm
      obtain ⟨d, _, rfl⟩ := List.mem_map.mp (hquery.mem_iff.mp hm)
      simp only [near, isWithin_toJson, Except.toOption, Option.getD_some]
    simp only [filterProperties, Option.map_some, whereToList_ok htest]
    refine (hquery.filter near).trans (List.Perm.of_eq ?_)
    rw [List.filter_map, List.filter_filter]
    congr 1
    apply List.filter_congr
    intro d _
    simp only [Function.comp_apply, hnear, delivered, Option.all_some, queried]
    rw [Bool.and_comm]

theorem filterPressed_perm {T : DoubleParser K} (A : Arithmetic K) (inputs : Inputs T)
    (userDoc : Option (UserDocument K)) (loaded : Bool)
    (docs : List (Doc String (StoredRoom K))) :
    ∃ warned results,
      filterPressed T A (docs.map snapshot) (dialogAt inputs userDoc loaded) =
        .ok (warned, results) ∧
      results.Perm ((docs.filter (fun d =>
        delivered A inputs (loadedLocation userDoc loaded) d.data)).map
          (fun d => d.data.room.toJson)) := by
  obtain ⟨warned, hwarned⟩ := warnsPrices_ok inputs.minPrice inputs.maxPrice
  refine ⟨warned, _, ?_, filterProperties_perm A inputs (loadedLocation userDoc loaded) docs⟩
  rw [dialogAt_eq]
  simp only [filterPressed, hwarned, inputs.minPrice.reads, inputs.maxPrice.reads,
    inputs.maxDistance.reads]
  rfl

end Delivered

section Agreement

/-- Two filters of one list look the same through `f` exactly when they agree,
provided each depends only on what `f` shows. -/
theorem filter_map_perm_iff {α β : Type} {p q : α → Bool} {f : α → β} {xs : List α}
    (hp : ∀ x y, f x = f y → p x = p y) (hq : ∀ x y, f x = f y → q x = q y) :
    ((xs.filter p).map f).Perm ((xs.filter q).map f) ↔ ∀ x ∈ xs, p x = q x := by
  have hmem : ∀ {r : α → Bool}, (∀ x y, f x = f y → r x = r y) → ∀ x ∈ xs,
      (f x ∈ (xs.filter r).map f ↔ r x = true) := by
    intro r hr x hx
    constructor
    · intro h
      obtain ⟨y, hy, hf⟩ := List.mem_map.mp h
      rw [hr x y hf.symm]
      exact (List.mem_filter.mp hy).2
    · intro h
      exact List.mem_map_of_mem (List.mem_filter.mpr ⟨hx, h⟩)
  constructor
  · intro h x hx
    rw [Bool.eq_iff_iff, ← hmem hp x hx, ← hmem hq x hx]
    exact h.mem_iff
  · intro h
    rw [List.filter_congr h]

variable {K : Type}

theorem eq_of_toJson_eq {r s : StoredRoom K} (h : r.room.toJson = s.room.toJson) :
    r.price = s.price ∧ r.propertyType = s.propertyType ∧ r.latitude = s.latitude ∧
      r.longitude = s.longitude := by
  have hget := fun name => congrArg (fun m => Map.get m name) h
  have hprice := hget "price"
  have htype := hget "propertyType"
  have hlocation := hget "location"
  simp only [location_toJson, Value.map.injEq] at hlocation
  have hlatitude := congrArg (fun m => Map.get m "latitude") hlocation
  have hlongitude := congrArg (fun m => Map.get m "longitude") hlocation
  simp [Rooms.toJson, r.hasPrice, s.hasPrice, Value.ofDoubleOrNull] at hprice
  simp [Rooms.toJson, r.hasType, s.hasType, Value.ofStringOrNull] at htype
  simp at hlatitude hlongitude
  exact ⟨hprice, htype, hlatitude, hlongitude⟩

variable [Field K] [LinearOrder K] {T : DoubleParser K}

theorem delivered_congr (A : Arithmetic K) (inputs : Inputs T) (location : Option (K × K))
    {r s : StoredRoom K} (h : r.room.toJson = s.room.toJson) :
    delivered A inputs location r = delivered A inputs location s := by
  obtain ⟨hprice, htype, hlatitude, hlongitude⟩ := eq_of_toJson_eq h
  simp only [delivered, meetsType, isNear, hprice, htype, hlatitude, hlongitude]

theorem meets_congr (A : Arithmetic K) (inputs : Inputs T) (userDoc : Option (UserDocument K))
    {r s : StoredRoom K} (h : r.room.toJson = s.room.toJson) :
    meets A inputs userDoc r = meets A inputs userDoc s := by
  obtain ⟨hprice, htype, hlatitude, hlongitude⟩ := eq_of_toJson_eq h
  simp only [meets, meetsPrices, meetsType, meetsDistance, isNear, hprice, htype, hlatitude,
    hlongitude]

theorem deliversExactly_iff (A : Arithmetic K) (inputs : Inputs T)
    (userDoc : Option (UserDocument K)) (loaded : Bool)
    (rooms : Collection String (StoredRoom K)) :
    DeliversExactly A inputs userDoc loaded rooms ↔
      ∀ d ∈ rooms.docs, delivered A inputs (loadedLocation userDoc loaded) d.data =
        meets A inputs userDoc d.data := by
  obtain ⟨warned, results, hpressed, hperm⟩ := filterPressed_perm A inputs userDoc loaded rooms.docs
  rw [← filter_map_perm_iff (f := fun d : Doc String (StoredRoom K) => d.data.room.toJson)
    (fun _ _ h => delivered_congr A inputs _ h) (fun _ _ h => meets_congr A inputs userDoc h)]
  constructor
  · rintro ⟨warned', results', hpressed', hexact⟩
    rw [hpressed] at hpressed'
    cases hpressed'
    exact hperm.symm.trans hexact
  · intro hexact
    exact ⟨warned, results, hpressed, hperm.trans hexact⟩

omit [Field K] in
/-- A default maximum drops no price that is a number. -/
theorem le_getD_posInf {x : Double K} (h : x ≠ .nan) (bound : Option (Double K)) :
    x.le (bound.getD .posInf) = true ↔ bound.all (fun b => x.le b) = true := by
  cases bound with
  | none => simp [Double.le_posInf h]
  | some b => rfl

omit [Field K] in
theorem ne_nan_of_le {x bound : Double K} (h : x.le bound = true) : x ≠ .nan := by
  rintro rfl
  cases h

omit [Field K] in
theorem price_ne_nan {bound price : Double K} (h : bound.le price = true) : price ≠ .nan := by
  rintro rfl
  cases bound <;> cases h

/-- The test with the default distance asks for a number besides the constraint. -/
theorem isNear_getD (A : Arithmetic K) (inputs : Inputs T) (l : K × K) (r : StoredRoom K) :
    isNear A (some l) (inputs.maxDistance.value.getD .posInf) r = true ↔
      meetsDistance A inputs (some l) r = true ∧
        calculateDistance A (.fin l.1) (.fin l.2) (.fin r.latitude) (.fin r.longitude) ≠ .nan := by
  simp only [isNear, meetsDistance, Option.any_some]
  constructor
  · intro h
    have hne := ne_nan_of_le h
    exact ⟨(le_getD_posInf hne _).mp h, hne⟩
  · rintro ⟨h, hne⟩
    exact (le_getD_posInf hne _).mpr h

/-- The test of the code, told apart into the constraints, the default minimum
and the distances that are no numbers. -/
theorem delivered_iff (A : Arithmetic K) (inputs : Inputs T) (location : Option (K × K))
    (r : StoredRoom K) :
    delivered A inputs location r = true ↔
      (meetsPrices inputs r = true ∧ (inputs.minPrice.value = none → (Double.fin 0).le r.price = true)) ∧
        meetsType inputs r = true ∧
        ∀ l, location = some l → meetsDistance A inputs (some l) r = true ∧
          calculateDistance A (.fin l.1) (.fin l.2) (.fin r.latitude) (.fin r.longitude) ≠
            .nan := by
  have hprices : (inputs.minPrice.value.getD (.fin 0)).le r.price = true ∧
      r.price.le (inputs.maxPrice.value.getD .posInf) = true ↔
      meetsPrices inputs r = true ∧
        (inputs.minPrice.value = none → (Double.fin 0).le r.price = true) := by
    simp only [meetsPrices, Bool.and_eq_true]
    cases inputs.minPrice.value with
    | none =>
      simp only [Option.getD_none, Option.all_none, true_and, forall_const]
      constructor
      · rintro ⟨hlow, hhigh⟩
        exact ⟨(le_getD_posInf (price_ne_nan hlow) _).mp hhigh, hlow⟩
      · rintro ⟨hhigh, hlow⟩
        exact ⟨hlow, (le_getD_posInf (price_ne_nan hlow) _).mpr hhigh⟩
    | some minPrice =>
      simp only [Option.getD_some, Option.all_some, reduceCtorEq, false_implies, and_true]
      constructor
      · rintro ⟨hlow, hhigh⟩
        exact ⟨hlow, (le_getD_posInf (price_ne_nan hlow) _).mp hhigh⟩
      · rintro ⟨hlow, hhigh⟩
        exact ⟨hlow, (le_getD_posInf (price_ne_nan hlow) _).mpr hhigh⟩
  have hlocation : location.all (fun l =>
      isNear A (some l) (inputs.maxDistance.value.getD .posInf) r) = true ↔
      ∀ l, location = some l → meetsDistance A inputs (some l) r = true ∧
        calculateDistance A (.fin l.1) (.fin l.2) (.fin r.latitude) (.fin r.longitude) ≠ .nan := by
    simp only [← isNear_getD]
    cases location <;> simp
  rw [delivered, Bool.and_eq_true, Bool.and_eq_true, Bool.and_eq_true, hprices, hlocation, and_assoc]

/-- One room is treated rightly exactly under the three conditions on it. -/
theorem delivered_eq_meets_iff (A : Arithmetic K) (inputs : Inputs T)
    (userDoc : Option (UserDocument K)) (loaded : Bool) (r : StoredRoom K) :
    delivered A inputs (loadedLocation userDoc loaded) r = meets A inputs userDoc r ↔
      (inputs.minPrice.value = none → meets A inputs userDoc r = true →
        (Double.fin 0).le r.price = true) ∧
      (loadedLocation userDoc loaded = none → meetsPrices inputs r = true →
        meetsType inputs r = true →
        (inputs.minPrice.value = none → (Double.fin 0).le r.price = true) →
        meetsDistance A inputs (storedLocation userDoc) r = true) ∧
      (∀ l, loadedLocation userDoc loaded = some l → meets A inputs userDoc r = true →
        calculateDistance A (.fin l.1) (.fin l.2) (.fin r.latitude) (.fin r.longitude) ≠ .nan) := by
  have hmeets : meets A inputs userDoc r = true ↔ (meetsPrices inputs r = true ∧
      meetsType inputs r = true) ∧ meetsDistance A inputs (storedLocation userDoc) r = true := by
    rw [meets, Bool.and_eq_true, Bool.and_eq_true]
  have hloaded : ∀ l, loadedLocation userDoc loaded = some l → storedLocation userDoc = some l := by
    intro l h
    cases loaded with
    | false => cases h
    | true => exact h
  rw [Bool.eq_iff_iff, delivered_iff]
  constructor
  · intro h
    refine ⟨?_, ?_, ?_⟩
    · intro hblank hr
      exact (h.mpr hr).1.2 hblank
    · intro hnone hprices htype hzero
      refine (hmeets.mp (h.mp ⟨⟨hprices, hzero⟩, htype, ?_⟩)).2
      intro l hl
      cases hnone.symm.trans hl
    · intro l hl hr
      exact ((h.mpr hr).2.2 l hl).2
  · rintro ⟨hkeeps, hneedless, hcomputed⟩
    constructor
    · rintro ⟨⟨hprices, hzero⟩, htype, hall⟩
      refine hmeets.mpr ⟨⟨hprices, htype⟩, ?_⟩
      cases hl : loadedLocation userDoc loaded with
      | none => exact hneedless hl hprices htype hzero
      | some l =>
        rw [hloaded l hl]
        exact (hall l hl).1
    · intro hr
      obtain ⟨⟨hprices, htype⟩, hdistance⟩ := hmeets.mp hr
      refine ⟨⟨hprices, fun hblank => hkeeps hblank hr⟩, htype, ?_⟩
      intro l hl
      rw [← hloaded l hl]
      exact ⟨hdistance, hcomputed l hl hr⟩

/-- The filter delivers the rooms that meet the constraints if and only if the
three conditions hold. -/
theorem filter_exact_iff (A : Arithmetic K) (inputs : Inputs T)
    (userDoc : Option (UserDocument K)) (loaded : Bool)
    (rooms : Collection String (StoredRoom K)) :
    DeliversExactly A inputs userDoc loaded rooms ↔
      BlankMinimumKeeps A inputs userDoc rooms ∧
        DistanceNeedless A inputs userDoc loaded rooms ∧
        DistanceComputed A inputs userDoc loaded rooms := by
  simp only [deliversExactly_iff, delivered_eq_meets_iff]
  constructor
  · intro h
    exact ⟨fun hblank d hd => (h d hd).1 hblank, fun hnone d hd => (h d hd).2.1 hnone,
      fun l hl d hd => (h d hd).2.2 l hl⟩
  · rintro ⟨hkeeps, hneedless, hcomputed⟩ d hd
    exact ⟨fun hblank => hkeeps hblank d hd, fun hnone => hneedless hnone d hd,
      fun l hl => hcomputed l hl d hd⟩

end Agreement

section Samples

noncomputable def realParser : DoubleParser ℝ where
  tryParse s := (rationalText.tryParse s).map (Double.map (fun q : ℚ => (q : ℝ)))
  tryParse_empty := rfl

def blankField {K : Type} (T : DoubleParser K) : NumberField T where
  text := ""
  value := none
  reads := T.tryParse_empty
  notNaN := nofun
  blank _ := rfl

def filledField (q : ℚ) : NumberField realParser where
  text := rationalText.toString (.fin q)
  value := some (.fin q)
  reads := by
    simp only [realParser, rationalText.tryParse_toString]
    rfl
  notNaN := nofun
  blank := nofun

def sampleRoom {K : Type} (latitude longitude price : K) : StoredRoom K where
  room :=
    { roomTitle := some "Sunny room"
      posterUid := some "landlord"
      postedBy := some "Sita"
      postedByEmail := none
      location := some (locationMap "Kathmandu" latitude longitude)
      price := some (.fin price)
      description := some "Two windows"
      amenities := []
      images := some []
      isBooked := 0
      propertyType := some "Room"
      postDate := "2025-01-01" }
  price := .fin price
  propertyType := "Room"
  address := "Kathmandu"
  latitude := latitude
  longitude := longitude
  hasPrice := rfl
  hasType := rfl
  hasLocation := rfl

def sampleRooms {K : Type} (latitude longitude price : K) : Collection String (StoredRoom K) :=
  Collection.empty.set "room1" (sampleRoom latitude longitude price)

def sampleUser {K : Type} (location : Option (K × K)) : UserDocument K := ⟨[], location, rfl⟩

theorem filter_exact_near :
    DeliversExactly Functions.real ⟨filledField 5000, blankField _, filledField 5, some "Room"⟩
      (some (sampleUser (some (27, 85)))) true (sampleRooms 27 85 9000) := by
  refine (filter_exact_iff _ _ _ _ _).mpr ⟨?_, ?_, ?_⟩
  · intro hblank
    cases hblank
  · intro hnone
    cases hnone
  · intro l _ d _ _
    obtain ⟨x, _, hx⟩ := Haversine.calculateDistance_finite Functions.real l.1 l.2 d.data.latitude
      d.data.longitude
    rw [calculateDistance, Haversine.distance_exact, hx]
    exact nofun

/-- The sample room is half the circumference away from its antipode. -/
theorem antipode_distance :
    calculateDistance Functions.real (.fin (-27)) (.fin (-95)) (.fin 27) (.fin 85) =
      .fin (6371 * Real.pi) := by
  obtain ⟨h, _, _, heq, hval⟩ := Haversine.calculateDistance_fin Functions.real (-27) (-95) 27 85
  have hlat : (27 - -27) * Real.pi / 180 / 2 = 27 * Real.pi / 180 := by ring
  have hlong : (85 - -95) * Real.pi / 180 / 2 = Real.pi / 2 := by ring
  have hneg : -27 * Real.pi / 180 = -(27 * Real.pi / 180) := by ring
  have hone : h = 1 := by
    rw [hval]
    simp only [Functions.real, hlat, hlong, hneg, Real.sin_pi_div_two, Real.cos_neg]
    linear_combination Real.sin_sq_add_cos_sq (27 * Real.pi / 180)
  rw [calculateDistance, Haversine.distance_exact, heq, hone]
  simp only [Functions.real, Real.sqrt_one, Real.arcsin_one]
  congr 1
  ring

/-- The integer next to a rational, an even one if there are two. -/
def roundEven (q : ℚ) : ℤ :=
  let rest := q - ⌊q⌋
  if rest < 1 / 2 then ⌊q⌋
  else if 1 / 2 < rest then ⌊q⌋ + 1
  else if ⌊q⌋ % 2 = 0 then ⌊q⌋
  else ⌊q⌋ + 1

/-- The rational of 53 binary digits next to `q`, whatever its exponent is. -/
def round53 (q : ℚ) : ℚ :=
  if q = 0 then 0
  else
    let shift := (2 : ℚ) ^ (52 + (q.den.log2 : ℤ) - (q.num.natAbs.log2 : ℤ))
    let shift := if |q| * shift < 2 ^ 52 then 2 * shift else shift
    roundEven (q * shift) / shift

def rounded : Double ℚ → Double ℚ
  | .fin q => .fin (round53 q)
  | x => x

/-- A library function, given by its values at the arguments that occur. -/
def tabulated (table : List (ℚ × ℚ)) : Double ℚ → Double ℚ
  | .fin q => .fin ((table.lookup q).getD 0)
  | _ => .nan

/-- The arithmetic of `double` between the two places below: results have 53
binary digits, sine, cosine and square root are as a C library gives them, and
the inverse sine is asked outside of its domain. -/
def binary64 : Arithmetic ℚ where
  pi := .fin (884279719003555 / 2 ^ 48)
  add x y := rounded (x + y)
  sub x y := rounded (x - y)
  mul x y := rounded (x * y)
  div x y := rounded (x / y)
  pow x n := rounded (Haversine.pow x n)
  sin := tabulated [(-1197982994359969 / 2 ^ 50, -246097787708071 / 2 ^ 48),
    (884279719003555 / 2 ^ 49, 1)]
  cos := tabulated [(4791931977436051 / 2 ^ 52, 4371724876190521 / 2 ^ 53),
    (-4791931977443699 / 2 ^ 52, 8743449752354295 / 2 ^ 54)]
  asin
    | .fin q => if -1 ≤ q ∧ q ≤ 1 then .fin 0 else .nan
    | _ => .nan
  sqrt := tabulated [(2251799813685249 / 2 ^ 51, 4503599627370497 / 2 ^ 52)]

/-- At 60.96400673635584 north and 155.5361643778245 west. -/
def northWest : ℚ × ℚ := (4289960594076009 / 2 ^ 46, -2736221140369557 / 2 ^ 44)

/-- At 60.96400673645314 south and 24.463835622175523 east. -/
def southEast : ℚ × ℚ := (-536245074260357 / 2 ^ 43, 1721489390501293 / 2 ^ 46)

/-- The value under the square root comes out as `1.0000000000000004`. -/
theorem opposite_distance :
    calculateDistance binary64 (.fin northWest.1) (.fin northWest.2) (.fin southEast.1)
      (.fin southEast.2) = .nan := by
  decide +kernel

/-- A room with a negative price is lost when nothing is filled in. A filled
distance is ignored for a user without a location, and for one whose location
has not been loaded yet. A room almost opposite to the user is lost without a
filled distance. -/
theorem filter_not_exact :
    ¬ DeliversExactly Functions.real ⟨blankField realParser, blankField _, blankField _, none⟩ none
        true (sampleRooms 27 85 (-5)) ∧
      ¬ DeliversExactly Functions.real ⟨blankField _, blankField _, filledField 5, none⟩
        (some (sampleUser none)) true (sampleRooms 27 85 9000) ∧
      ¬ DeliversExactly Functions.real ⟨blankField _, blankField _, filledField 5, none⟩
        (some (sampleUser (some (-27, -95)))) false (sampleRooms 27 85 9000) ∧
      ¬ DeliversExactly binary64
        ⟨blankField rationalText.toDoubleParser, blankField _, blankField _, none⟩
        (some (sampleUser (some northWest))) true
        (sampleRooms southEast.1 southEast.2 9000) := by
  have hfar : ¬ 6371 * Real.pi ≤ 5 := by
    have hpi := Real.two_le_pi
    linarith
  refine ⟨?_, ?_, ?_, ?_⟩
  · intro h
    have hroom := (deliversExactly_iff _ _ _ _ _).mp h ⟨"room1", sampleRoom 27 85 (-5)⟩
      List.mem_cons_self
    simp [delivered, meets, meetsPrices, meetsType, meetsDistance, blankField, sampleRoom,
      loadedLocation, storedLocation] at hroom
    linarith [hroom.1]
  · intro h
    have hroom := (deliversExactly_iff _ _ _ _ _).mp h ⟨"room1", sampleRoom 27 85 9000⟩
      List.mem_cons_self
    simp [delivered, meets, meetsPrices, meetsType, meetsDistance, blankField, filledField,
      sampleRoom, loadedLocation, storedLocation, sampleUser, isNear, Double.le] at hroom
  · intro h
    have hroom := (deliversExactly_iff _ _ _ _ _).mp h ⟨"room1", sampleRoom 27 85 9000⟩
      List.mem_cons_self
    simp [delivered, meets, meetsPrices, meetsType, meetsDistance, blankField, filledField,
      sampleRoom, loadedLocation, storedLocation, sampleUser, isNear, antipode_distance, hfar,
      Double.le] at hroom
  · intro h
    have hroom := (deliversExactly_iff _ _ _ _ _).mp h
      ⟨"room1", sampleRoom southEast.1 southEast.2 9000⟩ List.mem_cons_self
    simp [delivered, meets, meetsPrices, meetsType, meetsDistance, blankField, sampleRoom,
      loadedLocation, storedLocation, sampleUser, isNear, opposite_distance, Double.le] at hroom

end Samples

end FilteredRooms
