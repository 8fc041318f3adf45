import Gharsathi.DartStrings
import Gharsathi.SimilarityScore

/-!
# The preference screen

The screen keeps the coordinates in late variables, the distance and the price
as text, and the amenities as a vector of flags. Opening it loads the stored
preferences into these, and `Save` builds a `Preferences` from them again.
`getPreferences` reads the longitude under a wrong key, so it never returns
what was saved; the recommender decodes the same document rightly; and opening
the screen and saving writes the longitude `0.0`.
-/

namespace PreferenceScreen

open DartDouble DartStrings DartValues FirestoreCollection Models PreferenceServices
open RecommendationSys SimilarityScore

structure ScreenState (K : Type) where
  address : String
  latitude : Option (Double K)
  longitude : Option (Double K)
  distanceText : String
  priceText : String
  dropdownPropertyValue : String
  isSelected : Fin amenitiesOptions.length → Bool

section Screen
variable {K : Type}

def initState : ScreenState K where
  address := "Not Set"
  latitude := none
  longitude := none
  distanceText := ""
  priceText := ""
  dropdownPropertyValue := "Apartment"
  isSelected _ := false

/-- `x.toString()` for a nullable double. -/
def toText (T : DoubleText K) : Option (Double K) → String
  | none => "null"
  | some x => T.toString x

/-- The loop over the options. -/
def selectedAmenities (isSelected : Fin amenitiesOptions.length → Bool) : List String :=
  ((List.finRange amenitiesOptions.length).filter isSelected).map amenitiesOptions.get

/-- The `Preferences` that `_savePreferencesToFirestore` builds. -/
def preferencesOnScreen (T : DoubleText K) (user : User) (s : ScreenState K) :
    Result (Preferences K) := do
  let latitude ← late "latitude" s.latitude
  let longitude ← late "longitude" s.longitude
  let distance ← T.parse s.distanceText
  let price ← T.parse s.priceText
  return {
    user := user.displayName
    uid := some user.uid
    location := some
      [("address", .str s.address), ("latitude", .double latitude), ("longitude", .double longitude)]
    distance := some distance
    price := some price
    propertyType := some s.dropdownPropertyValue
    amenities := some (selectedAmenities s.isSelected) }

def savePreferencesToFirestore (T : DoubleText K) (userPreference : Collection String (Map K))
    (currentUser : Option User) (s : ScreenState K) : Result (Collection String (Map K)) :=
  match currentUser with
  | none => return userPreference
  | some user => do
    let preferences ← preferencesOnScreen T user s
    return savePreferences userPreference user preferences

variable [Zero K]

/-- What `loadPreferences` makes of the loaded preferences; an error is caught
and leaves the assignments made before it. -/
def loadPreferences (T : DoubleText K) (preferences : Option (Preferences K)) (s : ScreenState K) :
    ScreenState K :=
  match preferences with
  | none => s
  | some preferences =>
    match preferences.location with
    | none => s
    | some location =>
      match ((Map.get location "address").orElse (.str "")).asString with
      | .error _ => s
      | .ok address =>
        match ((Map.get location "latitude").orElse (.double (.fin 0))).asDouble with
        | .error _ => { s with address := address }
        | .ok latitude =>
          match ((Map.get location "longitude").orElse (.double (.fin 0))).asDouble with
          | .error _ => { s with address := address, latitude := some latitude }
          | .ok longitude =>
            { address := address
              latitude := some latitude
              longitude := some longitude
              distanceText := toText T preferences.distance
              priceText := toText T preferences.price
              dropdownPropertyValue := preferences.propertyType.getD "Apartment"
              isSelected :=
                match preferences.amenities with
                | none => s.isSelected
                | some amenities => fun i => decide (amenitiesOptions.get i ∈ amenities) }

/-- The screen is opened, loads, and `Save` is pressed without an edit. -/
def openAndSave [IntCast K] (T : DoubleText K) (user : User)
    (userPreference : Collection String (Map K)) : Collection String (Map K) :=
  let s := loadPreferences T (getPreferences userPreference (some user)) initState
  match savePreferencesToFirestore T userPreference (some user) s with
  | .error _ => userPreference
  | .ok userPreference => userPreference

end Screen

section Statements
variable {K : Type}

/-- Two location maps with the same entries. -/
def SameLocation : Option (Map K) → Option (Map K) → Prop
  | none, none => True
  | some m, some n => ∀ key, Map.get m key = Map.get n key
  | _, _ => False

structure SamePreferences (p q : Preferences K) : Prop where
  user : p.user = q.user
  uid : p.uid = q.uid
  location : SameLocation p.location q.location
  distance : p.distance = q.distance
  price : p.price = q.price
  propertyType : p.propertyType = q.propertyType
  amenities : p.amenities = q.amenities

def LoadsEqual [IntCast K] (userPreference : Collection String (Map K)) (user : User)
    (preferences : Preferences K) : Prop :=
  ∃ q, getPreferences (savePreferences userPreference user preferences) (some user) = some q ∧
    SamePreferences q preferences

def RecommenderReads (userPreference : Collection String (Map K)) (user : User)
    (preferences : Preferences K) : Prop :=
  ∃ q, getUserPreferences (savePreferences userPreference user preferences) (some user.uid) =
      some q ∧
    SamePreferences { q with user := preferences.user, uid := preferences.uid } preferences

def ResaveKeeps [Zero K] [IntCast K] (T : DoubleText K) (userPreference : Collection String (Map K))
    (user : User) (preferences : Preferences K) : Prop :=
  ∀ n, ((openAndSave T user)^[n] (savePreferences userPreference user preferences)).get? user.uid =
    some preferences.toJson

/-- The three parts of the round trip together. -/
structure RoundTrip [Zero K] [IntCast K] (T : DoubleText K)
    (userPreference : Collection String (Map K)) (user : User) (preferences : Preferences K) :
    Prop where
  loads : LoadsEqual userPreference user preferences
  recommender : RecommenderReads userPreference user preferences
  resave : ResaveKeeps T userPreference user preferences

end Statements

section Saved
variable {K : Type}

/-- What the screen saves is a `SavedPreferences` of the user. -/
theorem preferencesOnScreen_ok {T : DoubleText K} {user : User} {s : ScreenState K}
    {preferences : Preferences K} (h : preferencesOnScreen T user s = .ok preferences) :
    ∃ p : SavedPreferences K, preferences = p.toPreferences ∧ p.user = user.displayName ∧
      p.uid = user.uid ∧ s.longitude = some p.longitude := by
  obtain ⟨latitude, _, h⟩ := bind_eq_ok.mp h
  obtain ⟨longitude, hlongitude, h⟩ := bind_eq_ok.mp h
  obtain ⟨distance, _, h⟩ := bind_eq_ok.mp h
  obtain ⟨price, _, h⟩ := bind_eq_ok.mp h
  have hlate := late_eq_ok.mp hlongitude
  have hknown : (selectedAmenities s.isSelected).Sublist amenitiesOptions := by
    have hsub := (List.filter_sublist (p := s.isSelected)
      (l := List.finRange amenitiesOptions.length)).map amenitiesOptions.get
    rwa [List.map_get_finRange] at hsub
  cases h
  exact ⟨⟨user.displayName, user.uid, s.address, latitude, longitude, distance, price,
    s.dropdownPropertyValue, selectedAmenities s.isSelected, hknown⟩, rfl, rfl, rfl, hlate⟩

/-- The options among a choice of options are that choice. -/
theorem filter_mem_of_sublist {xs options : List String} (h : xs.Sublist options)
    (distinct : options.Nodup) : options.filter (fun a => decide (a ∈ xs)) = xs := by
  induction h with
  | slnil => rfl
  | @cons xs options o h ih =>
    obtain ⟨hnot, hrest⟩ := List.nodup_cons.mp distinct
    have hout : o ∉ xs := fun hmem => hnot (h.subset hmem)
    rw [List.filter_cons_of_neg (by simpa using hout), ih hrest]
  | @cons_cons xs options o h ih =>
    obtain ⟨hnot, hrest⟩ := List.nodup_cons.mp distinct
    rw [List.filter_cons_of_pos (by simp)]
    have hsame : options.filter (fun a => decide (a ∈ o :: xs)) =
        options.filter (fun a => decide (a ∈ xs)) := by
      apply List.filter_congr
      intro a ha
      have hne : a ≠ o := fun heq => hnot (heq ▸ ha)
      simp [hne]
    rw [hsame, ih hrest]

theorem selectedAmenities_mem (p : SavedPreferences K) :
    selectedAmenities (fun i => decide (amenitiesOptions.get i ∈ p.amenities)) = p.amenities := by
  have hdistinct : amenitiesOptions.Nodup := by decide
  have hfilter := List.filter_map (f := amenitiesOptions.get)
    (p := fun a => decide (a ∈ p.amenities)) (l := List.finRange amenitiesOptions.length)
  rw [List.map_get_finRange, filter_mem_of_sublist p.amenitiesKnown hdistinct] at hfilter
  exact hfilter.symm

end Saved

section Resave
variable {K : Type} [Zero K] [IntCast K]

/-- The preferences after they were loaded and saved again. -/
def resaved (p : SavedPreferences K) : SavedPreferences K := { p with longitude := .fin 0 }

/-- Opening and saving replaces the longitude and nothing else. -/
theorem openAndSave_stored (T : DoubleText K) {user : User} {p : SavedPreferences K}
    (huser : p.user = user.displayName) (huid : p.uid = user.uid)
    {userPreference : Collection String (Map K)}
    (h : userPreference.get? user.uid = some p.toPreferences.toJson) :
    (openAndSave T user userPreference).get? user.uid =
      some (resaved p).toPreferences.toJson := by
  have hload : loadPreferences T (getPreferences userPreference (some user)) initState =
      { address := p.address
        latitude := some p.latitude
        longitude := some (.fin 0)
        distanceText := T.toString p.distance
        priceText := T.toString p.price
        dropdownPropertyValue := p.propertyType
        isSelected := fun i => decide (amenitiesOptions.get i ∈ p.amenities) } := by
    rw [getPreferences_stored h]
    simp [loadPreferences, SavedPreferences.loadedLocation, SavedPreferences.toPreferences, toText,
      Value.asDouble]
  have hsave : preferencesOnScreen T user
      { address := p.address
        latitude := some p.latitude
        longitude := some (.fin 0)
        distanceText := T.toString p.distance
        priceText := T.toString p.price
        dropdownPropertyValue := p.propertyType
        isSelected := fun i => decide (amenitiesOptions.get i ∈ p.amenities) } =
      .ok (resaved p).toPreferences := by
    simp only [preferencesOnScreen, late, DoubleParser.parse, T.tryParse_toString, bind,
      Except.bind, pure,
      Except.pure, selectedAmenities_mem, resaved, SavedPreferences.toPreferences, huser, huid]
  have hstore : openAndSave T user userPreference =
      savePreferences userPreference user (resaved p).toPreferences := by
    simp only [openAndSave, hload, savePreferencesToFirestore, hsave, bind, Except.bind]
    rfl
  rw [hstore, get?_savePreferences]

theorem iterate_openAndSave (T : DoubleText K) {user : User} {p : SavedPreferences K}
    (huser : p.user = user.displayName) (huid : p.uid = user.uid) (hzero : resaved p = p)
    {userPreference : Collection String (Map K)}
    (h : userPreference.get? user.uid = some p.toPreferences.toJson) (n : Nat) :
    ((openAndSave T user)^[n] userPreference).get? user.uid = some p.toPreferences.toJson := by
  induction n generalizing userPreference with
  | zero => exact h
  | succ n ih =>
    rw [Function.iterate_succ_apply]
    apply ih
    rw [openAndSave_stored T huser huid h, hzero]

omit [Zero K] [IntCast K] in
theorem longitude_of_toJson_eq {p q : SavedPreferences K}
    (h : p.toPreferences.toJson = q.toPreferences.toJson) : p.longitude = q.longitude := by
  have hlocation := congrArg (fun m => Map.get m "location") h
  simp only [SavedPreferences.toPreferences, Preferences.toJson, Map.get_cons, Value.ofMapOrNull,
    String.reduceEq, if_false, if_true] at hlocation
  have hentries : p.address = q.address ∧ p.latitude = q.latitude ∧ p.longitude = q.longitude := by
    simpa using hlocation
  exact hentries.2.2

theorem resaveKeeps_iff (T : DoubleText K) (userPreference : Collection String (Map K))
    {user : User} {p : SavedPreferences K} (huser : p.user = user.displayName)
    (huid : p.uid = user.uid) :
    ResaveKeeps T userPreference user p.toPreferences ↔ p.longitude = .fin 0 := by
  have hstored := get?_savePreferences userPreference user p.toPreferences
  constructor
  · intro h
    have hone := h 1
    rw [Function.iterate_one, openAndSave_stored T huser huid hstored, Option.some.injEq] at hone
    exact (longitude_of_toJson_eq hone).symm
  · intro h n
    refine iterate_openAndSave T huser huid ?_ hstored n
    rw [resaved, ← h]

end Resave

section RoundTrips
variable {K : Type}

/-- No saved preferences come back equal: the longitude is lost. -/
theorem not_loadsEqual [IntCast K] (userPreference : Collection String (Map K)) (user : User)
    (p : SavedPreferences K) : ¬ LoadsEqual userPreference user p.toPreferences := by
  rintro ⟨q, hq, hsame⟩
  rw [getPreferences_stored (get?_savePreferences _ _ _), Option.some.injEq] at hq
  subst hq
  have hlongitude := hsame.location "longitude"
  simp [SavedPreferences.loadedLocation] at hlongitude

theorem recommenderReads (userPreference : Collection String (Map K)) (user : User)
    (p : SavedPreferences K) : RecommenderReads userPreference user p.toPreferences :=
  ⟨forRecommender p, getUserPreferences_saved userPreference user p,
    ⟨rfl, rfl, fun _ => rfl, rfl, rfl, rfl, rfl⟩⟩

/-- Whatever the screen saves, the round trip fails: `getPreferences` never
returns it. The recommender reads it rightly, and opening and saving keeps the
document exactly when the longitude was `0.0`. -/
theorem roundTrip_fails [Zero K] [IntCast K] (T : DoubleText K)
    (userPreference : Collection String (Map K)) (user : User) (s : ScreenState K)
    (preferences : Preferences K) (h : preferencesOnScreen T user s = .ok preferences) :
    ¬ RoundTrip T userPreference user preferences ∧
      ¬ LoadsEqual userPreference user preferences ∧
      RecommenderReads userPreference user preferences ∧
      (ResaveKeeps T userPreference user preferences ↔ s.longitude = some (.fin 0)) := by
  obtain ⟨p, rfl, huser, huid, hlongitude⟩ := preferencesOnScreen_ok h
  refine ⟨fun hround => not_loadsEqual userPreference user p hround.loads,
    not_loadsEqual userPreference user p, recommenderReads userPreference user p, ?_⟩
  rw [resaveKeeps_iff T userPreference huser huid, hlongitude, Option.some.injEq]

end RoundTrips

def sampleUser : User := ⟨"tenant", some "Hari"⟩

/-- A screen with a picked location, both texts filled in and `Gym` selected. -/
def sampleScreen : ScreenState ℚ where
  address := "Patan"
  latitude := some (.fin 27)
  longitude := some (.fin 85)
  distanceText := rationalText.toString (.fin 5)
  priceText := rationalText.toString (.fin 9000)
  dropdownPropertyValue := "Apartment"
  isSelected i := decide (i.val = 0)

def samplePreferences : SavedPreferences ℚ where
  user := some "Hari"
  uid := "tenant"
  address := "Patan"
  latitude := .fin 27
  longitude := .fin 85
  distance := .fin 5
  price := .fin 9000
  propertyType := "Apartment"
  amenities := ["Gym"]
  amenitiesKnown := gym_known

theorem sampleScreen_saves : preferencesOnScreen rationalText sampleUser sampleScreen =
    .ok samplePreferences.toPreferences := by
  have hamenities : selectedAmenities sampleScreen.isSelected = ["Gym"] := by decide
  unfold preferencesOnScreen
  rw [hamenities]
  simp only [sampleScreen, late, DoubleParser.parse, rationalText.tryParse_toString, bind,
    Except.bind, pure,
    Except.pure]
  rfl

theorem roundTrip_fails_sample :
    ¬ RoundTrip rationalText Collection.empty sampleUser samplePreferences.toPreferences ∧
      ¬ ResaveKeeps rationalText Collection.empty sampleUser samplePreferences.toPreferences := by
  obtain ⟨hround, _, _, hresave⟩ := roundTrip_fails rationalText Collection.empty sampleUser
    sampleScreen samplePreferences.toPreferences sampleScreen_saves
  exact ⟨hround, fun h => absurd (hresave.mp h) (by decide)⟩

/-- Saved and loaded, the sample preferences have lost their longitude. -/
theorem samplePreferences_lost :
    preferencesOnScreen rationalText sampleUser sampleScreen =
        .ok samplePreferences.toPreferences ∧
      ¬ RoundTrip rationalText Collection.empty sampleUser samplePreferences.toPreferences :=
  ⟨sampleScreen_saves,
    fun h => not_loadsEqual Collection.empty sampleUser samplePreferences h.loads⟩

end PreferenceScreen
