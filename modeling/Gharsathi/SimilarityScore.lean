import Gharsathi.RecommendationSys
import Gharsathi.RoomDetails

/-!
# The score of one room

Each component of the score adds at least nothing and at most its weight, with
one exception: the amenities of a room and of the preferences may both be
empty, and then their quotient is NaN and so is the score. For preferences the
screen has saved and a room the posting screen has stored, the score is written
out as one sum.
-/

namespace SimilarityScore

open DartDouble DartMath DartValues FirestoreCollection Models PreferenceServices RecommendationSys
open RoomDetails

section Documents
variable {K : Type}

/-- The entries of a room document are there, whatever the room leaves null. -/
theorem field_room (id : String) (r : Rooms K) :
    field ⟨id, r.toJson⟩ "location" = .ok (.ofMapOrNull r.location) ∧
      field ⟨id, r.toJson⟩ "price" = .ok (.ofDoubleOrNull r.price) ∧
      field ⟨id, r.toJson⟩ "propertyType" = .ok (.ofStringOrNull r.propertyType) ∧
      field ⟨id, r.toJson⟩ "amenities" = .ok (.ofStrings r.amenities) := by
  refine ⟨?_, ?_, ?_, ?_⟩ <;> simp [field, Rooms.toJson]

theorem field_posted (id : String) (r : PostedRoom K) :
    field (postedSnapshot id r) "location" =
        .ok (.map (locationMap r.address r.latitude r.longitude)) ∧
      field (postedSnapshot id r) "price" = .ok (.double r.price) ∧
      field (postedSnapshot id r) "propertyType" = .ok (.str r.propertyType) ∧
      field (postedSnapshot id r) "amenities" = .ok (.ofStrings r.amenities) :=
  field_room id r.toRooms

/-- What the recommender reads of saved preferences. -/
def forRecommender (p : SavedPreferences K) : Preferences K :=
  { p.toPreferences with user := none, uid := none }

theorem getUserPreferences_saved (userPreference : Collection String (Map K)) (user : User)
    (p : SavedPreferences K) :
    getUserPreferences (savePreferences userPreference user p.toPreferences) (some user.uid) =
      some (forRecommender p) := by
  have hdecode : decodeUserPreferences p.toPreferences.toJson = .ok (forRecommender p) := by
    simp [decodeUserPreferences, forRecommender, SavedPreferences.toPreferences,
      Preferences.toJson, Value.ofMapOrNull, Value.ofStringsOrNull]
    rfl
  simp only [getUserPreferences, savePreferences, Option.bind_some, Collection.get?_set_self,
    hdecode, Except.toOption]

end Documents

section Components
variable {K : Type} [Field K] [LinearOrder K] [IsStrictOrderedRing K]

/-- `1.0 - x.clamp(0.0, 1.0)`. -/
theorem one_sub_clamp (x : Double K) :
    (.fin 1 - Double.clamp x (.fin 0) (.fin 1) : Double K) = .fin (1 - Double.unit x) := by
  rw [Double.clamp_zero_one, Double.fin_sub_fin]

theorem calculatePriceScore_eq (price propertyPrice : Double K) :
    calculatePriceScore price propertyPrice =
      .fin (1 - Double.unit (Double.abs (price - propertyPrice) / price)) :=
  one_sub_clamp _

theorem one_sub_unit_mem (x : Double K) : 0 ≤ 1 - Double.unit x ∧ 1 - Double.unit x ≤ 1 := by
  have hlow := Double.unit_nonneg x
  have hhigh := Double.unit_le_one x
  constructor
  · linarith
  · linarith

/-- A component that a share `x` of its weight is added for. -/
theorem weighted_mem {x w : K} (hx : 0 ≤ x ∧ x ≤ 1) (hw : 0 ≤ w) : 0 ≤ x * w ∧ x * w ≤ w :=
  ⟨mul_nonneg hx.1 hw, mul_le_of_le_one_left hw hx.2⟩

omit [IsStrictOrderedRing K] in
/-- A component that is skipped adds nothing. -/
theorem skipped_mem {w : K} (hw : 0 ≤ w) (s : K) :
    ∃ x : K, 0 ≤ x ∧ x ≤ w ∧ (.ok (.fin s) : Result (Double K)) = .ok (.fin (s + x)) :=
  ⟨0, le_rfl, hw, by rw [add_zero]⟩

theorem scoreLocation_ok {M : Functions K} {prefs : Preferences K} {userLocation : Map K}
    {location : Value K} {s : K} {score : Double K}
    (h : scoreLocation M prefs userLocation location (.fin s) = .ok score) :
    ∃ x : K, 0 ≤ x ∧ x ≤ 4 / 10 ∧ score = .fin (s + x) := by
  obtain ⟨propertyLocation, _, h⟩ := bind_eq_ok.mp h
  split at h
  · cases h
    exact ⟨0, le_rfl, by positivity, by rw [add_zero]⟩
  · obtain ⟨lat1, _, h⟩ := bind_eq_ok.mp h
    obtain ⟨long1, _, h⟩ := bind_eq_ok.mp h
    obtain ⟨lat2, _, h⟩ := bind_eq_ok.mp h
    obtain ⟨long2, _, h⟩ := bind_eq_ok.mp h
    cases h
    obtain ⟨hlow, hhigh⟩ := weighted_mem (one_sub_unit_mem
      (RecommendationSys.calculateDistance M lat1 long1 lat2 long2 / prefs.distance.getD (.fin 50)))
      (show (0 : K) ≤ 4 / 10 by positivity)
    refine ⟨_, hlow, hhigh, ?_⟩
    rw [one_sub_clamp, featureWeights, weight, Double.fin_mul_fin, Double.fin_add_fin]

theorem addLocation_room (M : Functions K) (prefs : Preferences K) (id : String) (r : Rooms K)
    (s : K) : ∃ x : K, 0 ≤ x ∧ x ≤ 4 / 10 ∧
      addLocation M prefs ⟨id, r.toJson⟩ (.fin s) = .ok (.fin (s + x)) := by
  have skip := skipped_mem (show (0 : K) ≤ 4 / 10 by positivity) s
  unfold addLocation
  cases prefs.location with
  | none => exact skip
  | some userLocation =>
    simp only [(field_room id r).1, bind, Except.bind, pure, Except.pure]
    split
    · exact skip
    · cases hscore : scoreLocation M prefs userLocation (.ofMapOrNull r.location) (.fin s) with
      | error e => exact skip
      | ok score =>
        obtain ⟨x, hlow, hhigh, rfl⟩ := scoreLocation_ok hscore
        exact ⟨x, hlow, hhigh, rfl⟩

theorem addPrice_room (prefs : Preferences K) (id : String) (r : Rooms K) (s : K) :
    ∃ x : K, 0 ≤ x ∧ x ≤ 3 / 10 ∧ addPrice prefs ⟨id, r.toJson⟩ (.fin s) = .ok (.fin (s + x)) := by
  have skip := skipped_mem (show (0 : K) ≤ 3 / 10 by positivity) s
  unfold addPrice
  cases prefs.price with
  | none => exact skip
  | some price =>
    simp only [(field_room id r).2.1, bind, Except.bind, pure, Except.pure]
    cases r.price with
    | none => exact skip
    | some propertyPrice =>
      obtain ⟨hlow, hhigh⟩ := weighted_mem (one_sub_unit_mem
        (Double.abs (price - propertyPrice) / price)) (show (0 : K) ≤ 3 / 10 by positivity)
      refine ⟨_, hlow, hhigh, ?_⟩
      simp [Value.ofDoubleOrNull, Value.isNull, Value.numToDouble, calculatePriceScore_eq,
        featureWeights, weight]

theorem addPropertyType_room (prefs : Preferences K) (id : String) (r : Rooms K) (s : K) :
    ∃ x : K, 0 ≤ x ∧ x ≤ 15 / 100 ∧
      addPropertyType prefs ⟨id, r.toJson⟩ (.fin s) = .ok (.fin (s + x)) := by
  have skip := skipped_mem (show (0 : K) ≤ 15 / 100 by positivity) s
  unfold addPropertyType
  cases prefs.propertyType with
  | none => exact skip
  | some propertyType =>
    simp only [(field_room id r).2.2.1, bind, Except.bind, pure, Except.pure]
    cases r.propertyType with
    | none => exact skip
    | some t =>
      simp only [Value.ofStringOrNull, Value.isNull, Bool.false_eq_true, if_false]
      by_cases htype : propertyType = t
      · refine ⟨15 / 100, by positivity, le_rfl, ?_⟩
        simp [htype, featureWeights, weight]
      · refine ⟨0, le_rfl, by positivity, ?_⟩
        simp [htype, featureWeights, weight]

/-- The quotient of two amenity lists; it is undefined when both are empty. -/
theorem calculateJaccardSimilarity_eq {list1 list2 : List String}
    (h : list1 ≠ [] ∨ list2 ≠ []) :
    (calculateJaccardSimilarity list1 list2 : Double K) =
      .fin (((list1.toFinset ∩ list2.toFinset).card : K) /
        ((list1.toFinset ∪ list2.toFinset).card : K)) := by
  have hunion : ((list1.toFinset ∪ list2.toFinset).card : K) ≠ 0 := by
    rw [Nat.cast_ne_zero, Finset.card_ne_zero, Finset.union_nonempty,
      List.toFinset_nonempty_iff, List.toFinset_nonempty_iff]
    exact h
  exact Double.fin_div_fin _ hunion

omit [IsStrictOrderedRing K] in
theorem calculateJaccardSimilarity_nil :
    (calculateJaccardSimilarity [] [] : Double K) = .nan := by
  simp [calculateJaccardSimilarity]

theorem jaccard_mem (list1 list2 : List String) :
    (0 : K) ≤ ((list1.toFinset ∩ list2.toFinset).card : K) /
        ((list1.toFinset ∪ list2.toFinset).card : K) ∧
      ((list1.toFinset ∩ list2.toFinset).card : K) /
        ((list1.toFinset ∪ list2.toFinset).card : K) ≤ 1 := by
  have hcard : (list1.toFinset ∩ list2.toFinset).card ≤ (list1.toFinset ∪ list2.toFinset).card :=
    Finset.card_le_card (Finset.inter_subset_left.trans Finset.subset_union_left)
  constructor
  · positivity
  · exact div_le_one_of_le₀ (Nat.cast_le.mpr hcard) (Nat.cast_nonneg _)

theorem addAmenities_room (prefs : Preferences K) (id : String) (r : Rooms K) (s : K) :
    addAmenities prefs ⟨id, r.toJson⟩ (.fin s) = .ok .nan ∨
      ∃ x : K, 0 ≤ x ∧ x ≤ 15 / 100 ∧
        addAmenities prefs ⟨id, r.toJson⟩ (.fin s) = .ok (.fin (s + x)) := by
  unfold addAmenities
  cases prefs.amenities with
  | none => exact Or.inr (skipped_mem (show (0 : K) ≤ 15 / 100 by positivity) s)
  | some amenities =>
    simp only [(field_room id r).2.2.2, bind, Except.bind, pure, Except.pure,
      Value.asStringList_ofStrings]
    by_cases hempty : amenities ≠ [] ∨ r.amenities ≠ []
    · right
      obtain ⟨hlow, hhigh⟩ := weighted_mem (jaccard_mem (K := K) amenities r.amenities)
        (show (0 : K) ≤ 15 / 100 by positivity)
      refine ⟨_, hlow, hhigh, ?_⟩
      simp [Value.ofStrings, Value.isNull, calculateJaccardSimilarity_eq hempty, featureWeights, weight]
    · left
      push Not at hempty
      simp [Value.ofStrings, Value.isNull, hempty.1, hempty.2, calculateJaccardSimilarity_nil]

/-- The score of a room document is NaN or lies in `[0, 1]`. -/
theorem calculateSimilarityScore_room (M : Functions K) (prefs : Preferences K) (id : String)
    (r : Rooms K) : calculateSimilarityScore M prefs ⟨id, r.toJson⟩ = .ok .nan ∨
      ∃ x : K, 0 ≤ x ∧ x ≤ 1 ∧ calculateSimilarityScore M prefs ⟨id, r.toJson⟩ = .ok (.fin x) := by
  obtain ⟨x, hx, hx', hlocation⟩ := addLocation_room M prefs id r 0
  obtain ⟨y, hy, hy', hprice⟩ := addPrice_room prefs id r (0 + x)
  obtain ⟨z, hz, hz', htype⟩ := addPropertyType_room prefs id r (0 + x + y)
  unfold calculateSimilarityScore
  simp only [hlocation, hprice, htype, bind, Except.bind]
  rcases addAmenities_room prefs id r (0 + x + y + z) with hnan | ⟨w, hw, hw', hamenities⟩
  · exact Or.inl hnan
  · refine Or.inr ⟨0 + x + y + z + w, by linarith, ?_, hamenities⟩
    linarith

end Components

section Posted
variable {K : Type} [Field K] [LinearOrder K] [IsStrictOrderedRing K]

def locationScore (M : Functions K) (p : SavedPreferences K) (r : PostedRoom K) : K :=
  1 - Double.unit (RecommendationSys.calculateDistance M p.latitude p.longitude
    (.fin r.latitude) (.fin r.longitude) / p.distance)

def priceScore (p : SavedPreferences K) (r : PostedRoom K) : K :=
  1 - Double.unit (Double.abs (p.price - r.price) / p.price)

def typeScore (p : SavedPreferences K) (r : PostedRoom K) : K :=
  if p.propertyType = r.propertyType then 1 else 0

/-- The score before the amenities are added. -/
def baseScore (M : Functions K) (p : SavedPreferences K) (r : PostedRoom K) : K :=
  locationScore M p r * weight .location + priceScore p r * weight .price +
    typeScore p r * weight .propertyType

theorem addLocation_posted (M : Functions K) (p : SavedPreferences K) (id : String)
    (r : PostedRoom K) (s : K) :
    addLocation M (forRecommender p) (postedSnapshot id r) (.fin s) =
      .ok (.fin (s + locationScore M p r * (4 / 10))) := by
  have hscore : scoreLocation M (forRecommender p)
      [("address", .str p.address), ("latitude", .double p.latitude),
        ("longitude", .double p.longitude)]
      (.map (locationMap r.address r.latitude r.longitude)) (.fin s) =
      .ok (.fin (s + locationScore M p r * (4 / 10))) := by
    simp [scoreLocation, Value.asMap, Value.isNull, Value.asDouble, bind, Except.bind, pure,
      Except.pure, one_sub_clamp, featureWeights, weight, locationScore, forRecommender,
      SavedPreferences.toPreferences]
  have hlocation : (forRecommender p).location = some
      [("address", .str p.address), ("latitude", .double p.latitude),
        ("longitude", .double p.longitude)] := rfl
  unfold addLocation
  rw [hlocation]
  simp only [(field_posted id r).1, bind, Except.bind, Value.isNull, Bool.false_eq_true, if_false,
    hscore]
  rfl

theorem addPrice_posted (p : SavedPreferences K) (id : String) (r : PostedRoom K) (s : K) :
    addPrice (forRecommender p) (postedSnapshot id r) (.fin s) =
      .ok (.fin (s + priceScore p r * (3 / 10))) := by
  have hprice : (forRecommender p).price = some p.price := rfl
  unfold addPrice
  rw [hprice]
  simp only [(field_posted id r).2.1, bind, Except.bind, pure, Except.pure, Value.isNull,
    Bool.false_eq_true, if_false, Value.numToDouble, calculatePriceScore_eq, featureWeights, weight,
    Double.fin_mul_fin, Double.fin_add_fin, priceScore]

omit [IsStrictOrderedRing K] in
theorem addPropertyType_posted (p : SavedPreferences K) (id : String) (r : PostedRoom K) (s : K) :
    addPropertyType (forRecommender p) (postedSnapshot id r) (.fin s) =
      .ok (.fin (s + typeScore p r * (15 / 100))) := by
  have htype : (forRecommender p).propertyType = some p.propertyType := rfl
  unfold addPropertyType
  rw [htype]
  simp only [(field_posted id r).2.2.1, bind, Except.bind, pure, Except.pure, Value.isNull,
    Bool.false_eq_true, if_false, featureWeights, weight, typeScore]
  by_cases h : p.propertyType = r.propertyType
  · rw [if_pos h, if_pos h]
    rfl
  · rw [if_neg h, if_neg h]
    rfl

omit [IsStrictOrderedRing K] in
theorem addAmenities_posted (p : SavedPreferences K) (id : String) (r : PostedRoom K)
    (s : Double K) : addAmenities (forRecommender p) (postedSnapshot id r) s =
      .ok (s + calculateJaccardSimilarity p.amenities r.amenities * .fin (15 / 100)) := by
  have hamenities : (forRecommender p).amenities = some p.amenities := rfl
  unfold addAmenities
  rw [hamenities]
  simp only [(field_posted id r).2.2.2, bind, Except.bind, Value.asStringList_ofStrings]
  rfl

/-- The whole score of a posted room. -/
theorem calculateSimilarityScore_posted (M : Functions K) (p : SavedPreferences K) (id : String)
    (r : PostedRoom K) :
    calculateSimilarityScore M (forRecommender p) (postedSnapshot id r) =
      .ok (.fin (baseScore M p r) +
        calculateJaccardSimilarity p.amenities r.amenities * .fin (15 / 100)) := by
  unfold calculateSimilarityScore
  simp only [addLocation_posted, addPrice_posted, addPropertyType_posted, addAmenities_posted,
    bind, Except.bind, zero_add]
  rfl

/-- The score of a posted room when not both amenity lists are empty. -/
theorem calculateSimilarityScore_fin (M : Functions K) (p : SavedPreferences K) (id : String)
    (r : PostedRoom K) (h : p.amenities ≠ [] ∨ r.amenities ≠ []) :
    calculateSimilarityScore M (forRecommender p) (postedSnapshot id r) =
      .ok (.fin (baseScore M p r + ((p.amenities.toFinset ∩ r.amenities.toFinset).card : K) /
        ((p.amenities.toFinset ∪ r.amenities.toFinset).card : K) * (15 / 100))) := by
  rw [calculateSimilarityScore_posted, calculateJaccardSimilarity_eq h, Double.fin_mul_fin,
    Double.fin_add_fin]

end Posted

end SimilarityScore
