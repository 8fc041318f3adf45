import Gharsathi.SimilarityScore

/-!
# The range of the score

For preferences saved by the screen and a posted room the score is a number in
`[0, 1]` exactly when one of the two has an amenity. With none on either side
the quotient of the amenities is `0 / 0`, and NaN fails the comparison with the
threshold however well the rest matches. A perfect match then scores `1` unless
its price is infinite, where the deviation is NaN and counts as the largest one.
-/

namespace ScoreRange

open DartDouble DartMath DartValues FirestoreCollection Models PreferenceServices RecommendationSys
open RoomDetails SimilarityScore

section Statements
variable {K : Type} [Field K] [LinearOrder K]

/-- The room is where it was wanted, at the price, of the type and with the
amenities that were wanted; price and distance preference are positive. -/
structure PerfectMatch (p : SavedPreferences K) (r : PostedRoom K) : Prop where
  latitude : p.latitude = .fin r.latitude
  longitude : p.longitude = .fin r.longitude
  price : p.price = r.price ∧ p.price.gt (.fin 0) = true
  propertyType : p.propertyType = r.propertyType
  amenities : ∀ a, a ∈ p.amenities ↔ a ∈ r.amenities
  distance : p.distance.gt (.fin 0) = true

/-- After `p` was saved, the score of the room is a number in `[0, 1]`, and a
perfect match scores `1` and passes. -/
def ScoreProper (M : Functions K) (userPreference : Collection String (Map K)) (user : User)
    (p : SavedPreferences K) (id : String) (r : PostedRoom K) : Prop :=
  ∃ prefs x,
    getUserPreferences (savePreferences userPreference user p.toPreferences) (some user.uid) =
      some prefs ∧
    calculateSimilarityScore M prefs (postedSnapshot id r) = .ok (.fin x) ∧ 0 ≤ x ∧ x ≤ 1 ∧
    (PerfectMatch p r → x = 1 ∧ (Double.fin x).gt (.fin ((3 : ℕ) / (10 : ℕ))) = true)

end Statements

section Perfect
variable {K : Type} [Field K] [LinearOrder K] [IsStrictOrderedRing K]

theorem perfect_priceScore {p : SavedPreferences K} {r : PostedRoom K} (h : PerfectMatch p r)
    (finite : p.price ≠ .posInf) : priceScore p r = 1 := by
  obtain ⟨hsame, hpos⟩ := h.price
  rw [priceScore, ← hsame]
  cases hp : p.price with
  | nan =>
    rw [hp] at hpos
    cases hpos
  | negInf =>
    rw [hp] at hpos
    cases hpos
  | posInf => exact absurd hp finite
  | fin q =>
    rw [hp, Double.gt_fin_fin, decide_eq_true_eq] at hpos
    rw [Double.fin_sub_fin, sub_self, Double.abs_fin, abs_zero, Double.unit_zero_div hpos.ne',
      sub_zero]

omit [IsStrictOrderedRing K] in
/-- `Infinity - Infinity` is NaN, which `clamp` takes to the upper bound. -/
theorem infinite_priceScore {p : SavedPreferences K} {r : PostedRoom K} (h : PerfectMatch p r)
    (infinite : p.price = .posInf) : priceScore p r = 0 := by
  rw [priceScore, ← h.price.1, infinite]
  exact sub_self 1

theorem perfect_baseScore (M : Functions K) {p : SavedPreferences K} {r : PostedRoom K}
    (h : PerfectMatch p r) :
    baseScore M p r = 4 / 10 + priceScore p r * (3 / 10) + 15 / 100 := by
  have hlocation : locationScore M p r = 1 := by
    rw [locationScore, h.latitude, h.longitude, RecommendationSys.calculateDistance,
      Haversine.calculateDistance_self, Double.unit_zero_div_of_pos h.distance, sub_zero]
  have htype : typeScore p r = 1 := if_pos h.propertyType
  rw [baseScore, hlocation, htype, one_mul, one_mul]
  rfl

theorem perfect_jaccard {p : SavedPreferences K} {r : PostedRoom K} (h : PerfectMatch p r)
    (some : p.amenities ≠ [] ∨ r.amenities ≠ []) :
    ((p.amenities.toFinset ∩ r.amenities.toFinset).card : K) /
      ((p.amenities.toFinset ∪ r.amenities.toFinset).card : K) = 1 := by
  have hsets : r.amenities.toFinset = p.amenities.toFinset := by
    ext a
    rw [List.mem_toFinset, List.mem_toFinset, h.amenities]
  have hcard : (p.amenities.toFinset.card : K) ≠ 0 := by
    rw [Nat.cast_ne_zero, Finset.card_ne_zero, List.toFinset_nonempty_iff]
    rcases some with hp | hr
    · exact hp
    · rwa [← List.toFinset_nonempty_iff, ← hsets, List.toFinset_nonempty_iff]
  rw [hsets, Finset.inter_self, Finset.union_self, div_self hcard]

theorem perfect_score (M : Functions K) {p : SavedPreferences K} {r : PostedRoom K}
    (h : PerfectMatch p r) (id : String) (some : p.amenities ≠ [] ∨ r.amenities ≠ []) :
    calculateSimilarityScore M (forRecommender p) (postedSnapshot id r) =
      .ok (.fin (7 / 10 + priceScore p r * (3 / 10))) := by
  rw [calculateSimilarityScore_fin M p id r some, perfect_baseScore M h, perfect_jaccard h some]
  congr 2
  ring

theorem amenities_of_scoreProper {M : Functions K} {userPreference : Collection String (Map K)}
    {user : User} {p : SavedPreferences K} {id : String} {r : PostedRoom K}
    (h : ScoreProper M userPreference user p id r) : p.amenities ≠ [] ∨ r.amenities ≠ [] := by
  obtain ⟨prefs, x, hprefs, hscore, _⟩ := h
  rw [getUserPreferences_saved, Option.some.injEq] at hprefs
  subst hprefs
  by_contra hnone
  push Not at hnone
  rw [calculateSimilarityScore_posted, hnone.1, hnone.2, calculateJaccardSimilarity_nil,
    Double.nan_mul, Double.add_nan] at hscore
  cases hscore

theorem finite_of_scoreProper {M : Functions K} {userPreference : Collection String (Map K)}
    {user : User} {p : SavedPreferences K} {id : String} {r : PostedRoom K}
    (h : ScoreProper M userPreference user p id r) (perfect : PerfectMatch p r) :
    p.price ≠ .posInf := by
  intro infinite
  have some := amenities_of_scoreProper h
  obtain ⟨prefs, x, hprefs, hscore, _, _, hone⟩ := h
  rw [getUserPreferences_saved, Option.some.injEq] at hprefs
  subst hprefs
  rw [perfect_score M perfect id some, infinite_priceScore perfect infinite, (hone perfect).1]
    at hscore
  have hseven : (7 / 10 + 0 * (3 / 10) : K) = 1 :=
    Double.fin.inj (Except.ok.inj hscore)
  norm_num at hseven

theorem scoreProper_of_amenities (M : Functions K) (userPreference : Collection String (Map K))
    (user : User) (p : SavedPreferences K) (id : String) (r : PostedRoom K)
    (some : p.amenities ≠ [] ∨ r.amenities ≠ []) (finite : PerfectMatch p r → p.price ≠ .posInf) :
    ScoreProper M userPreference user p id r := by
  have hfin := calculateSimilarityScore_fin M p id r some
  rcases calculateSimilarityScore_room M (forRecommender p) id r.toRooms with
    hnan | ⟨x, hlow, hhigh, hx⟩
  · cases hfin.symm.trans hnan
  · refine ⟨forRecommender p, x, getUserPreferences_saved userPreference user p, hx, hlow, hhigh,
      ?_⟩
    intro perfect
    have hone : x = 1 := by
      have hscore := perfect_score M perfect id some
      rw [perfect_priceScore perfect (finite perfect)] at hscore
      rw [Double.fin.inj (Except.ok.inj (hx.symm.trans hscore))]
      norm_num
    refine ⟨hone, ?_⟩
    rw [hone, Double.gt_fin_fin, decide_eq_true_eq]
    norm_num

/-- The score is as promised if and only if one side has an amenity and no
perfect match has an infinite price. -/
theorem scoreProper_iff (M : Functions K) (userPreference : Collection String (Map K))
    (user : User) (p : SavedPreferences K) (id : String) (r : PostedRoom K) :
    ScoreProper M userPreference user p id r ↔
      (p.amenities ≠ [] ∨ r.amenities ≠ []) ∧ (PerfectMatch p r → p.price ≠ .posInf) :=
  ⟨fun h => ⟨amenities_of_scoreProper h, finite_of_scoreProper h⟩,
    fun h => scoreProper_of_amenities M userPreference user p id r h.1 h.2⟩

end Perfect

def sampleUser : User := ⟨"tenant", some "Hari"⟩

def samplePreferences (amenities : List String)
    (amenitiesKnown : amenities.Sublist amenitiesOptions) : SavedPreferences ℝ where
  user := sampleUser.displayName
  uid := sampleUser.uid
  address := "Patan"
  latitude := .fin 27
  longitude := .fin 85
  distance := .fin 5
  price := .fin 9000
  propertyType := "Apartment"
  amenities := amenities
  amenitiesKnown := amenitiesKnown

def sampleRoom (amenities : List String) : PostedRoom ℝ where
  roomTitle := "Garden flat"
  titleNonempty := by decide
  posterUid := "landlord"
  postedBy := some "Sita Rai"
  postedByEmail := some "sita@example.com"
  address := "Patan"
  latitude := 27
  longitude := 85
  price := .fin 9000
  description := "Two rooms"
  amenities := amenities
  images := []
  propertyType := "Apartment"
  postDate := "2024-01-01"

theorem scoreProper_gym : ScoreProper Functions.real Collection.empty sampleUser
    (samplePreferences ["Gym"] gym_known) "r1" (sampleRoom []) :=
  (scoreProper_iff Functions.real Collection.empty sampleUser
    (samplePreferences ["Gym"] gym_known) "r1" (sampleRoom [])).mpr
    ⟨Or.inl (List.cons_ne_nil _ _), fun _ h => by cases h⟩

/-- The price text `Infinity` on both screens. -/
def infinitePreferences : SavedPreferences ℝ :=
  { samplePreferences ["Gym"] gym_known with price := .posInf }

def infiniteRoom : PostedRoom ℝ := { sampleRoom ["Gym"] with price := .posInf }

theorem sample_distance :
    (samplePreferences [] (List.nil_sublist _)).distance.gt (.fin 0) = true := by
  rw [samplePreferences, Double.gt_fin_fin, decide_eq_true_eq]
  norm_num

/-- A perfect match without amenities has no score, and one with an infinite
price does not score `1`. -/
theorem not_scoreProper :
    (PerfectMatch (samplePreferences [] (List.nil_sublist _)) (sampleRoom []) ∧
      ¬ ScoreProper Functions.real Collection.empty sampleUser
        (samplePreferences [] (List.nil_sublist _)) "r1" (sampleRoom [])) ∧
    (PerfectMatch infinitePreferences infiniteRoom ∧
      ¬ ScoreProper Functions.real Collection.empty sampleUser infinitePreferences "r1"
        infiniteRoom) := by
  constructor
  · constructor
    · refine ⟨rfl, rfl, ⟨rfl, ?_⟩, rfl, fun a => Iff.rfl, sample_distance⟩
      rw [samplePreferences, Double.gt_fin_fin, decide_eq_true_eq]
      norm_num
    · intro h
      rcases amenities_of_scoreProper h with h | h
      · exact h rfl
      · exact h rfl
  · have perfect : PerfectMatch infinitePreferences infiniteRoom :=
      ⟨rfl, rfl, ⟨rfl, rfl⟩, rfl, fun a => Iff.rfl, sample_distance⟩
    exact ⟨perfect, fun h => finite_of_scoreProper h perfect rfl⟩

end ScoreRange
