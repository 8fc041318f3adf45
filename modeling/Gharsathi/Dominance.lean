import Gharsathi.Recommendations

/-!
# Better rooms score no less

A room that is at least as close, at least as near in price, of the wanted type
whenever the other one is, and no worse in every amenity, scores at least as
much, for every distance and price preference. Through threshold, sort and
limit it is then recommended whenever the other one is, and before it when its
score is larger.
-/

namespace Dominance

open DartDouble DartMath DartValues DartSort FirestoreCollection Models PreferenceServices
open RecommendationSys RoomDetails SimilarityScore Recommendations

section Statements
variable {K : Type} [Field K] [LinearOrder K]

def distanceTo (M : Functions K) (p : SavedPreferences K) (r : PostedRoom K) : Double K :=
  RecommendationSys.calculateDistance M p.latitude p.longitude (.fin r.latitude) (.fin r.longitude)

/-- `r1` is at least as good as `r2` in every component of the score. -/
structure Dominates (M : Functions K) (p : SavedPreferences K) (r1 r2 : PostedRoom K) : Prop where
  closer : (distanceTo M p r1).le (distanceTo M p r2) = true
  price : (Double.abs (p.price - r1.price)).le (Double.abs (p.price - r2.price)) = true
  propertyType : p.propertyType = r2.propertyType → p.propertyType = r1.propertyType
  wanted : ∀ a ∈ p.amenities, a ∈ r2.amenities → a ∈ r1.amenities
  unwanted : ∀ a ∈ r1.amenities, a ∉ p.amenities → a ∈ r2.amenities

end Statements

section Scores
variable {K : Type} [Field K] [LinearOrder K] [IsStrictOrderedRing K] {M : Functions K}
  {p : SavedPreferences K} {r1 r2 : PostedRoom K}

theorem zero_le_abs {x y : Double K} (h : (Double.abs x).le y = true) :
    Double.le (.fin 0) (Double.abs x) = true := by
  cases x with
  | nan => cases h
  | negInf => rfl
  | posInf => rfl
  | fin x => exact decide_eq_true (abs_nonneg x)

theorem locationScore_mono (h : Dominates M p r1 r2) :
    locationScore M p r2 ≤ locationScore M p r1 := by
  have hnonneg : Double.le (.fin 0) (distanceTo M p r1) = true := by
    rcases Haversine.calculateDistance_nan_or_nonneg M p.latitude p.longitude (.fin r1.latitude)
      (.fin r1.longitude) with hnan | ⟨d, hd, heq⟩
    · have hcloser := h.closer
      rw [distanceTo, RecommendationSys.calculateDistance, hnan] at hcloser
      cases hcloser
    · rw [distanceTo, RecommendationSys.calculateDistance, heq]
      exact decide_eq_true hd
  exact sub_le_sub_left (Double.unit_div_mono p.distance hnonneg h.closer) 1

theorem priceScore_mono (h : Dominates M p r1 r2) : priceScore p r2 ≤ priceScore p r1 :=
  sub_le_sub_left (Double.unit_div_mono p.price (zero_le_abs h.price) h.price) 1

theorem typeScore_mono (h : Dominates M p r1 r2) : typeScore p r2 ≤ (typeScore p r1 : K) := by
  unfold typeScore
  by_cases h2 : p.propertyType = r2.propertyType
  · rw [if_pos h2, if_pos (h.propertyType h2)]
  · rw [if_neg h2]
    split
    · exact zero_le_one
    · exact le_rfl

/-- More wanted amenities and fewer unwanted ones: the quotient grows. -/
theorem jaccard_mono (h : Dominates M p r1 r2) (some : p.amenities ≠ []) :
    ((p.amenities.toFinset ∩ r2.amenities.toFinset).card : K) /
        ((p.amenities.toFinset ∪ r2.amenities.toFinset).card : K) ≤
      ((p.amenities.toFinset ∩ r1.amenities.toFinset).card : K) /
        ((p.amenities.toFinset ∪ r1.amenities.toFinset).card : K) := by
  have hinter : p.amenities.toFinset ∩ r2.amenities.toFinset ⊆
      p.amenities.toFinset ∩ r1.amenities.toFinset := by
    intro a ha
    simp only [Finset.mem_inter, List.mem_toFinset] at ha ⊢
    exact ⟨ha.1, h.wanted a ha.1 ha.2⟩
  have hunion : p.amenities.toFinset ∪ r1.amenities.toFinset ⊆
      p.amenities.toFinset ∪ r2.amenities.toFinset := by
    intro a ha
    simp only [Finset.mem_union, List.mem_toFinset] at ha ⊢
    by_cases hp : a ∈ p.amenities
    · exact Or.inl hp
    · exact Or.inr (h.unwanted a (ha.resolve_left hp) hp)
  have hpos : (0 : K) < ((p.amenities.toFinset ∪ r1.amenities.toFinset).card : K) := by
    rw [Nat.cast_pos, Finset.card_pos]
    exact ((List.toFinset_nonempty_iff _).mpr some).mono Finset.subset_union_left
  exact div_le_div₀ (Nat.cast_nonneg _) (Nat.cast_le.mpr (Finset.card_le_card hinter)) hpos
    (Nat.cast_le.mpr (Finset.card_le_card hunion))

/-- Both scores are numbers, and the dominating room has no smaller one. -/
theorem score_mono (h : Dominates M p r1 r2) (some : p.amenities ≠ []) (id1 id2 : String) :
    ∃ x1 x2 : K,
      calculateSimilarityScore M (forRecommender p) (postedSnapshot id1 r1) = .ok (.fin x1) ∧
      calculateSimilarityScore M (forRecommender p) (postedSnapshot id2 r2) = .ok (.fin x2) ∧
      x2 ≤ x1 := by
  refine ⟨_, _, calculateSimilarityScore_fin M p id1 r1 (Or.inl some),
    calculateSimilarityScore_fin M p id2 r2 (Or.inl some), ?_⟩
  have hlocation := locationScore_mono h
  have hprice := priceScore_mono h
  have htype : typeScore p r2 ≤ (typeScore p r1 : K) := typeScore_mono h
  have hamenities := jaccard_mono (K := K) h some
  simp only [baseScore, weight]
  linarith

end Scores

section AmenityLists
variable {K : Type} [Field K] [LinearOrder K]

/-- Only the sets of amenities count. -/
theorem calculateSimilarityScore_amenities (M : Functions K) (prefs : Preferences K) (id : String)
    (r : Rooms K) {wanted wanted' offered offered' : List String}
    (hwanted : ∀ a, a ∈ wanted ↔ a ∈ wanted') (hoffered : ∀ a, a ∈ offered ↔ a ∈ offered') :
    calculateSimilarityScore M { prefs with amenities := some wanted }
        ⟨id, Rooms.toJson { r with amenities := offered }⟩ =
      calculateSimilarityScore M { prefs with amenities := some wanted' }
        ⟨id, Rooms.toJson { r with amenities := offered' }⟩ := by
  have hjaccard : (calculateJaccardSimilarity wanted offered : Double K) =
      calculateJaccardSimilarity wanted' offered' := by
    have hw : wanted.toFinset = wanted'.toFinset := by
      ext a
      rw [List.mem_toFinset, List.mem_toFinset, hwanted]
    have ho : offered.toFinset = offered'.toFinset := by
      ext a
      rw [List.mem_toFinset, List.mem_toFinset, hoffered]
    unfold calculateJaccardSimilarity
    rw [hw, ho]
  unfold calculateSimilarityScore addLocation addPrice addPropertyType addAmenities
  simp only [field_room, bind, Except.bind, Value.asStringList_ofStrings, hjaccard]
  rfl

end AmenityLists

section Recommended
variable {K : Type} [Field K] [LinearOrder K] [IsStrictOrderedRing K] {M : Functions K}
  {userPreferences : Option (Preferences K)} {rooms : List (DocumentSnapshot K)} {limit : Nat}

omit [IsStrictOrderedRing K] in
theorem qualifies_mono {d e : DocumentSnapshot K} {x y : K}
    (hd : scoreOf M userPreferences d = .fin x) (he : scoreOf M userPreferences e = .fin y)
    (h : y ≤ x) (hq : qualifies M userPreferences e = true) :
    qualifies M userPreferences d = true := by
  rw [qualifies, he, Double.gt_fin_fin, decide_eq_true_eq] at hq
  rw [qualifies, hd, Double.gt_fin_fin, decide_eq_true_eq]
  exact hq.trans_le h

/-- A room with a larger score than a recommended one is recommended before it. -/
theorem recommended_before (S : ListSort) {userPreference : Collection String (Map K)}
    {uid : Option String} (documents : ∀ d ∈ rooms, IsRoomDocument d)
    {d e : DocumentSnapshot K} (hd : d ∈ rooms) {x y : K}
    (hx : scoreOf M (getUserPreferences userPreference uid) d = .fin x)
    (hy : scoreOf M (getUserPreferences userPreference uid) e = .fin y) (hlt : y < x)
    {result : List (DocumentSnapshot K)}
    (hresult : getRecommendations M S userPreference uid rooms limit = .ok result)
    (he : e ∈ result) : [d, e].Sublist result := by
  rw [getRecommendations_eq M S userPreference uid documents] at hresult
  cases hresult
  have hetaken := (mem_taken_iff S).mp he
  have hqe := (mem_scored (mem_taken S hetaken)).2.1
  have hdscored := scored_of_qualifies hd (qualifies_mono hx hy hlt.le hqe)
  have hcompare : Double.compareTo (scoreOf M (getUserPreferences userPreference uid) e)
      (scoreOf M (getUserPreferences userPreference uid) d) = .lt := by
    rw [hx, hy, Double.compareTo_fin_fin]
    exact compare_lt_iff_lt.mpr hlt
  have hbefore := top_before Double.compareTo ScoredProperty.score S hdscored hcompare hetaken
  exact hbefore.map ScoredProperty.property

/-- The dominating room scores no less, passes when the other one does, and
stands before it when it scores more; and only the sets of amenities count. -/
theorem dominating_recommended (M : Functions K) (S : ListSort)
    (userPreference : Collection String (Map K)) (user : User) (p : SavedPreferences K)
    (some : p.amenities ≠ []) (rooms : List (DocumentSnapshot K))
    (documents : ∀ d ∈ rooms, IsRoomDocument d) (id1 id2 : String) (r1 r2 : PostedRoom K)
    (h1 : postedSnapshot id1 r1 ∈ rooms)
    (dominates : Dominates M p r1 r2) :
    (∃ prefs x1 x2,
      getUserPreferences (savePreferences userPreference user p.toPreferences)
        (.some user.uid) = .some prefs ∧
      calculateSimilarityScore M prefs (postedSnapshot id1 r1) = .ok (.fin x1) ∧
      calculateSimilarityScore M prefs (postedSnapshot id2 r2) = .ok (.fin x2) ∧
      x2 ≤ x1 ∧
      ((Double.fin x2).gt threshold = true → (Double.fin x1).gt threshold = true) ∧
      (x2 < x1 → ∀ limit result,
        getRecommendations M S (savePreferences userPreference user p.toPreferences)
          (.some user.uid) rooms limit = .ok result →
        postedSnapshot id2 r2 ∈ result →
        [postedSnapshot id1 r1, postedSnapshot id2 r2].Sublist result)) ∧
    ∀ (prefs : Preferences K) (id : String) (r : Rooms K)
      (wanted wanted' offered offered' : List String),
      (∀ a, a ∈ wanted ↔ a ∈ wanted') → (∀ a, a ∈ offered ↔ a ∈ offered') →
      calculateSimilarityScore M { prefs with amenities := .some wanted }
          ⟨id, Rooms.toJson { r with amenities := offered }⟩ =
        calculateSimilarityScore M { prefs with amenities := .some wanted' }
          ⟨id, Rooms.toJson { r with amenities := offered' }⟩ := by
  constructor
  · obtain ⟨x1, x2, hx1, hx2, hle⟩ := score_mono dominates some id1 id2
    have hprefs := getUserPreferences_saved userPreference user p
    refine ⟨forRecommender p, x1, x2, hprefs, hx1, hx2, hle, ?_, ?_⟩
    · intro hpass
      rw [threshold, Double.gt_fin_fin, decide_eq_true_eq] at hpass ⊢
      exact hpass.trans_le hle
    · intro hlt limit result hresult hmem
      refine recommended_before S documents h1 ?_ ?_ hlt hresult hmem
      · rw [hprefs, scoreOf, hx1]
      · rw [hprefs, scoreOf, hx2]
  · intro prefs id r wanted wanted' offered offered' hwanted hoffered
    exact calculateSimilarityScore_amenities M prefs id r hwanted hoffered

theorem gym_dominates : Dominates Functions.real (ScoreRange.samplePreferences ["Gym"] gym_known)
    (ScoreRange.sampleRoom ["Gym"]) (ScoreRange.sampleRoom []) where
  closer := by
    have hzero : distanceTo Functions.real (ScoreRange.samplePreferences ["Gym"] gym_known)
        (ScoreRange.sampleRoom []) = .fin 0 := Haversine.calculateDistance_self _ _ _
    change (distanceTo _ _ (ScoreRange.sampleRoom [])).le _ = true
    rw [hzero]
    exact decide_eq_true le_rfl
  price := decide_eq_true le_rfl
  propertyType _ := rfl
  wanted _ _ h := absurd h List.not_mem_nil
  unwanted _ h hnot := absurd h hnot

theorem dominating_recommended_gym :
    ∃ prefs x1 x2, getUserPreferences gymStore (.some "tenant") = .some prefs ∧
      calculateSimilarityScore Functions.real prefs
        (postedSnapshot "r1" (ScoreRange.sampleRoom ["Gym"])) = .ok (.fin x1) ∧
      calculateSimilarityScore Functions.real prefs
        (postedSnapshot "r2" (ScoreRange.sampleRoom [])) = .ok (.fin x2) ∧ x2 ≤ x1 := by
  obtain ⟨⟨prefs, x1, x2, hprefs, hx1, hx2, hle, _⟩, _⟩ :=
    dominating_recommended Functions.real insertionSort Collection.empty ScoreRange.sampleUser
      (ScoreRange.samplePreferences ["Gym"] gym_known) (List.cons_ne_nil _ _) twoRooms
      twoRooms_documents "r1" "r2" (ScoreRange.sampleRoom ["Gym"]) (ScoreRange.sampleRoom [])
      List.mem_cons_self gym_dominates
  exact ⟨prefs, x1, x2, hprefs, hx1, hx2, hle⟩

end Recommended

end Dominance
