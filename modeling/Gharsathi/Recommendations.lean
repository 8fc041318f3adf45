import Gharsathi.ScoreRange

/-!
# The recommended rooms

For any stored preferences and any list of room documents `getRecommendations`
returns the top rooms among those whose score is a number above the threshold.
Which of two rooms with one score is taken may depend on the sort and on the
order of the documents; the sequence of scores does not.
-/

namespace Recommendations

open DartDouble DartMath DartValues DartSort FirestoreCollection Models PreferenceServices
open RecommendationSys RoomDetails ScoreRange SimilarityScore

section Statements
variable {K : Type} [Field K] [LinearOrder K]

/-- The preferences that a stored document holds, read field by field. -/
structure Decodes (data : Map K) (p : Preferences K) : Prop where
  anonymous : p.user = none ∧ p.uid = none
  location : (∃ location, Map.get data "location" = .map location ∧
      p.location = some
        [("address", Map.get location "address"),
         ("latitude", Map.get location "latitude"),
         ("longitude", Map.get location "longitude")]) ∨
    ((∀ location, Map.get data "location" ≠ .map location) ∧ p.location = none)
  distance : Map.get data "distance" = .ofDoubleOrNull p.distance
  price : Map.get data "price" = .ofDoubleOrNull p.price
  propertyType : Map.get data "propertyType" = .ofStringOrNull p.propertyType
  amenities : ∃ amenities, p.amenities = some amenities ∧
    (Map.get data "amenities" = .ofStrings amenities ∨
      (Map.get data "amenities" = .null ∧ amenities = []))

/-- The user's own document holds the preferences, or there is none that holds
any. -/
def StoredPreferences (userPreference : Collection String (Map K)) (uid : Option String) :
    Option (Preferences K) → Prop
  | some p => ∃ u data, uid = some u ∧ userPreference.get? u = some data ∧ Decodes data p
  | none => ∀ u data p, uid = some u → userPreference.get? u = some data → ¬ Decodes data p

/-- The document of a room as `Rooms.toJson` writes it, any field null. -/
def IsRoomDocument (d : DocumentSnapshot K) : Prop := ∃ r : Rooms K, d.data = r.toJson

/-- The score of a room, NaN where there is none. -/
def scoreOf (M : Functions K) (userPreferences : Option (Preferences K))
    (d : DocumentSnapshot K) : Double K :=
  match userPreferences with
  | none => .nan
  | some userPreferences =>
    match calculateSimilarityScore M userPreferences d with
    | .ok score => score
    | .error _ => .nan

def qualifies (M : Functions K) (userPreferences : Option (Preferences K))
    (d : DocumentSnapshot K) : Bool :=
  (scoreOf M userPreferences d).gt (.fin ((3 : ℕ) / (10 : ℕ)))

/-- `result` is a choice of the best `limit` qualifying rooms, best first. -/
structure TopN (M : Functions K) (userPreferences : Option (Preferences K))
    (rooms : List (DocumentSnapshot K)) (limit : Nat) (result : List (DocumentSnapshot K)) :
    Prop where
  nodup : result.Nodup
  length : result.length = min limit (rooms.countP (qualifies M userPreferences))
  qualifying : ∀ d ∈ result, d ∈ rooms ∧ qualifies M userPreferences d = true
  ordered : result.Pairwise
    (fun d e => (scoreOf M userPreferences e).le (scoreOf M userPreferences d) = true)
  best : ∀ d ∈ rooms, qualifies M userPreferences d = true → d ∉ result → ∀ e ∈ result,
    (scoreOf M userPreferences d).le (scoreOf M userPreferences e) = true

/-- The qualifying rooms with their scores, as the scoring loop keeps them. -/
def scored (M : Functions K) (userPreferences : Option (Preferences K))
    (rooms : List (DocumentSnapshot K)) : List (ScoredProperty K) :=
  (rooms.filter (qualifies M userPreferences)).map (fun d => ⟨d, scoreOf M userPreferences d⟩)

def taken (M : Functions K) (S : ListSort) (userPreferences : Option (Preferences K))
    (rooms : List (DocumentSnapshot K)) (limit : Nat) : List (ScoredProperty K) :=
  top Double.compareTo ScoredProperty.score S limit (scored M userPreferences rooms)

end Statements

section Stored
variable {K : Type}

theorem orElse_asStringList_eq_ok_iff {v : Value K} {xs : List String} :
    (v.orElse (.list [])).asStringList = .ok xs ↔ v = .ofStrings xs ∨ (v = .null ∧ xs = []) := by
  rw [Value.asStringList_eq_ok_iff]
  cases v with
  | null => cases xs <;> simp [Value.orElse, Value.ofStrings]
  | _ => simp [Value.orElse]

theorem decodeUserPreferences_eq_ok_iff {data : Map K} {p : Preferences K} :
    decodeUserPreferences data = .ok p ↔ Decodes data p := by
  constructor
  · intro h
    obtain ⟨distance, hdistance, h⟩ := bind_eq_ok.mp h
    obtain ⟨price, hprice, h⟩ := bind_eq_ok.mp h
    obtain ⟨propertyType, htype, h⟩ := bind_eq_ok.mp h
    obtain ⟨amenities, hamenities, h⟩ := bind_eq_ok.mp h
    obtain rfl := pure_eq_ok.mp h
    refine ⟨⟨rfl, rfl⟩, ?_, Value.asDoubleOrNull_eq_ok_iff.mp hdistance,
      Value.asDoubleOrNull_eq_ok_iff.mp hprice, Value.asStringOrNull_eq_ok_iff.mp htype,
      amenities, rfl, orElse_asStringList_eq_ok_iff.mp hamenities⟩
    cases hlocation : Map.get data "location" with
    | map location => exact Or.inl ⟨location, rfl, rfl⟩
    | _ => exact Or.inr ⟨fun _ h => (by cases h), rfl⟩
  · rintro ⟨⟨huser, huid⟩, hlocation, hdistance, hprice, htype, amenities, hp, hamenities⟩
    unfold decodeUserPreferences
    rw [Value.asDoubleOrNull_eq_ok_iff.mpr hdistance, Value.asDoubleOrNull_eq_ok_iff.mpr hprice,
      Value.asStringOrNull_eq_ok_iff.mpr htype, orElse_asStringList_eq_ok_iff.mpr hamenities]
    obtain ⟨user, uid, location, distance, price, propertyType, amenities'⟩ := p
    subst huser huid hp
    rcases hlocation with ⟨entries, hget, rfl⟩ | ⟨hnot, rfl⟩
    · rw [hget]
      rfl
    · split
      · rename_i entries hget
        exact absurd hget (hnot entries)
      · rfl

theorem storedPreferences_getUserPreferences (userPreference : Collection String (Map K))
    (uid : Option String) :
    StoredPreferences userPreference uid (getUserPreferences userPreference uid) := by
  unfold getUserPreferences
  cases uid with
  | none => exact fun _ _ _ h => by cases h
  | some u =>
    cases hdata : userPreference.get? u with
    | none =>
      rw [Option.bind_some, hdata]
      intro u' data p huid hget
      cases huid
      cases hdata.symm.trans hget
    | some data =>
      rw [Option.bind_some, hdata]
      cases hdecode : decodeUserPreferences data with
      | error e =>
        simp only [hdecode, Except.toOption]
        intro u' data' p huid hget hp
        cases huid
        cases hdata.symm.trans hget
        cases hdecode.symm.trans (decodeUserPreferences_eq_ok_iff.mpr hp)
      | ok p =>
        simp only [hdecode, Except.toOption]
        exact ⟨u, data, rfl, hdata, decodeUserPreferences_eq_ok_iff.mp hdecode⟩

/-- The stored document says which preferences they are. -/
theorem storedPreferences_unique {userPreference : Collection String (Map K)}
    {uid : Option String} {prefs prefs' : Option (Preferences K)}
    (h : StoredPreferences userPreference uid prefs)
    (h' : StoredPreferences userPreference uid prefs') : prefs = prefs' := by
  cases prefs with
  | none =>
    cases prefs' with
    | none => rfl
    | some p' =>
      obtain ⟨u, data, huid, hget, hp'⟩ := h'
      exact absurd hp' (h u data p' huid hget)
  | some p =>
    obtain ⟨u, data, huid, hget, hp⟩ := h
    cases prefs' with
    | none => exact absurd hp (h' u data p huid hget)
    | some p' =>
      obtain ⟨u', data', huid', hget', hp'⟩ := h'
      obtain rfl := Option.some.inj (huid.symm.trans huid')
      obtain rfl := Option.some.inj (hget.symm.trans hget')
      exact congrArg some (Except.ok.inj ((decodeUserPreferences_eq_ok_iff.mpr hp).symm.trans
        (decodeUserPreferences_eq_ok_iff.mpr hp')))

end Stored

section Loop
variable {K : Type} [Field K] [LinearOrder K]

theorem scoreProperties_eq {M : Functions K} {userPreferences : Preferences K}
    {rooms : List (DocumentSnapshot K)}
    (defined : ∀ d ∈ rooms, ∃ x, calculateSimilarityScore M userPreferences d = .ok x)
    (kept : List (ScoredProperty K)) :
    scoreProperties M userPreferences rooms kept =
      .ok (kept ++ scored M (some userPreferences) rooms) := by
  induction rooms generalizing kept with
  | nil => simp [scoreProperties, scored, pure, Except.pure]
  | cons d rooms ih =>
    obtain ⟨x, hx⟩ := defined d List.mem_cons_self
    have hscore : scoreOf M (some userPreferences) d = x := by simp [scoreOf, hx]
    have hrest := ih (fun e he => defined e (List.mem_cons_of_mem d he))
    unfold scoreProperties
    simp only [hx, bind, Except.bind]
    by_cases hgt : x.gt threshold = true
    · have hqualifies : qualifies M userPreferences d = true := by
        rw [qualifies, hscore]
        exact hgt
      rw [if_pos hgt, hrest, scored, scored, List.filter_cons_of_pos hqualifies, List.map_cons,
        hscore, List.append_assoc, List.singleton_append]
    · have hnot : ¬ qualifies M userPreferences d = true := by
        rw [qualifies, hscore]
        exact hgt
      rw [if_neg hgt, hrest, scored, scored, List.filter_cons_of_neg hnot]

variable [IsStrictOrderedRing K]

theorem score_defined (M : Functions K) (userPreferences : Preferences K)
    {d : DocumentSnapshot K} (h : IsRoomDocument d) :
    ∃ x, calculateSimilarityScore M userPreferences d = .ok x := by
  obtain ⟨r, hr⟩ := h
  have hd : d = ⟨d.id, r.toJson⟩ := by rw [← hr]
  rw [hd]
  rcases calculateSimilarityScore_room M userPreferences d.id r with hnan | ⟨x, _, _, hx⟩
  · exact ⟨_, hnan⟩
  · exact ⟨_, hx⟩

theorem getRecommendations_eq (M : Functions K) (S : ListSort)
    (userPreference : Collection String (Map K)) (uid : Option String)
    {rooms : List (DocumentSnapshot K)} (documents : ∀ d ∈ rooms, IsRoomDocument d)
    (limit : Nat) : getRecommendations M S userPreference uid rooms limit =
      .ok ((taken M S (getUserPreferences userPreference uid) rooms limit).map
        ScoredProperty.property) := by
  unfold getRecommendations
  cases getUserPreferences userPreference uid with
  | none =>
    have hnone : scored M none rooms = [] := by
      simp [scored, qualifies, scoreOf]
    have hsort : S.sort (descending Double.compareTo ScoredProperty.score)
        ([] : List (ScoredProperty K)) = [] := (S.perm _ []).eq_nil
    rw [taken, hnone, top, hsort, List.take_nil, List.map_nil]
    rfl
  | some userPreferences =>
    simp only [scoreProperties_eq (fun d hd => score_defined M userPreferences (documents d hd)),
      bind, Except.bind]
    rfl

end Loop

section Selection
variable {K : Type} [Field K] [LinearOrder K] {M : Functions K}
  {userPreferences : Option (Preferences K)} {rooms : List (DocumentSnapshot K)}

theorem mem_scored {x : ScoredProperty K} (h : x ∈ scored M userPreferences rooms) :
    x.property ∈ rooms ∧ qualifies M userPreferences x.property = true ∧
      x.score = scoreOf M userPreferences x.property := by
  obtain ⟨d, hd, rfl⟩ := List.mem_map.mp h
  obtain ⟨hmem, hq⟩ := List.mem_filter.mp hd
  exact ⟨hmem, hq, rfl⟩

theorem scored_of_qualifies {d : DocumentSnapshot K} (hd : d ∈ rooms)
    (hq : qualifies M userPreferences d = true) :
    ⟨d, scoreOf M userPreferences d⟩ ∈ scored M userPreferences rooms :=
  List.mem_map_of_mem (List.mem_filter.mpr ⟨hd, hq⟩)

theorem score_ne_nan {d : DocumentSnapshot K} (hq : qualifies M userPreferences d = true) :
    scoreOf M userPreferences d ≠ .nan := by
  intro h
  rw [qualifies, h, Double.gt_nan] at hq
  cases hq

variable (S : ListSort) {limit : Nat}

theorem mem_taken {x : ScoredProperty K} (h : x ∈ taken M S userPreferences rooms limit) :
    x ∈ scored M userPreferences rooms :=
  mem_of_mem_top _ _ S h

/-- A room is in the result exactly with its score. -/
theorem mem_taken_iff {d : DocumentSnapshot K} :
    d ∈ (taken M S userPreferences rooms limit).map ScoredProperty.property ↔
      ⟨d, scoreOf M userPreferences d⟩ ∈ taken M S userPreferences rooms limit := by
  constructor
  · intro h
    obtain ⟨x, hx, rfl⟩ := List.mem_map.mp h
    rw [← (mem_scored (mem_taken S hx)).2.2]
    exact hx
  · intro h
    exact List.mem_map.mpr ⟨_, h, rfl⟩

theorem taken_scores : ((taken M S userPreferences rooms limit).map ScoredProperty.property).map
    (scoreOf M userPreferences) =
      (taken M S userPreferences rooms limit).map ScoredProperty.score := by
  rw [List.map_map]
  exact List.map_congr_left (fun x hx => ((mem_scored (mem_taken S hx)).2.2).symm)

theorem taken_topN (distinct : rooms.Nodup) :
    TopN M userPreferences rooms limit
      ((taken M S userPreferences rooms limit).map ScoredProperty.property) := by
  have hnodup : (scored M userPreferences rooms).Nodup :=
    (distinct.filter _).map (fun d e h => congrArg ScoredProperty.property h)
  constructor
  · refine (top_nodup _ _ S hnodup).map_on ?_
    intro x hx y hy hxy
    obtain ⟨_, _, hsx⟩ := mem_scored (mem_taken S hx)
    obtain ⟨_, _, hsy⟩ := mem_scored (mem_taken S hy)
    cases x
    cases y
    simp_all
  · rw [List.length_map, taken, length_top, scored, List.length_map, List.countP_eq_length_filter]
  · intro d hd
    have hmem := mem_scored (mem_taken S ((mem_taken_iff S).mp hd))
    exact ⟨hmem.1, hmem.2.1⟩
  · rw [List.pairwise_map]
    refine (top_pairwise _ _ S _ _).imp_of_mem ?_
    intro x y hx hy hxy
    obtain ⟨_, hq, hsx⟩ := mem_scored (mem_taken S hx)
    obtain ⟨_, _, hsy⟩ := mem_scored (mem_taken S hy)
    rw [← hsx, ← hsy]
    exact Double.le_of_compareTo hxy (hsx ▸ score_ne_nan hq)
  · intro d hd hq hout e he
    have hetaken := (mem_taken_iff S).mp he
    have hcompare := top_largest _ _ S (scored_of_qualifies hd hq)
      (fun h => hout ((mem_taken_iff S).mpr h)) hetaken
    exact Double.le_of_compareTo hcompare (score_ne_nan (mem_scored (mem_taken S hetaken)).2.1)

theorem taken_scores_eq (S' : ListSort) {rooms' : List (DocumentSnapshot K)}
    (h : rooms'.Perm rooms) :
    (taken M S' userPreferences rooms' limit).map ScoredProperty.score =
      (taken M S userPreferences rooms limit).map ScoredProperty.score :=
  top_keys_eq _ _ S S' ((h.filter _).map _)

end Selection

/-- `getRecommendations` selects the top rooms by the stored preferences,
whatever documents are stored and however the sort treats ties. -/
theorem getRecommendations_topN {K : Type} [Field K] [LinearOrder K] [IsStrictOrderedRing K]
    (M : Functions K) (S : ListSort) (userPreference : Collection String (Map K))
    (uid : Option String) (rooms : List (DocumentSnapshot K)) (distinct : rooms.Nodup)
    (documents : ∀ d ∈ rooms, IsRoomDocument d) (limit : Nat) :
    ∃ userPreferences result, StoredPreferences userPreference uid userPreferences ∧
      getRecommendations M S userPreference uid rooms limit = .ok result ∧
      TopN M userPreferences rooms limit result ∧
      ∀ (S' : ListSort) (rooms' : List (DocumentSnapshot K)), rooms'.Perm rooms →
        ∃ result', getRecommendations M S' userPreference uid rooms' limit = .ok result' ∧
          result'.map (scoreOf M userPreferences) = result.map (scoreOf M userPreferences) := by
  refine ⟨_, _, storedPreferences_getUserPreferences userPreference uid,
    getRecommendations_eq M S userPreference uid documents limit, taken_topN S distinct, ?_⟩
  intro S' rooms' hperm
  refine ⟨_, getRecommendations_eq M S' userPreference uid
    (fun d hd => documents d (hperm.subset hd)) limit, ?_⟩
  rw [taken_scores, taken_scores, taken_scores_eq S S' hperm]

/-- The store after the sample user has asked for a gym. -/
noncomputable def gymStore : Collection String (Map ℝ) :=
  savePreferences Collection.empty sampleUser
    (samplePreferences ["Gym"] gym_known).toPreferences

def twoRooms : List (DocumentSnapshot ℝ) :=
  [⟨"r1", (sampleRoom ["Gym"]).toRooms.toJson⟩,
    ⟨"r2", (sampleRoom []).toRooms.toJson⟩]

theorem twoRooms_distinct : twoRooms.Nodup := by
  rw [twoRooms, List.nodup_cons, List.mem_singleton]
  refine ⟨fun h => ?_, List.nodup_singleton _⟩
  exact absurd (congrArg Doc.id h) (by decide)

theorem twoRooms_documents : ∀ d ∈ twoRooms, IsRoomDocument d := by
  intro d hd
  rcases List.mem_pair.mp hd with rfl | rfl
  · exact ⟨_, rfl⟩
  · exact ⟨_, rfl⟩

theorem gymStore_preferences {userPreferences : Option (Preferences ℝ)}
    (h : StoredPreferences gymStore (some "tenant") userPreferences) :
    userPreferences = some (forRecommender (samplePreferences ["Gym"] gym_known)) := by
  rw [storedPreferences_unique h (storedPreferences_getUserPreferences _ _)]
  exact getUserPreferences_saved Collection.empty sampleUser (samplePreferences ["Gym"] gym_known)

theorem gym_perfectMatch :
    PerfectMatch (samplePreferences ["Gym"] gym_known) (sampleRoom ["Gym"]) := by
  refine ⟨rfl, rfl, ⟨rfl, ?_⟩, rfl, fun a => Iff.rfl, sample_distance⟩
  rw [samplePreferences, Double.gt_fin_fin, decide_eq_true_eq]
  norm_num

/-- The room with the gym scores `1`, the other one `0.85`. -/
theorem twoRooms_scores :
    scoreOf Functions.real (some (forRecommender (samplePreferences ["Gym"] gym_known)))
        (postedSnapshot "r1" (sampleRoom ["Gym"])) = .fin 1 ∧
      scoreOf Functions.real (some (forRecommender (samplePreferences ["Gym"] gym_known)))
        (postedSnapshot "r2" (sampleRoom [])) = .fin (85 / 100) := by
  have hprice := perfect_priceScore gym_perfectMatch (fun h => by cases h)
  have hbase := perfect_baseScore Functions.real gym_perfectMatch
  rw [hprice] at hbase
  constructor
  · rw [scoreOf, perfect_score _ gym_perfectMatch _ (Or.inl (List.cons_ne_nil _ _)), hprice]
    norm_num
  · have hsame : baseScore Functions.real (samplePreferences ["Gym"] gym_known) (sampleRoom []) =
        4 / 10 + 1 * (3 / 10) + 15 / 100 := hbase
    rw [scoreOf, calculateSimilarityScore_fin _ _ _ _ (Or.inl (List.cons_ne_nil _ _)), hsame]
    simp only [sampleRoom, List.toFinset_nil, Finset.inter_empty, Finset.card_empty]
    norm_num

theorem twoRooms_best {result : List (DocumentSnapshot ℝ)}
    (h : TopN Functions.real (some (forRecommender (samplePreferences ["Gym"] gym_known))) twoRooms
      1 result) : result = [postedSnapshot "r1" (sampleRoom ["Gym"])] := by
  obtain ⟨hgym, hother⟩ := twoRooms_scores
  have hqualifies : qualifies Functions.real
      (some (forRecommender (samplePreferences ["Gym"] gym_known)))
      (postedSnapshot "r1" (sampleRoom ["Gym"])) = true := by
    rw [qualifies, hgym, Double.gt_fin_fin, decide_eq_true_eq]
    norm_num
  have hcount : 1 ≤ twoRooms.countP (qualifies Functions.real
      (some (forRecommender (samplePreferences ["Gym"] gym_known)))) :=
    List.countP_pos_iff.mpr ⟨_, List.mem_cons_self, hqualifies⟩
  obtain ⟨d, rfl⟩ := List.length_eq_one_iff.mp (h.length.trans (min_eq_left hcount))
  rcases List.mem_pair.mp (h.qualifying d List.mem_cons_self).1 with rfl | rfl
  · rfl
  · -- the other room would have to score at least as much
    have hle := h.best _ List.mem_cons_self hqualifies
      (fun hmem => absurd (congrArg Doc.id (List.mem_singleton.mp hmem)) (by decide)) _
      List.mem_cons_self
    change (scoreOf _ _ (postedSnapshot "r1" _)).le (scoreOf _ _ (postedSnapshot "r2" _)) = true
      at hle
    rw [hgym, hother, Double.le_fin_fin, decide_eq_true_eq] at hle
    norm_num at hle

/-- Of the two rooms the one with the gym is recommended. -/
theorem getRecommendations_topN_two_rooms :
    ∃ userPreferences, StoredPreferences gymStore (some "tenant") userPreferences ∧
      getRecommendations Functions.real insertionSort gymStore (some "tenant") twoRooms 1 =
        .ok [postedSnapshot "r1" (sampleRoom ["Gym"])] ∧
      TopN Functions.real userPreferences twoRooms 1
        [postedSnapshot "r1" (sampleRoom ["Gym"])] := by
  obtain ⟨userPreferences, result, hstored, hresult, htop, _⟩ :=
    getRecommendations_topN Functions.real insertionSort
      gymStore (some "tenant") twoRooms twoRooms_distinct twoRooms_documents 1
  have hone : result = [postedSnapshot "r1" (sampleRoom ["Gym"])] := by
    rw [gymStore_preferences hstored] at htop
    exact twoRooms_best htop
  rw [hone] at hresult htop
  exact ⟨userPreferences, hstored, hresult, htop⟩

end Recommendations
