import Gharsathi.AsyncBuilder
import Gharsathi.Recommendations
import Gharsathi.RoomLifecycle

/-!
# The recommendations on the home screen

Every rebuild of the tenant's home screen calls `getRecommendations` anew. The
call reads the preferences, then the rooms, and the world may change in between:
any number of landlords post, move and delete rooms, and preferences are saved.
A preference read that fails gives no recommendations, a room read that fails is
an error. What is shown belongs to the last rebuild.
-/

namespace RecommendationFeed

open AsyncBuilder DartDouble DartMath DartSort DartValues FirestoreCollection Models OwnRoomPage
open PreferenceServices RecommendationSys RecordHistory Recommendations RoomLifecycle Runs
open SimilarityScore
open PostingScreen (Pick)
open SharedStore (System)

/-- `saves`, the preferences of each user that were saved, is kept beside the
program's state. -/
structure World (K : Type) where
  rooms : Store K
  userPreference : Collection String (Map K)
  saves : List (String × SavedPreferences K)

/-- What a call of `getRecommendations` ends with; `noPreferences` is the empty
list after a failed read of the preferences. -/
inductive Answer (K : Type) where
  | noPreferences
  | unavailable
  | threw
  | docs (docs : List (DocumentSnapshot K))

inductive Call (K : Type) where
  | readingPreferences
  | readingRooms (userPreferences : Preferences K)
  | ended

inductive Panel (K : Type) where
  | waiting
  | errorLoading
  | noneAvailable
  | cards (docs : List (DocumentSnapshot K))

/-- One home screen among the landlords' devices, with the calls in the order in
which the builder asked for them. -/
structure State (K ι : Type) where
  world : World K
  landlords : ι → RoomLifecycle.Device K
  currentUser : Option String
  feed : Builder (Option String) (Answer K) (World K)
  calls : List (Call K)

/-- `save` is a save of anybody's preferences that goes through. -/
inductive Action (K ι : Type) where
  | landlord (a : ι × RoomLifecycle.Action K)
  | save (user : User) (preferences : SavedPreferences K)
  | session (uid : Option String)
  | build
  | leave
  | read (i : Nat)
  | readFails (i : Nat)
  | arrive (k : Nat)

section Machine
variable {K ι : Type} [Field K] [LinearOrder K] [DecidableEq ι]

/-- `getRecommendations` from the second read on. -/
def rankRooms (M : Functions K) (S : ListSort) (userPreferences : Preferences K)
    (rooms : List (DocumentSnapshot K)) (limit : Nat) : Result (List (DocumentSnapshot K)) := do
  let scoredProperties ← scoreProperties M userPreferences rooms []
  let sorted := S.sort (fun a b => Double.compareTo b.score a.score) scoredProperties
  return (sorted.take limit).map ScoredProperty.property

def answerOf : Result (List (DocumentSnapshot K)) → Answer K
  | .ok docs => .docs docs
  | .error _ => .threw

/-- The default of the parameter `limit`. -/
def limit : Nat := 10

def initial : State K ι :=
  ⟨⟨initialStore, Collection.empty, []⟩, fun _ => newDevice, none, Builder.new, []⟩

def State.enter (s : State K ι) (world : World K) : State K ι :=
  { s with world := world, feed := s.feed.changed world }

def State.finish (s : State K ι) (i : Nat) (r : Answer K) : State K ι :=
  { s with feed := s.feed.answer i r, calls := s.calls.set i .ended }

/-- The next read of a call. -/
def State.read (M : Functions K) (S : ListSort) (s : State K ι) (i : Nat) (uid : Option String) :
    Call K → Option (State K ι)
  | .readingPreferences =>
    match getUserPreferences s.world.userPreference uid with
    | none => some (s.finish i (.docs []))
    | some userPreferences =>
      some { s with calls := s.calls.set i (.readingRooms userPreferences) }
  | .readingRooms userPreferences =>
    some (s.finish i (answerOf (rankRooms M S userPreferences s.world.rooms.rooms.docs limit)))
  | .ended => none

/-- A read fails; the one of the preferences is caught. -/
def State.readFails (s : State K ι) (i : Nat) : Call K → Option (State K ι)
  | .readingPreferences => some (s.finish i .noPreferences)
  | .readingRooms _ => some (s.finish i .unavailable)
  | .ended => none

def step (M : Functions K) (S : ListSort) (s : State K ι) : Action K ι → Option (State K ι)
  | .landlord a =>
    match SharedStore.step deviceStep ⟨s.world.rooms, s.landlords⟩ a with
    | none => none
    | some t =>
      some (State.enter { s with landlords := t.devices } { s.world with rooms := t.store })
  | .save user preferences =>
    some (s.enter { s.world with
      userPreference := savePreferences s.world.userPreference user preferences.toPreferences
      saves := s.world.saves ++ [(user.uid, preferences)] })
  | .session uid => some { s with currentUser := uid }
  | .build =>
    some { s with
      feed := s.feed.ask s.currentUser s.world
      calls := s.calls ++ [.readingPreferences] }
  | .leave => some { s with feed := s.feed.leave }
  | .read i =>
    match s.feed.questions[i]?, s.calls[i]? with
    | some uid, some call => s.read M S i uid call
    | _, _ => none
  | .readFails i =>
    match s.calls[i]? with
    | none => none
    | some call => s.readFails i call
  | .arrive k =>
    match s.feed.arrive k with
    | none => none
    | some feed => some { s with feed := feed }

def State.panel (s : State K ι) : Panel K :=
  match s.feed.shown with
  | none => .waiting
  | some .unavailable => .errorLoading
  | some .threw => .errorLoading
  | some .noPreferences => .noneAvailable
  | some (.docs []) => .noneAvailable
  | some (.docs (d :: docs)) => .cards (d :: docs)

end Machine

section Worlds
variable {K : Type}

/-- The preferences that were saved last for a user. -/
def lastSaved (saves : List (String × SavedPreferences K)) (uid : String) :
    Option (SavedPreferences K) :=
  ((saves.filter (fun save => decide (save.1 = uid))).getLast?).map Prod.snd

/-- A room that was posted and not deleted, as its changes have left it. -/
def IsPosted (history : List (Entry K)) (d : DocumentSnapshot K) : Prop :=
  ∃ owner room, PostedBy history owner d.id room ∧
    (∀ owner', (owner', Event.remove d.id) ∉ history) ∧
    d.data = (changesOf d.id (eventsOf history)).foldl relocated room.toJson

theorem lastSaved_concat (saves : List (String × SavedPreferences K)) (user uid : String)
    (p : SavedPreferences K) :
    lastSaved (saves ++ [(user, p)]) uid = if user = uid then some p else lastSaved saves uid := by
  unfold lastSaved
  rw [List.filter_append]
  by_cases h : user = uid
  · simp [h]
  · simp [h]

/-- What the recommender reads depends on the user's document only. -/
theorem getUserPreferences_congr {userPreference userPreference' : Collection String (Map K)}
    {uid : Option String}
    (h : ∀ u, uid = some u → userPreference.get? u = userPreference'.get? u) :
    getUserPreferences userPreference uid = getUserPreferences userPreference' uid := by
  cases uid with
  | none => rfl
  | some u => simp only [getUserPreferences, Option.bind_some, h u rfl]

/-- Moving a room leaves the document of a room. -/
theorem relocated_toJson (room : Rooms K) (pick : Pick K) :
    relocated room.toJson pick =
      Rooms.toJson { room with
        location := some (locationMap pick.address pick.latitude pick.longitude) } := by
  simp [relocated, LocationChange.setField, Rooms.toJson, Map.containsKey, Value.ofMapOrNull]

theorem isRoomDocument_relocations (room : Rooms K) (picks : List (Pick K)) :
    ∃ r : Rooms K, picks.foldl relocated room.toJson = r.toJson := by
  induction picks generalizing room with
  | nil => exact ⟨room, rfl⟩
  | cons pick picks ih =>
    rw [List.foldl_cons, relocated_toJson]
    exact ih _

variable [IntCast K]

structure WorldOk (w : World K) : Prop where
  store : StoreOk w.rooms
  preferences : ∀ uid, w.userPreference.get? uid =
    (lastSaved w.saves uid).map (fun p => p.toPreferences.toJson)

theorem WorldOk.getUserPreferences_eq {w : World K} (ok : WorldOk w) (uid : Option String) :
    getUserPreferences w.userPreference uid =
      (uid.bind (lastSaved w.saves)).map forRecommender := by
  cases uid with
  | none => rfl
  | some u =>
    have hstored := ok.preferences u
    rw [Option.bind_some]
    cases hlast : lastSaved w.saves u with
    | none =>
      rw [hlast] at hstored
      simp only [getUserPreferences, Option.bind_some, hstored, Option.map_none]
    | some p =>
      rw [hlast] at hstored
      rw [Option.map_some, ← getUserPreferences_saved w.userPreference ⟨u, none⟩ p]
      refine getUserPreferences_congr (fun v hv => ?_)
      cases hv
      rw [hstored, get?_savePreferences]
      rfl

theorem WorldOk.saved {w : World K} (ok : WorldOk w) (user : User) (p : SavedPreferences K) :
    WorldOk ⟨w.rooms, savePreferences w.userPreference user p.toPreferences,
      w.saves ++ [(user.uid, p)]⟩ where
  store := ok.store
  preferences uid := by
    rw [savePreferences, Collection.get?_set, lastSaved_concat]
    by_cases h : user.uid = uid
    · rw [if_pos h, if_pos h]
      rfl
    · rw [if_neg h, if_neg h]
      exact ok.preferences uid

theorem mem_rooms_iff_isPosted {store : Store K} (ok : StoreOk store) (d : DocumentSnapshot K) :
    d ∈ store.rooms.docs ↔ IsPosted store.history d := by
  rw [← Collection.get?_eq_some_iff, ok.get?_eq_some_iff]
  rfl

theorem isRoomDocument_of_mem {store : Store K} (ok : StoreOk store) {d : DocumentSnapshot K}
    (hd : d ∈ store.rooms.docs) : IsRoomDocument d := by
  obtain ⟨_, room, _, _, hdata⟩ := (mem_rooms_iff_isPosted ok d).mp hd
  obtain ⟨r, hr⟩ := isRoomDocument_relocations room (changesOf d.id (eventsOf store.history))
  exact ⟨r, hdata.trans hr⟩

end Worlds

section Answers
variable {K ι : Type} [Field K] [LinearOrder K] {M : Functions K} {S : ListSort}

theorem getRecommendations_of_preferences {userPreference : Collection String (Map K)}
    {uid : Option String} {userPreferences : Preferences K}
    (h : getUserPreferences userPreference uid = some userPreferences)
    (rooms : List (DocumentSnapshot K)) (limit : Nat) :
    getRecommendations M S userPreference uid rooms limit =
      rankRooms M S userPreferences rooms limit := by
  unfold getRecommendations
  rw [h]
  rfl

theorem mem_scoreProperties {userPreferences : Preferences K} {rooms : List (DocumentSnapshot K)}
    {kept scored : List (ScoredProperty K)}
    (h : scoreProperties M userPreferences rooms kept = .ok scored) {x : ScoredProperty K}
    (hx : x ∈ scored) : x ∈ kept ∨ x.property ∈ rooms := by
  induction rooms generalizing kept with
  | nil =>
    cases h
    exact Or.inl hx
  | cons d rooms ih =>
    obtain ⟨score, _, hrest⟩ := bind_eq_ok.mp h
    split at hrest
    · rcases ih hrest with hkept | hrooms
      · rcases List.mem_append.mp hkept with hold | hnew
        · exact Or.inl hold
        · cases List.mem_singleton.mp hnew
          exact Or.inr List.mem_cons_self
      · exact Or.inr (List.mem_cons_of_mem _ hrooms)
    · exact (ih hrest).imp_right (List.mem_cons_of_mem _)

/-- Whatever is recommended is one of the rooms. -/
theorem mem_rankRooms {userPreferences : Preferences K} {rooms docs : List (DocumentSnapshot K)}
    {limit : Nat} (h : rankRooms M S userPreferences rooms limit = .ok docs)
    {d : DocumentSnapshot K} (hd : d ∈ docs) : d ∈ rooms := by
  obtain ⟨scored, hscored, h⟩ := bind_eq_ok.mp h
  cases h
  obtain ⟨x, hx, rfl⟩ := List.mem_map.mp hd
  have hin : x ∈ scored := (S.perm _ _).subset (List.mem_of_mem_take hx)
  exact (mem_scoreProperties hscored hin).resolve_left List.not_mem_nil

def Reads (w : World K) (uid : Option String) (userPreferences : Option (Preferences K)) : Prop :=
  getUserPreferences w.userPreference uid = userPreferences

def Ranks (M : Functions K) (S : ListSort) (w : World K) :
    Option (Preferences K) → Answer K → Prop
  | none, r => r = .docs []
  | some userPreferences, r =>
    r = answerOf (rankRooms M S userPreferences w.rooms.rooms.docs limit)

/-- A call whose reads go through reads the preferences and then the rooms. -/
def Gives (M : Functions K) (S : ListSort) (worlds : List (World K)) (uid : Option String)
    (r : Answer K) : Prop :=
  r = .noPreferences ∨ r = .unavailable ∨ Builder.InTurn Reads (Ranks M S) worlds uid r

theorem Gives.grows {worlds : List (World K)} {uid : Option String} {r : Answer K}
    (h : Gives M S worlds uid r) (w : World K) : Gives M S (worlds ++ [w]) uid r :=
  h.imp_right (Or.imp_right (fun hturn => hturn.grows w))

/-- The best rooms that `now` holds by what the user had saved in `past`. -/
structure Ranked (M : Functions K) (uid : Option String) (past now : World K)
    (docs : List (DocumentSnapshot K)) : Prop where
  unsaved : uid.bind (lastSaved past.saves) = none → docs = []
  best : ∀ p, uid.bind (lastSaved past.saves) = some p →
    TopN M (some (forRecommender p)) now.rooms.rooms.docs limit docs
  posted : ∀ d ∈ docs, IsPosted now.rooms.history d

variable [IsStrictOrderedRing K]

/-- Whatever landlords have stored can be scored, so no call throws. -/
theorem ranked_of_looks {uid : Option String} {past now : World K} (hpast : WorldOk past)
    (hnow : WorldOk now) {userPreferences : Option (Preferences K)} {r : Answer K}
    (hreads : Reads past uid userPreferences) (hranks : Ranks M S now userPreferences r) :
    ∃ docs, r = .docs docs ∧ Ranked M uid past now docs := by
  rw [Reads, hpast.getUserPreferences_eq] at hreads
  subst hreads
  cases hsaved : uid.bind (lastSaved past.saves) with
  | none =>
    rw [hsaved] at hranks
    refine ⟨[], hranks, fun _ => rfl, ?_, fun _ hd => absurd hd List.not_mem_nil⟩
    intro p hp
    cases hsaved.symm.trans hp
  | some p =>
    rw [hsaved] at hranks
    have hread : getUserPreferences past.userPreference uid = some (forRecommender p) := by
      rw [hpast.getUserPreferences_eq, hsaved]
      rfl
    have hdocs := getRecommendations_eq M S past.userPreference uid
      (fun d hd => isRoomDocument_of_mem hnow.store hd) limit
    have htop : TopN M (some (forRecommender p)) now.rooms.rooms.docs limit _ :=
      taken_topN S now.rooms.rooms.docs_nodup
    rw [getRecommendations_of_preferences hread, hread] at hdocs
    have hr : r = answerOf (rankRooms M S (forRecommender p) now.rooms.rooms.docs limit) := hranks
    rw [hdocs] at hr
    refine ⟨_, hr, fun h => ?_, fun q hq => ?_, fun d hd => ?_⟩
    · cases hsaved.symm.trans h
    · cases hsaved.symm.trans hq
      exact htop
    · exact (mem_rooms_iff_isPosted hnow.store d).mp (htop.qualifying d hd).1

theorem Gives.ranked {worlds : List (World K)} {uid : Option String} {r : Answer K}
    (h : Gives M S worlds uid r) (ok : ∀ w ∈ worlds, WorldOk w) :
    r = .noPreferences ∨ r = .unavailable ∨ ∃ before now after past docs,
      worlds = before ++ now :: after ∧ past ∈ before ++ [now] ∧ r = .docs docs ∧
        Ranked M uid past now docs := by
  refine h.imp_right (Or.imp_right ?_)
  rintro ⟨before, now, after, userPreferences, rfl, ⟨past, hpast, hreads⟩, hranks⟩
  have hsub : past ∈ before ++ now :: after := by
    rw [List.append_cons]
    exact List.mem_append_left _ hpast
  have hmem : now ∈ before ++ now :: after := List.mem_append_right _ List.mem_cons_self
  obtain ⟨docs, hr, hranked⟩ := ranked_of_looks (ok past hsub) (ok now hmem) hreads hranks
  exact ⟨before, now, after, past, docs, rfl, hpast, hr, hranked⟩

end Answers

section Invariants
variable {K ι : Type} [Field K] [LinearOrder K] {M : Functions K} {S : ListSort}

/-- A call of the current source that has its preferences read them from a world
since the rebuild. -/
structure Ok (M : Functions K) (S : ListSort) (s : State K ι) : Prop where
  world : WorldOk s.world
  landlords : ∀ i, DeviceOk s.world.rooms (s.landlords i)
  past : ∀ w ∈ s.feed.worlds, WorldOk w
  faithful : s.feed.Faithful (Gives M S) s.world
  calls : s.calls.length = s.feed.questions.length
  reading : ∀ i uid userPreferences, s.feed.source = some i → s.feed.questions[i]? = some uid →
    s.calls[i]? = some (.readingRooms userPreferences) →
    ∃ past ∈ s.feed.worlds, Reads past uid (some userPreferences)

theorem Ok.enter {s : State K ι} (ok : Ok M S s) {world : World K} (worldOk : WorldOk world)
    {landlords : ι → RoomLifecycle.Device K} (devices : ∀ i, DeviceOk world.rooms (landlords i)) :
    Ok M S (State.enter { s with landlords := landlords } world) where
  world := worldOk
  landlords := devices
  past w hw := by
    rcases List.mem_append.mp hw with hold | hnew
    · exact ok.past w hold
    · cases List.mem_singleton.mp hnew
      exact worldOk
  faithful := ok.faithful.changed world (fun _ _ h => h.grows world)
  calls := ok.calls
  reading i uid userPreferences hsource hquestion hcall := by
    obtain ⟨past, hpast, hreads⟩ := ok.reading i uid userPreferences hsource hquestion hcall
    exact ⟨past, List.mem_append_left _ hpast, hreads⟩

/-- A call goes on to `call`. -/
theorem Ok.setCall {s : State K ι} (ok : Ok M S s) {i : Nat} {call : Call K}
    {feed : Builder (Option String) (Answer K) (World K)}
    (hquestions : feed.questions = s.feed.questions) (hsource : feed.source = s.feed.source)
    (hworlds : feed.worlds = s.feed.worlds) (faithful : feed.Faithful (Gives M S) s.world)
    (hcall : ∀ uid userPreferences, s.feed.source = some i → s.feed.questions[i]? = some uid →
      call = .readingRooms userPreferences →
      ∃ past ∈ s.feed.worlds, Reads past uid (some userPreferences)) :
    Ok M S { s with feed := feed, calls := s.calls.set i call } where
  world := ok.world
  landlords := ok.landlords
  past w hw := ok.past w (hworlds ▸ hw)
  faithful := faithful
  calls := by
    rw [List.length_set, ok.calls, hquestions]
  reading j uid userPreferences hj hquestion hget := by
    rw [hsource] at hj
    rw [hquestions] at hquestion
    rw [hworlds]
    rcases getElem?_set_cases hget with ⟨rfl, hnew⟩ | hold
    · exact hcall uid userPreferences hj hquestion hnew.symm
    · exact ok.reading j uid userPreferences hj hquestion hold.2

/-- A call ends with an answer it may give. -/
theorem Ok.finish {s : State K ι} (ok : Ok M S s) {i : Nat} {uid : Option String} {r : Answer K}
    (hquestion : s.feed.questions[i]? = some uid)
    (hgives : s.feed.source = some i → Gives M S s.feed.worlds uid r) : Ok M S (s.finish i r) :=
  ok.setCall rfl rfl rfl (ok.faithful.answer hquestion hgives) (fun _ _ _ _ h => nomatch h)

/-- The current source has a question, and a world since to look at. -/
theorem Ok.now {s : State K ι} (ok : Ok M S s) {i : Nat} (hsource : s.feed.source = some i) :
    s.feed.worlds.getLast? = some s.world :=
  ok.faithful.now (by rw [hsource]; rfl)

theorem Ok.read {s t : State K ι} (ok : Ok M S s) {i : Nat} {uid : Option String} {call : Call K}
    (hquestion : s.feed.questions[i]? = some uid) (hcall : s.calls[i]? = some call)
    (h : s.read M S i uid call = some t) : Ok M S t := by
  cases call with
  | readingPreferences =>
    simp only [State.read] at h
    split at h
    · rename_i hnone
      cases h
      refine ok.finish hquestion (fun hsource => Or.inr (Or.inr ?_))
      exact Builder.InTurn.now (ok.now hsource)
        ⟨s.world, List.mem_of_getLast? (ok.now hsource), hnone⟩ rfl
    · rename_i userPreferences hsome
      cases h
      refine ok.setCall rfl rfl rfl ok.faithful ?_
      intro uid' userPreferences' hsource hquestion' hnew
      cases hnew
      cases hquestion.symm.trans hquestion'
      exact ⟨s.world, List.mem_of_getLast? (ok.now hsource), hsome⟩
  | readingRooms userPreferences =>
    cases h
    refine ok.finish hquestion (fun hsource => Or.inr (Or.inr ?_))
    exact Builder.InTurn.now (ok.now hsource)
      (ok.reading i uid userPreferences hsource hquestion hcall) rfl
  | ended => cases h

theorem Ok.readFails {s t : State K ι} (ok : Ok M S s) {i : Nat} {call : Call K}
    (hcall : s.calls[i]? = some call) (h : s.readFails i call = some t) : Ok M S t := by
  have hlt : i < s.feed.questions.length :=
    ok.calls ▸ (List.getElem?_eq_some_iff.mp hcall).1
  have hquestion := List.getElem?_eq_getElem hlt
  cases call with
  | readingPreferences =>
    cases h
    exact ok.finish hquestion (fun _ => Or.inl rfl)
  | readingRooms userPreferences =>
    cases h
    exact ok.finish hquestion (fun _ => Or.inr (Or.inl rfl))
  | ended => cases h

/-- The new call has read nothing yet. -/
theorem Ok.build {s : State K ι} (ok : Ok M S s) :
    Ok M S { s with
      feed := s.feed.ask s.currentUser s.world
      calls := s.calls ++ [.readingPreferences] } where
  world := ok.world
  landlords := ok.landlords
  past w hw := by
    cases List.mem_singleton.mp hw
    exact ok.world
  faithful := ok.faithful.ask s.currentUser
  calls := by
    simp only [Builder.ask, List.length_append, List.length_singleton, ok.calls]
  reading i uid userPreferences hsource _ hcall := by
    cases hsource
    rcases getElem?_concat_cases hcall with hold | ⟨_, hnew⟩
    · rw [← ok.calls, List.getElem?_eq_none (Nat.le_refl _)] at hold
      cases hold
    · cases hnew

theorem Ok.arrive {s : State K ι} (ok : Ok M S s) {k : Nat}
    {feed : Builder (Option String) (Answer K) (World K)} (h : s.feed.arrive k = some feed) :
    Ok M S { s with feed := feed } := by
  obtain ⟨hquestions, hsource, hworlds, _⟩ := Builder.arrive_kept h
  refine ⟨ok.world, ok.landlords, fun w hw => ok.past w (hworlds ▸ hw), ok.faithful.arrive h,
    ok.calls.trans (congrArg List.length hquestions.symm), ?_⟩
  intro i uid userPreferences hi hquestion hcall
  rw [hsource] at hi
  rw [hquestions] at hquestion
  rw [hworlds]
  exact ok.reading i uid userPreferences hi hquestion hcall

theorem initial_ok : Ok M S (initial : State K ι) where
  world := ⟨⟨fun _ => rfl, .start⟩, fun _ => rfl⟩
  landlords _ := ⟨nofun, fun _ h => absurd h List.not_mem_nil, fun _ h => absurd h List.not_mem_nil⟩
  past _ h := absurd h List.not_mem_nil
  faithful := Builder.faithful_new _
  calls := rfl
  reading _ _ _ h := nomatch h

variable [DecidableEq ι]

theorem step_ok {s t : State K ι} {a : Action K ι} (ok : Ok M S s) (h : step M S s a = some t) :
    Ok M S t := by
  cases a with
  | landlord a =>
    simp only [step] at h
    split at h
    · cases h
    · rename_i u hstep
      cases h
      obtain ⟨store, devices, _⟩ := guarantees.step ok.world.store ok.landlords hstep
      have worldOk : WorldOk { s.world with rooms := u.store } := ⟨store, ok.world.preferences⟩
      exact ok.enter worldOk devices
  | save user preferences =>
    cases h
    exact ok.enter (ok.world.saved user preferences) ok.landlords
  | session uid =>
    cases h
    exact ⟨ok.world, ok.landlords, ok.past, ok.faithful, ok.calls, ok.reading⟩
  | build =>
    cases h
    exact ok.build
  | leave =>
    cases h
    exact ⟨ok.world, ok.landlords, fun w hw => absurd hw List.not_mem_nil, ok.faithful.leave,
      ok.calls, fun _ _ _ h => nomatch h⟩
  | read i =>
    simp only [step] at h
    split at h
    · rename_i uid call hquestion hcall
      exact ok.read hquestion hcall h
    · cases h
  | readFails i =>
    simp only [step] at h
    split at h
    · cases h
    · rename_i call hcall
      exact ok.readFails hcall h
  | arrive k =>
    simp only [step] at h
    split at h
    · cases h
    · rename_i feed harrive
      cases h
      exact ok.arrive harrive

theorem run_ok {acts : List (Action K ι)} {s : State K ι}
    (hrun : run (step M S) initial acts = some s) : Ok M S s :=
  run_invariant (Ok M S) (fun _ _ _ => step_ok) hrun initial_ok

end Invariants

section Systems
variable {K ι : Type} [Field K] [LinearOrder K] [DecidableEq ι]

/-- Ranked for the user of the last rebuild, by the preferences that were the
last saved at some time since, among the rooms that were there then or later. -/
def RankedSince (M : Functions K) (s : State K ι) (docs : List (DocumentSnapshot K)) : Prop :=
  ∃ uid before now after past, s.feed.question = some uid ∧
    s.feed.worlds = before ++ now :: after ∧ past ∈ before ++ [now] ∧ Ranked M uid past now docs

/-- A room read that failed is the only error, and an empty row that was not
ranked comes from a failed read of the preferences. -/
def PanelOk (M : Functions K) (s : State K ι) : Panel K → Prop
  | .waiting => s.feed.shown = none
  | .errorLoading => s.feed.shown = some .unavailable
  | .noneAvailable => RankedSince M s [] ∨ s.feed.shown = some .noPreferences
  | .cards docs => RankedSince M s docs

omit [DecidableEq ι] in
theorem shown_ranked [IsStrictOrderedRing K] {M : Functions K} {S : ListSort} {s : State K ι}
    (ok : Ok M S s) {r : Answer K} (hshown : s.feed.shown = some r) :
    r = .noPreferences ∨ r = .unavailable ∨ ∃ docs, r = .docs docs ∧ RankedSince M s docs := by
  obtain ⟨uid, hasked⟩ := Option.isSome_iff_exists.mp (ok.faithful.heard (by rw [hshown]; rfl))
  refine ((ok.faithful.shown uid r hasked hshown).ranked ok.past).imp_right (Or.imp_right ?_)
  rintro ⟨before, now, after, past, docs, hworlds, hpast, hr, hranked⟩
  exact ⟨docs, hr, uid, before, now, after, past, hasked, hworlds, hpast, hranked⟩

/-- In every run the row of recommendations shows the best of the posted rooms,
whatever landlords have stored and whatever happened since the rebuild. -/
theorem feed_ranked [IsStrictOrderedRing K] (M : Functions K) (S : ListSort)
    (acts : List (Action K ι)) (s : State K ι) (hrun : run (step M S) initial acts = some s) :
    PanelOk M s s.panel := by
  have ranked := fun r => shown_ranked (r := r) (run_ok hrun)
  unfold State.panel
  cases hshown : s.feed.shown with
  | none => exact hshown
  | some r =>
    rcases ranked r hshown with rfl | rfl | ⟨docs, rfl, hranked⟩
    · exact Or.inr hshown
    · exact hshown
    · cases docs with
      | nil => exact Or.inl hranked
      | cons d docs => exact hranked

/-- Functions that are right about the one point that the runs below have. -/
def atOrigin : Functions ℚ where
  pi := 3
  sin _ := 0
  cos _ := 1
  asin _ := 0
  sqrt _ := 0
  sin_neg _ := rfl
  cos_sub _ _ := by norm_num
  sin_sq_add_cos_sq _ := by norm_num
  sqrt_zero := rfl
  sqrt_nonneg _ _ := le_refl _
  sqrt_le_one _ _ _ := zero_le_one
  asin_zero := rfl
  asin_nonneg _ _ _ := le_refl _

def roomAtOrigin : Rooms ℚ :=
  { postedRoom ["rooms/1.png"] with location := some (locationMap "Pier" (0 : ℚ) 0) }

def wantedAtOrigin : SavedPreferences ℚ where
  user := some "Hari"
  uid := "t1"
  address := "Pier"
  latitude := .fin 0
  longitude := .fin 0
  distance := .fin 5
  price := .fin 9000
  propertyType := "Room"
  amenities := ["Gym"]
  amenitiesKnown := gym_known

/-- Two rooms are posted between the two reads of a call. -/
def postedMeanwhile : List (Action ℚ Bool) :=
  [.save ⟨"t1", some "Hari"⟩ wantedAtOrigin, .session (some "t1"), .build, .read 0,
    .landlord (false, .session (some "l1")), .landlord (false, .post roomAtOrigin),
    .landlord (false, .proceed 0 "r1"), .landlord (false, .post roomAtOrigin),
    .landlord (false, .proceed 1 "r2"), .read 0, .arrive 0]

def cardIds (s : State ℚ Bool) : Option (List String) :=
  match s.panel with
  | .cards docs => some (docs.map Doc.id)
  | _ => none

theorem cards_of_cardIds {s : State ℚ Bool} {ids : List String} (h : cardIds s = some ids) :
    ∃ docs, s.panel = .cards docs ∧ docs.map Doc.id = ids := by
  unfold cardIds at h
  split at h
  · rename_i docs hpanel
    exact ⟨docs, hpanel, Option.some.inj h⟩
  · cases h

theorem feed_ranked_postedMeanwhile : ∃ s docs,
    run (step atOrigin insertionSort) initial postedMeanwhile = some s ∧
      docs.map Doc.id = ["r1", "r2"] ∧ RankedSince atOrigin s docs := by
  obtain ⟨s, hrun, hids⟩ := exists_of_check (step atOrigin insertionSort) initial postedMeanwhile
    (fun s => cardIds s = some ["r1", "r2"]) (by decide +kernel)
  obtain ⟨docs, hpanel, hdocs⟩ := cards_of_cardIds hids
  have hranked := feed_ranked atOrigin insertionSort postedMeanwhile s hrun
  rw [hpanel] at hranked
  exact ⟨s, docs, hrun, hdocs, hranked⟩

/-- A room is gone, now and in all that the feed may have looked at. -/
structure Gone (roomId : String) (s : State K ι) : Prop where
  now : ∃ owner, (owner, Event.remove roomId) ∈ s.world.rooms.history
  past : ∀ w ∈ s.feed.worlds, ∃ owner, (owner, Event.remove roomId) ∈ w.rooms.history

/-- The history goes on, and what the feed may look at that is new is the present. -/
theorem step_grows {M : Functions K} {S : ListSort} {s t : State K ι} {a : Action K ι}
    (ok : Ok M S s) (h : step M S s a = some t) :
    Grows s.world.rooms t.world.rooms ∧ ∀ w ∈ t.feed.worlds, w ∈ s.feed.worlds ∨ w = t.world := by
  have same : Grows s.world.rooms s.world.rooms := guarantees.refl _
  have entered : ∀ world, ∀ w ∈ s.feed.worlds ++ [world], w ∈ s.feed.worlds ∨ w = world :=
    fun world w hw => (List.mem_append.mp hw).imp_right List.mem_singleton.mp
  cases a with
  | landlord a =>
    simp only [step] at h
    split at h
    · cases h
    · rename_i u hstep
      cases h
      obtain ⟨_, _, grows⟩ := guarantees.step ok.world.store ok.landlords hstep
      exact ⟨grows, entered _⟩
  | save user preferences =>
    cases h
    exact ⟨same, entered _⟩
  | session uid =>
    cases h
    exact ⟨same, fun _ hw => Or.inl hw⟩
  | build =>
    cases h
    exact ⟨same, fun _ hw => Or.inr (List.mem_singleton.mp hw)⟩
  | leave =>
    cases h
    exact ⟨same, fun _ hw => absurd hw List.not_mem_nil⟩
  | read i =>
    simp only [step] at h
    split at h
    · rename_i uid call hquestion hcall
      cases call with
      | readingPreferences =>
        simp only [State.read] at h
        split at h
        · cases h
          exact ⟨same, fun _ hw => Or.inl hw⟩
        · cases h
          exact ⟨same, fun _ hw => Or.inl hw⟩
      | readingRooms userPreferences =>
        cases h
        exact ⟨same, fun _ hw => Or.inl hw⟩
      | ended => cases h
    · cases h
  | readFails i =>
    simp only [step] at h
    split at h
    · cases h
    · rename_i call hcall
      cases call with
      | ended => cases h
      | _ =>
        cases h
        exact ⟨same, fun _ hw => Or.inl hw⟩
  | arrive k =>
    simp only [step] at h
    split at h
    · cases h
    · rename_i feed harrive
      cases h
      obtain ⟨_, _, hworlds, _⟩ := Builder.arrive_kept harrive
      exact ⟨same, fun w hw => Or.inl (hworlds ▸ hw)⟩

theorem Gone.step {M : Functions K} {S : ListSort} {s t : State K ι} {a : Action K ι}
    {roomId : String} (gone : Gone roomId s) (ok : Ok M S s)
    (h : RecommendationFeed.step M S s a = some t) : Gone roomId t := by
  obtain ⟨grows, hworlds⟩ := step_grows ok h
  have hnow := gone.now.imp (fun _ hremove => grows.subset hremove)
  refine ⟨hnow, fun w hw => ?_⟩
  rcases hworlds w hw with hold | rfl
  · exact gone.past w hold
  · exact hnow

/-- From the first rebuild after its deletion was answered, a room is not
recommended any more. -/
theorem deleted_not_recommended [IsStrictOrderedRing K] (M : Functions K) (S : ListSort)
    (acts later : List (Action K ι)) (s t : State K ι)
    (hrun : run (step M S) initial acts = some s)
    (hlater : run (step M S) s (.build :: later) = some t) (i : ι) (roomId : String)
    (hdeleted : Task.deleted roomId ∈ (s.landlords i).tasks)
    (docs : List (DocumentSnapshot K)) (hpanel : t.panel = .cards docs) :
    ∀ d ∈ docs, d.id ≠ roomId := by
  have ok := run_ok hrun
  obtain ⟨u, hbuild, hrest⟩ := run_cons.mp hlater
  have hremove := (ok.landlords i).tasks _ hdeleted
  have hgone : Gone roomId u := by
    cases hbuild
    refine ⟨hremove, fun w hw => ?_⟩
    cases List.mem_singleton.mp hw
    exact hremove
  obtain ⟨_, gone⟩ := run_invariant (fun v => Ok M S v ∧ Gone roomId v)
    (fun v a v' hv hstep => ⟨step_ok hv.1 hstep, hv.2.step hv.1 hstep⟩) hrest
    ⟨step_ok ok hbuild, hgone⟩
  have hranked := feed_ranked M S _ t (run_append.mpr ⟨s, hrun, hlater⟩)
  rw [hpanel] at hranked
  obtain ⟨uid, before, now, after, past, _, hworlds, _, hranked⟩ := hranked
  have hmem : now ∈ t.feed.worlds := hworlds ▸ List.mem_append_right _ List.mem_cons_self
  obtain ⟨owner, hremove⟩ := gone.past now hmem
  intro d hd hid
  obtain ⟨_, _, _, hnever, _⟩ := hranked.posted d hd
  exact hnever owner (hid ▸ hremove)

def deletedOne : List (Action ℚ Bool) :=
  postedMeanwhile ++ [.landlord (false, .openList), .landlord (false, .deliver),
    .landlord (false, .openRoom 0), .landlord (false, .delete 0), .landlord (false, .proceed 2 "")]

theorem deleted_not_recommended_deletedOne : ∃ s t docs,
    run (step atOrigin insertionSort) initial deletedOne = some s ∧
      run (step atOrigin insertionSort) s [.build, .read 1, .read 1, .arrive 0] = some t ∧
      t.panel = .cards docs ∧ docs.map Doc.id = ["r2"] ∧ ∀ d ∈ docs, d.id ≠ "r1" := by
  obtain ⟨s, hrun, hdeleted, hlater⟩ := exists_of_check (step atOrigin insertionSort) initial
    deletedOne (fun s => (s.landlords false).tasks.any (fun task =>
        match task with
        | .deleted roomId => decide (roomId = "r1")
        | _ => false) = true ∧
      (run (step atOrigin insertionSort) s [.build, .read 1, .read 1, .arrive 0]).bind cardIds =
        some ["r2"]) (by decide +kernel)
  obtain ⟨t, ht, hids⟩ := Option.bind_eq_some_iff.mp hlater
  obtain ⟨docs, hpanel, hdocs⟩ := cards_of_cardIds hids
  obtain ⟨task, htask, hroom⟩ := List.any_eq_true.mp hdeleted
  cases task with
  | deleted roomId =>
    obtain rfl := of_decide_eq_true hroom
    exact ⟨s, t, docs, hrun, ht, hpanel, hdocs, deleted_not_recommended atOrigin insertionSort
      deletedOne _ s t hrun ht false "r1" htask docs hpanel⟩
  | _ => cases hroom

end Systems

end RecommendationFeed
