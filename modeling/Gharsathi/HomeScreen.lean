import Gharsathi.AsyncBuilder
import Gharsathi.DartText
import Gharsathi.RangeQuery
import Gharsathi.Runs

/-!
# The tenant's home screen

What is typed into the search field is trimmed and searched for among the
property types, by a range query that ends with `\uf8ff`. Every rebuild makes a
new stream of the query, whose answers may take their time; the list of all
rooms is fetched once, when the screen is opened, and a list that the filter
dialog returned stands in its place until the dialog returns none. Answers come
from the server: that Firestore may first answer from its cache is left out.
-/

namespace HomeScreen

open AsyncBuilder DartText DartValues FirestoreCollection RangeQuery Runs

/-- What a stream of the search sends. -/
inductive Answer (K : Type) where
  | error
  | docs (docs : List (DocumentSnapshot K))

inductive Panel (K : Type) where
  | hidden
  | waiting
  | errorLoading
  | noResults
  | results (docs : List (DocumentSnapshot K))

inductive RoomList (K : Type) where
  | filtered (rooms : List (Map K))
  | waiting
  | all (docs : List (DocumentSnapshot K))

/-- `posted` waits for the one fetch of `initState`. -/
structure State (K : Type) where
  rooms : Collection String (Map K)
  typed : String
  searchQuery : String
  search : Builder String (Answer K) (Collection String (Map K))
  posted : Builder Unit (List (DocumentSnapshot K)) (Collection String (Map K))
  filteredRooms : Option (List (Map K))

/-- `change` is what anybody does to the rooms; `dialogReturns` is a filter
dialog that was closed, with its result. -/
inductive Action (K : Type) where
  | change (rooms : Collection String (Map K))
  | onChanged (value : String)
  | rebuilt
  | dialogReturns (result : Option (List (Map K)))
  | searchAnswers (i : Nat)
  | searchFails (i : Nat)
  | searchArrives (k : Nat)
  | fetched
  | fetchFails
  | fetchArrives

section Machine
variable {K : Type}

def propertyType (d : DocumentSnapshot K) : Option String :=
  match Map.get d.data "propertyType" with
  | .str t => some t
  | _ => none

/-- `searchQuery + '\uf8ff'`. -/
def upperEnd (searchQuery : String) : String := searchQuery ++ "\uf8ff"

/-- The query of the search, by the property type and then by the id. -/
def searchResults (rooms : Collection String (Map K)) (searchQuery : String) :
    List (DocumentSnapshot K) :=
  range propertyType searchQuery (upperEnd searchQuery) rooms.docs

def initial (rooms : Collection String (Map K)) : State K :=
  ⟨rooms, "", "", Builder.new, Builder.new.ask () rooms, none⟩

/-- A rebuild of the search field; the list of all rooms keeps its future. -/
def State.rebuild (s : State K) : State K :=
  { s with
    search := if s.searchQuery = "" then s.search.leave else s.search.ask s.searchQuery s.rooms }

def step (s : State K) : Action K → Option (State K)
  | .change rooms =>
    some { s with
      rooms := rooms
      search := s.search.changed rooms
      posted := s.posted.changed rooms }
  | .onChanged value => some (State.rebuild { s with typed := value, searchQuery := trim value })
  | .rebuilt => some s.rebuild
  | .dialogReturns result => some (State.rebuild { s with filteredRooms := result })
  | .searchAnswers i =>
    match s.search.questions[i]? with
    | none => none
    | some searchQuery =>
      some { s with search := s.search.answer i (.docs (searchResults s.rooms searchQuery)) }
  | .searchFails i =>
    match s.search.questions[i]? with
    | none => none
    | some _ => some { s with search := s.search.answer i .error }
  | .searchArrives k =>
    match s.search.arrive k with
    | none => none
    | some search => some { s with search := search }
  | .fetched =>
    if s.posted.arriving.isEmpty && s.posted.shown.isNone then
      some { s with posted := s.posted.answer 0 s.rooms.docs }
    else none
  | .fetchFails =>
    if s.posted.arriving.isEmpty && s.posted.shown.isNone then
      some { s with posted := s.posted.answer 0 [] }
    else none
  | .fetchArrives =>
    match s.posted.arrive 0 with
    | none => none
    | some posted => some { s with posted := posted }

def State.searchPanel (s : State K) : Panel K :=
  if s.searchQuery = "" then .hidden
  else
    match s.search.shown with
    | none => .waiting
    | some .error => .errorLoading
    | some (.docs []) => .noResults
    | some (.docs (d :: docs)) => .results (d :: docs)

/-- The rows of the panel, if it shows an answer. -/
def Panel.docs : Panel K → Option (List (DocumentSnapshot K))
  | .noResults => some []
  | .results docs => some docs
  | _ => none

/-- The list below: the result of a filter dialog, or else what was fetched. -/
def State.roomList (s : State K) : RoomList K :=
  match s.filteredRooms, s.posted.shown with
  | some rooms, _ => .filtered rooms
  | none, some docs => .all docs
  | none, none => .waiting

end Machine

section Results
variable {K : Type}

/-- The type goes on after the query, and not beyond `\uf8ff`. -/
def Finds (searchQuery : String) (d : DocumentSnapshot K) : Prop :=
  ∃ rest, Map.get d.data "propertyType" = .str (searchQuery ++ rest) ∧ rest ≤ "\uf8ff"

theorem propertyType_eq_some_iff {d : DocumentSnapshot K} {t : String} :
    propertyType d = some t ↔ Map.get d.data "propertyType" = .str t := by
  unfold propertyType
  cases Map.get d.data "propertyType" <;> simp

theorem between_iff (searchQuery t : String) :
    (searchQuery ≤ t ∧ t ≤ upperEnd searchQuery) ↔
      ∃ rest, t = searchQuery ++ rest ∧ rest ≤ "\uf8ff" := by
  have hend : (upperEnd searchQuery).toList = searchQuery.toList ++ ['\uf8ff'] := by
    rw [upperEnd, String.toList_append]
    rfl
  rw [String.le_iff_toList_le, String.le_iff_toList_le, hend, mem_interval_iff]
  constructor
  · rintro ⟨rest, ht, hrest⟩
    refine ⟨String.ofList rest, ?_, ?_⟩
    · rw [← String.toList_inj, String.toList_append, String.toList_ofList, ht]
    · rw [String.le_iff_toList_le, String.toList_ofList]
      exact hrest
  · rintro ⟨rest, rfl, hrest⟩
    exact ⟨rest.toList, String.toList_append, String.le_iff_toList_le.mp hrest⟩

theorem mem_searchResults {rooms : Collection String (Map K)} {searchQuery : String}
    {d : DocumentSnapshot K} :
    d ∈ searchResults rooms searchQuery ↔ d ∈ rooms.docs ∧ Finds searchQuery d := by
  rw [searchResults, mem_range]
  refine and_congr_right (fun _ => ?_)
  simp only [propertyType_eq_some_iff, between_iff]
  constructor
  · rintro ⟨t, ht, rest, rfl, hrest⟩
    exact ⟨rest, ht, hrest⟩
  · rintro ⟨rest, ht, hrest⟩
    exact ⟨_, ht, rest, rfl, hrest⟩

/-- What the dropdown of the posting form offers. -/
def offeredTypes : List String := ["Apartment", "House", "Room"]

/-- Among the offered types the query finds those that start with its text. -/
theorem finds_offered_iff {d : DocumentSnapshot K} {t : String} (offered : t ∈ offeredTypes)
    (ht : Map.get d.data "propertyType" = .str t) (searchQuery : String) :
    Finds searchQuery d ↔ startsWith t searchQuery = true := by
  have below : ∀ u ∈ offeredTypes, ∀ c ∈ u.toList, c < '\uf8ff' := by simp [offeredTypes]
  rw [startsWith_iff]
  constructor
  · rintro ⟨rest, hrest, _⟩
    cases ht.symm.trans hrest
    exact ⟨rest.toList, String.toList_append⟩
  · rintro ⟨rest, hrest⟩
    have hsplit : t = searchQuery ++ String.ofList rest := by
      rw [← String.toList_inj, String.toList_append, String.toList_ofList, hrest]
    refine ⟨String.ofList rest, by rw [ht, hsplit], ?_⟩
    rw [String.le_iff_toList_le, String.toList_ofList]
    refine le_singleton_iff.mpr ?_
    cases rest with
    | nil => exact Or.inl rfl
    | cons c cs =>
      have hc : c ∈ t.toList := by
        rw [hrest]
        exact List.mem_append_right _ List.mem_cons_self
      exact Or.inr ⟨c, cs, rfl, Or.inl (below t offered c hc)⟩

/-- The order of the results. -/
def ByType (d e : DocumentSnapshot K) : Prop :=
  ∃ t u, propertyType d = some t ∧ propertyType e = some u ∧ (t < u ∨ (t = u ∧ d.id < e.id))

theorem searchResults_ordered (rooms : Collection String (Map K)) (searchQuery : String) :
    (searchResults rooms searchQuery).Pairwise ByType :=
  range_ordered rooms.ordered

end Results

section Invariants
variable {K : Type}

def SearchGives (rooms : Collection String (Map K)) (searchQuery : String) (r : Answer K) : Prop :=
  r = .error ∨ r = .docs (searchResults rooms searchQuery)

/-- A fetch that fails delivers no rooms; `failed` says that it may. -/
def FetchGives (failed : Prop) (rooms : Collection String (Map K)) (_question : Unit)
    (docs : List (DocumentSnapshot K)) : Prop :=
  docs = rooms.docs ∨ (docs = [] ∧ failed)

structure Ok (failed : Prop) (s : State K) : Prop where
  trimmed : s.searchQuery = trim s.typed
  asked : s.search.question = if s.searchQuery = "" then none else some s.searchQuery
  search : s.search.Faithful (Builder.AtOnce SearchGives) s.rooms
  posted : s.posted.Faithful (Builder.AtOnce (FetchGives failed)) s.rooms
  fetch : s.posted.questions = [()] ∧ s.posted.source = some 0
  single : s.posted.arriving.length ≤ 1
  once : s.posted.shown.isSome = true → s.posted.arriving = []

variable {failed : Prop}

theorem initial_ok (rooms : Collection String (Map K)) : Ok failed (initial rooms) where
  trimmed := show "" = trim "" by decide
  asked := rfl
  search := Builder.faithful_new rooms
  posted := (Builder.faithful_new rooms).ask ()
  fetch := ⟨rfl, rfl⟩
  single := Nat.zero_le _
  once h := nomatch h

theorem Ok.rebuild {s : State K} (ok : Ok failed s) {s' : State K}
    (trimmed : s'.searchQuery = trim s'.typed) (hsearch : s'.search = s.search)
    (hposted : s'.posted = s.posted) (hrooms : s'.rooms = s.rooms) : Ok failed s'.rebuild := by
  have search : s'.search.Faithful (Builder.AtOnce SearchGives) s'.rooms := by
    rw [hsearch, hrooms]
    exact ok.search
  refine ⟨trimmed, ?_, ?_, ?_, ?_, ?_, ?_⟩
  · by_cases hempty : s'.searchQuery = ""
    · simp only [State.rebuild, if_pos hempty]
      rfl
    · simp only [State.rebuild, if_neg hempty]
      exact Builder.question_ask _
  · by_cases hempty : s'.searchQuery = ""
    · simp only [State.rebuild, if_pos hempty]
      exact search.leave
    · simp only [State.rebuild, if_neg hempty]
      exact search.ask _
  · exact (hposted ▸ hrooms ▸ ok.posted :
      s'.posted.Faithful (Builder.AtOnce (FetchGives failed)) s'.rooms)
  · exact (hposted ▸ ok.fetch : s'.posted.questions = [()] ∧ s'.posted.source = some 0)
  · exact (hposted ▸ ok.single : s'.posted.arriving.length ≤ 1)
  · exact (hposted ▸ ok.once : s'.posted.shown.isSome = true → s'.posted.arriving = [])

/-- Something reaches the stream of the search. -/
theorem Ok.searched {s : State K} (ok : Ok failed s) {search : Builder String (Answer K) _}
    (faithful : search.Faithful (Builder.AtOnce SearchGives) s.rooms)
    (kept : search.question = s.search.question) : Ok failed { s with search := search } :=
  ⟨ok.trimmed, kept.trans ok.asked, faithful, ok.posted, ok.fetch, ok.single, ok.once⟩

/-- The one fetch is answered. -/
theorem Ok.fetchAnswered {s t : State K} (ok : Ok failed s) {docs : List (DocumentSnapshot K)}
    (gives : FetchGives failed s.rooms () docs)
    (h : (if s.posted.arriving.isEmpty && s.posted.shown.isNone then
      some { s with posted := s.posted.answer 0 docs } else none) = some t) : Ok failed t := by
  split at h
  · rename_i hopen
    cases h
    obtain ⟨hempty, hnone⟩ := Bool.and_eq_true_iff.mp hopen
    have hquestion : s.posted.questions[0]? = some () := by rw [ok.fetch.1]; rfl
    refine ⟨ok.trimmed, ok.asked, ok.search, ok.posted.answerNow hquestion gives, ok.fetch, ?_, ?_⟩
    · simp [Builder.answer, List.isEmpty_iff.mp hempty]
    · intro hshown
      have hcontra : s.posted.shown.isSome = true := hshown
      rw [Option.isNone_iff_eq_none.mp hnone] at hcontra
      cases hcontra
  · cases h

theorem step_ok {s t : State K} {a : Action K} (ok : Ok failed s) (may : a = .fetchFails → failed)
    (h : step s a = some t) : Ok failed t := by
  cases a with
  | change rooms =>
    cases h
    exact ⟨ok.trimmed, ok.asked, ok.search.changed rooms (fun _ _ h => h.grows rooms),
      ok.posted.changed rooms (fun _ _ h => h.grows rooms), ok.fetch, ok.single, ok.once⟩
  | onChanged value =>
    cases h
    exact ok.rebuild rfl rfl rfl rfl
  | rebuilt =>
    cases h
    exact ok.rebuild ok.trimmed rfl rfl rfl
  | dialogReturns result =>
    cases h
    exact ok.rebuild ok.trimmed rfl rfl rfl
  | searchAnswers i =>
    simp only [step] at h
    split at h
    · cases h
    · rename_i searchQuery hquestion
      cases h
      exact ok.searched (ok.search.answerNow hquestion (Or.inr rfl)) rfl
  | searchFails i =>
    simp only [step] at h
    split at h
    · cases h
    · rename_i searchQuery hquestion
      cases h
      exact ok.searched (ok.search.answerNow hquestion (Or.inl rfl)) rfl
  | searchArrives k =>
    simp only [step] at h
    split at h
    · cases h
    · rename_i search harrive
      cases h
      obtain ⟨hquestions, hsource, _⟩ := Builder.arrive_kept harrive
      refine ok.searched (ok.search.arrive harrive) ?_
      rw [Builder.question, Builder.question, hquestions, hsource]
  | fetched => exact ok.fetchAnswered (Or.inl rfl) h
  | fetchFails => exact ok.fetchAnswered (Or.inr ⟨rfl, may rfl⟩) h
  | fetchArrives =>
    simp only [step] at h
    split at h
    · cases h
    · rename_i posted harrive
      cases h
      obtain ⟨hquestions, hsource, _, hrest⟩ := Builder.arrive_kept harrive
      have hnone : posted.arriving = [] := by
        rw [hrest, ← List.length_eq_zero_iff, List.length_eraseIdx]
        have hsingle := ok.single
        split <;> omega
      exact ⟨ok.trimmed, ok.asked, ok.search, ok.posted.arrive harrive,
        ⟨hquestions.trans ok.fetch.1, hsource.trans ok.fetch.2⟩, by rw [hnone]; exact Nat.zero_le _,
        fun _ => hnone⟩

/-- What was fetched stays for as long as the screen does. -/
theorem posted_kept {s t : State K} {a : Action K} {docs : List (DocumentSnapshot K)}
    (ok : Ok failed s) (hshown : s.posted.shown = some docs) (h : step s a = some t) :
    t.posted.shown = some docs := by
  have closed : (s.posted.arriving.isEmpty && s.posted.shown.isNone) = false := by
    rw [hshown, Option.isNone_some, Bool.and_false]
  cases a with
  | change rooms =>
    cases h
    exact hshown
  | onChanged value =>
    cases h
    exact hshown
  | rebuilt =>
    cases h
    exact hshown
  | dialogReturns result =>
    cases h
    exact hshown
  | searchAnswers i =>
    simp only [step] at h
    split at h
    · cases h
    · cases h
      exact hshown
  | searchFails i =>
    simp only [step] at h
    split at h
    · cases h
    · cases h
      exact hshown
  | searchArrives k =>
    simp only [step] at h
    split at h
    · cases h
    · cases h
      exact hshown
  | fetched =>
    simp only [step, closed] at h
    cases h
  | fetchFails =>
    simp only [step, closed] at h
    cases h
  | fetchArrives =>
    have hnone : s.posted.arrive 0 = none := by
      rw [Builder.arrive, ok.once (by rw [hshown]; rfl)]
      rfl
    simp only [step, hnone] at h
    cases h

end Invariants

section Runs
variable {K : Type}

theorem run_ok {rooms : Collection String (Map K)} {acts : List (Action K)} {s : State K}
    (hrun : run step (initial rooms) acts = some s) : Ok (Action.fetchFails ∈ acts) s :=
  run_invariant_along (Ok _) (fun _ a => a = .fetchFails → Action.fetchFails ∈ acts)
    (fun _ _ _ ok may h => step_ok ok may h) hrun
    (along_of_forall (fun _ ha heq => heq ▸ ha) _) (initial_ok rooms)

theorem searchPanel_hidden_iff (s : State K) : s.searchPanel = .hidden ↔ s.searchQuery = "" := by
  unfold State.searchPanel
  by_cases hquery : s.searchQuery = ""
  · rw [if_pos hquery]
    exact iff_of_true rfl hquery
  · rw [if_neg hquery]
    refine iff_of_false ?_ hquery
    split <;> exact nofun

theorem searchPanel_docs {s : State K} {docs : List (DocumentSnapshot K)}
    (h : s.searchPanel.docs = some docs) :
    s.searchQuery ≠ "" ∧ s.search.shown = some (.docs docs) := by
  unfold State.searchPanel at h
  split at h
  · cases h
  · rename_i hquery
    refine ⟨hquery, ?_⟩
    split at h
    · cases h
    · cases h
    · rename_i hshown
      cases h
      exact hshown
    · rename_i hshown
      cases h
      exact hshown

theorem roomList_all {s : State K} {docs : List (DocumentSnapshot K)}
    (h : s.roomList = .all docs) : s.posted.shown = some docs := by
  unfold State.roomList at h
  split at h
  · cases h
  · rename_i hshown
    cases h
    exact hshown
  · cases h

/-- While the field is typed into, streams are made and given up, answers come
late and the rooms change, a panel that shows rows shows, in order, exactly the
rooms whose type goes on from what is in the field now, without the white space
at its ends, at one moment since that was searched for; for the types that the
posting form offers these are the rooms whose type starts with it. -/
theorem search_current (rooms : Collection String (Map K)) (acts : List (Action K)) (s : State K)
    (hrun : run step (initial rooms) acts = some s) :
    (s.searchPanel = .hidden ↔ trim s.typed = "") ∧
    ∀ docs, s.searchPanel.docs = some docs → ∃ past ∈ s.search.worlds,
      docs.Pairwise ByType ∧
      (∀ d, d ∈ docs ↔ d ∈ past.docs ∧ Finds (trim s.typed) d) ∧
      ((∀ d ∈ past.docs, ∃ t ∈ offeredTypes, propertyType d = some t) →
        ∀ d, d ∈ docs ↔ d ∈ past.docs ∧
          ∃ t, propertyType d = some t ∧ startsWith t (trim s.typed) = true) := by
  have ok := run_ok hrun
  refine ⟨by rw [searchPanel_hidden_iff, ok.trimmed], ?_⟩
  intro docs hdocs
  obtain ⟨hquery, hshown⟩ := searchPanel_docs hdocs
  have hasked := ok.asked
  rw [if_neg hquery] at hasked
  obtain ⟨past, hpast, hgives⟩ := ok.search.shown _ _ hasked hshown
  rcases hgives with herror | hresults
  · cases herror
  · cases hresults
    rw [ok.trimmed]
    refine ⟨past, hpast, searchResults_ordered _ _, fun d => mem_searchResults, ?_⟩
    intro offered d
    rw [mem_searchResults]
    refine and_congr_right (fun hd => ?_)
    obtain ⟨t, ht, htype⟩ := offered d hd
    rw [finds_offered_iff ht (propertyType_eq_some_iff.mp htype), htype]
    simp

def typedRooms : Collection String (Map ℤ) :=
  (Collection.empty.set "r1" [("propertyType", .str "Room")]).set "r2"
    [("propertyType", .str "House")]

/-- The answer to the first text arrives when the second one is in the field. -/
def typedTwice : List (Action ℤ) :=
  [.onChanged "H", .searchAnswers 0, .fetched, .fetchArrives, .onChanged " Ro ", .searchAnswers 1,
    .searchArrives 0, .searchArrives 0, .change Collection.empty]

theorem search_current_typedTwice : ∃ s docs, run step (initial typedRooms) typedTwice = some s ∧
    s.searchPanel.docs = some docs ∧ docs.map Doc.id = ["r1"] ∧
    ∃ past ∈ s.search.worlds, ∀ d, d ∈ docs ↔ d ∈ past.docs ∧ Finds (trim s.typed) d := by
  obtain ⟨s, hrun, hshown⟩ := exists_of_check step (initial typedRooms) typedTwice
    (fun s => s.searchPanel.docs.any (fun docs => decide (docs.map Doc.id = ["r1"])) = true)
    (by decide)
  obtain ⟨docs, hdocs, hids⟩ := (Option.any_eq_true _ _).mp hshown
  obtain ⟨past, hpast, _, hexact, _⟩ := (search_current typedRooms typedTwice s hrun).2 docs hdocs
  exact ⟨s, docs, hrun, hdocs, of_decide_eq_true hids, past, hpast, hexact⟩

/-- The list of all rooms is as it was at one moment, or empty where the fetch
has failed, and is never fetched again, whatever is posted or deleted. -/
theorem roomList_frozen (rooms : Collection String (Map K)) (acts later : List (Action K))
    (s t : State K) (hrun : run step (initial rooms) acts = some s)
    (hlater : run step s later = some t) (docs : List (DocumentSnapshot K))
    (hlist : s.roomList = .all docs) :
    ((docs = [] ∧ Action.fetchFails ∈ acts) ∨ ∃ past ∈ s.posted.worlds, docs = past.docs) ∧
      (t.roomList = .all docs ∨ ∃ filtered, t.filteredRooms = some filtered) := by
  have ok := run_ok hrun
  have hshown := roomList_all hlist
  constructor
  · have hquestion : s.posted.question = some () := by
      rw [Builder.question, ok.fetch.1, ok.fetch.2]
      rfl
    obtain ⟨past, hpast, hgives⟩ := ok.posted.shown () docs hquestion hshown
    rcases hgives with hdocs | hempty
    · exact Or.inr ⟨past, hpast, hdocs⟩
    · exact Or.inl hempty
  · -- what a fetch may answer does not matter any more
    have hstep : ∀ (u : State K) a v, Ok True u → step u a = some v → Ok True v :=
      fun _ _ _ ok h => step_ok ok (fun _ => trivial) h
    have once : Ok True s := run_invariant (Ok True) hstep hrun (initial_ok rooms)
    have hkept : Ok True t ∧ t.posted.shown = some docs :=
      run_invariant (fun u => Ok True u ∧ u.posted.shown = some docs)
        (fun _ _ _ hu h => ⟨hstep _ _ _ hu.1 h, posted_kept hu.1 hu.2 h⟩) hlater ⟨once, hshown⟩
    unfold State.roomList
    rw [hkept.2]
    cases t.filteredRooms with
    | none => exact Or.inl rfl
    | some rooms => exact Or.inr ⟨rooms, rfl⟩

theorem roomList_frozen_typedTwice : ∃ s t : State ℤ, ∃ docs,
    run step (initial typedRooms) typedTwice = some s ∧
      run step s [.change typedRooms, .rebuilt] = some t ∧ docs.map Doc.id = ["r1", "r2"] ∧
      s.roomList = .all docs ∧
      (t.roomList = .all docs ∨ ∃ filtered, t.filteredRooms = some filtered) := by
  obtain ⟨s, hrun, hall, hlater⟩ := exists_of_check step (initial typedRooms) typedTwice
    (fun s => (match s.roomList with
        | .all docs => decide (docs.map Doc.id = ["r1", "r2"])
        | _ => false) = true ∧ (run step s [.change typedRooms, .rebuilt]).isSome = true)
    (by decide)
  obtain ⟨t, ht⟩ := Option.isSome_iff_exists.mp hlater
  split at hall
  · rename_i docs hlist
    have hkept := roomList_frozen typedRooms typedTwice _ s t hrun ht docs hlist
    exact ⟨s, t, docs, hrun, ht, of_decide_eq_true hall, hlist, hkept.2⟩
  · cases hall

end Runs

end HomeScreen
