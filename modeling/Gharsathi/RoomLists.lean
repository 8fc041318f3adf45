import Gharsathi.PostedLocation
import Gharsathi.RoomDetails

/-!
# The lists that show rooms

Five lists turn the documents of `rooms` into rows: the search results into
tiles, the full list, the filtered list and the landlord's own list into room
cards, and the recommendations into cards of their own. All of them take the
first image without asking whether there is one, and the room cards need the
name of the poster, while the posting screen stores a room without images when
no upload goes through, and without a name when the landlord has none.
-/

namespace RoomLists

open DartDouble DartStrings DartValues FirestoreCollection Models RoomDetails Runs
open PostingScreen PostedLocation

/-- A tile of the search results. -/
structure SearchTile where
  image : String
  title : String
  subtitle : String

inductive RoomList where
  | search
  | allRooms
  | filtered
  | recommendations
  | landlordRooms

inductive Row (K : Type) where
  | tile (tile : SearchTile)
  | card (card : Roomcard K)
  | recommendation (card : RecommendationCard K)

section Rows
variable {K : Type} [IntCast K]

omit [IntCast K] in
def searchTile (d : DocumentSnapshot K) : Result SearchTile := do
  let image ← (← (← field d "images").elementAt 0).asString
  let title ← (← field d "name").asString
  let subtitle ← (← field d "description").asString
  return ⟨image, title, subtitle⟩

/-- The room card of the filtered list, which holds bare data maps. -/
def filteredCard (room : Map K) : Result (Roomcard K) := do
  let roomTitle ← (Map.get room "name").asString
  let postedBy ← (Map.get room "postedBy").asString
  let location ← (← (Map.get room "location").index "address").asString
  let price ← (Map.get room "price").numToDouble
  let description ← (Map.get room "description").asString
  let image ← (← (Map.get room "images").elementAt 0).asString
  let amenities ← (Map.get room "amenities").asList
  let propertyType ← (Map.get room "propertyType").asString
  let postDate ← (Map.get room "postDate").asString
  return ⟨roomTitle, postedBy, description, location, price, image, amenities, propertyType,
    postDate⟩

/-- The row a list builds for one document; the landlord's list and the full
list build the same card. -/
def buildRow (list : RoomList) (d : DocumentSnapshot K) : Result (Row K) :=
  match list with
  | .search => (searchTile d).map .tile
  | .allRooms => (roomcard d).map .card
  | .filtered => (filteredCard d.data).map .card
  | .recommendations => (recommendationCard d.data).map .recommendation
  | .landlordRooms => (roomcard d).map .card

/-- Every document of the list has a row. -/
def Rendered (list : RoomList) (docs : List (DocumentSnapshot K)) : Prop :=
  ∀ d ∈ docs, ∃ row, buildRow list d = .ok row

/-- Wherever the document comes into a list, the list is still rendered. -/
def NeverBreaks (d : DocumentSnapshot K) : Prop :=
  ∀ list before after, Rendered list (before ++ after) → Rendered list (before ++ d :: after)

theorem neverBreaks_of_rows (d : DocumentSnapshot K) :
    NeverBreaks d ↔ ∀ list, ∃ row, buildRow list d = .ok row := by
  constructor
  · intro h list
    exact h list [] [] nofun d List.mem_cons_self
  · intro h list before after others e he
    rcases List.mem_append.mp he with he | he
    · exact others e (List.mem_append_left _ he)
    · rcases List.mem_cons.mp he with rfl | he
      · exact h list
      · exact others e (List.mem_append_right _ he)

end Rows

section Statements
variable {K : Type}

def HasName (user : Option User) : Prop := ∃ u name, user = some u ∧ u.displayName = some name

/-- An image of post `i` was uploaded. -/
def ImageUploaded (acts : List (Action K)) (i : Nat) : Prop :=
  ∃ url today, .uploaded i (.done url) today ∈ acts

end Statements

section Filled
variable {K : Type}

/-- The fields of a room that `addRooms` built after the uploads gave `urls`. -/
structure Filled (user : User) (urls : List String) (room : Rooms K) : Prop where
  title : ∃ title, room.roomTitle = some title
  postedBy : room.postedBy = user.displayName
  location : ∃ address latitude longitude,
    room.location = some (locationMap address latitude longitude)
  price : ∃ price, room.price = some price
  description : ∃ description, room.description = some description
  images : room.images = some (urls.map some)
  propertyType : ∃ propertyType, room.propertyType = some propertyType

theorem buildRoom_filled {T : DoubleText K} {user : Option User} {form : Form K}
    {selectedAmenities uploadedUrls : List String} {today : String} {room : Rooms K}
    (h : buildRoom T user form selectedAmenities uploadedUrls today = .ok room) :
    ∃ u, user = some u ∧ Filled u uploadedUrls room := by
  obtain ⟨u, huser, h⟩ := bind_eq_ok.mp h
  obtain ⟨latitude, _, h⟩ := bind_eq_ok.mp h
  obtain ⟨longitude, _, h⟩ := bind_eq_ok.mp h
  obtain ⟨price, _, h⟩ := bind_eq_ok.mp h
  cases h
  cases user with
  | none => cases huser
  | some v =>
    cases huser
    exact ⟨u, rfl, ⟨_, rfl⟩, rfl, ⟨_, _, _, rfl⟩, ⟨_, rfl⟩, ⟨_, rfl⟩, rfl, ⟨_, rfl⟩⟩

variable {user : User} {urls : List String} {room : Rooms K}

theorem searchTile_filled (filled : Filled user urls room) (id : String) :
    (∃ tile, searchTile ⟨id, room.toJson⟩ = .ok tile) ↔ urls ≠ [] := by
  obtain ⟨title, htitle⟩ := filled.title
  obtain ⟨description, hdescription⟩ := filled.description
  cases urls with
  | nil =>
    simp [searchTile, field, Rooms.toJson, filled.images, Value.elementAt, bind, Except.bind]
  | cons url urls =>
    simp [searchTile, field, Rooms.toJson, filled.images, htitle, hdescription, Value.elementAt,
      Value.ofStringOrNull, bind, Except.bind, pure, Except.pure]

variable [IntCast K]

theorem roomcard_filled (filled : Filled user urls room) (id : String) :
    (∃ card, roomcard ⟨id, room.toJson⟩ = .ok card) ↔
      user.displayName ≠ none ∧ urls ≠ [] := by
  obtain ⟨title, htitle⟩ := filled.title
  obtain ⟨address, latitude, longitude, hlocation⟩ := filled.location
  obtain ⟨price, hprice⟩ := filled.price
  obtain ⟨description, hdescription⟩ := filled.description
  obtain ⟨propertyType, htype⟩ := filled.propertyType
  have hposter := filled.postedBy
  have himages := filled.images
  cases hname : user.displayName with
  | none =>
    rw [hname] at hposter
    simp [roomcard, field, Rooms.toJson, htitle, hposter, Value.ofStringOrNull, Value.asString,
      bind, Except.bind]
  | some name =>
    rw [hname] at hposter
    cases urls with
    | nil =>
      simp [roomcard, field, Rooms.toJson, htitle, hposter, hlocation, hprice, hdescription,
        himages, Value.ofStringOrNull, Value.ofMapOrNull, Value.elementAt, bind, Except.bind]
    | cons url urls =>
      simp [roomcard, field, Rooms.toJson, htitle, hposter, hlocation, hprice, hdescription,
        himages, htype, Value.ofStringOrNull, Value.ofMapOrNull, Value.ofStrings, Value.elementAt,
        Value.asList, bind, Except.bind, pure, Except.pure]

/-- On a document that has all fields, the filtered list builds the same card. -/
theorem filteredCard_toJson (id : String) (room : Rooms K) :
    filteredCard room.toJson = roomcard ⟨id, room.toJson⟩ := by
  simp [filteredCard, roomcard, field, Rooms.toJson, bind, Except.bind]

theorem recommendationCard_filled (filled : Filled user urls room) :
    (∃ card, recommendationCard room.toJson = .ok card) ↔ urls ≠ [] := by
  obtain ⟨title, htitle⟩ := filled.title
  obtain ⟨address, latitude, longitude, hlocation⟩ := filled.location
  obtain ⟨price, hprice⟩ := filled.price
  obtain ⟨description, hdescription⟩ := filled.description
  obtain ⟨propertyType, htype⟩ := filled.propertyType
  have himages := filled.images
  -- the name of the poster has a default here
  have hposter : ∃ name, (Value.ofStringOrNull room.postedBy).orElse (.str "Unknown") =
      (.str name : Value K) := by
    cases room.postedBy with
    | none => exact ⟨_, rfl⟩
    | some name => exact ⟨name, rfl⟩
  obtain ⟨name, hname⟩ := hposter
  cases urls with
  | nil =>
    simp [recommendationCard, firstImage, Rooms.toJson, htitle, hname, hlocation, hprice,
      hdescription, himages, htype, Value.ofStringOrNull_some, Value.ofMapOrNull_some, Value.elementAt,
      Value.isNull, bind, Except.bind]
  | cons url urls =>
    simp [recommendationCard, firstImage, Rooms.toJson, htitle, hname, hlocation, hprice,
      hdescription, himages, htype, Value.ofStringOrNull_some, Value.ofMapOrNull_some, Value.elementAt,
      Value.ofStrings, Value.orElse_list, Value.asList, Value.isNull, bind, Except.bind, pure,
      Except.pure]

theorem neverBreaks_filled (filled : Filled user urls room) (id : String) :
    NeverBreaks ⟨id, room.toJson⟩ ↔ user.displayName ≠ none ∧ urls ≠ [] := by
  have mapped : ∀ {α : Type} (x : Result α) (f : α → Row K),
      (∃ row, x.map f = .ok row) ↔ ∃ a, x = .ok a := by
    intro α x f
    cases x <;> simp [Except.map]
  rw [neverBreaks_of_rows]
  constructor
  · intro h
    exact (roomcard_filled filled id).mp ((mapped _ _).mp (h .allRooms))
  · intro h list
    cases list with
    | search => exact (mapped _ _).mpr ((searchTile_filled filled id).mpr h.2)
    | allRooms => exact (mapped _ _).mpr ((roomcard_filled filled id).mpr h)
    | filtered =>
      apply (mapped _ _).mpr
      rw [filteredCard_toJson id]
      exact (roomcard_filled filled id).mpr h
    | recommendations => exact (mapped _ _).mpr ((recommendationCard_filled filled).mpr h.2)
    | landlordRooms => exact (mapped _ _).mpr ((roomcard_filled filled id).mpr h)

end Filled

section Uploads
variable {K : Type} {T : DoubleText K} {user : Option User} {rooms : Collection String (Map K)}

def uploadedUrl (i : Nat) : Action K → List String
  | .uploaded j upload _ => if j = i then (uploadImage upload).toList else []
  | _ => []

/-- What the uploads of post `i` gave so far. -/
def uploadedUrls (acts : List (Action K)) (i : Nat) : List String := acts.flatMap (uploadedUrl i)

theorem uploadedUrls_snoc (acts : List (Action K)) (a : Action K) (i : Nat) :
    uploadedUrls (acts ++ [a]) i = uploadedUrls acts i ++ uploadedUrl i a := by
  simp [uploadedUrls]

theorem uploadedUrls_same {a : Action K} (hno : ∀ i, uploadedUrl i a = [])
    (acts : List (Action K)) (i : Nat) : uploadedUrls (acts ++ [a]) i = uploadedUrls acts i := by
  rw [uploadedUrls_snoc, hno, List.append_nil]

theorem uploadImage_eq_some {upload : Upload} {url : String} :
    uploadImage upload = some url ↔ upload = .done url := by
  cases upload with
  | putFails => simp [uploadImage]
  | urlFails => simp [uploadImage]
  | done url' => simp [uploadImage]

theorem uploadedUrls_ne_nil (acts : List (Action K)) (i : Nat) :
    uploadedUrls acts i ≠ [] ↔ ImageUploaded acts i := by
  constructor
  · intro h
    obtain ⟨url, hmem⟩ := List.exists_mem_of_ne_nil _ h
    obtain ⟨a, ha, hurl⟩ := List.mem_flatMap.mp hmem
    cases a with
    | uploaded j upload today =>
      simp only [uploadedUrl] at hurl
      split at hurl
      · rename_i hj
        subst hj
        obtain rfl := uploadImage_eq_some.mp (Option.mem_toList.mp hurl)
        exact ⟨url, today, ha⟩
      · cases hurl
    | _ => cases hurl
  · rintro ⟨url, today, hmem⟩
    have hurl : url ∈ uploadedUrls acts i :=
      List.mem_flatMap.mpr ⟨_, hmem, by simp [uploadedUrl, uploadImage]⟩
    exact List.ne_nil_of_mem hurl

def PhaseOk (user : Option User) (urls : List String) : Phase K → Prop
  | .uploading _ _ uploadedUrls => uploadedUrls = urls
  | .creating room => ∃ u, user = some u ∧ Filled u urls room
  | .created room _ => ∃ u, user = some u ∧ Filled u urls room
  | .finished room _ => ∃ u, user = some u ∧ Filled u urls room
  | .failed => True

/-- Every post holds what its own uploads gave. -/
structure PostsOk (user : Option User) (past : List (Action K)) (s : State K) : Prop where
  sameUser : s.user = user
  phases : ∀ i post, s.posts[i]? = some post → PhaseOk user (uploadedUrls past i) post.phase
  later : ∀ i, s.posts[i]? = none → uploadedUrls past i = []

theorem next_phaseOk (user : Option User) (form : Form K) (post : Post K) (index length : Nat)
    (urls : List String) (today : String) :
    PhaseOk user urls (post.next T user form index length urls today).phase := by
  have hmoved := next_moved T user form post index length urls today
  generalize post.next T user form index length urls today = new at hmoved ⊢
  cases hmoved with
  | nextImage => rfl
  | built _ _ hbuild => exact buildRoom_filled hbuild
  | _ => trivial

theorem phaseOk_posted {urls : List String} {phase : Phase K} {room : Rooms K}
    (ok : PhaseOk user urls phase) (hroom : room? phase = some room) :
    ∃ u, user = some u ∧ Filled u urls room := by
  cases phase with
  | creating r =>
    cases hroom
    exact ok
  | created r storedAs =>
    cases hroom
    exact ok
  | finished r storedAs =>
    cases hroom
    exact ok
  | uploading index length urls' => cases hroom
  | failed => cases hroom

theorem step_uploaded {s t : State K} {i : Nat} {upload : Upload} {today : String}
    (h : step T s (.uploaded i upload today) = some t) :
    ∃ amenities index length urls urls',
      s.posts[i]? = some ⟨amenities, .uploading index length urls⟩ ∧
      urls' = urls ++ (uploadImage upload).toList ∧
      t = { s with
        posts := s.posts.set i ((⟨amenities, .uploading index length urls'⟩ : Post K).next T s.user
          s.form (index + 1) length urls' today) } := by
  simp only [step] at h
  split at h
  · rename_i amenities index length urls hpost
    cases h
    exact ⟨amenities, index, length, urls, _, hpost, rfl, rfl⟩
  · cases h

theorem uploaded_postsOk {past : List (Action K)} {s t : State K} {i : Nat} {upload : Upload}
    {today : String} (hs : PostsOk user past s) (h : step T s (.uploaded i upload today) = some t) :
    PostsOk user (past ++ [.uploaded i upload today]) t := by
  obtain ⟨amenities, index, length, urls, urls', hold, hurls', rfl⟩ := step_uploaded h
  have hurls : urls = uploadedUrls past i := hs.phases i _ hold
  have hself : uploadedUrls (past ++ [.uploaded i upload today]) i = urls' := by
    rw [uploadedUrls_snoc, hurls', hurls]
    simp [uploadedUrl]
  have hother : ∀ j, j ≠ i →
      uploadedUrls (past ++ [.uploaded i upload today]) j = uploadedUrls past j := by
    intro j hne
    rw [uploadedUrls_snoc]
    simp [uploadedUrl, Ne.symm hne]
  refine ⟨hs.sameUser, ?_, ?_⟩
  · intro j post hpost
    rcases getElem?_set_cases hpost with ⟨rfl, rfl⟩ | ⟨hne, hsame⟩
    · rw [hself, ← hs.sameUser]
      exact next_phaseOk _ _ _ _ _ _ _
    · rw [hother j hne]
      exact hs.phases j post hsame
  · intro j hnone
    rw [List.getElem?_eq_none_iff, List.length_set] at hnone
    have hlater := List.getElem?_eq_none hnone
    have hne : j ≠ i := by
      rintro rfl
      rw [hlater] at hold
      cases hold
    rw [hother j hne]
    exact hs.later j hlater

/-- A post that only moves on to another phase keeps its urls. -/
theorem moved_postsOk {past : List (Action K)} {s t : State K} {a : Action K} {i : Nat}
    {post : Post K} {phase : Phase K} (hs : PostsOk user past s)
    (hno : ∀ j, uploadedUrl j a = []) (huser : t.user = s.user)
    (hposts : t.posts = s.posts.set i { post with phase := phase })
    (hphase : PhaseOk user (uploadedUrls past i) phase) : PostsOk user (past ++ [a]) t := by
  have hsame := uploadedUrls_same hno past
  refine ⟨huser.trans hs.sameUser, ?_, ?_⟩
  · intro j post' hpost'
    rw [hsame]
    rw [hposts] at hpost'
    rcases getElem?_set_cases hpost' with ⟨rfl, rfl⟩ | ⟨_, hkept⟩
    · exact hphase
    · exact hs.phases j post' hkept
  · intro j hnone
    rw [hposts, List.getElem?_eq_none_iff, List.length_set] at hnone
    rw [hsame]
    exact hs.later j (List.getElem?_eq_none hnone)

theorem step_postsOk {past : List (Action K)} {s t : State K} {a : Action K}
    (hs : PostsOk user past s) (h : step T s a = some t) : PostsOk user (past ++ [a]) t := by
  cases step_did h with
  | posted today new hnew =>
    have hsame := uploadedUrls_same (a := .post today) (fun _ => rfl) past
    refine ⟨hs.sameUser, ?_, ?_⟩
    · intro i post hpost
      rw [hsame]
      rcases getElem?_concat_cases hpost with hold | ⟨hnone, rfl⟩
      · exact hs.phases i post hold
      · rw [hs.later i hnone, ← hs.sameUser]
        exact next_phaseOk _ _ _ _ _ _ _
    · intro i hnone
      rw [hsame]
      apply hs.later i
      rw [List.getElem?_eq_none_iff, List.length_append] at hnone
      exact List.getElem?_eq_none (by omega)
  | uploaded _ _ _ _ => exact uploaded_postsOk hs h
  | @committed i id post room hold hphase fresh =>
    have ok := hs.phases i post hold
    rw [hphase] at ok
    have created : PhaseOk user (uploadedUrls past i) (.created room (some id)) := ok
    exact moved_postsOk hs (fun _ => rfl) rfl rfl created
  | @addFailed i post room hold hphase =>
    have ok := hs.phases i post hold
    rw [hphase] at ok
    have created : PhaseOk user (uploadedUrls past i) (.created room none) := ok
    exact moved_postsOk hs (fun _ => rfl) rfl rfl created
  | @finished i post room storedAs hold hphase =>
    have ok := hs.phases i post hold
    rw [hphase] at ok
    have finished : PhaseOk user (uploadedUrls past i) (.finished room storedAs) := ok
    exact moved_postsOk hs (fun _ => rfl) rfl rfl finished
  | _ =>
    refine ⟨hs.sameUser, ?_, ?_⟩
    · intro i post hpost
      rw [uploadedUrls_same (fun _ => rfl)]
      exact hs.phases i post hpost
    · intro i hnone
      rw [uploadedUrls_same (fun _ => rfl)]
      exact hs.later i hnone

theorem run_postsOk {acts : List (Action K)} {s : State K}
    (hrun : run (step T) (initial user rooms) acts = some s) : PostsOk user acts s := by
  refine run_history (PostsOk user) (fun _ _ _ _ => step_postsOk) hrun ⟨rfl, ?_, ?_⟩
  · intro i post hpost
    simp [initial] at hpost
  · intro i _
    rfl

end Uploads

section Main
variable {K : Type} [IntCast K]

/-- Every room stored in a run is the room of a post, and it can come into
every list without breaking it if and only if its landlord has a name and one
of its images was uploaded. -/
theorem neverBreaks_iff (T : DoubleText K) (user : Option User)
    (rooms : Collection String (Map K)) (acts : List (Action K)) (s : State K)
    (hrun : run (step T) (initial user rooms) acts = some s) :
    (∀ d ∈ s.rooms.docs, d ∉ rooms.docs → ∃ i room, PostedBy s i room d) ∧
    ∀ i room d, PostedBy s i room d →
      (NeverBreaks d ↔ HasName user ∧ ImageUploaded acts i) := by
  refine ⟨fun d hd hnew => (run_documents hrun d hd).resolve_left hnew, ?_⟩
  intro i room d hposted
  obtain ⟨post, hpost, hroom, _⟩ := hposted.post
  obtain ⟨u, huser, hfilled⟩ := phaseOk_posted ((run_postsOk hrun).phases i post hpost) hroom
  have hdoc : d = ⟨d.id, room.toJson⟩ := by rw [← hposted.data]
  rw [hdoc, neverBreaks_filled hfilled, uploadedUrls_ne_nil]
  have hname : HasName user ↔ u.displayName ≠ none := by
    constructor
    · rintro ⟨v, name, hv, hvname⟩
      cases huser.symm.trans hv
      rw [hvname]
      exact Option.some_ne_none name
    · intro h
      obtain ⟨name, hvname⟩ := Option.ne_none_iff_exists'.mp h
      exact ⟨u, name, huser, hvname⟩
  rw [hname]

end Main

def onePicture : List (Action ℚ) :=
  [.pick ⟨"Patan", 27, 85⟩, .edit (.title "Garden flat"), .edit (.price "8000.0"),
    .edit (.description "One room"), .edit (.addImage "a.png"), .post "2024-02-01",
    .uploaded 0 (.done "https://img/a") "2024-02-01", .commit 0 "r1"]

theorem onePicture_neverBreaks :
    ∃ s, run (step rationalText) (initial (some landlord) Collection.empty) onePicture = some s ∧
      ∃ d ∈ s.rooms.docs, NeverBreaks d := by
  obtain ⟨s, hrun, hdocs, hposts⟩ := exists_of_check (step rationalText)
    (initial (some landlord) Collection.empty) onePicture
    (fun s => 0 < s.rooms.docs.length ∧ s.posts.length = 1) (by decide)
  obtain ⟨hposted, hiff⟩ := neverBreaks_iff rationalText (some landlord) Collection.empty
    onePicture s hrun
  obtain ⟨d, hd⟩ := List.exists_mem_of_length_pos hdocs
  obtain ⟨i, room, hby⟩ := hposted d hd List.not_mem_nil
  obtain ⟨post, hpost, _⟩ := hby.post
  have hi : i = 0 := by
    obtain ⟨hlt, _⟩ := List.getElem?_eq_some_iff.mp hpost
    omega
  subst hi
  refine ⟨s, hrun, d, hd, (hiff 0 room d hby).mpr ⟨⟨landlord, "Sita Rai", rfl, rfl⟩, ?_⟩⟩
  exact ⟨"https://img/a", "2024-02-01", by simp [onePicture]⟩

theorem not_neverBreaks {K : Type} [IntCast K] {d : DocumentSnapshot K} (list : RoomList)
    (h : (buildRow list d).toOption.isNone = true) : ¬ NeverBreaks d := by
  intro hnever
  obtain ⟨row, hrow⟩ := (neverBreaks_of_rows d).mp hnever list
  rw [hrow] at h
  cases h

/-- A room posted without an image breaks the search results; one posted by a
landlord without a name breaks the full list. -/
theorem breaks_lists :
    (∃ s, run (step rationalText) (initial (some landlord) Collection.empty) onePost = some s ∧
      ∃ d ∈ s.rooms.docs, ¬ NeverBreaks d) ∧
    (∃ s, run (step rationalText) (initial (some ⟨"landlord", none, none⟩) Collection.empty)
      onePicture = some s ∧ ∃ d ∈ s.rooms.docs, ¬ NeverBreaks d) := by
  constructor
  · obtain ⟨s, hrun, d, hd, hrow⟩ := exists_of_check (step rationalText)
      (initial (some landlord) Collection.empty) onePost
      (fun s => ∃ d ∈ s.rooms.docs, (buildRow .search d).toOption.isNone = true) (by decide)
    exact ⟨s, hrun, d, hd, not_neverBreaks .search hrow⟩
  · obtain ⟨s, hrun, d, hd, hrow⟩ := exists_of_check (step rationalText)
      (initial (some ⟨"landlord", none, none⟩) Collection.empty) onePicture
      (fun s => ∃ d ∈ s.rooms.docs, (buildRow .allRooms d).toOption.isNone = true) (by decide)
    exact ⟨s, hrun, d, hd, not_neverBreaks .allRooms hrow⟩

end RoomLists
