import Gharsathi.PostingScreen

/-!
# The location of a stored room

Address and coordinates of a room are read from the form when `addRooms` has
uploaded the images. They are those of one pick, made after the last reset of
the form, exactly when such a pick has been made by then. Without one the room
is stored with the address `Not Set` and with the coordinates of an older pick.
-/

namespace PostedLocation

open DartDouble DartStrings DartValues FirestoreCollection Models Runs PostingScreen

section Statements
variable {K : Type}

/-- The last pick since the form was last reset. -/
def freshPick (acts : List (Action K)) : Option (Pick K) :=
  acts.foldl (fun fresh a =>
    match a with
    | .pick p => some p
    | .finish _ => none
    | _ => fresh) none

def room? : Phase K → Option (Rooms K)
  | .creating room => some room
  | .created room _ => some room
  | .finished room _ => some room
  | _ => none

def storedAs? : Phase K → Option String
  | .created _ storedAs => storedAs
  | .finished _ storedAs => storedAs
  | _ => none

/-- Document `d` is the room that post `i` has built and stored. -/
structure PostedBy (s : State K) (i : Nat) (room : Rooms K) (d : DocumentSnapshot K) : Prop where
  post : ∃ post, s.posts[i]? = some post ∧ room? post.phase = some room ∧
    storedAs? post.phase = some d.id
  data : d.data = room.toJson

/-- Post `i` has built its room in this step. -/
structure Builds (s t : State K) (i : Nat) (room : Rooms K) : Prop where
  before : ∀ post, s.posts[i]? = some post → room? post.phase = none
  after : ∃ post, t.posts[i]? = some post ∧ post.phase = .creating room

variable (T : DoubleText K) (user : Option User) (rooms : Collection String (Map K))

/-- Post `i` has built its room in the step after `past`. -/
def BuiltAfter (acts : List (Action K)) (i : Nat) (room : Rooms K) (past : List (Action K)) :
    Prop :=
  ∃ a later s t, acts = past ++ a :: later ∧ run (step T) (initial user rooms) past = some s ∧
    step T s a = some t ∧ Builds s t i room

/-- Address and coordinates of the document are those of one pick, made after
the last reset of the form that the room was built from. -/
def FreshLocation (acts : List (Action K)) (u : State K) (d : DocumentSnapshot K) : Prop :=
  ∃ i room past p, PostedBy u i room d ∧ BuiltAfter T user rooms acts i room past ∧
    freshPick past = some p ∧
    Map.get d.data "location" = .map (locationMap p.address p.latitude p.longitude)

/-- When the room of the document was built, a pick had been made since the
form was last reset. -/
def PickedBefore (acts : List (Action K)) (u : State K) (d : DocumentSnapshot K) : Prop :=
  ∃ i room past, PostedBy u i room d ∧ BuiltAfter T user rooms acts i room past ∧
    freshPick past ≠ none

end Statements

section Form
variable {K : Type}

theorem freshPick_snoc (acts : List (Action K)) (a : Action K) :
    freshPick (acts ++ [a]) =
      match a with
      | .pick p => some p
      | .finish _ => none
      | _ => freshPick acts := by
  rw [freshPick, List.foldl_append]
  cases a <;> rfl

theorem mem_of_freshPick {acts : List (Action K)} {p : Pick K} (h : freshPick acts = some p) :
    .pick p ∈ acts := by
  induction acts using List.reverseRecOn with
  | nil => cases h
  | append_singleton acts a ih =>
    rw [freshPick_snoc] at h
    cases a with
    | pick q =>
      cases h
      exact List.mem_append_right _ List.mem_cons_self
    | finish i => cases h
    | _ => exact List.mem_append_left _ (ih h)

/-- The location on the form is that of the last pick since the reset, and
without one the address reads `Not Set`. -/
structure FormOk (past : List (Action K)) (s : State K) : Prop where
  picked : ∀ p, freshPick past = some p → s.form.address = p.address ∧
    s.form.latitude = some p.latitude ∧ s.form.longitude = some p.longitude
  notSet : freshPick past = none → s.form.address = "Not Set"

theorem edit_location (f : Form K) (e : Edit) : (f.edit e).address = f.address ∧
    (f.edit e).latitude = f.latitude ∧ (f.edit e).longitude = f.longitude := by
  cases e <;> exact ⟨rfl, rfl, rfl⟩

theorem step_formOk {T : DoubleText K} {past : List (Action K)} {s t : State K} {a : Action K}
    (hs : FormOk past s) (h : step T s a = some t) : FormOk (past ++ [a]) t := by
  cases step_did h with
  | edited e =>
    obtain ⟨haddress, hlatitude, hlongitude⟩ := edit_location s.form e
    constructor
    · intro p hp
      rw [freshPick_snoc] at hp
      obtain ⟨h1, h2, h3⟩ := hs.picked p hp
      exact ⟨haddress.trans h1, hlatitude.trans h2, hlongitude.trans h3⟩
    · intro hnone
      rw [freshPick_snoc] at hnone
      exact haddress.trans (hs.notSet hnone)
  | picked p =>
    constructor
    · intro q hq
      rw [freshPick_snoc] at hq
      cases hq
      exact ⟨rfl, rfl, rfl⟩
    · intro hnone
      rw [freshPick_snoc] at hnone
      cases hnone
  | finished hpost hphase =>
    constructor
    · intro p hp
      rw [freshPick_snoc] at hp
      cases hp
    · intro _
      rfl
  | _ =>
    constructor
    · intro p hp
      rw [freshPick_snoc] at hp
      exact hs.picked p hp
    · intro hnone
      rw [freshPick_snoc] at hnone
      exact hs.notSet hnone

theorem run_formOk {T : DoubleText K} {user : Option User} {rooms : Collection String (Map K)}
    {acts : List (Action K)} {s : State K}
    (hrun : run (step T) (initial user rooms) acts = some s) : FormOk acts s := by
  refine run_history FormOk (fun _ _ _ _ => step_formOk) hrun ⟨?_, fun _ => rfl⟩
  intro p hp
  cases hp

/-- A room is built with the location on the form, once that has coordinates. -/
theorem buildRoom_location {T : DoubleText K} {user : Option User} {form : Form K}
    {selectedAmenities uploadedUrls : List String} {today : String} {room : Rooms K}
    (h : buildRoom T user form selectedAmenities uploadedUrls today = .ok room) :
    ∃ latitude longitude, form.latitude = some latitude ∧ form.longitude = some longitude ∧
      room.location = some (locationMap form.address latitude longitude) := by
  obtain ⟨_, _, h⟩ := bind_eq_ok.mp h
  obtain ⟨latitude, hlatitude, h⟩ := bind_eq_ok.mp h
  obtain ⟨longitude, hlongitude, h⟩ := bind_eq_ok.mp h
  obtain ⟨_, _, h⟩ := bind_eq_ok.mp h
  cases h
  exact ⟨latitude, longitude, late_eq_ok.mp hlatitude, late_eq_ok.mp hlongitude, rfl⟩

end Form

section Posts
variable {K : Type} {T : DoubleText K}

/-- After `moveNext` a room is there only if it was built just now. -/
theorem next_room {user : Option User} {form : Form K} {post : Post K} {index length : Nat}
    {urls : List String} {today : String} {room : Rooms K}
    (h : room? (post.next T user form index length urls today).phase = some room) :
    (post.next T user form index length urls today).phase = .creating room ∧
      buildRoom T user form post.selectedAmenities urls today = .ok room := by
  have hmoved := next_moved T user form post index length urls today
  generalize post.next T user form index length urls today = new at h hmoved
  cases hmoved with
  | built _ _ hbuild =>
    cases h
    exact ⟨rfl, hbuild⟩
  | _ => cases h

/-- Every room of a post was there before the step, or is built by it from the
form as it stands. -/
theorem step_room {s t : State K} {a : Action K} (h : step T s a = some t) {i : Nat}
    {post : Post K} {room : Rooms K} (hpost : t.posts[i]? = some post)
    (hroom : room? post.phase = some room) :
    (∃ post', s.posts[i]? = some post' ∧ room? post'.phase = some room) ∨
      (Builds s t i room ∧ ∃ amenities urls today,
        buildRoom T s.user s.form amenities urls today = .ok room) := by
  cases step_did h with
  | posted today new hphase =>
    rcases getElem?_concat_cases hpost with hold | ⟨hnone, rfl⟩
    · exact Or.inl ⟨post, hold, hroom⟩
    · obtain ⟨hcreating, hbuild⟩ := next_room hroom
      refine Or.inr ⟨⟨?_, ⟨_, hpost, hcreating⟩⟩, _, _, _, hbuild⟩
      intro post' hpost'
      rw [hnone] at hpost'
      cases hpost'
  | uploaded hold hphase post' hphase' =>
    rcases getElem?_set_cases hpost with ⟨rfl, rfl⟩ | ⟨_, hsame⟩
    · obtain ⟨hcreating, hbuild⟩ := next_room hroom
      refine Or.inr ⟨⟨?_, ⟨_, hpost, hcreating⟩⟩, _, _, _, hbuild⟩
      intro other hother
      cases hold.symm.trans hother
      rw [hphase]
      rfl
    · exact Or.inl ⟨post, hsame, hroom⟩
  | committed hold hphase fresh =>
    rcases getElem?_set_cases hpost with ⟨rfl, rfl⟩ | ⟨_, hsame⟩
    · exact Or.inl ⟨_, hold, by rw [hphase]; exact hroom⟩
    · exact Or.inl ⟨post, hsame, hroom⟩
  | addFailed hold hphase =>
    rcases getElem?_set_cases hpost with ⟨rfl, rfl⟩ | ⟨_, hsame⟩
    · exact Or.inl ⟨_, hold, by rw [hphase]; exact hroom⟩
    · exact Or.inl ⟨post, hsame, hroom⟩
  | finished hold hphase =>
    rcases getElem?_set_cases hpost with ⟨rfl, rfl⟩ | ⟨_, hsame⟩
    · exact Or.inl ⟨_, hold, by rw [hphase]; exact hroom⟩
    · exact Or.inl ⟨post, hsame, hroom⟩
  | _ => exact Or.inl ⟨post, hpost, hroom⟩

/-- A stored room stays with its post. -/
theorem step_postedBy {s t : State K} {a : Action K} (h : step T s a = some t) {i : Nat}
    {room : Rooms K} {d : DocumentSnapshot K} (hs : PostedBy s i room d) : PostedBy t i room d := by
  obtain ⟨⟨post, hpost, hroom, hid⟩, hdata⟩ := hs
  refine ⟨?_, hdata⟩
  have moved : ∀ {j : Nat} {y : Post K}, j ≠ i →
      ∃ post', (s.posts.set j y)[i]? = some post' ∧ room? post'.phase = some room ∧
        storedAs? post'.phase = some d.id := by
    intro j y hne
    exact ⟨post, by rw [List.getElem?_set_ne hne]; exact hpost, hroom, hid⟩
  have self : ∀ {y : Post K}, (s.posts.set i y)[i]? = some y := by
    intro y
    exact getElem?_set_of_some y hpost
  cases step_did h with
  | posted today new hphase =>
    refine ⟨post, ?_, hroom, hid⟩
    obtain ⟨hi, _⟩ := List.getElem?_eq_some_iff.mp hpost
    exact (List.getElem?_append_left hi).trans hpost
  | @uploaded j _ _ _ _ _ _ old hold hphase =>
    by_cases hij : j = i
    · subst hij
      cases hold.symm.trans hpost
      rw [hphase] at hroom
      cases hroom
    · exact moved hij
  | @committed j _ old _ hold hphase fresh =>
    by_cases hij : j = i
    · subst hij
      cases hold.symm.trans hpost
      rw [hphase] at hid
      cases hid
    · exact moved hij
  | @addFailed j old _ hold hphase =>
    by_cases hij : j = i
    · subst hij
      cases hold.symm.trans hpost
      rw [hphase] at hid
      cases hid
    · exact moved hij
  | @finished j old _ _ hold hphase =>
    by_cases hij : j = i
    · subst hij
      cases hold.symm.trans hpost
      rw [hphase] at hroom hid
      exact ⟨_, self, hroom, hid⟩
    · exact moved hij
  | _ => exact ⟨post, hpost, hroom, hid⟩

end Posts

section History
variable {K : Type} {T : DoubleText K} {user : Option User} {rooms : Collection String (Map K)}

theorem builtAfter_snoc {acts : List (Action K)} {a : Action K} {i : Nat} {room : Rooms K}
    {past : List (Action K)} (h : BuiltAfter T user rooms acts i room past) :
    BuiltAfter T user rooms (acts ++ [a]) i room past := by
  obtain ⟨b, later, s, t, rfl, hrun, hstep, hbuilds⟩ := h
  exact ⟨b, later ++ [a], s, t, by simp, hrun, hstep, hbuilds⟩

/-- Every room of a post was built by some step of the run. -/
theorem run_built {acts : List (Action K)} {s : State K}
    (hrun : run (step T) (initial user rooms) acts = some s) {i : Nat} {post : Post K}
    {room : Rooms K} (hpost : s.posts[i]? = some post) (hroom : room? post.phase = some room) :
    ∃ past, BuiltAfter T user rooms acts i room past := by
  induction acts using List.reverseRecOn generalizing s post with
  | nil =>
    cases hrun
    cases hpost
  | append_singleton acts a ih =>
    obtain ⟨m, hm, hstep⟩ := run_snoc.mp hrun
    rcases step_room hstep hpost hroom with ⟨post', hpost', hroom'⟩ | ⟨hbuilds, _⟩
    · obtain ⟨past, hpast⟩ := ih hm hpost' hroom'
      exact ⟨past, builtAfter_snoc hpast⟩
    · exact ⟨acts, a, [], m, s, rfl, hm, hstep, hbuilds⟩

/-- Every new document of `rooms` is the room of a post. -/
theorem run_documents {acts : List (Action K)} {s : State K}
    (hrun : run (step T) (initial user rooms) acts = some s) :
    ∀ d ∈ s.rooms.docs, d ∈ rooms.docs ∨ ∃ i room, PostedBy s i room d := by
  refine run_invariant (fun s : State K => ∀ d ∈ s.rooms.docs, d ∈ rooms.docs ∨
    ∃ i room, PostedBy s i room d) ?_ hrun (fun d hd => Or.inl hd)
  intro s a t hs h d hd
  have kept : d ∈ s.rooms.docs → d ∈ rooms.docs ∨ ∃ i room, PostedBy t i room d := by
    intro hold
    rcases hs d hold with hd | ⟨i, room, hposted⟩
    · exact Or.inl hd
    · exact Or.inr ⟨i, room, step_postedBy h hposted⟩
  cases step_did h with
  | @committed i id post room hpost hphase fresh =>
    rcases (Collection.mem_set _).mp hd with rfl | ⟨hold, _⟩
    · refine Or.inr ⟨i, room, ⟨{ post with phase := .created room (some id) }, ?_, rfl, rfl⟩, rfl⟩
      exact getElem?_set_of_some _ hpost
    · exact kept hold
  | _ => exact kept hd

/-- A room built after a fresh pick has the location of that pick. -/
theorem builtAfter_location {acts past : List (Action K)} {i : Nat} {room : Rooms K}
    (h : BuiltAfter T user rooms acts i room past) :
    (∀ p, freshPick past = some p →
      room.location = some (locationMap p.address p.latitude p.longitude)) ∧
    (freshPick past = none → ∃ latitude longitude,
      room.location = some (locationMap "Not Set" latitude longitude)) := by
  obtain ⟨a, later, s, t, rfl, hrun, hstep, hbuilds⟩ := h
  obtain ⟨post, hpost, hphase⟩ := hbuilds.after
  have hform := run_formOk hrun
  rcases step_room hstep hpost (by rw [hphase]; rfl) with ⟨post', hpost', hroom'⟩ |
    ⟨_, _, _, _, hbuild⟩
  · rw [hbuilds.before post' hpost'] at hroom'
    cases hroom'
  · obtain ⟨latitude, longitude, hlat, hlong, hlocation⟩ := buildRoom_location hbuild
    constructor
    · intro p hp
      obtain ⟨haddress, hlatitude, hlongitude⟩ := hform.picked p hp
      rw [hlat, Option.some.injEq] at hlatitude
      rw [hlong, Option.some.injEq] at hlongitude
      rw [hlocation, haddress, hlatitude, hlongitude]
    · intro hnone
      exact ⟨latitude, longitude, by rw [hlocation, hform.notSet hnone]⟩

/-- Every room stored in a run was built in it, and all of them have the
location of a fresh pick if and only if each was built after one. -/
theorem freshLocation_iff (T : DoubleText K) (user : Option User)
    (rooms : Collection String (Map K)) (acts : List (Action K)) (u : State K)
    (hrun : run (step T) (initial user rooms) acts = some u) :
    (∀ d ∈ u.rooms.docs, d ∉ rooms.docs →
      ∃ i room past, PostedBy u i room d ∧ BuiltAfter T user rooms acts i room past) ∧
    ((∀ d ∈ u.rooms.docs, d ∉ rooms.docs → FreshLocation T user rooms acts u d) ↔
      ∀ d ∈ u.rooms.docs, d ∉ rooms.docs → PickedBefore T user rooms acts u d) := by
  refine ⟨?_, ?_, ?_⟩
  · intro d hd hnew
    obtain ⟨i, room, hposted⟩ := (run_documents hrun d hd).resolve_left hnew
    obtain ⟨post, hpost, hroom, _⟩ := hposted.post
    obtain ⟨past, hbuilt⟩ := run_built hrun hpost hroom
    exact ⟨i, room, past, hposted, hbuilt⟩
  · intro h d hd hnew
    obtain ⟨i, room, past, p, hposted, hbuilt, hfresh, _⟩ := h d hd hnew
    exact ⟨i, room, past, hposted, hbuilt, by rw [hfresh]; exact Option.some_ne_none p⟩
  · intro h d hd hnew
    obtain ⟨i, room, past, hposted, hbuilt, hsome⟩ := h d hd hnew
    obtain ⟨p, hp⟩ := Option.ne_none_iff_exists'.mp hsome
    refine ⟨i, room, past, p, hposted, hbuilt, hp, ?_⟩
    rw [hposted.data]
    simp [Rooms.toJson, (builtAfter_location hbuilt).1 p hp, Value.ofMapOrNull]

end History

section Runs
variable {K : Type}

theorem freshPick_of_no_finish {acts : List (Action K)} (h : ∀ i, .finish i ∉ acts) {p : Pick K}
    (hp : .pick p ∈ acts) : freshPick acts ≠ none := by
  induction acts using List.reverseRecOn with
  | nil => cases hp
  | append_singleton acts a ih =>
    have hrest : ∀ i, .finish i ∉ acts := fun i hi => h i (List.mem_append_left _ hi)
    rw [freshPick_snoc]
    cases a with
    | pick q => exact Option.some_ne_none q
    | finish i => exact absurd (List.mem_append_right _ List.mem_cons_self) (h i)
    | _ => exact ih hrest ((List.mem_append.mp hp).resolve_right (by simp))

/-- Address and coordinates as a document of `rooms` holds them. -/
def storedLocation (d : DocumentSnapshot K) : Option (String × Double K × Double K) :=
  match Map.get d.data "location" with
  | .map location =>
    match Map.get location "address", Map.get location "latitude", Map.get location "longitude" with
    | .str address, .double latitude, .double longitude => some (address, latitude, longitude)
    | _, _, _ => none
  | _ => none

theorem storedLocation_of_pick {d : DocumentSnapshot K} {p : Pick K}
    (h : Map.get d.data "location" = .map (locationMap p.address p.latitude p.longitude)) :
    storedLocation d = some (p.address, .fin p.latitude, .fin p.longitude) := by
  simp [storedLocation, h]

end Runs

def landlord : User := ⟨"landlord", some "Sita Rai", some "sita@example.com"⟩

def onePost : List (Action ℚ) :=
  [.pick ⟨"Patan", 27, 85⟩, .edit (.title "Sunny flat"), .edit (.price "9000.0"),
    .edit (.description "Two rooms"), .post "2024-01-01", .commit 0 "r1"]

theorem freshLocation_onePost :
    ∃ u, run (step rationalText) (initial (some landlord) Collection.empty) onePost = some u ∧
      u.rooms.docs.length = 1 ∧ ∀ d ∈ u.rooms.docs,
        FreshLocation rationalText (some landlord) Collection.empty onePost u d := by
  obtain ⟨u, hrun, hlength⟩ := exists_of_check (step rationalText)
    (initial (some landlord) Collection.empty) onePost
    (fun u => u.rooms.docs.length = 1) (by decide)
  obtain ⟨hbuilt, hiff⟩ := freshLocation_iff rationalText (some landlord) Collection.empty
    onePost u hrun
  refine ⟨u, hrun, hlength, fun d hd => hiff.mpr ?_ d hd (List.not_mem_nil)⟩
  intro d hd hnew
  obtain ⟨i, room, past, hposted, hafter⟩ := hbuilt d hd hnew
  refine ⟨i, room, past, hposted, hafter, ?_⟩
  obtain ⟨a, later, s, t, hsplit, hpast, hstep, hbuilds⟩ := hafter
  cases past with
  | nil =>
    -- the first step is the pick, which builds no room
    obtain ⟨rfl, _⟩ := List.cons.inj hsplit
    cases hpast
    cases hstep
    obtain ⟨post, hpost, _⟩ := hbuilds.after
    cases hpost
  | cons b past =>
    obtain ⟨rfl, hrest⟩ := List.cons.inj hsplit
    refine freshPick_of_no_finish ?_ (p := ⟨"Patan", 27, 85⟩) List.mem_cons_self
    intro j hj
    have hmem : .finish j ∈ onePost := by
      rw [hsplit]
      exact List.mem_append_left _ hj
    simp [onePost] at hmem

/-- After the first post only title and description are filled in again. -/
def twoPosts : List (Action ℚ) :=
  onePost ++ [.finish 0, .edit (.title "Second flat"), .edit (.description "One room"),
    .post "2024-01-02", .commit 1 "r2"]

/-- The second room is stored without an address, where the first one is. -/
theorem not_freshLocation_twoPosts :
    ∃ u, run (step rationalText) (initial (some landlord) Collection.empty) twoPosts = some u ∧
      ∃ d ∈ u.rooms.docs, storedLocation d = some ("Not Set", .fin 27, .fin 85) ∧
        ¬ FreshLocation rationalText (some landlord) Collection.empty twoPosts u d := by
  obtain ⟨u, hrun, d, hd, hstored⟩ := exists_of_check (step rationalText)
    (initial (some landlord) Collection.empty) twoPosts
    (fun u => ∃ d ∈ u.rooms.docs, storedLocation d = some ("Not Set", .fin 27, .fin 85))
    (by decide)
  refine ⟨u, hrun, d, hd, hstored, ?_⟩
  rintro ⟨i, room, past, p, _, ⟨a, later, _, _, hsplit, _⟩, hfresh, hlocation⟩
  have hmem : .pick p ∈ twoPosts := by
    rw [hsplit]
    exact List.mem_append_left _ (mem_of_freshPick hfresh)
  have haddress : p.address = "Patan" := by
    simp only [twoPosts, onePost, List.mem_append, List.mem_cons, Action.pick.injEq, reduceCtorEq,
      List.not_mem_nil, or_false, or_self] at hmem
    rw [hmem]
  rw [storedLocation_of_pick hlocation, haddress] at hstored
  simp at hstored

end PostedLocation
