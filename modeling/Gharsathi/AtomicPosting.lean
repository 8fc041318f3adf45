import Mathlib.Data.List.ReduceOption
import Gharsathi.PostedLocation

/-!
# What a tap on Post does

The posting screen is watched: for each tap on Post it is noted what stood on
the form, which files were uploaded and how that went, which form the room was
then made of, what was stored, and which form the reset found. A tap is faithful
when the form still reads as it did and every picture went through. It leaves
pictures behind when it breaks off after a file was put, with its url or not, or
when `createRoom` swallows an error, after which the form is reset although
nothing was stored.
-/

namespace AtomicPosting

open DartDouble DartStrings DartValues FirestoreCollection Models Runs
open PostingScreen PostedLocation

/-- One tap on Post and what came of it. `filling` counts the resets before it. -/
structure Tap (K : Type) where
  form : Form K
  filling : Nat
  files : List String
  uploads : List Upload
  read : Option (Form K)
  stored : List (String × Rooms K)
  found : Option (Form K)

structure Watched (K : Type) where
  state : State K
  taps : List (Tap K)
  resets : Nat

section Machine
variable {K : Type}

def Tap.new (form : Form K) (filling : Nat) : Tap K := ⟨form, filling, [], [], none, [], none⟩

/-- The loop takes the next file from the form as it stands, or the room is
made of that form. -/
def Tap.moveNext (tap : Tap K) (form : Form K) (post : Post K) : Tap K :=
  match post.phase with
  | .uploading index _ _ =>
    { tap with files := tap.files ++ form.selectedImages[index]?.toList }
  | .creating _ => { tap with read := some form }
  | _ => tap

def Tap.answered (tap : Tap K) (upload : Upload) : Tap K :=
  { tap with uploads := tap.uploads ++ [upload] }

/-- What the uploads of the tap returned. -/
def Tap.answers (tap : Tap K) : List (Option String) := tap.uploads.map uploadImage

/-- No upload of the tap has put a file. -/
def Tap.NoFile (tap : Tap K) : Prop := ∀ upload ∈ tap.uploads, upload = .putFails

def Tap.store (tap : Tap K) (id : String) (room : Rooms K) : Tap K :=
  { tap with stored := tap.stored ++ [(id, room)] }

def Tap.reset (tap : Tap K) (form : Form K) : Tap K :=
  { tap with found := some form }

def initial (user : Option User) (rooms : Collection String (Map K)) : Watched K :=
  ⟨PostingScreen.initial user rooms, [], 0⟩

/-- What is noted of a step from `s` to `t`. -/
def watch (w : Watched K) (t : State K) : Action K → Watched K
  | .post _ =>
    match t.posts[w.taps.length]? with
    | some post =>
      { w with
        state := t
        taps := w.taps ++ [(Tap.new w.state.form w.resets).moveNext w.state.form post] }
    | none => { w with state := t }
  | .uploaded i upload _ =>
    match t.posts[i]? with
    | some post =>
      { w with
        state := t
        taps := w.taps.modify i fun tap => (tap.answered upload).moveNext w.state.form post }
    | none => { w with state := t }
  | .commit i id =>
    match (t.posts[i]?).bind (fun post => room? post.phase) with
    | some room => { w with state := t, taps := w.taps.modify i fun tap => tap.store id room }
    | none => { w with state := t }
  | .finish i =>
    { state := t
      taps := w.taps.modify i fun tap => tap.reset w.state.form
      resets := w.resets + 1 }
  | _ => { w with state := t }

def step (T : DoubleText K) (w : Watched K) (a : Action K) : Option (Watched K) :=
  (PostingScreen.step T w.state a).map fun t => watch w t a

theorem watch_state (w : Watched K) (t : State K) (a : Action K) : (watch w t a).state = t := by
  cases a with
  | post today =>
    simp only [watch]
    split <;> rfl
  | uploaded i upload today =>
    simp only [watch]
    split <;> rfl
  | commit i id =>
    simp only [watch]
    split <;> rfl
  | _ => rfl

/-- Watching changes nothing: the watched runs are the runs of the screen. -/
theorem run_state {T : DoubleText K} (acts : List (Action K)) (w : Watched K) :
    (run (step T) w acts).map Watched.state = run (PostingScreen.step T) w.state acts := by
  refine run_map Watched.state (fun w a => ?_) w acts
  rw [step, Option.map_map, Function.comp_def]
  simp only [watch_state, Option.map_id']

end Machine

section Statements
variable {K : Type}

/-- The room has the contents the form had at the tap; its images are the
answers to the uploads of the pictures selected then. -/
structure Faithful (T : DoubleText K) (tap : Tap K) (room : Rooms K) : Prop where
  title : room.roomTitle = some tap.form.titleText
  price : ∃ price, T.parse tap.form.priceText = .ok price ∧ room.price = some price
  description : room.description = some tap.form.descriptionText
  propertyType : room.propertyType = some tap.form.propertyType
  amenities : room.amenities = selectedAmenities tap.form
  location : ∃ latitude longitude, tap.form.latitude = some latitude ∧
    tap.form.longitude = some longitude ∧
    room.location = some (locationMap tap.form.address latitude longitude)
  files : tap.files = tap.form.selectedImages
  images : room.images = some tap.answers ∧ none ∉ tap.answers

/-- No upload of the tap has put a file, and no reset of it changed the form. -/
structure NothingLeft (tap : Tap K) : Prop where
  noImage : tap.NoFile
  noReset : ∀ form, tap.found = some form → form.reset = form

def Over : Phase K → Prop
  | .finished _ _ => True
  | .failed => True
  | _ => False

/-- Exactly one room is stored, a faithful one, or none is, and then nothing
is left of the tap once it is over. -/
def Outcome (T : DoubleText K) (post : Post K) (tap : Tap K) : Prop :=
  (∃ id room, tap.stored = [(id, room)] ∧ Faithful T tap room) ∨
    (tap.stored = [] ∧ (Over post.phase → NothingLeft tap))

/-- The two taps found the same contents, and no reset lies between them. -/
def SameFilling (tap other : Tap K) : Prop :=
  tap.filling = other.filling ∧ tap.form = other.form

/-- The documents that the taps have added to those of before. -/
def Stores (rooms : Collection String (Map K)) (w : Watched K) : Prop :=
  ∀ d, d ∈ w.state.rooms.docs ↔
    d ∈ rooms.docs ∨ ∃ tap ∈ w.taps, ∃ p ∈ tap.stored, d = ⟨p.1, p.2.toJson⟩

def Once (taps : List (Tap K)) : Prop :=
  ∀ (i j : Nat) tap other, i ≠ j → taps[i]? = some tap → taps[j]? = some other →
    tap.stored ≠ [] → other.stored ≠ [] → ¬ SameFilling tap other

def Outcomes (T : DoubleText K) (posts : List (Post K)) (taps : List (Tap K)) : Prop :=
  ∀ (i : Nat) post, posts[i]? = some post → ∃ tap, taps[i]? = some tap ∧ Outcome T post tap

structure Atomic (T : DoubleText K) (rooms : Collection String (Map K)) (w : Watched K) : Prop where
  stores : Stores rooms w
  outcomes : Outcomes T w.state.posts w.taps
  once : Once w.taps

/-- Posting is atomic and faithful throughout the run. -/
def PostsAtomically (T : DoubleText K) (user : Option User) (rooms : Collection String (Map K))
    (acts : List (Action K)) : Prop :=
  ∀ past rest w, acts = past ++ rest → run (step T) (initial user rooms) past = some w →
    Atomic T rooms w

/-- A room can be made of the form. -/
structure Readable (T : DoubleText K) (user : Option User) (form : Form K) : Prop where
  user : user ≠ none
  latitude : form.latitude ≠ none
  longitude : form.longitude ≠ none
  price : ∃ price, T.parse form.priceText = .ok price

/-- The form that was read after the uploads agrees with the one at the tap,
whose pictures were all uploaded. -/
structure StillReads (T : DoubleText K) (tap : Tap K) (form : Form K) : Prop where
  title : form.titleText = tap.form.titleText
  price : T.parse form.priceText = T.parse tap.form.priceText
  description : form.descriptionText = tap.form.descriptionText
  propertyType : form.propertyType = tap.form.propertyType
  address : form.address = tap.form.address
  latitude : form.latitude = tap.form.latitude
  longitude : form.longitude = tap.form.longitude
  files : tap.files = tap.form.selectedImages
  uploaded : none ∉ tap.answers

/-- The condition on one step. An upload whose answer ends the tap without a
room must not have put a picture there; a room is stored only where the form
still reads as at the tap and no tap of the same filling has stored it; and a
tap that `createRoom` failed finishes only with no picture there and nothing on
the form to reset. -/
def KeepsAtomic (T : DoubleText K) (w : Watched K) : Action K → Prop
  | .uploaded i upload _ =>
    ∀ amenities index length urls tap,
      w.state.posts[i]? = some ⟨amenities, .uploading index length urls⟩ →
      w.taps[i]? = some tap →
      (w.state.form.selectedImages.length = length ∧
        (index + 1 < length ∨ Readable T w.state.user w.state.form)) ∨
      (tap.NoFile ∧ upload = .putFails)
  | .commit i id =>
    ∀ post room tap, w.state.posts[i]? = some post → post.phase = .creating room →
      w.state.rooms.contains id = false → w.taps[i]? = some tap →
      (∃ form, tap.read = some form ∧ StillReads T tap form) ∧
      ∀ (j : Nat) other, j ≠ i → w.taps[j]? = some other → other.stored ≠ [] →
        ¬ SameFilling tap other
  | .finish i =>
    ∀ post room tap, w.state.posts[i]? = some post → post.phase = .created room none →
      w.taps[i]? = some tap →
      tap.NoFile ∧ w.state.form.reset = w.state.form
  | _ => True

end Statements

section Steps
variable {K : Type} {T : DoubleText K}

/-- A step of the screen with what is noted of it. -/
inductive Noted (T : DoubleText K) (w : Watched K) : Action K → Watched K → Prop where
  | edited (e : Edit) : Noted T w (.edit e)
      { w with state := { w.state with form := w.state.form.edit e } }
  | picked (p : Pick K) : Noted T w (.pick p)
      { w with state := { w.state with form := w.state.form.setLocation p } }
  | cancelled : Noted T w .cancelPick w
  | invalid (today : String) : Noted T w (.post today) w
  | posted (today : String) (post : Post K)
      (hnext : post = (⟨selectedAmenities w.state.form, .uploading 0 0 []⟩ : Post K).next T
        w.state.user w.state.form 0 w.state.form.selectedImages.length [] today) :
      Noted T w (.post today) { w with
        state := { w.state with posts := w.state.posts ++ [post] }
        taps := w.taps ++ [(Tap.new w.state.form w.resets).moveNext w.state.form post] }
  | uploaded {i : Nat} {upload : Upload} {today : String} {amenities : List String}
      {index length : Nat} {urls urls' : List String}
      (hpost : w.state.posts[i]? = some ⟨amenities, .uploading index length urls⟩)
      (hurls : urls' = urls ++ (uploadImage upload).toList) (post : Post K)
      (hnext : post = (⟨amenities, .uploading index length urls'⟩ : Post K).next T
        w.state.user w.state.form (index + 1) length urls' today) :
      Noted T w (.uploaded i upload today) { w with
        state := { w.state with posts := w.state.posts.set i post }
        taps := w.taps.modify i fun tap => (tap.answered upload).moveNext w.state.form post }
  | committed {i : Nat} {id : String} {post : Post K} {room : Rooms K}
      (hpost : w.state.posts[i]? = some post) (hphase : post.phase = .creating room)
      (fresh : w.state.rooms.contains id = false) :
      Noted T w (.commit i id) { w with
        state := { w.state.setPhase i post (.created room (some id)) with
          rooms := w.state.rooms.set id room.toJson }
        taps := w.taps.modify i fun tap => tap.store id room }
  | addFailed {i : Nat} {post : Post K} {room : Rooms K} (hpost : w.state.posts[i]? = some post)
      (hphase : post.phase = .creating room) :
      Noted T w (.addFails i) { w with state := w.state.setPhase i post (.created room none) }
  | finished {i : Nat} {post : Post K} {room : Rooms K} {storedAs : Option String}
      (hpost : w.state.posts[i]? = some post) (hphase : post.phase = .created room storedAs) :
      Noted T w (.finish i) {
        state := { w.state.setPhase i post (.finished room storedAs) with
          form := w.state.form.reset
          shown := w.state.shown ++ ["Room added successfully"] }
        taps := w.taps.modify i fun tap => tap.reset w.state.form
        resets := w.resets + 1 }

theorem step_noted {w v : Watched K} {a : Action K}
    (sameLength : w.taps.length = w.state.posts.length) (h : step T w a = some v) :
    Noted T w a v := by
  obtain ⟨t, hstep, rfl⟩ := Option.map_eq_some_iff.mp h
  cases a with
  | edit e =>
    cases hstep
    exact .edited e
  | pick p =>
    cases hstep
    exact .picked p
  | cancelPick =>
    cases hstep
    exact .cancelled
  | post today =>
    simp only [PostingScreen.step] at hstep
    split at hstep
    · cases hstep
      have hlast : ∀ post : Post K, (w.state.posts ++ [post])[w.taps.length]? = some post := by
        intro post
        rw [sameLength, List.getElem?_concat_length]
      simp only [watch, hlast]
      exact .posted today _ rfl
    · cases hstep
      have hnone : w.state.posts[w.taps.length]? = none :=
        List.getElem?_eq_none (le_of_eq sameLength.symm)
      simp only [watch, hnone]
      exact .invalid today
  | uploaded i upload today =>
    simp only [PostingScreen.step] at hstep
    split at hstep
    · rename_i amenities index length urls hpost
      cases hstep
      simp only [watch, getElem?_set_of_some _ hpost]
      exact .uploaded hpost rfl _ rfl
    · cases hstep
  | commit i id =>
    simp only [PostingScreen.step] at hstep
    split at hstep
    · rename_i amenities room hpost
      split at hstep
      · cases hstep
      · rename_i added hadd
        cases hstep
        obtain ⟨fresh, rfl, _⟩ := w.state.rooms.add_cases hadd
        simp only [watch, State.setPhase, getElem?_set_of_some _ hpost, Option.bind_some, room?]
        exact .committed hpost rfl fresh
    · cases hstep
  | addFails i =>
    simp only [PostingScreen.step] at hstep
    split at hstep
    · rename_i amenities room hpost
      cases hstep
      exact .addFailed hpost rfl
    · cases hstep
  | finish i =>
    simp only [PostingScreen.step] at hstep
    split at hstep
    · rename_i amenities room storedAs hpost
      cases hstep
      exact .finished hpost rfl
    · cases hstep

end Steps

section Fitting
variable {K : Type} {T : DoubleText K} {user : Option User} {rooms : Collection String (Map K)}

/-- The room was made of the form that was read and of the answers so far. -/
def Made (T : DoubleText K) (user : Option User) (tap : Tap K) (room : Rooms K) : Prop :=
  ∃ form today, tap.read = some form ∧
    buildRoom T user form (selectedAmenities tap.form) tap.answers.reduceOption today = .ok room

structure FitsPhase (T : DoubleText K) (user : Option User) (tap : Tap K) (phase : Phase K) :
    Prop where
  uploading : ∀ index length urls, phase = .uploading index length urls →
    urls = tap.answers.reduceOption
  made : ∀ room, room? phase = some room → Made T user tap room
  stored : tap.stored = ((room? phase).bind fun room =>
    (storedAs? phase).map fun id => (id, room)).toList
  reset : ¬ Over phase → tap.found = none
  notReset : phase = .failed → tap.found = none

structure Fits (T : DoubleText K) (user : Option User) (post : Post K) (tap : Tap K) : Prop where
  amenities : post.selectedAmenities = selectedAmenities tap.form
  phase : FitsPhase T user tap post.phase

structure WatchOk (T : DoubleText K) (user : Option User) (rooms : Collection String (Map K))
    (w : Watched K) : Prop where
  sameUser : w.state.user = user
  sameLength : w.taps.length = w.state.posts.length
  fits : ∀ (i : Nat) post tap, w.state.posts[i]? = some post → w.taps[i]? = some tap →
    Fits T user post tap
  stores : Stores rooms w

theorem buildRoom_ok_iff {form : Form K} (amenities urls : List String) (today : String) :
    (∃ room, buildRoom T user form amenities urls today = .ok room) ↔ Readable T user form := by
  constructor
  · rintro ⟨room, h⟩
    obtain ⟨u, huser, h⟩ := bind_eq_ok.mp h
    obtain ⟨latitude, hlatitude, h⟩ := bind_eq_ok.mp h
    obtain ⟨longitude, hlongitude, h⟩ := bind_eq_ok.mp h
    obtain ⟨price, hprice, _⟩ := bind_eq_ok.mp h
    refine ⟨?_, ?_, ?_, price, hprice⟩
    · rintro rfl
      cases huser
    · rw [late_eq_ok.mp hlatitude]
      exact Option.some_ne_none latitude
    · rw [late_eq_ok.mp hlongitude]
      exact Option.some_ne_none longitude
  · rintro ⟨huser, hlatitude, hlongitude, price, hprice⟩
    obtain ⟨u, rfl⟩ := Option.ne_none_iff_exists'.mp huser
    obtain ⟨latitude, hlatitude⟩ := Option.ne_none_iff_exists'.mp hlatitude
    obtain ⟨longitude, hlongitude⟩ := Option.ne_none_iff_exists'.mp hlongitude
    rw [buildRoom, hlatitude, hlongitude, hprice]
    exact ⟨_, rfl⟩

/-- Where the loop over the pictures stands after `moveNext`. -/
theorem next_cases (T : DoubleText K) (user : Option User) (form : Form K) (post : Post K)
    (index length : Nat) (urls : List String) (today : String) :
    (post.next T user form index length urls today = { post with phase := .failed } ∧
      ¬ (form.selectedImages.length = length ∧ (index < length ∨ Readable T user form))) ∨
    (post.next T user form index length urls today =
        { post with phase := .uploading index length urls } ∧
      form.selectedImages.length = length ∧ (index < length ∨ Readable T user form)) ∨
    (∃ room, post.next T user form index length urls today = { post with phase := .creating room } ∧
      buildRoom T user form post.selectedAmenities urls today = .ok room ∧
      form.selectedImages.length = length ∧ (index < length ∨ Readable T user form)) := by
  have hmoved := next_moved T user form post index length urls today
  generalize post.next T user form index length urls today = new at hmoved ⊢
  cases hmoved with
  | listChanged hlength => exact Or.inl ⟨rfl, fun h => hlength h.1⟩
  | nextImage hlength hindex => exact Or.inr (Or.inl ⟨rfl, hlength, Or.inl hindex⟩)
  | unreadable hlength hindex hbuild =>
    refine Or.inl ⟨rfl, ?_⟩
    rintro ⟨_, hlt | hreadable⟩
    · exact hindex hlt
    · obtain ⟨room, hroom⟩ := (buildRoom_ok_iff post.selectedAmenities urls today).mpr hreadable
      cases hbuild.symm.trans hroom
  | @built hlength hindex room hbuild =>
    have hreadable := (buildRoom_ok_iff _ _ _).mp ⟨room, hbuild⟩
    exact Or.inr (Or.inr ⟨room, rfl, hbuild, hlength, Or.inr hreadable⟩)

theorem fitsPhase_failed {tap : Tap K} (hstored : tap.stored = []) (hfound : tap.found = none) :
    FitsPhase T user tap .failed where
  uploading _ _ _ h := by cases h
  made _ h := by cases h
  stored := hstored
  reset _ := hfound
  notReset _ := hfound

/-- The loop over the pictures moves on from answers that are all in. -/
theorem fits_next {form : Form K} {post : Post K} (tap : Tap K) {index length : Nat}
    {today : String} (amenities : post.selectedAmenities = selectedAmenities tap.form)
    (hstored : tap.stored = []) (hfound : tap.found = none) {new : Post K}
    (hnew : new = post.next T user form index length tap.answers.reduceOption today) :
    Fits T user new (tap.moveNext form new) := by
  rcases next_cases T user form post index length tap.answers.reduceOption today with
    ⟨hnext, _⟩ | ⟨hnext, _⟩ | ⟨room, hnext, hbuild, _⟩
  · rw [hnew, hnext]
    exact ⟨amenities, fitsPhase_failed hstored hfound⟩
  · rw [hnew, hnext]
    refine ⟨amenities, ?_, ?_, hstored, fun _ => hfound, fun _ => hfound⟩
    · intro _ _ _ hphase
      cases hphase
      rfl
    · intro _ hroom
      cases hroom
  · rw [hnew, hnext]
    rw [amenities] at hbuild
    refine ⟨amenities, ?_, ?_, hstored, fun _ => hfound, fun _ => hfound⟩
    · intro _ _ _ hphase
      cases hphase
    · intro _ hroom
      cases hroom
      exact ⟨form, today, rfl, hbuild⟩

theorem modify_cases {taps : List (Tap K)} {i j : Nat} {f : Tap K → Tap K} {tap : Tap K}
    (h : (taps.modify i f)[j]? = some tap) :
    (j = i ∧ ∃ old, taps[i]? = some old ∧ tap = f old) ∨ (j ≠ i ∧ taps[j]? = some tap) := by
  rw [List.getElem?_modify] at h
  by_cases hij : i = j
  · simp only [hij, if_true, Option.map_eq_map, Option.map_eq_some_iff] at h
    obtain ⟨old, hold, rfl⟩ := h
    exact Or.inl ⟨hij.symm, old, by rw [hij]; exact hold, rfl⟩
  · simp only [if_neg hij, Option.map_eq_map, Option.map_id_fun', id] at h
    exact Or.inr ⟨Ne.symm hij, h⟩

theorem set_modify_cases {posts : List (Post K)} {taps : List (Tap K)} {i j : Nat} {new : Post K}
    {f : Tap K → Tap K} {post : Post K} {tap : Tap K} (hpost : (posts.set i new)[j]? = some post)
    (htap : (taps.modify i f)[j]? = some tap) :
    (j = i ∧ post = new ∧ ∃ old, taps[i]? = some old ∧ tap = f old) ∨
      (j ≠ i ∧ posts[j]? = some post ∧ taps[j]? = some tap) := by
  rcases getElem?_set_cases hpost with ⟨rfl, rfl⟩ | ⟨hne, hsame⟩
  · rcases modify_cases htap with ⟨_, old⟩ | ⟨hne, _⟩
    · exact Or.inl ⟨rfl, rfl, old⟩
    · exact absurd rfl hne
  · rcases modify_cases htap with ⟨rfl, _⟩ | ⟨_, htap⟩
    · exact absurd rfl hne
    · exact Or.inr ⟨hne, hsame, htap⟩

/-- All other taps fit as before. -/
theorem fits_moved {posts : List (Post K)} {taps : List (Tap K)} {i : Nat} {new : Post K}
    {f : Tap K → Tap K}
    (fits : ∀ (j : Nat) post tap, posts[j]? = some post → taps[j]? = some tap →
      Fits T user post tap)
    (hnew : ∀ tap, taps[i]? = some tap → Fits T user new (f tap)) (j : Nat) (post : Post K)
    (tap : Tap K) (hpost : (posts.set i new)[j]? = some post)
    (htap : (taps.modify i f)[j]? = some tap) : Fits T user post tap := by
  rcases set_modify_cases hpost htap with ⟨rfl, rfl, old, hold, rfl⟩ | ⟨_, hpost, htap⟩
  · exact hnew old hold
  · exact fits j post tap hpost htap

theorem fits_concat {posts : List (Post K)} {taps : List (Tap K)} {new : Post K} {newTap : Tap K}
    (sameLength : taps.length = posts.length)
    (fits : ∀ (j : Nat) post tap, posts[j]? = some post → taps[j]? = some tap →
      Fits T user post tap)
    (hnew : Fits T user new newTap) (j : Nat) (post : Post K) (tap : Tap K)
    (hpost : (posts ++ [new])[j]? = some post) (htap : (taps ++ [newTap])[j]? = some tap) :
    Fits T user post tap := by
  rcases getElem?_concat_cases hpost with hold | ⟨hnone, rfl⟩
  · rcases getElem?_concat_cases htap with htap | ⟨htap, _⟩
    · exact fits j post tap hold htap
    · obtain ⟨hj, _⟩ := List.getElem?_eq_some_iff.mp hold
      have hge := List.getElem?_eq_none_iff.mp htap
      omega
  · rcases getElem?_concat_cases htap with htap | ⟨_, rfl⟩
    · obtain ⟨hj, _⟩ := List.getElem?_eq_some_iff.mp htap
      have hge := List.getElem?_eq_none_iff.mp hnone
      omega
    · exact hnew

theorem exists_mem_modify {Q : Tap K → Prop} {R : Prop} {taps : List (Tap K)} {i : Nat}
    {f : Tap K → Tap K} {old : Tap K} (hold : taps[i]? = some old) (hQ : Q (f old) ↔ Q old ∨ R) :
    (∃ tap ∈ taps.modify i f, Q tap) ↔ (∃ tap ∈ taps, Q tap) ∨ R := by
  induction taps generalizing i with
  | nil => cases hold
  | cons tap taps ih =>
    cases i with
    | zero =>
      cases hold
      simp only [List.modify_zero_cons, List.exists_mem_cons_iff, hQ]
      exact or_right_comm
    | succ i =>
      simp only [List.modify_succ_cons, List.exists_mem_cons_iff, ih (i := i) (by simpa using hold)]
      exact or_assoc.symm

theorem stores_modify {w : Watched K} {t : State K} {resets : Nat} {i : Nat} {f : Tap K → Tap K}
    {old : Tap K} (hs : Stores rooms w) (hold : w.taps[i]? = some old)
    (same : (f old).stored = old.stored) (hrooms : t.rooms = w.state.rooms) :
    Stores rooms ⟨t, w.taps.modify i f, resets⟩ := by
  intro d
  simp only [hrooms]
  rw [exists_mem_modify (R := False) hold (by rw [same, or_false]), or_false]
  exact hs d

theorem moveNext_stored (tap : Tap K) (form : Form K) (post : Post K) :
    (tap.moveNext form post).stored = tap.stored := by
  unfold Tap.moveNext
  split <;> rfl

theorem stores_committed {w : Watched K} {t : State K} {i : Nat} {id : String} {room : Rooms K}
    {old : Tap K} (hs : Stores rooms w) (hold : w.taps[i]? = some old)
    (fresh : w.state.rooms.contains id = false)
    (hrooms : t.rooms = w.state.rooms.set id room.toJson) :
    Stores rooms ⟨t, w.taps.modify i fun tap => tap.store id room, w.resets⟩ := by
  intro d
  have hQ : (∃ p ∈ (old.store id room).stored, d = ⟨p.1, p.2.toJson⟩) ↔
      (∃ p ∈ old.stored, d = ⟨p.1, p.2.toJson⟩) ∨ d = ⟨id, room.toJson⟩ := by
    simp only [Tap.store, List.mem_append, List.mem_singleton, or_and_right, exists_or,
      exists_eq_left]
  have hdocs : d ∈ t.rooms.docs ↔ d ∈ w.state.rooms.docs ∨ d = ⟨id, room.toJson⟩ := by
    rw [hrooms, Collection.mem_set]
    constructor
    · rintro (h | ⟨h, _⟩)
      · exact Or.inr h
      · exact Or.inl h
    · rintro (h | h)
      · refine Or.inr ⟨h, ?_⟩
        rintro rfl
        have hcontains := (w.state.rooms.contains_iff d.id).mpr ⟨d, h, rfl⟩
        rw [fresh] at hcontains
        cases hcontains
      · exact Or.inl h
  change d ∈ t.rooms.docs ↔ d ∈ rooms.docs ∨
    ∃ tap ∈ w.taps.modify i fun tap => tap.store id room, ∃ p ∈ tap.stored, d = ⟨p.1, p.2.toJson⟩
  rw [hdocs, exists_mem_modify hold hQ, hs d]
  exact or_assoc

theorem answered_reduceOption (tap : Tap K) (upload : Upload) :
    (tap.answered upload).answers.reduceOption =
      tap.answers.reduceOption ++ (uploadImage upload).toList := by
  simp only [Tap.answers, Tap.answered, List.map_append, List.map_cons, List.map_nil,
    List.reduceOption_append, List.reduceOption_singleton]

theorem initial_watchOk : WatchOk T user rooms (initial user rooms) where
  sameUser := rfl
  sameLength := rfl
  fits _ _ _ hpost := by cases hpost
  stores d := by simp [initial, PostingScreen.initial]

/-- Every post has a tap, which fits it. -/
theorem WatchOk.exists_fits {w : Watched K} (hw : WatchOk T user rooms w) {i : Nat}
    {post : Post K} (hpost : w.state.posts[i]? = some post) :
    ∃ tap, w.taps[i]? = some tap ∧ Fits T user post tap := by
  obtain ⟨hi, _⟩ := List.getElem?_eq_some_iff.mp hpost
  rw [← hw.sameLength] at hi
  have htap := List.getElem?_eq_getElem hi
  exact ⟨_, htap, hw.fits i post _ hpost htap⟩

theorem step_watchOk {w v : Watched K} {a : Action K} (hw : WatchOk T user rooms w)
    (h : step T w a = some v) : WatchOk T user rooms v := by
  cases step_noted hw.sameLength h with
  | edited e => exact ⟨hw.sameUser, hw.sameLength, hw.fits, hw.stores⟩
  | picked p => exact ⟨hw.sameUser, hw.sameLength, hw.fits, hw.stores⟩
  | cancelled => exact hw
  | invalid today => exact hw
  | posted today post hnext =>
    have fits : Fits T w.state.user post
        ((Tap.new w.state.form w.resets).moveNext w.state.form post) :=
      fits_next _ rfl rfl rfl hnext
    rw [hw.sameUser] at fits
    refine ⟨hw.sameUser, ?_, fits_concat hw.sameLength hw.fits fits, ?_⟩
    · simp [hw.sameLength]
    · intro d
      have hnone : ((Tap.new w.state.form w.resets).moveNext w.state.form post).stored = [] :=
        moveNext_stored _ _ _
      simp only [List.mem_append, List.mem_singleton, or_and_right, exists_or, exists_eq_left,
        hnone, List.not_mem_nil, false_and, exists_false, or_false]
      exact hw.stores d
  | @uploaded i upload _ _ _ _ _ _ hpost hurls post hnext =>
    obtain ⟨old, hold, amenities, hphase⟩ := hw.exists_fits hpost
    have hanswers : _ = (old.answered upload).answers.reduceOption :=
      hurls.trans (by rw [answered_reduceOption, hphase.uploading _ _ _ rfl])
    refine ⟨hw.sameUser, by simp [hw.sameLength], fits_moved hw.fits ?_,
      stores_modify hw.stores hold (moveNext_stored _ _ _) rfl⟩
    intro tap htap
    cases hold.symm.trans htap
    rw [hanswers, hw.sameUser] at hnext
    exact fits_next (old.answered upload) amenities hphase.stored (hphase.reset nofun) hnext
  | committed hpost hphase fresh =>
    obtain ⟨old, hold, amenities, hfits⟩ := hw.exists_fits hpost
    refine ⟨hw.sameUser, by simp [hw.sameLength, State.setPhase], fits_moved hw.fits ?_,
      stores_committed hw.stores hold fresh rfl⟩
    intro tap htap
    cases hold.symm.trans htap
    rw [hphase] at hfits
    refine ⟨amenities, nofun, hfits.made, ?_, fun _ => hfits.reset nofun, nofun⟩
    simp only [Tap.store, hfits.stored]
    rfl
  | addFailed hpost hphase =>
    obtain ⟨old, hold, amenities, hfits⟩ := hw.exists_fits hpost
    rw [hphase] at hfits
    refine ⟨hw.sameUser, by simp [hw.sameLength, State.setPhase], ?_, hw.stores⟩
    intro j post tap hpost' htap
    -- the tap stays as it is while its post moves on
    rcases getElem?_set_cases hpost' with ⟨rfl, rfl⟩ | ⟨_, hsame⟩
    · cases hold.symm.trans htap
      exact ⟨amenities, nofun, hfits.made, hfits.stored, fun _ => hfits.reset nofun, nofun⟩
    · exact hw.fits j post tap hsame htap
  | finished hpost hphase =>
    obtain ⟨old, hold, amenities, hfits⟩ := hw.exists_fits hpost
    rw [hphase] at hfits
    refine ⟨hw.sameUser, by simp [hw.sameLength, State.setPhase], fits_moved hw.fits ?_,
      stores_modify hw.stores hold rfl rfl⟩
    intro tap htap
    cases hold.symm.trans htap
    exact ⟨amenities, nofun, hfits.made, hfits.stored, fun h => absurd trivial h, nofun⟩

end Fitting

section Exact
variable {K : Type} {T : DoubleText K} {user : Option User} {rooms : Collection String (Map K)}

theorem reduceOption_map_some {answers : List (Option String)} (h : none ∉ answers) :
    answers.reduceOption.map some = answers := by
  induction answers with
  | nil => rfl
  | cons answer answers ih =>
    obtain ⟨hne, hrest⟩ := not_or.mp (mt List.mem_cons.mpr h)
    cases answer with
    | none => exact absurd rfl hne
    | some url => rw [List.reduceOption_cons_of_some, List.map_cons, ih hrest]

/-- A room is faithful to the tap exactly when the form that was read is. -/
theorem faithful_iff {tap : Tap K} {form : Form K} {room : Rooms K} {today : String}
    (hbuild : buildRoom T user form (selectedAmenities tap.form) tap.answers.reduceOption today =
      .ok room) : Faithful T tap room ↔ StillReads T tap form := by
  obtain ⟨u, _, h⟩ := bind_eq_ok.mp hbuild
  obtain ⟨latitude, hlatitude, h⟩ := bind_eq_ok.mp h
  obtain ⟨longitude, hlongitude, h⟩ := bind_eq_ok.mp h
  obtain ⟨price, hprice, h⟩ := bind_eq_ok.mp h
  have hlatitude := late_eq_ok.mp hlatitude
  have hlongitude := late_eq_ok.mp hlongitude
  cases h
  constructor
  · intro faithful
    obtain ⟨price', hprice', hsame⟩ := faithful.price
    obtain ⟨latitude', longitude', hlatitude', hlongitude', hlocation⟩ := faithful.location
    simp only [locationMap, Option.some.injEq, List.cons.injEq, Prod.mk.injEq, true_and, and_true,
      Value.str.injEq, Value.double.injEq, Double.fin.injEq] at hlocation
    obtain ⟨haddress, rfl, rfl⟩ := hlocation
    cases hsame
    exact ⟨Option.some.inj faithful.title, hprice.trans hprice'.symm,
      Option.some.inj faithful.description, Option.some.inj faithful.propertyType, haddress,
      hlatitude.trans hlatitude'.symm, hlongitude.trans hlongitude'.symm, faithful.files,
      faithful.images.2⟩
  · intro still
    refine ⟨congrArg some still.title, ⟨price, still.price.symm.trans hprice, rfl⟩,
      congrArg some still.description, congrArg some still.propertyType, rfl, ?_, still.files,
      congrArg some (reduceOption_map_some still.uploaded), still.uploaded⟩
    exact ⟨latitude, longitude, still.latitude.symm.trans hlatitude,
      still.longitude.symm.trans hlongitude, by rw [still.address]⟩

theorem faithful_congr {tap other : Tap K} {room : Rooms K} (hform : other.form = tap.form)
    (hfiles : other.files = tap.files) (huploads : other.uploads = tap.uploads) :
    Faithful T other room ↔ Faithful T tap room := by
  have hanswers : other.answers = tap.answers := by rw [Tap.answers, huploads, Tap.answers]
  constructor
  · rintro ⟨h1, h2, h3, h4, h5, h6, h7, h8⟩
    rw [hform] at h1 h2 h3 h4 h5 h6 h7
    rw [hfiles] at h7
    rw [hanswers] at h8
    exact ⟨h1, h2, h3, h4, h5, h6, h7, h8⟩
  · rintro ⟨h1, h2, h3, h4, h5, h6, h7, h8⟩
    rw [← hform] at h1 h2 h3 h4 h5 h6 h7
    rw [← hfiles] at h7
    rw [← hanswers] at h8
    exact ⟨h1, h2, h3, h4, h5, h6, h7, h8⟩

/-- After `moveNext` the tap is over only where no room can be made. -/
theorem outcome_next {form : Form K} {post new : Post K} (tap : Tap K) {index length : Nat}
    {urls : List String} {today : String} (hstored : tap.stored = []) (hfound : tap.found = none)
    (hnew : new = post.next T user form index length urls today) :
    Outcome T new (tap.moveNext form new) ↔
      (form.selectedImages.length = length ∧ (index < length ∨ Readable T user form)) ∨
        tap.NoFile := by
  rcases next_cases T user form post index length urls today with
    ⟨hnext, hbroken⟩ | ⟨hnext, hgoesOn⟩ | ⟨room, hnext, _, hgoesOn⟩
  · rw [hnew, hnext, or_iff_right hbroken]
    constructor
    · rintro (⟨id, room, hone, _⟩ | ⟨_, hleft⟩)
      · cases hstored.symm.trans hone
      · exact (hleft trivial).noImage
    · intro hnone
      refine Or.inr ⟨hstored, fun _ => ⟨hnone, ?_⟩⟩
      intro found hsome
      cases hfound.symm.trans hsome
  · rw [hnew, hnext]
    exact ⟨fun _ => Or.inl hgoesOn, fun _ => Or.inr ⟨hstored, fun h => h.elim⟩⟩
  · rw [hnew, hnext]
    exact ⟨fun _ => Or.inl hgoesOn, fun _ => Or.inr ⟨hstored, fun h => h.elim⟩⟩

theorem outcomes_moved {posts : List (Post K)} {taps : List (Tap K)} {i : Nat} {before new : Post K}
    {old : Tap K} {f : Tap K → Tap K} (all : Outcomes T posts taps)
    (hpost : posts[i]? = some before) (hold : taps[i]? = some old) :
    Outcomes T (posts.set i new) (taps.modify i f) ↔ Outcome T new (f old) := by
  have hself : (taps.modify i f)[i]? = some (f old) := by
    simp [hold]
  constructor
  · intro h
    obtain ⟨tap, htap, outcome⟩ := h i new (getElem?_set_of_some new hpost)
    cases hself.symm.trans htap
    exact outcome
  · intro outcome j post hj
    rcases getElem?_set_cases hj with ⟨rfl, rfl⟩ | ⟨hne, hsame⟩
    · exact ⟨f old, hself, outcome⟩
    · obtain ⟨tap, htap, houtcome⟩ := all j post hsame
      refine ⟨tap, ?_, houtcome⟩
      simp [Ne.symm hne, htap]

theorem once_modify {taps : List (Tap K)} {i : Nat} {old : Tap K} {f : Tap K → Tap K}
    (once : Once taps) (hold : taps[i]? = some old) (same : SameFilling (f old) old) :
    Once (taps.modify i f) ↔ ((f old).stored ≠ [] → ∀ (j : Nat) other, j ≠ i →
      taps[j]? = some other → other.stored ≠ [] → ¬ SameFilling old other) := by
  have hself : (taps.modify i f)[i]? = some (f old) := by
    simp [hold]
  constructor
  · intro h hstored j other hne hother hother' hsame
    have hj : (taps.modify i f)[j]? = some other := by
      simp [Ne.symm hne, hother]
    exact h i j _ other (Ne.symm hne) hself hj hstored hother'
      ⟨same.1.trans hsame.1, same.2.trans hsame.2⟩
  · intro h j k tap other hne htap hother hstored hstored' hsame
    rcases modify_cases htap with ⟨rfl, x, hx, rfl⟩ | ⟨hji, htap'⟩
    · cases hold.symm.trans hx
      rcases modify_cases hother with ⟨rfl, _⟩ | ⟨hki, hother'⟩
      · exact hne rfl
      · exact h hstored k other hki hother' hstored'
          ⟨same.1.symm.trans hsame.1, same.2.symm.trans hsame.2⟩
    · rcases modify_cases hother with ⟨rfl, x, hx, rfl⟩ | ⟨_, hother'⟩
      · cases hold.symm.trans hx
        exact h hstored' j tap hji htap' hstored
          ⟨same.1.symm.trans hsame.1.symm, same.2.symm.trans hsame.2.symm⟩
      · exact once j k tap other hne htap' hother' hstored hstored' hsame

/-- A tap that stores nothing new leaves every form stored at most once. -/
theorem once_same {taps : List (Tap K)} {i : Nat} {old : Tap K} {f : Tap K → Tap K}
    (once : Once taps) (hold : taps[i]? = some old) (same : SameFilling (f old) old)
    (hstored : (f old).stored = old.stored) : Once (taps.modify i f) := by
  refine (once_modify once hold same).mpr ?_
  intro hne j other hji hother hother'
  rw [hstored] at hne
  exact once i j old other (Ne.symm hji) hold hother hne hother'

theorem moveNext_sameFilling (tap : Tap K) (form : Form K) (post : Post K) :
    SameFilling (tap.moveNext form post) tap := by
  unfold Tap.moveNext
  split <;> exact ⟨rfl, rfl⟩

/-- A new tap has stored nothing yet. -/
theorem once_concat {taps : List (Tap K)} {new : Tap K} (once : Once taps)
    (hnew : new.stored = []) : Once (taps ++ [new]) := by
  intro i j tap other hne htap hother hstored hstored'
  rcases getElem?_concat_cases htap with htap | ⟨_, rfl⟩
  · rcases getElem?_concat_cases hother with hother | ⟨_, rfl⟩
    · exact once i j tap other hne htap hother hstored hstored'
    · exact absurd hnew hstored'
  · exact absurd hnew hstored

theorem outcomes_concat {posts : List (Post K)} {taps : List (Tap K)} {new : Post K}
    {newTap : Tap K} (sameLength : taps.length = posts.length) (all : Outcomes T posts taps)
    (hnew : Outcome T new newTap) : Outcomes T (posts ++ [new]) (taps ++ [newTap]) := by
  intro j post hj
  rcases getElem?_concat_cases hj with hold | ⟨hnone, rfl⟩
  · obtain ⟨tap, htap, outcome⟩ := all j post hold
    obtain ⟨hlt, _⟩ := List.getElem?_eq_some_iff.mp htap
    exact ⟨tap, (List.getElem?_append_left hlt).trans htap, outcome⟩
  · refine ⟨newTap, ?_, hnew⟩
    obtain ⟨hlt, _⟩ := List.getElem?_eq_some_iff.mp hj
    rw [List.getElem?_eq_none_iff] at hnone
    rw [List.length_append, List.length_singleton] at hlt
    have hlast : j = taps.length := by omega
    rw [hlast, List.getElem?_concat_length]

theorem outcome_store {post : Post K} {tap : Tap K} {id : String} {room : Rooms K}
    (hstored : tap.stored = []) :
    Outcome T post (tap.store id room) ↔ Faithful T tap room := by
  have hone : (tap.store id room).stored = [(id, room)] := by
    rw [Tap.store, hstored]
    rfl
  have same : ∀ room', Faithful T (tap.store id room) room' ↔ Faithful T tap room' :=
    fun room' => faithful_congr rfl rfl rfl
  simp only [Outcome, hone, same]
  constructor
  · rintro (⟨_, _, hsame, faithful⟩ | ⟨hnil, _⟩)
    · cases hsame
      exact faithful
    · cases hnil
  · intro faithful
    exact Or.inl ⟨id, room, rfl, faithful⟩

/-- A tap that has stored its room stays faithful when the form is reset. -/
theorem outcome_reset_stored {post post' : Post K} {tap : Tap K} {form : Form K}
    (hstored : tap.stored ≠ []) (outcome : Outcome T post tap) :
    Outcome T post' (tap.reset form) := by
  rcases outcome with ⟨id, room, hone, faithful⟩ | ⟨hnil, _⟩
  · have same : Faithful T (tap.reset form) room ↔ Faithful T tap room :=
      faithful_congr rfl rfl rfl
    exact Or.inl ⟨id, room, hone, same.mpr faithful⟩
  · exact absurd hnil hstored

theorem outcome_reset_empty {post : Post K} {tap : Tap K} {form : Form K} (isOver : Over post.phase)
    (hstored : tap.stored = []) : Outcome T post (tap.reset form) ↔
      tap.NoFile ∧ form.reset = form := by
  constructor
  · rintro (⟨id, room, hone, _⟩ | ⟨_, hleft⟩)
    · cases hstored.symm.trans hone
    · exact ⟨(hleft isOver).noImage, (hleft isOver).noReset form rfl⟩
  · rintro ⟨hnone, hform⟩
    refine Or.inr ⟨hstored, fun _ => ⟨hnone, ?_⟩⟩
    intro found hfound
    cases hfound
    exact hform

/-- One step keeps posting atomic and faithful exactly under the condition. -/
theorem atomic_step_iff {w v : Watched K} {a : Action K} (hw : WatchOk T user rooms w)
    (ha : Atomic T rooms w) (h : step T w a = some v) :
    Atomic T rooms v ↔ KeepsAtomic T w a := by
  have hv := step_watchOk hw h
  have parts : Atomic T rooms v ↔ Outcomes T v.state.posts v.taps ∧ Once v.taps :=
    ⟨fun h => ⟨h.outcomes, h.once⟩, fun h => ⟨hv.stores, h.1, h.2⟩⟩
  rw [parts]
  cases step_noted hw.sameLength h with
  | edited e => exact ⟨fun _ => trivial, fun _ => ⟨ha.outcomes, ha.once⟩⟩
  | picked p => exact ⟨fun _ => trivial, fun _ => ⟨ha.outcomes, ha.once⟩⟩
  | cancelled => exact ⟨fun _ => trivial, fun _ => ⟨ha.outcomes, ha.once⟩⟩
  | invalid today => exact ⟨fun _ => trivial, fun _ => ⟨ha.outcomes, ha.once⟩⟩
  | posted today post hnext =>
    have outcome := (outcome_next (Tap.new w.state.form w.resets) rfl rfl hnext).mpr
      (Or.inr (fun _ h => absurd h List.not_mem_nil))
    exact ⟨fun _ => trivial, fun _ => ⟨outcomes_concat hw.sameLength ha.outcomes outcome,
      once_concat ha.once (moveNext_stored _ _ _)⟩⟩
  | @uploaded i upload today amenities index length _ _ hpost _ post hnext =>
    obtain ⟨old, hold, _, hfits⟩ := hw.exists_fits hpost
    have once : Once (w.taps.modify i fun tap =>
        (tap.answered upload).moveNext w.state.form post) :=
      once_same ha.once hold (moveNext_sameFilling _ _ _) (moveNext_stored _ _ _)
    have hfile : (old.answered upload).NoFile ↔ old.NoFile ∧ upload = .putFails := by
      simp [Tap.NoFile, Tap.answered, or_imp, forall_and]
    rw [and_iff_left once, outcomes_moved ha.outcomes hpost hold,
      outcome_next (old.answered upload) hfits.stored (hfits.reset nofun) hnext, hfile]
    constructor
    · intro hcond _ _ _ _ tap hpost' htap
      cases hpost.symm.trans hpost'
      cases hold.symm.trans htap
      exact hcond
    · intro hcond
      exact hcond _ _ _ _ old hpost hold
  | @committed i id post room hpost hphase fresh =>
    obtain ⟨old, hold, _, hfits⟩ := hw.exists_fits hpost
    rw [hphase] at hfits
    obtain ⟨form, today, hread, hbuild⟩ := hfits.made room rfl
    refine (and_congr (outcomes_moved ha.outcomes hpost hold)
      (once_modify ha.once hold ⟨rfl, rfl⟩)).trans ?_
    rw [outcome_store hfits.stored, faithful_iff hbuild]
    constructor
    · rintro ⟨still, honce⟩ post' room' tap hpost' hphase' _ htap
      cases hold.symm.trans htap
      exact ⟨⟨form, hread, still⟩, honce (by simp [Tap.store])⟩
    · intro hcond
      obtain ⟨⟨form', hread', still⟩, honce⟩ := hcond post room old hpost hphase fresh hold
      cases hread.symm.trans hread'
      exact ⟨still, fun _ => honce⟩
  | @addFailed i post room hpost hphase =>
    refine ⟨fun _ => trivial, fun _ => ⟨?_, ha.once⟩⟩
    intro j post' hj
    rcases getElem?_set_cases hj with ⟨rfl, rfl⟩ | ⟨_, hsame⟩
    · obtain ⟨old, hold, _, hfits⟩ := hw.exists_fits hpost
      rw [hphase] at hfits
      exact ⟨old, hold, Or.inr ⟨hfits.stored, fun h => h.elim⟩⟩
    · exact ha.outcomes j post' hsame
  | @finished i post room storedAs hpost hphase =>
    obtain ⟨old, hold, _, hfits⟩ := hw.exists_fits hpost
    rw [hphase] at hfits
    have once : Once (w.taps.modify i fun tap => tap.reset w.state.form) :=
      once_same ha.once hold ⟨rfl, rfl⟩ rfl
    refine (and_iff_left once).trans ((outcomes_moved ha.outcomes hpost hold).trans ?_)
    cases storedAs with
    | none =>
      rw [outcome_reset_empty (by trivial) hfits.stored]
      constructor
      · intro hcond _ _ tap _ _ htap
        cases hold.symm.trans htap
        exact hcond
      · intro hcond
        exact hcond post room old hpost hphase hold
    | some id =>
      obtain ⟨tap, htap, outcome⟩ := ha.outcomes i post hpost
      cases hold.symm.trans htap
      have hstored : old.stored ≠ [] := by
        rw [hfits.stored]
        exact List.cons_ne_nil _ _
      constructor
      · intro _ post' room' tap' hpost' hphase' _
        cases hpost.symm.trans hpost'
        rw [hphase] at hphase'
        cases hphase'
      · intro _
        exact outcome_reset_stored hstored outcome

theorem initial_atomic : Atomic T rooms (initial user rooms) where
  stores := (initial_watchOk : WatchOk T user rooms (initial user rooms)).stores
  outcomes _ _ hpost := by cases hpost
  once _ _ _ _ _ htap := by cases htap

theorem keepsAtomic_of_stuck {w : Watched K} {a : Action K} (h : step T w a = none) :
    KeepsAtomic T w a := by
  rw [step, Option.map_eq_none_iff] at h
  cases a with
  | uploaded i upload today =>
    intro amenities index length urls tap hpost
    simp [PostingScreen.step, hpost] at h
  | commit i id =>
    rintro ⟨amenities, phase⟩ room tap hpost rfl fresh
    simp [PostingScreen.step, hpost, Collection.add, fresh] at h
  | finish i =>
    rintro ⟨amenities, phase⟩ room tap hpost rfl
    simp [PostingScreen.step, hpost] at h
  | _ => trivial

end Exact

/-- Posting is atomic and faithful in every state of a run if and only if every
step of it keeps to the condition. -/
theorem postsAtomically_iff {K : Type} (T : DoubleText K) (user : Option User)
    (rooms : Collection String (Map K)) (acts : List (Action K)) :
    PostsAtomically T user rooms acts ↔
      Along (step T) (KeepsAtomic T) (initial user rooms) acts :=
  reached_iff_along (WatchOk T user rooms) (Atomic T rooms) (KeepsAtomic T)
    (fun _ _ _ hw h => step_watchOk hw h) (fun _ _ h => keepsAtomic_of_stuck h)
    (fun _ _ _ hw ha h => atomic_step_iff hw ha h) initial_watchOk initial_atomic acts

/-- All three texts are filled in, but no location has been picked. -/
def noPick (upload : Upload) : List (Action ℚ) :=
  [.edit (.title "Sunny flat"), .edit (.price "9000.0"), .edit (.description "Two rooms"),
    .edit (.addImage "front.jpg"), .post "2024-01-01", .uploaded 0 upload "2024-01-01"]

/-- The only tap has broken off after the upload. -/
def BrokenOff (upload : Upload) (w : Watched ℚ) : Prop :=
  w.state.posts.map (fun post => match post.phase with
    | .failed => true
    | _ => false) = [true] ∧
  w.taps.map (fun tap => (tap.stored.isEmpty, tap.uploads)) = [(true, [upload])]

instance (upload : Upload) : DecidablePred (BrokenOff upload) := fun _ => instDecidableAnd

theorem noPick_not_atomic {upload : Upload} (put : upload ≠ .putFails)
    (broken : ∃ w, run (step rationalText) (initial (some landlord) Collection.empty)
      (noPick upload) = some w ∧ BrokenOff upload w) :
    ¬ PostsAtomically rationalText (some landlord) Collection.empty (noPick upload) := by
  intro h
  obtain ⟨w, hrun, broken⟩ := broken
  obtain ⟨post, hposts, hphase⟩ := List.map_eq_singleton_iff.mp broken.1
  obtain ⟨tap, htaps, htap⟩ := List.map_eq_singleton_iff.mp broken.2
  obtain ⟨hstored, huploads⟩ := Prod.mk.inj htap
  have isOver : Over post.phase := by
    split at hphase
    · rename_i heq
      rw [heq]
      trivial
    · cases hphase
  have hpost : w.state.posts[0]? = some post := by
    rw [hposts]
    rfl
  obtain ⟨tap', htap', outcome⟩ := (h _ [] w (by simp) hrun).outcomes 0 post hpost
  rw [htaps] at htap'
  cases htap'
  rcases outcome with ⟨id, room, hone, _⟩ | ⟨_, hleft⟩
  · rw [hone] at hstored
    cases hstored
  · exact put ((hleft isOver).noImage upload (by rw [huploads]; exact List.mem_singleton_self _))

/-- Nothing is stored, and the picture is left behind, also where only the url
could not be fetched. -/
theorem not_postsAtomically :
    ¬ PostsAtomically rationalText (some landlord) Collection.empty
        (noPick (.done "https://storage/front.png")) ∧
      ¬ PostsAtomically rationalText (some landlord) Collection.empty (noPick .urlFails) :=
  ⟨noPick_not_atomic (by decide) (exists_of_check _ _ _ _ (by decide)),
    noPick_not_atomic (by decide) (exists_of_check _ _ _ _ (by decide))⟩

end AtomicPosting
