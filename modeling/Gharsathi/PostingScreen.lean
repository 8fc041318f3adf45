import Gharsathi.DartStrings
import Gharsathi.FirestoreCollection
import Gharsathi.Models
import Gharsathi.Runs

/-!
# The posting screen

The landlord fills in a form, picks a location and posts. `addRooms` collects
the amenities, uploads the images one after the other, and only then reads the
rest of the form; it awaits `createRoom`, which swallows its errors, and resets
the form. The landlord can go on editing at every await, and posts may overlap.
The reset puts the address back to `Not Set` and leaves the late coordinates.
-/

namespace PostingScreen

open DartDouble DartStrings DartValues FirestoreCollection Models Runs

structure User where
  uid : String
  displayName : Option String
  email : Option String

/-- What the location screen returns. -/
structure Pick (K : Type) where
  address : String
  latitude : K
  longitude : K

def amenitiesOptions : List String :=
  ["Gym", "School", "Hospital", "Swimming Pool", "Supermarkets", "Restaurants", "Healthcare",
    "Parks", "Banks", "Coffee Shops"]

structure Form (K : Type) where
  titleText : String
  priceText : String
  descriptionText : String
  address : String
  latitude : Option K
  longitude : Option K
  propertyType : String
  selectedImages : List String
  isSelected : Fin amenitiesOptions.length → Bool

/-- How far a call of `addRooms` has come. It holds an iterator over the images
and the urls so far, or the room it has built and the id it was stored under. -/
inductive Phase (K : Type) where
  | uploading (index length : Nat) (uploadedUrls : List String)
  | creating (room : Rooms K)
  | created (room : Rooms K) (storedAs : Option String)
  | finished (room : Rooms K) (storedAs : Option String)
  | failed

structure Post (K : Type) where
  selectedAmenities : List String
  phase : Phase K

structure State (K : Type) where
  user : Option User
  form : Form K
  rooms : Collection String (Map K)
  posts : List (Post K)
  shown : List String

/-- Everything the landlord can edit besides the location. -/
inductive Edit where
  | title (text : String)
  | price (text : String)
  | description (text : String)
  | propertyType (value : String)
  | amenity (i : Fin amenitiesOptions.length) (selected : Bool)
  | addImage (path : String)
  | removeImage (index : Nat)

/-- How a call of `uploadImage` goes. The file is there from `putFile` on, also
when `getDownloadURL` fails. -/
inductive Upload where
  | putFails
  | urlFails
  | done (url : String)
  deriving DecidableEq

inductive Action (K : Type) where
  | edit (e : Edit)
  | pick (p : Pick K)
  | cancelPick
  | post (today : String)
  | uploaded (i : Nat) (upload : Upload) (today : String)
  | commit (i : Nat) (id : String)
  | addFails (i : Nat)
  | finish (i : Nat)

section Machine
variable {K : Type}

def initialForm : Form K where
  titleText := ""
  priceText := ""
  descriptionText := ""
  address := "Not Set"
  latitude := none
  longitude := none
  propertyType := "Apartment"
  selectedImages := []
  isSelected _ := false

def initial (user : Option User) (rooms : Collection String (Map K)) : State K :=
  ⟨user, initialForm, rooms, [], []⟩

def Form.edit (f : Form K) : Edit → Form K
  | .title text => { f with titleText := text }
  | .price text => { f with priceText := text }
  | .description text => { f with descriptionText := text }
  | .propertyType value => { f with propertyType := value }
  | .amenity i selected =>
    { f with isSelected := fun j => if j = i then selected else f.isSelected j }
  | .addImage path => { f with selectedImages := f.selectedImages ++ [path] }
  | .removeImage index => { f with selectedImages := f.selectedImages.eraseIdx index }

def Form.setLocation (f : Form K) (p : Pick K) : Form K :=
  { f with address := p.address, latitude := some p.latitude, longitude := some p.longitude }

/-- The reset after a post; the coordinates and the property type stay. -/
def Form.reset (f : Form K) : Form K :=
  { f with
    titleText := ""
    priceText := "0.0"
    address := "Not Set"
    descriptionText := ""
    selectedImages := []
    isSelected := fun _ => false }

/-- The three validators. -/
def Form.validate (f : Form K) : Bool :=
  decide (f.titleText ≠ "") && decide (f.priceText ≠ "") && decide (f.descriptionText ≠ "")

/-- What `uploadImage` returns; its errors are swallowed. -/
def uploadImage : Upload → Option String
  | .putFails => none
  | .urlFails => none
  | .done url => some url

/-- The room made of the form once the images are uploaded. -/
def buildRoom (T : DoubleText K) (user : Option User) (form : Form K)
    (selectedAmenities uploadedUrls : List String) (today : String) : Result (Rooms K) := do
  let user ← nullCheck user
  let latitude ← late "latitude" form.latitude
  let longitude ← late "longitude" form.longitude
  let price ← T.parse form.priceText
  return {
    roomTitle := some form.titleText
    posterUid := some user.uid
    postedBy := user.displayName
    postedByEmail := user.email
    location := some (locationMap form.address latitude longitude)
    price := some price
    description := some form.descriptionText
    amenities := selectedAmenities
    images := some (uploadedUrls.map some)
    isBooked := 0
    propertyType := some form.propertyType
    postDate := today }

/-- The loop over the images from `moveNext` on, to the next await. -/
def Post.next (T : DoubleText K) (user : Option User) (form : Form K) (post : Post K)
    (index length : Nat) (uploadedUrls : List String) (today : String) : Post K :=
  if form.selectedImages.length ≠ length then
    -- the list has changed under the iterator
    { post with phase := .failed }
  else if index < length then
    { post with phase := .uploading index length uploadedUrls }
  else
    match buildRoom T user form post.selectedAmenities uploadedUrls today with
    | .error _ => { post with phase := .failed }
    | .ok room => { post with phase := .creating room }

def selectedAmenities (form : Form K) : List String :=
  ((List.finRange amenitiesOptions.length).filter form.isSelected).map amenitiesOptions.get

def State.setPhase (s : State K) (i : Nat) (post : Post K) (phase : Phase K) : State K :=
  { s with posts := s.posts.set i { post with phase := phase } }

def step (T : DoubleText K) (s : State K) : Action K → Option (State K)
  | .edit e => some { s with form := s.form.edit e }
  | .pick p => some { s with form := s.form.setLocation p }
  | .cancelPick => some s
  | .post today =>
    if s.form.validate then
      let post : Post K := ⟨selectedAmenities s.form, .uploading 0 0 []⟩
      let length := s.form.selectedImages.length
      some { s with posts := s.posts ++ [post.next T s.user s.form 0 length [] today] }
    else some s
  | .uploaded i upload today =>
    match s.posts[i]? with
    | some ⟨amenities, .uploading index length urls⟩ =>
      let urls := urls ++ (uploadImage upload).toList
      let post : Post K := ⟨amenities, .uploading index length urls⟩
      some { s with
        posts := s.posts.set i (post.next T s.user s.form (index + 1) length urls today) }
    | _ => none
  | .commit i id =>
    match s.posts[i]? with
    | some ⟨amenities, .creating room⟩ =>
      match s.rooms.add id room.toJson with
      | none => none
      | some rooms =>
        some { s.setPhase i ⟨amenities, .creating room⟩ (.created room (some id)) with
          rooms := rooms }
    | _ => none
  | .addFails i =>
    match s.posts[i]? with
    | some ⟨amenities, .creating room⟩ =>
      some (s.setPhase i ⟨amenities, .creating room⟩ (.created room none))
    | _ => none
  | .finish i =>
    match s.posts[i]? with
    | some ⟨amenities, .created room storedAs⟩ =>
      some { s.setPhase i ⟨amenities, .created room storedAs⟩ (.finished room storedAs) with
        form := s.form.reset
        shown := s.shown ++ ["Room added successfully"] }
    | _ => none

/-- What `moveNext` leaves of a post. -/
inductive Moved (T : DoubleText K) (user : Option User) (form : Form K) (post : Post K)
    (index length : Nat) (urls : List String) (today : String) : Post K → Prop where
  | listChanged (hlength : form.selectedImages.length ≠ length) :
      Moved T user form post index length urls today { post with phase := .failed }
  | nextImage (hlength : form.selectedImages.length = length) (hindex : index < length) :
      Moved T user form post index length urls today
        { post with phase := .uploading index length urls }
  | unreadable (hlength : form.selectedImages.length = length) (hindex : ¬ index < length)
      {e : DartError} (hbuild : buildRoom T user form post.selectedAmenities urls today = .error e) :
      Moved T user form post index length urls today { post with phase := .failed }
  | built (hlength : form.selectedImages.length = length) (hindex : ¬ index < length)
      {room : Rooms K} (hbuild : buildRoom T user form post.selectedAmenities urls today = .ok room) :
      Moved T user form post index length urls today { post with phase := .creating room }

theorem next_moved (T : DoubleText K) (user : Option User) (form : Form K) (post : Post K)
    (index length : Nat) (urls : List String) (today : String) :
    Moved T user form post index length urls today
      (post.next T user form index length urls today) := by
  unfold Post.next
  by_cases hlength : form.selectedImages.length = length
  · rw [if_neg (not_not.mpr hlength)]
    by_cases hindex : index < length
    · rw [if_pos hindex]
      exact .nextImage hlength hindex
    · rw [if_neg hindex]
      cases hbuild : buildRoom T user form post.selectedAmenities urls today with
      | error e => exact .unreadable hlength hindex hbuild
      | ok room => exact .built hlength hindex hbuild
  · rw [if_pos hlength]
    exact .listChanged hlength

/-- What a step can do. -/
inductive Did (T : DoubleText K) (s : State K) : Action K → State K → Prop where
  | edited (e : Edit) : Did T s (.edit e) { s with form := s.form.edit e }
  | picked (p : Pick K) : Did T s (.pick p) { s with form := s.form.setLocation p }
  | cancelled : Did T s .cancelPick s
  | invalid (today : String) : Did T s (.post today) s
  | posted (today : String) (post : Post K) (hphase : post.phase = .uploading 0 0 []) :
      Did T s (.post today) { s with
        posts := s.posts ++ [post.next T s.user s.form 0 s.form.selectedImages.length [] today] }
  | uploaded {i index length : Nat} {urls urls' : List String} {upload : Upload}
      {today : String} {post : Post K} (hpost : s.posts[i]? = some post)
      (hphase : post.phase = .uploading index length urls)
      (post' : Post K) (hphase' : post'.phase = .uploading index length urls') :
      Did T s (.uploaded i upload today) { s with
        posts := s.posts.set i (post'.next T s.user s.form (index + 1) length urls' today) }
  | committed {i : Nat} {id : String} {post : Post K} {room : Rooms K}
      (hpost : s.posts[i]? = some post) (hphase : post.phase = .creating room)
      (fresh : s.rooms.contains id = false) :
      Did T s (.commit i id) { s.setPhase i post (.created room (some id)) with
        rooms := s.rooms.set id room.toJson }
  | addFailed {i : Nat} {post : Post K} {room : Rooms K} (hpost : s.posts[i]? = some post)
      (hphase : post.phase = .creating room) :
      Did T s (.addFails i) (s.setPhase i post (.created room none))
  | finished {i : Nat} {post : Post K} {room : Rooms K} {storedAs : Option String}
      (hpost : s.posts[i]? = some post) (hphase : post.phase = .created room storedAs) :
      Did T s (.finish i) { s.setPhase i post (.finished room storedAs) with
        form := s.form.reset
        shown := s.shown ++ ["Room added successfully"] }

theorem step_did {T : DoubleText K} {s t : State K} {a : Action K} (h : step T s a = some t) :
    Did T s a t := by
  cases a with
  | edit e =>
    cases h
    exact .edited e
  | pick p =>
    cases h
    exact .picked p
  | cancelPick =>
    cases h
    exact .cancelled
  | post today =>
    simp only [step] at h
    split at h
    · cases h
      exact .posted today _ rfl
    · cases h
      exact .invalid today
  | uploaded i upload today =>
    simp only [step] at h
    split at h
    · rename_i amenities index length urls hpost
      cases h
      exact .uploaded hpost rfl _ rfl
    · cases h
  | commit i id =>
    simp only [step] at h
    split at h
    · rename_i amenities room hpost
      split at h
      · cases h
      · rename_i rooms hadd
        cases h
        obtain ⟨fresh, rfl, _⟩ := s.rooms.add_cases hadd
        exact .committed hpost rfl fresh
    · cases h
  | addFails i =>
    simp only [step] at h
    split at h
    · rename_i amenities room hpost
      cases h
      exact .addFailed hpost rfl
    · cases h
  | finish i =>
    simp only [step] at h
    split at h
    · rename_i amenities room storedAs hpost
      cases h
      exact .finished hpost rfl
    · cases h

end Machine

end PostingScreen
