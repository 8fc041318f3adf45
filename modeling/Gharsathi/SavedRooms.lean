import Gharsathi.RoomDetails
import Gharsathi.Runs
import Mathlib.Logic.Function.Basic

/-!
# Saved rooms

A room card asks once, when it is built, whether its room is saved, and keeps
the answer in `isSaved`; each tap on its bookmark deletes or sets a document of
the tenant's subcollection and flips `isSaved`. The id of that document is the
title of the room. Several cards of one room may be up at once, and a tap may
come before the answer to the question the card asked.
-/

namespace SavedRooms

open DartDouble DartValues FirestoreCollection Models RoomDetails Runs

/-- The subcollection `savedRooms` of every document of `users`. -/
abbrev Store (K : Type) := String → Collection String (Map K)

section Service
variable {K : Type}

/-- `collection('savedRooms').doc(roomId)`. -/
def savedRoomRef (roomId : String) : Result String :=
  if roomId = "" ∨ '/' ∈ roomId.toList then .error (.invalidDocumentPath roomId) else .ok roomId

def isRoomSaved (store : Store K) (userId : Option String) (roomId : String) : Result Bool :=
  match userId with
  | none => .ok false
  | some userId => do
    let savedRoomRef ← savedRoomRef roomId
    return (store userId).contains savedRoomRef

def toggleSaveRoom (store : Store K) (userId : Option String) (roomId : String)
    (roomData : Map K) (isSaved : Bool) (now : Int) : Result (Store K) :=
  match userId with
  | none => .ok store
  | some userId => do
    let savedRoomRef ← savedRoomRef roomId
    if isSaved then
      return Function.update store userId ((store userId).delete savedRoomRef)
    else
      return Function.update store userId
        ((store userId).set savedRoomRef (savedDocument roomData now))

end Service

/-- A room that is shown as a card. -/
structure ListedRoom (K : Type) [IntCast K] where
  data : Map K
  card : Roomcard K
  builds : ∀ id, roomcard ⟨id, data⟩ = .ok card
  titleNonempty : card.roomTitle ≠ ""

section Listed
variable {K : Type} [IntCast K]

theorem roomcard_ofPosted (id : String) (r : PostedRoom K) {postedBy image : String}
    {images : List String} (hposter : r.postedBy = some postedBy)
    (himages : r.images = image :: images) :
    roomcard (postedSnapshot id r) =
      .ok ⟨r.roomTitle, postedBy, r.description, r.address, r.price, image,
        r.amenities.map .str, r.propertyType, r.postDate⟩ := by
  simp [roomcard, field, postedSnapshot, Rooms.toJson, PostedRoom.toRooms, hposter, himages,
    Value.ofStringOrNull, Value.ofMapOrNull, Value.ofDoubleOrNull, Value.ofStrings,
    Value.numToDouble, Value.elementAt, Value.asList, bind, Except.bind, pure, Except.pure]

/-- A room is listed if its landlord has a name and it was posted with an image. -/
def ListedRoom.ofPosted (r : PostedRoom K) (postedBy image : String) (images : List String)
    (hposter : r.postedBy = some postedBy) (himages : r.images = image :: images) :
    ListedRoom K where
  data := r.toRooms.toJson
  card := ⟨r.roomTitle, postedBy, r.description, r.address, r.price, image,
    r.amenities.map .str, r.propertyType, r.postDate⟩
  builds id := roomcard_ofPosted id r hposter himages
  titleNonempty := r.titleNonempty

end Listed

/-- How far `_checkIfSaved` has come. -/
inductive Check where
  | asked
  | answered (saved : Bool)
  | done
  deriving DecidableEq

structure CardState where
  room : String
  check : Check
  isSaved : Bool
  deriving DecidableEq

/-- A tap on a bookmark, as a save or an unsave of a room. -/
structure Toggle where
  room : String
  isSave : Bool
  succeeded : Bool
  deriving DecidableEq

structure State (K : Type) where
  store : Store K
  cards : List CardState
  toggles : List Toggle

inductive Action where
  | build (room : String)
  | answer (card : Nat)
  | setSaved (card : Nat)
  | toggle (card : Nat) (now : Int)

section Machine
variable {K : Type}

def initial (store : Store K) : State K := ⟨store, [], []⟩

def State.setCard (s : State K) (i : Nat) (card : CardState) : State K :=
  { s with cards := s.cards.set i card }

variable [IntCast K]

def cardAt (rooms : Collection String (ListedRoom K)) (s : State K) (i : Nat) :
    Option (CardState × Roomcard K) :=
  match s.cards[i]? with
  | none => none
  | some card => (rooms.get? card.room).map (fun room => (card, room.card))

def step (rooms : Collection String (ListedRoom K)) (userId : Option String) (s : State K) :
    Action → Option (State K)
  | .build room =>
    if rooms.contains room then some { s with cards := s.cards ++ [⟨room, .asked, false⟩] }
    else none
  | .answer i =>
    match cardAt rooms s i with
    | some (⟨room, .asked, isSaved⟩, card) =>
      match isRoomSaved s.store userId card.roomTitle with
      | .error _ => some (s.setCard i ⟨room, .done, isSaved⟩)
      | .ok saved => some (s.setCard i ⟨room, .answered saved, isSaved⟩)
    | _ => none
  | .setSaved i =>
    match s.cards[i]? with
    | some ⟨room, .answered saved, _⟩ => some (s.setCard i ⟨room, .done, saved⟩)
    | _ => none
  | .toggle i now =>
    match cardAt rooms s i with
    | none => none
    | some (⟨room, check, isSaved⟩, card) =>
      match toggleSaveRoom s.store userId card.roomTitle card.roomData isSaved now with
      | .error _ => some { s with toggles := s.toggles ++ [⟨room, !isSaved, false⟩] }
      | .ok store =>
        some { s.setCard i ⟨room, check, !isSaved⟩ with
          store := store
          toggles := s.toggles ++ [⟨room, !isSaved, true⟩] }

/-- A row of the Saved screen. -/
structure ListTile (K : Type) where
  title : Value K
  subtitle : Value K
  price : Value K
  image : Option (Value K)

omit [IntCast K] in
def listTile (room : Map K) : ListTile K where
  title := (Map.get room "roomTitle").orElse (.str "No Title")
  subtitle := (Map.get room "location").orElse (.str "No Location")
  price := (Map.get room "price").orElse (.str "N/A")
  image := if (Map.get room "images").isNull then none else some (Map.get room "images")

/-- The rows `_TenantSavedScreenState.build` shows to a user. -/
def savedScreen (store : Store K) (userId : String) : List (ListTile K) :=
  (store userId).docs.map (fun d => listTile d.data)

/-- What a new card shows once its question is answered; an exception leaves
`isSaved` as it was. -/
def freshCard (store : Store K) (userId : Option String) (roomTitle : String) : Bool :=
  match isRoomSaved store userId roomTitle with
  | .error _ => false
  | .ok saved => saved

end Machine

section Steps
variable {K : Type}

def IsDocumentId (roomId : String) : Prop := roomId ≠ "" ∧ '/' ∉ roomId.toList

theorem savedRoomRef_ok {roomId : String} (h : IsDocumentId roomId) :
    savedRoomRef roomId = .ok roomId := by
  refine if_neg ?_
  rintro (hempty | hslash)
  · exact h.1 hempty
  · exact h.2 hslash

theorem savedRoomRef_error {roomId : String} (h : ¬ IsDocumentId roomId) :
    savedRoomRef roomId = .error (.invalidDocumentPath roomId) := by
  refine if_pos ?_
  by_contra hnot
  exact h (not_or.mp hnot)

/-- What a toggle makes of the subcollection. -/
def toggled (saved : Collection String (Map K)) (card : Roomcard K) (isSaved : Bool) (now : Int) :
    Collection String (Map K) :=
  if isSaved then saved.delete card.roomTitle
  else saved.set card.roomTitle (savedDocument card.roomData now)

theorem toggleSaveRoom_ok (store : Store K) (uid : String) (card : Roomcard K) (isSaved : Bool)
    (now : Int) (h : IsDocumentId card.roomTitle) :
    toggleSaveRoom store (some uid) card.roomTitle card.roomData isSaved now =
      .ok (Function.update store uid (toggled (store uid) card isSaved now)) := by
  simp only [toggleSaveRoom, savedRoomRef_ok h, toggled]
  cases isSaved <;> rfl

theorem toggleSaveRoom_error (store : Store K) (uid : String) (card : Roomcard K) (isSaved : Bool)
    (now : Int) (h : ¬ IsDocumentId card.roomTitle) :
    toggleSaveRoom store (some uid) card.roomTitle card.roomData isSaved now =
      .error (.invalidDocumentPath card.roomTitle) := by
  simp only [toggleSaveRoom, savedRoomRef_error h]
  rfl

theorem freshCard_eq (store : Store K) (uid : String) (roomTitle : String) :
    freshCard store (some uid) roomTitle = true ↔
      IsDocumentId roomTitle ∧ (store uid).contains roomTitle = true := by
  by_cases h : IsDocumentId roomTitle
  · simp [freshCard, isRoomSaved, savedRoomRef_ok h, h, bind, Except.bind, pure, Except.pure]
  · simp [freshCard, isRoomSaved, savedRoomRef_error h, h, bind, Except.bind]

variable [IntCast K]

inductive Did (rooms : Collection String (ListedRoom K)) (uid : String) (s : State K) :
    Action → State K → Prop where
  | built (d : Doc String (ListedRoom K)) (hd : d ∈ rooms.docs) :
      Did rooms uid s (.build d.id) { s with cards := s.cards ++ [⟨d.id, .asked, false⟩] }
  | answered {i : Nat} {isSaved : Bool} {d : Doc String (ListedRoom K)} (check : Check)
      (hd : d ∈ rooms.docs) (hcard : s.cards[i]? = some ⟨d.id, .asked, isSaved⟩)
      (hcheck : check = .answered true → freshCard s.store (some uid) d.data.card.roomTitle = true) :
      Did rooms uid s (.answer i) (s.setCard i ⟨d.id, check, isSaved⟩)
  | shown {i : Nat} {room : String} {saved isSaved : Bool}
      (hcard : s.cards[i]? = some ⟨room, .answered saved, isSaved⟩) :
      Did rooms uid s (.setSaved i) (s.setCard i ⟨room, .done, saved⟩)
  | toggled {i : Nat} {now : Int} {check : Check} {isSaved : Bool} {d : Doc String (ListedRoom K)}
      (hd : d ∈ rooms.docs) (hcard : s.cards[i]? = some ⟨d.id, check, isSaved⟩)
      (hid : IsDocumentId d.data.card.roomTitle) :
      Did rooms uid s (.toggle i now) { s.setCard i ⟨d.id, check, !isSaved⟩ with
        store := Function.update s.store uid (toggled (s.store uid) d.data.card isSaved now)
        toggles := s.toggles ++ [⟨d.id, !isSaved, true⟩] }
  | failed {i : Nat} {now : Int} {check : Check} {isSaved : Bool} {d : Doc String (ListedRoom K)}
      (hd : d ∈ rooms.docs) (hcard : s.cards[i]? = some ⟨d.id, check, isSaved⟩)
      (hid : ¬ IsDocumentId d.data.card.roomTitle) :
      Did rooms uid s (.toggle i now) { s with
        toggles := s.toggles ++ [⟨d.id, !isSaved, false⟩] }

theorem cardAt_eq_some {rooms : Collection String (ListedRoom K)} {s : State K} {i : Nat}
    {state : CardState} {card : Roomcard K} (h : cardAt rooms s i = some (state, card)) :
    s.cards[i]? = some state ∧ ∃ d ∈ rooms.docs, d.id = state.room ∧ d.data.card = card := by
  unfold cardAt at h
  split at h
  · cases h
  · rename_i found hfound
    obtain ⟨room, hroom, heq⟩ := Option.map_eq_some_iff.mp h
    cases heq
    exact ⟨hfound, ⟨state.room, room⟩, (rooms.get?_eq_some_iff _ _).mp hroom, rfl, rfl⟩

theorem step_did {rooms : Collection String (ListedRoom K)} {uid : String} {s t : State K}
    {a : Action} (h : step rooms (some uid) s a = some t) : Did rooms uid s a t := by
  cases a with
  | build room =>
    simp only [step] at h
    split at h
    · rename_i hroom
      obtain ⟨d, hd, rfl⟩ := (rooms.contains_iff room).mp hroom
      cases h
      exact .built d hd
    · cases h
  | answer i =>
    simp only [step] at h
    split at h
    · rename_i room isSaved card hcard
      obtain ⟨hstate, d, hd, rfl, rfl⟩ := cardAt_eq_some hcard
      split at h
      · cases h
        exact .answered .done hd hstate nofun
      · rename_i saved hsaved
        cases h
        refine .answered (.answered saved) hd hstate ?_
        rintro ⟨⟩
        simp only [freshCard, hsaved]
    · cases h
  | setSaved i =>
    simp only [step] at h
    split at h
    · rename_i hcard
      cases h
      exact .shown hcard
    · cases h
  | toggle i now =>
    simp only [step] at h
    split at h
    · cases h
    · rename_i room check isSaved card hcard
      obtain ⟨hstate, d, hd, rfl, rfl⟩ := cardAt_eq_some hcard
      by_cases hid : IsDocumentId d.data.card.roomTitle
      · rw [toggleSaveRoom_ok _ _ _ _ _ hid] at h
        cases h
        exact .toggled hd hstate hid
      · rw [toggleSaveRoom_error _ _ _ _ _ hid] at h
        cases h
        exact .failed hd hstate hid

/-- A card of a listed room can be built and its question answered, and then
it shows what `freshCard` says. -/
theorem freshCard_built (rooms : Collection String (ListedRoom K)) (uid : String) (s : State K)
    {d : Doc String (ListedRoom K)} (hd : d ∈ rooms.docs) :
    ∃ acts, run (step rooms (some uid)) s (.build d.id :: acts) = some { s with
      cards := s.cards ++
        [⟨d.id, .done, freshCard s.store (some uid) d.data.card.roomTitle⟩] } := by
  have hin : rooms.contains d.id = true := (rooms.contains_iff _).mpr ⟨d, hd, rfl⟩
  have hget : rooms.get? d.id = some d.data := (rooms.get?_eq_some_iff _ _).mpr hd
  cases hsaved : isRoomSaved s.store (some uid) d.data.card.roomTitle with
  | error e =>
    refine ⟨[.answer s.cards.length], ?_⟩
    simp [run, step, hin, cardAt, hget, hsaved, freshCard, State.setCard]
  | ok saved =>
    refine ⟨[.answer s.cards.length, .setSaved s.cards.length], ?_⟩
    simp [run, step, hin, cardAt, hget, hsaved, freshCard, State.setCard]

end Steps

end SavedRooms
