import Gharsathi.OwnRoomPage
import Gharsathi.RecordHistory
import Gharsathi.SharedStore

/-!
# The life of a room

Rooms are posted, moved to another location and deleted from any number of
devices, each in remote steps that answer when they please or not at all. A
landlord's list asks for the rooms with the own uid, a room page is opened from
a list that may be out of date, and stays open when its room is deleted
elsewhere. What was committed makes up a history, in which each change and each
deletion goes back to a page that could be opened by then.
-/

namespace RoomLifecycle

open DartDouble DartValues FirestoreCollection Models OwnRoomPage RecordHistory Runs
open PostingScreen (Pick)
open SharedStore (Guarantees System)

/-- A page, the user whose list it was opened from and the location it shows. -/
structure OpenRoom (K : Type) where
  owner : String
  page : LandlordRoomPage K
  location : String

/-- A call before its next remote step; those of a page are given by its place. -/
inductive Task (K : Type) where
  | creating (owner : String) (room : Rooms K)
  | deleting (page : Nat)
  | deleted (roomId : String)
  | getting (page : Nat) (pick : Pick K)
  | updating (page : Nat) (pick : Pick K)
  | ended

/-- A committed write, with the user whose post or whose page it came from. -/
abbrev Entry (K : Type) := String × Event String (Map K) (Pick K)

/-- `history` is kept beside the program's state. -/
structure Store (K : Type) where
  rooms : Collection String (Map K)
  history : List (Entry K)

/-- `listOwner` is the user the list of own rooms was built for, `snapshot` the
last answer to its query. -/
structure Device (K : Type) where
  currentUser : Option String
  listOwner : Option String
  snapshot : List (DocumentSnapshot K)
  pages : List (OpenRoom K)
  tasks : List (Task K)

/-- `lose` is a step that goes through while its answer does not arrive. -/
inductive Action (K : Type) where
  | session (uid : Option String)
  | openList
  | deliver
  | openRoom (i : Nat)
  | post (room : Rooms K)
  | delete (page : Nat)
  | relocate (page : Nat) (pick : Pick K)
  | proceed (i : Nat) (id : String)
  | lose (i : Nat) (id : String)
  | fail (i : Nat)

section Machine
variable {K : Type}

def initialStore : Store K := ⟨Collection.empty, []⟩

def newDevice : Device K := ⟨none, none, [], [], []⟩

def eventsOf (history : List (Entry K)) : List (Event String (Map K) (Pick K)) :=
  history.map Prod.snd

def Store.commit (store : Store K) (rooms : Collection String (Map K)) (owner : String)
    (event : Event String (Map K) (Pick K)) : Store K :=
  ⟨rooms, store.history ++ [(owner, event)]⟩

/-- The query of the landlord's list. -/
def ownRooms (rooms : Collection String (Map K)) (uid : String) : List (DocumentSnapshot K) :=
  rooms.docs.filter (isEqualTo "posterUid" uid)

def Device.addTask (device : Device K) (task : Task K) : Device K :=
  { device with tasks := device.tasks ++ [task] }

def Device.setTask (device : Device K) (i : Nat) (task : Task K) : Device K :=
  { device with tasks := device.tasks.set i task }

/-- The `setState` after an update that succeeded. -/
def Device.showLocation (device : Device K) (i : Nat) (p : OpenRoom K) (address : String) :
    Device K :=
  { device with pages := device.pages.set i { p with location := address } }

/-- The next remote step of a call goes through; `id` is the one that the store
generates for a new room, which no room has ever had. -/
def proceed (store : Store K) (device : Device K) (i : Nat) (id : String) :
    Task K → Option (Store K × Device K)
  | .creating owner room =>
    if (eventsOf store.history).any (fun e => decide (e.id = id)) then none
    else
      match store.rooms.add id room.toJson with
      | none => none
      | some rooms =>
        some (store.commit rooms owner (.add id room.toJson), device.setTask i .ended)
  | .deleting page =>
    match device.pages[page]? with
    | none => none
    | some p =>
      some (store.commit (store.rooms.delete p.page.roomId) p.owner (.remove p.page.roomId),
        device.setTask i (.deleted p.page.roomId))
  | .getting page pick =>
    match device.pages[page]? with
    | none => none
    | some p =>
      if store.rooms.contains p.page.roomId then
        some (store, device.setTask i (.updating page pick))
      else some (store, device.setTask i .ended)
  | .updating page pick =>
    match device.pages[page]? with
    | none => none
    | some p =>
      match store.rooms.get? p.page.roomId with
      | none => some (store, device.setTask i .ended)
      | some data =>
        some (store.commit (store.rooms.set p.page.roomId (relocated data pick)) p.owner
          (.change p.page.roomId pick), (device.showLocation page p pick.address).setTask i .ended)
  | .deleted _ => none
  | .ended => none

variable [IntCast K]

def deviceStep (store : Store K) (device : Device K) : Action K → Option (Store K × Device K)
  | .session uid => some (store, { device with currentUser := uid })
  | .openList => some (store, { device with listOwner := device.currentUser, snapshot := [] })
  | .deliver =>
    match device.listOwner with
    | none => none
    | some uid => some (store, { device with snapshot := ownRooms store.rooms uid })
  | .openRoom i =>
    match device.listOwner, device.snapshot[i]? with
    | some owner, some d =>
      match openLandlordRoom d with
      | .error _ => some (store, device)
      | .ok page =>
        some (store, { device with pages := device.pages ++ [⟨owner, page, page.location⟩] })
    | _, _ => none
  | .post room =>
    match device.currentUser with
    | none => some (store, device)
    | some uid => some (store, device.addTask (.creating uid { room with posterUid := some uid }))
  | .delete page => some (store, device.addTask (.deleting page))
  | .relocate page pick => some (store, device.addTask (.getting page pick))
  | .proceed i id =>
    match device.tasks[i]? with
    | none => none
    | some task => proceed store device i id task
  | .lose i id =>
    match device.tasks[i]? with
    | none => none
    | some task => (proceed store device i id task).map (fun t => (t.1, device.setTask i .ended))
  | .fail i =>
    match device.tasks[i]? with
    | none => none
    | some _ => some (store, device.setTask i .ended)

end Machine

section Histories
variable {K : Type} [IntCast K]

def PostedBy (history : List (Entry K)) (owner id : String) (room : Rooms K) : Prop :=
  (owner, Event.add id room.toJson) ∈ history ∧ room.posterUid = some owner

/-- The document of a posted room as it is now or was at some time. -/
def PastDoc (history : List (Entry K)) (owner : String) (d : DocumentSnapshot K) : Prop :=
  ∃ room picks, PostedBy history owner d.id room ∧ picks <+: changesOf d.id (eventsOf history) ∧
    d.data = picks.foldl relocated room.toJson

/-- The page could be opened by then from the owner's list. -/
def Openable (history : List (Entry K)) (owner : String) (page : LandlordRoomPage K) : Prop :=
  ∃ d, PastDoc history owner d ∧ openLandlordRoom d = .ok page

/-- Rooms come in under ids that were never used, and are changed or deleted
from pages of the one who posted them. -/
inductive Lawful : List (Entry K) → Prop where
  | start : Lawful []
  | posted {history : List (Entry K)} {owner id : String} {room : Rooms K} :
      Lawful history → (∀ entry ∈ history, entry.2.id ≠ id) → room.posterUid = some owner →
      Lawful (history ++ [(owner, .add id room.toJson)])
  | touched {history : List (Entry K)} {owner : String} {page : LandlordRoomPage K}
      {event : Event String (Map K) (Pick K)} :
      Lawful history → Openable history owner page → event.id = page.roomId →
      event.isAdd = false → Lawful (history ++ [(owner, event)])

def Imageless (room : Rooms K) : Prop := room.images = none ∨ room.images = some []

/-- A room that something happened to after it was posted. -/
def Touched (history : List (Entry K)) (id : String) : Prop :=
  ∃ entry ∈ history, entry.2.id = id ∧ entry.2.isAdd = false

variable {history history' : List (Entry K)}

omit [IntCast K] in
theorem PostedBy.mono {owner id : String} {room : Rooms K} (h : PostedBy history owner id room)
    (grows : history <+: history') : PostedBy history' owner id room :=
  ⟨grows.subset h.1, h.2⟩

omit [IntCast K] in
theorem PastDoc.mono {owner : String} {d : DocumentSnapshot K} (h : PastDoc history owner d)
    (grows : history <+: history') : PastDoc history' owner d := by
  obtain ⟨room, picks, hposted, hpicks, hdata⟩ := h
  exact ⟨room, picks, hposted.mono grows, hpicks.trans ((grows.map _).filterMap _), hdata⟩

theorem Openable.mono {owner : String} {page : LandlordRoomPage K}
    (h : Openable history owner page) (grows : history <+: history') :
    Openable history' owner page :=
  h.imp (fun _ hd => ⟨hd.1.mono grows, hd.2⟩)

/-- A page shows a room that its owner posted. -/
theorem Openable.displays {owner : String} {page : LandlordRoomPage K}
    (h : Openable history owner page) :
    ∃ room, PostedBy history owner page.roomId room ∧ Displays room page := by
  obtain ⟨d, ⟨room, picks, hposted, _, hdata⟩, hopen⟩ := h
  obtain ⟨hid, shows⟩ := openLandlordRoom_eq_ok_iff.mp hopen
  rw [hdata] at shows
  exact ⟨room, hid ▸ hposted, shows.displays⟩

omit [IntCast K] in
theorem mem_concat_of_add {owner owner' id : String} {data : Map K}
    {event : Event String (Map K) (Pick K)} (hadd : event.isAdd = false)
    (h : (owner, Event.add id data) ∈ history ++ [(owner', event)]) :
    (owner, Event.add id data) ∈ history := by
  rcases List.mem_append.mp h with hold | hnew
  · exact hold
  · cases List.mem_singleton.mp hnew
    cases hadd

omit [IntCast K] in
theorem touched_concat {entry : Entry K} {id : String} (h : Touched (history ++ [entry]) id) :
    Touched history id ∨ (entry.2.id = id ∧ entry.2.isAdd = false) := by
  obtain ⟨e, he, htouch⟩ := h
  rcases List.mem_append.mp he with hold | hnew
  · exact Or.inl ⟨e, hold, htouch⟩
  · exact Or.inr (List.mem_singleton.mp hnew ▸ htouch)

theorem Lawful.fresh (lawful : Lawful history) : AddsFresh (eventsOf history) := by
  induction lawful with
  | start => exact List.Pairwise.nil
  | posted _ unused _ ih =>
    rw [eventsOf, List.map_append]
    exact addsFresh_concat_iff.mpr ⟨ih, fun _ => List.forall_mem_map.mpr unused⟩
  | touched _ _ _ hadd ih =>
    rw [eventsOf, List.map_append]
    exact addsFresh_concat_iff.mpr ⟨ih, fun h => absurd (hadd.symm.trans h) Bool.false_ne_true⟩

theorem Lawful.room_of_add (lawful : Lawful history) {owner id : String} {data : Map K}
    (h : (owner, Event.add id data) ∈ history) :
    ∃ room, PostedBy history owner id room ∧ data = room.toJson := by
  induction lawful with
  | start => cases h
  | @posted history owner' id' room _ _ hposter ih =>
    rcases List.mem_append.mp h with hold | hnew
    · obtain ⟨room, hposted, hdata⟩ := ih hold
      exact ⟨room, hposted.mono (List.prefix_append _ _), hdata⟩
    · cases List.mem_singleton.mp hnew
      exact ⟨room, ⟨h, hposter⟩, rfl⟩
  | touched _ _ _ hadd ih =>
    obtain ⟨room, hposted, hdata⟩ := ih (mem_concat_of_add hadd h)
    exact ⟨room, hposted.mono (List.prefix_append _ _), hdata⟩

omit [IntCast K] in
theorem get_toJson_posterUid (room : Rooms K) :
    Map.get room.toJson "posterUid" = .ofStringOrNull room.posterUid := by
  simp [Rooms.toJson]

omit [IntCast K] in
theorem get_toJson_location (room : Rooms K) :
    Map.get room.toJson "location" = .ofMapOrNull room.location := by
  simp [Rooms.toJson]

/-- A room has one poster, and was posted once. -/
theorem Lawful.posted_unique (lawful : Lawful history) {owner owner' id : String}
    {room room' : Rooms K} (h : PostedBy history owner id room)
    (h' : PostedBy history owner' id room') : owner = owner' ∧ room.toJson = room'.toJson := by
  have hdata := added_unique lawful.fresh (List.mem_map_of_mem h.1) (List.mem_map_of_mem h'.1)
  refine ⟨?_, hdata⟩
  have hposter := congrArg (fun m => Map.get m "posterUid") hdata
  simp only [get_toJson_posterUid, h.2, h'.2] at hposter
  exact Value.str.inj hposter

/-- A room opens after any changes of its location if it opened before. -/
theorem open_relocations {id : String} {data : Map K} {page : LandlordRoomPage K}
    (h : openLandlordRoom ⟨id, data⟩ = .ok page) (picks : List (Pick K)) :
    ∃ page', openLandlordRoom ⟨id, picks.foldl relocated data⟩ = .ok page' := by
  induction picks generalizing data page with
  | nil => exact ⟨page, h⟩
  | cons pick picks ih =>
    obtain ⟨hid, shows⟩ := openLandlordRoom_eq_ok_iff.mp h
    have hnext : openLandlordRoom ⟨id, relocated data pick⟩ =
        .ok { page with location := pick.address } :=
      openLandlordRoom_eq_ok_iff.mpr ⟨hid, shows.relocated pick⟩
    exact ih hnext

/-- The card of a room without images cannot be built. -/
theorem Imageless.not_opens {room : Rooms K} (h : Imageless room) (id : String)
    (page : LandlordRoomPage K) : openLandlordRoom ⟨id, room.toJson⟩ ≠ .ok page := by
  intro hpage
  have hshows := (openLandlordRoom_eq_ok_iff.mp hpage).2
  have himages : Map.get room.toJson "images" = .ofStrings page.images := hshows.images
  rcases h with hnone | hnil
  · simp [Rooms.toJson, hnone, Value.ofStrings] at himages
  · simp [Rooms.toJson, hnil, Value.ofStrings] at himages
    exact hshows.someImage himages

/-- A room that was ever changed or deleted could be opened as it was posted. -/
theorem Lawful.opens_of_touched (lawful : Lawful history) {owner id : String} {room : Rooms K}
    (hposted : PostedBy history owner id room) (touched : Touched history id) :
    ∃ page, openLandlordRoom ⟨id, room.toJson⟩ = .ok page := by
  induction lawful with
  | start => cases hposted.1
  | @posted history owner' id' room' _ unused _ ih =>
    rcases touched_concat touched with hold | ⟨_, hadd⟩
    · rcases List.mem_append.mp hposted.1 with hpast | hnew
      · exact ih ⟨hpast, hposted.2⟩ hold
      · -- nothing had happened to the id before this post
        have hid : id = id' := congrArg (fun e => e.2.id) (List.mem_singleton.mp hnew)
        obtain ⟨e, he, heq, _⟩ := hold
        exact (unused e he (heq.trans hid)).elim
    · cases hadd
  | @touched history owner' page event lawful hopen hevent hadd ih =>
    have hpast : PostedBy history owner id room := ⟨mem_concat_of_add hadd hposted.1, hposted.2⟩
    rcases touched_concat touched with hold | ⟨hid, _⟩
    · exact ih hpast hold
    · obtain ⟨⟨docId, data⟩, ⟨room', picks, hposted', hpicks, hdata⟩, hpage⟩ := hopen
      obtain rfl : page.roomId = docId := (openLandlordRoom_eq_ok_iff.mp hpage).1
      obtain rfl : page.roomId = id := hevent.symm.trans hid
      obtain rfl : data = picks.foldl relocated room'.toJson := hdata
      cases picks with
      | nil =>
        rw [(lawful.posted_unique hpast hposted').2]
        exact ⟨page, hpage⟩
      | cons pick picks =>
        -- the page was opened after a change, so the room had been touched before
        have hchange := mem_changesOf.mp (hpicks.subset List.mem_cons_self)
        obtain ⟨e, he, heq⟩ := List.mem_map.mp hchange
        exact ih hpast ⟨e, he, by rw [heq]; exact ⟨rfl, rfl⟩⟩

end Histories

section Invariants
variable {K : Type} [IntCast K]

structure StoreOk (store : Store K) : Prop where
  holds : ∀ id, store.rooms.get? id = held relocated id (eventsOf store.history)
  lawful : Lawful store.history

/-- The address is the posted one or that of a change that went through. -/
def AddressOf (history : List (Entry K)) (id address : String) : Prop :=
  (∃ owner room entries, PostedBy history owner id room ∧ room.location = some entries ∧
    Map.get entries "address" = .str address) ∨
  ∃ owner pick, (owner, Event.change id pick) ∈ history ∧ pick.address = address

def TaskOk (history : List (Entry K)) : Task K → Prop
  | .creating owner room => room.posterUid = some owner
  | .deleted roomId => ∃ owner, (owner, Event.remove roomId) ∈ history
  | _ => True

structure PageOk (history : List (Entry K)) (p : OpenRoom K) : Prop where
  opened : Openable history p.owner p.page
  location : AddressOf history p.page.roomId p.location

structure DeviceOk (store : Store K) (device : Device K) : Prop where
  snapshot : ∀ owner, device.listOwner = some owner → ∀ d ∈ device.snapshot,
    PastDoc store.history owner d
  pages : ∀ p ∈ device.pages, PageOk store.history p
  tasks : ∀ task ∈ device.tasks, TaskOk store.history task

/-- Nothing that was committed is undone. -/
def Grows (store store' : Store K) : Prop := store.history <+: store'.history

omit [IntCast K] in
theorem AddressOf.mono {history history' : List (Entry K)} {id address : String}
    (h : AddressOf history id address) (grows : history <+: history') :
    AddressOf history' id address := by
  rcases h with ⟨owner, room, entries, hposted, hlocation⟩ | ⟨owner, pick, hmem, haddress⟩
  · exact Or.inl ⟨owner, room, entries, hposted.mono grows, hlocation⟩
  · exact Or.inr ⟨owner, pick, grows.subset hmem, haddress⟩

omit [IntCast K] in
theorem TaskOk.mono {history history' : List (Entry K)} {task : Task K} (ok : TaskOk history task)
    (grows : history <+: history') : TaskOk history' task := by
  cases task with
  | creating owner room => exact ok
  | deleted roomId => exact ok.imp (fun _ h => grows.subset h)
  | _ => trivial

theorem PageOk.mono {history history' : List (Entry K)} {p : OpenRoom K} (ok : PageOk history p)
    (grows : history <+: history') : PageOk history' p :=
  ⟨ok.opened.mono grows, ok.location.mono grows⟩

theorem DeviceOk.mono {store store' : Store K} {device : Device K} (ok : DeviceOk store device)
    (grows : Grows store store') : DeviceOk store' device where
  snapshot owner howner d hd := (ok.snapshot owner howner d hd).mono grows
  pages p hp := (ok.pages p hp).mono grows
  tasks task htask := (ok.tasks task htask).mono grows

theorem DeviceOk.addTask {store : Store K} {device : Device K} {task : Task K}
    (ok : DeviceOk store device) (htask : TaskOk store.history task) :
    DeviceOk store (device.addTask task) :=
  ⟨ok.snapshot, ok.pages, forall_mem_concat ok.tasks htask⟩

theorem DeviceOk.setTask {store : Store K} {device : Device K} (ok : DeviceOk store device)
    (i : Nat) {task : Task K} (htask : TaskOk store.history task) :
    DeviceOk store (device.setTask i task) :=
  ⟨ok.snapshot, ok.pages, forall_mem_set ok.tasks htask⟩

/-- The page that is opened shows an address the room has had. -/
theorem AddressOf.of_open {history : List (Entry K)} {owner : String} {d : DocumentSnapshot K}
    {page : LandlordRoomPage K} (past : PastDoc history owner d)
    (hopen : openLandlordRoom d = .ok page) : AddressOf history page.roomId page.location := by
  obtain ⟨hid, shows⟩ := openLandlordRoom_eq_ok_iff.mp hopen
  obtain ⟨room, picks, hposted, hpicks, hdata⟩ := past
  obtain ⟨entries, hlocation, haddress⟩ := shows.location
  rw [hid]
  rw [hdata, get_relocations_location] at hlocation
  cases hlast : picks.getLast? with
  | none =>
    rw [hlast] at hlocation
    refine Or.inl ⟨owner, room, entries, hposted, ?_, haddress⟩
    rw [get_toJson_location] at hlocation
    cases hroom : room.location with
    | none =>
      rw [hroom] at hlocation
      cases hlocation
    | some location =>
      rw [hroom] at hlocation
      exact congrArg some (Value.map.inj hlocation)
  | some pick =>
    rw [hlast] at hlocation
    cases hlocation
    rw [locationMap_address] at haddress
    have hchange := mem_changesOf.mp (hpicks.subset (List.mem_of_getLast? hlast))
    obtain ⟨⟨owner', event⟩, hmem, rfl⟩ := List.mem_map.mp hchange
    exact Or.inr ⟨owner', pick, hmem, Value.str.inj haddress⟩

theorem StoreOk.commit {store : Store K} (ok : StoreOk store) {rooms : Collection String (Map K)}
    {owner : String} {event : Event String (Map K) (Pick K)}
    (lawful : Lawful (store.history ++ [(owner, event)]))
    (effect : ∀ id, rooms.get? id = event.effect relocated id (store.rooms.get? id)) :
    StoreOk (store.commit rooms owner event) where
  holds id := by
    rw [Store.commit, eventsOf, List.map_append, List.map_singleton, held_concat, ← eventsOf,
      ← ok.holds]
    exact effect id
  lawful := lawful

omit [IntCast K] in
theorem grows_commit (store : Store K) (rooms : Collection String (Map K)) (owner : String)
    (event : Event String (Map K) (Pick K)) : Grows store (store.commit rooms owner event) :=
  List.prefix_append _ _

/-- What is held: the rooms that were posted and not deleted, as they are now. -/
theorem StoreOk.get?_eq_some_iff {store : Store K} (ok : StoreOk store) {id : String}
    {data : Map K} : store.rooms.get? id = some data ↔
      ∃ owner room, PostedBy store.history owner id room ∧
        (∀ owner', (owner', Event.remove id) ∉ store.history) ∧
        data = (changesOf id (eventsOf store.history)).foldl relocated room.toJson := by
  rw [ok.holds, held_eq_some_iff ok.lawful.fresh]
  constructor
  · rintro ⟨first, hadd, hremove, hdata⟩
    obtain ⟨⟨owner, event⟩, hmem, rfl⟩ := List.mem_map.mp hadd
    obtain ⟨room, hposted, rfl⟩ := ok.lawful.room_of_add hmem
    exact ⟨owner, room, hposted, fun owner' h => hremove (List.mem_map_of_mem h), hdata⟩
  · rintro ⟨owner, room, hposted, hremove, hdata⟩
    refine ⟨room.toJson, List.mem_map_of_mem hposted.1, ?_, hdata⟩
    intro h
    obtain ⟨⟨owner', event⟩, hmem, rfl⟩ := List.mem_map.mp h
    exact hremove owner' hmem

/-- A room without images is never touched after it was posted. -/
theorem StoreOk.imageless_kept {store : Store K} (ok : StoreOk store) {owner id : String}
    {room : Rooms K} (hposted : PostedBy store.history owner id room) (h : Imageless room) :
    store.rooms.get? id = some room.toJson := by
  have untouched : ¬ Touched store.history id := by
    intro touched
    obtain ⟨page, hpage⟩ := ok.lawful.opens_of_touched hposted touched
    exact h.not_opens id page hpage
  have hchanges : changesOf id (eventsOf store.history) = [] := by
    rw [List.eq_nil_iff_forall_not_mem]
    intro pick hpick
    obtain ⟨e, he, heq⟩ := List.mem_map.mp (mem_changesOf.mp hpick)
    exact untouched ⟨e, he, by rw [heq]; exact ⟨rfl, rfl⟩⟩
  refine ok.get?_eq_some_iff.mpr ⟨owner, room, hposted, ?_, by rw [hchanges]; rfl⟩
  exact fun owner' hremove => untouched ⟨_, hremove, rfl, rfl⟩

omit [IntCast K] in
theorem get_posterUid_relocations (room : Rooms K) (picks : List (Pick K)) :
    Map.get (picks.foldl relocated room.toJson) "posterUid" = .ofStringOrNull room.posterUid := by
  rw [get_relocations_other _ _ (by decide), get_toJson_posterUid]

theorem StoreOk.mem_ownRooms_iff {store : Store K} (ok : StoreOk store) {uid : String}
    {d : DocumentSnapshot K} : d ∈ ownRooms store.rooms uid ↔
      ∃ room, PostedBy store.history uid d.id room ∧
        (∀ owner, (owner, Event.remove d.id) ∉ store.history) ∧
        d.data = (changesOf d.id (eventsOf store.history)).foldl relocated room.toJson := by
  rw [ownRooms, List.mem_filter, isEqualTo_iff, ← Collection.get?_eq_some_iff,
    ok.get?_eq_some_iff]
  constructor
  · rintro ⟨⟨owner, room, hposted, hremove, hdata⟩, hposter⟩
    rw [hdata, get_posterUid_relocations, hposted.2] at hposter
    cases hposter
    exact ⟨room, hposted, hremove, hdata⟩
  · rintro ⟨room, hposted, hremove, hdata⟩
    refine ⟨⟨uid, room, hposted, hremove, hdata⟩, ?_⟩
    rw [hdata, get_posterUid_relocations, hposted.2]
    rfl

end Invariants

section Steps
variable {K : Type} [IntCast K]

/-- A new room, under an id that nothing has happened to. -/
theorem StoreOk.posted {store : Store K} (ok : StoreOk store) {owner id : String}
    {room : Rooms K} {rooms : Collection String (Map K)} (hposter : room.posterUid = some owner)
    (unused : ∀ entry ∈ store.history, entry.2.id ≠ id)
    (hadd : store.rooms.add id room.toJson = some rooms) :
    StoreOk (store.commit rooms owner (.add id room.toJson)) := by
  obtain ⟨_, rfl, _⟩ := store.rooms.add_cases hadd
  exact ok.commit (ok.lawful.posted unused hposter) (fun other => store.rooms.get?_set id other _)

theorem StoreOk.deleted {store : Store K} (ok : StoreOk store) {p : OpenRoom K}
    (page : PageOk store.history p) :
    StoreOk (store.commit (store.rooms.delete p.page.roomId) p.owner (.remove p.page.roomId)) :=
  ok.commit (ok.lawful.touched page.opened rfl rfl) (fun other => store.rooms.get?_delete _ other)

theorem StoreOk.relocated {store : Store K} (ok : StoreOk store) {p : OpenRoom K}
    (page : PageOk store.history p) {data : Map K} {pick : Pick K}
    (hdata : store.rooms.get? p.page.roomId = some data) :
    StoreOk (store.commit (store.rooms.set p.page.roomId (OwnRoomPage.relocated data pick)) p.owner
      (.change p.page.roomId pick)) := by
  refine ok.commit (ok.lawful.touched page.opened rfl rfl) ?_
  intro other
  rw [store.rooms.get?_set]
  by_cases h : p.page.roomId = other
  · subst h
    simp [Event.effect, hdata]
  · simp [Event.effect, h]

theorem proceed_ok {store store' : Store K} {device device' : Device K} {i : Nat} {id : String}
    {task : Task K} (storeOk : StoreOk store) (ok : DeviceOk store device)
    (htask : TaskOk store.history task)
    (h : proceed store device i id task = some (store', device')) :
    StoreOk store' ∧ DeviceOk store' device' ∧ Grows store store' := by
  have unchanged : Grows store store := List.prefix_refl _
  have hended : DeviceOk store (device.setTask i .ended) := ok.setTask i trivial
  cases task with
  | creating owner room =>
    simp only [proceed] at h
    split at h
    · cases h
    · rename_i hnever
      split at h
      · cases h
      · rename_i rooms hadd
        cases h
        have unused : ∀ entry ∈ store.history, entry.2.id ≠ id := by
          intro entry hentry hid
          exact hnever (List.any_eq_true.mpr
            ⟨entry.2, List.mem_map_of_mem hentry, decide_eq_true hid⟩)
        have hgrows := grows_commit store rooms owner (.add id room.toJson)
        exact ⟨storeOk.posted htask unused hadd, hended.mono hgrows, hgrows⟩
  | deleting page =>
    simp only [proceed] at h
    split at h
    · cases h
    · rename_i p hp
      cases h
      have hgrows := grows_commit store (store.rooms.delete p.page.roomId) p.owner
        (.remove p.page.roomId)
      have hremoved : TaskOk (store.history ++ [(p.owner, .remove p.page.roomId)])
          (.deleted p.page.roomId : Task K) :=
        ⟨p.owner, List.mem_append_right _ List.mem_cons_self⟩
      exact ⟨storeOk.deleted (ok.pages p (List.mem_of_getElem? hp)),
        (ok.mono hgrows).setTask i hremoved, hgrows⟩
  | getting page pick =>
    simp only [proceed] at h
    split at h
    · cases h
    · split at h
      · cases h
        exact ⟨storeOk, ok.setTask i trivial, unchanged⟩
      · cases h
        exact ⟨storeOk, hended, unchanged⟩
  | updating page pick =>
    simp only [proceed] at h
    split at h
    · cases h
    · rename_i p hp
      split at h
      · cases h
        exact ⟨storeOk, hended, unchanged⟩
      · rename_i data hdata
        cases h
        have hpage := ok.pages p (List.mem_of_getElem? hp)
        have hgrows := grows_commit store
          (store.rooms.set p.page.roomId (OwnRoomPage.relocated data pick)) p.owner
          (.change p.page.roomId pick)
        -- the page now shows the address that was just committed
        have hshown : PageOk (store.history ++ [(p.owner, .change p.page.roomId pick)])
            { p with location := pick.address } :=
          ⟨hpage.opened.mono hgrows,
            Or.inr ⟨p.owner, pick, List.mem_append_right _ List.mem_cons_self, rfl⟩⟩
        have hnext := ok.mono hgrows
        have hdevice : DeviceOk (store.commit
            (store.rooms.set p.page.roomId (OwnRoomPage.relocated data pick)) p.owner
            (.change p.page.roomId pick)) (device.showLocation page p pick.address) :=
          ⟨hnext.snapshot, forall_mem_set hnext.pages hshown, hnext.tasks⟩
        exact ⟨storeOk.relocated hpage hdata, hdevice.setTask i trivial, hgrows⟩
  | deleted roomId => cases h
  | ended => cases h

theorem deviceStep_ok {store store' : Store K} {device device' : Device K} {a : Action K}
    (storeOk : StoreOk store) (ok : DeviceOk store device)
    (h : deviceStep store device a = some (store', device')) :
    StoreOk store' ∧ DeviceOk store' device' ∧ Grows store store' := by
  have unchanged : Grows store store := List.prefix_refl _
  cases a with
  | session uid =>
    cases h
    exact ⟨storeOk, ⟨ok.snapshot, ok.pages, ok.tasks⟩, unchanged⟩
  | openList =>
    cases h
    exact ⟨storeOk, ⟨fun _ _ d hd => absurd hd List.not_mem_nil, ok.pages, ok.tasks⟩, unchanged⟩
  | deliver =>
    simp only [deviceStep] at h
    split at h
    · cases h
    · rename_i uid huid
      cases h
      refine ⟨storeOk, ⟨?_, ok.pages, ok.tasks⟩, unchanged⟩
      intro owner howner d hd
      cases huid.symm.trans howner
      obtain ⟨room, hposted, _, hdata⟩ := storeOk.mem_ownRooms_iff.mp hd
      exact ⟨room, _, hposted, List.prefix_refl _, hdata⟩
  | openRoom i =>
    simp only [deviceStep] at h
    split at h
    · rename_i owner d howner hd
      split at h
      · cases h
        exact ⟨storeOk, ok, unchanged⟩
      · rename_i page hpage
        cases h
        have past := ok.snapshot owner howner d (List.mem_of_getElem? hd)
        have hopened : PageOk store.history ⟨owner, page, page.location⟩ :=
          ⟨⟨d, past, hpage⟩, AddressOf.of_open past hpage⟩
        exact ⟨storeOk, ⟨ok.snapshot, forall_mem_concat ok.pages hopened, ok.tasks⟩, unchanged⟩
    · cases h
  | post room =>
    simp only [deviceStep] at h
    split at h
    · cases h
      exact ⟨storeOk, ok, unchanged⟩
    · cases h
      exact ⟨storeOk, ok.addTask rfl, unchanged⟩
  | delete page =>
    cases h
    exact ⟨storeOk, ok.addTask trivial, unchanged⟩
  | relocate page pick =>
    cases h
    exact ⟨storeOk, ok.addTask trivial, unchanged⟩
  | proceed i id =>
    simp only [deviceStep] at h
    split at h
    · cases h
    · rename_i task htask
      exact proceed_ok storeOk ok (ok.tasks task (List.mem_of_getElem? htask)) h
  | lose i id =>
    simp only [deviceStep] at h
    split at h
    · cases h
    · rename_i task htask
      obtain ⟨⟨store'', device''⟩, hproceed, heq⟩ := Option.map_eq_some_iff.mp h
      cases heq
      obtain ⟨hstore, _, hgrows⟩ :=
        proceed_ok storeOk ok (ok.tasks task (List.mem_of_getElem? htask)) hproceed
      exact ⟨hstore, (ok.mono hgrows).setTask i trivial, hgrows⟩
  | fail i =>
    simp only [deviceStep] at h
    split at h
    · cases h
    · cases h
      exact ⟨storeOk, ok.setTask i trivial, unchanged⟩

theorem guarantees : Guarantees (deviceStep (K := K)) StoreOk DeviceOk Grows where
  refl _ := List.prefix_refl _
  trans _ _ _ := List.IsPrefix.trans
  own _ _ _ _ _ := deviceStep_ok
  stable _ _ _ _ := DeviceOk.mono

end Steps

section Systems
variable {K ι : Type} [IntCast K] [DecidableEq ι]

def initial : System (Store K) ι (Device K) := ⟨initialStore, fun _ => newDevice⟩

theorem run_ok {acts : List (ι × Action K)} {s : System (Store K) ι (Device K)}
    (hrun : run (SharedStore.step deviceStep) initial acts = some s) :
    StoreOk s.store ∧ ∀ i, DeviceOk s.store (s.devices i) := by
  have storeOk : StoreOk (initialStore : Store K) := ⟨fun _ => rfl, .start⟩
  have deviceOk : DeviceOk (initialStore : Store K) newDevice :=
    ⟨nofun, fun _ h => absurd h List.not_mem_nil, fun _ h => absurd h List.not_mem_nil⟩
  obtain ⟨ok, devices, _⟩ := guarantees.run storeOk (fun _ => deviceOk) hrun
  exact ⟨ok, devices⟩

/-- The answer to the query of a landlord's list: exactly the rooms that the
landlord posted and that were not deleted, each as it was posted but for the
changes of its location that went through. -/
theorem listing_exact (acts : List (ι × Action K)) (s : System (Store K) ι (Device K))
    (hrun : run (SharedStore.step deviceStep) initial acts = some s) (uid : String)
    (d : DocumentSnapshot K) : d ∈ ownRooms s.store.rooms uid ↔
      ∃ room, PostedBy s.store.history uid d.id room ∧
        (∀ owner, (owner, Event.remove d.id) ∉ s.store.history) ∧
        d.data = (changesOf d.id (eventsOf s.store.history)).foldl relocated room.toJson :=
  (run_ok hrun).1.mem_ownRooms_iff

def postedRoom (images : List String) : Rooms ℚ where
  roomTitle := some "Sunny room"
  posterUid := none
  postedBy := some "Sunita Rai"
  postedByEmail := some "sunita@example.com"
  location := some (locationMap "Patan" (27 : ℚ) 85)
  price := some (.fin 9000)
  description := some "Two windows"
  amenities := ["Gym"]
  images := some (images.map some)
  isBooked := 0
  propertyType := some "Room"
  postDate := "2024-05-01"

/-- A landlord posts a room and opens it on two devices; one of them moves it. -/
def movedRoom : List (Bool × Action ℚ) :=
  [(false, .session (some "l1")), (false, .post (postedRoom ["rooms/1.png"])),
    (false, .proceed 0 "r1"), (false, .openList), (false, .deliver), (false, .openRoom 0),
    (true, .session (some "l1")), (true, .openList), (true, .deliver), (true, .openRoom 0),
    (true, .relocate 0 ⟨"Thamel", 27, 86⟩), (true, .proceed 0 ""), (true, .proceed 0 "")]

theorem listing_exact_movedRoom : ∃ s : System (Store ℚ) Bool (Device ℚ), ∃ d,
    run (SharedStore.step deviceStep) initial movedRoom = some s ∧
      d ∈ ownRooms s.store.rooms "l1" ∧ d.id = "r1" ∧
      ∃ room, PostedBy s.store.history "l1" d.id room ∧
        d.data = (changesOf d.id (eventsOf s.store.history)).foldl relocated room.toJson := by
  obtain ⟨s, hrun, hlist⟩ := exists_of_check (SharedStore.step deviceStep) initial movedRoom
    (fun s => (ownRooms s.store.rooms "l1").map Doc.id = ["r1"]) (by decide)
  obtain ⟨d, hd, hid⟩ := List.mem_map.mp (hlist ▸ List.mem_singleton_self "r1")
  obtain ⟨room, hposted, _, hdata⟩ := (listing_exact movedRoom s hrun "l1" d).mp hd
  exact ⟨s, d, hrun, hd, hid, room, hposted, hdata⟩

/-- Every open page is of a room that its owner posted, and shows it as posted
but for the address, which the room has had at some time. -/
theorem pages_show (acts : List (ι × Action K)) (s : System (Store K) ι (Device K))
    (hrun : run (SharedStore.step deviceStep) initial acts = some s) (i : ι) (p : OpenRoom K)
    (hp : p ∈ (s.devices i).pages) :
    ∃ room, PostedBy s.store.history p.owner p.page.roomId room ∧ Displays room p.page ∧
      AddressOf s.store.history p.page.roomId p.location := by
  have ok := ((run_ok hrun).2 i).pages p hp
  obtain ⟨room, hposted, hdisplays⟩ := ok.opened.displays
  exact ⟨room, hposted, hdisplays, ok.location⟩

theorem pages_show_movedRoom : ∃ s : System (Store ℚ) Bool (Device ℚ), ∃ p room,
    run (SharedStore.step deviceStep) initial movedRoom = some s ∧ p ∈ (s.devices true).pages ∧
      p.location = "Thamel" ∧ PostedBy s.store.history p.owner p.page.roomId room ∧
      Displays room p.page := by
  obtain ⟨s, hrun, hpages⟩ := exists_of_check (SharedStore.step deviceStep) initial movedRoom
    (fun s => (s.devices true).pages.map OpenRoom.location = ["Thamel"]) (by decide)
  obtain ⟨p, hp, hlocation⟩ := List.mem_map.mp (hpages ▸ List.mem_singleton_self "Thamel")
  obtain ⟨room, hposted, hdisplays, _⟩ := pages_show movedRoom s hrun true p hp
  exact ⟨s, p, room, hrun, hp, hlocation, hposted, hdisplays⟩

/-- Once a deletion was answered the room does not come back, whichever changes
of its location are under way. -/
theorem deleted_stays (acts later : List (ι × Action K)) (s t : System (Store K) ι (Device K))
    (hrun : run (SharedStore.step deviceStep) initial acts = some s)
    (hlater : run (SharedStore.step deviceStep) s later = some t) (i : ι) (roomId : String)
    (hdeleted : Task.deleted roomId ∈ (s.devices i).tasks) : t.store.rooms.get? roomId = none := by
  obtain ⟨ok, devices⟩ := run_ok hrun
  obtain ⟨ok', _, grows⟩ := guarantees.run ok devices hlater
  obtain ⟨owner, hremove⟩ := (devices i).tasks _ hdeleted
  cases hget : t.store.rooms.get? roomId with
  | none => rfl
  | some data =>
    obtain ⟨_, _, _, hnever, _⟩ := ok'.get?_eq_some_iff.mp hget
    exact absurd (grows.subset hremove) (hnever owner)

/-- One device deletes the room while a change on the other one has found it. -/
def deletedRoom : List (Bool × Action ℚ) :=
  movedRoom ++ [(true, .relocate 0 ⟨"Baneshwor", 27, 87⟩), (true, .proceed 1 ""),
    (false, .delete 0), (false, .proceed 1 "")]

theorem deleted_stays_deletedRoom : ∃ s t : System (Store ℚ) Bool (Device ℚ),
    run (SharedStore.step deviceStep) initial deletedRoom = some s ∧
      run (SharedStore.step deviceStep) s [(true, .proceed 1 "")] = some t ∧
      t.store.rooms.get? "r1" = none := by
  obtain ⟨s, hrun, hdeleted, hlater⟩ := exists_of_check (SharedStore.step deviceStep) initial
    deletedRoom (fun s => (s.devices false).tasks.any (fun task =>
        match task with
        | .deleted roomId => decide (roomId = "r1")
        | _ => false) = true ∧
      (run (SharedStore.step deviceStep) s [(true, .proceed 1 "")]).isSome = true) (by decide)
  obtain ⟨t, ht⟩ := Option.isSome_iff_exists.mp hlater
  obtain ⟨task, htask, hroom⟩ := List.any_eq_true.mp hdeleted
  cases task with
  | deleted roomId =>
    obtain rfl := of_decide_eq_true hroom
    exact ⟨s, t, hrun, ht, deleted_stays deletedRoom _ s t hrun ht false "r1" htask⟩
  | _ => cases hroom

/-- The steps of a landlord who deletes a room from the own list. -/
theorem deletion_alone {store : Store K} (device : Device K) {owner : String}
    {d : DocumentSnapshot K} {page : LandlordRoomPage K} (hd : d ∈ ownRooms store.rooms owner)
    (hopen : openLandlordRoom d = .ok page) :
    ∃ acts store' device', run (fun t a => deviceStep t.1 t.2 a) (store, device) acts =
      some (store', device') ∧ store'.rooms = store.rooms.delete d.id := by
  obtain ⟨j, hj⟩ := List.getElem?_of_mem hd
  have hid := (openLandlordRoom_eq_ok_iff.mp hopen).1
  let opened : Device K := ⟨some owner, some owner, ownRooms store.rooms owner,
    device.pages ++ [⟨owner, page, page.location⟩], device.tasks⟩
  refine ⟨[.session (some owner), .openList, .deliver, .openRoom j, .delete device.pages.length,
    .proceed device.tasks.length ""], store.commit (store.rooms.delete d.id) owner (.remove d.id),
    (opened.addTask (.deleting device.pages.length)).setTask device.tasks.length (.deleted d.id),
    ?_, rfl⟩
  simp [run, deviceStep, hj, hopen, proceed, Device.addTask, opened, hid]

/-- A room that the collection holds can still be deleted, by whatever its
landlord or anybody does, if and only if its entry in the landlord's list can
be opened. One that was posted without images stays as it is. -/
theorem deletable_iff (acts : List (ι × Action K)) (s : System (Store K) ι (Device K))
    (hrun : run (SharedStore.step deviceStep) initial acts = some s) (i : ι) (id : String)
    (data : Map K) (hdata : s.store.rooms.get? id = some data) :
    ((∃ later t, run (SharedStore.step deviceStep) s later = some t ∧
      t.store.rooms.get? id = none) ↔ ∃ page, openLandlordRoom ⟨id, data⟩ = .ok page) ∧
    ∀ owner room, PostedBy s.store.history owner id room → Imageless room →
      ∀ later t, run (SharedStore.step deviceStep) s later = some t →
        t.store.rooms.get? id = some room.toJson := by
  obtain ⟨ok, devices⟩ := run_ok hrun
  obtain ⟨owner, room, hposted, hnever, rfl⟩ := ok.get?_eq_some_iff.mp hdata
  refine ⟨⟨?_, ?_⟩, ?_⟩
  · rintro ⟨later, t, hlater, hnone⟩
    obtain ⟨ok', _, grows⟩ := guarantees.run ok devices hlater
    have touched : Touched t.store.history id := by
      by_contra htouched
      have hkept : ∀ owner', (owner', Event.remove id) ∉ t.store.history :=
        fun owner' h => htouched ⟨_, h, rfl, rfl⟩
      have hheld := ok'.get?_eq_some_iff.mpr ⟨owner, room, hposted.mono grows, hkept, rfl⟩
      cases hnone.symm.trans hheld
    obtain ⟨page, hpage⟩ := ok'.lawful.opens_of_touched (hposted.mono grows) touched
    exact open_relocations hpage _
  · rintro ⟨page, hpage⟩
    have hlisted : ⟨id, (changesOf id (eventsOf s.store.history)).foldl relocated room.toJson⟩ ∈
        ownRooms s.store.rooms owner := ok.mem_ownRooms_iff.mpr ⟨room, hposted, hnever, rfl⟩
    obtain ⟨later, store', device', halone, hrooms⟩ :=
      deletion_alone (s.devices i) hlisted hpage
    obtain ⟨t, hlater, hstore, _⟩ := SharedStore.run_alone halone
    refine ⟨_, t, hlater, ?_⟩
    rw [hstore, hrooms, Collection.get?_delete, if_pos rfl]
  · intro owner' room' hposted' imageless later t hlater
    obtain ⟨ok', _, grows⟩ := guarantees.run ok devices hlater
    exact ok'.imageless_kept (hposted'.mono grows) imageless

/-- A room that was posted without an image. -/
def imagelessRoom : List (Bool × Action ℚ) :=
  [(false, .session (some "l1")), (false, .post (postedRoom [])), (false, .proceed 0 "r1")]

theorem deletable_iff_imagelessRoom : ∃ s : System (Store ℚ) Bool (Device ℚ), ∃ data,
    run (SharedStore.step deviceStep) initial imagelessRoom = some s ∧
      s.store.rooms.get? "r1" = some data ∧
      ¬ ∃ later t, run (SharedStore.step deviceStep) s later = some t ∧
        t.store.rooms.get? "r1" = none := by
  obtain ⟨s, hrun, hheld⟩ := exists_of_check (SharedStore.step deviceStep) initial imagelessRoom
    (fun s => (s.store.rooms.get? "r1").any (fun data =>
      (openLandlordRoom ⟨"r1", data⟩).toOption.isNone) = true) (by decide)
  obtain ⟨data, hdata, hopen⟩ := (Option.any_eq_true _ _).mp hheld
  refine ⟨s, data, hrun, hdata, ?_⟩
  rw [(deletable_iff imagelessRoom s hrun false "r1" data hdata).1]
  rintro ⟨page, hpage⟩
  rw [hpage] at hopen
  cases hopen

end Systems

end RoomLifecycle
