import Gharsathi.ContactOwner
import Gharsathi.FilterNavigation
import Gharsathi.HomeScreen
import Gharsathi.RecommendationFeed
import Gharsathi.SavedIdentity
import Gharsathi.TenantPages

/-!
# Tenants among landlords

While landlords post, move and delete rooms, tenants on any number of devices
search, filter and scroll, open room pages, bookmark, book and write to the
owners. Every list is as old as its answer, a page is as old as its list, and a
bookmark keeps the card it was set on. Whatever is shown or stored is traced
back to a room that was posted. The flag of a bookmark is left open here: a tap
may find it set or not. Answers come from the server, not from a local cache.
-/

namespace TenantDevices

open Booking (Tenant existingBooking)
open ChatService (User chatRoomID)
open DartDouble DartMath DartSort DartStrings DartValues FirestoreCollection Models OwnRoomPage
open PostingScreen (Pick)
open FilteredRooms (Inputs StoredRoom UserDocument delivered dialogAt loadedLocation)
open PropertyFiltering (Dialog)
open RecommendationFeed (IsPosted limit rankRooms)
open RecordHistory RoomDetails RoomLifecycle Runs TenantPages
open SharedStore (Guarantees System)

structure Account where
  user : User
  displayName : Option String

/-- What a list asks for; the recommendations by preferences that were read
before, the saved rooms for the user the screen was opened by. -/
inductive Question (K : Type) where
  | search (searchQuery : String)
  | allRooms
  | filtered (fields : Dialog K)
  | recommendations (userPreferences : Preferences K)
  | saved

structure OpenPage (K : Type) where
  list : TenantList
  page : RoomPage K

/-- A call before its next remote step, or an answer on its way. -/
inductive Task (K : Type) where
  | arriving (list : TenantList) (rows : List (TenantRow K))
  | toggling (userId : Option String) (card : Roomcard K) (isSaved : Bool) (now : Int)
  | querying (tenant : Tenant) (page : RoomPage K) (bookDate : Int)
  | adding (tenant : Tenant) (page : RoomPage K) (bookDate : Int)
  | sending (message : Message)
  | ended

structure Store (K : Type) where
  rooms : RoomLifecycle.Store K
  savedRooms : SavedRooms.Store K
  bookings : Collection String (Map K)
  chats : ChatService.State K

/-- A device may be used by landlords and tenants in turn. -/
structure Device (K : Type) where
  landlord : RoomLifecycle.Device K
  account : Option Account
  savedOwner : Option String
  lists : TenantList → List (TenantRow K)
  pages : List (OpenPage K)
  tasks : List (Task K)

/-- `askFails` is a query that fails, which some lists show as no rows. -/
inductive Action (K : Type) where
  | signIn (account : Option Account)
  | post (room : PostedRoom K)
  | landlord (a : RoomLifecycle.Action K)
  | openSaved
  | ask (question : Question K)
  | askFails (list : TenantList)
  | openPage (list : TenantList) (i : Nat)
  | bookmark (list : TenantList) (i : Nat) (isSaved : Bool) (now : Int)
  | book (page : Nat) (now : Int)
  | contact (page : Nat) (message : String) (now : Int)
  | proceed (i : Nat) (id : String)
  | fail (i : Nat)

section Machine
variable {K : Type}

def Question.list : Question K → TenantList
  | .search _ => .search
  | .allRooms => .allRooms
  | .filtered _ => .filtered
  | .recommendations _ => .recommendations
  | .saved => .saved

def Account.uid (account : Account) : String := account.user.uid.id

def Account.tenant (account : Account) : Tenant := ⟨account.uid, account.displayName⟩

def initialStore : Store K :=
  ⟨RoomLifecycle.initialStore, fun _ => Collection.empty, Collection.empty, ChatService.initial⟩

def newDevice : Device K := ⟨RoomLifecycle.newDevice, none, none, fun _ => [], [], []⟩

def Device.addTask (device : Device K) (task : Task K) : Device K :=
  { device with tasks := device.tasks ++ [task] }

def Device.setTask (device : Device K) (i : Nat) (task : Task K) : Device K :=
  { device with tasks := device.tasks.set i task }

def Device.show (device : Device K) (list : TenantList) (rows : List (TenantRow K)) : Device K :=
  { device with lists := Function.update device.lists list rows }

/-- The `Bookroom` that `Book` makes on a page. -/
def bookroom (tenant : Tenant) (page : RoomPage K) (bookDate : Int) : Bookroom where
  bookedBy := tenant.displayName
  bookDate := some bookDate
  bookedHouse := some page.roomTitle
  bookerUid := some tenant.uid
  roomId := some page.roomUid

/-- What the filter looks at in a room. -/
def storedRoom (r : PostedRoom K) : StoredRoom K :=
  ⟨r.toRooms, r.price, r.propertyType, r.address, r.latitude, r.longitude, rfl, rfl, rfl⟩

/-- The next remote step of a call goes through; `id` is the one the store
generates for a new document. -/
def proceed (store : Store K) (device : Device K) (i : Nat) (id : String) :
    Task K → Option (Store K × Device K)
  | .arriving list rows => some (store, (device.show list rows).setTask i .ended)
  | .toggling userId card isSaved now =>
    match SavedRooms.toggleSaveRoom store.savedRooms userId card.roomTitle card.roomData isSaved
        now with
    | .error _ => some (store, device.setTask i .ended)
    | .ok savedRooms => some ({ store with savedRooms := savedRooms }, device.setTask i .ended)
  | .querying tenant page bookDate =>
    if (existingBooking store.bookings tenant.uid page.roomTitle).isEmpty then
      some (store, device.setTask i (.adding tenant page bookDate))
    else some (store, device.setTask i .ended)
  | .adding tenant page bookDate =>
    match store.bookings.add id (bookroom tenant page bookDate).toJson with
    | none => none
    | some bookings => some ({ store with bookings := bookings }, device.setTask i .ended)
  | .sending m =>
    let room := chatRoomID m.senderID m.receiverID
    match (store.chats.messages room).add id m.toMap with
    | none => none
    | some messages =>
      some ({ store with chats := ⟨Function.update store.chats.messages room messages⟩ },
        device.setTask i .ended)
  | .ended => none

/-- A step of the landlord's part of the app. -/
def landlordStep [IntCast K] (store : Store K) (device : Device K) (a : RoomLifecycle.Action K) :
    Option (Store K × Device K) :=
  (RoomLifecycle.deviceStep store.rooms device.landlord a).map (fun t =>
    ({ store with rooms := t.1 }, { device with landlord := t.2 }))

variable [Field K] [LinearOrder K]

/-- The rows that a query answers with. -/
def answer (T : DoubleParser K) (M : Functions K) (S : ListSort) (store : Store K)
    (savedOwner : Option String) : Question K → Result (List (TenantRow K))
  | .search searchQuery =>
    return (HomeScreen.searchResults store.rooms.rooms searchQuery).map .search
  | .allRooms => return store.rooms.rooms.docs.map .allRooms
  | .filtered fields => do
    let (_, results) ← PropertyFiltering.filterPressed T M store.rooms.rooms.docs fields
    return results.map .filtered
  | .recommendations userPreferences => do
    let docs ← rankRooms M S userPreferences store.rooms.rooms.docs limit
    return docs.map .recommendation
  | .saved =>
    match savedOwner with
    | none => return []
    | some userId => return (store.savedRooms userId).docs.map (fun d => .saved d.data)

def deviceStep (T : DoubleParser K) (M : Functions K) (S : ListSort) (store : Store K)
    (device : Device K) : Action K → Option (Store K × Device K)
  | .signIn account =>
    landlordStep store { device with account := account } (.session (account.map Account.uid))
  | .post room => landlordStep store device (.post room.toRooms)
  | .landlord a =>
    -- rooms are posted from the form, and the session is that of the device
    match a with
    | .session _ => none
    | .post _ => none
    | a => landlordStep store device a
  | .openSaved =>
    some (store, { device.show .saved [] with savedOwner := device.account.map Account.uid })
  | .ask question =>
    match answer T M S store device.savedOwner question with
    | .error _ => some (store, device)
    | .ok rows => some (store, device.addTask (.arriving question.list rows))
  | .askFails list => some (store, device.addTask (.arriving list []))
  | .openPage list i =>
    match (device.lists list)[i]? with
    | none => none
    | some row =>
      match row.details with
      | .error _ => some (store, device)
      | .ok page => some (store, { device with pages := device.pages ++ [⟨row.list, page⟩] })
  | .bookmark list i isSaved now =>
    match (device.lists list)[i]? with
    | none => none
    | some row =>
      match row.roomcard with
      | none => none
      | some card =>
        some (store, device.addTask (.toggling (device.account.map Account.uid) card isSaved now))
  | .book page now =>
    match device.pages[page]?, device.account with
    | none, _ => none
    | some _, none => some (store, device)
    | some p, some account => some (store, device.addTask (.querying account.tenant p.page now))
  | .contact page message now =>
    match device.pages[page]? with
    | none => none
    | some p =>
      if message = "" then some (store, device)
      else
        match ContactOwner.newMessage (device.account.map Account.user) p.page.posterUid message
            now with
        | .error _ => some (store, device)
        | .ok m => some (store, device.addTask (.sending m))
  | .proceed i id =>
    match device.tasks[i]? with
    | none => none
    | some task => proceed store device i id task
  | .fail i =>
    match device.tasks[i]? with
    | none => none
    | some _ => some (store, device.setTask i .ended)

end Machine

section Origins
variable {K : Type}

def Posted (history : List (Entry K)) (id : String) (r : PostedRoom K) : Prop :=
  (r.posterUid, Event.add id r.toRooms.toJson) ∈ history

/-- A posted room with its first so many changes of location. -/
def PastRoom (history : List (Entry K)) (id : String) (r : PostedRoom K) : Prop :=
  ∃ first picks, Posted history id first ∧ picks <+: changesOf id (eventsOf history) ∧
    r = picks.foldl moved first

/-- Something that belongs to a posted room as it was at one moment. -/
def OfRoom (history : List (Entry K)) (Q : String → PostedRoom K → Prop) : Prop :=
  ∃ id r, PastRoom history id r ∧ Q id r

def RowOk (history : List (Entry K)) (row : TenantRow K) : Prop :=
  OfRoom history (fun id r => RowOf id r row)

def PageOk (history : List (Entry K)) (p : OpenPage K) : Prop :=
  OfRoom history (fun id r => p.page = shownPage p.list id r)

def CardOk (history : List (Entry K)) (card : Roomcard K) : Prop :=
  OfRoom history (fun _ r => CardOf r card)

def BookmarkOk (history : List (Entry K)) (d : DocumentSnapshot K) : Prop :=
  OfRoom history (fun _ r => ∃ card savedAt, CardOf r card ∧
    d = ⟨card.roomTitle, savedDocument card.roomData savedAt⟩)

def BookingOk (history : List (Entry K)) (data : Map K) : Prop :=
  OfRoom history (fun id r => ∃ list tenant bookDate,
    data = (bookroom tenant (shownPage list id r) bookDate).toJson)

/-- The poster of a room, or nobody. -/
def ReceiverOk (history : List (Entry K)) (receiverID : String) : Prop :=
  OfRoom history (fun _ r => receiverID = "" ∨ receiverID = r.posterUid)

def MessageOk (history : List (Entry K)) (room : String) (data : Map K) : Prop :=
  ∃ m : Message, ReceiverOk history m.receiverID ∧ room = chatRoomID m.senderID m.receiverID ∧
    data = m.toMap

variable {history history' : List (Entry K)}

/-- A history that goes on keeps what it had. -/
theorem OfRoom.mono {Q : String → PostedRoom K → Prop} (h : OfRoom history Q)
    (grows : history <+: history') : OfRoom history' Q := by
  obtain ⟨id, r, ⟨first, picks, hposted, hpicks, hr⟩, hQ⟩ := h
  have hchanges : changesOf id (eventsOf history) <+: changesOf id (eventsOf history') :=
    (grows.map _).filterMap _
  exact ⟨id, r, ⟨first, picks, grows.subset hposted, hpicks.trans hchanges, hr⟩, hQ⟩

theorem OfRoom.imp {P Q : String → PostedRoom K → Prop} (h : OfRoom history P)
    (himp : ∀ id r, P id r → Q id r) : OfRoom history Q := by
  obtain ⟨id, r, past, hP⟩ := h
  exact ⟨id, r, past, himp id r hP⟩

/-- Who has posted a room does not change with its location. -/
theorem PastRoom.posted {id : String} {r : PostedRoom K} (h : PastRoom history id r) :
    ∃ first, Posted history id first ∧ first.posterUid = r.posterUid ∧
      first.roomTitle = r.roomTitle := by
  obtain ⟨first, picks, hposted, _, rfl⟩ := h
  obtain ⟨_, _, _, hmoved⟩ := moves_eq first picks
  rw [hmoved]
  exact ⟨first, hposted, rfl, rfl⟩

theorem MessageOk.mono {room : String} {data : Map K} (ok : MessageOk history room data)
    (grows : history <+: history') : MessageOk history' room data := by
  obtain ⟨m, hreceiver, hroom, hdata⟩ := ok
  exact ⟨m, OfRoom.mono hreceiver grows, hroom, hdata⟩

/-- A page hands on the poster of the room or nobody. -/
theorem PageOk.receiver {p : OpenPage K} (ok : PageOk history p) :
    ReceiverOk history p.page.posterUid := by
  refine OfRoom.imp ok (fun id r hpage => ?_)
  rw [hpage, shownPage]
  cases p.list.passesPoster with
  | false => exact Or.inl rfl
  | true => exact Or.inr rfl

theorem BookingOk.posted {data : Map K} (ok : BookingOk history data) :
    ∃ id r, ∃ list : TenantList, ∃ tenant : Tenant, ∃ bookDate, Posted history id r ∧
      data = Bookroom.toJson ⟨tenant.displayName, some bookDate, some r.roomTitle,
        some tenant.uid, some (if list.passesId then id else "")⟩ := by
  obtain ⟨id, r, past, list, tenant, bookDate, hdata⟩ := ok
  obtain ⟨first, hposted, _, htitle⟩ := past.posted
  refine ⟨id, first, list, tenant, bookDate, hposted, ?_⟩
  rw [hdata, htitle]
  rfl

end Origins

section Forms
variable {K : Type}

def FromForm (owner : String) (room : Rooms K) : Prop :=
  ∃ r : PostedRoom K, r.posterUid = owner ∧ room = r.toRooms

def TaskFromForm : RoomLifecycle.Task K → Prop
  | .creating owner room => FromForm owner room
  | _ => True

def AddsFromForm (history : List (Entry K)) : Prop :=
  ∀ owner id data, (owner, Event.add id data) ∈ history →
    ∃ r : PostedRoom K, r.posterUid = owner ∧ data = r.toRooms.toJson

theorem AddsFromForm.concat {history : List (Entry K)} (adds : AddsFromForm history)
    {entry : Entry K} (new : ∀ owner id data, entry = (owner, Event.add id data) →
      ∃ r : PostedRoom K, r.posterUid = owner ∧ data = r.toRooms.toJson) :
    AddsFromForm (history ++ [entry]) := by
  intro owner id data h
  rcases List.mem_append.mp h with hold | hnew
  · exact adds owner id data hold
  · exact new owner id data (List.mem_singleton.mp hnew).symm

theorem proceed_fromForm {store store' : RoomLifecycle.Store K}
    {device device' : RoomLifecycle.Device K} {i : Nat} {id : String}
    {task : RoomLifecycle.Task K} (adds : AddsFromForm store.history)
    (tasks : ∀ task ∈ device.tasks, TaskFromForm task) (htask : TaskFromForm task)
    (h : RoomLifecycle.proceed store device i id task = some (store', device')) :
    AddsFromForm store'.history ∧ ∀ task ∈ device'.tasks, TaskFromForm task := by
  have ended : ∀ task ∈ device.tasks.set i .ended, TaskFromForm task :=
    forall_mem_set tasks trivial
  cases task with
  | creating owner room =>
    simp only [RoomLifecycle.proceed] at h
    split at h
    · cases h
    · split at h
      · cases h
      · cases h
        obtain ⟨r, hposter, rfl⟩ := htask
        refine ⟨adds.concat ?_, ended⟩
        rintro owner' id' data heq
        cases heq
        exact ⟨r, hposter, rfl⟩
  | deleting page =>
    simp only [RoomLifecycle.proceed] at h
    split at h
    · cases h
    · cases h
      exact ⟨adds.concat (fun _ _ _ heq => by cases heq), forall_mem_set tasks trivial⟩
  | getting page pick =>
    simp only [RoomLifecycle.proceed] at h
    split at h
    · cases h
    · split at h
      · cases h
        exact ⟨adds, forall_mem_set tasks trivial⟩
      · cases h
        exact ⟨adds, ended⟩
  | updating page pick =>
    simp only [RoomLifecycle.proceed] at h
    split at h
    · cases h
    · split at h
      · cases h
        exact ⟨adds, ended⟩
      · cases h
        exact ⟨adds.concat (fun _ _ _ heq => by cases heq), ended⟩
  | deleted roomId => cases h
  | ended => cases h

variable [IntCast K]

/-- The landlord's part adds rooms of the posting form only, if only such rooms
are posted. -/
theorem deviceStep_fromForm {store store' : RoomLifecycle.Store K}
    {device device' : RoomLifecycle.Device K} {a : RoomLifecycle.Action K}
    (adds : AddsFromForm store.history) (tasks : ∀ task ∈ device.tasks, TaskFromForm task)
    (posts : ∀ room, a = .post room → ∃ r : PostedRoom K, room = r.toRooms)
    (h : RoomLifecycle.deviceStep store device a = some (store', device')) :
    AddsFromForm store'.history ∧ ∀ task ∈ device'.tasks, TaskFromForm task := by
  cases a with
  | session uid =>
    cases h
    exact ⟨adds, tasks⟩
  | openList =>
    cases h
    exact ⟨adds, tasks⟩
  | deliver =>
    simp only [RoomLifecycle.deviceStep] at h
    split at h
    · cases h
    · cases h
      exact ⟨adds, tasks⟩
  | openRoom i =>
    simp only [RoomLifecycle.deviceStep] at h
    split at h
    · split at h
      · cases h
        exact ⟨adds, tasks⟩
      · cases h
        exact ⟨adds, tasks⟩
    · cases h
  | post room =>
    simp only [RoomLifecycle.deviceStep] at h
    split at h
    · cases h
      exact ⟨adds, tasks⟩
    · rename_i uid _
      cases h
      obtain ⟨r, rfl⟩ := posts room rfl
      refine ⟨adds, forall_mem_concat tasks ?_⟩
      exact ⟨{ r with posterUid := uid }, rfl, rfl⟩
  | delete page =>
    cases h
    exact ⟨adds, forall_mem_concat tasks trivial⟩
  | relocate page pick =>
    cases h
    exact ⟨adds, forall_mem_concat tasks trivial⟩
  | proceed i id =>
    simp only [RoomLifecycle.deviceStep] at h
    split at h
    · cases h
    · rename_i task htask
      exact proceed_fromForm adds tasks (tasks task (List.mem_of_getElem? htask)) h
  | lose i id =>
    simp only [RoomLifecycle.deviceStep] at h
    split at h
    · cases h
    · rename_i task htask
      obtain ⟨⟨store'', device''⟩, hproceed, heq⟩ := Option.map_eq_some_iff.mp h
      cases heq
      exact ⟨(proceed_fromForm adds tasks (tasks task (List.mem_of_getElem? htask)) hproceed).1,
        forall_mem_set tasks trivial⟩
  | fail i =>
    simp only [RoomLifecycle.deviceStep] at h
    split at h
    · cases h
    · cases h
      exact ⟨adds, forall_mem_set tasks trivial⟩

end Forms

section Invariants
variable {K : Type} [IntCast K]

structure StoreOk (store : Store K) : Prop where
  rooms : RoomLifecycle.StoreOk store.rooms
  adds : AddsFromForm store.rooms.history
  savedRooms : ∀ uid, ∀ d ∈ (store.savedRooms uid).docs, BookmarkOk store.rooms.history d
  bookings : ∀ d ∈ store.bookings.docs, BookingOk store.rooms.history d.data
  messages : ∀ room, ∀ d ∈ (store.chats.messages room).docs,
    MessageOk store.rooms.history room d.data

def TaskOk (history : List (Entry K)) : Task K → Prop
  | .arriving _ rows => ∀ row ∈ rows, RowOk history row
  | .toggling _ card _ _ => CardOk history card
  | .querying _ page _ => ∃ list, PageOk history ⟨list, page⟩
  | .adding _ page _ => ∃ list, PageOk history ⟨list, page⟩
  | .sending m => ReceiverOk history m.receiverID
  | .ended => True

structure DeviceOk (store : Store K) (device : Device K) : Prop where
  landlord : RoomLifecycle.DeviceOk store.rooms device.landlord
  creating : ∀ task ∈ device.landlord.tasks, TaskFromForm task
  lists : ∀ list, ∀ row ∈ device.lists list, RowOk store.rooms.history row
  pages : ∀ p ∈ device.pages, PageOk store.rooms.history p
  tasks : ∀ task ∈ device.tasks, TaskOk store.rooms.history task

def Grows (store store' : Store K) : Prop := RoomLifecycle.Grows store.rooms store'.rooms

omit [IntCast K] in
theorem TaskOk.mono {history history' : List (Entry K)} {task : Task K} (ok : TaskOk history task)
    (grows : history <+: history') : TaskOk history' task := by
  cases task with
  | arriving list rows => exact fun row hrow => OfRoom.mono (ok row hrow) grows
  | toggling userId card isSaved now => exact OfRoom.mono ok grows
  | querying tenant page bookDate => exact ok.imp (fun _ h => OfRoom.mono h grows)
  | adding tenant page bookDate => exact ok.imp (fun _ h => OfRoom.mono h grows)
  | sending m => exact OfRoom.mono ok grows
  | ended => trivial

theorem DeviceOk.mono {store store' : Store K} {device : Device K} (ok : DeviceOk store device)
    (grows : Grows store store') : DeviceOk store' device where
  landlord := ok.landlord.mono grows
  creating := ok.creating
  lists list row hrow := OfRoom.mono (ok.lists list row hrow) grows
  pages p hp := OfRoom.mono (ok.pages p hp) grows
  tasks task htask := (ok.tasks task htask).mono grows

theorem DeviceOk.addTask {store : Store K} {device : Device K} {task : Task K}
    (ok : DeviceOk store device) (htask : TaskOk store.rooms.history task) :
    DeviceOk store (device.addTask task) :=
  { ok with tasks := forall_mem_concat ok.tasks htask }

theorem DeviceOk.setTask {store : Store K} {device : Device K} (ok : DeviceOk store device)
    (i : Nat) {task : Task K} (htask : TaskOk store.rooms.history task) :
    DeviceOk store (device.setTask i task) :=
  { ok with tasks := forall_mem_set ok.tasks htask }

theorem DeviceOk.show {store : Store K} {device : Device K} (ok : DeviceOk store device)
    (list : TenantList) {rows : List (TenantRow K)}
    (hrows : ∀ row ∈ rows, RowOk store.rooms.history row) :
    DeviceOk store (device.show list rows) := by
  refine { ok with lists := ?_ }
  intro other row hrow
  by_cases h : other = list
  · subst h
    simp only [Device.show, Function.update_self] at hrow
    exact hrows row hrow
  · simp only [Device.show, Function.update_of_ne h] at hrow
    exact ok.lists other row hrow

/-- The rooms of the collection are posted ones. -/
theorem StoreOk.past {store : Store K} (ok : StoreOk store) {d : DocumentSnapshot K}
    (hd : d ∈ store.rooms.rooms.docs) :
    ∃ r, PastRoom store.rooms.history d.id r ∧ d = postedSnapshot d.id r := by
  obtain ⟨id, data⟩ := d
  obtain ⟨owner, room, hposted, _, hdata⟩ :=
    ok.rooms.get?_eq_some_iff.mp ((store.rooms.rooms.get?_eq_some_iff id data).mpr hd)
  obtain ⟨first, rfl, hfirst⟩ := ok.adds owner id _ hposted.1
  refine ⟨_, ⟨first, _, ?_, List.prefix_refl _, rfl⟩, ?_⟩
  · rw [Posted, ← hfirst]
    exact hposted.1
  · rw [postedSnapshot, ← relocations_toRooms, ← hfirst, ← hdata]

theorem StoreOk.postedRooms {store : Store K} (ok : StoreOk store) :
    ∃ rooms : List (Doc String (PostedRoom K)),
      store.rooms.rooms.docs = rooms.map (fun d => postedSnapshot d.id d.data) := by
  have hall : ∀ docs : List (DocumentSnapshot K), (∀ d ∈ docs, d ∈ store.rooms.rooms.docs) →
      ∃ rooms : List (Doc String (PostedRoom K)),
        docs = rooms.map (fun d => postedSnapshot d.id d.data) := by
    intro docs hdocs
    induction docs with
    | nil => exact ⟨[], rfl⟩
    | cons d docs ih =>
      obtain ⟨rooms, hrooms⟩ := ih (fun e he => hdocs e (List.mem_cons_of_mem d he))
      obtain ⟨r, _, hr⟩ := ok.past (hdocs d List.mem_cons_self)
      exact ⟨⟨d.id, r⟩ :: rooms, by rw [List.map_cons, ← hrooms, ← hr]⟩
  exact hall _ (fun _ hd => hd)

end Invariants

section Steps
variable {K : Type}

/-- A toggle that went through left what was there, or put the card there. -/
theorem mem_toggleSaveRoom {saved saved' : SavedRooms.Store K} {userId : Option String}
    {card : Roomcard K} {isSaved : Bool} {now : Int}
    (h : SavedRooms.toggleSaveRoom saved userId card.roomTitle card.roomData isSaved now =
      .ok saved') {uid : String} {d : DocumentSnapshot K} (hd : d ∈ (saved' uid).docs) :
    d ∈ (saved uid).docs ∨ d = ⟨card.roomTitle, savedDocument card.roomData now⟩ := by
  cases userId with
  | none =>
    cases h
    exact Or.inl hd
  | some userId =>
    by_cases hid : SavedRooms.IsDocumentId card.roomTitle
    · rw [SavedRooms.toggleSaveRoom_ok _ _ _ _ _ hid] at h
      cases h
      by_cases huid : uid = userId
      · subst huid
        rw [Function.update_self] at hd
        rcases SavedIdentity.mem_toggled hd with ⟨_, hnew⟩ | ⟨hold, _⟩
        · exact Or.inr hnew
        · exact Or.inl hold
      · rw [Function.update_of_ne huid] at hd
        exact Or.inl hd
    · rw [SavedRooms.toggleSaveRoom_error _ _ _ _ _ hid] at h
      cases h

theorem receiver_newMessage {user : Option User} {receiverID message : String} {now : Int}
    {m : Message} (h : ContactOwner.newMessage user receiverID message now = .ok m) :
    m.receiverID = receiverID := by
  unfold ContactOwner.newMessage at h
  split at h
  · cases h
  · split at h
    · cases h
    · cases h
      rfl

variable [IntCast K]

theorem landlordStep_ok {store store' : Store K} {device device' : Device K}
    {a : RoomLifecycle.Action K} (storeOk : StoreOk store) (ok : DeviceOk store device)
    (posts : ∀ room, a = .post room → ∃ r : PostedRoom K, room = r.toRooms)
    (h : landlordStep store device a = some (store', device')) :
    StoreOk store' ∧ DeviceOk store' device' ∧ Grows store store' := by
  obtain ⟨⟨rooms, landlord⟩, hstep, heq⟩ := Option.map_eq_some_iff.mp h
  cases heq
  obtain ⟨hrooms, hlandlord, grows⟩ := RoomLifecycle.deviceStep_ok storeOk.rooms ok.landlord hstep
  obtain ⟨hadds, hcreating⟩ := deviceStep_fromForm storeOk.adds ok.creating posts hstep
  have kept : DeviceOk { store with rooms := rooms } device := ok.mono grows
  refine ⟨⟨hrooms, hadds, ?_, ?_, ?_⟩,
    ⟨hlandlord, hcreating, kept.lists, kept.pages, kept.tasks⟩, grows⟩
  · exact fun uid d hd => OfRoom.mono (storeOk.savedRooms uid d hd) grows
  · exact fun d hd => OfRoom.mono (storeOk.bookings d hd) grows
  · exact fun room d hd => (storeOk.messages room d hd).mono grows

theorem proceed_ok {store store' : Store K} {device device' : Device K} {i : Nat} {id : String}
    {task : Task K} (storeOk : StoreOk store) (ok : DeviceOk store device)
    (htask : TaskOk store.rooms.history task)
    (h : proceed store device i id task = some (store', device')) :
    StoreOk store' ∧ DeviceOk store' device' ∧ Grows store store' := by
  have unchanged : Grows store store := List.prefix_refl _
  have hended : DeviceOk store (device.setTask i .ended) := ok.setTask i trivial
  cases task with
  | arriving list rows =>
    cases h
    exact ⟨storeOk, (ok.show list htask).setTask i trivial, unchanged⟩
  | toggling userId card isSaved now =>
    simp only [proceed] at h
    split at h
    · cases h
      exact ⟨storeOk, hended, unchanged⟩
    · rename_i saved hsaved
      cases h
      refine ⟨{ storeOk with savedRooms := ?_ }, hended.mono unchanged, unchanged⟩
      intro uid d hd
      rcases mem_toggleSaveRoom hsaved hd with hold | rfl
      · exact storeOk.savedRooms uid d hold
      · exact OfRoom.imp htask (fun _ _ of => ⟨card, now, of, rfl⟩)
  | querying tenant page bookDate =>
    simp only [proceed] at h
    split at h
    · cases h
      exact ⟨storeOk, ok.setTask i htask, unchanged⟩
    · cases h
      exact ⟨storeOk, hended, unchanged⟩
  | adding tenant page bookDate =>
    simp only [proceed] at h
    split at h
    · cases h
    · rename_i bookings hadd
      cases h
      obtain ⟨_, rfl, _⟩ := store.bookings.add_cases hadd
      refine ⟨{ storeOk with bookings := ?_ }, hended.mono unchanged, unchanged⟩
      intro d hd
      obtain ⟨list, hpage⟩ := htask
      rcases store.bookings.mem_set.mp hd with rfl | ⟨hold, _⟩
      · exact OfRoom.imp hpage (fun _ _ heq => ⟨list, tenant, bookDate, by rw [← heq]⟩)
      · exact storeOk.bookings d hold
  | sending m =>
    simp only [proceed] at h
    split at h
    · cases h
    · rename_i messages hadd
      cases h
      obtain ⟨_, rfl, _⟩ := (store.chats.messages _).add_cases hadd
      refine ⟨{ storeOk with messages := ?_ }, hended.mono unchanged, unchanged⟩
      intro room d hd
      by_cases hroom : room = chatRoomID m.senderID m.receiverID
      · subst hroom
        simp only [Function.update_self] at hd
        rcases (store.chats.messages _).mem_set.mp hd with rfl | ⟨hold, _⟩
        · exact ⟨m, htask, rfl, rfl⟩
        · exact storeOk.messages _ d hold
      · simp only [Function.update_of_ne hroom] at hd
        exact storeOk.messages room d hd
  | ended => cases h

end Steps

section Machines
variable {K : Type} [Field K] [LinearOrder K] {T : DoubleParser K} {M : Functions K} {S : ListSort}

theorem answer_ok {store : Store K} (ok : StoreOk store) {savedOwner : Option String}
    {question : Question K} {rows : List (TenantRow K)}
    (h : answer T M S store savedOwner question = .ok rows) :
    ∀ row ∈ rows, RowOk store.rooms.history row := by
  cases question with
  | search searchQuery =>
    cases h
    refine List.forall_mem_map.mpr (fun d hd => ?_)
    obtain ⟨r, past, hr⟩ := ok.past (HomeScreen.mem_searchResults.mp hd).1
    exact ⟨d.id, r, past, hr ▸ .search⟩
  | allRooms =>
    cases h
    refine List.forall_mem_map.mpr (fun d hd => ?_)
    obtain ⟨r, past, hr⟩ := ok.past hd
    exact ⟨d.id, r, past, hr ▸ .allRooms⟩
  | filtered fields =>
    obtain ⟨⟨warned, results⟩, hresults, h⟩ := bind_eq_ok.mp h
    cases h
    refine List.forall_mem_map.mpr (fun room hroom => ?_)
    obtain ⟨d, hd, rfl⟩ := PropertyFiltering.mem_filterPressed hresults hroom
    obtain ⟨r, past, hr⟩ := ok.past hd
    refine ⟨d.id, r, past, ?_⟩
    rw [hr]
    exact .filtered
  | recommendations userPreferences =>
    obtain ⟨docs, hdocs, h⟩ := bind_eq_ok.mp h
    cases h
    refine List.forall_mem_map.mpr (fun d hd => ?_)
    obtain ⟨r, past, hr⟩ := ok.past (RecommendationFeed.mem_rankRooms hdocs hd)
    exact ⟨d.id, r, past, hr ▸ .recommendation⟩
  | saved =>
    cases savedOwner with
    | none =>
      cases h
      exact fun _ hrow => absurd hrow List.not_mem_nil
    | some userId =>
      cases h
      refine List.forall_mem_map.mpr (fun d hd => ?_)
      obtain ⟨id, r, past, card, savedAt, of, rfl⟩ := ok.savedRooms userId d hd
      exact ⟨id, r, past, .saved savedAt of⟩

theorem deviceStep_ok {store store' : Store K} {device device' : Device K} {a : Action K}
    (storeOk : StoreOk store) (ok : DeviceOk store device)
    (h : deviceStep T M S store device a = some (store', device')) :
    StoreOk store' ∧ DeviceOk store' device' ∧ Grows store store' := by
  have unchanged : Grows store store := List.prefix_refl _
  cases a with
  | signIn account =>
    have ok' : DeviceOk store { device with account := account } :=
      ⟨ok.landlord, ok.creating, ok.lists, ok.pages, ok.tasks⟩
    exact landlordStep_ok storeOk ok' (fun _ heq => by cases heq) h
  | post room =>
    refine landlordStep_ok storeOk ok ?_ h
    rintro _ ⟨⟩
    exact ⟨room, rfl⟩
  | landlord a =>
    cases a with
    | session uid => cases h
    | post room => cases h
    | _ => exact landlordStep_ok storeOk ok (fun _ heq => by cases heq) h
  | openSaved =>
    cases h
    have hshown := ok.show .saved (fun _ hrow => absurd hrow List.not_mem_nil)
    exact ⟨storeOk, ⟨hshown.landlord, hshown.creating, hshown.lists, hshown.pages, hshown.tasks⟩,
      unchanged⟩
  | ask question =>
    simp only [deviceStep] at h
    split at h
    · cases h
      exact ⟨storeOk, ok, unchanged⟩
    · rename_i rows hrows
      cases h
      exact ⟨storeOk, ok.addTask (answer_ok storeOk hrows), unchanged⟩
  | askFails list =>
    cases h
    exact ⟨storeOk, ok.addTask (fun _ hrow => absurd hrow List.not_mem_nil), unchanged⟩
  | openPage list i =>
    simp only [deviceStep] at h
    split at h
    · cases h
    · rename_i row hrow
      split at h
      · cases h
        exact ⟨storeOk, ok, unchanged⟩
      · rename_i page hpage
        cases h
        have hopened : PageOk store.rooms.history ⟨row.list, page⟩ :=
          OfRoom.imp (ok.lists list row (List.mem_of_getElem? hrow))
            (fun _ _ of => of.details hpage)
        exact ⟨storeOk, { ok with pages := forall_mem_concat ok.pages hopened }, unchanged⟩
  | bookmark list i isSaved now =>
    simp only [deviceStep] at h
    split at h
    · cases h
    · rename_i row hrow
      split at h
      · cases h
      · rename_i card hcard
        cases h
        have hshown : CardOk store.rooms.history card :=
          OfRoom.imp (ok.lists list row (List.mem_of_getElem? hrow))
            (fun _ _ of => of.roomcard hcard)
        exact ⟨storeOk, ok.addTask hshown, unchanged⟩
  | book page now =>
    simp only [deviceStep] at h
    split at h
    · cases h
    · cases h
      exact ⟨storeOk, ok, unchanged⟩
    · rename_i p account hp haccount
      cases h
      exact ⟨storeOk, ok.addTask ⟨p.list, ok.pages p (List.mem_of_getElem? hp)⟩, unchanged⟩
  | contact page message now =>
    simp only [deviceStep] at h
    split at h
    · cases h
    · rename_i p hp
      split at h
      · cases h
        exact ⟨storeOk, ok, unchanged⟩
      · split at h
        · cases h
          exact ⟨storeOk, ok, unchanged⟩
        · rename_i m hm
          cases h
          have hreceiver := (ok.pages p (List.mem_of_getElem? hp)).receiver
          rw [← receiver_newMessage hm] at hreceiver
          exact ⟨storeOk, ok.addTask hreceiver, unchanged⟩
  | proceed i id =>
    simp only [deviceStep] at h
    split at h
    · cases h
    · rename_i task htask
      exact proceed_ok storeOk ok (ok.tasks task (List.mem_of_getElem? htask)) h
  | fail i =>
    simp only [deviceStep] at h
    split at h
    · cases h
    · cases h
      exact ⟨storeOk, ok.setTask i trivial, unchanged⟩

theorem guarantees : Guarantees (deviceStep T M S) StoreOk DeviceOk Grows where
  refl _ := List.prefix_refl _
  trans _ _ _ := List.IsPrefix.trans
  own _ _ _ _ _ := deviceStep_ok
  stable _ _ _ _ := DeviceOk.mono

end Machines

section Systems
variable {K ι : Type} [Field K] [LinearOrder K] [DecidableEq ι]

def initial : System (Store K) ι (Device K) := ⟨initialStore, fun _ => newDevice⟩

theorem run_ok {T : DoubleParser K} {M : Functions K} {S : ListSort}
    {acts : List (ι × Action K)} {s : System (Store K) ι (Device K)}
    (hrun : run (SharedStore.step (deviceStep T M S)) initial acts = some s) :
    StoreOk s.store ∧ ∀ i, DeviceOk s.store (s.devices i) := by
  have storeOk : StoreOk (initialStore : Store K) :=
    ⟨⟨fun _ => rfl, .start⟩, fun _ _ _ h => absurd h List.not_mem_nil,
      fun _ _ h => absurd h List.not_mem_nil, fun _ h => absurd h List.not_mem_nil,
      fun _ _ h => absurd h List.not_mem_nil⟩
  have landlordOk : RoomLifecycle.DeviceOk (RoomLifecycle.initialStore : RoomLifecycle.Store K)
      RoomLifecycle.newDevice :=
    ⟨nofun, fun _ h => absurd h List.not_mem_nil, fun _ h => absurd h List.not_mem_nil⟩
  have deviceOk : DeviceOk (initialStore : Store K) newDevice :=
    ⟨landlordOk, fun _ h => absurd h List.not_mem_nil, fun _ _ h => absurd h List.not_mem_nil,
      fun _ h => absurd h List.not_mem_nil, fun _ h => absurd h List.not_mem_nil⟩
  obtain ⟨ok, devices, _⟩ := guarantees.run storeOk (fun _ => deviceOk) hrun
  exact ⟨ok, devices⟩

def sunnyRoom : PostedRoom ℚ where
  roomTitle := "Sunny room"
  titleNonempty := by decide
  posterUid := "l1"
  postedBy := some "Sunita Rai"
  postedByEmail := some "sunita@example.com"
  address := "Patan"
  latitude := 27
  longitude := 85
  price := .fin 9000
  description := "Two windows"
  amenities := ["Gym"]
  images := ["rooms/1.png", "rooms/2.png"]
  propertyType := "Room"
  postDate := "2024-05-01"

def landlordAccount : Account :=
  ⟨⟨⟨"l1", by decide, by decide⟩, some "sunita@example.com"⟩, some "Sunita Rai"⟩

def tenantAccount : Account :=
  ⟨⟨⟨"t1", by decide, by decide⟩, some "hari@example.com"⟩, some "Hari"⟩

/-- A tenant saves a posted room, which is moved; the page that the saved room
opens and the one that the full list opens are booked and written from. -/
def visitedRoom : List (Bool × Action ℚ) :=
  [(false, .signIn (some landlordAccount)), (false, .post sunnyRoom),
    (false, .landlord (.proceed 0 "r1")), (false, .landlord .openList),
    (false, .landlord .deliver), (false, .landlord (.openRoom 0)),
    (true, .signIn (some tenantAccount)), (true, .ask .allRooms), (true, .proceed 0 ""),
    (true, .openPage .allRooms 0), (true, .bookmark .allRooms 0 false 5), (true, .proceed 1 ""),
    (false, .landlord (.relocate 0 ⟨"Thamel", 27, 86⟩)), (false, .landlord (.proceed 1 "")),
    (false, .landlord (.proceed 1 "")), (true, .openSaved), (true, .ask .saved),
    (true, .proceed 2 ""), (true, .openPage .saved 0), (true, .book 0 7), (true, .proceed 3 ""),
    (true, .proceed 3 "b1"), (true, .contact 0 "Is it free?" 8), (true, .proceed 4 "m1")]

abbrev sampleStep : System (Store ℚ) Bool (Device ℚ) → Bool × Action ℚ →
    Option (System (Store ℚ) Bool (Device ℚ)) :=
  SharedStore.step (deviceStep rationalText.toDoubleParser RecommendationFeed.atOrigin
    insertionSort)

variable (T : DoubleParser K) (M : Functions K) (S : ListSort)

/-- Every open page, whichever list it came from and however old it is, shows a
posted room as it was at one moment. -/
theorem tenantPages_show (acts : List (ι × Action K)) (s : System (Store K) ι (Device K))
    (hrun : run (SharedStore.step (deviceStep T M S)) initial acts = some s) (i : ι)
    (p : OpenPage K) (hp : p ∈ (s.devices i).pages) :
    ∃ id r, PastRoom s.store.rooms.history id r ∧ p.page = shownPage p.list id r :=
  ((run_ok hrun).2 i).pages p hp

theorem tenantPages_show_visitedRoom : ∃ s p, run sampleStep initial visitedRoom = some s ∧
    p ∈ (s.devices true).pages ∧ p.list = .saved ∧ p.page.location = "Patan" ∧
      ∃ id r, PastRoom s.store.rooms.history id r ∧ p.page = shownPage p.list id r := by
  obtain ⟨s, hrun, p, hp, hlist, hlocation⟩ := exists_of_check sampleStep initial visitedRoom
    (fun s => ∃ p ∈ (s.devices true).pages, p.list = .saved ∧ p.page.location = "Patan")
    (by decide +kernel)
  exact ⟨s, p, hrun, hp, hlist, hlocation, tenantPages_show _ _ _ visitedRoom s hrun true p hp⟩

/-- Every saved room, of whichever tenant, is the card of a posted room as it
was at one moment, under the title of this room. -/
theorem bookmarks_posted (acts : List (ι × Action K)) (s : System (Store K) ι (Device K))
    (hrun : run (SharedStore.step (deviceStep T M S)) initial acts = some s) (uid : String)
    (d : DocumentSnapshot K) (hd : d ∈ (s.store.savedRooms uid).docs) :
    ∃ id r card savedAt, PastRoom s.store.rooms.history id r ∧ CardOf r card ∧
      d.id = r.roomTitle ∧ d.data = savedDocument card.roomData savedAt := by
  obtain ⟨id, r, past, card, savedAt, of, rfl⟩ := (run_ok hrun).1.savedRooms uid d hd
  have htitle : card.roomTitle = r.roomTitle := by
    obtain ⟨_, _, _, _, rfl⟩ := of
    rfl
  exact ⟨id, r, card, savedAt, past, of, htitle, rfl⟩

theorem bookmarks_posted_visitedRoom : ∃ s d, run sampleStep initial visitedRoom = some s ∧
    d ∈ (s.store.savedRooms "t1").docs ∧ ∃ id r card savedAt,
      PastRoom s.store.rooms.history id r ∧ CardOf r card ∧ d.id = r.roomTitle ∧
      d.data = savedDocument card.roomData savedAt := by
  obtain ⟨s, hrun, d, hd, _⟩ := exists_of_check sampleStep initial visitedRoom
    (fun s => ∃ d ∈ (s.store.savedRooms "t1").docs, d.id = "Sunny room") (by decide +kernel)
  exact ⟨s, d, hrun, hd, bookmarks_posted _ _ _ visitedRoom s hrun "t1" d hd⟩

/-- Every booking record has the title of a posted room, and its id or none. -/
theorem bookings_posted (acts : List (ι × Action K)) (s : System (Store K) ι (Device K))
    (hrun : run (SharedStore.step (deviceStep T M S)) initial acts = some s)
    (d : DocumentSnapshot K) (hd : d ∈ s.store.bookings.docs) :
    ∃ id r, ∃ list : TenantList, ∃ tenant : Tenant, ∃ bookDate,
      Posted s.store.rooms.history id r ∧
      d.data = Bookroom.toJson ⟨tenant.displayName, some bookDate, some r.roomTitle,
        some tenant.uid, some (if list.passesId then id else "")⟩ :=
  ((run_ok hrun).1.bookings d hd).posted

theorem bookings_posted_visitedRoom : ∃ s d, run sampleStep initial visitedRoom = some s ∧
    d ∈ s.store.bookings.docs ∧ ∃ id r, ∃ list : TenantList, ∃ tenant : Tenant, ∃ bookDate,
      Posted s.store.rooms.history id r ∧
      d.data = Bookroom.toJson ⟨tenant.displayName, some bookDate, some r.roomTitle,
        some tenant.uid, some (if list.passesId then id else "")⟩ := by
  obtain ⟨s, hrun, d, hd, _⟩ := exists_of_check sampleStep initial visitedRoom
    (fun s => ∃ d ∈ s.store.bookings.docs, d.id = "b1") (by decide +kernel)
  exact ⟨s, d, hrun, hd, bookings_posted _ _ _ visitedRoom s hrun d hd⟩

/-- What an open room page of a landlord finds under the id of its room is a
booking of a room with this title. -/
theorem landlordPage_bookings (acts : List (ι × Action K)) (s : System (Store K) ι (Device K))
    (hrun : run (SharedStore.step (deviceStep T M S)) initial acts = some s) (i : ι)
    (p : OpenRoom K) (hp : p ∈ (s.devices i).landlord.pages) (hid : p.page.roomId ≠ "")
    (d : DocumentSnapshot K) (hd : d ∈ s.store.bookings.docs)
    (hroomId : Map.get d.data "roomId" = .str p.page.roomId) :
    Map.get d.data "bookedHouse" = .str p.page.roomTitle := by
  obtain ⟨ok, devices⟩ := run_ok hrun
  obtain ⟨id, r, list, tenant, bookDate, hbooked, hdata⟩ :=
    (ok.bookings d hd).posted
  obtain ⟨room, hposted, displays⟩ := ((devices i).landlord.pages p hp).opened.displays
  rw [hdata] at hroomId
  simp only [Bookroom.toJson, Map.get_cons, String.reduceEq, ↓reduceIte,
    Value.ofStringOrNull_some, Value.str.injEq] at hroomId
  -- an empty id is not that of the page, so the record has the id of the room
  cases hpass : list.passesId with
  | false =>
    rw [hpass] at hroomId
    exact absurd hroomId.symm hid
  | true =>
    rw [hpass] at hroomId
    obtain rfl : id = p.page.roomId := hroomId
    have hsame := (ok.rooms.lawful.posted_unique hposted ⟨hbooked, rfl⟩).2
    have hname := congrArg (fun m => Map.get m "name") hsame
    simp only [Rooms.toJson, PostedRoom.toRooms, Map.get_cons, ↓reduceIte, displays.roomTitle,
      Value.ofStringOrNull_some, Value.str.injEq] at hname
    rw [hdata, hname]
    rfl

theorem landlordPage_bookings_visitedRoom : ∃ s p d,
    run sampleStep initial visitedRoom = some s ∧ p ∈ (s.devices false).landlord.pages ∧
      d ∈ s.store.bookings.docs ∧ Map.get d.data "bookedHouse" = .str p.page.roomTitle := by
  obtain ⟨s, hrun, p, hp, hid, d, hd, hroomId⟩ := exists_of_check sampleStep initial visitedRoom
    (fun s => ∃ p ∈ (s.devices false).landlord.pages, p.page.roomId ≠ "" ∧
      ∃ d ∈ s.store.bookings.docs, isEqualTo "roomId" p.page.roomId d = true) (by decide +kernel)
  exact ⟨s, p, d, hrun, hp, hd, landlordPage_bookings _ _ _ visitedRoom s hrun false p hp hid d hd
    ((isEqualTo_iff _ _ d).mp hroomId)⟩

/-- Every message from a room page is in the conversation of its sender with
the poster of a room, or with nobody. -/
theorem contacts_posted (acts : List (ι × Action K)) (s : System (Store K) ι (Device K))
    (hrun : run (SharedStore.step (deviceStep T M S)) initial acts = some s) (room : String)
    (d : DocumentSnapshot K) (hd : d ∈ (s.store.chats.messages room).docs) :
    ∃ m : Message, d.data = m.toMap ∧ room = chatRoomID m.senderID m.receiverID ∧
      ∃ id r, Posted s.store.rooms.history id r ∧
        (m.receiverID = "" ∨ m.receiverID = r.posterUid) := by
  obtain ⟨m, ⟨id, r, past, hreceiver⟩, hroom, hdata⟩ := (run_ok hrun).1.messages room d hd
  obtain ⟨first, hposted, hposter, _⟩ := past.posted
  rw [← hposter] at hreceiver
  exact ⟨m, hdata, hroom, id, first, hposted, hreceiver⟩

theorem contacts_posted_visitedRoom : ∃ s d, run sampleStep initial visitedRoom = some s ∧
    d ∈ (s.store.chats.messages (chatRoomID "t1" "l1")).docs ∧ ∃ m : Message,
      d.data = m.toMap ∧ ∃ id r, Posted s.store.rooms.history id r ∧
        (m.receiverID = "" ∨ m.receiverID = r.posterUid) := by
  obtain ⟨s, hrun, d, hd, _⟩ := exists_of_check sampleStep initial visitedRoom
    (fun s => ∃ d ∈ (s.store.chats.messages (chatRoomID "t1" "l1")).docs, d.id = "m1")
    (by decide +kernel)
  obtain ⟨m, hdata, _, hposter⟩ := contacts_posted _ _ _ visitedRoom s hrun _ d hd
  exact ⟨s, d, hrun, hd, m, hdata, hposter⟩

/-- What the filter dialog delivers for fields that read as numbers: the rooms
that are posted and not deleted, as they are now, that pass its test. -/
theorem filtered_exact (acts : List (ι × Action K)) (s : System (Store K) ι (Device K))
    (hrun : run (SharedStore.step (deviceStep T M S)) initial acts = some s)
    (savedOwner : Option String) (inputs : Inputs T) (userDoc : Option (UserDocument K))
    (loaded : Bool) :
    ∃ rooms : List (Doc String (PostedRoom K)), ∃ rows, (rooms.map Doc.id).Nodup ∧
      (∀ d, d ∈ rooms.map (fun d => postedSnapshot d.id d.data) ↔
        IsPosted s.store.rooms.history d) ∧
      answer T M S s.store savedOwner (.filtered (dialogAt inputs userDoc loaded)) = .ok rows ∧
      rows.Perm ((rooms.filter (fun d => delivered M inputs (loadedLocation userDoc loaded)
        (storedRoom d.data))).map (fun d => .filtered d.data.toRooms.toJson)) := by
  have ok := (run_ok hrun).1
  obtain ⟨rooms, hrooms⟩ := ok.postedRooms
  have hids : rooms.map Doc.id = s.store.rooms.rooms.docs.map Doc.id := by
    rw [hrooms, List.map_map]
    rfl
  have hstored : s.store.rooms.rooms.docs =
      (rooms.map (fun d => ⟨d.id, storedRoom d.data⟩)).map FilteredRooms.snapshot := by
    rw [hrooms, List.map_map]
    rfl
  obtain ⟨warned, results, hpressed, hperm⟩ := FilteredRooms.filterPressed_perm M inputs userDoc
    loaded (rooms.map (fun d => ⟨d.id, storedRoom d.data⟩))
  refine ⟨rooms, results.map .filtered, ?_, ?_, ?_, ?_⟩
  · rw [hids]
    exact s.store.rooms.rooms.ids_nodup
  · intro d
    rw [← hrooms]
    exact RecommendationFeed.mem_rooms_iff_isPosted ok.rooms d
  · rw [answer, hstored, hpressed]
    rfl
  · refine (hperm.map _).trans (List.Perm.of_eq ?_)
    rw [List.filter_map, List.map_map, List.map_map]
    rfl

def blankInputs : Inputs rationalText.toDoubleParser :=
  let blank : FilteredRooms.NumberField rationalText.toDoubleParser :=
    ⟨"", none, rfl, nofun, fun _ => rfl⟩
  ⟨blank, blank, blank, some "Room"⟩

theorem filtered_exact_visitedRoom : ∃ s, run sampleStep initial visitedRoom = some s ∧
    ∃ rooms : List (Doc String (PostedRoom ℚ)), ∃ rows,
      (∀ d, d ∈ rooms.map (fun d => postedSnapshot d.id d.data) ↔
        IsPosted s.store.rooms.history d) ∧
      answer rationalText.toDoubleParser RecommendationFeed.atOrigin insertionSort s.store none
        (.filtered (dialogAt blankInputs none true)) = .ok rows ∧
      rows.Perm ((rooms.filter (fun d => delivered RecommendationFeed.atOrigin blankInputs
        (loadedLocation none true) (storedRoom d.data))).map
          (fun d => .filtered d.data.toRooms.toJson)) := by
  obtain ⟨s, hrun, _⟩ := exists_of_check sampleStep initial visitedRoom (fun _ => True)
    (by decide +kernel)
  obtain ⟨rooms, rows, _, hrooms, hrows, hperm⟩ :=
    filtered_exact _ _ _ visitedRoom s hrun none blankInputs none true
  exact ⟨s, hrun, rooms, rows, hrooms, hrows, hperm⟩

omit [DecidableEq ι] in
/-- The steps of a tenant who books an open page. -/
theorem booking_alone {T : DoubleParser K} {M : Functions K} {S : ListSort} {store : Store K}
    {device : Device K} {p : OpenPage K} {account : Account} (hp : p ∈ device.pages)
    (haccount : device.account = some account)
    (hnone : existingBooking store.bookings account.uid p.page.roomTitle = []) (now : Int) :
    ∃ store' device' acts, run (fun t a => deviceStep T M S t.1 t.2 a) (store, device) acts =
      some (store', device') ∧ store'.rooms = store.rooms ∧
      ∃ d ∈ store'.bookings.docs, d.data = (bookroom account.tenant p.page now).toJson := by
  obtain ⟨k, hk⟩ := List.getElem?_of_mem hp
  obtain ⟨id, hid⟩ := Infinite.exists_notMem_finset (store.bookings.docs.map Doc.id).toFinset
  have fresh : store.bookings.contains id = false := by
    rw [← Bool.not_eq_true, store.bookings.contains_iff]
    rintro ⟨d, hd, rfl⟩
    exact hid (List.mem_toFinset.mpr (List.mem_map_of_mem hd))
  let record : DocumentSnapshot K := ⟨id, (bookroom account.tenant p.page now).toJson⟩
  refine ⟨{ store with bookings := store.bookings.set id record.data },
    { device with tasks := device.tasks ++ [.ended] },
    [.book k now, .proceed device.tasks.length "", .proceed device.tasks.length id], ?_, rfl,
    record, store.bookings.mem_set.mpr (Or.inl rfl), rfl⟩
  simp [run, deviceStep, hk, haccount, Device.addTask, Device.setTask, proceed, Account.tenant,
    hnone, Collection.add, fresh, record]

/-- A page that is still open when its room has been deleted can be booked, and
the record names a room that is no longer there. -/
theorem booked_after_deletion (acts : List (ι × Action K)) (s : System (Store K) ι (Device K))
    (hrun : run (SharedStore.step (deviceStep T M S)) initial acts = some s) (i j : ι)
    (roomId : String) (hdeleted : RoomLifecycle.Task.deleted roomId ∈ (s.devices j).landlord.tasks)
    (p : OpenPage K) (hp : p ∈ (s.devices i).pages) (hroom : p.page.roomUid = roomId)
    (account : Account) (haccount : (s.devices i).account = some account)
    (hnone : existingBooking s.store.bookings account.uid p.page.roomTitle = []) (now : Int) :
    ∃ later t, run (SharedStore.step (deviceStep T M S)) s later = some t ∧
      t.store.rooms.rooms.get? roomId = none ∧
      ∃ d ∈ t.store.bookings.docs, Map.get d.data "roomId" = .str roomId ∧
        Map.get d.data "bookerUid" = .str account.uid := by
  obtain ⟨ok, devices⟩ := run_ok hrun
  have hgone : s.store.rooms.rooms.get? roomId = none := by
    obtain ⟨owner, hremove⟩ := (devices j).landlord.tasks _ hdeleted
    cases hget : s.store.rooms.rooms.get? roomId with
    | none => rfl
    | some data =>
      obtain ⟨_, _, _, hnever, _⟩ := ok.rooms.get?_eq_some_iff.mp hget
      exact absurd hremove (hnever owner)
  obtain ⟨store', device', acts', halone, hrooms, d, hd, hdata⟩ :=
    booking_alone (T := T) (M := M) (S := S) hp haccount hnone now
  obtain ⟨t, hlater, hstore, _⟩ := SharedStore.run_alone halone
  refine ⟨_, t, hlater, ?_, d, ?_, ?_, ?_⟩
  · rw [hstore, hrooms]
    exact hgone
  · rw [hstore]
    exact hd
  · rw [hdata, ← hroom]
    rfl
  · rw [hdata]
    rfl

/-- The landlord deletes the room while a tenant has its page open. -/
def deletedRoom : List (Bool × Action ℚ) :=
  visitedRoom.take 15 ++
    [(false, .landlord (.delete 0)), (false, .landlord (.proceed 2 ""))]

theorem booked_after_deletion_deletedRoom : ∃ s later t,
    run sampleStep initial deletedRoom = some s ∧ run sampleStep s later = some t ∧
      t.store.rooms.rooms.get? "r1" = none ∧
      ∃ d ∈ t.store.bookings.docs, Map.get d.data "roomId" = .str "r1" := by
  obtain ⟨s, hrun, hdeleted, ⟨p, hp, hroom, hnone⟩, haccount⟩ := exists_of_check sampleStep initial
    deletedRoom (fun s => (s.devices false).landlord.tasks.any (fun task =>
        match task with
        | .deleted roomId => decide (roomId = "r1")
        | _ => false) = true ∧
      (∃ p ∈ (s.devices true).pages, p.page.roomUid = "r1" ∧
        (existingBooking s.store.bookings "t1" p.page.roomTitle).isEmpty = true) ∧
      (s.devices true).account.map Account.uid = some "t1") (by decide +kernel)
  obtain ⟨account, haccount, huid⟩ := Option.map_eq_some_iff.mp haccount
  obtain ⟨task, htask, hroomId⟩ := List.any_eq_true.mp hdeleted
  rw [List.isEmpty_iff, ← huid] at hnone
  cases task with
  | deleted roomId =>
    obtain rfl := of_decide_eq_true hroomId
    obtain ⟨later, t, hlater, hgone, d, hd, hbooked, _⟩ := booked_after_deletion _ _ _ deletedRoom s
      hrun true false "r1" htask p hp hroom account haccount hnone 9
    exact ⟨s, later, t, hrun, hlater, hgone, d, hd, hbooked⟩
  | _ => cases hroomId

end Systems

end TenantDevices
