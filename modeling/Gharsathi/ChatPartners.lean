import Gharsathi.ContactOwner
import Gharsathi.UserDirectory

/-!
# Who can be written to

The chat screen of a home lists the users documents of the other type, and a
tap on a tile opens a chat with the uid and the email the document says. Both
are dynamic values, and nothing in the screens ties them to an account; that
every tile leads to its account, on every device and at any time, comes from
what the collection of users keeps. A receiver finds each sender in the own
list, and the message in the chat that opens from there.
-/

namespace ChatPartners

open Authentication DartValues FirestoreCollection Models Runs UserDirectory
open ChatService (Uid User getMessages chatRoomID MessageItem buildMessageList)
open SharedStore (System Guarantees)

/-- String interpolation; of the values other than strings nothing is said. -/
structure Interpolation (K : Type) where
  text : Value K → String
  text_str : ∀ s, text (.str s) = s

/-- A tile with the dynamic values its tap passes on. -/
structure Usertile (K : Type) where
  text : String
  receiverEmail : Value K
  receiverID : Value K

structure Chatscreen where
  receiverEmail : String
  receiverID : String
  receiverName : String

section Lists
variable {K : Type}

/-- `getUsersStream`: the data of all documents. -/
def getUsersStream (users : Collection String (Map K)) : List (Map K) := users.docs.map Doc.data

/-- `userData["email"] != currentUserEmail`. -/
def differs (email : Value K) (currentUserEmail : Option String) : Bool :=
  match email, currentUserEmail with
  | .null, none => false
  | .str s, some t => decide (s ≠ t)
  | _, _ => true

/-- `userData["usertype"] == shown.name`. -/
def isOfType (shown : UserTypeEnum) (userData : Map K) : Bool :=
  match Map.get userData "usertype" with
  | .str s => decide (s = shown.name)
  | _ => false

/-- `_buildUserListItem`; a user who is not shown gets an empty container. -/
def buildUserListItem (T : Interpolation K) (shown : UserTypeEnum)
    (currentUserEmail : Option String) (userData : Map K) : Option (Usertile K) :=
  if isOfType shown userData && differs (Map.get userData "email") currentUserEmail then
    some ⟨T.text (Map.get userData "firstName") ++ " " ++ T.text (Map.get userData "lastName"),
      Map.get userData "email", Map.get userData "uid"⟩
  else none

def buildUserList (T : Interpolation K) (shown : UserTypeEnum) (currentUserEmail : Option String)
    (users : Collection String (Map K)) : List (Usertile K) :=
  (getUsersStream users).filterMap (buildUserListItem T shown currentUserEmail)

/-- The list of `Tenantchatscreen`. -/
def tenantChatList (T : Interpolation K) : Option String → Collection String (Map K) →
    List (Usertile K) :=
  buildUserList T .landlord

/-- The list of `Landlordchatscreen`. -/
def landlordChatList (T : Interpolation K) : Option String → Collection String (Map K) →
    List (Usertile K) :=
  buildUserList T .tenant

def Usertile.onTap (tile : Usertile K) : Result Chatscreen := do
  let receiverEmail ← tile.receiverEmail.asString
  let receiverID ← tile.receiverID.asString
  return ⟨receiverEmail, receiverID, tile.text⟩

/-- The email of the user who is signed in. -/
def currentUserEmail (store : UserDirectory.Store K) (device : UserDirectory.Device K) :
    Option String :=
  device.currentUser.bind (fun uid => (store.accounts.get? uid).map Account.email)

end Lists

section Shown
variable {K : Type}

/-- The chat that opens for a users document. -/
def LeadsTo (store : UserDirectory.Store K) (tile : Usertile K) (d : DocumentSnapshot K) : Prop :=
  ∃ account firstName lastName, store.accounts.get? d.id = some account ∧
    Map.get d.data "firstName" = .str firstName ∧ Map.get d.data "lastName" = .str lastName ∧
    tile.onTap = .ok ⟨account.email, d.id, firstName ++ " " ++ lastName⟩

theorem isOfType_iff (shown : UserTypeEnum) (userData : Map K) :
    isOfType shown userData = true ↔ Map.get userData "usertype" = .str shown.name := by
  unfold isOfType
  cases Map.get userData "usertype" <;> simp

theorem name_inj {userType userType' : UserTypeEnum} (h : userType.name = userType'.name) :
    userType = userType' := by
  cases userType <;> cases userType' <;> first | rfl | exact absurd h (by decide)

/-- A document gets a tile when it has the type and is not the user's own. -/
theorem buildUserListItem_cases {store : UserDirectory.Store K} (sound : Sound store)
    (T : Interpolation K) (shown : UserTypeEnum) {uid : String} {account : Account}
    (haccount : store.accounts.get? uid = some account) {d : DocumentSnapshot K}
    (hd : d ∈ store.users.docs) :
    ((isOfType shown d.data && decide (d.id ≠ uid)) = true ∧
      ∃ tile, buildUserListItem T shown (some account.email) d.data = some tile ∧
        LeadsTo store tile d) ∨
    ((isOfType shown d.data && decide (d.id ≠ uid)) = false ∧
      buildUserListItem T shown (some account.email) d.data = none) := by
  obtain ⟨r, hr, hid⟩ := sound.documents d.id d.data ((store.users.get?_eq_some_iff _ _).mpr hd)
  obtain ⟨other, hother, hemail⟩ := sound.account d.id r hr
  obtain ⟨firstName, hfirst⟩ := hid.firstName
  obtain ⟨lastName, hlast⟩ := hid.lastName
  have hown : differs (Map.get d.data "email") (some account.email) = decide (d.id ≠ uid) := by
    rw [hid.email, Bool.eq_iff_iff]
    simp only [differs, decide_eq_true_eq]
    constructor
    · rintro hne rfl
      cases haccount.symm.trans hother
      exact hne hemail.symm
    · intro hne heq
      obtain ⟨r', hr'⟩ := sound.registered uid account haccount
      obtain ⟨account', haccount', hemail'⟩ := sound.account uid r' hr'
      cases haccount.symm.trans haccount'
      exact hne (sound.emails d.id uid r r' hr hr' (heq.trans hemail'))
  simp only [buildUserListItem, hown]
  cases hshown : isOfType shown d.data && decide (d.id ≠ uid) with
  | true =>
    refine Or.inl ⟨rfl, _, rfl, other, firstName, lastName, hother, hfirst, hlast, ?_⟩
    simp [Usertile.onTap, hid.email, hid.uid, hemail, hfirst, hlast, T.text_str, bind, Except.bind,
      pure, Except.pure]
  | false => exact Or.inr ⟨rfl, rfl⟩

/-- A list shows the users of its type but oneself, in the order of their
documents, and every tile leads to the account of its document. -/
theorem buildUserList_shown {store : UserDirectory.Store K} (sound : Sound store)
    (T : Interpolation K) (shown : UserTypeEnum) {uid : String} {account : Account}
    (haccount : store.accounts.get? uid = some account) :
    List.Forall₂ (LeadsTo store) (buildUserList T shown (some account.email) store.users)
      (store.users.docs.filter (fun d => isOfType shown d.data && decide (d.id ≠ uid))) := by
  have hall : ∀ docs : List (DocumentSnapshot K), (∀ d ∈ docs, d ∈ store.users.docs) →
      List.Forall₂ (LeadsTo store)
        ((docs.map Doc.data).filterMap (buildUserListItem T shown (some account.email)))
        (docs.filter (fun d => isOfType shown d.data && decide (d.id ≠ uid))) := by
    intro docs hdocs
    induction docs with
    | nil => exact List.Forall₂.nil
    | cons d docs ih =>
      have hrest := ih (fun e he => hdocs e (List.mem_cons_of_mem d he))
      rw [List.map_cons, List.filterMap_cons, List.filter_cons]
      rcases buildUserListItem_cases sound T shown haccount (hdocs d List.mem_cons_self) with
        ⟨hshown, tile, htile, hleads⟩ | ⟨hhidden, hnone⟩
      · rw [htile, hshown]
        exact List.Forall₂.cons hleads hrest
      · rw [hnone, hhidden]
        exact hrest
  exact hall store.users.docs (fun _ h => h)

/-- A user of the type that is shown has a tile in the list of every other user. -/
theorem tile_of_document {store : UserDirectory.Store K} (sound : Sound store)
    (T : Interpolation K) {shown : UserTypeEnum} {uid other : String} {account : Account}
    {userDoc : Map K} (haccount : store.accounts.get? uid = some account) (hne : other ≠ uid)
    (hdoc : store.users.get? other = some userDoc) (htype : isOfType shown userDoc = true) :
    ∃ tile ∈ buildUserList T shown (some account.email) store.users, ∃ page,
      tile.onTap = .ok page ∧ page.receiverID = other := by
  have hmem := (store.users.get?_eq_some_iff other userDoc).mp hdoc
  rcases buildUserListItem_cases sound T shown haccount hmem with
    ⟨_, tile, htile, _, _, _, _, _, _, htap⟩ | ⟨hhidden, _⟩
  · refine ⟨tile, ?_, _, htap, rfl⟩
    exact List.mem_filterMap.mpr ⟨userDoc, List.mem_map_of_mem hmem, htile⟩
  · simp [htype, hne] at hhidden

/-- Whoever is signed in, a chat opens with the uid of a document. -/
theorem document_of_tile {store : UserDirectory.Store K} (sound : Sound store)
    {T : Interpolation K} {shown : UserTypeEnum} {currentUserEmail : Option String}
    {tile : Usertile K} {page : Chatscreen}
    (htile : tile ∈ buildUserList T shown currentUserEmail store.users)
    (htap : tile.onTap = .ok page) : store.users.contains page.receiverID = true := by
  obtain ⟨userDoc, hmem, hitem⟩ := List.mem_filterMap.mp htile
  obtain ⟨d, hd, rfl⟩ := List.mem_map.mp hmem
  obtain ⟨r, _, hid⟩ := sound.documents d.id d.data ((store.users.get?_eq_some_iff _ _).mpr hd)
  unfold buildUserListItem at hitem
  split at hitem
  · cases hitem
    simp only [Usertile.onTap, hid.email, hid.uid, Value.asString_str, bind, Except.bind, pure,
      Except.pure, Except.ok.injEq] at htap
    subst htap
    exact (store.users.contains_iff d.id).mpr ⟨d, hd, rfl⟩
  · cases hitem

end Shown

/-- Users and messages. -/
structure Backend (K : Type) where
  directory : UserDirectory.Store K
  chat : ChatService.State K

/-- A device with the chats that were opened on it. -/
structure Phone (K : Type) where
  device : UserDirectory.Device K
  pages : List Chatscreen

/-- `openChat` is a tap on a tile of the list for the users of a type. -/
inductive Action (K : Type) where
  | account (a : UserDirectory.Action K)
  | openChat (shown : UserTypeEnum) (tile : Nat)
  | send (page : Nat) (message : String) (now : Int) (id : String)

section Machine
variable {K : Type}

def uidOf (uid : String) : Option Uid :=
  if h : uid ≠ "" ∧ '_' ∉ uid.toList then some ⟨uid, h.1, h.2⟩ else none

def currentUser (store : UserDirectory.Store K) (device : UserDirectory.Device K) : Option User :=
  device.currentUser.bind (fun uid => (uidOf uid).map (fun u =>
    ⟨u, (store.accounts.get? uid).map Account.email⟩))

def phoneStep (isEmail : String → Bool) (T : Interpolation K) (backend : Backend K)
    (phone : Phone K) : Action K → Option (Backend K × Phone K)
  | .account a =>
    (deviceStep isEmail backend.directory phone.device a).map
      (fun s => (⟨s.1, backend.chat⟩, ⟨s.2, phone.pages⟩))
  | .openChat shown i =>
    match (buildUserList T shown (currentUserEmail backend.directory phone.device)
        backend.directory.users)[i]? with
    | none => none
    | some tile =>
      match tile.onTap with
      | .error _ => some (backend, phone)
      | .ok page => some (backend, { phone with pages := phone.pages ++ [page] })
  | .send i message now id =>
    match phone.pages[i]? with
    | none => none
    | some page =>
      if message = "" then some (backend, phone)
      else
        (ContactOwner.sendMessage backend.chat (currentUser backend.directory phone.device)
          page.receiverID message now id).map (fun chat => (⟨backend.directory, chat⟩, phone))

variable {ι : Type}

def initial : System (Backend K) ι (Phone K) :=
  ⟨⟨emptyStore, ChatService.initial⟩, fun _ => ⟨newDevice, []⟩⟩

end Machine

section Invariants
variable {K : Type}

/-- A message stands in the room of its sender and its receiver, which are both
accounts, and the receiver has a users document. -/
def Addressed (store : UserDirectory.Store K) (room : String) (d : DocumentSnapshot K) : Prop :=
  ∃ sender receiver : Uid, ∃ r, Registered store sender.id r ∧
    store.users.contains receiver.id = true ∧ room = chatRoomID sender.id receiver.id ∧
    Map.get d.data "senderID" = .str sender.id ∧ Map.get d.data "senderEmail" = .str r.email ∧
    Map.get d.data "receiverID" = .str receiver.id

structure BackendOk (backend : Backend K) : Prop where
  directory : Sound backend.directory
  addressed : ∀ room, ∀ d ∈ (backend.chat.messages room).docs, Addressed backend.directory room d

/-- The chats of a device are with accounts that have a document. -/
structure PhoneOk (backend : Backend K) (phone : Phone K) : Prop where
  device : DeviceOk backend.directory phone.device
  pages : ∀ page ∈ phone.pages, backend.directory.users.contains page.receiverID = true

structure Grows (backend backend' : Backend K) : Prop where
  directory : Extends backend.directory backend'.directory
  messages : ∀ room, ∀ d ∈ (backend.chat.messages room).docs, d ∈ (backend'.chat.messages room).docs

theorem Grows.refl (backend : Backend K) : Grows backend backend :=
  ⟨Extends.refl _, fun _ _ h => h⟩

theorem Addressed.mono {store store' : UserDirectory.Store K} {room : String}
    {d : DocumentSnapshot K} (h : Addressed store room d) (extended : Extends store store') :
    Addressed store' room d := by
  obtain ⟨sender, receiver, r, hr, hin, hrest⟩ := h
  exact ⟨sender, receiver, r, extended.registered _ r hr, extended.documents _ hin, hrest⟩

theorem PhoneOk.mono {backend backend' : Backend K} {phone : Phone K} (ok : PhoneOk backend phone)
    (h : Grows backend backend') : PhoneOk backend' phone :=
  ⟨ok.device.mono h.directory, fun page hpage => h.directory.documents _ (ok.pages page hpage)⟩

theorem newMessage_ok {c : ChatService.Call} {m : Message} (h : c.newMessage = .ok m) :
    ∃ user email, c.currentUser = some user ∧ user.email = some email ∧
      m = ⟨user.uid.id, email, c.receiverID.id, c.message, c.now⟩ := by
  unfold ChatService.Call.newMessage at h
  split at h
  · cases h
  · rename_i user huser
    split at h
    · cases h
    · rename_i email hemail
      cases h
      exact ⟨user, email, huser, hemail, rfl⟩

/-- A user who can send has an account with the email of the message. -/
theorem currentUser_registered {backend : Backend K} {phone : Phone K}
    (sound : Sound backend.directory) (ok : PhoneOk backend phone) {user : User} {email : String}
    (huser : currentUser backend.directory phone.device = some user)
    (hemail : user.email = some email) :
    phone.device.currentUser = some user.uid.id ∧
      ∃ r, Registered backend.directory user.uid.id r ∧ r.email = email := by
  obtain ⟨uid, huid, hmap⟩ := Option.bind_eq_some_iff.mp huser
  obtain ⟨u, hu, rfl⟩ := Option.map_eq_some_iff.mp hmap
  have hid : u.id = uid := by
    unfold uidOf at hu
    split at hu
    · cases hu
      rfl
    · cases hu
  obtain ⟨r, hr⟩ := ok.device.currentUser uid huid
  obtain ⟨account, haccount, hsame⟩ := sound.account uid r hr
  have haccount' : (backend.directory.accounts.get? uid).map Account.email = some email := hemail
  rw [haccount] at haccount'
  cases haccount'
  exact ⟨hid ▸ huid, r, hid ▸ hr, hsame.symm⟩

/-- The uid of a document is one that an account was made with. -/
theorem uid_of_document {store : UserDirectory.Store K} (sound : Sound store) {uid : String}
    (hin : store.users.contains uid = true) : ∃ u : Uid, u.id = uid := by
  obtain ⟨d, hd, rfl⟩ := (store.users.contains_iff uid).mp hin
  obtain ⟨r, hr, _⟩ := sound.documents d.id d.data ((store.users.get?_eq_some_iff _ _).mpr hd)
  exact sound.uids d.id r hr

/-- What `send` does to the rooms: nothing, or the message comes in. -/
theorem send_cases {isEmail : String → Bool} {T : Interpolation K} {backend backend' : Backend K}
    {phone phone' : Phone K} {i : Nat} {message id : String} {now : Int} (ok : BackendOk backend)
    (hphone : PhoneOk backend phone)
    (h : phoneStep isEmail T backend phone (.send i message now id) = some (backend', phone')) :
    backend'.directory = backend.directory ∧ phone' = phone ∧
      ∃ page, phone.pages[i]? = some page ∧ ∃ receiver : Uid, receiver.id = page.receiverID ∧
      ∀ room d, d ∈ (backend'.chat.messages room).docs ↔ d ∈ (backend.chat.messages room).docs ∨
        ∃ user email, message ≠ "" ∧ currentUser backend.directory phone.device = some user ∧
          user.email = some email ∧ chatRoomID user.uid.id receiver.id = room ∧
          d = ⟨id, Message.toMap ⟨user.uid.id, email, receiver.id, message, now⟩⟩ := by
  simp only [phoneStep] at h
  split at h
  · cases h
  · rename_i page hpage
    obtain ⟨receiver, hreceiver⟩ := uid_of_document ok.directory
      (hphone.pages page (List.mem_of_getElem? hpage))
    split at h
    · rename_i hempty
      cases h
      refine ⟨rfl, rfl, page, hpage, receiver, hreceiver, fun room d => ?_⟩
      simp [hempty]
    · rename_i hmessage
      obtain ⟨chat, hsend, heq⟩ := Option.map_eq_some_iff.mp h
      cases heq
      rw [← hreceiver, ContactOwner.sendMessage_uid] at hsend
      refine ⟨rfl, rfl, page, hpage, receiver, hreceiver, fun room d => ?_⟩
      rw [ChatService.mem_messages_iff hsend]
      constructor
      · rintro (hold | ⟨m, hm, hroom, rfl⟩)
        · exact Or.inl hold
        · obtain ⟨user, email, huser, hemail, rfl⟩ := newMessage_ok hm
          exact Or.inr ⟨user, email, hmessage, huser, hemail, hroom, rfl⟩
      · rintro (hold | ⟨user, email, _, huser, hemail, hroom, rfl⟩)
        · exact Or.inl hold
        · refine Or.inr ⟨⟨user.uid.id, email, receiver.id, message, now⟩, ?_, hroom, rfl⟩
          simp only [ChatService.Call.newMessage, huser, hemail]

theorem phoneStep_ok {isEmail : String → Bool} {T : Interpolation K} {backend backend' : Backend K}
    {phone phone' : Phone K} {a : Action K} (ok : BackendOk backend)
    (hphone : PhoneOk backend phone)
    (h : phoneStep isEmail T backend phone a = some (backend', phone')) :
    BackendOk backend' ∧ PhoneOk backend' phone' ∧ Grows backend backend' := by
  cases a with
  | account a =>
    obtain ⟨⟨directory, device⟩, hstep, heq⟩ := Option.map_eq_some_iff.mp h
    obtain ⟨sound, hdevice, extended⟩ := deviceStep_ok ok.directory hphone.device hstep
    cases heq
    refine ⟨⟨sound, fun room d hd => (ok.addressed room d hd).mono extended⟩, ⟨hdevice, ?_⟩,
      extended, fun _ _ hd => hd⟩
    intro page hpage
    exact extended.documents _ (hphone.pages page hpage)
  | openChat shown i =>
    simp only [phoneStep] at h
    split at h
    · cases h
    · rename_i tile htile
      split at h
      · cases h
        exact ⟨ok, hphone, Grows.refl _⟩
      · rename_i page htap
        cases h
        have hdoc := document_of_tile ok.directory (List.mem_of_getElem? htile) htap
        exact ⟨ok, ⟨hphone.device, forall_mem_concat hphone.pages hdoc⟩, Grows.refl _⟩
  | send i message now id =>
    obtain ⟨hdirectory, rfl, page, hpage, receiver, hreceiver, hrooms⟩ := send_cases ok hphone h
    have hgrows : Grows backend backend' := by
      refine ⟨hdirectory ▸ Extends.refl _, fun room d hd => ?_⟩
      exact (hrooms room d).mpr (Or.inl hd)
    refine ⟨⟨hdirectory ▸ ok.directory, fun room d hd => ?_⟩, hphone.mono hgrows, hgrows⟩
    rw [hdirectory]
    rcases (hrooms room d).mp hd with hold | ⟨user, email, _, huser, hemail, hroom, rfl⟩
    · exact ok.addressed room d hold
    · obtain ⟨_, r, hr, rfl⟩ := currentUser_registered ok.directory hphone huser hemail
      refine ⟨user.uid, receiver, r, hr, ?_, hroom.symm, ?_⟩
      · rw [hreceiver]
        exact hphone.pages page (List.mem_of_getElem? hpage)
      · simp [Message.toMap]

theorem phones (isEmail : String → Bool) (T : Interpolation K) :
    Guarantees (phoneStep isEmail T) BackendOk PhoneOk Grows where
  refl := Grows.refl
  trans _ _ _ h h' := ⟨h.directory.trans h'.directory,
    fun room d hd => h'.messages room d (h.messages room d hd)⟩
  own _ _ _ _ _ := phoneStep_ok
  stable _ _ _ _ := PhoneOk.mono

end Invariants

section Systems
variable {K ι : Type} [DecidableEq ι]

theorem run_ok {isEmail : String → Bool} {T : Interpolation K} {acts : List (ι × Action K)}
    {s : System (Backend K) ι (Phone K)}
    (hrun : run (SharedStore.step (phoneStep isEmail T)) initial acts = some s) :
    BackendOk s.store ∧ ∀ i, PhoneOk s.store (s.devices i) := by
  have hbackend : BackendOk (⟨emptyStore, ChatService.initial⟩ : Backend K) :=
    ⟨sound_empty, fun _ d hd => absurd hd List.not_mem_nil⟩
  obtain ⟨ok, hphones, _⟩ := (phones isEmail T).run hbackend
    (fun _ => ⟨newDevice_ok _, fun page hpage => absurd hpage List.not_mem_nil⟩) hrun
  exact ⟨ok, hphones⟩

/-- Every user who is signed in somewhere has an account, and its email is the
one the lists leave out. -/
theorem signedIn_email {backend : Backend K} {phone : Phone K} (ok : BackendOk backend)
    (hphone : PhoneOk backend phone) {uid : String}
    (huser : phone.device.currentUser = some uid) :
    ∃ account, backend.directory.accounts.get? uid = some account ∧
      currentUserEmail backend.directory phone.device = some account.email := by
  obtain ⟨r, hr⟩ := hphone.device.currentUser uid huser
  obtain ⟨account, haccount, _⟩ := ok.directory.account uid r hr
  refine ⟨account, haccount, ?_⟩
  simp [currentUserEmail, huser, haccount]

/-- The chat list of the home for users of a type. -/
def chatListOf (T : Interpolation K) : UserTypeEnum → Option String →
    Collection String (Map K) → List (Usertile K)
  | .tenant => tenantChatList T
  | .landlord => landlordChatList T

/-- In every state that any number of devices reach, the tenants' list shows all
landlords and the landlords' list all tenants, but never the own account, each
one once, under the present name, and each tile opens the chat with the uid and
the email of that account. -/
theorem chatLists_exact (isEmail : String → Bool) (T : Interpolation K)
    (acts : List (ι × Action K)) (s : System (Backend K) ι (Phone K))
    (hrun : run (SharedStore.step (phoneStep isEmail T)) initial acts = some s) (i : ι)
    (uid : String) (huser : (s.devices i).device.currentUser = some uid) :
    let email := currentUserEmail s.store.directory (s.devices i).device
    let users := s.store.directory.users
    List.Forall₂ (LeadsTo s.store.directory) (tenantChatList T email users)
      (users.docs.filter (fun d => isOfType .landlord d.data && decide (d.id ≠ uid))) ∧
    List.Forall₂ (LeadsTo s.store.directory) (landlordChatList T email users)
      (users.docs.filter (fun d => isOfType .tenant d.data && decide (d.id ≠ uid))) := by
  obtain ⟨ok, hphones⟩ := run_ok hrun
  obtain ⟨account, haccount, hemail⟩ := signedIn_email ok (hphones i) huser
  dsimp only
  rw [hemail]
  exact ⟨buildUserList_shown ok.directory T .landlord haccount,
    buildUserList_shown ok.directory T .tenant haccount⟩

def plainText : Interpolation ℚ where
  text v := match v with
    | .str s => s
    | _ => ""
  text_str _ := rfl

/-- A tenant on one device opens the chat with the landlord of the other. -/
def openedChat : List (Bool × Action ℚ) :=
  twoRegistrations.map (fun a => (a.1, .account a.2)) ++ [(false, .openChat .landlord 0)]

theorem chatLists_exact_openedChat :
    ∃ s : System (Backend ℚ) Bool (Phone ℚ),
      run (SharedStore.step (phoneStep (fun _ => true) plainText)) initial openedChat = some s ∧
      List.Forall₂ (LeadsTo s.store.directory)
        (tenantChatList plainText
          (currentUserEmail s.store.directory (s.devices false).device) s.store.directory.users)
        (s.store.directory.users.docs.filter
          (fun d => isOfType .landlord d.data && decide (d.id ≠ "u1"))) := by
  obtain ⟨s, hrun, huser⟩ := exists_of_check
    (SharedStore.step (phoneStep (fun _ => true) plainText)) initial openedChat
    (fun s => (s.devices false).device.currentUser = some "u1") (by decide)
  exact ⟨s, hrun, (chatLists_exact (fun _ => true) plainText openedChat s hrun false "u1" huser).1⟩

/-- Every message ever stored stands in the room of two accounts: the one whose
email it carries, and one that has a users document. -/
theorem messages_addressed (isEmail : String → Bool) (T : Interpolation K)
    (acts : List (ι × Action K)) (s : System (Backend K) ι (Phone K))
    (hrun : run (SharedStore.step (phoneStep isEmail T)) initial acts = some s) (room : String)
    (d : DocumentSnapshot K) (hd : d ∈ (s.store.chat.messages room).docs) :
    ∃ sender receiver : Uid, ∃ account userDoc,
      s.store.directory.accounts.get? sender.id = some account ∧
      s.store.directory.users.get? receiver.id = some userDoc ∧
      room = chatRoomID sender.id receiver.id ∧
      Map.get d.data "senderID" = .str sender.id ∧
      Map.get d.data "senderEmail" = .str account.email ∧
      Map.get d.data "receiverID" = .str receiver.id := by
  obtain ⟨ok, _⟩ := run_ok hrun
  obtain ⟨sender, receiver, r, hr, hin, hroom, hsender, hemail, hreceiver⟩ :=
    ok.addressed room d hd
  obtain ⟨account, haccount, hsame⟩ := ok.directory.account sender.id r hr
  obtain ⟨e, he, hid⟩ := (s.store.directory.users.contains_iff receiver.id).mp hin
  refine ⟨sender, receiver, account, e.data, haccount, ?_, hroom, hsender, ?_, hreceiver⟩
  · rw [← hid]
    exact (s.store.directory.users.get?_eq_some_iff _ _).mpr he
  · rw [hsame]
    exact hemail

/-- The tenant sends a message. -/
def sentMessage : List (Bool × Action ℚ) := openedChat ++ [(false, .send 0 "is it free?" 5 "m1")]

theorem messages_addressed_sentMessage :
    ∃ s : System (Backend ℚ) Bool (Phone ℚ),
      run (SharedStore.step (phoneStep (fun _ => true) plainText)) initial sentMessage = some s ∧
      ∃ d ∈ (s.store.chat.messages "u1_u2").docs, ∃ sender receiver : Uid, ∃ account userDoc,
        s.store.directory.accounts.get? sender.id = some account ∧
        s.store.directory.users.get? receiver.id = some userDoc ∧
        "u1_u2" = chatRoomID sender.id receiver.id ∧
        Map.get d.data "senderID" = .str sender.id ∧
        Map.get d.data "senderEmail" = .str account.email ∧
        Map.get d.data "receiverID" = .str receiver.id := by
  obtain ⟨s, hrun, hlength⟩ := exists_of_check
    (SharedStore.step (phoneStep (fun _ => true) plainText)) initial sentMessage
    (fun s => 0 < (s.store.chat.messages "u1_u2").docs.length) (by decide)
  obtain ⟨d, hd⟩ := List.exists_mem_of_length_pos hlength
  exact ⟨s, hrun, d, hd,
    messages_addressed (fun _ => true) plainText sentMessage s hrun "u1_u2" d hd⟩

theorem currentUser_signedIn {backend : Backend K} {phone : Phone K} (ok : BackendOk backend)
    (hphone : PhoneOk backend phone) {uid : String}
    (huser : phone.device.currentUser = some uid) :
    ∃ u : Uid, u.id = uid ∧ ∃ email,
      currentUser backend.directory phone.device = some ⟨u, some email⟩ := by
  obtain ⟨r, hr⟩ := hphone.device.currentUser uid huser
  obtain ⟨u, rfl⟩ := ok.directory.uids uid r hr
  obtain ⟨account, haccount, _⟩ := ok.directory.account u.id r hr
  refine ⟨u, rfl, account.email, ?_⟩
  have hu : uidOf u.id = some u := dif_pos ⟨u.nonempty, u.noUnderscore⟩
  simp [currentUser, huser, hu, haccount]

/-- A stored message is on the screen of both ends, each on its own side. -/
theorem mem_buildMessageList {s : ChatService.State K} {room id : String} {m : Message}
    (hd : (⟨id, m.toMap⟩ : DocumentSnapshot K) ∈ (s.messages room).docs) (viewer other : Uid)
    (hroom : chatRoomID other.id viewer.id = room) :
    (⟨.str m.message, decide (m.senderID = viewer.id)⟩ : MessageItem K) ∈
      buildMessageList s viewer other := by
  have hlisted : (⟨id, m.toMap⟩ : DocumentSnapshot K) ∈ getMessages s other viewer := by
    refine (orderByTimestamp_perm_filter _ _).mem_iff.mpr (List.mem_filter.mpr ⟨?_, ?_⟩)
    · rw [hroom]
      exact hd
    · rw [ChatService.timestampOf_toMap]
      rfl
  refine List.mem_map.mpr ⟨_, hlisted, ?_⟩
  simp [ChatService.buildMessageItem, isEqualTo, Message.toMap]

/-- Whoever sends a message from a chat that was opened on the device, the
receiver finds in the list of the own home from then on, whatever happens on any
device: the tile opens the chat in which the message stands, on the other side. -/
theorem replies_possible (isEmail : String → Bool) (T : Interpolation K)
    (acts later : List (ι × Action K)) (s t u : System (Backend K) ι (Phone K))
    (hrun : run (SharedStore.step (phoneStep isEmail T)) initial acts = some s)
    (i j : ι) (p : Nat) (page : Chatscreen) (hpage : (s.devices i).pages[p]? = some page)
    (message id : String) (now : Int) (hmessage : message ≠ "")
    (hsend : SharedStore.step (phoneStep isEmail T) s (i, .send p message now id) = some t)
    (hlater : run (SharedStore.step (phoneStep isEmail T)) t later = some u)
    (sender : String) (hsender : (s.devices i).device.currentUser = some sender)
    (hreceiver : (u.devices j).device.currentUser = some page.receiverID)
    (senderType receiverType : UserTypeEnum) (htypes : senderType ≠ receiverType)
    (senderDoc receiverDoc : Map K)
    (hsenderDoc : s.store.directory.users.get? sender = some senderDoc)
    (hsenderType : isOfType senderType senderDoc = true)
    (hreceiverDoc : u.store.directory.users.get? page.receiverID = some receiverDoc)
    (hreceiverType : isOfType receiverType receiverDoc = true) :
    ∃ tile ∈ chatListOf T receiverType (currentUserEmail u.store.directory (u.devices j).device)
        u.store.directory.users, ∃ page',
      tile.onTap = .ok page' ∧ page'.receiverID = sender ∧
      ∃ v w : Uid, v.id = page.receiverID ∧ w.id = sender ∧
        (⟨.str message, false⟩ : MessageItem K) ∈ buildMessageList u.store.chat v w ∧
        (⟨.str message, true⟩ : MessageItem K) ∈ buildMessageList u.store.chat w v := by
  obtain ⟨ok, hphones⟩ := run_ok hrun
  obtain ⟨ok', hphones', hgrows⟩ := (phones isEmail T).step ok hphones hsend
  obtain ⟨ok'', hphones'', hgrows'⟩ := (phones isEmail T).run ok' hphones' hlater
  -- the message came in, and it is still there
  obtain ⟨_, hstep, _, _⟩ := SharedStore.step_cases hsend
  obtain ⟨_, rfl, page', hpage', v, hv, hrooms⟩ := send_cases ok (hphones i) hstep
  cases hpage.symm.trans hpage'
  obtain ⟨w, rfl, email, huser⟩ := currentUser_signedIn ok (hphones i) hsender
  have hstored := (hrooms (chatRoomID w.id v.id) _).mpr
    (Or.inr ⟨_, email, hmessage, huser, rfl, rfl, rfl⟩)
  have hthere := hgrows'.messages _ _ hstored
  -- the sender still has a document of the same type, and it is not the receiver's
  obtain ⟨r, hr, hid⟩ := ok.directory.documents w.id senderDoc hsenderDoc
  have hin := (s.store.directory.users.contains_iff w.id).mpr
    ⟨_, (s.store.directory.users.get?_eq_some_iff _ _).mp hsenderDoc, rfl⟩
  obtain ⟨d, hd, hdid⟩ := (u.store.directory.users.contains_iff w.id).mp
    (hgrows'.directory.documents _ (hgrows.directory.documents _ hin))
  have hdoc : u.store.directory.users.get? w.id = some d.data :=
    hdid ▸ (u.store.directory.users.get?_eq_some_iff _ _).mpr hd
  obtain ⟨r', hr', hid'⟩ := ok''.directory.documents w.id d.data hdoc
  cases hr'.symm.trans (hgrows'.directory.registered _ _ (hgrows.directory.registered _ _ hr))
  have hdocType : isOfType senderType d.data = true := by
    rw [isOfType_iff, hid'.usertype, ← hid.usertype]
    exact (isOfType_iff _ _).mp hsenderType
  have hne : w.id ≠ page.receiverID := by
    intro heq
    cases hdoc.symm.trans ((congrArg _ heq).trans hreceiverDoc)
    have hboth := ((isOfType_iff _ _).mp hdocType).symm.trans ((isOfType_iff _ _).mp hreceiverType)
    exact htypes (name_inj (Value.str.inj hboth))
  obtain ⟨account, haccount, hemail⟩ := signedIn_email ok'' (hphones'' j) hreceiver
  obtain ⟨tile, htile, page', htap, hpage'⟩ := tile_of_document ok''.directory T haccount hne hdoc
    hdocType
  refine ⟨tile, ?_, page', htap, hpage', v, w, hv, rfl, ?_, ?_⟩
  · rw [hemail]
    cases senderType <;> cases receiverType <;> first | exact htile | exact absurd rfl htypes
  · have hmine := mem_buildMessageList hthere v w rfl
    rwa [decide_eq_false (fun heq => hne (heq.trans hv))] at hmine
  · have hmine := mem_buildMessageList hthere w v (ChatService.chatRoomID_comm _ _)
    rwa [decide_eq_true rfl] at hmine

theorem replies_possible_sentMessage :
    ∃ s t : System (Backend ℚ) Bool (Phone ℚ),
      run (SharedStore.step (phoneStep (fun _ => true) plainText)) initial openedChat = some s ∧
      SharedStore.step (phoneStep (fun _ => true) plainText) s
        (false, .send 0 "is it free?" 5 "m1") = some t ∧
      ∃ tile ∈ landlordChatList plainText
          (currentUserEmail t.store.directory (t.devices true).device) t.store.directory.users,
        ∃ page, tile.onTap = .ok page ∧ page.receiverID = "u1" := by
  obtain ⟨s, hrun, hsender, hpages, hdoc⟩ := exists_of_check
    (SharedStore.step (phoneStep (fun _ => true) plainText)) initial openedChat
    (fun s => (s.devices false).device.currentUser = some "u1" ∧
      (s.devices false).pages.map Chatscreen.receiverID = ["u2"] ∧
      (s.store.directory.users.get? "u1").any (isOfType .tenant) = true) (by decide)
  obtain ⟨t, hrun', hreceiver, hdoc'⟩ := exists_of_check
    (SharedStore.step (phoneStep (fun _ => true) plainText)) initial sentMessage
    (fun t => (t.devices true).device.currentUser = some "u2" ∧
      (t.store.directory.users.get? "u2").any (isOfType .landlord) = true) (by decide)
  obtain ⟨s', hrun'', hsend⟩ := run_snoc.mp hrun'
  cases hrun.symm.trans hrun''
  obtain ⟨page, hpage, hid⟩ := List.map_eq_singleton_iff.mp hpages
  obtain ⟨senderDoc, hsenderDoc, hsenderType⟩ := (Option.any_eq_true _ _).mp hdoc
  obtain ⟨receiverDoc, hreceiverDoc, hreceiverType⟩ := (Option.any_eq_true _ _).mp hdoc'
  obtain ⟨tile, htile, page', htap, hsame, _⟩ := replies_possible (fun _ => true) plainText
    openedChat [] s t t hrun false true 0 page (by rw [hpage]; rfl) "is it free?" "m1" 5
    (by decide) hsend rfl "u1" hsender (by rw [hid]; exact hreceiver) .tenant .landlord (by decide) senderDoc
    receiverDoc hsenderDoc hsenderType (by rw [hid]; exact hreceiverDoc) hreceiverType
  exact ⟨s, t, hrun, hsend, tile, htile, page', htap, hsame⟩

end Systems

end ChatPartners
