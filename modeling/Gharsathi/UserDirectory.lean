import Gharsathi.ChatService
import Gharsathi.RegistrationPolicy
import Gharsathi.SharedStore

/-!
# The collection of users

Accounts and users documents are shared by all devices, and every screen that
writes a users document does so in remote steps, between which anything may
happen on any device. A document never comes apart from its account: it stands
under the uid of the account and keeps that uid, the email and the type it was
registered with, whatever the profile screens write into it.
-/

namespace UserDirectory

open Authentication AccountForms DartValues FirestoreCollection Runs SharedStore
open ChatService (Uid)
open LocationChange (get_setField)
open RegistrationPolicy (ProfileForm updateFields updatedUserData)

/-- What the devices share; `registered` is kept beside the program's state and
tells what each account was made for. -/
structure Store (K : Type) where
  accounts : Collection String Account
  users : Collection String (Map K)
  registered : Collection String Registration

/-- What a profile screen updates a users document with. -/
inductive ProfileWrite (K : Type) where
  | profile (form : ProfileForm) (uploadedImage : Option String)
  | location (latitude longitude : K)

/-- A call of a service before its next remote step. -/
inductive Task (K : Type) where
  | signingUp (r : Registration) (uid : String) (next : SignUpStep)
  | signingIn (uid : String)
  | checking (uid : String)
  | updating (uid : String) (write : ProfileWrite K)
  | ended

/-- A home that was pushed, and the account it was pushed for. -/
structure Push where
  uid : String
  route : String
  deriving DecidableEq

/-- `locationUser` is the user the location screen was opened for. -/
structure Device (K : Type) where
  currentUser : Option String
  locationUser : Option String
  tasks : List (Task K)
  pushed : List Push

/-- The failure of a first remote step comes with the tap; `proceed` and `fail`
are the answers to the later ones. -/
inductive Action (K : Type) where
  | register (form : RegistrationForm) (uid : Uid) (failure : Option Exception)
  | login (email password : String) (failure : Option Exception)
  | start
  | signOut
  | update (form : ProfileForm) (uploadedImage : Option String)
  | openLocation
  | updateUserLocation (latitude longitude : K)
  | passwordChanged (uid password : String)
  | proceed (i : Nat)
  | fail (i : Nat)

section Machine
variable {K : Type}

def emptyStore : Store K := ⟨Collection.empty, Collection.empty, Collection.empty⟩

def newDevice : Device K := ⟨none, none, [], []⟩

/-- The state the services of one device see. -/
def session (store : Store K) (device : Device K) : Authentication.State K :=
  ⟨store.accounts, store.users, device.currentUser, device.pushed.map Push.route, []⟩

def ProfileWrite.fields : ProfileWrite K → Map K
  | .profile form uploadedImage => updatedUserData form uploadedImage
  | .location latitude longitude =>
    [("location", .map [("latitude", .double (.fin latitude)),
      ("longitude", .double (.fin longitude))])]

def Device.addTask (device : Device K) (task : Task K) : Device K :=
  { device with tasks := device.tasks ++ [task] }

def Device.setTask (device : Device K) (i : Nat) (task : Task K) : Device K :=
  { device with tasks := device.tasks.set i task }

def Device.push (device : Device K) (uid route : String) : Device K :=
  { device with pushed := device.pushed ++ [⟨uid, route⟩] }

def Device.pushHome (device : Device K) (uid userType : String) : Device K :=
  if userType = "Tenant" then device.push uid "/tenantnavbar"
  else if userType = "Landlord" then device.push uid "/landlordnavbar"
  else device

def Device.signOut (device : Device K) : Device K := { device with currentUser := none }

/-- The next remote step of a call goes through. -/
def proceed (store : Store K) (device : Device K) (i : Nat) : Task K → Option (Store K × Device K)
  | .signingUp _ _ .createUserWithEmailAndPassword => none
  | .signingUp r uid .updateDisplayName =>
    let s := updateDisplayName (session store device) uid (r.firstName ++ " " ++ r.lastName)
    some ({ store with accounts := s.accounts }, device.setTask i (.signingUp r uid .reload))
  | .signingUp r uid .reload => some (store, device.setTask i (.signingUp r uid .set))
  | .signingUp r uid .set =>
    some ({ store with users := store.users.set uid (userDocument r uid) },
      (device.setTask i .ended).pushHome uid r.userType.name)
  | .signingIn uid =>
    match store.users.get? uid with
    | none => some (store, device.setTask i .ended)
    | some userDoc =>
      match field ⟨uid, userDoc⟩ "usertype" >>= Value.asString with
      | .error _ => some (store, device.setTask i .ended)
      | .ok userType => some (store, (device.setTask i .ended).pushHome uid userType)
  | .checking uid =>
    match store.users.get? uid with
    | none => some (store, (device.setTask i .ended).signOut)
    | some userDoc =>
      match field ⟨uid, userDoc⟩ "usertype" >>= Value.asString with
      | .error _ => some (store, (device.setTask i .ended).signOut)
      | .ok userType => some (store, (device.setTask i .ended).pushHome uid userType)
  | .updating uid write =>
    match store.users.get? uid with
    | none => some (store, device.setTask i .ended)
    | some userDoc =>
      some ({ store with users := store.users.set uid (updateFields userDoc write.fields) },
        device.setTask i .ended)
  | .ended => none

/-- The next remote step of a call fails, and the call with it. -/
def fail (device : Device K) (i : Nat) : Task K → Option (Device K)
  | .checking _ => some (device.setTask i .ended).signOut
  | .ended => none
  | _ => some (device.setTask i .ended)

def deviceStep (isEmail : String → Bool) (store : Store K) (device : Device K) :
    Action K → Option (Store K × Device K)
  | .register form uid failure =>
    match form.submit isEmail with
    | none => some (store, device)
    | some r =>
      if store.accounts.contains uid.id then none
      else
        match createUserWithEmailAndPassword (session store device) r.email r.password uid.id
            failure with
        | .error _ => some (store, device)
        | .ok s =>
          some (⟨s.accounts, store.users, store.registered.set uid.id r⟩,
            { device with currentUser := s.currentUser }.addTask
              (.signingUp r uid.id .updateDisplayName))
  | .login email password failure =>
    if loginValidate isEmail email password then
      match signInWithEmailAndPassword (session store device) email password failure with
      | .error _ => some (store, device)
      | .ok uid => some (store, { device with currentUser := some uid }.addTask (.signingIn uid))
    else some (store, device)
  | .start =>
    match device.currentUser with
    | none => some (store, device)
    | some uid => some (store, device.addTask (.checking uid))
  | .signOut => some (store, device.signOut)
  | .update form uploadedImage =>
    match device.currentUser with
    | none => some (store, device)
    | some uid => some (store, device.addTask (.updating uid (.profile form uploadedImage)))
  | .openLocation => some (store, { device with locationUser := device.currentUser })
  | .updateUserLocation latitude longitude =>
    match device.locationUser with
    | none => some (store, device)
    | some uid => some (store, device.addTask (.updating uid (.location latitude longitude)))
  | .passwordChanged uid password =>
    match store.accounts.get? uid with
    | none => none
    | some account => some ({ store with
        accounts := store.accounts.set uid { account with password := password } }, device)
  | .proceed i =>
    match device.tasks[i]? with
    | none => none
    | some task => proceed store device i task
  | .fail i =>
    match device.tasks[i]? with
    | none => none
    | some task => (fail device i task).map (fun device => (store, device))

end Machine

section Statements
variable {K : Type}

/-- A users document of the account under `uid` that was registered with `r`. -/
structure Identifies (uid : String) (r : Registration) (userDoc : Map K) : Prop where
  uid : Map.get userDoc "uid" = .str uid
  email : Map.get userDoc "email" = .str r.email
  usertype : Map.get userDoc "usertype" = .str r.userType.name
  firstName : ∃ firstName, Map.get userDoc "firstName" = .str firstName
  lastName : ∃ lastName, Map.get userDoc "lastName" = .str lastName
  phoneNumber : ∃ phoneNumber, Map.get userDoc "phoneNumber" = .str phoneNumber

def Registered (store : Store K) (uid : String) (r : Registration) : Prop :=
  store.registered.get? uid = some r

structure Sound (store : Store K) : Prop where
  account : ∀ uid r, Registered store uid r →
    ∃ account, store.accounts.get? uid = some account ∧ account.email = r.email
  registered : ∀ uid account, store.accounts.get? uid = some account → ∃ r, Registered store uid r
  emails : ∀ uid uid' r r', Registered store uid r → Registered store uid' r' →
    r.email = r'.email → uid = uid'
  uids : ∀ uid r, Registered store uid r → ∃ u : Uid, u.id = uid
  documents : ∀ uid userDoc, store.users.get? uid = some userDoc →
    ∃ r, Registered store uid r ∧ Identifies uid r userDoc

def TaskOk (store : Store K) : Task K → Prop
  | .signingUp r uid _ => Registered store uid r
  | .signingIn uid => ∃ r, Registered store uid r
  | .checking uid => ∃ r, Registered store uid r
  | .updating uid _ => ∃ r, Registered store uid r
  | .ended => True

structure DeviceOk (store : Store K) (device : Device K) : Prop where
  currentUser : ∀ uid, device.currentUser = some uid → ∃ r, Registered store uid r
  locationUser : ∀ uid, device.locationUser = some uid → ∃ r, Registered store uid r
  tasks : ∀ task ∈ device.tasks, TaskOk store task
  pushed : ∀ push ∈ device.pushed, store.users.contains push.uid = true ∧
    ∃ r, Registered store push.uid r ∧ push.route = r.userType.home

/-- Registrations stand, and documents do not vanish. -/
structure Extends (store store' : Store K) : Prop where
  registered : ∀ uid r, Registered store uid r → Registered store' uid r
  documents : ∀ uid, store.users.contains uid = true → store'.users.contains uid = true

end Statements

section Rely
variable {K : Type}

theorem Extends.refl (store : Store K) : Extends store store := ⟨fun _ _ h => h, fun _ h => h⟩

theorem Extends.trans {store store' store'' : Store K} (h : Extends store store')
    (h' : Extends store' store'') : Extends store store'' :=
  ⟨fun uid r hr => h'.registered uid r (h.registered uid r hr),
    fun uid hd => h'.documents uid (h.documents uid hd)⟩

theorem TaskOk.mono {store store' : Store K} {task : Task K} (ok : TaskOk store task)
    (h : Extends store store') : TaskOk store' task := by
  cases task with
  | signingUp r uid next => exact h.registered uid r ok
  | signingIn uid => exact ok.imp (h.registered uid)
  | checking uid => exact ok.imp (h.registered uid)
  | updating uid write => exact ok.imp (h.registered uid)
  | ended => trivial

/-- What the other devices do to the store does not disturb a device. -/
theorem DeviceOk.mono {store store' : Store K} {device : Device K} (ok : DeviceOk store device)
    (h : Extends store store') : DeviceOk store' device where
  currentUser uid hu := (ok.currentUser uid hu).imp (h.registered uid)
  locationUser uid hu := (ok.locationUser uid hu).imp (h.registered uid)
  tasks task hmem := (ok.tasks task hmem).mono h
  pushed push hmem := (ok.pushed push hmem).imp (h.documents _)
    (Exists.imp (fun r => And.imp_left (h.registered _ r)))

theorem DeviceOk.addTask {store : Store K} {device : Device K} {task : Task K}
    (ok : DeviceOk store device) (htask : TaskOk store task) :
    DeviceOk store (device.addTask task) :=
  ⟨ok.currentUser, ok.locationUser, forall_mem_concat ok.tasks htask, ok.pushed⟩

theorem DeviceOk.setTask {store : Store K} {device : Device K} (ok : DeviceOk store device)
    (i : Nat) {task : Task K} (htask : TaskOk store task) :
    DeviceOk store (device.setTask i task) :=
  ⟨ok.currentUser, ok.locationUser, forall_mem_set ok.tasks htask, ok.pushed⟩

theorem DeviceOk.endTask {store : Store K} {device : Device K} (ok : DeviceOk store device)
    (i : Nat) : DeviceOk store (device.setTask i .ended) :=
  ok.setTask i trivial

theorem DeviceOk.signIn {store : Store K} {device : Device K} {uid : String} {r : Registration}
    (ok : DeviceOk store device) (hr : Registered store uid r) :
    DeviceOk store { device with currentUser := some uid } where
  currentUser u hu := by
    cases hu
    exact ⟨r, hr⟩
  locationUser := ok.locationUser
  tasks := ok.tasks
  pushed := ok.pushed

theorem DeviceOk.signOut {store : Store K} {device : Device K} (ok : DeviceOk store device) :
    DeviceOk store device.signOut where
  currentUser u hu := by cases hu
  locationUser := ok.locationUser
  tasks := ok.tasks
  pushed := ok.pushed

theorem pushHome_name (device : Device K) (uid : String) (userType : UserTypeEnum) :
    device.pushHome uid userType.name = device.push uid userType.home := by
  cases userType <;> rfl

theorem DeviceOk.pushHome {store : Store K} {device : Device K} {uid : String} {r : Registration}
    (ok : DeviceOk store device) (hr : Registered store uid r)
    (hdoc : store.users.contains uid = true) :
    DeviceOk store (device.pushHome uid r.userType.name) := by
  rw [pushHome_name]
  exact ⟨ok.currentUser, ok.locationUser, ok.tasks,
    forall_mem_concat ok.pushed ⟨hdoc, r, hr, rfl⟩⟩

end Rely

section Effects
variable {K : Type}

theorem identifies_userDocument (r : Registration) (uid : String) :
    Identifies uid r (userDocument r uid : Map K) := by
  constructor <;> simp [userDocument]

/-- No profile screen writes a field that tells whose document it is. -/
theorem Identifies.update {uid : String} {r : Registration} {userDoc : Map K}
    (h : Identifies uid r userDoc) (write : ProfileWrite K) :
    Identifies uid r (updateFields userDoc write.fields) := by
  obtain ⟨huid, hemail, htype, hfirst, hlast, hphone⟩ := h
  cases write with
  | profile form uploadedImage =>
    constructor <;>
      simp [ProfileWrite.fields, updateFields, updatedUserData, get_setField, huid, hemail, htype]
  | location latitude longitude =>
    constructor <;>
      simp [ProfileWrite.fields, updateFields, get_setField, huid, hemail, htype, hfirst, hlast,
        hphone]

/-- The type of a document is the one its account was registered with. -/
theorem Identifies.userType {uid : String} {r : Registration} {userDoc : Map K}
    (h : Identifies uid r userDoc) :
    field ⟨uid, userDoc⟩ "usertype" >>= Value.asString = .ok r.userType.name := by
  have hkey : Map.containsKey userDoc "usertype" = true := by
    apply Map.containsKey_of_get
    rw [h.usertype]
    exact nofun
  simp [field, hkey, h.usertype, bind, Except.bind]

theorem newDevice_ok (store : Store K) : DeviceOk store (newDevice : Device K) where
  currentUser uid h := by simp [newDevice] at h
  locationUser uid h := by simp [newDevice] at h
  tasks task h := absurd h List.not_mem_nil
  pushed push h := absurd h List.not_mem_nil

theorem sound_empty : Sound (emptyStore : Store K) := by
  constructor <;> intro uid <;> intros <;> contradiction

/-- An account was made under an unused uid for an unused email. -/
theorem Sound.created {store : Store K} (sound : Sound store) {r : Registration} (uid : Uid)
    (fresh : store.accounts.contains uid.id = false)
    (unused : ∀ account ∈ store.accounts.docs, account.data.email ≠ r.email) :
    Sound ⟨store.accounts.set uid.id ⟨r.email, r.password, none⟩, store.users,
      store.registered.set uid.id r⟩ ∧
    Extends store ⟨store.accounts.set uid.id ⟨r.email, r.password, none⟩, store.users,
      store.registered.set uid.id r⟩ := by
  have hnone : ∀ r', ¬ Registered store uid.id r' := by
    intro r' hr'
    obtain ⟨account, haccount, _⟩ := sound.account _ _ hr'
    have hin := (store.accounts.contains_iff uid.id).mpr
      ⟨_, (store.accounts.get?_eq_some_iff _ _).mp haccount, rfl⟩
    rw [fresh] at hin
    cases hin
  have hregistered : ∀ u r', (store.registered.set uid.id r).get? u = some r' ↔
      (u = uid.id ∧ r' = r) ∨ (u ≠ uid.id ∧ Registered store u r') := by
    intro u r'
    by_cases hu : u = uid.id
    · rw [hu, Collection.get?_set_self]
      simp [eq_comm]
    · rw [Collection.get?_set_other _ _ hu]
      simp [hu, Registered]
  have hother : ∀ u r', Registered store u r' → u ≠ uid.id ∧ r'.email ≠ r.email := by
    intro u r' hr'
    obtain ⟨account, haccount, hemail⟩ := sound.account _ _ hr'
    refine ⟨fun hu => hnone r' (hu ▸ hr'), fun heq => ?_⟩
    exact unused _ ((store.accounts.get?_eq_some_iff _ _).mp haccount) (hemail.trans heq)
  have hkept : ∀ u r', Registered store u r' → (store.registered.set uid.id r).get? u = some r' :=
    fun u r' hr' => (hregistered u r').mpr (Or.inr ⟨(hother u r' hr').1, hr'⟩)
  refine ⟨⟨?_, ?_, ?_, ?_, ?_⟩, hkept, fun _ h => h⟩
  · intro u r' hr'
    rcases (hregistered u r').mp hr' with ⟨rfl, rfl⟩ | ⟨hu, hr'⟩
    · exact ⟨_, Collection.get?_set_self _ _ _, rfl⟩
    · obtain ⟨account, haccount, hemail⟩ := sound.account _ _ hr'
      exact ⟨account, (Collection.get?_set_other _ _ hu).trans haccount, hemail⟩
  · intro u account haccount
    by_cases hu : u = uid.id
    · exact ⟨r, (hregistered u r).mpr (Or.inl ⟨hu, rfl⟩)⟩
    · rw [Collection.get?_set_other _ _ hu] at haccount
      exact (sound.registered u account haccount).imp (hkept u)
  · intro u u' r₁ r₂ h₁ h₂ heq
    rcases (hregistered u r₁).mp h₁ with ⟨rfl, rfl⟩ | ⟨_, hold₁⟩
    · rcases (hregistered u' r₂).mp h₂ with ⟨rfl, rfl⟩ | ⟨_, hold₂⟩
      · rfl
      · exact absurd heq.symm (hother u' r₂ hold₂).2
    · rcases (hregistered u' r₂).mp h₂ with ⟨rfl, rfl⟩ | ⟨_, hold₂⟩
      · exact absurd heq (hother u r₁ hold₁).2
      · exact sound.emails u u' r₁ r₂ hold₁ hold₂ heq
  · intro u r' hr'
    rcases (hregistered u r').mp hr' with ⟨rfl, rfl⟩ | ⟨_, hr'⟩
    · exact ⟨uid, rfl⟩
    · exact sound.uids u r' hr'
  · intro u userDoc hdoc
    obtain ⟨r', hr', hid⟩ := sound.documents u userDoc hdoc
    exact ⟨r', hkept u r' hr', hid⟩

/-- An account changed, but not its email. -/
theorem Sound.accountChanged {store : Store K} (sound : Sound store) {uid : String}
    {account : Account} (account' : Account) (haccount : store.accounts.get? uid = some account)
    (same : account'.email = account.email) :
    Sound { store with accounts := store.accounts.set uid account' } ∧
      Extends store { store with accounts := store.accounts.set uid account' } := by
  refine ⟨⟨?_, ?_, sound.emails, sound.uids, sound.documents⟩, fun _ _ h => h, fun _ h => h⟩
  · intro u r hr
    obtain ⟨old, hold, hemail⟩ := sound.account u r hr
    by_cases hu : u = uid
    · subst hu
      cases haccount.symm.trans hold
      exact ⟨account', Collection.get?_set_self _ _ _, same.trans hemail⟩
    · exact ⟨old, (Collection.get?_set_other _ _ hu).trans hold, hemail⟩
  · intro u new hnew
    by_cases hu : u = uid
    · subst hu
      exact sound.registered u account haccount
    · exact sound.registered u new ((Collection.get?_set_other _ _ hu).symm.trans hnew)

/-- A document that belongs to its account was written. -/
theorem Sound.documentSet {store : Store K} (sound : Sound store) {uid : String} {r : Registration}
    {userDoc : Map K} (hr : Registered store uid r) (hdoc : Identifies uid r userDoc) :
    Sound { store with users := store.users.set uid userDoc } ∧
      Extends store { store with users := store.users.set uid userDoc } := by
  refine ⟨⟨sound.account, sound.registered, sound.emails, sound.uids, ?_⟩, fun _ _ h => h, ?_⟩
  · intro u doc hget
    by_cases hu : u = uid
    · subst hu
      cases (Collection.get?_set_self _ _ _).symm.trans hget
      exact ⟨r, hr, hdoc⟩
    · exact sound.documents u doc ((Collection.get?_set_other _ _ hu).symm.trans hget)
  · intro u hu
    rw [Collection.contains_set, hu, Bool.or_true]

end Effects

section Steps
variable {K : Type} {isEmail : String → Bool}

/-- The home a call finds in a document is that of the account. -/
theorem document_home {store : Store K} (sound : Sound store) {uid : String} {userDoc : Map K}
    (hdoc : store.users.get? uid = some userDoc) : ∃ r, Registered store uid r ∧
      store.users.contains uid = true ∧
      field ⟨uid, userDoc⟩ "usertype" >>= Value.asString = .ok r.userType.name := by
  obtain ⟨r, hr, hid⟩ := sound.documents uid userDoc hdoc
  have hin := (store.users.contains_iff uid).mpr
    ⟨_, (store.users.get?_eq_some_iff _ _).mp hdoc, rfl⟩
  exact ⟨r, hr, hin, hid.userType⟩

theorem proceed_ok {store store' : Store K} {device device' : Device K} {i : Nat} {task : Task K}
    (sound : Sound store) (ok : DeviceOk store device) (htask : TaskOk store task)
    (h : proceed store device i task = some (store', device')) :
    Sound store' ∧ DeviceOk store' device' ∧ Extends store store' := by
  have hended := ok.endTask i
  cases task with
  | signingUp r uid next =>
    have hnext : ∀ next, DeviceOk store (device.setTask i (.signingUp r uid next)) :=
      fun next => ok.setTask i htask
    cases next with
    | createUserWithEmailAndPassword => cases h
    | updateDisplayName =>
      obtain ⟨account, haccount, _⟩ := sound.account uid r htask
      simp only [proceed, updateDisplayName, session, haccount] at h
      cases h
      obtain ⟨hsound, hext⟩ := sound.accountChanged
        { account with displayName := some (r.firstName ++ " " ++ r.lastName) } haccount rfl
      exact ⟨hsound, (hnext .reload).mono hext, hext⟩
    | reload =>
      cases h
      exact ⟨sound, hnext .set, Extends.refl store⟩
    | set =>
      cases h
      obtain ⟨hsound, hext⟩ := sound.documentSet htask (identifies_userDocument r uid)
      have hin : (store.users.set uid (userDocument r uid)).contains uid = true := by
        rw [Collection.contains_set, decide_eq_true rfl, Bool.true_or]
      exact ⟨hsound, (hended.mono hext).pushHome htask hin, hext⟩
  | signingIn uid =>
    simp only [proceed] at h
    split at h
    · cases h
      exact ⟨sound, hended, Extends.refl store⟩
    · rename_i userDoc hdoc
      obtain ⟨r, hr, hin, hhome⟩ := document_home sound hdoc
      rw [hhome] at h
      cases h
      exact ⟨sound, hended.pushHome hr hin, Extends.refl store⟩
  | checking uid =>
    simp only [proceed] at h
    split at h
    · cases h
      exact ⟨sound, hended.signOut, Extends.refl store⟩
    · rename_i userDoc hdoc
      obtain ⟨r, hr, hin, hhome⟩ := document_home sound hdoc
      rw [hhome] at h
      cases h
      exact ⟨sound, hended.pushHome hr hin, Extends.refl store⟩
  | updating uid write =>
    simp only [proceed] at h
    split at h
    · cases h
      exact ⟨sound, hended, Extends.refl store⟩
    · rename_i userDoc hdoc
      obtain ⟨r, hr, hid⟩ := sound.documents uid userDoc hdoc
      cases h
      obtain ⟨hsound, hext⟩ := sound.documentSet hr (hid.update write)
      exact ⟨hsound, hended.mono hext, hext⟩
  | ended => cases h

theorem fail_ok {store : Store K} {device device' : Device K} {i : Nat} {task : Task K}
    (ok : DeviceOk store device) (h : fail device i task = some device') :
    DeviceOk store device' := by
  have hended := ok.endTask i
  cases task with
  | checking uid =>
    cases h
    exact hended.signOut
  | ended => cases h
  | signingUp r uid next =>
    cases h
    exact hended
  | signingIn uid =>
    cases h
    exact hended
  | updating uid write =>
    cases h
    exact hended

/-- A sign-in goes through to the uid of an account. -/
theorem signedIn_account {s : Authentication.State K} {email password uid : String}
    {failure : Option Exception}
    (h : signInWithEmailAndPassword s email password failure = .ok uid) :
    ∃ account, s.accounts.get? uid = some account := by
  unfold signInWithEmailAndPassword at h
  split at h
  · cases h
  · split at h
    · cases h
    · rename_i account hfind
      cases h
      exact ⟨account.data, (s.accounts.get?_eq_some_iff _ _).mpr (List.mem_of_find?_eq_some hfind)⟩

theorem deviceStep_ok {store store' : Store K} {device device' : Device K} {a : Action K}
    (sound : Sound store) (ok : DeviceOk store device)
    (h : deviceStep isEmail store device a = some (store', device')) :
    Sound store' ∧ DeviceOk store' device' ∧ Extends store store' := by
  have hsame := Extends.refl store
  cases a with
  | register form uid failure =>
    simp only [deviceStep] at h
    split at h
    · cases h
      exact ⟨sound, ok, hsame⟩
    · rename_i r hsubmit
      split at h
      · cases h
      · rename_i fresh
        rw [Bool.not_eq_true] at fresh
        rcases createUser_cases (session store device) r uid.id (fun _ => failure) with
          ⟨_, e, herror⟩ | ⟨hcreate, hok⟩
        · rw [herror] at h
          cases h
          exact ⟨sound, ok, hsame⟩
        · rw [hok] at h
          cases h
          obtain ⟨hsound, hext⟩ := sound.created (r := r) uid fresh
            ((emailInUse_false_iff _ _).mp hcreate.2)
          have hr : Registered ⟨store.accounts.set uid.id ⟨r.email, r.password, none⟩, store.users,
              store.registered.set uid.id r⟩ uid.id r := Collection.get?_set_self _ _ _
          exact ⟨hsound, ((ok.mono hext).signIn hr).addTask hr, hext⟩
  | login email password failure =>
    simp only [deviceStep] at h
    split at h
    · split at h
      · cases h
        exact ⟨sound, ok, hsame⟩
      · rename_i uid hsign
        obtain ⟨account, haccount⟩ := signedIn_account hsign
        obtain ⟨r, hr⟩ := sound.registered uid account haccount
        cases h
        exact ⟨sound, (ok.signIn hr).addTask ⟨r, hr⟩, hsame⟩
    · cases h
      exact ⟨sound, ok, hsame⟩
  | start =>
    simp only [deviceStep] at h
    split at h
    · cases h
      exact ⟨sound, ok, hsame⟩
    · rename_i uid huid
      cases h
      exact ⟨sound, ok.addTask (ok.currentUser uid huid), hsame⟩
  | signOut =>
    cases h
    exact ⟨sound, ok.signOut, hsame⟩
  | update form uploadedImage =>
    simp only [deviceStep] at h
    split at h
    · cases h
      exact ⟨sound, ok, hsame⟩
    · rename_i uid huid
      cases h
      exact ⟨sound, ok.addTask (ok.currentUser uid huid), hsame⟩
  | openLocation =>
    cases h
    exact ⟨sound, ⟨ok.currentUser, ok.currentUser, ok.tasks, ok.pushed⟩, hsame⟩
  | updateUserLocation latitude longitude =>
    simp only [deviceStep] at h
    split at h
    · cases h
      exact ⟨sound, ok, hsame⟩
    · rename_i uid huid
      cases h
      exact ⟨sound, ok.addTask (ok.locationUser uid huid), hsame⟩
  | passwordChanged uid password =>
    simp only [deviceStep] at h
    split at h
    · cases h
    · rename_i account haccount
      cases h
      obtain ⟨hsound, hext⟩ := sound.accountChanged
        { account with password := password } haccount rfl
      exact ⟨hsound, ok.mono hext, hext⟩
  | proceed i =>
    simp only [deviceStep] at h
    split at h
    · cases h
    · rename_i task hi
      exact proceed_ok sound ok (ok.tasks task (List.mem_of_getElem? hi)) h
  | fail i =>
    simp only [deviceStep] at h
    split at h
    · cases h
    · obtain ⟨device'', hfail, heq⟩ := Option.map_eq_some_iff.mp h
      cases heq
      exact ⟨sound, fail_ok ok hfail, hsame⟩

theorem guarantees (isEmail : String → Bool) :
    Guarantees (deviceStep (K := K) isEmail) Sound DeviceOk Extends where
  refl := Extends.refl
  trans _ _ _ := Extends.trans
  own _ _ _ _ _ := deviceStep_ok
  stable _ _ _ _ := DeviceOk.mono

end Steps

section Rows
variable {K : Type} (isEmail : String → Bool)

/-- The next step of the call that began last. -/
theorem proceed_next {store store' : Store K} {device : Device K} {task task' : Task K}
    (f : Device K → Device K)
    (h : proceed store (device.addTask task) device.tasks.length task =
      some (store', f ((device.addTask task).setTask device.tasks.length task'))) :
    deviceStep isEmail store (device.addTask task) (.proceed device.tasks.length) =
      some (store', f (device.addTask task')) := by
  have hset : (device.addTask task).setTask device.tasks.length task' = device.addTask task' := by
    simp [Device.addTask, Device.setTask]
  rw [hset] at h
  simpa [deviceStep, Device.addTask] using h

variable {isEmail}

theorem session_pushHome (store : Store K) (device : Device K) (uid userType : String) :
    session store (device.pushHome uid userType) = (session store device).pushHome userType := by
  unfold Device.pushHome State.pushHome
  split_ifs <;> simp [Device.push, session]

/-- A registration that nothing interrupts is a call of `signUp`. -/
theorem register_inRow {store : Store K} {device : Device K} {form : RegistrationForm}
    {r : Registration} {uid : Uid} (hsubmit : form.submit isEmail = some r)
    (fresh : store.accounts.contains uid.id = false)
    (hemail : emailInUse (session store device) r.email = false) :
    ∃ store' device', run (fun s a => deviceStep isEmail s.1 s.2 a) (store, device)
        (.register form uid none :: List.replicate 3 (.proceed device.tasks.length)) =
          some (store', device') ∧
      session store' device' = (signUp (session store device) r uid.id (fun _ => none)).1 := by
  let signedIn : Device K := { device with currentUser := some uid.id }
  have hcreate : createUserWithEmailAndPassword (session store device) r.email r.password uid.id
      none = .ok { session store device with
        accounts := store.accounts.set uid.id ⟨r.email, r.password, none⟩
        currentUser := some uid.id } := by
    simp only [createUserWithEmailAndPassword, hemail]
    rfl
  let created : Store K := ⟨store.accounts.set uid.id ⟨r.email, r.password, none⟩, store.users,
    store.registered.set uid.id r⟩
  have hregister : deviceStep isEmail store device (.register form uid none) =
      some (created, signedIn.addTask (.signingUp r uid.id .updateDisplayName)) := by
    simp only [deviceStep, hsubmit, fresh, hcreate]
    rfl
  let named : Store K := { created with
    accounts := created.accounts.set uid.id
      ⟨r.email, r.password, some (r.firstName ++ " " ++ r.lastName)⟩ }
  have hname : deviceStep isEmail created
      (signedIn.addTask (.signingUp r uid.id .updateDisplayName)) (.proceed device.tasks.length) =
        some (named, signedIn.addTask (.signingUp r uid.id .reload)) := by
    refine proceed_next isEmail id ?_
    simp only [proceed, updateDisplayName, session, created, Collection.get?_set_self]
    rfl
  have hreload : deviceStep isEmail named (signedIn.addTask (.signingUp r uid.id .reload))
      (.proceed device.tasks.length) =
        some (named, signedIn.addTask (.signingUp r uid.id .set)) :=
    proceed_next isEmail id rfl
  let stored : Store K := { named with users := store.users.set uid.id (userDocument r uid.id) }
  have hset : deviceStep isEmail named (signedIn.addTask (.signingUp r uid.id .set))
      (.proceed device.tasks.length) =
        some (stored, (signedIn.addTask .ended).pushHome uid.id r.userType.name) :=
    proceed_next isEmail (fun d => d.pushHome uid.id r.userType.name) rfl
  refine ⟨stored, (signedIn.addTask .ended).pushHome uid.id r.userType.name, ?_, ?_⟩
  · simp only [List.replicate, run_cons]
    exact ⟨_, hregister, _, hname, _, hreload, _, hset, rfl⟩
  · rw [session_pushHome]
    simp only [signUp, hcreate, updateDisplayName, Collection.get?_set_self]
    rfl

/-- A sign-in that nothing interrupts is a call of `signIn`. -/
theorem login_inRow {store : Store K} (sound : Sound store) {device : Device K}
    {email password uid : String} (hvalid : loginValidate isEmail email password = true)
    (hsign : signInWithEmailAndPassword (session store device) email password none = .ok uid) :
    ∃ device', run (fun s a => deviceStep isEmail s.1 s.2 a) (store, device)
        [.login email password none, .proceed device.tasks.length] = some (store, device') ∧
      session store device' = signIn (session store device) email password (fun _ => none) := by
  let signedIn : Device K := { device with currentUser := some uid }
  have hlogin : deviceStep isEmail store device (.login email password none) =
      some (store, signedIn.addTask (.signingIn uid)) := by
    simp only [deviceStep, hvalid, hsign]
    rfl
  cases hdoc : store.users.get? uid with
  | none =>
    refine ⟨signedIn.addTask .ended, ?_, ?_⟩
    · refine run_cons.mpr ⟨_, hlogin, run_cons.mpr ⟨_, proceed_next isEmail id ?_, rfl⟩⟩
      simp only [proceed, hdoc]
      rfl
    · simp only [signIn, hsign]
      simp only [session, hdoc]
      rfl
  | some userDoc =>
    obtain ⟨r, _, _, hhome⟩ := document_home sound hdoc
    refine ⟨(signedIn.addTask .ended).pushHome uid r.userType.name, ?_, ?_⟩
    · refine run_cons.mpr ⟨_, hlogin, run_cons.mpr ⟨_, proceed_next isEmail
        (fun d => d.pushHome uid r.userType.name) ?_, rfl⟩⟩
      simp only [proceed, hdoc, hhome]
    · rw [session_pushHome]
      simp only [signIn, hsign]
      simp only [session, hdoc, hhome]
      rfl

end Rows

section Systems
variable {K ι : Type} [DecidableEq ι]

def initial : System (Store K) ι (Device K) := ⟨emptyStore, fun _ => newDevice⟩

variable {isEmail : String → Bool}

theorem run_ok {acts : List (ι × Action K)} {s : System (Store K) ι (Device K)}
    (hrun : run (SharedStore.step (deviceStep isEmail)) initial acts = some s) :
    Sound s.store ∧ ∀ i, DeviceOk s.store (s.devices i) := by
  obtain ⟨sound, devices, _⟩ := (guarantees isEmail).run sound_empty
    (fun _ => newDevice_ok _) hrun
  exact ⟨sound, devices⟩

/-- A document keeps what tells whose it is. -/
def SameIdentity (userDoc userDoc' : Map K) : Prop :=
  ∀ key ∈ ["uid", "email", "usertype"], Map.get userDoc' key = Map.get userDoc key

/-- However the remote steps of any number of devices interleave, a users
document stands under the uid of an account, says that uid and the email of the
account, which no other account has, and keeps both and its type for ever. -/
theorem documents_kept (isEmail : String → Bool) (acts later : List (ι × Action K))
    (s t : System (Store K) ι (Device K))
    (hrun : run (SharedStore.step (deviceStep isEmail)) initial acts = some s)
    (hlater : run (SharedStore.step (deviceStep isEmail)) s later = some t)
    (uid : String) (userDoc : Map K) (hdoc : s.store.users.get? uid = some userDoc) :
    (∃ account, s.store.accounts.get? uid = some account ∧
      Map.get userDoc "uid" = .str uid ∧ Map.get userDoc "email" = .str account.email ∧
      ∀ uid' account', s.store.accounts.get? uid' = some account' →
        account'.email = account.email → uid' = uid) ∧
    (∃ userType : UserTypeEnum, Map.get userDoc "usertype" = .str userType.name) ∧
    ∃ userDoc', t.store.users.get? uid = some userDoc' ∧ SameIdentity userDoc userDoc' := by
  obtain ⟨sound, devices⟩ := run_ok hrun
  obtain ⟨sound', _, extended⟩ := (guarantees isEmail).run sound devices hlater
  obtain ⟨r, hr, hid⟩ := sound.documents uid userDoc hdoc
  obtain ⟨account, haccount, hemail⟩ := sound.account uid r hr
  refine ⟨⟨account, haccount, hid.uid, by rw [hemail]; exact hid.email, ?_⟩,
    ⟨r.userType, hid.usertype⟩, ?_⟩
  · intro uid' account' haccount' hsame
    obtain ⟨r', hr'⟩ := sound.registered uid' account' haccount'
    obtain ⟨account'', haccount'', hemail'⟩ := sound.account uid' r' hr'
    cases haccount'.symm.trans haccount''
    exact sound.emails uid' uid r' r hr' hr (hemail'.symm.trans (hsame.trans hemail))
  · have hin := extended.documents uid ((s.store.users.contains_iff uid).mpr
      ⟨_, (s.store.users.get?_eq_some_iff _ _).mp hdoc, rfl⟩)
    obtain ⟨d, hd, rfl⟩ := (t.store.users.contains_iff uid).mp hin
    have hdoc' := (t.store.users.get?_eq_some_iff d.id d.data).mpr hd
    obtain ⟨r', hr', hid'⟩ := sound'.documents d.id d.data hdoc'
    cases hr'.symm.trans (extended.registered d.id r hr)
    refine ⟨d.data, hdoc', ?_⟩
    simp [SameIdentity, hid.uid, hid.email, hid.usertype, hid'.uid, hid'.email, hid'.usertype]

/-- Two devices: a tenant registers on one, and between the steps of this a
landlord on the other, where the profile is edited as well. -/
def twoRegistrations : List (Bool × Action ℚ) :=
  [(false, .register ⟨"Ramesh", "Karki", "ramesh@example.com", "9812345678", "Secret123",
      some .tenant⟩ ⟨"u1", by decide, by decide⟩ none), (false, .proceed 0),
    (true, .register ⟨"Sunita", "Rai", "sunita@example.com", "9712345678", "Secret456",
      some .landlord⟩ ⟨"u2", by decide, by decide⟩ none), (true, .proceed 0), (false, .proceed 0),
    (true, .proceed 0), (false, .proceed 0), (true, .proceed 0),
    (true, .update ⟨"Sunita ", "Tamang", "9700000000", none⟩ none)]

theorem documents_kept_twoRegistrations :
    ∃ s t userDoc, run (SharedStore.step (deviceStep (fun _ => true))) initial twoRegistrations =
        some s ∧
      run (SharedStore.step (deviceStep (fun _ => true))) s [(true, .proceed 1)] = some t ∧
      s.store.users.get? "u2" = some userDoc ∧
      ∃ userDoc', t.store.users.get? "u2" = some userDoc' ∧ SameIdentity userDoc userDoc' := by
  refine ⟨_, _, _, rfl, rfl, rfl, ?_⟩
  exact (documents_kept (fun _ => true) twoRegistrations [(true, .proceed 1)] _ _ rfl rfl "u2" _
    rfl).2.2

/-- Every home that any device ever pushed is the home of the type that the
users document of the account says. -/
theorem homes_agree (isEmail : String → Bool) (acts : List (ι × Action K))
    (s : System (Store K) ι (Device K))
    (hrun : run (SharedStore.step (deviceStep isEmail)) initial acts = some s)
    (i : ι) (push : Push) (hpush : push ∈ (s.devices i).pushed) :
    ∃ userDoc, ∃ userType : UserTypeEnum, s.store.users.get? push.uid = some userDoc ∧
      Map.get userDoc "usertype" = .str userType.name ∧ push.route = userType.home := by
  obtain ⟨sound, devices⟩ := run_ok hrun
  obtain ⟨hin, r, hr, hroute⟩ := (devices i).pushed push hpush
  obtain ⟨d, hd, hid⟩ := (s.store.users.contains_iff push.uid).mp hin
  rw [← hid] at hr
  have hdoc := (s.store.users.get?_eq_some_iff d.id d.data).mpr hd
  obtain ⟨r', hr', hidentifies⟩ := sound.documents d.id d.data hdoc
  cases hr'.symm.trans hr
  exact ⟨d.data, r.userType, hid ▸ hdoc, hidentifies.usertype, hroute⟩

theorem homes_agree_twoRegistrations :
    ∃ s : System (Store ℚ) Bool (Device ℚ),
      run (SharedStore.step (deviceStep (fun _ => true))) initial twoRegistrations = some s ∧
      ∃ userDoc, ∃ userType : UserTypeEnum, s.store.users.get? "u2" = some userDoc ∧
        Map.get userDoc "usertype" = .str userType.name ∧ "/landlordnavbar" = userType.home := by
  refine ⟨_, rfl, ?_⟩
  exact homes_agree (fun _ => true) twoRegistrations _ rfl true ⟨"u2", "/landlordnavbar"⟩
    List.mem_cons_self

end Systems

end UserDirectory
