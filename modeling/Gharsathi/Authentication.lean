import Gharsathi.FirestoreCollection

/-!
# Accounts and users documents

Registration writes to two stores: the accounts with their passwords, and the
collection `users` with a document under the uid of the account. `signUp` goes
through four remote steps, each of which may fail, in one `try`; nothing it has
done is undone when a later step fails. `signIn` and the splash screen find the
home of a user in the users document. Two emails that differ in letter case only
are two emails here: what the server makes of them is left out.
-/

namespace Authentication

open DartValues FirestoreCollection

inductive UserTypeEnum where
  | tenant
  | landlord
  deriving DecidableEq

/-- `_userTypeEnum.toString().split('.').last`. -/
def UserTypeEnum.name : UserTypeEnum → String
  | .tenant => "Tenant"
  | .landlord => "Landlord"

def UserTypeEnum.home : UserTypeEnum → String
  | .tenant => "/tenantnavbar"
  | .landlord => "/landlordnavbar"

/-- The arguments of `signUp`. -/
structure Registration where
  firstName : String
  lastName : String
  email : String
  password : String
  userType : UserTypeEnum
  phoneNumber : String

structure Account where
  email : String
  password : String
  displayName : Option String
  deriving DecidableEq

inductive Exception where
  | firebaseAuth (code message : String)
  | other (text : String)
  | dart (e : DartError)

/-- A snack bar; `error` is the text `Error: $e`. -/
inductive SnackBar where
  | text (s : String)
  | error (e : Exception)

structure State (K : Type) where
  accounts : Collection String Account
  users : Collection String (Map K)
  currentUser : Option String
  pushed : List String
  shown : List SnackBar

inductive SignUpStep where
  | createUserWithEmailAndPassword
  | updateDisplayName
  | reload
  | set

inductive SignInStep where
  | signInWithEmailAndPassword
  | get

section Service
variable {K : Type}

def initial : State K := ⟨Collection.empty, Collection.empty, none, [], []⟩

def State.show (s : State K) (message : SnackBar) : State K :=
  { s with shown := s.shown ++ [message] }

/-- `Navigator.pushNamed` with the home of the user type, if it has one. -/
def State.pushHome (s : State K) (userType : String) : State K :=
  if userType = "Tenant" then { s with pushed := s.pushed ++ ["/tenantnavbar"] }
  else if userType = "Landlord" then { s with pushed := s.pushed ++ ["/landlordnavbar"] }
  else s

def signUpMessage : Exception → SnackBar
  | .firebaseAuth code message =>
    if code = "weak-password" then .text "Password is too weak"
    else if code = "email-already-in-use" then .text "Email is already in use"
    else .text ("Registration failed: " ++ message)
  | e => .error e

def signInMessage : Exception → SnackBar
  | .firebaseAuth _ message => .text ("Login failed: " ++ message)
  | e => .error e

/-- Emails are kept and compared as they were typed. -/
def emailInUse (s : State K) (email : String) : Bool :=
  s.accounts.docs.any (fun account => decide (account.data.email = email))

/-- The account under a new uid, whose owner is signed in with it. -/
def createUserWithEmailAndPassword (s : State K) (email password uid : String)
    (failure : Option Exception) : Except Exception (State K) :=
  match failure with
  | some e => .error e
  | none =>
    if emailInUse s email then
      .error (.firebaseAuth "email-already-in-use"
        "The email address is already in use by another account.")
    else
      .ok { s with
        accounts := s.accounts.set uid ⟨email, password, none⟩
        currentUser := some uid }

def updateDisplayName (s : State K) (uid displayName : String) : State K :=
  match s.accounts.get? uid with
  | none => s
  | some account =>
    { s with accounts := s.accounts.set uid { account with displayName := some displayName } }

/-- The users document of a new account. -/
def userDocument (r : Registration) (userId : String) : Map K :=
  [("firstName", .str r.firstName), ("lastName", .str r.lastName), ("email", .str r.email),
    ("usertype", .str r.userType.name), ("phoneNumber", .str r.phoneNumber), ("uid", .str userId),
    ("profileImage", .str "https://via.placeholder.com/150")]

/-- `signUp` with the failure each remote step meets, if any, and what it returns. -/
def signUp (s : State K) (r : Registration) (uid : String)
    (fails : SignUpStep → Option Exception) : State K × Bool :=
  match createUserWithEmailAndPassword s r.email r.password uid
      (fails .createUserWithEmailAndPassword) with
  | .error e => (s.show (signUpMessage e), false)
  | .ok s =>
    match fails .updateDisplayName with
    | some e => (s.show (signUpMessage e), false)
    | none =>
      let s := updateDisplayName s uid (r.firstName ++ " " ++ r.lastName)
      match fails .reload with
      | some e => (s.show (signUpMessage e), false)
      | none =>
        match fails .set with
        | some e => (s.show (signUpMessage e), false)
        | none =>
          let s := { s with users := s.users.set uid (userDocument r uid) }
          (s.pushHome r.userType.name, true)

def signInWithEmailAndPassword (s : State K) (email password : String)
    (failure : Option Exception) : Except Exception String :=
  match failure with
  | some e => .error e
  | none =>
    match s.accounts.docs.find? (fun account =>
        decide (account.data.email = email ∧ account.data.password = password)) with
    | none => .error (.firebaseAuth "invalid-credential"
        "The supplied auth credential is incorrect, malformed or has expired.")
    | some account => .ok account.id

def signIn (s : State K) (email password : String) (fails : SignInStep → Option Exception) :
    State K :=
  match signInWithEmailAndPassword s email password (fails .signInWithEmailAndPassword) with
  | .error e => s.show (signInMessage e)
  | .ok uidForSignIn =>
    let s := { s with currentUser := some uidForSignIn }
    match fails .get with
    | some e => s.show (signInMessage e)
    | none =>
      match s.users.get? uidForSignIn with
      | none => s
      | some userDoc =>
        match field ⟨uidForSignIn, userDoc⟩ "usertype" >>= Value.asString with
        | .error e => s.show (signInMessage (.dart e))
        | .ok userTypeForSignIn => s.pushHome userTypeForSignIn

/-- The splash screen keeps the session of a user who has a document, and ends
every other one. -/
def checkUserSession (s : State K) (failure : Option Exception) : State K :=
  match s.currentUser with
  | none => s
  | some uid =>
    match failure with
    | some _ => { s with currentUser := none }
    | none =>
      match s.users.get? uid with
      | none => { s with currentUser := none }
      | some userDoc =>
        match field ⟨uid, userDoc⟩ "usertype" >>= Value.asString with
        | .error _ => { s with currentUser := none }
        | .ok userType => s.pushHome userType

/-- No remote step of `signUp` after the first fails. -/
def Completes (fails : SignUpStep → Option Exception) : Prop :=
  fails .updateDisplayName = none ∧ fails .reload = none ∧ fails .set = none

/-- The account of `signUp` is created. -/
def Creates (s : State K) (r : Registration) (fails : SignUpStep → Option Exception) : Prop :=
  fails .createUserWithEmailAndPassword = none ∧ emailInUse s r.email = false

end Service

section Effects
variable {K : Type}

@[simp] theorem pushHome_accounts (s : State K) (userType : String) :
    (s.pushHome userType).accounts = s.accounts := by
  unfold State.pushHome
  split_ifs <;> rfl

@[simp] theorem pushHome_users (s : State K) (userType : String) :
    (s.pushHome userType).users = s.users := by
  unfold State.pushHome
  split_ifs <;> rfl

theorem pushHome_name (s : State K) (userType : UserTypeEnum) :
    (s.pushHome userType.name).pushed = s.pushed ++ [userType.home] := by
  cases userType <;> rfl

theorem emailInUse_false_iff (s : State K) (email : String) :
    emailInUse s email = false ↔ ∀ account ∈ s.accounts.docs, account.data.email ≠ email := by
  simp [emailInUse]

/-- One account was added, with its display name or without. -/
def AccountAdded (before after : Collection String Account) (r : Registration) (uid : String) :
    Prop :=
  ∃ displayName, ∀ account, account ∈ after.docs ↔
    account = ⟨uid, r.email, r.password, displayName⟩ ∨
      (account ∈ before.docs ∧ account.id ≠ uid)

/-- No two accounts share an email after one was added for an email not in use. -/
theorem emails_added {s : State K} {after : Collection String Account} {r : Registration}
    {uid : String}
    (emails : ∀ account ∈ s.accounts.docs, ∀ other ∈ s.accounts.docs,
      other.data.email = account.data.email → other = account)
    (fresh : emailInUse s r.email = false) (added : AccountAdded s.accounts after r uid) :
    ∀ account ∈ after.docs, ∀ other ∈ after.docs,
      other.data.email = account.data.email → other = account := by
  obtain ⟨displayName, hmem⟩ := added
  have hnew := (emailInUse_false_iff s r.email).mp fresh
  intro account haccount other hother hemail
  rcases (hmem account).mp haccount with rfl | ⟨hold, _⟩
  · rcases (hmem other).mp hother with rfl | ⟨hold', _⟩
    · rfl
    · exact absurd hemail (hnew other hold')
  · rcases (hmem other).mp hother with rfl | ⟨hold', _⟩
    · exact absurd hemail.symm (hnew account hold)
    · exact emails account hold other hold' hemail

/-- The three ways a call of `signUp` can end. -/
inductive SignedUp (s : State K) (r : Registration) (uid : String)
    (fails : SignUpStep → Option Exception) : State K × Bool → Prop where
  | refused {t : State K} (hcreate : ¬ Creates s r fails) (haccounts : t.accounts = s.accounts)
      (husers : t.users = s.users) : SignedUp s r uid fails (t, false)
  | halfMade {t : State K} (hcreate : Creates s r fails) (hfails : ¬ Completes fails)
      (added : AccountAdded s.accounts t.accounts r uid) (husers : t.users = s.users) :
      SignedUp s r uid fails (t, false)
  | registered {t : State K} (hcreate : Creates s r fails) (hfails : Completes fails)
      (added : AccountAdded s.accounts t.accounts r uid)
      (husers : t.users = s.users.set uid (userDocument r uid)) :
      SignedUp s r uid fails (t, true)

theorem createUser_cases (s : State K) (r : Registration) (uid : String)
    (fails : SignUpStep → Option Exception) :
    (¬ Creates s r fails ∧ ∃ e, createUserWithEmailAndPassword s r.email r.password uid
      (fails .createUserWithEmailAndPassword) = .error e) ∨
    (Creates s r fails ∧ createUserWithEmailAndPassword s r.email r.password uid
      (fails .createUserWithEmailAndPassword) = .ok { s with
        accounts := s.accounts.set uid ⟨r.email, r.password, none⟩
        currentUser := some uid }) := by
  unfold createUserWithEmailAndPassword Creates
  cases hfail : fails .createUserWithEmailAndPassword with
  | some e => exact Or.inl ⟨by simp, e, rfl⟩
  | none =>
    cases huse : emailInUse s r.email with
    | true => exact Or.inl ⟨by simp, _, rfl⟩
    | false => exact Or.inr ⟨by simp, rfl⟩

theorem added_of_create (accounts : Collection String Account) (r : Registration) (uid : String) :
    AccountAdded accounts (accounts.set uid ⟨r.email, r.password, none⟩) r uid :=
  ⟨none, fun _ => accounts.mem_set⟩

theorem updateDisplayName_created (s : State K) (r : Registration) (uid displayName : String) :
    updateDisplayName { s with
      accounts := s.accounts.set uid ⟨r.email, r.password, none⟩
      currentUser := some uid } uid displayName =
    { s with
      accounts := (s.accounts.set uid ⟨r.email, r.password, none⟩).set uid
        ⟨r.email, r.password, some displayName⟩
      currentUser := some uid } := by
  simp only [updateDisplayName, Collection.get?_set_self]

theorem added_of_update (accounts : Collection String Account) (r : Registration)
    (uid displayName : String) :
    AccountAdded accounts ((accounts.set uid ⟨r.email, r.password, none⟩).set uid
      ⟨r.email, r.password, some displayName⟩) r uid := by
  refine ⟨some displayName, fun account => ?_⟩
  rw [Collection.mem_set, Collection.mem_set]
  constructor
  · rintro (rfl | ⟨rfl | hold, hne⟩)
    · exact Or.inl rfl
    · exact absurd rfl hne
    · exact Or.inr hold
  · rintro (rfl | hold)
    · exact Or.inl rfl
    · exact Or.inr ⟨Or.inr hold, hold.2⟩

theorem signUp_cases (s : State K) (r : Registration) (uid : String)
    (fails : SignUpStep → Option Exception) : SignedUp s r uid fails (signUp s r uid fails) := by
  unfold signUp
  rcases createUser_cases s r uid fails with ⟨hcreate, e, herror⟩ | ⟨hcreate, hok⟩
  · rw [herror]
    exact .refused hcreate rfl rfl
  · rw [hok]
    cases hname : fails .updateDisplayName with
    | some e =>
      refine .halfMade hcreate ?_ (added_of_create s.accounts r uid) rfl
      simp [Completes, hname]
    | none =>
      simp only [updateDisplayName_created]
      cases hreload : fails .reload with
      | some e =>
        refine .halfMade hcreate ?_ (added_of_update s.accounts r uid _) rfl
        simp [Completes, hreload]
      | none =>
        cases hset : fails .set with
        | some e =>
          refine .halfMade hcreate ?_ (added_of_update s.accounts r uid _) rfl
          simp [Completes, hset]
        | none =>
          refine .registered hcreate ⟨hname, hreload, hset⟩ ?_ ?_
          · obtain ⟨displayName, hmem⟩ := added_of_update s.accounts r uid
              (r.firstName ++ " " ++ r.lastName)
            refine ⟨displayName, fun account => ?_⟩
            simp only [pushHome_accounts]
            exact hmem account
          · simp only [pushHome_users]

theorem signIn_accounts (s : State K) (email password : String)
    (fails : SignInStep → Option Exception) :
    (signIn s email password fails).accounts = s.accounts ∧
      (signIn s email password fails).users = s.users := by
  unfold signIn
  split
  · exact ⟨rfl, rfl⟩
  · dsimp only
    split
    · exact ⟨rfl, rfl⟩
    · split
      · exact ⟨rfl, rfl⟩
      · split
        · exact ⟨rfl, rfl⟩
        · exact ⟨pushHome_accounts _ _, pushHome_users _ _⟩

theorem checkUserSession_accounts (s : State K) (failure : Option Exception) :
    (checkUserSession s failure).accounts = s.accounts ∧
      (checkUserSession s failure).users = s.users := by
  unfold checkUserSession
  split
  · exact ⟨rfl, rfl⟩
  · split
    · exact ⟨rfl, rfl⟩
    · split
      · exact ⟨rfl, rfl⟩
      · split
        · exact ⟨rfl, rfl⟩
        · exact ⟨pushHome_accounts _ _, pushHome_users _ _⟩

/-- The sign-in with the credentials of an account, where no other account has
them, is a sign-in to it. -/
theorem signInWithEmailAndPassword_of_mem {s : State K} {account : Doc String Account}
    (hmem : account ∈ s.accounts.docs)
    (unique : ∀ other ∈ s.accounts.docs, other.data.email = account.data.email → other = account) :
    signInWithEmailAndPassword s account.data.email account.data.password none =
      .ok account.id := by
  unfold signInWithEmailAndPassword
  cases hfind : s.accounts.docs.find? (fun other =>
      decide (other.data.email = account.data.email ∧
        other.data.password = account.data.password)) with
  | none =>
    have hno := List.find?_eq_none.mp hfind account hmem
    simp at hno
  | some other =>
    have hother := List.find?_some hfind
    simp only [decide_eq_true_eq] at hother
    rw [unique other (List.mem_of_find?_eq_some hfind) hother.1]

end Effects

end Authentication
