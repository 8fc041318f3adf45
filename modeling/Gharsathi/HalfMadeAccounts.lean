import Gharsathi.Authentication
import Gharsathi.Runs

/-!
# Half-made accounts

An account without a users document signs in to nowhere, and its email cannot
be registered again. Registration leaves one behind exactly when its account is
created and one of its later remote steps fails.
-/

namespace HalfMadeAccounts

open DartValues FirestoreCollection Runs Authentication

inductive Attempt where
  | signUp (r : Registration) (uid : String) (fails : SignUpStep → Option Exception)
  | signIn (email password : String) (fails : SignInStep → Option Exception)
  | start (failure : Option Exception)

section Statements
variable {K : Type}

/-- A new account gets a uid that is not in use. -/
def step (s : State K) : Attempt → Option (State K)
  | .signUp r uid fails =>
    if s.accounts.contains uid then none else some (signUp s r uid fails).1
  | .signIn email password fails => some (signIn s email password fails)
  | .start failure => some (checkUserSession s failure)

/-- The users document of an account, with its email and a user type. -/
def HasDocument (s : State K) (account : Doc String Account) : Prop :=
  ∃ (doc : Map K) (userType : UserTypeEnum), s.users.get? account.id = some doc ∧
    Map.get doc "email" = .str account.data.email ∧ Map.get doc "usertype" = .str userType.name

/-- Signing in with the credentials of the account opens the home of its user type. -/
def ReachesHome (s : State K) (account : Doc String Account) : Prop :=
  ∃ (doc : Map K) (userType : UserTypeEnum), s.users.get? account.id = some doc ∧
    Map.get doc "usertype" = .str userType.name ∧
    (signIn s account.data.email account.data.password (fun _ => none)).pushed =
      s.pushed ++ [userType.home]

/-- A registration that returns false has changed nothing, and can be repeated. -/
def RollsBack (s : State K) (a : Attempt) : Prop :=
  ∀ r uid fails t, a = .signUp r uid fails → step s a = some t →
    (signUp s r uid fails).2 = false → t.accounts = s.accounts ∧ t.users = s.users ∧
      (emailInUse s r.email = false → ∀ uid', (signUp t r uid' (fun _ => none)).2 = true)

/-- The property of a run. -/
structure NoHalfMade (K : Type) (acts : List Attempt) : Prop where
  reached : ∀ past rest (s : State K), acts = past ++ rest → run step initial past = some s →
    ∀ account ∈ s.accounts.docs, HasDocument s account ∧ ReachesHome s account
  failed : Along step RollsBack (initial : State K) acts

/-- An account that is created gets its document: no later step fails. -/
def CompletesCreation (s : State K) (a : Attempt) : Prop :=
  ∀ r uid fails t, a = .signUp r uid fails → step s a = some t → Creates s r fails →
    Completes fails

end Statements

section Steps
variable {K : Type}

theorem signUp_returns (s : State K) (r : Registration) (uid : String)
    (fails : SignUpStep → Option Exception) :
    (signUp s r uid fails).2 = true ↔ Creates s r fails ∧ Completes fails := by
  have hcases := signUp_cases s r uid fails
  generalize signUp s r uid fails = result at hcases
  cases hcases with
  | refused hcreate => simp [hcreate]
  | halfMade _ hfails => simp [hfails]
  | registered hcreate hfails => simp [hcreate, hfails]

theorem step_signUp {s t : State K} {r : Registration} {uid : String}
    {fails : SignUpStep → Option Exception} (h : step s (.signUp r uid fails) = some t) :
    s.accounts.contains uid = false ∧ t = (signUp s r uid fails).1 := by
  simp only [step] at h
  split at h
  · cases h
  · rename_i fresh
    rw [Bool.not_eq_true] at fresh
    exact ⟨fresh, (Option.some.inj h).symm⟩

/-- What completed registrations keep. -/
structure Sound (s : State K) : Prop where
  documents : ∀ account ∈ s.accounts.docs, HasDocument s account
  emails : ∀ account ∈ s.accounts.docs, ∀ other ∈ s.accounts.docs,
    other.data.email = account.data.email → other = account

theorem sound_initial : Sound (initial : State K) := ⟨nofun, nofun⟩

theorem sound_same {s t : State K} (hs : Sound s) (haccounts : t.accounts = s.accounts)
    (husers : t.users = s.users) : Sound t := by
  constructor
  · intro account hmem
    rw [haccounts] at hmem
    obtain ⟨doc, userType, hdoc, hrest⟩ := hs.documents account hmem
    exact ⟨doc, userType, by rw [husers]; exact hdoc, hrest⟩
  · rw [haccounts]
    exact hs.emails

theorem sound_registered {s t : State K} {r : Registration} {uid : String} (hs : Sound s)
    (fresh : emailInUse s r.email = false) (added : AccountAdded s.accounts t.accounts r uid)
    (husers : t.users = s.users.set uid (userDocument r uid)) : Sound t := by
  have hemails := emails_added hs.emails fresh added
  obtain ⟨displayName, hmem⟩ := added
  constructor
  · intro account haccount
    rcases (hmem account).mp haccount with rfl | ⟨hold, hne⟩
    · refine ⟨userDocument r uid, r.userType, ?_, ?_, ?_⟩
      · rw [husers, Collection.get?_set_self]
      · simp [userDocument]
      · simp [userDocument]
    · obtain ⟨doc, userType, hdoc, hrest⟩ := hs.documents account hold
      exact ⟨doc, userType, by rw [husers, Collection.get?_set_other _ _ hne]; exact hdoc, hrest⟩
  · exact hemails

theorem step_sound {s t : State K} {a : Attempt} (hs : Sound s) (completes : CompletesCreation s a)
    (h : step s a = some t) : Sound t := by
  cases a with
  | signUp r uid fails =>
    have hcompletes := completes r uid fails t rfl h
    obtain ⟨_, rfl⟩ := step_signUp h
    have hcases := signUp_cases s r uid fails
    generalize signUp s r uid fails = result at hcases
    cases hcases with
    | refused _ haccounts husers => exact sound_same hs haccounts husers
    | halfMade hcreate hfails => exact absurd (hcompletes hcreate) hfails
    | registered hcreate _ added husers => exact sound_registered hs hcreate.2 added husers
  | signIn email password fails =>
    cases h
    obtain ⟨haccounts, husers⟩ := signIn_accounts s email password fails
    exact sound_same hs haccounts husers
  | start failure =>
    cases h
    obtain ⟨haccounts, husers⟩ := checkUserSession_accounts s failure
    exact sound_same hs haccounts husers

theorem sound_reachesHome {s : State K} (hs : Sound s) {account : Doc String Account}
    (hmem : account ∈ s.accounts.docs) : ReachesHome s account := by
  obtain ⟨doc, userType, hdoc, _, htype⟩ := hs.documents account hmem
  refine ⟨doc, userType, hdoc, htype, ?_⟩
  have hsign := signInWithEmailAndPassword_of_mem hmem (hs.emails account hmem)
  have hfield : field ⟨account.id, doc⟩ "usertype" >>= Value.asString =
      (.ok userType.name : Result String) := by
    have hkey : Map.containsKey doc "usertype" = true := by
      apply Map.containsKey_of_get
      rw [htype]
      exact nofun
    simp [field, hkey, htype, bind, Except.bind]
  simp only [signIn, hsign, hdoc, hfield]
  exact pushHome_name _ userType

/-- A registration that completes whatever it creates rolls back when refused. -/
theorem rollsBack_of_completes {s : State K} {a : Attempt} (completes : CompletesCreation s a) :
    RollsBack s a := by
  rintro r uid fails t rfl h hfalse
  have hcompletes := completes r uid fails t rfl h
  have hcreate : ¬ Creates s r fails := by
    intro hcreate
    rw [(signUp_returns s r uid fails).mpr ⟨hcreate, hcompletes hcreate⟩] at hfalse
    cases hfalse
  obtain ⟨_, rfl⟩ := step_signUp h
  have hcases := signUp_cases s r uid fails
  generalize signUp s r uid fails = result at hcases
  cases hcases with
  | refused _ haccounts husers =>
    refine ⟨haccounts, husers, fun hemail uid' => ?_⟩
    rw [signUp_returns]
    refine ⟨⟨rfl, ?_⟩, rfl, rfl, rfl⟩
    rw [emailInUse, haccounts]
    exact hemail
  | halfMade hcreate' => exact absurd hcreate' hcreate
  | registered hcreate' => exact absurd hcreate' hcreate

/-- A step that leaves an account half-made does not roll back. -/
theorem completes_of_rollsBack {s : State K} {a : Attempt} (back : RollsBack s a) :
    CompletesCreation s a := by
  rintro r uid fails t rfl h hcreate
  by_contra hfails
  have hfalse : (signUp s r uid fails).2 = false := by
    rw [← Bool.not_eq_true, signUp_returns]
    exact fun both => hfails both.2
  obtain ⟨haccounts, _, _⟩ := back r uid fails t rfl h hfalse
  obtain ⟨fresh, rfl⟩ := step_signUp h
  have hcases := signUp_cases s r uid fails
  generalize signUp s r uid fails = result at hcases haccounts
  cases hcases with
  | refused hcreate' => exact hcreate' hcreate
  | halfMade _ _ added =>
    obtain ⟨displayName, hmem⟩ := added
    have hin := (hmem _).mpr (Or.inl rfl)
    dsimp only at haccounts
    rw [haccounts] at hin
    have hcontains := (s.accounts.contains_iff uid).mpr ⟨_, hin, rfl⟩
    rw [fresh] at hcontains
    cases hcontains
  | registered _ hfails' => exact hfails hfails'

end Steps

/-- A run leaves no half-made account, neither in a state it reaches nor after
a registration that returns false, if and only if each of its registrations
completes the account it creates. -/
theorem noHalfMade_iff (K : Type) (acts : List Attempt) :
    NoHalfMade K acts ↔ Along step CompletesCreation (initial : State K) acts := by
  constructor
  · intro h
    rw [along_iff]
    intro past a rest t heq hrun
    exact completes_of_rollsBack (along_iff.mp h.failed past a rest t heq hrun)
  · intro h
    constructor
    · rintro past rest s rfl hrun account hmem
      have hsound : Sound s := run_invariant_along Sound CompletesCreation
        (fun _ _ _ hs completes hstep => step_sound hs completes hstep) hrun (along_append h)
        sound_initial
      exact ⟨hsound.documents account hmem, sound_reachesHome hsound hmem⟩
    · rw [along_iff]
      intro past a rest t heq hrun
      exact rollsBack_of_completes (along_iff.mp h past a rest t heq hrun)

def unavailable : SignUpStep → Option Exception
  | .set => some (.other "[cloud_firestore/unavailable]")
  | _ => none

/-- The users document of a new account cannot be written. -/
def lostDocument : List Attempt :=
  [.signUp ⟨"Ramesh", "Karki", "ramesh@example.com", "Secret123", .tenant, "9812345678"⟩ "u1"
    unavailable]

theorem lostDocument_halfMade : ¬ NoHalfMade ℚ lostDocument := by
  intro h
  obtain ⟨s, hrun, haccounts, husers⟩ := exists_of_check (step (K := ℚ)) initial lostDocument
    (fun s => 0 < s.accounts.docs.length ∧ s.users.docs.length = 0) (by decide)
  obtain ⟨account, hmem⟩ := List.exists_mem_of_length_pos haccounts
  obtain ⟨⟨doc, _, hdoc, _⟩, _⟩ := h.reached lostDocument [] s (List.append_nil _).symm hrun
    account hmem
  have hin := (s.users.get?_eq_some_iff _ _).mp hdoc
  rw [List.length_eq_zero_iff.mp husers] at hin
  cases hin

end HalfMadeAccounts
