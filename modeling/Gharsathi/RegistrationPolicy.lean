import Gharsathi.AccountForms
import Gharsathi.LocationChange
import Gharsathi.Runs

/-!
# The registration policy

Names and phone numbers come into the users documents on two ways: through the
registration form, whose validators only turn texts down, and through the Edit
Profile screen, which updates a document with whatever stands in its fields,
trimmed. The policy holds of every document exactly when no phone number with
something else than digits is registered, and every update could have passed the
registration form.
-/

namespace RegistrationPolicy

open Authentication AccountForms DartText DartValues FirestoreCollection Runs
open LocationChange (setField get_setField)

/-- The fields of the Edit Profile screen, and the image it has loaded. -/
structure ProfileForm where
  firstName : String
  lastName : String
  phoneNumber : String
  profileImageUrl : Option String

inductive Action where
  | register (form : RegistrationForm) (uid : String) (fails : SignUpStep → Option Exception)
  | login (email password : String) (fails : SignInStep → Option Exception)
  | start (failure : Option Exception)
  | signOut
  | update (form : ProfileForm) (uploadedImage : Option String) (failure : Option Exception)

section Machine
variable {K : Type} (isEmail : String → Bool)

def updatedUserData (form : ProfileForm) (uploadedImage : Option String) : Map K :=
  [("firstName", .str (trim form.firstName)), ("lastName", .str (trim form.lastName)),
    ("phoneNumber", .str (trim form.phoneNumber)),
    ("profileImage", .ofStringOrNull (uploadedImage.or form.profileImageUrl))]

/-- `update` of a document, field by field. -/
def updateFields (userDoc fields : Map K) : Map K :=
  fields.foldl (fun data entry => setField data entry.1 entry.2) userDoc

/-- `_updateFunction`, once the image is uploaded. An update of a document that
is not there fails. -/
def updateFunction (s : State K) (form : ProfileForm) (uploadedImage : Option String)
    (failure : Option Exception) : State K :=
  match s.currentUser with
  | none => s.show (.text "Failed to update profile.")
  | some userID =>
    match failure, s.users.get? userID with
    | none, some userDoc =>
      let userDoc := updateFields userDoc (updatedUserData form uploadedImage)
      let s : State K := { s with users := s.users.set userID userDoc }
      s.show (.text "Profile updated successfully!")
    | _, _ => s.show (.text "Failed to update profile.")

def step (s : State K) : Action → Option (State K)
  | .register form uid fails =>
    match form.submit isEmail with
    | none => some s
    | some r => if s.accounts.contains uid then none else some (signUp s r uid fails).1
  | .login email password fails =>
    if loginValidate isEmail email password then some (signIn s email password fails) else some s
  | .start failure => some (checkUserSession s failure)
  | .signOut => some { s with currentUser := none }
  | .update form uploadedImage failure => some (updateFunction s form uploadedImage failure)

end Machine

section Statements
variable {K : Type}

def OnlyDigits (s : String) : Prop := ∀ c ∈ s.toList, c.isDigit = true

/-- The policy, with lengths as Dart counts them. -/
structure MeetsPolicy (firstName lastName phoneNumber : String) : Prop where
  firstName : 3 < length firstName ∧ ∀ c ∈ firstName.toList, c.isDigit = false
  lastName : 2 < length lastName ∧ ∀ c ∈ lastName.toList, c.isDigit = false
  tenDigits : phoneNumber.toList.length = 10 ∧ OnlyDigits phoneNumber
  begins : ∃ rest, phoneNumber.toList = '9' :: '8' :: rest ∨ phoneNumber.toList = '9' :: '7' :: rest

def HoldsPolicy (userDoc : Map K) : Prop :=
  ∃ firstName lastName phoneNumber, Map.get userDoc "firstName" = .str firstName ∧
    Map.get userDoc "lastName" = .str lastName ∧
    Map.get userDoc "phoneNumber" = .str phoneNumber ∧ MeetsPolicy firstName lastName phoneNumber

/-- Every users document holds to the policy, in every state of the run. -/
def PolicyKept (isEmail : String → Bool) (K : Type) (acts : List Action) : Prop :=
  ∀ past rest (s : State K), acts = past ++ rest → run (step isEmail) initial past = some s →
    ∀ d ∈ s.users.docs, HoldsPolicy d.data

/-- The update reaches the document of the current user. -/
def Updates (s : State K) (failure : Option Exception) (userID : String) (userDoc : Map K) : Prop :=
  s.currentUser = some userID ∧ failure = none ∧ s.users.get? userID = some userDoc

/-- The condition on a step: a registration that goes through has a phone number
of digits only, and so has an update, whose texts the registration form would
have taken. -/
def KeepsPolicy (isEmail : String → Bool) (s : State K) : Action → Prop
  | .register form uid fails => ∀ r, form.submit isEmail = some r →
      s.accounts.contains uid = false → Creates s r fails → Completes fails →
      OnlyDigits form.phone
  | .update form _ failure => ∀ userID userDoc, Updates s failure userID userDoc →
      firstnameValidator (trim form.firstName) = none ∧
        lastnameValidator (trim form.lastName) = none ∧
        phoneValidator (trim form.phoneNumber) = none ∧ OnlyDigits (trim form.phoneNumber)
  | _ => True

end Statements

section Grammar

theorem isAlpha_of_isDigit {c : Char} (h : c.isDigit = true) : c.isAlpha = false := by
  have hhigh : c.toNat ≤ 57 := (Char.isDigit_iff_toNat.mp h).2
  have hupper : ¬ 65 ≤ c.toNat := by omega
  have hlower : ¬ 97 ≤ c.toNat := by omega
  change (decide (c.val ≥ 'A'.val ∧ c.val ≤ 'Z'.val) ||
    (decide (c.val ≥ 'a'.val) && decide (c.val ≤ 'z'.val))) = false
  simp only [Bool.or_eq_false_iff, Bool.and_eq_false_iff, decide_eq_false_iff_not]
  exact ⟨fun h => hupper h.1, Or.inl hlower⟩

/-- A text of digits has no letter and is as long as it has characters. -/
theorem onlyDigits_length {s : String} (h : OnlyDigits s) :
    hasMatch Char.isAlpha s = false ∧ length s = s.toList.length := by
  refine ⟨(hasMatch_false_iff _ _).mpr (fun c hc => isAlpha_of_isDigit (h c hc)), ?_⟩
  refine length_of_basic (fun c hc => ?_)
  have hhigh : c.toNat ≤ 57 := (Char.isDigit_iff_toNat.mp (h c hc)).2
  omega

/-- Of the texts that the form lets through, the policy takes those whose phone
number has digits only. -/
theorem meetsPolicy_iff (firstName lastName phoneNumber : String) :
    MeetsPolicy firstName lastName phoneNumber ↔
      firstnameValidator firstName = none ∧ lastnameValidator lastName = none ∧
        phoneValidator phoneNumber = none ∧ OnlyDigits phoneNumber := by
  rw [firstnameValidator, lastnameValidator, nameValidator_eq_none, nameValidator_eq_none,
    phoneValidator_eq_none, hasMatch_false_iff, hasMatch_false_iff, startsWith_iff, startsWith_iff]
  constructor
  · rintro ⟨hfirst, hlast, ⟨hten, digits⟩, rest, hbegins⟩
    obtain ⟨halpha, hlength⟩ := onlyDigits_length digits
    refine ⟨hfirst, hlast, ⟨halpha, hlength.trans hten, ?_⟩, digits⟩
    rcases hbegins with h98 | h97
    · exact Or.inl ⟨rest, h98⟩
    · exact Or.inr ⟨rest, h97⟩
  · rintro ⟨hfirst, hlast, ⟨_, hten, hbegins⟩, digits⟩
    obtain ⟨_, hlength⟩ := onlyDigits_length digits
    refine ⟨hfirst, hlast, ⟨hlength.symm.trans hten, digits⟩, ?_⟩
    rcases hbegins with ⟨rest, h98⟩ | ⟨rest, h97⟩
    · exact ⟨rest, Or.inl h98⟩
    · exact ⟨rest, Or.inr h97⟩

end Grammar

section Steps
variable {K : Type} {isEmail : String → Bool}

theorem holdsPolicy_userDocument (r : Registration) (uid : String) :
    HoldsPolicy (userDocument r uid : Map K) ↔
      MeetsPolicy r.firstName r.lastName r.phoneNumber := by
  simp [HoldsPolicy, userDocument]

/-- An update decides about the policy by itself. -/
theorem holdsPolicy_update (userDoc : Map K) (form : ProfileForm) (uploadedImage : Option String) :
    HoldsPolicy (updateFields userDoc (updatedUserData form uploadedImage)) ↔
      MeetsPolicy (trim form.firstName) (trim form.lastName) (trim form.phoneNumber) := by
  simp [HoldsPolicy, updateFields, updatedUserData, get_setField]

theorem forall_mem_set_iff {users : Collection String (Map K)} {uid : String} {userDoc : Map K}
    (all : ∀ d ∈ users.docs, HoldsPolicy d.data) :
    (∀ d ∈ (users.set uid userDoc).docs, HoldsPolicy d.data) ↔ HoldsPolicy userDoc := by
  constructor
  · intro h
    exact h ⟨uid, userDoc⟩ (users.mem_set.mpr (Or.inl rfl))
  · intro h d hd
    rcases users.mem_set.mp hd with rfl | ⟨hold, _⟩
    · exact h
    · exact all d hold

theorem submit_accepted {form : RegistrationForm} {r : Registration}
    (h : form.submit isEmail = some r) :
    firstnameValidator r.firstName = none ∧ lastnameValidator r.lastName = none ∧
      phoneValidator r.phoneNumber = none ∧ r.phoneNumber = form.phone := by
  obtain ⟨hvalid, userType, _, rfl⟩ := submit_eq_some h
  simp only [RegistrationForm.validate, Bool.and_eq_true, Option.isNone_iff_eq_none] at hvalid
  obtain ⟨⟨⟨⟨hfirst, hlast⟩, _⟩, hphone⟩, _⟩ := hvalid
  exact ⟨hfirst, hlast, hphone, rfl⟩

/-- A registration that goes through adds a document to the policy exactly when
its phone number has digits only. -/
theorem register_iff {s : State K} {form : RegistrationForm} {r : Registration} {uid : String}
    {fails : SignUpStep → Option Exception} (all : ∀ d ∈ s.users.docs, HoldsPolicy d.data)
    (hsubmit : form.submit isEmail = some r) :
    (∀ d ∈ (signUp s r uid fails).1.users.docs, HoldsPolicy d.data) ↔
      (Creates s r fails → Completes fails → OnlyDigits form.phone) := by
  have hcases := signUp_cases s r uid fails
  generalize signUp s r uid fails = result at hcases
  cases hcases with
  | refused hcreate _ husers =>
    rw [husers]
    exact ⟨fun _ h => absurd h hcreate, fun _ => all⟩
  | halfMade _ hfails _ husers =>
    rw [husers]
    exact ⟨fun _ _ h => absurd h hfails, fun _ => all⟩
  | registered hcreate hfails _ husers =>
    obtain ⟨hfirst, hlast, hphone, hsame⟩ := submit_accepted hsubmit
    rw [husers, forall_mem_set_iff all, holdsPolicy_userDocument, meetsPolicy_iff, hsame]
    rw [hsame] at hphone
    constructor
    · rintro ⟨_, _, _, digits⟩ _ _
      exact digits
    · intro h
      exact ⟨hfirst, hlast, hphone, h hcreate hfails⟩

inductive Updated (s : State K) (form : ProfileForm) (uploadedImage : Option String)
    (failure : Option Exception) : State K → Prop where
  | failed {t : State K} (hnot : ∀ userID userDoc, ¬ Updates s failure userID userDoc)
      (husers : t.users = s.users) : Updated s form uploadedImage failure t
  | updated {t : State K} {userID : String} {userDoc : Map K}
      (updates : Updates s failure userID userDoc)
      (husers : t.users = s.users.set userID
        (updateFields userDoc (updatedUserData form uploadedImage))) :
      Updated s form uploadedImage failure t

theorem updateFunction_cases (s : State K) (form : ProfileForm) (uploadedImage : Option String)
    (failure : Option Exception) :
    Updated s form uploadedImage failure (updateFunction s form uploadedImage failure) := by
  unfold updateFunction
  cases huser : s.currentUser with
  | none =>
    refine .failed ?_ rfl
    rintro userID userDoc ⟨hcurrent, _⟩
    rw [huser] at hcurrent
    cases hcurrent
  | some userID =>
    dsimp only
    cases failure with
    | some e =>
      refine .failed ?_ rfl
      rintro _ _ ⟨_, hfailure, _⟩
      cases hfailure
    | none =>
      cases hdoc : s.users.get? userID with
      | none =>
        refine .failed ?_ rfl
        rintro other userDoc ⟨hcurrent, _, hstored⟩
        cases huser.symm.trans hcurrent
        cases hdoc.symm.trans hstored
      | some userDoc => exact .updated ⟨huser, rfl, hdoc⟩ rfl

theorem update_iff {s : State K} {form : ProfileForm} {uploadedImage : Option String}
    {failure : Option Exception} (all : ∀ d ∈ s.users.docs, HoldsPolicy d.data) :
    (∀ d ∈ (updateFunction s form uploadedImage failure).users.docs, HoldsPolicy d.data) ↔
      KeepsPolicy isEmail s (.update form uploadedImage failure) := by
  have hcases := updateFunction_cases s form uploadedImage failure
  generalize updateFunction s form uploadedImage failure = t at hcases
  cases hcases with
  | failed hnot husers =>
    rw [husers]
    exact ⟨fun _ userID userDoc h => absurd h (hnot userID userDoc), fun _ => all⟩
  | @updated userID userDoc updates husers =>
    rw [husers, forall_mem_set_iff all, holdsPolicy_update, meetsPolicy_iff]
    exact ⟨fun h _ _ _ => h, fun h => h userID userDoc updates⟩

theorem policy_step_iff {s t : State K} {a : Action} (all : ∀ d ∈ s.users.docs, HoldsPolicy d.data)
    (h : step isEmail s a = some t) :
    (∀ d ∈ t.users.docs, HoldsPolicy d.data) ↔ KeepsPolicy isEmail s a := by
  cases a with
  | register form uid fails =>
    simp only [step] at h
    split at h
    · rename_i hnone
      cases h
      refine ⟨fun _ r hsubmit => ?_, fun _ => all⟩
      cases hnone.symm.trans hsubmit
    · rename_i r hsubmit
      split at h
      · cases h
      · rename_i hfresh
        cases h
        rw [register_iff all hsubmit]
        constructor
        · intro hdigits r' hsubmit' _ hcreate hfails
          cases hsubmit.symm.trans hsubmit'
          exact hdigits hcreate hfails
        · intro hkeeps hcreate hfails
          exact hkeeps r hsubmit (Bool.not_eq_true _ ▸ hfresh) hcreate hfails
  | login email password fails =>
    simp only [step] at h
    split at h
    · cases h
      rw [(signIn_accounts s email password fails).2]
      exact ⟨fun _ => trivial, fun _ => all⟩
    · cases h
      exact ⟨fun _ => trivial, fun _ => all⟩
  | start failure =>
    cases h
    rw [(checkUserSession_accounts s failure).2]
    exact ⟨fun _ => trivial, fun _ => all⟩
  | signOut =>
    cases h
    exact ⟨fun _ => trivial, fun _ => all⟩
  | update form uploadedImage failure =>
    cases h
    exact update_iff all

theorem keepsPolicy_of_stuck {s : State K} {a : Action} (h : step isEmail s a = none) :
    KeepsPolicy isEmail s a := by
  cases a with
  | register form uid fails =>
    intro r hsubmit hfresh
    simp [step, hsubmit, hfresh] at h
  | update form uploadedImage failure => cases h
  | _ => trivial

end Steps

/-- Every users document holds to the policy in every state of a run if and only
if each step of the run keeps to the condition. -/
theorem policyKept_iff (isEmail : String → Bool) (K : Type) (acts : List Action) :
    PolicyKept isEmail K acts ↔
      Along (step isEmail) (KeepsPolicy isEmail) (initial : State K) acts :=
  reached_iff_along (fun _ => True) (fun s : State K => ∀ d ∈ s.users.docs, HoldsPolicy d.data)
    (KeepsPolicy isEmail) (fun _ _ _ _ _ => trivial) (fun _ _ h => keepsPolicy_of_stuck h)
    (fun _ _ _ _ all h => policy_step_iff all h) trivial
    (fun _ h => absurd h List.not_mem_nil) acts

/-- Dashes are not letters. -/
def dashes : List Action :=
  [.register ⟨"Ramesh", "Karki", "ramesh@example.com", "98-------5", "Secret123", some .tenant⟩ "u1"
    (fun _ => none)]

/-- The fields of the profile are emptied and saved. -/
def emptied : List Action :=
  [.register ⟨"Ramesh", "Karki", "ramesh@example.com", "9812345678", "Secret123", some .tenant⟩ "u1"
    (fun _ => none), .update ⟨"", "", "", none⟩ none none]

def storedPhone (userDoc : Map ℚ) : Option String :=
  match Map.get userDoc "phoneNumber" with
  | .str phoneNumber => some phoneNumber
  | _ => none

theorem storedPhone_of_policy {userDoc : Map ℚ} {phoneNumber : String}
    (h : HoldsPolicy userDoc) (stored : storedPhone userDoc = some phoneNumber) :
    phoneNumber.toList.length = 10 ∧ OnlyDigits phoneNumber := by
  obtain ⟨_, _, phone, _, _, hphone, meets⟩ := h
  rw [storedPhone, hphone] at stored
  cases stored
  exact meets.tenDigits

theorem not_policyKept :
    ¬ PolicyKept (fun _ => true) ℚ dashes ∧ ¬ PolicyKept (fun _ => true) ℚ emptied := by
  constructor
  · intro h
    obtain ⟨s, hrun, d, hmem, hphone⟩ := exists_of_check (step (K := ℚ) (fun _ => true)) initial
      dashes (fun s => ∃ d ∈ s.users.docs, storedPhone d.data = some "98-------5") (by decide)
    have hdigits := (storedPhone_of_policy (h dashes [] s (by simp) hrun d hmem) hphone).2
    exact absurd (hdigits '-' (by decide)) (by decide)
  · intro h
    obtain ⟨s, hrun, d, hmem, hphone⟩ := exists_of_check (step (K := ℚ) (fun _ => true)) initial
      emptied (fun s => ∃ d ∈ s.users.docs, storedPhone d.data = some "") (by decide)
    have hten := (storedPhone_of_policy (h emptied [] s (by simp) hrun d hmem) hphone).1
    exact absurd hten (by decide)

end RegistrationPolicy
