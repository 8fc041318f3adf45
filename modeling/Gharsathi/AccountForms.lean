import Gharsathi.Authentication
import Gharsathi.DartText

/-!
# The account forms

The validators of the registration form, the login form and the form that
changes the password, each with the message it shows. They look at the text as
it was typed; the change of a password then works with the trimmed texts. The
screen for a forgotten password has a link mailed, and the page this leads to
knows nothing of the validators. Whether a text is an email address is decided
by a package of its own.
-/

namespace AccountForms

open Authentication DartText DartValues FirestoreCollection

section Validators

def nameValidator (empty : String) (shortest : Nat) (short numbers : String) (value : String) :
    Option String :=
  if value = "" then some empty
  else if length value ≤ shortest then some short
  else if hasMatch Char.isDigit value then some numbers
  else none

def firstnameValidator : String → Option String :=
  nameValidator "Enter a Firstname" 3 "First name must be longer than 3 letters"
    "First name should not contain numbers"

def lastnameValidator : String → Option String :=
  nameValidator "Enter a Lastname" 2 "Last name must be longer than 2 letters"
    "Last name should not contain numbers"

def emailValidator (isEmail : String → Bool) (value : String) : Option String :=
  if isEmail value then none else some "Invalid Email"

def phoneValidator (value : String) : Option String :=
  if value = "" then some "Enter phone number"
  else if hasMatch Char.isAlpha value then some "Should not contain alphabets"
  else if length value ≠ 10 then some "Phone number should be 10 digits"
  else if !startsWith value "98" && !startsWith value "97" then
    some "Phone number should start with 98 or 97"
  else none

/-- The rule of the registration form and of a new password. -/
def passwordValidator (value : String) : Option String :=
  if value = "" then some "Password field should not be empty"
  else if length value ≤ 6 then some "Password should be longer than 6 letters"
  else if !hasMatch Char.isUpper value then
    some "Password must contain at least one uppercase letter"
  else if !hasMatch Char.isDigit value then some "Password must contain at least one number"
  else none

def loginPasswordValidator (value : String) : Option String :=
  if value = "" then some "Password field should not be empty"
  else if length value ≤ 6 then some "Password should be longer than 6 letters"
  else none

def requiredValidator (empty : String) (value : String) : Option String :=
  if value = "" then some empty else none

def oldPasswordValidator : String → Option String := requiredValidator "Enter your old password"

def confirmPasswordValidator : String → Option String :=
  requiredValidator "Enter confirm password"

/-- The texts of the registration form and the type that was selected. -/
structure RegistrationForm where
  firstname : String
  lastname : String
  email : String
  phone : String
  password : String
  userType : Option UserTypeEnum

def RegistrationForm.validate (isEmail : String → Bool) (f : RegistrationForm) : Bool :=
  (firstnameValidator f.firstname).isNone && (lastnameValidator f.lastname).isNone &&
    (emailValidator isEmail f.email).isNone && (phoneValidator f.phone).isNone &&
    (passwordValidator f.password).isNone

/-- What the `Register` button passes to `signUp`, if it gets that far. -/
def RegistrationForm.submit (isEmail : String → Bool) (f : RegistrationForm) :
    Option Registration :=
  match f.userType with
  | none => none
  | some userType =>
    if f.validate isEmail then
      some ⟨f.firstname, f.lastname, f.email, f.password, userType, f.phone⟩
    else none

def loginValidate (isEmail : String → Bool) (email password : String) : Bool :=
  (emailValidator isEmail email).isNone && (loginPasswordValidator password).isNone

structure ChangePasswordForm where
  oldPassword : String
  newPassword : String
  confirmPassword : String

def ChangePasswordForm.validate (f : ChangePasswordForm) : Bool :=
  (oldPasswordValidator f.oldPassword).isNone && (passwordValidator f.newPassword).isNone &&
    (confirmPasswordValidator f.confirmPassword).isNone

end Validators

inductive ChangePasswordStep where
  | reauthenticateWithCredential
  | updatePassword

section Change
variable {K : Type}

/-- Passwords are compared exactly. -/
def reauthenticateWithCredential (s : State K) (uid password : String)
    (failure : Option Exception) : Except Exception Account :=
  match failure with
  | some e => .error e
  | none =>
    match s.accounts.get? uid with
    | none => .error (.firebaseAuth "user-not-found"
        "There is no user record corresponding to this identifier.")
    | some account =>
      if account.password = password then .ok account
      else .error (.firebaseAuth "invalid-credential"
        "The supplied auth credential is incorrect, malformed or has expired.")

/-- A password of fewer than six characters is refused. -/
def updatePassword (s : State K) (uid : String) (account : Account) (password : String)
    (failure : Option Exception) : Except Exception (State K) :=
  match failure with
  | some e => .error e
  | none =>
    if length password < 6 then
      .error (.firebaseAuth "weak-password" "Password should be at least 6 characters")
    else
      .ok { s with accounts := s.accounts.set uid { account with password := password } }

/-- `_changePassword`; the second component says that the password was changed. -/
def changePassword (s : State K) (f : ChangePasswordForm)
    (fails : ChangePasswordStep → Option Exception) : State K × Bool :=
  let oldPassword := trim f.oldPassword
  let newPassword := trim f.newPassword
  let confirmPassword := trim f.confirmPassword
  if newPassword ≠ confirmPassword then
    (s.show (.text "New password and confirm password do not match"), false)
  else
    let failed := (s.show (.text "Old password is incorrect or an error occurred"), false)
    match s.currentUser with
    | none => failed
    | some uid =>
      match reauthenticateWithCredential s uid oldPassword (fails .reauthenticateWithCredential) with
      | .error _ => failed
      | .ok account =>
        match updatePassword s uid account newPassword (fails .updatePassword) with
        | .error _ => failed
        | .ok s => (s.show (.text "Password changed successfully"), true)

/-- `passwordReset` and what follows it: a link is mailed to the account with
the trimmed email, and whoever opens it sets a new password there. The second
component says whose password was set. -/
def passwordReset (s : State K) (emailText newPassword : String) (failure : Option Exception) :
    State K × Option String :=
  match s.accounts.docs.find? (fun account => decide (account.data.email = trim emailText)) with
  | none => (s, none)
  | some account =>
    match updatePassword s account.id account.data newPassword failure with
    | .error _ => (s, none)
    | .ok s => (s, some account.id)

end Change

section Changes
variable {K : Type}

theorem reauthenticate_ok {s : State K} {uid password : String} {failure : Option Exception}
    {account : Account} (h : reauthenticateWithCredential s uid password failure = .ok account) :
    failure = none ∧ s.accounts.get? uid = some account ∧ account.password = password := by
  unfold reauthenticateWithCredential at h
  split at h
  · cases h
  · split at h
    · cases h
    · rename_i found hfound
      split at h
      · rename_i hsame
        cases h
        exact ⟨rfl, hfound, hsame⟩
      · cases h

theorem updatePassword_ok {s t : State K} {uid password : String} {account : Account}
    {failure : Option Exception} (h : updatePassword s uid account password failure = .ok t) :
    failure = none ∧ 6 ≤ length password ∧
      t = { s with accounts := s.accounts.set uid { account with password := password } } := by
  unfold updatePassword at h
  split at h
  · cases h
  · split at h
    · cases h
    · rename_i hlong
      cases h
      exact ⟨rfl, not_lt.mp hlong, rfl⟩

/-- What it takes for the password of the current user to change. -/
structure Changes (s : State K) (f : ChangePasswordForm)
    (fails : ChangePasswordStep → Option Exception) (uid : String) (account : Account) :
    Prop where
  user : s.currentUser = some uid
  stored : s.accounts.get? uid = some account
  old : account.password = trim f.oldPassword
  confirmed : trim f.newPassword = trim f.confirmPassword
  strong : 6 ≤ length (trim f.newPassword)
  steps : ∀ step, fails step = none

inductive ChangedPassword (s : State K) (f : ChangePasswordForm)
    (fails : ChangePasswordStep → Option Exception) : State K × Bool → Prop where
  | failed {t : State K} (hnot : ∀ uid account, ¬ Changes s f fails uid account)
      (haccounts : t.accounts = s.accounts) : ChangedPassword s f fails (t, false)
  | changed {t : State K} {uid : String} {account : Account}
      (changes : Changes s f fails uid account)
      (haccounts : t.accounts =
        s.accounts.set uid { account with password := trim f.newPassword }) :
      ChangedPassword s f fails (t, true)

theorem changePassword_cases (s : State K) (f : ChangePasswordForm)
    (fails : ChangePasswordStep → Option Exception) :
    ChangedPassword s f fails (changePassword s f fails) := by
  unfold changePassword
  by_cases hconfirm : trim f.newPassword ≠ trim f.confirmPassword
  · simp only [if_pos hconfirm]
    exact .failed (fun _ _ changes => hconfirm changes.confirmed) rfl
  · simp only [if_neg hconfirm]
    rw [not_not] at hconfirm
    cases huser : s.currentUser with
    | none =>
      refine .failed (fun _ _ changes => ?_) rfl
      rw [changes.user] at huser
      cases huser
    | some uid =>
      dsimp only
      have same : ∀ {uid' account'}, Changes s f fails uid' account' → uid' = uid :=
        fun changes => Option.some.inj (changes.user.symm.trans huser)
      cases hreauth : reauthenticateWithCredential s uid (trim f.oldPassword)
          (fails .reauthenticateWithCredential) with
      | error e =>
        refine .failed (fun uid' account' changes => ?_) rfl
        obtain rfl := same changes
        simp [reauthenticateWithCredential, changes.steps, changes.stored, changes.old] at hreauth
      | ok account =>
        dsimp only
        obtain ⟨hstep, haccount, hold⟩ := reauthenticate_ok hreauth
        cases hupdate : updatePassword s uid account (trim f.newPassword)
            (fails .updatePassword) with
        | error e =>
          refine .failed (fun uid' account' changes => ?_) rfl
          have hlong := not_lt.mpr changes.strong
          simp [updatePassword, changes.steps, hlong] at hupdate
        | ok t =>
          obtain ⟨hstep', hstrong, rfl⟩ := updatePassword_ok hupdate
          refine .changed ⟨huser, haccount, hold, hconfirm, hstrong, ?_⟩ rfl
          intro step
          cases step with
          | reauthenticateWithCredential => exact hstep
          | updatePassword => exact hstep'

/-- What it takes for a forgotten password to be set anew. -/
structure Resets (s : State K) (emailText newPassword : String) (failure : Option Exception)
    (account : Doc String Account) : Prop where
  found : s.accounts.docs.find? (fun account => decide (account.data.email = trim emailText)) =
    some account
  strong : 6 ≤ length newPassword
  works : failure = none

theorem passwordReset_cases (s : State K) (emailText newPassword : String)
    (failure : Option Exception) :
    (passwordReset s emailText newPassword failure = (s, none) ∧
      ∀ account, ¬ Resets s emailText newPassword failure account) ∨
    ∃ account, Resets s emailText newPassword failure account ∧
      passwordReset s emailText newPassword failure =
        ({ s with accounts :=
            s.accounts.set account.id { account.data with password := newPassword } },
          some account.id) := by
  unfold passwordReset
  split
  · rename_i hnone
    exact Or.inl ⟨rfl, fun account resets => by cases hnone.symm.trans resets.found⟩
  · rename_i account hfound
    cases hupdate : updatePassword s account.id account.data newPassword failure with
    | error e =>
      refine Or.inl ⟨rfl, fun account' resets => ?_⟩
      simp [updatePassword, resets.works, not_lt.mpr resets.strong] at hupdate
    | ok t =>
      obtain ⟨hworks, hstrong, rfl⟩ := updatePassword_ok hupdate
      exact Or.inr ⟨account, ⟨hfound, hstrong, hworks⟩, rfl⟩

end Changes

section Accepted

theorem nameValidator_eq_none (empty : String) (shortest : Nat) (short numbers value : String) :
    nameValidator empty shortest short numbers value = none ↔
      shortest < length value ∧ hasMatch Char.isDigit value = false := by
  unfold nameValidator
  by_cases hempty : value = ""
  · subst hempty
    simp [length, DartStrings.codeUnits]
  · by_cases hlength : length value ≤ shortest
    · simp [hempty, hlength]
    · simp [hempty, hlength, Nat.lt_of_not_le hlength]

/-- The rejections leave every text of ten units without a letter that begins
like a phone number. -/
theorem phoneValidator_eq_none (value : String) :
    phoneValidator value = none ↔ hasMatch Char.isAlpha value = false ∧ length value = 10 ∧
      (startsWith value "98" = true ∨ startsWith value "97" = true) := by
  unfold phoneValidator
  by_cases hempty : value = ""
  · subst hempty
    simp [length, DartStrings.codeUnits]
  · cases halpha : hasMatch Char.isAlpha value with
    | true => simp [hempty]
    | false =>
      by_cases hlength : length value = 10
      · cases h98 : startsWith value "98" <;> cases h97 : startsWith value "97" <;>
          simp [hempty, hlength]
      · simp [hempty, hlength]

theorem passwordValidator_eq_none (value : String) :
    passwordValidator value = none ↔
      6 < length value ∧ hasMatch Char.isUpper value = true ∧ hasMatch Char.isDigit value = true := by
  unfold passwordValidator
  by_cases hempty : value = ""
  · subst hempty
    simp [length, DartStrings.codeUnits]
  · by_cases hlength : length value ≤ 6
    · simp [hempty, hlength]
    · cases hupper : hasMatch Char.isUpper value <;> cases hdigit : hasMatch Char.isDigit value <;>
        simp [hempty, hlength, Nat.lt_of_not_le hlength]

theorem loginPasswordValidator_eq_none (value : String) :
    loginPasswordValidator value = none ↔ 6 < length value := by
  unfold loginPasswordValidator
  by_cases hempty : value = ""
  · subst hempty
    simp [length, DartStrings.codeUnits]
  · by_cases hlength : length value ≤ 6
    · simp [hempty, hlength]
    · simp [hempty, hlength, Nat.lt_of_not_le hlength]

theorem requiredValidator_eq_none (empty value : String) :
    requiredValidator empty value = none ↔ value ≠ "" := by
  unfold requiredValidator
  by_cases hempty : value = "" <;> simp [hempty]

theorem emailValidator_eq_none (isEmail : String → Bool) (value : String) :
    emailValidator isEmail value = none ↔ isEmail value = true := by
  unfold emailValidator
  cases isEmail value <;> simp

theorem ne_empty_of_length {value : String} (h : 6 < length value) : value ≠ "" := by
  rintro rfl
  simp [length, DartStrings.codeUnits] at h

theorem submit_eq_some {isEmail : String → Bool} {f : RegistrationForm} {r : Registration}
    (h : f.submit isEmail = some r) :
    f.validate isEmail = true ∧ ∃ userType, f.userType = some userType ∧
      r = ⟨f.firstname, f.lastname, f.email, f.password, userType, f.phone⟩ := by
  unfold RegistrationForm.submit at h
  split at h
  · cases h
  · rename_i userType htype
    split at h
    · rename_i hvalid
      exact ⟨hvalid, userType, htype, (Option.some.inj h).symm⟩
    · cases h

end Accepted

end AccountForms
