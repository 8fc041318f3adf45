import Gharsathi.AccountForms
import Gharsathi.Runs

/-!
# One password on three forms

The registration form stores a password as it was typed and the login form
compares it as it is typed, while the form that changes it trims the old text
and the new one after it has checked them as they were. A forgotten password is
set anew on a page that checks nothing but six characters. The forms agree on
every password exactly when no text with white space at its ends is ever made a
password, and no reset sets one that the forms would refuse.
-/

namespace Passwords

open Authentication AccountForms DartText FirestoreCollection Runs

/-- `typed` is the text its owner last made the password of an account. -/
structure State (K : Type) where
  auth : Authentication.State K
  typed : String → String

inductive Action where
  | register (form : RegistrationForm) (uid : String) (fails : SignUpStep → Option Exception)
  | login (email password : String) (fails : SignInStep → Option Exception)
  | changePassword (form : ChangePasswordForm) (fails : ChangePasswordStep → Option Exception)
  | resetPassword (emailText newPassword : String) (failure : Option Exception)
  | start (failure : Option Exception)

section Statements
variable {K : Type} (isEmail : String → Bool)

def initial : State K := ⟨Authentication.initial, fun _ => ""⟩

def step (s : State K) : Action → Option (State K)
  | .register form uid fails =>
    match form.submit isEmail with
    | none => some s
    | some r =>
      if s.auth.accounts.contains uid then none
      else
        let auth := (signUp s.auth r uid fails).1
        some ⟨auth, if auth.accounts.contains uid then Function.update s.typed uid form.password
          else s.typed⟩
  | .login email password fails =>
    if loginValidate isEmail email password then
      some { s with auth := signIn s.auth email password fails }
    else some s
  | .changePassword form fails =>
    if form.validate then
      let changed := AccountForms.changePassword s.auth form fails
      some ⟨changed.1,
        match changed.2, s.auth.currentUser with
        | true, some uid => Function.update s.typed uid form.newPassword
        | _, _ => s.typed⟩
    else some s
  | .resetPassword emailText newPassword failure =>
    let reset := passwordReset s.auth emailText newPassword failure
    some ⟨reset.1,
      match reset.2 with
      | none => s.typed
      | some uid => Function.update s.typed uid newPassword⟩
  | .start failure => some { s with auth := checkUserSession s.auth failure }

/-- The text passes the validators of the login form and signs in to the account. -/
def LogsIn (s : State K) (account : Doc String Account) (text : String) : Prop :=
  loginValidate isEmail account.data.email text = true ∧
    signInWithEmailAndPassword s.auth account.data.email text none = .ok account.id

/-- The text is the old password to the form that changes it. -/
def Reauthenticates (s : State K) (uid text : String) : Prop :=
  oldPasswordValidator text = none ∧
    ∃ account, reauthenticateWithCredential s.auth uid (trim text) none = .ok account

/-- What was typed when the password of the account was set works on the other
forms, and the password that is held keeps the rule and can be entered. -/
structure Agrees (s : State K) (account : Doc String Account) : Prop where
  logsIn : LogsIn isEmail s account (s.typed account.id)
  reauthenticates : Reauthenticates s account.id (s.typed account.id)
  rule : passwordValidator account.data.password = none
  enterable : LogsIn isEmail s account account.data.password

/-- The property of a run. -/
def PasswordsAgree (K : Type) (acts : List Action) : Prop :=
  ∀ past rest (s : State K), acts = past ++ rest → run (step isEmail) initial past = some s →
    ∀ account ∈ s.auth.accounts.docs, Agrees isEmail s account

/-- A text that is made a password has no white space at its ends, and keeps the
rule of the forms where none of them has checked it. -/
structure SetsUsable (s : State K) (a : Action) : Prop where
  registered : ∀ form uid fails r, a = .register form uid fails →
    s.auth.accounts.contains uid = false → form.submit isEmail = some r →
    Creates s.auth r fails → trim form.password = form.password
  changed : ∀ form fails uid account, a = .changePassword form fails → form.validate = true →
    Changes s.auth form fails uid account → trim form.newPassword = form.newPassword
  reset : ∀ emailText newPassword failure account,
    a = .resetPassword emailText newPassword failure →
    Resets s.auth emailText newPassword failure account →
    trim newPassword = newPassword ∧ passwordValidator newPassword = none

end Statements

section Kept
variable {K : Type} {isEmail : String → Bool}

/-- An account whose password was typed without white space at its ends. -/
structure AccountOk (isEmail : String → Bool) (typed : String → String)
    (account : Doc String Account) : Prop where
  email : isEmail account.data.email = true
  typed : typed account.id = account.data.password
  trimmed : trim account.data.password = account.data.password
  rule : passwordValidator account.data.password = none

structure Kept (isEmail : String → Bool) (s : State K) : Prop where
  emails : ∀ account ∈ s.auth.accounts.docs, ∀ other ∈ s.auth.accounts.docs,
    other.data.email = account.data.email → other = account
  accounts : ∀ account ∈ s.auth.accounts.docs, AccountOk isEmail s.typed account

theorem kept_same {s t : State K} (hs : Kept isEmail s)
    (haccounts : t.auth.accounts = s.auth.accounts)
    (htyped : t.typed = s.typed) : Kept isEmail t := by
  constructor
  · rw [haccounts]
    exact hs.emails
  · rw [haccounts, htyped]
    exact hs.accounts

theorem accountOk_other {typed : String → String} {account : Doc String Account} {uid text : String}
    (hne : account.id ≠ uid) (ok : AccountOk isEmail typed account) :
    AccountOk isEmail (Function.update typed uid text) account := by
  refine ⟨ok.email, ?_, ok.trimmed, ok.rule⟩
  rw [Function.update_of_ne hne]
  exact ok.typed

/-- What the registration form lets through. -/
structure Submitted (isEmail : String → Bool) (form : RegistrationForm) (r : Registration) :
    Prop where
  email : isEmail r.email = true
  password : r.password = form.password
  rule : passwordValidator form.password = none

theorem submitted {form : RegistrationForm} {r : Registration}
    (h : form.submit isEmail = some r) : Submitted isEmail form r := by
  obtain ⟨hvalid, userType, _, rfl⟩ := submit_eq_some h
  simp only [RegistrationForm.validate, Bool.and_eq_true, Option.isNone_iff_eq_none] at hvalid
  obtain ⟨⟨⟨⟨_, _⟩, hemail⟩, _⟩, hpassword⟩ := hvalid
  exact ⟨(emailValidator_eq_none _ _).mp hemail, rfl, hpassword⟩

theorem changeForm_rule {form : ChangePasswordForm} (h : form.validate = true) :
    passwordValidator form.newPassword = none := by
  simp only [ChangePasswordForm.validate, Bool.and_eq_true, Option.isNone_iff_eq_none] at h
  exact h.1.2

theorem contains_added {before after : Collection String Account} {r : Registration} {uid : String}
    (added : AccountAdded before after r uid) : after.contains uid = true := by
  obtain ⟨displayName, hmem⟩ := added
  exact (after.contains_iff uid).mpr ⟨_, (hmem _).mpr (Or.inl rfl), rfl⟩

/-- What a registration does: nothing to the accounts, or one account more. -/
theorem step_register {s t : State K} {form : RegistrationForm} {uid : String}
    {fails : SignUpStep → Option Exception}
    (h : step isEmail s (.register form uid fails) = some t) :
    (t.auth.accounts = s.auth.accounts ∧ t.typed = s.typed) ∨
    ∃ r, form.submit isEmail = some r ∧ s.auth.accounts.contains uid = false ∧
      Creates s.auth r fails ∧ AccountAdded s.auth.accounts t.auth.accounts r uid ∧
      t.typed = Function.update s.typed uid form.password := by
  simp only [step] at h
  split at h
  · cases h
    exact Or.inl ⟨rfl, rfl⟩
  · rename_i r hsubmit
    split at h
    · cases h
    · rename_i fresh
      rw [Bool.not_eq_true] at fresh
      cases h
      have hcases := signUp_cases s.auth r uid fails
      generalize signUp s.auth r uid fails = result at hcases
      cases hcases with
      | refused _ haccounts =>
        refine Or.inl ⟨haccounts, ?_⟩
        simp [haccounts, fresh]
      | halfMade hcreate _ added =>
        exact Or.inr ⟨r, hsubmit, fresh, hcreate, added, by simp [contains_added added]⟩
      | registered hcreate _ added =>
        exact Or.inr ⟨r, hsubmit, fresh, hcreate, added, by simp [contains_added added]⟩

/-- What a change of password does: nothing to the accounts, or a new password. -/
theorem step_changePassword {s t : State K} {form : ChangePasswordForm}
    {fails : ChangePasswordStep → Option Exception}
    (h : step isEmail s (.changePassword form fails) = some t) :
    (t.auth.accounts = s.auth.accounts ∧ t.typed = s.typed) ∨
    ∃ uid account, form.validate = true ∧ Changes s.auth form fails uid account ∧
      t.auth.accounts = s.auth.accounts.set uid { account with password := trim form.newPassword } ∧
      t.typed = Function.update s.typed uid form.newPassword := by
  simp only [step] at h
  split at h
  · rename_i hvalid
    cases h
    have hcases := changePassword_cases s.auth form fails
    generalize AccountForms.changePassword s.auth form fails = result at hcases
    cases hcases with
    | failed _ haccounts => exact Or.inl ⟨haccounts, rfl⟩
    | @changed _ uid account changes haccounts =>
      exact Or.inr ⟨uid, account, hvalid, changes, haccounts, by simp only [changes.user]⟩
  · cases h
    exact Or.inl ⟨rfl, rfl⟩

/-- What a reset does: nothing to the accounts, or a new password. -/
theorem step_resetPassword {s t : State K} {emailText newPassword : String}
    {failure : Option Exception}
    (h : step isEmail s (.resetPassword emailText newPassword failure) = some t) :
    (t.auth.accounts = s.auth.accounts ∧ t.typed = s.typed) ∨
    ∃ account, Resets s.auth emailText newPassword failure account ∧
      t.auth.accounts =
        s.auth.accounts.set account.id { account.data with password := newPassword } ∧
      t.typed = Function.update s.typed account.id newPassword := by
  simp only [step] at h
  rcases passwordReset_cases s.auth emailText newPassword failure with
    ⟨hreset, _⟩ | ⟨account, resets, hreset⟩
  · rw [hreset] at h
    cases h
    exact Or.inl ⟨rfl, rfl⟩
  · rw [hreset] at h
    cases h
    exact Or.inr ⟨account, resets, rfl, rfl⟩

theorem kept_registered {s t : State K} {form : RegistrationForm} {r : Registration}
    {uid : String} (hs : Kept isEmail s) (hform : Submitted isEmail form r)
    (htrim : trim form.password = form.password) (fresh : emailInUse s.auth r.email = false)
    (added : AccountAdded s.auth.accounts t.auth.accounts r uid)
    (htyped : t.typed = Function.update s.typed uid form.password) : Kept isEmail t := by
  constructor
  · exact emails_added hs.emails fresh added
  · obtain ⟨displayName, hmem⟩ := added
    intro account haccount
    rw [htyped]
    rcases (hmem account).mp haccount with rfl | ⟨hold, hne⟩
    · refine ⟨hform.email, ?_, ?_, ?_⟩
      · rw [Function.update_self, hform.password]
      · rw [hform.password, htrim]
      · rw [hform.password]
        exact hform.rule
    · exact accountOk_other hne (hs.accounts account hold)

theorem kept_changed {s t : State K} {account : Account} {uid text : String} (hs : Kept isEmail s)
    (hstored : s.auth.accounts.get? uid = some account) (htrim : trim text = text)
    (hrule : passwordValidator text = none)
    (haccounts : t.auth.accounts = s.auth.accounts.set uid { account with password := trim text })
    (htyped : t.typed = Function.update s.typed uid text) : Kept isEmail t := by
  have hmem := (s.auth.accounts.get?_eq_some_iff _ _).mp hstored
  have hold := hs.accounts _ hmem
  -- the changed account keeps its uid and its email
  have hold_of : ∀ x ∈ t.auth.accounts.docs, ∃ y ∈ s.auth.accounts.docs,
      y.id = x.id ∧ y.data.email = x.data.email := by
    intro x hx
    rw [haccounts] at hx
    rcases (Collection.mem_set _).mp hx with rfl | ⟨hx, _⟩
    · exact ⟨_, hmem, rfl, rfl⟩
    · exact ⟨x, hx, rfl, rfl⟩
  constructor
  · intro x hx y hy hemail
    obtain ⟨x', hx', hxid, hxemail⟩ := hold_of x hx
    obtain ⟨y', hy', hyid, hyemail⟩ := hold_of y hy
    have hsame := hs.emails x' hx' y' hy' (by rw [hyemail, hxemail, hemail])
    exact t.auth.accounts.eq_of_id_eq hy hx (by rw [← hyid, ← hxid, hsame])
  · intro x hx
    rw [haccounts] at hx
    rw [htyped]
    rcases (Collection.mem_set _).mp hx with rfl | ⟨hx, hne⟩
    · refine ⟨hold.email, ?_, ?_, ?_⟩
      · rw [Function.update_self, htrim]
      · rw [htrim, htrim]
      · rw [htrim]
        exact hrule
    · exact accountOk_other hne (hs.accounts x hx)

theorem step_kept {s t : State K} {a : Action} (hs : Kept isEmail s)
    (usable : SetsUsable isEmail s a) (h : step isEmail s a = some t) : Kept isEmail t := by
  cases a with
  | register form uid fails =>
    rcases step_register h with ⟨haccounts, htyped⟩ | ⟨r, hsubmit, fresh, hcreate, added, htyped⟩
    · exact kept_same hs haccounts htyped
    · have htrim := usable.registered form uid fails r rfl fresh hsubmit hcreate
      exact kept_registered hs (submitted hsubmit) htrim hcreate.2 added htyped
  | login email password fails =>
    simp only [step] at h
    split at h
    · cases h
      exact kept_same hs (signIn_accounts s.auth email password fails).1 rfl
    · cases h
      exact hs
  | changePassword form fails =>
    rcases step_changePassword h with ⟨haccounts, htyped⟩ |
      ⟨uid, account, hvalid, changes, haccounts, htyped⟩
    · exact kept_same hs haccounts htyped
    · have htrim := usable.changed form fails uid account rfl hvalid changes
      exact kept_changed hs changes.stored htrim (changeForm_rule hvalid) haccounts htyped
  | resetPassword emailText newPassword failure =>
    rcases step_resetPassword h with ⟨haccounts, htyped⟩ | ⟨account, resets, haccounts, htyped⟩
    · exact kept_same hs haccounts htyped
    · obtain ⟨htrim, hrule⟩ := usable.reset emailText newPassword failure account rfl resets
      have hstored := (s.auth.accounts.get?_eq_some_iff account.id account.data).mpr
        (List.mem_of_find?_eq_some resets.found)
      rw [← htrim] at haccounts
      exact kept_changed hs hstored htrim hrule haccounts htyped
  | start failure =>
    cases h
    exact kept_same hs (checkUserSession_accounts s.auth failure).1 rfl

theorem logsIn_password {s : State K} (hs : Kept isEmail s) {account : Doc String Account}
    (hmem : account ∈ s.auth.accounts.docs) : LogsIn isEmail s account account.data.password := by
  have ok := hs.accounts account hmem
  constructor
  · simp only [loginValidate, Bool.and_eq_true, Option.isNone_iff_eq_none]
    exact ⟨(emailValidator_eq_none _ _).mpr ok.email,
      (loginPasswordValidator_eq_none _).mpr ((passwordValidator_eq_none _).mp ok.rule).1⟩
  · exact signInWithEmailAndPassword_of_mem hmem (hs.emails account hmem)

theorem kept_agrees {s : State K} (hs : Kept isEmail s) {account : Doc String Account}
    (hmem : account ∈ s.auth.accounts.docs) : Agrees isEmail s account := by
  have ok := hs.accounts account hmem
  have hlong := ((passwordValidator_eq_none _).mp ok.rule).1
  refine ⟨?_, ⟨?_, account.data, ?_⟩, ok.rule, logsIn_password hs hmem⟩
  · rw [ok.typed]
    exact logsIn_password hs hmem
  · rw [ok.typed]
    exact (requiredValidator_eq_none _ _).mpr (ne_empty_of_length hlong)
  · have hget := (s.auth.accounts.get?_eq_some_iff account.id account.data).mpr hmem
    simp only [reauthenticateWithCredential, hget, ok.typed, ok.trimmed, if_true]

/-- A sign-in finds an account with these credentials. -/
theorem password_of_signIn {s : Authentication.State K} {email password uid : String}
    (h : signInWithEmailAndPassword s email password none = .ok uid) :
    ∃ account ∈ s.accounts.docs, account.id = uid ∧ account.data.password = password := by
  simp only [signInWithEmailAndPassword] at h
  split at h
  · cases h
  · rename_i account hfind
    cases h
    have hfound := List.find?_some hfind
    simp only [decide_eq_true_eq] at hfound
    exact ⟨account, List.mem_of_find?_eq_some hfind, rfl, hfound.2⟩

/-- A registration that creates its account stores the password as typed. -/
theorem register_sets {s : State K} {form : RegistrationForm} {uid : String}
    {fails : SignUpStep → Option Exception} {r : Registration}
    (fresh : s.auth.accounts.contains uid = false) (hsubmit : form.submit isEmail = some r)
    (hcreate : Creates s.auth r fails) :
    ∃ t displayName, step isEmail s (.register form uid fails) = some t ∧
      ⟨uid, r.email, form.password, displayName⟩ ∈ t.auth.accounts.docs ∧
      t.typed uid = form.password := by
  have added : AccountAdded s.auth.accounts (signUp s.auth r uid fails).1.accounts r uid := by
    have hcases := signUp_cases s.auth r uid fails
    generalize signUp s.auth r uid fails = result at hcases
    cases hcases with
    | refused hcreate' => exact absurd hcreate hcreate'
    | halfMade _ _ added => exact added
    | registered _ _ added => exact added
  have hcontains := contains_added added
  obtain ⟨displayName, hmem⟩ := added
  refine ⟨_, displayName, by simp only [step, hsubmit, fresh, Bool.false_eq_true, if_false]; rfl,
    (hmem _).mpr (Or.inl ?_), ?_⟩
  · rw [(submitted hsubmit).password]
  · simp only [hcontains, if_true, Function.update_self]

/-- A password that is changed is stored trimmed. -/
theorem changePassword_sets (isEmail : String → Bool) {s : State K} {form : ChangePasswordForm}
    {fails : ChangePasswordStep → Option Exception} {uid : String} {account : Account}
    (hvalid : form.validate = true) (changes : Changes s.auth form fails uid account) :
    ∃ t, step isEmail s (.changePassword form fails) = some t ∧
      ⟨uid, { account with password := trim form.newPassword }⟩ ∈ t.auth.accounts.docs ∧
      t.typed uid = form.newPassword := by
  have hstep : ∃ t, step isEmail s (.changePassword form fails) = some t := by
    simp [step, hvalid]
  obtain ⟨t, hstep⟩ := hstep
  refine ⟨t, hstep, ?_⟩
  simp only [step, hvalid, if_true, Option.some.injEq] at hstep
  subst hstep
  have hcases := changePassword_cases s.auth form fails
  generalize AccountForms.changePassword s.auth form fails = result at hcases
  cases hcases with
  | failed hnot => exact absurd changes (hnot uid account)
  | changed changes' haccounts =>
    obtain rfl := Option.some.inj (changes.user.symm.trans changes'.user)
    obtain rfl := Option.some.inj (changes.stored.symm.trans changes'.stored)
    refine ⟨?_, ?_⟩
    · dsimp only
      rw [haccounts]
      exact (Collection.mem_set _).mpr (Or.inl rfl)
    · simp only [changes.user, Function.update_self]

/-- A password that is reset is stored as typed. -/
theorem resetPassword_sets (isEmail : String → Bool) {s : State K}
    {emailText newPassword : String} {failure : Option Exception} {account : Doc String Account}
    (resets : Resets s.auth emailText newPassword failure account) :
    ∃ t, step isEmail s (.resetPassword emailText newPassword failure) = some t ∧
      ⟨account.id, { account.data with password := newPassword }⟩ ∈ t.auth.accounts.docs ∧
      t.typed account.id = newPassword := by
  rcases passwordReset_cases s.auth emailText newPassword failure with
    ⟨_, hnot⟩ | ⟨account', resets', hreset⟩
  · exact absurd resets (hnot account)
  · obtain rfl := Option.some.inj (resets.found.symm.trans resets'.found)
    refine ⟨_, by simp only [step, hreset]; rfl, ?_, ?_⟩
    · exact (Collection.mem_set _).mpr (Or.inl rfl)
    · exact Function.update_self _ _ _

/-- If typing a text again works everywhere, it has no white space at its ends. -/
theorem trimmed_of_agrees {s : State K} {uid text password : String} {account : Account}
    (hmem : ⟨uid, account⟩ ∈ s.auth.accounts.docs) (hpassword : account.password = password)
    (htyped : s.typed uid = text) (agrees : Agrees isEmail s ⟨uid, account⟩) :
    password = text ∧ trim text = password := by
  obtain ⟨_, hsign⟩ := agrees.logsIn
  obtain ⟨_, found, hreauth⟩ := agrees.reauthenticates
  constructor
  · obtain ⟨other, hother, hid, hsame⟩ := password_of_signIn hsign
    have heq := s.auth.accounts.eq_of_id_eq hother hmem hid
    rw [heq] at hsame
    exact hpassword.symm.trans (hsame.trans htyped)
  · obtain ⟨_, hget, hsame⟩ := reauthenticate_ok hreauth
    have hstored := (s.auth.accounts.get?_eq_some_iff _ _).mpr hmem
    obtain rfl := Option.some.inj (hget.symm.trans hstored)
    rw [← htyped, ← hpassword]
    exact hsame.symm

end Kept

/-- The forms agree on every password of a run if and only if no text with white
space at its ends is made a password in it, and every reset keeps their rule. -/
theorem passwordsAgree_iff (K : Type) (isEmail : String → Bool) (acts : List Action) :
    PasswordsAgree isEmail K acts ↔
      Along (step isEmail) (SetsUsable isEmail) (initial : State K) acts := by
  constructor
  · intro h
    rw [along_iff]
    rintro past a rest s rfl hrun
    have hreach : ∀ t, step isEmail s a = some t →
        ∀ account ∈ t.auth.accounts.docs, Agrees isEmail t account := by
      intro t hstep
      exact h (past ++ [a]) rest t (by simp) (run_snoc.mpr ⟨s, hrun, hstep⟩)
    constructor
    · rintro form uid fails r rfl fresh hsubmit hcreate
      obtain ⟨t, displayName, hstep, hmem, htyped⟩ := register_sets fresh hsubmit hcreate
      exact (trimmed_of_agrees hmem rfl htyped (hreach t hstep _ hmem)).2
    · rintro form fails uid account rfl hvalid changes
      obtain ⟨t, hstep, hmem, htyped⟩ := changePassword_sets isEmail hvalid changes
      exact (trimmed_of_agrees hmem rfl htyped (hreach t hstep _ hmem)).1
    · rintro emailText newPassword failure account rfl resets
      obtain ⟨t, hstep, hmem, htyped⟩ := resetPassword_sets isEmail resets
      have hagrees := hreach t hstep _ hmem
      exact ⟨(trimmed_of_agrees hmem rfl htyped hagrees).2, hagrees.rule⟩
  · rintro h past rest s rfl hrun account hmem
    have hkept : Kept isEmail s := run_invariant_along (Kept isEmail) (SetsUsable isEmail)
      (fun _ _ _ hs usable hstep => step_kept hs usable hstep) hrun (along_append h)
      ⟨nofun, nofun⟩
    exact kept_agrees hkept hmem

def signedUp (password : String) : Action :=
  .register ⟨"Ramesh", "Karki", "ramesh@example.com", "9812345678", password, some .tenant⟩ "u1"
    (fun _ => none)

/-- The password has a blank at its end: the login form takes it, the form that
changes it does not. -/
def blankAtTheEnd : List Action := [signedUp "Secret12 "]

/-- The new password is seven characters as typed and six as stored. -/
def blankAtTheFront : List Action :=
  [signedUp "Secret12", .changePassword ⟨"Secret12", " Abcd12", " Abcd12"⟩ (fun _ => none)]

/-- The password was forgotten and set anew. -/
def shortReset : List Action :=
  [signedUp "Secret12", .resetPassword "ramesh@example.com" "abcdef" none]

/-- The run ends with a password that the login form refuses. -/
theorem not_passwordsAgree {acts : List Action} (password : String)
    (refused : passwordValidator password ≠ none)
    (held : ∃ s, run (step (K := ℚ) (fun _ => true)) initial acts = some s ∧
      ∃ account ∈ s.auth.accounts.docs, account.data.password = password) :
    ¬ PasswordsAgree (fun _ => true) ℚ acts := by
  intro h
  obtain ⟨s, hrun, account, hmem, hpassword⟩ := held
  have hrule := (h acts [] s (List.append_nil _).symm hrun account hmem).rule
  rw [hpassword] at hrule
  exact refused hrule

theorem passwords_disagree :
    ¬ PasswordsAgree (fun _ => true) ℚ blankAtTheEnd ∧
    ¬ PasswordsAgree (fun _ => true) ℚ blankAtTheFront ∧
    ¬ PasswordsAgree (fun _ => true) ℚ shortReset := by
  refine ⟨?_, ?_, ?_⟩
  · intro h
    obtain ⟨s, hrun, account, hmem, hpassword, htyped⟩ := exists_of_check
      (step (K := ℚ) (fun _ => true)) initial blankAtTheEnd
      (fun s => ∃ account ∈ s.auth.accounts.docs, account.data.password = "Secret12 " ∧
        s.typed account.id = "Secret12 ") (by decide)
    have hagrees := h blankAtTheEnd [] s (List.append_nil _).symm hrun account hmem
    have htrim := (trimmed_of_agrees hmem hpassword htyped hagrees).2
    exact absurd htrim (by decide)
  · exact not_passwordsAgree "Abcd12" (by decide) (exists_of_check _ _ _ _ (by decide))
  · exact not_passwordsAgree "abcdef" (by decide) (exists_of_check _ _ _ _ (by decide))

end Passwords
