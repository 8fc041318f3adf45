import Gharsathi.PreferenceScreen
import Gharsathi.Runs

/-!
# Saving preferences step by step

`_savePreferencesToFirestore` builds the preferences from the screen, awaits
`savePreferences`, which prints an error of its `set` and returns, and then
shows that they were saved. An exception while they are built is caught
nowhere. Saves may overlap with each other and with further edits.
-/

namespace PreferenceSaving

open DartStrings DartValues FirestoreCollection Models PreferenceServices PreferenceScreen

inductive Phase where
  | setting
  | settled (committed : Bool)
  | finished (committed : Bool)
  deriving DecidableEq

structure Save (K : Type) where
  user : User
  preferences : Preferences K
  phase : Phase

structure State (K : Type) where
  currentUser : Option User
  screen : ScreenState K
  userPreference : Collection String (Map K)
  saves : List (Save K)
  shown : List String

inductive Action (K : Type) where
  | edit (screen : ScreenState K)
  | save
  | commit (i : Nat)
  | setFails (i : Nat)
  | finish (i : Nat)

section Machine
variable {K : Type}

def initial (currentUser : Option User) (screen : ScreenState K)
    (userPreference : Collection String (Map K)) : State K :=
  ⟨currentUser, screen, userPreference, [], []⟩

def State.move (s : State K) (i : Nat) (save : Save K) (phase : Phase) : State K :=
  { s with saves := s.saves.set i { save with phase := phase } }

def step (T : DoubleText K) (s : State K) : Action K → Option (State K)
  | .edit screen => some { s with screen := screen }
  | .save =>
    match s.currentUser with
    | none => some { s with shown := s.shown ++ ["User not logged in!"] }
    | some user =>
      match preferencesOnScreen T user s.screen with
      | .error _ => some s
      | .ok preferences => some { s with saves := s.saves ++ [⟨user, preferences, .setting⟩] }
  | .commit i =>
    match s.saves[i]? with
    | some ⟨user, preferences, .setting⟩ =>
      some { s.move i ⟨user, preferences, .setting⟩ (.settled true) with
        userPreference := savePreferences s.userPreference user preferences }
    | _ => none
  | .setFails i =>
    match s.saves[i]? with
    | some ⟨user, preferences, .setting⟩ =>
      some (s.move i ⟨user, preferences, .setting⟩ (.settled false))
    | _ => none
  | .finish i =>
    match s.saves[i]? with
    | some ⟨user, preferences, .settled committed⟩ =>
      some { s.move i ⟨user, preferences, .settled committed⟩ (.finished committed) with
        shown := s.shown ++ ["Preferences saved successfully!"] }
    | _ => none

/-- What a step can do. -/
inductive Did (s : State K) : Action K → State K → Prop where
  | edited (screen : ScreenState K) : Did s (.edit screen) { s with screen := screen }
  | notLoggedIn : Did s .save { s with shown := s.shown ++ ["User not logged in!"] }
  | threw : Did s .save s
  | started (user : User) (preferences : Preferences K) :
      Did s .save { s with saves := s.saves ++ [⟨user, preferences, .setting⟩] }
  | committed {i : Nat} {save : Save K} (hsave : s.saves[i]? = some save)
      (hphase : save.phase = .setting) :
      Did s (.commit i) { s.move i save (.settled true) with
        userPreference := savePreferences s.userPreference save.user save.preferences }
  | setFailed {i : Nat} {save : Save K} (hsave : s.saves[i]? = some save)
      (hphase : save.phase = .setting) : Did s (.setFails i) (s.move i save (.settled false))
  | finished {i : Nat} {save : Save K} {committed : Bool} (hsave : s.saves[i]? = some save)
      (hphase : save.phase = .settled committed) :
      Did s (.finish i) { s.move i save (.finished committed) with
        shown := s.shown ++ ["Preferences saved successfully!"] }

theorem step_did {T : DoubleText K} {s t : State K} {a : Action K} (h : step T s a = some t) :
    Did s a t := by
  cases a with
  | edit screen =>
    cases h
    exact .edited screen
  | save =>
    simp only [step] at h
    split at h
    · cases h
      exact .notLoggedIn
    · split at h
      · cases h
        exact .threw
      · cases h
        exact .started _ _
  | commit i =>
    simp only [step] at h
    split at h
    · rename_i user preferences hsave
      cases h
      exact .committed hsave rfl
    · cases h
  | setFails i =>
    simp only [step] at h
    split at h
    · rename_i user preferences hsave
      cases h
      exact .setFailed hsave rfl
    · cases h
  | finish i =>
    simp only [step] at h
    split at h
    · rename_i user preferences committed hsave
      cases h
      exact .finished hsave rfl
    · cases h

end Machine

end PreferenceSaving
