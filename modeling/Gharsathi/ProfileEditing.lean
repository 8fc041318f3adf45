import Gharsathi.RegistrationPolicy

/-!
# Editing a profile

The screen asks for the stored profile when it opens and fills its fields when
the answer comes, whatever has been typed by then. Update uploads the picture
first, if one was picked, and reads the fields after that. It writes all of them
and the image that was loaded, whether or not anything was edited or loaded. The
progress dialog over the form is left out: to type during an upload the user has
to close it with the back button, and the upload goes on.
-/

namespace ProfileEditing

open Authentication DartText DartValues FirestoreCollection Runs
open LocationChange (get_setField)
open RegistrationPolicy (ProfileForm Updates updateFields updatedUserData)

inductive ProfileField where
  | firstName
  | lastName
  | phoneNumber
  deriving DecidableEq

def ProfileField.key : ProfileField → String
  | .firstName => "firstName"
  | .lastName => "lastName"
  | .phoneNumber => "phoneNumber"

/-- Who has set the text of a controller last. -/
inductive Origin where
  | initial
  | loaded
  | entered
  deriving DecidableEq

/-- The screen itself knows only the text; `edited` tells whether its user has
ever changed it. -/
structure Controller where
  text : String
  origin : Origin
  edited : Bool

/-- `image` is the path of the picked file, which stays after an update. -/
structure Screen where
  controllers : ProfileField → Controller
  image : Option String
  profileImageUrl : Option String

def Screen.form (s : Screen) : ProfileForm where
  firstName := (s.controllers .firstName).text
  lastName := (s.controllers .lastName).text
  phoneNumber := (s.controllers .phoneNumber).text
  profileImageUrl := s.profileImageUrl

def Screen.enter (s : Screen) (f : ProfileField) (text : String) : Screen :=
  { s with controllers := Function.update s.controllers f ⟨text, .entered, true⟩ }

/-- The `get` of `_loadUserProfile` and what it has answered. -/
inductive Load (K : Type) where
  | asked
  | answered (userDoc : Option (Map K))
  | ended

inductive Phase where
  | uploading
  | written (uploadedImage : Option String)
  | finished
  | failed

/-- A call of `_updateFunction`, with the screen at the tap. -/
structure Update where
  tapped : Screen
  phase : Phase

structure State (K : Type) where
  auth : Authentication.State K
  screen : Screen
  load : Load K
  updates : List Update

/-- Remote steps come with the failure they meet, if any; `uploadProfile` returns
null when it fails. -/
inductive Action where
  | enter (f : ProfileField) (text : String)
  | pick (image : String)
  | answer (failure : Option Exception)
  | load
  | update (failure : Option Exception)
  | uploaded (i : Nat) (uploadedImage : Option String) (failure : Option Exception)
  | finish (i : Nat)

section Machine
variable {K : Type}

def initState : Screen := ⟨fun _ => ⟨"", .initial, false⟩, none, none⟩

def visit (auth : Authentication.State K) : State K := ⟨auth, initState, .asked, []⟩

/-- The document of the current user. -/
def State.profile (s : State K) : Option (Map K) := s.auth.currentUser.bind s.auth.users.get?

/-- One of the three assignments to a text; a value of another type throws. -/
def loadText (userData : Map K) (f : ProfileField) (s : Screen) : Except Screen Screen :=
  match ((Map.get userData f.key).orElse (.str "")).asString with
  | .error _ => .error s
  | .ok text =>
    let controller : Controller := ⟨text, .loaded, (s.controllers f).edited⟩
    .ok { s with controllers := Function.update s.controllers f controller }

def loadImage (userData : Map K) (s : Screen) : Except Screen Screen :=
  match ((Map.get userData "profileImage").orElse
      (.str "https://via.placeholder.com/150")).asString with
  | .error _ => .error s
  | .ok url => .ok { s with profileImageUrl := some url }

/-- What was assigned before an error stays. -/
def settle : Except Screen Screen → Screen
  | .error s => s
  | .ok s => s

def loadUserProfile (userData : Map K) (s : Screen) : Screen :=
  settle (loadText userData .firstName s >>= loadText userData .lastName >>=
    loadText userData .phoneNumber >>= loadImage userData)

/-- The rest of `_updateFunction` once the image is uploaded: the fields are read
and written in one go. -/
def writeProfile (s : State K) (uploadedImage : Option String) (failure : Option Exception) :
    Authentication.State K × Phase :=
  match s.auth.currentUser with
  | none => (s.auth.show (.text "Failed to update profile."), .failed)
  | some userID =>
    match failure, s.auth.users.get? userID with
    | none, some userDoc =>
      let userDoc := updateFields userDoc (updatedUserData s.screen.form uploadedImage)
      ({ s.auth with users := s.auth.users.set userID userDoc }, .written uploadedImage)
    | _, _ => (s.auth.show (.text "Failed to update profile."), .failed)

def step (s : State K) : Action → Option (State K)
  | .enter f text => some { s with screen := s.screen.enter f text }
  | .pick image => some { s with screen := { s.screen with image := some image } }
  | .answer failure =>
    match s.load with
    | .asked =>
      match failure, s.auth.currentUser with
      | none, some userID => some { s with load := .answered (s.auth.users.get? userID) }
      | _, _ => some { s with load := .ended }
    | _ => none
  | .load =>
    match s.load with
    | .answered none => some { s with load := .ended }
    | .answered (some userData) =>
      some { s with screen := loadUserProfile userData s.screen, load := .ended }
    | _ => none
  | .update failure =>
    match s.screen.image with
    | none =>
      let (auth, phase) := writeProfile s none failure
      some { s with auth := auth, updates := s.updates ++ [⟨s.screen, phase⟩] }
    | some _ => some { s with updates := s.updates ++ [⟨s.screen, .uploading⟩] }
  | .uploaded i uploadedImage failure =>
    match s.updates[i]? with
    | some ⟨tapped, .uploading⟩ =>
      let (auth, phase) := writeProfile s uploadedImage failure
      some { s with auth := auth, updates := s.updates.set i ⟨tapped, phase⟩ }
    | _ => none
  | .finish i =>
    match s.updates[i]? with
    | some ⟨tapped, .written uploadedImage⟩ =>
      let profileImageUrl := uploadedImage.or s.screen.profileImageUrl
      some { s with
        auth := s.auth.show (.text "Profile updated successfully!")
        screen := { s.screen with profileImageUrl := profileImageUrl }
        updates := s.updates.set i ⟨tapped, .finished⟩ }
    | _ => none

end Machine

section Statements
variable {K : Type}

/-- A write that an action is about to make. -/
structure Writing where
  tapped : Screen
  uploadedImage : Option String
  failure : Option Exception

def writing (s : State K) : Action → Option Writing
  | .update failure =>
    match s.screen.image with
    | none => some ⟨s.screen, none, failure⟩
    | some _ => none
  | .uploaded i uploadedImage failure =>
    match s.updates[i]? with
    | some ⟨tapped, .uploading⟩ => some ⟨tapped, uploadedImage, failure⟩
    | _ => none
  | _ => none

/-- The action writes, and the write goes through. -/
def Writes (s : State K) (a : Action) (w : Writing) (userID : String) (userDoc : Map K) : Prop :=
  writing s a = some w ∧ Updates s.auth w.failure userID userDoc

def SameUpToTrim (v w : Value K) : Prop :=
  v = w ∨ ∃ text text', v = .str text ∧ w = .str text' ∧ trim text = trim text'

def IsBlank (v : Value K) : Prop := v = .null ∨ ∃ text, v = .str text ∧ trim text = ""

/-- What an update may make of the value of a text field. -/
structure KeepsText (tapped : Controller) (stored written : Value K) : Prop where
  edited : tapped.edited = true → ∃ text, written = .str text ∧ trim text = trim tapped.text
  unedited : tapped.edited = false → SameUpToTrim stored written
  notBlanked : IsBlank written →
    IsBlank stored ∨ (tapped.edited = true ∧ tapped.origin = .entered)

def KeepsPicture (w : Writing) (stored written : Value K) : Prop :=
  match w.tapped.image with
  | none => written = stored
  | some _ => ∃ url, w.uploadedImage = some url ∧ written = .str url

structure Keeps (w : Writing) (userDoc userDoc' : Map K) : Prop where
  texts : ∀ f : ProfileField,
    KeepsText (w.tapped.controllers f) (Map.get userDoc f.key) (Map.get userDoc' f.key)
  picture : KeepsPicture w (Map.get userDoc "profileImage") (Map.get userDoc' "profileImage")
  others : ∀ key, (∀ f : ProfileField, key ≠ f.key) → key ≠ "profileImage" →
    Map.get userDoc' key = Map.get userDoc key

/-- An update that goes through changes what was edited, and nothing else changes
any users document. -/
def ChangesEdits (s : State K) (a : Action) : Prop :=
  ∀ t, step s a = some t →
    (∀ w userID userDoc, Writes s a w userID userDoc →
      ∃ userDoc', t.auth.users.get? userID = some userDoc' ∧ Keeps w userDoc userDoc') ∧
    ∀ userID, (∀ w userDoc, ¬ Writes s a w userID userDoc) →
      t.auth.users.get? userID = s.auth.users.get? userID

/-- Every step of a visit to the screen changes only what was edited. -/
def ChangesOnlyEdits (auth : Authentication.State K) (acts : List Action) : Prop :=
  ∀ past a rest s, acts = past ++ a :: rest → run step (visit auth) past = some s →
    ChangesEdits s a

/-- The condition on a text that is written: one that was edited has not changed
since the tap, but for white space, and where a load has emptied it after the
edit, nothing was stored. One that was not edited has been loaded, from a value
that is not null, or else shows what is stored by chance. -/
def AllowedText (tapped now : Controller) (stored : Value K) : Prop :=
  if tapped.edited then
    trim now.text = trim tapped.text ∧
      (tapped.origin ≠ .entered → trim tapped.text = "" → IsBlank stored)
  else if now.edited = false ∧ now.origin = .loaded then stored ≠ .null
  else ∃ text, stored = .str text ∧ trim text = trim now.text

/-- A picture that was picked is uploaded; without one, an image was loaded just
if one is stored. -/
def AllowedPicture (w : Writing) (profileImageUrl : Option String) (stored : Value K) : Prop :=
  match w.tapped.image with
  | none => profileImageUrl = none ↔ stored = .null
  | some _ => w.uploadedImage ≠ none

def Allowed (s : State K) (a : Action) : Prop :=
  ∀ w userID userDoc, Writes s a w userID userDoc →
    (∀ f : ProfileField, AllowedText (w.tapped.controllers f) (s.screen.controllers f)
      (Map.get userDoc f.key)) ∧
    AllowedPicture w s.screen.profileImageUrl (Map.get userDoc "profileImage")

end Statements

section Texts
variable {K : Type}

theorem SameUpToTrim.trans {u v w : Value K} (huv : SameUpToTrim u v) (hvw : SameUpToTrim v w) :
    SameUpToTrim u w := by
  rcases huv with rfl | ⟨a, b, rfl, rfl, hab⟩
  · exact hvw
  · rcases hvw with rfl | ⟨b', c, hb, rfl, hbc⟩
    · exact Or.inr ⟨a, b, rfl, rfl, hab⟩
    · cases hb
      exact Or.inr ⟨a, c, rfl, rfl, hab.trans hbc⟩

theorem sameUpToTrim_str {v : Value K} {text : String} :
    SameUpToTrim v (.str text) ↔ ∃ text', v = .str text' ∧ trim text' = trim text := by
  constructor
  · rintro (rfl | ⟨a, b, rfl, hb, hab⟩)
    · exact ⟨text, rfl, rfl⟩
    · cases hb
      exact ⟨a, rfl, hab⟩
  · rintro ⟨a, rfl, ha⟩
    exact Or.inr ⟨a, text, rfl, rfl, ha⟩

theorem isBlank_str {text : String} : IsBlank (.str text : Value K) ↔ trim text = "" := by
  constructor
  · rintro (h | ⟨text', h, hblank⟩)
    · cases h
    · cases h
      exact hblank
  · exact fun h => Or.inr ⟨text, rfl, h⟩

theorem SameUpToTrim.isBlank {v w : Value K} (h : SameUpToTrim v w) (hw : IsBlank w) :
    IsBlank v := by
  rcases h with rfl | ⟨a, b, rfl, rfl, hab⟩
  · exact hw
  · rw [isBlank_str] at hw ⊢
    rw [hab, hw]

/-- A text that a load may have made of a value. -/
def Reads (v : Value K) (text : String) : Prop :=
  (∃ text', v = .str text' ∧ trim text' = trim text) ∨ (v = .null ∧ text = "")

theorem Reads.congr {v w : Value K} {text : String} (h : Reads v text) (hvw : SameUpToTrim v w) :
    Reads w text := by
  rcases h with ⟨a, rfl, ha⟩ | ⟨rfl, htext⟩
  · rcases hvw with rfl | ⟨a', b, ha', rfl, hab⟩
    · exact Or.inl ⟨a, rfl, ha⟩
    · cases ha'
      exact Or.inl ⟨b, rfl, hab.symm.trans ha⟩
  · rcases hvw with rfl | ⟨a', b, ha', _⟩
    · exact Or.inr ⟨rfl, htext⟩
    · cases ha'

/-- The cast of `v ?? d` to a text. -/
theorem asString_orElse {v : Value K} {d text : String} :
    (v.orElse (.str d)).asString = .ok text ↔ v = .str text ∨ (v = .null ∧ text = d) := by
  cases v with
  | null => simp [eq_comm]
  | str s => simp
  | _ => simp [Value.orElse, Value.asString]

/-- One field of an update is kept exactly under the condition. -/
theorem keepsText_iff {tapped now : Controller} {stored : Value K}
    (reads : now.edited = false → now.origin = .loaded → Reads stored now.text) :
    KeepsText tapped stored (.str (trim now.text)) ↔ AllowedText tapped now stored := by
  unfold AllowedText
  cases hedited : tapped.edited with
  | true =>
    rw [if_pos rfl]
    constructor
    · intro h
      obtain ⟨text, htext, htrim⟩ := h.edited hedited
      cases htext
      rw [trim_trim] at htrim
      refine ⟨htrim, fun horigin hblank => ?_⟩
      refine (h.notBlanked (isBlank_str.mpr ?_)).resolve_right (fun h => horigin h.2)
      rw [trim_trim, htrim, hblank]
    · rintro ⟨htrim, hstored⟩
      refine ⟨fun _ => ⟨_, rfl, ?_⟩, ?_, ?_⟩
      · rw [trim_trim, htrim]
      · rw [hedited]
        nofun
      · intro hblank
        rw [isBlank_str, trim_trim, htrim] at hblank
        by_cases horigin : tapped.origin = .entered
        · exact Or.inr ⟨hedited, horigin⟩
        · exact Or.inl (hstored horigin hblank)
  | false =>
    rw [if_neg Bool.false_ne_true]
    have hsame : KeepsText tapped stored (.str (trim now.text)) ↔
        SameUpToTrim stored (.str (trim now.text)) := by
      refine ⟨fun h => h.unedited hedited, fun h => ⟨?_, fun _ => h, ?_⟩⟩
      · rw [hedited]
        nofun
      · exact fun hblank => Or.inl (h.isBlank hblank)
    rw [hsame, sameUpToTrim_str, trim_trim]
    split
    · rename_i hloaded
      constructor
      · rintro ⟨text, rfl, _⟩
        nofun
      · intro hstored
        exact (reads hloaded.1 hloaded.2).resolve_right (fun h => hstored h.1)
    · rfl

end Texts

section Loading
variable {K : Type} {userData : Map K}

/-- What a load may have done to the screen `s`, so far or in the end. -/
structure Fills (userData : Map K) (s s' : Screen) : Prop where
  image : s'.image = s.image
  edited : ∀ f, (s'.controllers f).edited = (s.controllers f).edited
  texts : ∀ f : ProfileField, s'.controllers f = s.controllers f ∨
    ((s'.controllers f).origin = .loaded ∧ Reads (Map.get userData f.key) (s'.controllers f).text)
  url : s'.profileImageUrl = s.profileImageUrl ∨
    ∃ url, s'.profileImageUrl = some url ∧
      (Map.get userData "profileImage" = .str url ∨ Map.get userData "profileImage" = .null)

theorem Fills.refl (s : Screen) : Fills userData s s :=
  ⟨rfl, fun _ => rfl, fun _ => Or.inl rfl, Or.inl rfl⟩

theorem loadText_fills {s s' : Screen} (f : ProfileField) (fills : Fills userData s s') :
    Fills userData s (settle (loadText userData f s')) := by
  unfold loadText
  split
  · exact fills
  · rename_i text htext
    refine ⟨fills.image, fun g => ?_, fun g => ?_, fills.url⟩
    · dsimp only [settle]
      by_cases hg : g = f
      · subst hg
        rw [Function.update_self]
        exact fills.edited g
      · rw [Function.update_of_ne hg]
        exact fills.edited g
    · dsimp only [settle]
      by_cases hg : g = f
      · subst hg
        rw [Function.update_self]
        rcases asString_orElse.mp htext with hstr | ⟨hnull, htext⟩
        · exact Or.inr ⟨rfl, Or.inl ⟨text, hstr, rfl⟩⟩
        · exact Or.inr ⟨rfl, Or.inr ⟨hnull, htext⟩⟩
      · rw [Function.update_of_ne hg]
        exact fills.texts g

theorem loadImage_fills {s s' : Screen} (fills : Fills userData s s') :
    Fills userData s (settle (loadImage userData s')) := by
  unfold loadImage
  split
  · exact fills
  · rename_i url hurl
    refine ⟨fills.image, fills.edited, fills.texts, Or.inr ⟨url, rfl, ?_⟩⟩
    exact (asString_orElse.mp hurl).imp_right And.left

theorem settle_bind {P : Screen → Prop} {x : Except Screen Screen}
    {next : Screen → Except Screen Screen} (hx : P (settle x))
    (hnext : ∀ s, P s → P (settle (next s))) : P (settle (x >>= next)) := by
  cases x with
  | error s => exact hx
  | ok s => exact hnext s hx

theorem loadUserProfile_fills (userData : Map K) (s : Screen) :
    Fills userData s (loadUserProfile userData s) := by
  have hfirst : Fills userData s (settle (loadText userData .firstName s)) :=
    loadText_fills .firstName (.refl s)
  have hlast := settle_bind hfirst (fun _ => loadText_fills .lastName)
  have hphone := settle_bind hlast (fun _ => loadText_fills .phoneNumber)
  exact settle_bind hphone (fun _ => loadImage_fills)

end Loading

section Steps
variable {K : Type}

inductive Did (s : State K) : Action → State K → Prop where
  | entered (f : ProfileField) (text : String) :
      Did s (.enter f text) { s with screen := s.screen.enter f text }
  | picked (image : String) :
      Did s (.pick image) { s with screen := { s.screen with image := some image } }
  | answered {failure : Option Exception} :
      Did s (.answer failure) { s with load := .answered s.profile }
  | ended {a : Action} (hnone : writing s a = none) : Did s a { s with load := .ended }
  | loaded {userData : Map K} (hload : s.load = .answered (some userData)) :
      Did s .load { s with screen := loadUserProfile userData s.screen, load := .ended }
  | uploading {failure : Option Exception} (himage : s.screen.image ≠ none) :
      Did s (.update failure) { s with updates := s.updates ++ [⟨s.screen, .uploading⟩] }
  | failed {a : Action} {t : State K} (hnot : ∀ w userID userDoc, ¬ Writes s a w userID userDoc)
      (hcurrent : t.auth.currentUser = s.auth.currentUser) (husers : t.auth.users = s.auth.users)
      (hscreen : t.screen = s.screen) (hload : t.load = s.load)
      (hupdates : ∀ u ∈ t.updates, u ∈ s.updates ∨ u.phase = .failed) : Did s a t
  | wrote {a : Action} {t : State K} {w : Writing} {userID : String} {userDoc : Map K}
      (hwrites : Writes s a w userID userDoc)
      (hcurrent : t.auth.currentUser = s.auth.currentUser)
      (husers : t.auth.users = s.auth.users.set userID
        (updateFields userDoc (updatedUserData s.screen.form w.uploadedImage)))
      (hscreen : t.screen = s.screen) (hload : t.load = s.load)
      (hupdates : ∀ u ∈ t.updates, u ∈ s.updates ∨ u = ⟨w.tapped, .written w.uploadedImage⟩) :
      Did s a t
  | finished {i : Nat} {tapped : Screen} {uploadedImage : Option String} {t : State K}
      (hi : s.updates[i]? = some ⟨tapped, .written uploadedImage⟩)
      (ht : t = { s with
        auth := s.auth.show (.text "Profile updated successfully!")
        screen := { s.screen with
          profileImageUrl := uploadedImage.or s.screen.profileImageUrl }
        updates := s.updates.set i ⟨tapped, .finished⟩ }) :
      Did s (.finish i) t

theorem writeProfile_cases (s : State K) (uploadedImage : Option String)
    (failure : Option Exception) :
    ((∀ userID userDoc, ¬ Updates s.auth failure userID userDoc) ∧
      writeProfile s uploadedImage failure =
        (s.auth.show (.text "Failed to update profile."), .failed)) ∨
    ∃ userID userDoc, Updates s.auth failure userID userDoc ∧
      writeProfile s uploadedImage failure =
        ({ s.auth with
            users := s.auth.users.set userID
              (updateFields userDoc (updatedUserData s.screen.form uploadedImage)) },
          .written uploadedImage) := by
  unfold writeProfile
  cases hcurrent : s.auth.currentUser with
  | none =>
    refine Or.inl ⟨?_, rfl⟩
    rintro userID userDoc ⟨h, _⟩
    cases hcurrent.symm.trans h
  | some userID =>
    cases failure with
    | some e =>
      refine Or.inl ⟨?_, rfl⟩
      rintro userID userDoc ⟨_, h, _⟩
      cases h
    | none =>
      dsimp only
      cases hdoc : s.auth.users.get? userID with
      | none =>
        refine Or.inl ⟨?_, rfl⟩
        rintro userID' userDoc ⟨h, _, hstored⟩
        cases hcurrent.symm.trans h
        cases hdoc.symm.trans hstored
      | some userDoc => exact Or.inr ⟨userID, userDoc, ⟨hcurrent, rfl, hdoc⟩, rfl⟩

/-- Its steps together are the update in one go. -/
theorem updateFunction_eq (s : State K) (uploadedImage : Option String)
    (failure : Option Exception) :
    RegistrationPolicy.updateFunction s.auth s.screen.form uploadedImage failure =
      match writeProfile s uploadedImage failure with
      | (auth, .written _) => auth.show (.text "Profile updated successfully!")
      | (auth, _) => auth := by
  unfold RegistrationPolicy.updateFunction writeProfile
  cases hcurrent : s.auth.currentUser with
  | none => rfl
  | some userID =>
    cases failure with
    | some e => rfl
    | none =>
      dsimp only
      cases s.auth.users.get? userID with
      | none => rfl
      | some userDoc => simp only [hcurrent]

theorem writeProfile_did {s : State K} {a : Action} {w : Writing} {updates : List Update}
    (hw : writing s a = some w)
    (hupdates : ∀ u ∈ updates, u ∈ s.updates ∨
      u = ⟨w.tapped, (writeProfile s w.uploadedImage w.failure).2⟩) :
    Did s a { s with
      auth := (writeProfile s w.uploadedImage w.failure).1
      updates := updates } := by
  rcases writeProfile_cases s w.uploadedImage w.failure with ⟨hnot, heq⟩ | ⟨userID, userDoc, h, heq⟩
  · rw [heq] at hupdates ⊢
    refine .failed ?_ rfl rfl rfl rfl
      (fun u hu => (hupdates u hu).imp_right (congrArg Update.phase))
    rintro w' userID userDoc ⟨hw', hgoes⟩
    cases hw.symm.trans hw'
    exact hnot userID userDoc hgoes
  · rw [heq] at hupdates ⊢
    exact .wrote ⟨hw, h⟩ rfl rfl rfl rfl hupdates

theorem step_did {s t : State K} {a : Action} (h : step s a = some t) : Did s a t := by
  cases a with
  | enter f text =>
    cases h
    exact .entered f text
  | pick image =>
    cases h
    exact .picked image
  | answer failure =>
    simp only [step] at h
    split at h
    · split at h
      · rename_i userID hcurrent
        cases h
        have hprofile : s.auth.users.get? userID = s.profile := by
          rw [State.profile, hcurrent]
          rfl
        rw [hprofile]
        exact .answered
      · cases h
        exact .ended rfl
    · cases h
  | load =>
    simp only [step] at h
    split at h
    · cases h
      exact .ended rfl
    · rename_i userData hload
      cases h
      exact .loaded hload
    · cases h
  | update failure =>
    simp only [step] at h
    split at h
    · rename_i himage
      cases h
      exact writeProfile_did (w := ⟨s.screen, none, failure⟩) (by rw [writing, himage])
        (fun u hu => (List.mem_append.mp hu).imp_right List.mem_singleton.mp)
    · rename_i image himage
      cases h
      exact .uploading (by rw [himage]; nofun)
  | uploaded i uploadedImage failure =>
    simp only [step] at h
    split at h
    · rename_i tapped hi
      cases h
      exact writeProfile_did (w := ⟨tapped, uploadedImage, failure⟩) (by rw [writing, hi])
        (fun u hu => List.mem_or_eq_of_mem_set hu)
    · cases h
  | finish i =>
    simp only [step] at h
    split at h
    · rename_i tapped uploadedImage hi
      cases h
      exact .finished hi rfl
    · cases h

theorem Writes.unique {s : State K} {a : Action} {w w' : Writing} {userID userID' : String}
    {userDoc userDoc' : Map K} (h : Writes s a w userID userDoc)
    (h' : Writes s a w' userID' userDoc') : w = w' ∧ userID = userID' ∧ userDoc = userDoc' := by
  obtain ⟨hw, hcurrent, _, hstored⟩ := h
  obtain ⟨hw', hcurrent', _, hstored'⟩ := h'
  cases hw.symm.trans hw'
  cases hcurrent.symm.trans hcurrent'
  cases hstored.symm.trans hstored'
  exact ⟨rfl, rfl, rfl⟩

/-- The users documents stay, or one of them is updated from the fields. -/
theorem step_users {s t : State K} {a : Action} (h : step s a = some t) :
    (t.auth.users = s.auth.users ∧ ∀ w userID userDoc, ¬ Writes s a w userID userDoc) ∨
    ∃ w userID userDoc, Writes s a w userID userDoc ∧ t.auth.users = s.auth.users.set userID
      (updateFields userDoc (updatedUserData s.screen.form w.uploadedImage)) := by
  have hquiet : ∀ {users : Collection String (Map K)}, writing s a = none → users = s.auth.users →
      (users = s.auth.users ∧ ∀ w userID userDoc, ¬ Writes s a w userID userDoc) := by
    intro users hnone husers
    refine ⟨husers, ?_⟩
    rintro w userID userDoc ⟨hw, _⟩
    cases hnone.symm.trans hw
  cases step_did h with
  | entered f text => exact Or.inl (hquiet rfl rfl)
  | picked image => exact Or.inl (hquiet rfl rfl)
  | answered => exact Or.inl (hquiet rfl rfl)
  | ended hnone => exact Or.inl (hquiet hnone rfl)
  | loaded hload => exact Or.inl (hquiet rfl rfl)
  | uploading himage =>
    obtain ⟨image, himage⟩ := Option.ne_none_iff_exists'.mp himage
    exact Or.inl (hquiet (by rw [writing, himage]) rfl)
  | failed hnot _ husers => exact Or.inl ⟨husers, hnot⟩
  | wrote hwrites _ husers => exact Or.inr ⟨_, _, _, hwrites, husers⟩
  | finished hi ht => exact Or.inl (hquiet rfl (by rw [ht]; rfl))

theorem step_of_writing {s : State K} {a : Action} {w : Writing} (h : writing s a = some w) :
    ∃ t, step s a = some t := by
  cases a with
  | update failure =>
    simp only [step]
    split
    · exact ⟨_, rfl⟩
    · exact ⟨_, rfl⟩
  | uploaded i uploadedImage failure =>
    simp only [writing] at h
    split at h
    · rename_i tapped hi
      simp only [step, hi]
      exact ⟨_, rfl⟩
    · cases h
  | _ => cases h

end Steps

section Invariant
variable {K : Type}

/-- The screen has not changed but by edits. -/
structure Screen.Later (s s' : Screen) : Prop where
  edited : ∀ f, (s.controllers f).edited = true → (s'.controllers f).edited = true
  image : s.image ≠ none → s'.image ≠ none

/-- What the screen shows of a stored profile and nobody has edited. -/
structure Shows (userDoc : Map K) (s : Screen) : Prop where
  texts : ∀ f, (s.controllers f).edited = false → (s.controllers f).origin = .loaded →
    Reads (Map.get userDoc f.key) (s.controllers f).text
  url : s.image = none → ∀ url, s.profileImageUrl = some url →
    Map.get userDoc "profileImage" = .str url ∨ Map.get userDoc "profileImage" = .null

/-- Two documents are the same where nothing was edited. -/
structure Agrees (userDoc userDoc' : Map K) (s : Screen) : Prop where
  texts : ∀ f, (s.controllers f).edited = false →
    SameUpToTrim (Map.get userDoc f.key) (Map.get userDoc' f.key)
  picture : s.image = none → Map.get userDoc "profileImage" = Map.get userDoc' "profileImage"

def UpdateOk (s : Screen) (u : Update) : Prop :=
  match u.phase with
  | .uploading => u.tapped.Later s ∧ u.tapped.image ≠ none
  | .written (some _) => s.image ≠ none
  | _ => True

structure Ok (s : State K) : Prop where
  shown : ∀ userDoc, s.profile = some userDoc → Shows userDoc s.screen
  answered : ∀ userData userDoc, s.load = .answered (some userData) →
    s.profile = some userDoc → Agrees userData userDoc s.screen
  updates : ∀ u ∈ s.updates, UpdateOk s.screen u

theorem Screen.Later.refl (s : Screen) : s.Later s := ⟨fun _ h => h, fun h => h⟩

theorem Screen.Later.trans {s t u : Screen} (hst : s.Later t) (htu : t.Later u) : s.Later u :=
  ⟨fun f h => htu.edited f (hst.edited f h), fun h => htu.image (hst.image h)⟩

theorem Screen.Later.unedited {s t : Screen} (h : s.Later t) {f : ProfileField}
    (hf : (t.controllers f).edited = false) : (s.controllers f).edited = false := by
  rw [← Bool.not_eq_true] at hf ⊢
  exact fun hs => hf (h.edited f hs)

theorem Screen.Later.unpicked {s t : Screen} (h : s.Later t) (ht : t.image = none) :
    s.image = none := by
  by_contra hs
  exact h.image hs ht

theorem UpdateOk.later {s t : Screen} {u : Update} (ok : UpdateOk s u) (h : s.Later t) :
    UpdateOk t u := by
  unfold UpdateOk at ok ⊢
  split at ok
  · exact ⟨ok.1.trans h, ok.2⟩
  · exact h.image ok
  · trivial

theorem Fills.later {userData : Map K} {s t : Screen} (fills : Fills userData s t) : s.Later t := by
  refine ⟨fun f h => ?_, fun h => ?_⟩
  · rw [fills.edited f]
    exact h
  · rw [fills.image]
    exact h

theorem Agrees.later {userDoc userDoc' : Map K} {s t : Screen} (agrees : Agrees userDoc userDoc' s)
    (h : s.Later t) : Agrees userDoc userDoc' t :=
  ⟨fun f hf => agrees.texts f (h.unedited hf), fun ht => agrees.picture (h.unpicked ht)⟩

theorem Agrees.refl (userDoc : Map K) (s : Screen) : Agrees userDoc userDoc s :=
  ⟨fun _ _ => Or.inl rfl, fun _ => rfl⟩

theorem Agrees.trans {d e g : Map K} {s : Screen} (hde : Agrees d e s) (heg : Agrees e g s) :
    Agrees d g s :=
  ⟨fun f hf => (hde.texts f hf).trans (heg.texts f hf),
    fun h => (hde.picture h).trans (heg.picture h)⟩

theorem Shows.agrees {userDoc userDoc' : Map K} {s : Screen} (shows : Shows userDoc s)
    (agrees : Agrees userDoc userDoc' s) : Shows userDoc' s := by
  refine ⟨fun f hf hloaded => ?_, fun himage url hurl => ?_⟩
  · exact (shows.texts f hf hloaded).congr (agrees.texts f hf)
  · rw [← agrees.picture himage]
    exact shows.url himage url hurl

/-- A load shows what was answered, which is still what is stored. -/
theorem Shows.fills {userData userDoc : Map K} {s t : Screen} (shows : Shows userDoc s)
    (agrees : Agrees userData userDoc s) (fills : Fills userData s t) : Shows userDoc t := by
  refine ⟨fun f hf hloaded => ?_, fun himage url hurl => ?_⟩
  · have hs := fills.later.unedited hf
    rcases fills.texts f with hsame | ⟨_, reads⟩
    · rw [hsame] at hloaded ⊢
      exact shows.texts f hs hloaded
    · exact reads.congr (agrees.texts f hs)
  · have hs := fills.later.unpicked himage
    rw [← agrees.picture hs]
    rcases fills.url with hsame | ⟨url', hurl', hstored⟩
    · rw [agrees.picture hs]
      exact shows.url hs url (hsame ▸ hurl)
    · cases hurl.symm.trans hurl'
      exact hstored

theorem Keeps.agrees {w : Writing} {userDoc userDoc' : Map K} {s : Screen}
    (keeps : Keeps w userDoc userDoc') (later : w.tapped.Later s) : Agrees userDoc userDoc' s := by
  refine ⟨fun f hf => (keeps.texts f).unedited (later.unedited hf), fun himage => ?_⟩
  have hpicture := keeps.picture
  rw [KeepsPicture, later.unpicked himage] at hpicture
  exact hpicture.symm

theorem visit_ok (auth : Authentication.State K) : Ok (visit auth) :=
  ⟨fun _ _ => ⟨fun _ _ => nofun, fun _ _ => nofun⟩, fun _ _ => nofun, nofun⟩

/-- An update writes a screen that is still shown, but for later edits, and no
picture unless one was picked. -/
theorem Ok.writing_later {s : State K} {a : Action} {w : Writing} (ok : Ok s)
    (hw : writing s a = some w) :
    w.tapped.Later s.screen ∧
      (w.tapped.image = none → s.screen.image = none ∧ w.uploadedImage = none) := by
  cases a with
  | update failure =>
    simp only [writing] at hw
    split at hw
    · rename_i himage
      cases hw
      exact ⟨.refl _, fun _ => ⟨himage, rfl⟩⟩
    · cases hw
  | uploaded i uploadedImage failure =>
    simp only [writing] at hw
    split at hw
    · rename_i tapped hi
      cases hw
      obtain ⟨later, himage⟩ := ok.updates _ (List.mem_of_getElem? hi)
      exact ⟨later, fun h => absurd h himage⟩
    · cases hw
  | _ => cases hw

/-- Changes of the screen that leave the store alone. -/
theorem Ok.screen {s t : State K} (ok : Ok s) (hprofile : t.profile = s.profile)
    (later : s.screen.Later t.screen)
    (shows : ∀ userDoc, s.profile = some userDoc → Shows userDoc s.screen → Shows userDoc t.screen)
    (hload : t.load = s.load ∨ t.load = .ended)
    (hupdates : ∀ u ∈ t.updates, u ∈ s.updates ∨ UpdateOk t.screen u) : Ok t := by
  refine ⟨?_, ?_, fun u hu => ?_⟩
  · rw [hprofile]
    exact fun userDoc h => shows userDoc h (ok.shown userDoc h)
  · intro userData userDoc hanswered h
    rw [hprofile] at h
    rcases hload with hsame | hended
    · exact (ok.answered userData userDoc (hsame ▸ hanswered) h).later later
    · cases hended.symm.trans hanswered
  · rcases hupdates u hu with hold | hnew
    · exact (ok.updates u hold).later later
    · exact hnew

theorem wrote_ok {s t : State K} {w : Writing} {userDoc userDoc' : Map K} (ok : Ok s)
    (later : w.tapped.Later s.screen) (unpicked : w.tapped.image = none → w.uploadedImage = none)
    (hs : s.profile = some userDoc) (ht : t.profile = some userDoc')
    (keeps : Keeps w userDoc userDoc') (hscreen : t.screen = s.screen) (hload : t.load = s.load)
    (hupdates : ∀ u ∈ t.updates, u ∈ s.updates ∨ u = ⟨w.tapped, .written w.uploadedImage⟩) :
    Ok t := by
  have agrees := keeps.agrees later
  refine ⟨?_, ?_, fun u hu => ?_⟩
  · intro stored h
    cases ht.symm.trans h
    rw [hscreen]
    exact (ok.shown userDoc hs).agrees agrees
  · intro userData stored hanswered h
    cases ht.symm.trans h
    rw [hscreen]
    exact (ok.answered userData userDoc (hload ▸ hanswered) hs).trans agrees
  · rw [hscreen]
    rcases hupdates u hu with hold | rfl
    · exact ok.updates u hold
    · cases himage : w.uploadedImage with
      | none => trivial
      | some url =>
        refine later.image (fun h => ?_)
        cases himage.symm.trans (unpicked h)

theorem step_ok {s t : State K} {a : Action} (ok : Ok s) (changes : ChangesEdits s a)
    (h : step s a = some t) : Ok t := by
  have hchanges := changes t h
  cases step_did h with
  | entered f text =>
    have hcontroller : ∀ g, ((s.screen.enter f text).controllers g).edited = false →
        (s.screen.enter f text).controllers g = s.screen.controllers g := by
      intro g hg
      refine Function.update_of_ne (fun heq => ?_) _ _
      subst heq
      simp [Screen.enter] at hg
    have later : s.screen.Later (s.screen.enter f text) := by
      refine ⟨fun g hg => ?_, fun h => h⟩
      by_contra hnot
      rw [Bool.not_eq_true] at hnot
      rw [hcontroller g hnot, hg] at hnot
      cases hnot
    refine ok.screen rfl later (fun userDoc _ shows => ⟨fun g hg hloaded => ?_, shows.url⟩)
      (Or.inl rfl) (fun u hu => Or.inl hu)
    have hsame := hcontroller g hg
    dsimp only at hg hloaded ⊢
    rw [hsame] at hg hloaded ⊢
    exact shows.texts g hg hloaded
  | picked image =>
    exact ok.screen rfl ⟨fun _ h => h, fun _ => nofun⟩
      (fun userDoc _ shows => ⟨shows.texts, nofun⟩) (Or.inl rfl) (fun u hu => Or.inl hu)
  | answered =>
    refine ⟨ok.shown, fun userData userDoc hanswered hprofile => ?_, ok.updates⟩
    have heq : s.profile = some userData := Load.answered.inj hanswered
    cases heq.symm.trans hprofile
    exact .refl _ _
  | ended hnone =>
    exact ok.screen rfl (.refl _) (fun _ _ h => h) (Or.inr rfl) (fun u hu => Or.inl hu)
  | @loaded userData hload =>
    have fills := loadUserProfile_fills userData s.screen
    refine ok.screen rfl fills.later (fun userDoc hprofile shows => ?_) (Or.inr rfl)
      (fun u hu => Or.inl hu)
    exact shows.fills (ok.answered userData userDoc hload hprofile) fills
  | uploading himage =>
    refine ok.screen rfl (.refl _) (fun _ _ h => h) (Or.inl rfl) (fun u hu => ?_)
    refine (List.mem_append.mp hu).imp_right (fun hnew => ?_)
    rw [List.mem_singleton.mp hnew]
    exact ⟨.refl _, himage⟩
  | failed hnot hcurrent husers hscreen hload hupdates =>
    have hprofile : t.profile = s.profile := by
      rw [State.profile, State.profile, hcurrent, husers]
    refine ok.screen hprofile ?_ ?_ (Or.inl hload) (fun u hu => ?_)
    · rw [hscreen]
      exact .refl _
    · rw [hscreen]
      exact fun _ _ h => h
    · refine (hupdates u hu).imp_right (fun hphase => ?_)
      rw [UpdateOk, hphase]
      trivial
  | @wrote _ _ w userID userDoc hwrites hcurrent husers hscreen hload hupdates =>
    obtain ⟨userDoc', hstored', keeps⟩ := hchanges.1 w userID userDoc hwrites
    obtain ⟨hw, huser, _, hstored⟩ := hwrites
    obtain ⟨later, unpicked⟩ := ok.writing_later hw
    have hs : s.profile = some userDoc := by
      rw [State.profile, huser]
      exact hstored
    have ht : t.profile = some userDoc' := by
      rw [State.profile, hcurrent, huser]
      exact hstored'
    exact wrote_ok ok later (fun h => (unpicked h).2) hs ht keeps hscreen hload hupdates
  | @finished i tapped uploadedImage _ hi ht =>
    subst ht
    have himage := ok.updates _ (List.mem_of_getElem? hi)
    refine ok.screen rfl ⟨fun _ h => h, fun h => h⟩
      (fun userDoc _ shows => ⟨shows.texts, fun hnone url hurl => ?_⟩) (Or.inl rfl) (fun u hu => ?_)
    · cases uploadedImage with
      | none => exact shows.url hnone url hurl
      | some _ => exact absurd hnone himage
    · rcases List.mem_or_eq_of_mem_set hu with hold | rfl
      · exact Or.inl hold
      · exact Or.inr trivial

end Invariant

section Exact
variable {K : Type}

theorem get_updated_text (userDoc : Map K) (s : Screen) (uploadedImage : Option String)
    (f : ProfileField) :
    Map.get (updateFields userDoc (updatedUserData s.form uploadedImage)) f.key =
      .str (trim (s.controllers f).text) := by
  cases f with
  | firstName => simp [updateFields, updatedUserData, get_setField, ProfileField.key, Screen.form]
  | lastName => simp [updateFields, updatedUserData, get_setField, ProfileField.key, Screen.form]
  | phoneNumber =>
    simp [updateFields, updatedUserData, get_setField, ProfileField.key, Screen.form]

theorem get_updated_image (userDoc : Map K) (s : Screen) (uploadedImage : Option String) :
    Map.get (updateFields userDoc (updatedUserData s.form uploadedImage)) "profileImage" =
      .ofStringOrNull (uploadedImage.or s.profileImageUrl) := by
  simp [updateFields, updatedUserData, get_setField, Screen.form]

theorem get_updated_other (userDoc : Map K) (s : Screen) (uploadedImage : Option String)
    {key : String} (htexts : ∀ f : ProfileField, key ≠ f.key) (himage : key ≠ "profileImage") :
    Map.get (updateFields userDoc (updatedUserData s.form uploadedImage)) key =
      Map.get userDoc key := by
  have hfirst : "firstName" ≠ key := Ne.symm (htexts .firstName)
  have hlast : "lastName" ≠ key := Ne.symm (htexts .lastName)
  have hphone : "phoneNumber" ≠ key := Ne.symm (htexts .phoneNumber)
  simp [updateFields, updatedUserData, get_setField, hfirst, hlast, hphone, Ne.symm himage]

/-- The picture is kept exactly under the condition. -/
theorem keepsPicture_iff {w : Writing} {profileImageUrl : Option String} {stored : Value K}
    (unpicked : w.tapped.image = none → w.uploadedImage = none)
    (shows : w.tapped.image = none → ∀ url, profileImageUrl = some url →
      stored = .str url ∨ stored = .null) :
    KeepsPicture w stored (.ofStringOrNull (w.uploadedImage.or profileImageUrl)) ↔
      AllowedPicture w profileImageUrl stored := by
  unfold KeepsPicture AllowedPicture
  cases hpicked : w.tapped.image with
  | none =>
    rw [unpicked hpicked, Option.none_or]
    cases hurl : profileImageUrl with
    | none => simp [Value.ofStringOrNull, eq_comm]
    | some url =>
      rcases shows hpicked url hurl with rfl | rfl
      · simp [Value.ofStringOrNull]
      · simp [Value.ofStringOrNull]
  | some image =>
    cases huploaded : w.uploadedImage with
    | none => simp
    | some url => simp [Value.ofStringOrNull]

theorem keeps_iff {s : State K} {a : Action} {w : Writing} {userID : String} {userDoc : Map K}
    (ok : Ok s) (h : Writes s a w userID userDoc) :
    Keeps w userDoc (updateFields userDoc (updatedUserData s.screen.form w.uploadedImage)) ↔
      (∀ f : ProfileField, AllowedText (w.tapped.controllers f) (s.screen.controllers f)
        (Map.get userDoc f.key)) ∧
      AllowedPicture w s.screen.profileImageUrl (Map.get userDoc "profileImage") := by
  obtain ⟨hw, hcurrent, _, hstored⟩ := h
  obtain ⟨later, unpicked⟩ := ok.writing_later hw
  have hprofile : s.profile = some userDoc := by
    rw [State.profile, hcurrent]
    exact hstored
  have shows := ok.shown userDoc hprofile
  have htext : ∀ f : ProfileField, KeepsText (w.tapped.controllers f) (Map.get userDoc f.key)
      (.str (trim (s.screen.controllers f).text)) ↔
      AllowedText (w.tapped.controllers f) (s.screen.controllers f) (Map.get userDoc f.key) :=
    fun f => keepsText_iff (shows.texts f)
  have hpicture : KeepsPicture w (Map.get userDoc "profileImage")
      (.ofStringOrNull (w.uploadedImage.or s.screen.profileImageUrl)) ↔
      AllowedPicture w s.screen.profileImageUrl (Map.get userDoc "profileImage") :=
    keepsPicture_iff (fun h => (unpicked h).2) (fun h => shows.url (unpicked h).1)
  constructor
  · intro keeps
    refine ⟨fun f => (htext f).mp ?_, ?_⟩
    · rw [← get_updated_text userDoc s.screen w.uploadedImage f]
      exact keeps.texts f
    · refine hpicture.mp ?_
      rw [← get_updated_image userDoc s.screen w.uploadedImage]
      exact keeps.picture
  · rintro ⟨texts, picture⟩
    refine ⟨fun f => ?_, ?_, fun key => get_updated_other userDoc s.screen w.uploadedImage⟩
    · rw [get_updated_text]
      exact (htext f).mpr (texts f)
    · rw [get_updated_image]
      exact hpicture.mpr picture

/-- One step changes only what was edited exactly under the condition. -/
theorem changesEdits_iff {s : State K} {a : Action} (ok : Ok s) :
    ChangesEdits s a ↔ Allowed s a := by
  constructor
  · intro h w userID userDoc hwrites
    obtain ⟨t, ht⟩ := step_of_writing hwrites.1
    rcases step_users ht with ⟨_, hnot⟩ | ⟨w', userID', before, hwrites', husers⟩
    · exact absurd hwrites (hnot w userID userDoc)
    · obtain ⟨rfl, rfl, rfl⟩ := hwrites.unique hwrites'
      obtain ⟨userDoc', hstored, keeps⟩ := (h t ht).1 w userID userDoc hwrites
      rw [husers, Collection.get?_set_self] at hstored
      cases hstored
      exact (keeps_iff ok hwrites).mp keeps
  · intro h t ht
    rcases step_users ht with ⟨husers, hnot⟩ | ⟨w', userID', before, hwrites', husers⟩
    · refine ⟨fun w userID userDoc hwrites => absurd hwrites (hnot w userID userDoc), ?_⟩
      intro userID _
      rw [husers]
    · refine ⟨fun w userID userDoc hwrites => ?_, fun userID hnot => ?_⟩
      · obtain ⟨rfl, rfl, rfl⟩ := hwrites.unique hwrites'
        refine ⟨_, ?_, (keeps_iff ok hwrites).mpr (h w userID userDoc hwrites)⟩
        rw [husers, Collection.get?_set_self]
      · rw [husers]
        refine s.auth.users.get?_set_other _ (fun heq => ?_)
        subst heq
        exact hnot w' before hwrites'

end Exact

/-- A visit to the screen changes only what was edited if and only if each write
of it meets the condition. -/
theorem changesOnlyEdits_iff {K : Type} (auth : Authentication.State K) (acts : List Action) :
    ChangesOnlyEdits auth acts ↔ Along step Allowed (visit auth) acts :=
  along_iff.symm.trans (along_congr Ok (fun _ _ _ => step_ok) (fun _ _ => changesEdits_iff)
    (visit_ok auth) acts)

/-- Where everything is kept so far, the next action meets the condition. -/
theorem allowed_of_changesOnlyEdits {K : Type} {auth : Authentication.State K}
    (past : List Action) {a : Action} (rest : List Action) {s : State K}
    (h : ChangesOnlyEdits auth (past ++ a :: rest))
    (hrun : run step (visit auth) past = some s) : Allowed s a := by
  have along := along_append (along_iff.mpr h)
  have ok := run_invariant_along Ok ChangesEdits (fun _ _ _ => step_ok) hrun along (visit_ok auth)
  exact (changesEdits_iff ok).mp (h past a rest s rfl hrun)

/-- Ramesh Karki has registered. -/
def registered : Authentication.State ℚ :=
  (signUp initial ⟨"Ramesh", "Karki", "ramesh@example.com", "Secret123", .tenant, "9812345678"⟩ "u1"
    (fun _ => none)).1

/-- Update is tapped before the profile has come. -/
def tappedEarly : List Action := [.update none]

/-- The user types on while the picture is uploaded. -/
def typedLate : List Action :=
  [.answer none, .load, .enter .firstName "Ram", .pick "photo.png", .update none,
    .enter .firstName "R", .uploaded 0 (some "https://example.com/photo.png") none]

theorem not_changesOnlyEdits :
    ¬ ChangesOnlyEdits registered tappedEarly ∧ ¬ ChangesOnlyEdits registered typedLate := by
  constructor
  · intro h
    have allowed := allowed_of_changesOnlyEdits [] [] h rfl
    have htext := (allowed ⟨_, _, _⟩ "u1" _ ⟨rfl, rfl, rfl, rfl⟩).1 .firstName
    obtain ⟨text, hstored, htrim⟩ : ∃ text, (.str "Ramesh" : Value ℚ) = .str text ∧
        trim text = trim "" := htext
    cases hstored
    exact absurd htrim (by decide)
  · intro h
    have allowed := allowed_of_changesOnlyEdits (typedLate.take 6) [] h rfl
    have htext := (allowed ⟨_, _, _⟩ "u1" _ ⟨rfl, rfl, rfl, rfl⟩).1 .firstName
    have hsame : trim "R" = trim "Ram" := htext.1
    exact absurd hsame (by decide)

end ProfileEditing
