import Gharsathi.PostingScreen
import Gharsathi.PreferenceScreen
import Gharsathi.SharedStore

/-!
# Editing preferences on many devices

Each device may open the preference screen for its user. What was stored is read
in the background and replaces whatever has been entered when it arrives, a
picked location included; the longitude is read under a wrong key, so that it
comes back as zero. Saves are built from the screen at the tap and committed
later, while the user goes on, opens the screen again or uses another device.
-/

namespace PreferenceEditing

open DartDouble DartStrings DartValues FirestoreCollection Models PreferenceServices
open PreferenceScreen Runs
open PostingScreen (Pick)
open SharedStore (Guarantees System)

inductive Edit (K : Type) where
  | distance (text : String)
  | price (text : String)
  | propertyType (newValue : String)
  | amenity (i : Fin amenitiesOptions.length) (selected : Bool)
  | picked (pick : Pick K)

/-- `edits`, what each user has entered, is kept beside the program's state. -/
structure Store (K : Type) where
  userPreference : Collection String (Map K)
  edits : List (String × Edit K)

inductive Load (K : Type) where
  | idle
  | reading
  | loaded (preferences : Option (Preferences K))

/-- The screen; `picked` is the location picked on it that no load has replaced. -/
structure Open (K : Type) where
  fields : ScreenState K
  picked : Option (Pick K)

/-- A save that is under way, with what was picked at the tap. -/
structure Save (K : Type) where
  user : User
  preferences : Preferences K
  picked : Option (Pick K)
  settled : Bool

structure Device (K : Type) where
  currentUser : Option User
  screen : Option (Open K)
  load : Load K
  saves : List (Save K)

inductive Action (K : Type) where
  | session (user : Option User)
  | openScreen
  | read
  | readFails
  | apply
  | edit (e : Edit K)
  | save
  | commit (i : Nat)
  | setFails (i : Nat)

section Machine
variable {K : Type}

def emptyStore : Store K := ⟨Collection.empty, []⟩

def newDevice : Device K := ⟨none, none, .idle, []⟩

def enter (fields : ScreenState K) : Edit K → ScreenState K
  | .distance text => { fields with distanceText := text }
  | .price text => { fields with priceText := text }
  | .propertyType newValue => { fields with dropdownPropertyValue := newValue }
  | .amenity i selected =>
    { fields with isSelected := Function.update fields.isSelected i selected }
  | .picked pick =>
    { fields with
      address := pick.address
      latitude := some (.fin pick.latitude)
      longitude := some (.fin pick.longitude) }

def Edit.pick? : Edit K → Option (Pick K)
  | .picked pick => some pick
  | _ => none

def Open.enter (screen : Open K) (e : Edit K) : Open K :=
  ⟨PreferenceEditing.enter screen.fields e, e.pick?.or screen.picked⟩

/-- A commit that goes through or fails. -/
def Device.settle (device : Device K) (i : Nat) (save : Save K) : Device K :=
  { device with saves := device.saves.set i { save with settled := true } }

variable [Zero K] [IntCast K]

/-- A load that arrives; without preferences it changes nothing. -/
def Open.apply (T : DoubleText K) (screen : Open K) (preferences : Option (Preferences K)) :
    Open K :=
  ⟨loadPreferences T preferences screen.fields,
    if preferences.isSome then none else screen.picked⟩

/-- Whoever leaves the session has left the screen. Without a user a picked
location is dropped and nothing is loaded. -/
def deviceStep (T : DoubleText K) (store : Store K) (device : Device K) :
    Action K → Option (Store K × Device K)
  | .session user =>
    some (store, { device with currentUser := user, screen := none, load := .idle })
  | .openScreen =>
    some (store, { device with
      screen := some ⟨initState, none⟩
      load := if device.currentUser.isSome then .reading else .idle })
  | .read =>
    match device.load with
    | .reading =>
      some (store, { device with
        load := .loaded (getPreferences store.userPreference device.currentUser) })
    | _ => none
  | .readFails =>
    match device.load with
    | .reading => some (store, { device with load := .loaded none })
    | _ => none
  | .apply =>
    match device.screen, device.load with
    | some screen, .loaded preferences =>
      some (store, { device with screen := some (screen.apply T preferences), load := .idle })
    | _, _ => none
  | .edit e =>
    match device.screen, device.currentUser with
    | none, _ => none
    | some screen, none =>
      if e.pick?.isSome then some (store, device)
      else some (store, { device with screen := some (screen.enter e) })
    | some screen, some user =>
      some (⟨store.userPreference, store.edits ++ [(user.uid, e)]⟩,
        { device with screen := some (screen.enter e) })
  | .save =>
    match device.screen, device.currentUser with
    | none, _ => none
    | some _, none => some (store, device)
    | some screen, some user =>
      match preferencesOnScreen T user screen.fields with
      | .error _ => some (store, device)
      | .ok preferences =>
        some (store, { device with
          saves := device.saves ++ [⟨user, preferences, screen.picked, false⟩] })
  | .commit i =>
    match device.saves[i]? with
    | some ⟨user, preferences, picked, false⟩ =>
      some (⟨savePreferences store.userPreference user preferences, store.edits⟩,
        device.settle i ⟨user, preferences, picked, false⟩)
    | _ => none
  | .setFails i =>
    match device.saves[i]? with
    | some ⟨user, preferences, picked, false⟩ =>
      some (store, device.settle i ⟨user, preferences, picked, false⟩)
    | _ => none

end Machine

section Origins
variable {K : Type}

/-- The location is the last pick, or if a load has replaced that, one that was
picked at some time but for its longitude. -/
def Located (edits : List (String × Edit K)) (uid : String) (address : String)
    (latitude longitude : Double K) [Zero K] : Option (Pick K) → Prop
  | some pick => (uid, Edit.picked pick) ∈ edits ∧ address = pick.address ∧
      latitude = .fin pick.latitude ∧ longitude = .fin pick.longitude
  | none => ∃ pick, (uid, Edit.picked pick) ∈ edits ∧ address = pick.address ∧
      latitude = .fin pick.latitude ∧ longitude = .fin 0

/-- The user has typed a number into a field. -/
def Typed (T : DoubleText K) (edits : List (String × Edit K)) (uid : String)
    (field : String → Edit K) (x : Double K) : Prop :=
  ∃ text, (uid, field text) ∈ edits ∧ T.tryParse text = some x

/-- Preferences that a user has entered, with the location as `picked` tells. -/
structure Entered [Zero K] (T : DoubleText K) (edits : List (String × Edit K)) (uid : String)
    (picked : Option (Pick K)) (p : SavedPreferences K) : Prop where
  owner : p.uid = uid
  location : Located edits uid p.address p.latitude p.longitude picked
  distance : Typed T edits uid .distance p.distance
  price : Typed T edits uid .price p.price
  propertyType : p.propertyType = "Apartment" ∨ (uid, Edit.propertyType p.propertyType) ∈ edits
  amenities : ∀ a ∈ p.amenities, ∃ i, amenitiesOptions.get i = a ∧
    (uid, Edit.amenity i true) ∈ edits

/-- What a screen may show to a user. -/
structure ScreenOk [Zero K] (T : DoubleText K) (edits : List (String × Edit K)) (uid : String)
    (screen : Open K) : Prop where
  location : (screen.fields.latitude = none ∧ screen.picked = none) ∨
    ∃ latitude longitude, screen.fields.latitude = some latitude ∧
      screen.fields.longitude = some longitude ∧
      Located edits uid screen.fields.address latitude longitude screen.picked
  distance : ∀ x, T.tryParse screen.fields.distanceText = some x → Typed T edits uid .distance x
  price : ∀ x, T.tryParse screen.fields.priceText = some x → Typed T edits uid .price x
  propertyType : screen.fields.dropdownPropertyValue = "Apartment" ∨
    (uid, Edit.propertyType screen.fields.dropdownPropertyValue) ∈ edits
  amenities : ∀ i, screen.fields.isSelected i = true → (uid, Edit.amenity i true) ∈ edits

variable [Zero K] {T : DoubleText K} {edits edits' : List (String × Edit K)} {uid : String}

theorem Located.mono {address : String} {latitude longitude : Double K} {picked : Option (Pick K)}
    (h : Located edits uid address latitude longitude picked) (grows : edits <+: edits') :
    Located edits' uid address latitude longitude picked := by
  cases picked with
  | some pick => exact ⟨grows.subset h.1, h.2⟩
  | none => exact h.imp (fun _ hpick => ⟨grows.subset hpick.1, hpick.2⟩)

/-- After a load, the location of what was loaded. -/
theorem Located.loaded {address : String} {latitude longitude : Double K}
    {picked : Option (Pick K)} (h : Located edits uid address latitude longitude picked) :
    Located edits uid address latitude (.fin 0) none := by
  cases picked with
  | some pick => exact ⟨pick, h.1, h.2.1, h.2.2.1, rfl⟩
  | none => exact h.imp (fun _ hpick => ⟨hpick.1, hpick.2.1, hpick.2.2.1, rfl⟩)

omit [Zero K] in
theorem Typed.mono {field : String → Edit K} {x : Double K} (h : Typed T edits uid field x)
    (grows : edits <+: edits') : Typed T edits' uid field x :=
  h.imp (fun _ htext => ⟨grows.subset htext.1, htext.2⟩)

theorem Entered.mono {picked : Option (Pick K)} {p : SavedPreferences K}
    (h : Entered T edits uid picked p) (grows : edits <+: edits') :
    Entered T edits' uid picked p where
  owner := h.owner
  location := h.location.mono grows
  distance := h.distance.mono grows
  price := h.price.mono grows
  propertyType := h.propertyType.imp_right (fun hmem => grows.subset hmem)
  amenities a ha := (h.amenities a ha).imp (fun _ hi => ⟨hi.1, grows.subset hi.2⟩)

theorem ScreenOk.mono {screen : Open K} (h : ScreenOk T edits uid screen)
    (grows : edits <+: edits') : ScreenOk T edits' uid screen where
  location := h.location.imp_right (fun hset => hset.imp (fun _ hlat => hlat.imp
    (fun _ hlong => ⟨hlong.1, hlong.2.1, hlong.2.2.mono grows⟩)))
  distance x hx := (h.distance x hx).mono grows
  price x hx := (h.price x hx).mono grows
  propertyType := h.propertyType.imp_right (fun hmem => grows.subset hmem)
  amenities i hi := grows.subset (h.amenities i hi)

theorem screenOk_initState : ScreenOk T edits uid ⟨initState, none⟩ where
  location := Or.inl ⟨rfl, rfl⟩
  distance x hx := by
    cases T.tryParse_empty.symm.trans hx
  price x hx := by
    cases T.tryParse_empty.symm.trans hx
  propertyType := Or.inl rfl
  amenities _ hi := nomatch hi

/-- Whatever the user enters, the screen shows what was entered. -/
theorem ScreenOk.enter {screen : Open K} (ok : ScreenOk T edits uid screen) (e : Edit K) :
    ScreenOk T (edits ++ [(uid, e)]) uid (screen.enter e) := by
  have hnew : (uid, e) ∈ edits ++ [(uid, e)] := List.mem_append_right _ (List.mem_singleton_self _)
  have old := ok.mono (List.prefix_append edits [(uid, e)])
  cases e with
  | distance text => exact { old with distance := fun x hx => ⟨text, hnew, hx⟩ }
  | price text => exact { old with price := fun x hx => ⟨text, hnew, hx⟩ }
  | propertyType newValue => exact { old with propertyType := Or.inr hnew }
  | amenity i selected =>
    refine { old with amenities := fun j hj => ?_ }
    by_cases hij : j = i
    · subst hij
      have hsel : selected = true := by
        simpa [Open.enter, PreferenceEditing.enter] using hj
      exact hsel ▸ hnew
    · refine old.amenities j ?_
      simpa [Open.enter, PreferenceEditing.enter, hij] using hj
  | picked pick =>
    exact { old with location := Or.inr ⟨_, _, rfl, rfl, hnew, rfl, rfl, rfl⟩ }

end Origins

section Fields
variable {K : Type}

theorem parse_eq_ok_iff {T : DoubleText K} {text : String} {x : Double K} :
    T.parse text = .ok x ↔ T.tryParse text = some x := by
  unfold DoubleParser.parse
  cases T.tryParse text with
  | none => simp
  | some y => simp

theorem mem_selectedAmenities {isSelected : Fin amenitiesOptions.length → Bool} {a : String} :
    a ∈ selectedAmenities isSelected ↔
      ∃ i, isSelected i = true ∧ amenitiesOptions.get i = a := by
  simp [selectedAmenities]

variable [Zero K] {T : DoubleText K} {edits : List (String × Edit K)} {uid : String}

/-- What `getPreferences` returns for saved preferences. -/
def asLoaded (p : SavedPreferences K) : Preferences K :=
  { p.toPreferences with location := some p.loadedLocation }

theorem loadPreferences_saved (T : DoubleText K) (p : SavedPreferences K) (fields : ScreenState K) :
    loadPreferences T (some (asLoaded p)) fields =
      { address := p.address
        latitude := some p.latitude
        longitude := some (.fin 0)
        distanceText := T.toString p.distance
        priceText := T.toString p.price
        dropdownPropertyValue := p.propertyType
        isSelected := fun i => decide (amenitiesOptions.get i ∈ p.amenities) } := by
  simp [loadPreferences, asLoaded, SavedPreferences.loadedLocation, SavedPreferences.toPreferences,
    toText, Value.asDouble]

omit [Zero K] in
/-- A text that `toString` made is read back as the number it was made of. -/
theorem Typed.toString {field : String → Edit K} {x y : Double K} (h : Typed T edits uid field x)
    (hy : T.tryParse (T.toString x) = some y) : Typed T edits uid field y := by
  rw [T.tryParse_toString] at hy
  cases hy
  exact h

theorem Entered.apply {picked : Option (Pick K)} {p : SavedPreferences K}
    (entered : Entered T edits uid picked p) (screen : Open K) :
    ScreenOk T edits uid (screen.apply T (some (asLoaded p))) := by
  have distinct : amenitiesOptions.Nodup := by decide
  rw [Open.apply, loadPreferences_saved]
  refine ⟨Or.inr ⟨_, _, rfl, rfl, entered.location.loaded⟩, fun x => entered.distance.toString,
    fun x => entered.price.toString, entered.propertyType, fun i hi => ?_⟩
  obtain ⟨j, hj, hmem⟩ := entered.amenities _ (of_decide_eq_true hi)
  obtain rfl := (List.nodup_iff_injective_get.mp distinct) hj
  exact hmem

theorem ScreenOk.entered {user : User} {screen : Open K} {preferences : Preferences K}
    (ok : ScreenOk T edits user.uid screen)
    (h : preferencesOnScreen T user screen.fields = .ok preferences) :
    ∃ p : SavedPreferences K, preferences = p.toPreferences ∧
      Entered T edits user.uid screen.picked p := by
  obtain ⟨p, rfl, _, howner, _⟩ := preferencesOnScreen_ok h
  obtain ⟨latitude, hlatitude, h⟩ := bind_eq_ok.mp h
  obtain ⟨longitude, hlongitude, h⟩ := bind_eq_ok.mp h
  obtain ⟨distance, hdistance, h⟩ := bind_eq_ok.mp h
  obtain ⟨price, hprice, h⟩ := bind_eq_ok.mp h
  rw [late_eq_ok] at hlatitude hlongitude
  rw [parse_eq_ok_iff] at hdistance hprice
  have hfields := Except.ok.inj h
  simp only [SavedPreferences.toPreferences, Preferences.mk.injEq, Option.some.injEq,
    List.cons.injEq, Prod.mk.injEq, Value.str.injEq, Value.double.injEq, true_and, and_true]
    at hfields
  obtain ⟨_, _, ⟨haddress, rfl, rfl⟩, rfl, rfl, htype, hamenities⟩ := hfields
  refine ⟨p, rfl, howner, ?_, ok.distance _ hdistance, ok.price _ hprice,
    htype ▸ ok.propertyType, fun a ha => ?_⟩
  · rcases ok.location with ⟨hunset, _⟩ | ⟨latitude, longitude, hlat, hlong, located⟩
    · cases hunset.symm.trans hlatitude
    · cases hlat.symm.trans hlatitude
      cases hlong.symm.trans hlongitude
      exact haddress ▸ located
  · obtain ⟨i, hselected, hi⟩ := mem_selectedAmenities.mp (hamenities ▸ ha)
    exact ⟨i, hi, ok.amenities i hselected⟩

end Fields

section Invariants
variable {K : Type} [Zero K] [IntCast K] {T : DoubleText K}

def StoreOk (T : DoubleText K) (store : Store K) : Prop :=
  ∀ uid data, store.userPreference.get? uid = some data →
    ∃ picked p, data = Preferences.toJson (SavedPreferences.toPreferences p) ∧
      Entered T store.edits uid picked p

structure DeviceOk (T : DoubleText K) (store : Store K) (device : Device K) : Prop where
  screen : ∀ screen user, device.screen = some screen → device.currentUser = some user →
    ScreenOk T store.edits user.uid screen
  load : ∀ preferences user, device.load = .loaded (some preferences) →
    device.currentUser = some user →
    ∃ picked p, preferences = asLoaded p ∧ Entered T store.edits user.uid picked p
  saves : ∀ save ∈ device.saves, ∃ p, save.preferences = SavedPreferences.toPreferences p ∧
    Entered T store.edits save.user.uid save.picked p

/-- What was entered stays entered. -/
def Grows (store store' : Store K) : Prop := store.edits <+: store'.edits

omit [IntCast K] in
theorem DeviceOk.mono {store store' : Store K} {device : Device K} (ok : DeviceOk T store device)
    (grows : Grows store store') : DeviceOk T store' device where
  screen screen user hscreen huser := (ok.screen screen user hscreen huser).mono grows
  load preferences user hload huser := by
    obtain ⟨picked, p, hp, entered⟩ := ok.load preferences user hload huser
    exact ⟨picked, p, hp, entered.mono grows⟩
  saves save hsave := by
    obtain ⟨p, hp, entered⟩ := ok.saves save hsave
    exact ⟨p, hp, entered.mono grows⟩

/-- What the service returns for a stored document. -/
theorem StoreOk.loaded {store : Store K} (ok : StoreOk T store) {user : User}
    {preferences : Preferences K}
    (h : getPreferences store.userPreference (some user) = some preferences) :
    ∃ picked p, preferences = asLoaded p ∧ Entered T store.edits user.uid picked p := by
  cases hstored : store.userPreference.get? user.uid with
  | none =>
    simp only [getPreferences, hstored] at h
    cases h
  | some data =>
    obtain ⟨picked, p, rfl, entered⟩ := ok user.uid data hstored
    rw [getPreferences_stored hstored] at h
    cases h
    exact ⟨picked, p, rfl, entered⟩

omit [IntCast K] in
theorem StoreOk.saved {store : Store K} (ok : StoreOk T store) {user : User}
    {picked : Option (Pick K)} {p : SavedPreferences K}
    (entered : Entered T store.edits user.uid picked p) :
    StoreOk T ⟨savePreferences store.userPreference user p.toPreferences, store.edits⟩ := by
  intro uid data hdata
  rw [savePreferences, Collection.get?_set] at hdata
  split at hdata
  · rename_i huid
    subst huid
    cases hdata
    exact ⟨picked, p, rfl, entered⟩
  · exact ok uid data hdata

omit [IntCast K] in
theorem DeviceOk.settle {store : Store K} {device : Device K} (ok : DeviceOk T store device)
    {i : Nat} {save : Save K} (hsave : device.saves[i]? = some save) :
    DeviceOk T store (device.settle i save) :=
  ⟨ok.screen, ok.load, forall_mem_set ok.saves
    (ok.saves save (List.mem_of_getElem? hsave))⟩

theorem deviceStep_ok {store store' : Store K} {device device' : Device K} {a : Action K}
    (storeOk : StoreOk T store) (ok : DeviceOk T store device)
    (h : deviceStep T store device a = some (store', device')) :
    StoreOk T store' ∧ DeviceOk T store' device' ∧ Grows store store' := by
  have unchanged : Grows store store := List.prefix_refl _
  cases a with
  | session user =>
    cases h
    refine ⟨storeOk, ⟨fun _ _ hscreen => ?_, fun _ _ hload => ?_, ok.saves⟩, unchanged⟩
    · cases hscreen
    · cases hload
  | openScreen =>
    cases h
    refine ⟨storeOk, ⟨fun screen user hscreen _ => ?_, fun _ _ hload => ?_, ok.saves⟩, unchanged⟩
    · cases hscreen
      exact screenOk_initState
    · simp only at hload
      split at hload
      · cases hload
      · cases hload
  | read =>
    simp only [deviceStep] at h
    split at h
    · cases h
      refine ⟨storeOk, ⟨ok.screen, fun preferences user hload huser => ?_, ok.saves⟩, unchanged⟩
      have hread := Load.loaded.inj hload
      have huser : device.currentUser = some user := huser
      rw [huser] at hread
      exact storeOk.loaded hread
    · cases h
  | readFails =>
    simp only [deviceStep] at h
    split at h
    · cases h
      refine ⟨storeOk, ⟨ok.screen, fun _ _ hload => ?_, ok.saves⟩, unchanged⟩
      cases hload
    · cases h
  | apply =>
    simp only [deviceStep] at h
    split at h
    · rename_i screen preferences hscreen hload
      cases h
      refine ⟨storeOk, ⟨fun screen' user hscreen' huser => ?_, fun _ _ hidle => ?_, ok.saves⟩,
        unchanged⟩
      · cases hscreen'
        cases preferences with
        | none => exact ok.screen screen user hscreen huser
        | some preferences =>
          obtain ⟨picked, p, rfl, entered⟩ := ok.load preferences user hload huser
          exact entered.apply screen
      · cases hidle
    · cases h
  | edit e =>
    simp only [deviceStep] at h
    split at h
    · cases h
    · rename_i screen hscreen hnone
      split at h
      · cases h
        exact ⟨storeOk, ok, unchanged⟩
      · cases h
        refine ⟨storeOk, ⟨fun _ user _ huser => ?_, ok.load, ok.saves⟩, unchanged⟩
        cases hnone.symm.trans huser
    · rename_i screen user hscreen huser
      cases h
      have grows : Grows store ⟨store.userPreference, store.edits ++ [(user.uid, e)]⟩ :=
        List.prefix_append _ _
      have old := ok.mono grows
      refine ⟨fun uid data hdata => ?_, ⟨fun screen' user' hscreen' huser' => ?_, old.load,
        old.saves⟩, grows⟩
      · obtain ⟨picked, p, hp, entered⟩ := storeOk uid data hdata
        exact ⟨picked, p, hp, entered.mono grows⟩
      · cases hscreen'
        cases huser.symm.trans huser'
        exact (ok.screen screen user hscreen huser).enter e
  | save =>
    simp only [deviceStep] at h
    split at h
    · cases h
    · cases h
      exact ⟨storeOk, ok, unchanged⟩
    · rename_i screen user hscreen huser
      split at h
      · cases h
        exact ⟨storeOk, ok, unchanged⟩
      · rename_i preferences hbuilt
        cases h
        refine ⟨storeOk, ⟨ok.screen, ok.load, forall_mem_concat ok.saves ?_⟩, unchanged⟩
        exact (ok.screen screen user hscreen huser).entered hbuilt
  | commit i =>
    simp only [deviceStep] at h
    split at h
    · rename_i user preferences picked hsave
      cases h
      obtain ⟨p, hp, entered⟩ := ok.saves _ (List.mem_of_getElem? hsave)
      obtain rfl : preferences = p.toPreferences := hp
      have grows : Grows store
        ⟨savePreferences store.userPreference user p.toPreferences, store.edits⟩ := unchanged
      exact ⟨storeOk.saved entered, (ok.mono grows).settle hsave, grows⟩
    · cases h
  | setFails i =>
    simp only [deviceStep] at h
    split at h
    · rename_i user preferences picked hsave
      cases h
      exact ⟨storeOk, ok.settle hsave, unchanged⟩
    · cases h

theorem guarantees (T : DoubleText K) :
    Guarantees (deviceStep T) (StoreOk T) (DeviceOk T) Grows where
  refl _ := List.prefix_refl _
  trans _ _ _ := List.IsPrefix.trans
  own _ _ _ _ _ := deviceStep_ok
  stable _ _ _ _ := DeviceOk.mono

end Invariants

section Systems
variable {K ι : Type} [Zero K] [IntCast K] [DecidableEq ι]

def initial : System (Store K) ι (Device K) := ⟨emptyStore, fun _ => newDevice⟩

theorem run_ok {T : DoubleText K} {acts : List (ι × Action K)} {s : System (Store K) ι (Device K)}
    (hrun : run (SharedStore.step (deviceStep T)) initial acts = some s) :
    StoreOk T s.store ∧ ∀ i, DeviceOk T s.store (s.devices i) := by
  have storeOk : StoreOk T (emptyStore : Store K) := fun _ _ h => nomatch h
  have deviceOk : DeviceOk T (emptyStore : Store K) newDevice :=
    ⟨fun _ _ h => (nomatch h), fun _ _ h => (nomatch h), fun _ h => absurd h List.not_mem_nil⟩
  obtain ⟨ok, devices, _⟩ := (guarantees T).run storeOk (fun _ => deviceOk) hrun
  exact ⟨ok, devices⟩

/-- Stored preferences are what their user has entered, on whatever device and
in whichever order loads and saves went through, but for a longitude that may
have become zero. -/
theorem stored_entered (T : DoubleText K) (acts : List (ι × Action K))
    (s : System (Store K) ι (Device K))
    (hrun : run (SharedStore.step (deviceStep T)) initial acts = some s) (uid : String)
    (data : Map K) (hdata : s.store.userPreference.get? uid = some data) :
    ∃ picked p, data = Preferences.toJson (SavedPreferences.toPreferences p) ∧
      Entered T s.store.edits uid picked p :=
  (run_ok hrun).1 uid data hdata

/-- A tenant enters preferences on one device, opens the screen on another one
and saves what was loaded. -/
def savedAgain : List (Bool × Action ℚ) :=
  [(false, .session (some sampleUser)), (false, .openScreen), (false, .read), (false, .apply),
    (false, .edit (.picked ⟨"Patan", 27, 85⟩)), (false, .edit (.distance "5.0")),
    (false, .edit (.price "9000.0")), (false, .edit (.amenity ⟨0, by decide⟩ true)), (false, .save),
    (false, .commit 0), (true, .session (some sampleUser)), (true, .openScreen), (true, .read),
    (true, .apply), (true, .save), (true, .commit 0)]

def longitudeOf (data : Map ℚ) : Option (Double ℚ) :=
  match Map.get data "location" with
  | .map entries =>
    match Map.get entries "longitude" with
    | .double x => some x
    | _ => none
  | _ => none

theorem stored_entered_savedAgain : ∃ s : System (Store ℚ) Bool (Device ℚ), ∃ data picked p,
    run (SharedStore.step (deviceStep rationalText)) initial savedAgain = some s ∧
      s.store.userPreference.get? "tenant" = some data ∧ longitudeOf data = some (.fin 0) ∧
      data = Preferences.toJson (SavedPreferences.toPreferences p) ∧
      Entered rationalText s.store.edits "tenant" picked p := by
  obtain ⟨s, hrun, hlongitude⟩ := exists_of_check (SharedStore.step (deviceStep rationalText))
    initial savedAgain
    (fun s => (s.store.userPreference.get? "tenant").bind longitudeOf = some (.fin 0))
    (by decide +kernel)
  obtain ⟨data, hdata, hzero⟩ := Option.bind_eq_some_iff.mp hlongitude
  obtain ⟨picked, p, hp, entered⟩ := stored_entered rationalText savedAgain s hrun "tenant" data
    hdata
  exact ⟨s, data, picked, p, hrun, hdata, hzero, hp, entered⟩

/-- A save writes the location that was picked, or if a load has replaced that,
no longitude but zero. -/
theorem saved_location (T : DoubleText K) (acts : List (ι × Action K))
    (s : System (Store K) ι (Device K))
    (hrun : run (SharedStore.step (deviceStep T)) initial acts = some s) (i : ι) (save : Save K)
    (hsave : save ∈ (s.devices i).saves) :
    ∃ p, save.preferences = SavedPreferences.toPreferences p ∧
      match save.picked with
      | some pick => p.address = pick.address ∧ p.latitude = .fin pick.latitude ∧
          p.longitude = .fin pick.longitude
      | none => p.longitude = .fin 0 := by
  obtain ⟨p, hp, entered⟩ := ((run_ok hrun).2 i).saves save hsave
  refine ⟨p, hp, ?_⟩
  have hlocation := entered.location
  cases hpicked : save.picked with
  | some pick =>
    rw [hpicked] at hlocation
    exact hlocation.2
  | none =>
    rw [hpicked] at hlocation
    obtain ⟨_, _, _, _, hzero⟩ := hlocation
    exact hzero

theorem saved_location_savedAgain : ∃ s : System (Store ℚ) Bool (Device ℚ), ∃ save p,
    run (SharedStore.step (deviceStep rationalText)) initial savedAgain = some s ∧
      save ∈ (s.devices true).saves ∧ save.picked = none ∧
      save.preferences = SavedPreferences.toPreferences p ∧ p.longitude = .fin 0 := by
  obtain ⟨s, hrun, hsaves⟩ := exists_of_check (SharedStore.step (deviceStep rationalText))
    initial savedAgain (fun s => (s.devices true).saves.any (fun save => save.picked.isNone) = true)
    (by decide +kernel)
  obtain ⟨save, hsave, hnone⟩ := List.any_eq_true.mp hsaves
  have hpicked := Option.isNone_iff_eq_none.mp hnone
  obtain ⟨p, hp, hlocation⟩ := saved_location rationalText savedAgain s hrun true save hsave
  rw [hpicked] at hlocation
  exact ⟨s, save, p, hrun, hsave, hpicked, hp, hlocation⟩

end Systems

end PreferenceEditing
