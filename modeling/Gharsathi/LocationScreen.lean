import Gharsathi.PostingScreen

/-!
# Selecting a location

The landlord's and the tenant's location screens ask for the position of the
device and let the user mark a point on a map, which is there once the position
has been answered or could not be determined. The button that confirms awaits
the address of the marked point, and then pops the top route with it and with
the coordinates that are marked by then; on the tenant's profile it writes the
coordinates into the users document instead and stays.
-/

namespace LocationScreen

open PostingScreen (Pick)
open Runs

inductive NavigationSource where
  | userProfile
  | userPreferences
  deriving DecidableEq

inductive Screen where
  | landlord
  | tenant (navigationSource : NavigationSource)
  deriving DecidableEq

inductive LocationPermission where
  | denied
  | deniedForever
  | whileInUse
  | always
  | unableToDetermine
  deriving DecidableEq

structure Placemark where
  street : Option String
  locality : Option String
  subAdministrativeArea : Option String

structure LatLng (K : Type) where
  latitude : K
  longitude : K
  deriving DecidableEq

/-- The next await of `_getCurrentLocation`. -/
inductive Locating where
  | requesting
  | checkingService (permission : LocationPermission)
  | positioning
  | ended
  deriving DecidableEq

/-- A confirmation and the point whose address it asked for. -/
structure Confirmation (K : Type) where
  asked : LatLng K
  waiting : Bool

/-- A route that was popped is in the tree until its transition has ended. -/
inductive Route where
  | onTop
  | closing
  | gone
  deriving DecidableEq

/-- What the screen returned; `asked` is kept along with it. -/
structure Returned (K : Type) where
  pick : Pick K
  asked : LatLng K

/-- `belowPops` counts the pops that took away the route below. -/
structure State (K : Type) where
  isLoading : Bool
  currentLocation : Option (LatLng K)
  locating : Locating
  confirmations : List (Confirmation K)
  route : Route
  returned : List (Returned K)
  belowPops : Nat
  writes : List (String × LatLng K)
  shown : List String

inductive Action (K : Type) where
  | permissionAnswers (permission : LocationPermission)
  | permissionFails
  | serviceAnswers (enabled : Bool)
  | serviceFails
  | positionAnswers (position : LatLng K)
  | positionFails (e : String)
  | tapMap (point : LatLng K)
  | confirm
  | addressAnswers (i : Nat) (placeMarks : Except String (List Placemark))
  | back
  | transitionEnds

/-- A nullable string in an interpolation. -/
def interpolated : Option String → String
  | none => "null"
  | some s => s

/-- `getAddressFromLatLng` with what the geocoder answered or threw. -/
def getAddressFromLatLng (placeMarks : Except String (List Placemark)) : String :=
  match placeMarks with
  | .ok (place :: _) =>
    interpolated place.street ++ " , " ++ interpolated place.locality ++ ", " ++
      interpolated place.subAdministrativeArea
  | .ok [] => "Address not found"
  | .error e => "Error getting address " ++ e

section Machine
variable {K : Type}

def initial : State K := ⟨true, none, .requesting, [], .onTop, [], 0, [], []⟩

/-- The context of a screen that has left the tree throws. -/
def State.showSnackBar (s : State K) (message : String) : State K :=
  if s.route = .gone then s else { s with shown := s.shown ++ [message] }

def State.waiting (s : State K) : Bool := s.confirmations.any Confirmation.waiting

def granted (permission : LocationPermission) : Bool :=
  decide (permission = .whileInUse ∨ permission = .always)

/-- The tap on the button that confirms. -/
def State.confirm (s : State K) (screen : Screen) (user : Option String) : State K :=
  match s.currentLocation, screen, user with
  | some point, .landlord, _ =>
    { s with confirmations := s.confirmations ++ [⟨point, true⟩] }
  | some point, .tenant .userPreferences, some _ =>
    { s with confirmations := s.confirmations ++ [⟨point, true⟩] }
  | some point, .tenant .userProfile, some uid =>
    { s with writes := s.writes ++ [(uid, point)] }
  | _, _, _ => s.showSnackBar "Select a Location"

/-- The address has arrived: `Navigator.pop` with the map of the result. -/
def State.pop (s : State K) (asked : LatLng K) (address : String) : State K :=
  match s.route, s.currentLocation with
  | .onTop, some point =>
    { s with
      route := .closing
      returned := s.returned ++ [⟨⟨address, point.latitude, point.longitude⟩, asked⟩] }
  | .closing, some _ => { s with belowPops := s.belowPops + 1 }
  | _, _ => s

def State.settle (s : State K) (i : Nat) (c : Confirmation K) : State K :=
  { s with confirmations := s.confirmations.set i { c with waiting := false } }

def step (screen : Screen) (user : Option String) (s : State K) : Action K → Option (State K)
  | .permissionAnswers permission =>
    if s.locating = .requesting then some { s with locating := .checkingService permission }
    else none
  | .permissionFails =>
    if s.locating = .requesting then some { s with locating := .ended } else none
  | .serviceAnswers enabled =>
    match s.locating with
    | .checkingService permission =>
      if granted permission then
        if enabled then some { s with locating := .positioning }
        else some { s.showSnackBar "Please enable location services" with locating := .ended }
      else some { s with locating := .ended }
    | _ => none
  | .serviceFails =>
    match s.locating with
    | .checkingService _ => some { s with locating := .ended }
    | _ => none
  | .positionAnswers position =>
    if s.locating = .positioning then
      if s.route = .gone then some { s with locating := .ended }
      else
        some { s with
          currentLocation := some position
          isLoading := false
          locating := .ended }
    else none
  | .positionFails e =>
    if s.locating = .positioning then
      if s.route = .gone then some { s with locating := .ended }
      else
        some { s.showSnackBar e with
          isLoading := false
          locating := .ended }
    else none
  | .tapMap point =>
    if s.route = .onTop ∧ s.isLoading = false then some { s with currentLocation := some point }
    else none
  | .confirm => if s.route = .onTop then some (s.confirm screen user) else none
  | .addressAnswers i placeMarks =>
    match s.confirmations[i]? with
    | none => none
    | some c =>
      if c.waiting then some ((s.settle i c).pop c.asked (getAddressFromLatLng placeMarks))
      else none
  | .back => if s.route = .onTop then some { s with route := .closing } else none
  | .transitionEnds => if s.route = .closing then some { s with route := .gone } else none

end Machine

section Steps
variable {K : Type} {screen : Screen} {user : Option String}

/-- There is a map only when the position is settled, and nothing is confirmed
or returned without a marked point. -/
structure Ok (s : State K) : Prop where
  located : s.isLoading = false → s.locating = .ended
  loading : s.isLoading = true → s.currentLocation = none
  unmarked : s.currentLocation = none →
    s.confirmations = [] ∧ s.returned = [] ∧ s.writes = [] ∧ s.belowPops = 0
  returned : s.returned.length ≤ 1
  onTop : s.route = .onTop → s.returned = []

theorem initial_ok : Ok (initial : State K) where
  located h := nomatch h
  loading _ := rfl
  unmarked _ := ⟨rfl, rfl, rfl, rfl⟩
  returned := Nat.zero_le _
  onTop _ := rfl

theorem Ok.showSnackBar {s : State K} (ok : Ok s) (message : String) :
    Ok (s.showSnackBar message) := by
  unfold State.showSnackBar
  split
  · exact ok
  · exact ⟨ok.located, ok.loading, ok.unmarked, ok.returned, ok.onTop⟩

/-- Before the position is settled the screen loads. -/
theorem Ok.isLoading_of_locating {s : State K} (ok : Ok s) (h : s.locating ≠ .ended) :
    s.isLoading = true := by
  cases hloading : s.isLoading with
  | true => rfl
  | false => exact absurd (ok.located hloading) h

/-- The next await, while the screen still loads. -/
theorem Ok.await {s : State K} (ok : Ok s) (h : s.locating ≠ .ended) (locating : Locating) :
    Ok { s with locating := locating } := by
  refine ⟨?_, ok.loading, ok.unmarked, ok.returned, ok.onTop⟩
  intro hfalse
  have htrue := ok.isLoading_of_locating h
  cases htrue.symm.trans hfalse

theorem Ok.confirm {s : State K} (ok : Ok s) : Ok (s.confirm screen user) := by
  unfold State.confirm
  split
  · rename_i hmarked
    exact ⟨ok.located, ok.loading, (fun h => nomatch hmarked.symm.trans h), ok.returned, ok.onTop⟩
  · rename_i hmarked
    exact ⟨ok.located, ok.loading, (fun h => nomatch hmarked.symm.trans h), ok.returned, ok.onTop⟩
  · rename_i hmarked
    exact ⟨ok.located, ok.loading, (fun h => nomatch hmarked.symm.trans h), ok.returned, ok.onTop⟩
  · exact ok.showSnackBar _

theorem Ok.settle {s : State K} (ok : Ok s) (i : Nat) (c : Confirmation K) : Ok (s.settle i c) := by
  refine ⟨ok.located, ok.loading, ?_, ok.returned, ok.onTop⟩
  intro hnone
  obtain ⟨hconfirmations, hrest⟩ := ok.unmarked hnone
  exact ⟨by rw [State.settle, hconfirmations]; rfl, hrest⟩

theorem Ok.pop {s : State K} (ok : Ok s) (asked : LatLng K) (address : String) :
    Ok (s.pop asked address) := by
  unfold State.pop
  split
  · rename_i point honTop hmarked
    refine ⟨ok.located, ok.loading, (fun h => nomatch hmarked.symm.trans h), ?_, nofun⟩
    rw [ok.onTop honTop]
    exact Nat.le_refl _
  · rename_i hclosing hmarked
    exact ⟨ok.located, ok.loading, (fun h => nomatch hmarked.symm.trans h), ok.returned, ok.onTop⟩
  · exact ok

theorem step_ok {s t : State K} {a : Action K} (ok : Ok s) (h : step screen user s a = some t) :
    Ok t := by
  cases a with
  | permissionAnswers permission =>
    simp only [step] at h
    split at h
    · rename_i hlocating
      cases h
      exact ok.await (by rw [hlocating]; decide) _
    · cases h
  | permissionFails =>
    simp only [step] at h
    split at h
    · rename_i hlocating
      cases h
      exact ok.await (by rw [hlocating]; decide) _
    · cases h
  | serviceAnswers enabled =>
    simp only [step] at h
    split at h
    · rename_i permission hlocating
      have hopen : s.locating ≠ .ended := by rw [hlocating]; exact nofun
      split at h
      · split at h
        · cases h
          exact ok.await hopen _
        · cases h
          refine Ok.await (ok.showSnackBar _) ?_ _
          unfold State.showSnackBar
          split <;> exact hopen
      · cases h
        exact ok.await hopen _
    · cases h
  | serviceFails =>
    simp only [step] at h
    split at h
    · rename_i permission hlocating
      cases h
      exact ok.await (by rw [hlocating]; exact nofun) _
    · cases h
  | positionAnswers position =>
    simp only [step] at h
    split at h
    · rename_i hlocating
      split at h
      · cases h
        exact ok.await (by rw [hlocating]; decide) _
      · cases h
        exact ⟨fun _ => rfl, nofun, nofun, ok.returned, ok.onTop⟩
    · cases h
  | positionFails e =>
    simp only [step] at h
    split at h
    · rename_i hlocating
      split at h
      · cases h
        exact ok.await (by rw [hlocating]; decide) _
      · cases h
        have hshown := ok.showSnackBar e
        exact ⟨fun _ => rfl, nofun, hshown.unmarked, hshown.returned, hshown.onTop⟩
    · cases h
  | tapMap point =>
    simp only [step] at h
    split at h
    · rename_i hmap
      cases h
      exact ⟨ok.located, (fun h => nomatch hmap.2.symm.trans h), nofun, ok.returned, ok.onTop⟩
    · cases h
  | confirm =>
    simp only [step] at h
    split at h
    · cases h
      exact ok.confirm
    · cases h
  | addressAnswers i placeMarks =>
    simp only [step] at h
    split at h
    · cases h
    · split at h
      · cases h
        exact (ok.settle _ _).pop _ _
      · cases h
  | back =>
    simp only [step] at h
    split at h
    · cases h
      exact ⟨ok.located, ok.loading, ok.unmarked, ok.returned, nofun⟩
    · cases h
  | transitionEnds =>
    simp only [step] at h
    split at h
    · cases h
      exact ⟨ok.located, ok.loading, ok.unmarked, ok.returned, nofun⟩
    · cases h

/-- The actions by which `_getCurrentLocation` goes on. -/
def Action.isLocating : Action K → Bool
  | .permissionAnswers _ => true
  | .permissionFails => true
  | .serviceAnswers _ => true
  | .serviceFails => true
  | .positionAnswers _ => true
  | .positionFails _ => true
  | _ => false

theorem showSnackBar_kept (s : State K) (message : String) :
    (s.showSnackBar message).isLoading = s.isLoading ∧
      (s.showSnackBar message).currentLocation = s.currentLocation ∧
      (s.showSnackBar message).locating = s.locating ∧
      (s.showSnackBar message).confirmations = s.confirmations ∧
      (s.showSnackBar message).route = s.route ∧
      (s.showSnackBar message).returned = s.returned ∧
      (s.showSnackBar message).belowPops = s.belowPops := by
  unfold State.showSnackBar
  split <;> exact ⟨rfl, rfl, rfl, rfl, rfl, rfl, rfl⟩

/-- Once the position is settled, the user's actions change only the marked
point, and only by a tap on the map. -/
def tapOf : Action K → Option (LatLng K)
  | .tapMap point => some point
  | _ => none

theorem confirm_kept (screen : Screen) (user : Option String) (s : State K) :
    (s.confirm screen user).isLoading = s.isLoading ∧
      (s.confirm screen user).currentLocation = s.currentLocation ∧
      (s.confirm screen user).locating = s.locating := by
  unfold State.confirm
  split
  · exact ⟨rfl, rfl, rfl⟩
  · exact ⟨rfl, rfl, rfl⟩
  · exact ⟨rfl, rfl, rfl⟩
  · obtain ⟨hloading, hmarked, hlocating, _⟩ := showSnackBar_kept s "Select a Location"
    exact ⟨hloading, hmarked, hlocating⟩

theorem pop_kept (s : State K) (asked : LatLng K) (address : String) :
    (s.pop asked address).isLoading = s.isLoading ∧
      (s.pop asked address).currentLocation = s.currentLocation ∧
      (s.pop asked address).locating = s.locating := by
  unfold State.pop
  split <;> exact ⟨rfl, rfl, rfl⟩

/-- The actions of the user leave the state of the location alone, taps on the
map apart, and are as they are whatever that is. -/
theorem step_user {s t : State K} {a : Action K} (huser : a.isLocating = false)
    (h : step screen user s a = some t) :
    t.isLoading = s.isLoading ∧ t.locating = s.locating ∧
      ((∃ point, a = .tapMap point ∧ s.isLoading = false ∧ t.currentLocation = some point) ∨
        (tapOf a = none ∧ t.currentLocation = s.currentLocation)) := by
  cases a with
  | tapMap point =>
    simp only [step] at h
    split at h
    · rename_i hmap
      cases h
      exact ⟨rfl, rfl, Or.inl ⟨point, rfl, hmap.2, rfl⟩⟩
    · cases h
  | confirm =>
    simp only [step] at h
    split at h
    · cases h
      obtain ⟨hloading, hmarked, hlocating⟩ := confirm_kept screen user s
      exact ⟨hloading, hlocating, Or.inr ⟨rfl, hmarked⟩⟩
    · cases h
  | addressAnswers i placeMarks =>
    simp only [step] at h
    split at h
    · cases h
    · rename_i c hc
      split at h
      · cases h
        obtain ⟨hloading, hmarked, hlocating⟩ :=
          pop_kept (s.settle i c) c.asked (getAddressFromLatLng placeMarks)
        exact ⟨hloading, hlocating, Or.inr ⟨rfl, hmarked⟩⟩
      · cases h
  | back =>
    simp only [step] at h
    split at h
    · cases h
      exact ⟨rfl, rfl, Or.inr ⟨rfl, rfl⟩⟩
    · cases h
  | transitionEnds =>
    simp only [step] at h
    split at h
    · cases h
      exact ⟨rfl, rfl, Or.inr ⟨rfl, rfl⟩⟩
    · cases h
  | _ => cases huser

/-- What `_getCurrentLocation` does between its awaits. -/
theorem step_locating {s t : State K} {a : Action K} (hlocating : a.isLocating = true)
    (h : step screen user s a = some t) :
    s.locating ≠ .ended ∧ t.confirmations = s.confirmations ∧ t.route = s.route ∧
      t.returned = s.returned ∧ t.belowPops = s.belowPops ∧ tapOf a = none := by
  cases a with
  | permissionAnswers permission =>
    simp only [step] at h
    split at h
    · rename_i hlocating
      cases h
      exact ⟨by rw [hlocating]; exact nofun, rfl, rfl, rfl, rfl, rfl⟩
    · cases h
  | permissionFails =>
    simp only [step] at h
    split at h
    · rename_i hlocating
      cases h
      exact ⟨by rw [hlocating]; exact nofun, rfl, rfl, rfl, rfl, rfl⟩
    · cases h
  | serviceAnswers enabled =>
    simp only [step] at h
    split at h
    · rename_i permission hlocating
      have hopen : s.locating ≠ .ended := by rw [hlocating]; exact nofun
      obtain ⟨_, _, _, hconfirmations, hroute, hreturned, hbelow⟩ :=
        showSnackBar_kept s "Please enable location services"
      split at h
      · split at h
        · cases h
          exact ⟨hopen, rfl, rfl, rfl, rfl, rfl⟩
        · cases h
          exact ⟨hopen, hconfirmations, hroute, hreturned, hbelow, rfl⟩
      · cases h
        exact ⟨hopen, rfl, rfl, rfl, rfl, rfl⟩
    · cases h
  | serviceFails =>
    simp only [step] at h
    split at h
    · rename_i permission hlocating
      cases h
      exact ⟨by rw [hlocating]; exact nofun, rfl, rfl, rfl, rfl, rfl⟩
    · cases h
  | positionAnswers position =>
    simp only [step] at h
    split at h
    · rename_i hlocating
      have hopen : s.locating ≠ .ended := by rw [hlocating]; exact nofun
      split at h
      · cases h
        exact ⟨hopen, rfl, rfl, rfl, rfl, rfl⟩
      · cases h
        exact ⟨hopen, rfl, rfl, rfl, rfl, rfl⟩
    · cases h
  | positionFails e =>
    simp only [step] at h
    split at h
    · rename_i hlocating
      have hopen : s.locating ≠ .ended := by rw [hlocating]; exact nofun
      obtain ⟨_, _, _, hconfirmations, hroute, hreturned, hbelow⟩ := showSnackBar_kept s e
      split at h
      · cases h
        exact ⟨hopen, rfl, rfl, rfl, rfl, rfl⟩
      · cases h
        exact ⟨hopen, hconfirmations, hroute, hreturned, hbelow, rfl⟩
    · cases h
  | _ => cases hlocating

end Steps

section Refused
variable {K : Type} {screen : Screen} {user : Option String}

/-- The answers after which the position is not asked for. -/
def Refused : Action K → Prop
  | .permissionAnswers permission => granted permission = false
  | .permissionFails => True
  | .serviceAnswers enabled => enabled = false
  | .serviceFails => True
  | _ => False

structure Stuck (s : State K) : Prop where
  loading : s.isLoading = true
  locating : s.locating = .ended ∨
    ∃ permission, s.locating = .checkingService permission ∧ granted permission = false

theorem stuck_of_refused {s t : State K} {a : Action K} (ok : Ok s) (refused : Refused a)
    (h : step screen user s a = some t) : Stuck t := by
  cases a with
  | permissionAnswers permission =>
    simp only [step] at h
    split at h
    · rename_i hlocating
      cases h
      exact ⟨ok.isLoading_of_locating (by rw [hlocating]; exact nofun),
        Or.inr ⟨permission, rfl, refused⟩⟩
    · cases h
  | permissionFails =>
    simp only [step] at h
    split at h
    · rename_i hlocating
      cases h
      exact ⟨ok.isLoading_of_locating (by rw [hlocating]; exact nofun), Or.inl rfl⟩
    · cases h
  | serviceAnswers enabled =>
    obtain rfl : enabled = false := refused
    simp only [step] at h
    split at h
    · rename_i permission hlocating
      have hloading := ok.isLoading_of_locating (by rw [hlocating]; exact nofun)
      split at h
      · cases h
        exact ⟨(showSnackBar_kept s _).1.trans hloading, Or.inl rfl⟩
      · cases h
        exact ⟨hloading, Or.inl rfl⟩
    · cases h
  | serviceFails =>
    simp only [step] at h
    split at h
    · rename_i permission hlocating
      cases h
      exact ⟨ok.isLoading_of_locating (by rw [hlocating]; exact nofun), Or.inl rfl⟩
    · cases h
  | _ => exact refused.elim

theorem step_stuck {s t : State K} {a : Action K} (stuck : Stuck s)
    (h : step screen user s a = some t) : Stuck t := by
  cases hkind : a.isLocating with
  | false =>
    obtain ⟨hloading, hlocating, _⟩ := step_user hkind h
    exact ⟨hloading.trans stuck.loading, hlocating ▸ stuck.locating⟩
  | true =>
    -- only the answer about the service can still come, and it ends the call
    rcases stuck.locating with hended | ⟨permission, hchecking, hrefused⟩
    · exact ((step_locating hkind h).1 hended).elim
    · cases a with
      | permissionAnswers p => simp [step, hchecking] at h
      | permissionFails => simp [step, hchecking] at h
      | serviceAnswers enabled =>
        simp only [step, hchecking, hrefused] at h
        cases h
        exact ⟨stuck.loading, Or.inl rfl⟩
      | serviceFails =>
        simp only [step, hchecking] at h
        cases h
        exact ⟨stuck.loading, Or.inl rfl⟩
      | positionAnswers position => simp [step, hchecking] at h
      | positionFails e => simp [step, hchecking] at h
      | _ => cases hkind

/-- When the permission is not granted or the location service is not there the
screen loads for ever: no map, no marked point, nothing returned or written. -/
theorem position_refused (acts : List (Action K)) (s : State K)
    (hrun : run (step screen user) initial acts = some s) (hrefused : ∃ a ∈ acts, Refused a) :
    s.isLoading = true ∧ s.currentLocation = none ∧ s.returned = [] ∧ s.writes = [] ∧
      s.belowPops = 0 := by
  have hstuck : Ok s ∧ ((∃ a ∈ acts, Refused a) → Stuck s) := by
    refine run_history (fun past u => Ok u ∧ ((∃ a ∈ past, Refused a) → Stuck u)) ?_ hrun
      ⟨initial_ok, fun h => absurd h.choose_spec.1 List.not_mem_nil⟩
    rintro past u a v ⟨ok, hpast⟩ hstep
    refine ⟨step_ok ok hstep, ?_⟩
    rintro ⟨b, hb, hrefused⟩
    rcases List.mem_append.mp hb with hold | hnew
    · exact step_stuck (hpast ⟨b, hold, hrefused⟩) hstep
    · obtain rfl := List.mem_singleton.mp hnew
      exact stuck_of_refused ok hrefused hstep
  obtain ⟨ok, hstuck⟩ := hstuck
  have hloading := (hstuck hrefused).loading
  have hmarked := ok.loading hloading
  obtain ⟨_, hreturned, hwrites, hbelow⟩ := ok.unmarked hmarked
  exact ⟨hloading, hmarked, hreturned, hwrites, hbelow⟩

theorem position_refused_denied : ∃ s : State ℤ,
    run (step .landlord none) initial
      [.permissionAnswers .denied, .serviceAnswers true, .confirm] = some s ∧
      s.isLoading = true ∧ s.returned = [] := by
  obtain ⟨s, hrun, _⟩ := exists_of_check (step .landlord none) (initial : State ℤ)
    [.permissionAnswers .denied, .serviceAnswers true, .confirm] (fun _ => True) (by decide)
  obtain ⟨hloading, _, hreturned, _⟩ := position_refused _ s hrun
    ⟨.permissionAnswers .denied, List.mem_cons_self, rfl⟩
  exact ⟨s, hrun, hloading, hreturned⟩

end Refused

section Returned
variable {K : Type} {screen : Screen} {user : Option String}

/-- The points that were tapped on the map. -/
def taps (acts : List (Action K)) : List (LatLng K) := acts.filterMap tapOf

theorem taps_concat (past : List (Action K)) (a : Action K) :
    taps (past ++ [a]) = taps past ++ (tapOf a).toList := by
  rw [taps, taps, List.filterMap_append]
  cases h : tapOf a <;> simp [h]

/-- A tapped point stays marked until another one is tapped: the position of
the device does not come in its place. -/
theorem marked_last_tap (acts : List (Action K)) (s : State K)
    (hrun : run (step screen user) initial acts = some s) (htapped : taps acts ≠ []) :
    s.currentLocation = (taps acts).getLast? := by
  have hmarked : Ok s ∧ (taps acts ≠ [] →
      s.isLoading = false ∧ s.currentLocation = (taps acts).getLast?) := by
    refine run_history (fun past u => Ok u ∧ (taps past ≠ [] →
      u.isLoading = false ∧ u.currentLocation = (taps past).getLast?)) ?_ hrun
      ⟨initial_ok, fun h => absurd rfl h⟩
    rintro past u a v ⟨ok, hpast⟩ hstep
    refine ⟨step_ok ok hstep, ?_⟩
    rw [taps_concat]
    intro htaps
    cases hkind : a.isLocating with
    | false =>
      obtain ⟨hloading, _, ⟨point, rfl, hmap, hpoint⟩ | ⟨hnone, hsame⟩⟩ := step_user hkind hstep
      · refine ⟨hloading.trans hmap, hpoint.trans ?_⟩
        rw [tapOf, Option.toList_some, List.getLast?_concat]
      · rw [hnone, Option.toList_none, List.append_nil] at htaps ⊢
        obtain ⟨hfalse, hlast⟩ := hpast htaps
        exact ⟨hloading.trans hfalse, hsame.trans hlast⟩
    | true =>
      -- after a tap the position is settled
      obtain ⟨hopen, _, _, _, _, hnone⟩ := step_locating hkind hstep
      rw [hnone, Option.toList_none, List.append_nil] at htaps
      exact (hopen (ok.located (hpast htaps).1)).elim
  exact (hmarked.2 htapped).2

/-- The position is answered, and another point is tapped and confirmed. -/
def tappedPoint : List (Action ℤ) :=
  [.permissionAnswers .whileInUse, .serviceAnswers true, .positionAnswers ⟨0, 0⟩, .tapMap ⟨1, 0⟩,
    .confirm, .addressAnswers 0 (.ok [⟨none, some "Patan", some "Lalitpur"⟩])]

theorem marked_last_tap_tappedPoint : ∃ s, run (step .landlord none) initial tappedPoint = some s ∧
    s.currentLocation = some ⟨1, 0⟩ := by
  obtain ⟨s, hrun, _⟩ := exists_of_check (step .landlord none) initial tappedPoint
    (fun _ => True) (by decide)
  exact ⟨s, hrun, marked_last_tap tappedPoint s hrun (by decide)⟩

/-- While an address is awaited the user waits as well. -/
def Patient (s : State K) : Action K → Prop
  | .tapMap _ => s.waiting = false
  | .confirm => s.waiting = false
  | .back => s.waiting = false
  | _ => True

structure Settled (s : State K) : Prop where
  awaited : ∀ c ∈ s.confirmations, c.waiting = true →
    s.route = .onTop ∧ s.currentLocation = some c.asked
  one : s.confirmations.countP Confirmation.waiting ≤ 1
  returned : ∀ r ∈ s.returned, r.asked = ⟨r.pick.latitude, r.pick.longitude⟩
  below : s.belowPops = 0

theorem waiting_false_iff (s : State K) :
    s.waiting = false ↔ ∀ c ∈ s.confirmations, c.waiting = false := by
  simp [State.waiting]

/-- Nothing is awaited, so nothing that is awaited can be disturbed. -/
theorem Settled.undisturbed {s t : State K} (settled : Settled s)
    (hquiet : ∀ c ∈ s.confirmations, c.waiting = false)
    (hconfirmations : t.confirmations = s.confirmations) (hreturned : t.returned = s.returned)
    (hbelow : t.belowPops = s.belowPops) : Settled t where
  awaited c hc hwaiting := by
    rw [hconfirmations] at hc
    exact absurd hwaiting (by rw [hquiet c hc]; exact Bool.false_ne_true)
  one := hconfirmations ▸ settled.one
  returned := hreturned ▸ settled.returned
  below := hbelow.trans settled.below

/-- The button is pressed while no address is awaited. -/
theorem Settled.asking {s : State K} (settled : Settled s) {point : LatLng K}
    (hquiet : ∀ c ∈ s.confirmations, c.waiting = false) (honTop : s.route = .onTop)
    (hmarked : s.currentLocation = some point) :
    Settled { s with confirmations := s.confirmations ++ [⟨point, true⟩] } where
  awaited c hc hwaiting := by
    rcases List.mem_append.mp hc with hold | hnew
    · exact absurd hwaiting (by rw [hquiet c hold]; exact Bool.false_ne_true)
    · cases List.mem_singleton.mp hnew
      exact ⟨honTop, hmarked⟩
  one := by
    have hnone : s.confirmations.countP Confirmation.waiting = 0 :=
      List.countP_eq_zero.mpr (fun c hc => by rw [hquiet c hc]; exact Bool.false_ne_true)
    rw [List.countP_append, hnone]
    exact Nat.le_refl _
  returned := settled.returned
  below := settled.below

/-- The address that was awaited arrives, and the screen is closed with it. -/
theorem Settled.answered {s : State K} (settled : Settled s) {i : Nat} {c : Confirmation K}
    (hc : s.confirmations[i]? = some c) (hwaiting : c.waiting = true) (address : String) :
    Settled ((s.settle i c).pop c.asked address) := by
  obtain ⟨honTop, hmarked⟩ := settled.awaited c (List.mem_of_getElem? hc) hwaiting
  have hcount := countP_set_add Confirmation.waiting { c with waiting := false } hc
  simp only [hwaiting, if_true, Bool.false_eq_true, if_false] at hcount
  have hone := settled.one
  have hnone : (s.confirmations.set i { c with waiting := false }).countP
      Confirmation.waiting = 0 := by omega
  have hpop : (s.settle i c).pop c.asked address = { s.settle i c with
      route := .closing
      returned := s.returned ++ [⟨⟨address, c.asked.latitude, c.asked.longitude⟩, c.asked⟩] } := by
    simp [State.pop, State.settle, honTop, hmarked]
  rw [hpop]
  refine ⟨?_, hnone.le.trans (Nat.zero_le _), ?_, settled.below⟩
  · intro d hd hdwaiting
    exact absurd hdwaiting (List.countP_eq_zero.mp hnone d hd)
  · intro r hr
    rcases List.mem_append.mp hr with hold | hnew
    · exact settled.returned r hold
    · cases List.mem_singleton.mp hnew
      rfl

theorem step_settled {s t : State K} {a : Action K} (ok : Ok s) (settled : Settled s)
    (patient : Patient s a) (h : step screen user s a = some t) : Settled t := by
  cases hkind : a.isLocating with
  | true =>
    -- while the position is looked for there is nothing to confirm
    obtain ⟨hopen, hconfirmations, _, hreturned, hbelow, _⟩ := step_locating hkind h
    have hempty := (ok.unmarked (ok.loading (ok.isLoading_of_locating hopen))).1
    refine settled.undisturbed ?_ hconfirmations hreturned hbelow
    rw [hempty]
    exact fun _ h => absurd h List.not_mem_nil
  | false =>
    cases a with
    | tapMap point =>
      have hquiet := (waiting_false_iff s).mp patient
      simp only [step] at h
      split at h
      · cases h
        exact settled.undisturbed hquiet rfl rfl rfl
      · cases h
    | confirm =>
      have hquiet := (waiting_false_iff s).mp patient
      simp only [step] at h
      split at h
      · rename_i honTop
        cases h
        unfold State.confirm
        split
        · rename_i hmarked
          exact settled.asking hquiet honTop hmarked
        · rename_i hmarked
          exact settled.asking hquiet honTop hmarked
        · exact settled.undisturbed hquiet rfl rfl rfl
        · obtain ⟨_, _, _, hconfirmations, _, hreturned, hbelow⟩ :=
            showSnackBar_kept s "Select a Location"
          exact settled.undisturbed hquiet hconfirmations hreturned hbelow
      · cases h
    | addressAnswers i placeMarks =>
      simp only [step] at h
      split at h
      · cases h
      · rename_i c hc
        split at h
        · rename_i hwaiting
          cases h
          exact settled.answered hc hwaiting _
        · cases h
    | back =>
      have hquiet := (waiting_false_iff s).mp patient
      simp only [step] at h
      split at h
      · cases h
        exact settled.undisturbed hquiet rfl rfl rfl
      · cases h
    | transitionEnds =>
      simp only [step] at h
      split at h
      · rename_i hclosing
        cases h
        refine ⟨?_, settled.one, settled.returned, settled.below⟩
        intro c hc hwaiting
        cases hclosing.symm.trans (settled.awaited c hc hwaiting).1
      · cases h
    | _ => cases hkind

/-- A user who waits for the address gets one result at most, whose address was
asked for the very coordinates it comes with, and the screen below stays. -/
theorem returned_patiently (acts : List (Action K)) (s : State K)
    (hrun : run (step screen user) initial acts = some s)
    (patient : Along (step screen user) Patient initial acts) :
    s.returned.length ≤ 1 ∧ s.belowPops = 0 ∧
      ∀ r ∈ s.returned, r.asked = ⟨r.pick.latitude, r.pick.longitude⟩ := by
  have hkept := run_invariant_along (fun u => Ok u ∧ Settled u) Patient
    (fun u a v hu hp h => ⟨step_ok hu.1 h, step_settled hu.1 hu.2 hp h⟩) hrun patient
    ⟨initial_ok, ⟨fun _ h => absurd h List.not_mem_nil, Nat.zero_le _,
      fun _ h => absurd h List.not_mem_nil, rfl⟩⟩
  exact ⟨hkept.1.returned, hkept.2.below, hkept.2.returned⟩

theorem returned_patiently_tappedPoint : ∃ s, run (step .landlord none) initial tappedPoint =
    some s ∧ s.returned.map (fun r => r.pick.address) = ["null , Patan, Lalitpur"] ∧
      ∀ r ∈ s.returned, r.asked = ⟨r.pick.latitude, r.pick.longitude⟩ := by
  obtain ⟨s, hrun, haddress⟩ := exists_of_check (step .landlord none) initial tappedPoint
    (fun s => s.returned.map (fun r => r.pick.address) = ["null , Patan, Lalitpur"]) (by decide)
  have patient : Along (step .landlord none) Patient initial tappedPoint := by
    refine ⟨trivial, ?_⟩
    rintro _ ⟨⟩
    refine ⟨trivial, ?_⟩
    rintro _ ⟨⟩
    refine ⟨trivial, ?_⟩
    rintro _ ⟨⟩
    refine ⟨rfl, ?_⟩
    rintro _ ⟨⟩
    refine ⟨rfl, ?_⟩
    rintro _ ⟨⟩
    exact ⟨trivial, fun _ _ => trivial⟩
  exact ⟨s, hrun, haddress, (returned_patiently tappedPoint s hrun patient).2.2⟩

end Returned

end LocationScreen
