import Gharsathi.LandlordView
import Gharsathi.LocationChange
import Gharsathi.PostedLocation
import Gharsathi.PreferenceSaving

/-!
# What the screens report about their writes

Four screens write and report: booking a room, posting one, saving preferences
and changing the location of a room. Every message is kept here with the
operation that showed it. A booking and a change of location report success
before their write has gone through, a post and a save after it, but whether or
not it was rejected.
-/

namespace WriteReports

open DartStrings DartValues FirestoreCollection Models Runs

/-- A write operation, as the index of the call of its screen. -/
inductive Operation where
  | booking (i : Nat)
  | posting (i : Nat)
  | saving (i : Nat)
  | location (i : Nat)
  deriving DecidableEq

structure Report where
  operation : Option Operation
  message : String
  deriving DecidableEq

structure State (K : Type) where
  booking : Booking.State K
  posting : PostingScreen.State K
  saving : PreferenceSaving.State K
  location : LocationChange.State K
  reports : List Report

inductive Action (K : Type) where
  | booking (a : Booking.Action)
  | posting (a : PostingScreen.Action K)
  | saving (a : PreferenceSaving.Action K)
  | location (a : LocationChange.Action K)

/-- What the four screens start from. -/
structure Setup (K : Type) where
  listed : Collection String (PostedRoom K)
  landlord : Option PostingScreen.User
  rooms : Collection String (Map K)
  tenant : Option PreferenceServices.User
  screen : PreferenceScreen.ScreenState K
  userPreference : Collection String (Map K)
  roomId : String
  location : String

section Machine
variable {K : Type}

def Setup.initial (setup : Setup K) : State K where
  booking := Booking.initial setup.listed
  posting := PostingScreen.initial setup.landlord setup.rooms
  saving := PreferenceSaving.initial setup.tenant setup.screen setup.userPreference
  location := LocationChange.initial setup.rooms setup.roomId setup.location
  reports := []

def bookingOf : Booking.Action → Option Operation
  | .test i => some (.booking i)
  | .queryFails i _ => some (.booking i)
  | _ => none

def postingOf : PostingScreen.Action K → Option Operation
  | .finish i => some (.posting i)
  | _ => none

def savingOf : PreferenceSaving.Action K → Option Operation
  | .finish i => some (.saving i)
  | _ => none

/-- A pick starts the call that comes next. -/
def locationOf (s : LocationChange.State K) : LocationChange.Action K → Option Operation
  | .picked _ => some (.location s.changes.length)
  | .get i => some (.location i)
  | .updateFails i _ => some (.location i)
  | _ => none

/-- The messages a step has added, as reports of an operation. -/
def newReports (operation : Option Operation) (before after : List String) : List Report :=
  (after.drop before.length).map (fun message => ⟨operation, message⟩)

variable [IntCast K]

def step (T : DoubleText K) (s : State K) : Action K → Option (State K)
  | .booking a =>
    match Booking.step s.booking a with
    | none => none
    | some t => some { s with
        booking := t
        reports := s.reports ++ newReports (bookingOf a) s.booking.shown t.shown }
  | .posting a =>
    match PostingScreen.step T s.posting a with
    | none => none
    | some t => some { s with
        posting := t
        reports := s.reports ++ newReports (postingOf a) s.posting.shown t.shown }
  | .saving a =>
    match PreferenceSaving.step T s.saving a with
    | none => none
    | some t => some { s with
        saving := t
        reports := s.reports ++ newReports (savingOf a) s.saving.shown t.shown }
  | .location a =>
    match LocationChange.step s.location a with
    | none => none
    | some t => some { s with
        location := t
        reports := s.reports ++ newReports (locationOf s.location a) s.location.shown t.shown }

end Machine

section Statements
variable {K : Type}

def isSuccess (message : String) : Bool :=
  decide (message ∈ ["Room Booked Successfully", "Room added successfully",
    "Preferences saved successfully!", "Location Updated Successfully"])

def isFailure (message : String) : Bool := "Failed".toList.isPrefixOf message.toList

def Posted (s : PostingScreen.State K) (i : Nat) : Prop :=
  ∃ room d, PostedLocation.PostedBy s i room d

def Saved (s : PreferenceSaving.State K) (i : Nat) : Prop :=
  ∃ save, s.saves[i]? = some save ∧ (save.phase = .settled true ∨ save.phase = .finished true)

/-- The write of the operation has gone through. -/
def Committed (s : State K) : Operation → Prop
  | .booking i => ∃ inv, s.booking.invocations[i]? = some inv ∧ inv.phase = .booked
  | .posting i => Posted s.posting i
  | .saving i => Saved s.saving i
  | .location i => ∃ change, s.location.changes[i]? = some change ∧ change.phase = .updated

/-- The write of the operation was rejected, and its call has come to its end. -/
def Rejected (s : State K) : Operation → Prop
  | .booking i => ∃ inv, s.booking.invocations[i]? = some inv ∧ inv.phase = .addFailed
  | .posting i => ∃ post room, s.posting.posts[i]? = some post ∧ post.phase = .finished room none
  | .saving i => ∃ save, s.saving.saves[i]? = some save ∧ save.phase = .finished false
  | .location i => ∃ change, s.location.changes[i]? = some change ∧ change.phase = .updateFailed

structure Honest (s : State K) : Prop where
  success : ∀ report ∈ s.reports, isSuccess report.message = true →
    ∃ operation, report.operation = some operation ∧ Committed s operation
  failure : ∀ operation, Rejected s operation →
    ∃ report ∈ s.reports, report.operation = some operation ∧ isFailure report.message = true

variable [IntCast K]

/-- A post whose write was rejected leaves the form as it is. -/
def FormKept (T : DoubleText K) (s : State K) (a : Action K) : Prop :=
  ∀ i post room t, a = .posting (.finish i) → s.posting.posts[i]? = some post →
    post.phase = .created room none → step T s a = some t → t.posting.form = s.posting.form

/-- The property of a run. -/
structure HonestRun (T : DoubleText K) (setup : Setup K) (acts : List (Action K)) : Prop where
  reached : ∀ past rest s, acts = past ++ rest → run (step T) setup.initial past = some s → Honest s
  form : Along (step T) (FormKept T) setup.initial acts

omit [IntCast K] in
/-- No booking gets past its check, no location is changed, and no post or save
goes on after its write was rejected. -/
structure Truthful (s : State K) (a : Action K) : Prop where
  booking : ∀ i inv, a = .booking (.test i) → s.booking.invocations[i]? = some inv →
    inv.phase ≠ .answered false
  posting : ∀ i post room, a = .posting (.finish i) → s.posting.posts[i]? = some post →
    post.phase ≠ .created room none
  saving : ∀ i save, a = .saving (.finish i) → s.saving.saves[i]? = some save →
    save.phase ≠ .settled false
  location : ∀ pick, a ≠ .location (.picked pick)

end Statements

section Kept
variable {K : Type}

theorem newReports_same (operation : Option Operation) (shown : List String) :
    newReports operation shown shown = [] := by
  simp [newReports]

theorem newReports_concat (operation : Option Operation) (shown : List String) (message : String) :
    newReports operation shown (shown ++ [message]) = [⟨operation, message⟩] := by
  simp [newReports]

theorem bookingFailure_not_success (code : String) :
    isSuccess ("Failed to book room. ERROR CODE: " ++ code) = false := by
  have hhead : ∀ message : String, message.toList.head? ≠ some 'F' →
      "Failed to book room. ERROR CODE: " ++ code ≠ message := by
    rintro _ hne rfl
    exact hne (by simp)
  simp only [isSuccess, List.mem_cons, List.not_mem_nil, or_false, decide_eq_false_iff_not, not_or]
  exact ⟨hhead _ (by decide), hhead _ (by decide), hhead _ (by decide), hhead _ (by decide)⟩

/-- A post or a save whose write has gone through. -/
def Awaited (s : State K) : Operation → Prop
  | .posting i => Posted s.posting i
  | .saving i => Saved s.saving i
  | _ => False

theorem committed_of_awaited {s : State K} {operation : Operation} (h : Awaited s operation) :
    Committed s operation := by
  cases operation with
  | booking i => exact h.elim
  | posting i => exact h
  | saving i => exact h
  | location i => exact h.elim

/-- No write was rejected, and what was reported to have gone through has. -/
structure Kept (s : State K) : Prop where
  booking : ∀ inv ∈ s.booking.invocations,
    inv.phase ≠ .adding ∧ inv.phase ≠ .booked ∧ inv.phase ≠ .addFailed
  posting : ∀ post ∈ s.posting.posts, ∀ room, post.phase ≠ .finished room none
  saving : ∀ save ∈ s.saving.saves, save.phase ≠ .finished false
  location : s.location.changes = []
  reported : ∀ report ∈ s.reports, isSuccess report.message = true →
    ∃ operation, report.operation = some operation ∧ Awaited s operation

theorem kept_initial (setup : Setup K) : Kept setup.initial where
  booking _ hmem := absurd hmem List.not_mem_nil
  posting _ hmem := absurd hmem List.not_mem_nil
  saving _ hmem := absurd hmem List.not_mem_nil
  location := rfl
  reported _ hmem := absurd hmem List.not_mem_nil

theorem kept_honest {s : State K} (hs : Kept s) : Honest s := by
  constructor
  · intro report hmem hsuccess
    obtain ⟨operation, hop, hawaited⟩ := hs.reported report hmem hsuccess
    exact ⟨operation, hop, committed_of_awaited hawaited⟩
  · intro operation hrejected
    cases operation with
    | booking i =>
      obtain ⟨inv, hinv, hphase⟩ := hrejected
      exact absurd hphase (hs.booking inv (List.mem_of_getElem? hinv)).2.2
    | posting i =>
      obtain ⟨post, room, hpost, hphase⟩ := hrejected
      exact absurd hphase (hs.posting post (List.mem_of_getElem? hpost) room)
    | saving i =>
      obtain ⟨save, hsave, hphase⟩ := hrejected
      exact absurd hphase (hs.saving save (List.mem_of_getElem? hsave))
    | location i =>
      obtain ⟨change, hchange, _⟩ := hrejected
      rw [hs.location] at hchange
      cases hchange

/-- A step whose messages are true keeps the reports true. -/
theorem reported_step {s t : State K} (hs : Kept s) {reports : List Report}
    (hreports : t.reports = s.reports ++ reports)
    (hnew : ∀ report ∈ reports, isSuccess report.message = true →
      ∃ operation, report.operation = some operation ∧ Awaited t operation)
    (hold : ∀ operation, Awaited s operation → Awaited t operation) :
    ∀ report ∈ t.reports, isSuccess report.message = true →
      ∃ operation, report.operation = some operation ∧ Awaited t operation := by
  intro report hmem hsuccess
  rw [hreports] at hmem
  rcases List.mem_append.mp hmem with hmem | hmem
  · obtain ⟨operation, hop, hawaited⟩ := hs.reported report hmem hsuccess
    exact ⟨operation, hop, hold operation hawaited⟩
  · exact hnew report hmem hsuccess

/-- The reports of a step that shows at most one message, and no success. -/
theorem quiet_reports {operation : Option Operation} {before after : List String}
    (h : after = before ∨ ∃ message, after = before ++ [message] ∧ isSuccess message = false) :
    ∀ report ∈ newReports operation before after, isSuccess report.message = false := by
  intro report hmem
  rcases h with rfl | ⟨message, rfl, hquiet⟩
  · rw [newReports_same] at hmem
    cases hmem
  · rw [newReports_concat, List.mem_singleton] at hmem
    rw [hmem]
    exact hquiet

end Kept

section Steps
variable {K : Type}

/-- Bookings that are refused or still asked show no success. -/
theorem booking_step [IntCast K] {s t : Booking.State K} {a : Booking.Action}
    (hs : ∀ inv ∈ s.invocations, inv.phase ≠ .adding ∧ inv.phase ≠ .booked ∧ inv.phase ≠ .addFailed)
    (truthful : ∀ i inv, a = .test i → s.invocations[i]? = some inv → inv.phase ≠ .answered false)
    (h : Booking.step s a = some t) :
    (∀ inv ∈ t.invocations, inv.phase ≠ .adding ∧ inv.phase ≠ .booked ∧ inv.phase ≠ .addFailed) ∧
      (t.shown = s.shown ∨ ∃ message, t.shown = s.shown ++ [message] ∧
        isSuccess message = false) := by
  cases Booking.step_did h with
  | notLoggedIn => exact ⟨hs, Or.inr ⟨_, rfl, by decide⟩⟩
  | opened => exact ⟨forall_mem_concat hs ⟨nofun, nofun, nofun⟩, Or.inl rfl⟩
  | answered => exact ⟨forall_mem_set hs ⟨nofun, nofun, nofun⟩, Or.inl rfl⟩
  | queryFailed =>
    exact ⟨forall_mem_set hs ⟨nofun, nofun, nofun⟩,
      Or.inr ⟨_, rfl, bookingFailure_not_success _⟩⟩
  | refused => exact ⟨forall_mem_set hs ⟨nofun, nofun, nofun⟩, Or.inr ⟨_, rfl, by decide⟩⟩
  | issued hinv hphase => exact absurd hphase (truthful _ _ rfl hinv)
  | committed hinv hphase => exact absurd hphase (hs _ (List.mem_of_getElem? hinv)).1
  | addFailed hinv hphase => exact absurd hphase (hs _ (List.mem_of_getElem? hinv)).1

theorem next_not_finished {T : DoubleText K} {user : Option PostingScreen.User}
    {form : PostingScreen.Form K} {post : PostingScreen.Post K} {index length : Nat}
    {urls : List String} {today : String} (room : Rooms K) (storedAs : Option String) :
    (post.next T user form index length urls today).phase ≠ .finished room storedAs := by
  have hmoved := PostingScreen.next_moved T user form post index length urls today
  generalize post.next T user form index length urls today = new at hmoved ⊢
  cases hmoved <;> nofun

/-- A post that finishes after its write went through is stored. -/
theorem posting_step {T : DoubleText K} {s t : PostingScreen.State K} {a : PostingScreen.Action K}
    (hs : ∀ post ∈ s.posts, ∀ room, post.phase ≠ .finished room none)
    (truthful : ∀ i post room, a = .finish i → s.posts[i]? = some post →
      post.phase ≠ .created room none)
    (h : PostingScreen.step T s a = some t) :
    (∀ post ∈ t.posts, ∀ room, post.phase ≠ .finished room none) ∧
      (t.shown = s.shown ∨ ∃ i message, a = .finish i ∧ t.shown = s.shown ++ [message] ∧
        Posted t i) := by
  cases PostingScreen.step_did h with
  | posted => exact ⟨forall_mem_concat hs (fun _ => next_not_finished _ _), Or.inl rfl⟩
  | uploaded => exact ⟨forall_mem_set hs (fun _ => next_not_finished _ _), Or.inl rfl⟩
  | committed => exact ⟨forall_mem_set hs (fun _ => nofun), Or.inl rfl⟩
  | addFailed => exact ⟨forall_mem_set hs (fun _ => nofun), Or.inl rfl⟩
  | @finished i post room storedAs hpost hphase =>
    cases storedAs with
    | none => exact absurd hphase (truthful i post room rfl hpost)
    | some id =>
      refine ⟨forall_mem_set hs (fun _ => nofun), Or.inr ⟨i, _, rfl, rfl, room,
        ⟨id, room.toJson⟩, ⟨{ post with phase := .finished room (some id) }, ?_, rfl, rfl⟩, rfl⟩⟩
      exact getElem?_set_of_some _ hpost
  | _ => exact ⟨hs, Or.inl rfl⟩

/-- A save that finishes after its write went through has gone through. -/
theorem saving_step {T : DoubleText K} {s t : PreferenceSaving.State K}
    {a : PreferenceSaving.Action K} (hs : ∀ save ∈ s.saves, save.phase ≠ .finished false)
    (truthful : ∀ i save, a = .finish i → s.saves[i]? = some save → save.phase ≠ .settled false)
    (h : PreferenceSaving.step T s a = some t) :
    (∀ save ∈ t.saves, save.phase ≠ .finished false) ∧
      (t.shown = s.shown ∨ ∃ message, t.shown = s.shown ++ [message] ∧
        (isSuccess message = false ∨ ∃ i, a = .finish i ∧ Saved t i)) := by
  cases PreferenceSaving.step_did h with
  | edited => exact ⟨hs, Or.inl rfl⟩
  | notLoggedIn => exact ⟨hs, Or.inr ⟨_, rfl, Or.inl (by decide)⟩⟩
  | threw => exact ⟨hs, Or.inl rfl⟩
  | started => exact ⟨forall_mem_concat hs nofun, Or.inl rfl⟩
  | committed => exact ⟨forall_mem_set hs nofun, Or.inl rfl⟩
  | setFailed => exact ⟨forall_mem_set hs nofun, Or.inl rfl⟩
  | @finished i save committed hsave hphase =>
    cases committed with
    | false => exact absurd hphase (truthful i save rfl hsave)
    | true =>
      refine ⟨forall_mem_set hs nofun, Or.inr ⟨_, rfl,
        Or.inr ⟨i, rfl, { save with phase := .finished true }, ?_, Or.inr rfl⟩⟩⟩
      exact getElem?_set_of_some _ hsave

/-- What has gone through stays so. -/
theorem saved_step {T : DoubleText K} {s t : PreferenceSaving.State K}
    {a : PreferenceSaving.Action K} (h : PreferenceSaving.step T s a = some t) {i : Nat}
    (hs : Saved s i) : Saved t i := by
  obtain ⟨save, hsave, hdone⟩ := hs
  have moved : ∀ {j : Nat} {old : PreferenceSaving.Save K} (phase : PreferenceSaving.Phase),
      s.saves[j]? = some old →
      (j = i → phase = .settled true ∨ phase = .finished true) →
      ∃ save', (s.saves.set j { old with phase := phase })[i]? = some save' ∧
        (save'.phase = .settled true ∨ save'.phase = .finished true) := by
    intro j old phase hold hphase
    by_cases hij : j = i
    · subst hij
      exact ⟨{ old with phase := phase }, getElem?_set_of_some _ hold, hphase rfl⟩
    · exact ⟨save, by rw [List.getElem?_set_ne hij]; exact hsave, hdone⟩
  have same : ∀ {j : Nat} {old : PreferenceSaving.Save K}, s.saves[j]? = some old → j = i →
      old = save := by
    rintro j old hold rfl
    exact Option.some.inj (hold.symm.trans hsave)
  cases PreferenceSaving.step_did h with
  | started user preferences =>
    obtain ⟨hi, _⟩ := List.getElem?_eq_some_iff.mp hsave
    exact ⟨save, (List.getElem?_append_left hi).trans hsave, hdone⟩
  | committed hold hphase =>
    refine moved _ hold (fun hij => ?_)
    rw [same hold hij] at hphase
    simp [hphase] at hdone
  | setFailed hold hphase =>
    refine moved _ hold (fun hij => ?_)
    rw [same hold hij] at hphase
    simp [hphase] at hdone
  | @finished j old committed hold hphase =>
    refine moved _ hold (fun hij => ?_)
    rw [same hold hij] at hphase
    cases committed with
    | true => exact Or.inr rfl
    | false => simp [hphase] at hdone
  | _ => exact ⟨save, hsave, hdone⟩

variable [IntCast K]

theorem step_kept {T : DoubleText K} {s t : State K} {a : Action K} (hs : Kept s)
    (truthful : Truthful s a) (h : step T s a = some t) : Kept t := by
  cases a with
  | booking a =>
    simp only [step] at h
    split at h
    · cases h
    · rename_i b hb
      cases h
      obtain ⟨hbooking, hshown⟩ := booking_step hs.booking
        (fun i inv ha => truthful.booking i inv (by rw [ha])) hb
      refine ⟨hbooking, hs.posting, hs.saving, hs.location, reported_step hs rfl ?_ ?_⟩
      · intro report hmem hsuccess
        rw [quiet_reports hshown report hmem] at hsuccess
        cases hsuccess
      · intro operation h
        cases operation <;> exact h
  | posting a =>
    simp only [step] at h
    split at h
    · cases h
    · rename_i p hp
      cases h
      obtain ⟨hposting, hshown⟩ := posting_step hs.posting
        (fun i post room ha => truthful.posting i post room (by rw [ha])) hp
      refine ⟨hs.booking, hposting, hs.saving, hs.location, reported_step hs rfl ?_ ?_⟩
      · intro report hmem _
        rcases hshown with hsame | ⟨i, message, rfl, hshown, hposted⟩
        · rw [hsame, newReports_same] at hmem
          cases hmem
        · rw [hshown, newReports_concat, List.mem_singleton] at hmem
          exact ⟨.posting i, by rw [hmem]; rfl, hposted⟩
      · intro operation h
        cases operation with
        | posting i =>
          obtain ⟨room, d, hposted⟩ := h
          exact ⟨room, d, PostedLocation.step_postedBy hp hposted⟩
        | _ => exact h
  | saving a =>
    simp only [step] at h
    split at h
    · cases h
    · rename_i p hp
      cases h
      obtain ⟨hsaving, hshown⟩ := saving_step hs.saving
        (fun i save ha => truthful.saving i save (by rw [ha])) hp
      refine ⟨hs.booking, hs.posting, hsaving, hs.location, reported_step hs rfl ?_ ?_⟩
      · intro report hmem hsuccess
        rcases hshown with hsame | ⟨message, hshown, hquiet | ⟨i, rfl, hsaved⟩⟩
        · rw [hsame, newReports_same] at hmem
          cases hmem
        · rw [quiet_reports (Or.inr ⟨message, hshown, hquiet⟩) report hmem] at hsuccess
          cases hsuccess
        · rw [hshown, newReports_concat, List.mem_singleton] at hmem
          exact ⟨.saving i, by rw [hmem]; rfl, hsaved⟩
      · intro operation h
        cases operation with
        | saving i => exact saved_step hp h
        | _ => exact h
  | location a =>
    simp only [step] at h
    split at h
    · cases h
    · rename_i l hl
      cases h
      rcases LocationChange.step_changes hl hs.location with ⟨hchanges, hshown⟩ | ⟨pick, rfl⟩
      · refine ⟨hs.booking, hs.posting, hs.saving, hchanges, reported_step hs rfl ?_ ?_⟩
        · intro report hmem _
          rw [hshown, newReports_same] at hmem
          cases hmem
        · intro operation h
          cases operation <;> exact h
      · exact absurd rfl (truthful.location pick)

end Steps

section Untruthful
variable {K : Type}

/-- Success that was reported in an honest state is that of a committed write. -/
theorem committed_of_honest {s t : State K} {operation : Operation} {message : String}
    {before : List String} (honest : Honest t)
    (hreports : t.reports = s.reports ++ newReports (some operation) before (before ++ [message]))
    (hsuccess : isSuccess message = true) : Committed t operation := by
  have hmem : ⟨some operation, message⟩ ∈ t.reports := by
    rw [hreports, newReports_concat]
    exact List.mem_append_right _ List.mem_cons_self
  obtain ⟨operation', hop, hcommitted⟩ := honest.success _ hmem hsuccess
  cases hop
  exact hcommitted

theorem getElem?_set_some {τ : Type} {xs : List τ} {i : Nat} {x y z : τ} (hx : xs[i]? = some x)
    (hz : (xs.set i y)[i]? = some z) : z = y :=
  Option.some.inj (hz.symm.trans (getElem?_set_of_some y hx))

variable [IntCast K]

theorem truthful_of_honest {T : DoubleText K} {s : State K} {a : Action K}
    (honest : ∀ t, step T s a = some t → Honest t) : Truthful s a := by
  constructor
  · rintro i inv rfl hinv hphase
    have hstep : Booking.step s.booking (.test i) =
        some ((s.booking.move i inv .adding).show "Room Booked Successfully") := by
      simp [Booking.step, Booking.State.atPhase, hinv, hphase]
    have hcommitted := committed_of_honest (s := s) (honest _ (by simp only [step, hstep]; rfl)) rfl
      (by decide)
    obtain ⟨inv', hinv', hbooked⟩ := hcommitted
    rw [getElem?_set_some hinv hinv'] at hbooked
    cases hbooked
  · rintro i post room rfl hpost hphase
    obtain ⟨amenities, phase⟩ := post
    cases hphase
    have hcommitted := committed_of_honest (s := s)
      (honest _ (by simp only [step, PostingScreen.step, hpost]; rfl)) rfl (by decide)
    obtain ⟨room', d, ⟨post', hpost', _, hstored⟩, _⟩ := hcommitted
    rw [getElem?_set_some hpost hpost'] at hstored
    cases hstored
  · rintro i save rfl hsave hphase
    obtain ⟨user, preferences, phase⟩ := save
    cases hphase
    have hcommitted := committed_of_honest (s := s)
      (honest _ (by simp only [step, PreferenceSaving.step, hsave]; rfl)) rfl (by decide)
    obtain ⟨save', hsave', hdone⟩ := hcommitted
    rw [getElem?_set_some hsave hsave'] at hdone
    rcases hdone with hdone | hdone
    · cases hdone
    · cases hdone
  · rintro pick rfl
    have hcommitted := committed_of_honest (s := s)
      (honest _ (by simp only [step, LocationChange.step]; rfl)) rfl (by decide)
    obtain ⟨change, hchange, hdone⟩ := hcommitted
    rw [List.getElem?_concat_length] at hchange
    cases hchange
    cases hdone

end Untruthful

/-- Every message of success stands for a write that has gone through, every
rejected write shows a failure, and rejected posts keep the form, in all states
of a run, if and only if each of its steps is truthful. -/
theorem honestRun_iff {K : Type} [IntCast K] (T : DoubleText K) (setup : Setup K)
    (acts : List (Action K)) :
    HonestRun T setup acts ↔
      Along (step T) (fun s a => Truthful s a) setup.initial acts := by
  constructor
  · intro h
    rw [along_iff]
    rintro past a rest s rfl hrun
    exact truthful_of_honest (fun t hstep =>
      h.reached (past ++ [a]) rest t (by simp) (run_snoc.mpr ⟨s, hrun, hstep⟩))
  · intro h
    constructor
    · rintro past rest s rfl hrun
      have hkept : Kept s := run_invariant_along Kept (fun s a => Truthful s a)
        (fun _ _ _ hs truthful hstep => step_kept hs truthful hstep) hrun (along_append h)
        (kept_initial setup)
      exact kept_honest hkept
    · rw [along_iff]
      rintro past a rest s heq hrun i post room t rfl hpost hphase hstep
      exact absurd hphase ((along_iff.mp h past _ rest s heq hrun).posting i post room rfl hpost)

def sampleSetup : Setup ℚ where
  listed := LandlordView.sampleRooms
  landlord := some PostedLocation.landlord
  rooms := Collection.empty
  tenant := none
  screen := PreferenceScreen.initState
  userPreference := Collection.empty
  roomId := "r1"
  location := "Patan"

/-- The write of a post is rejected, and the post goes on. -/
def rejectedPost : List (Action ℚ) :=
  [.posting (.pick ⟨"Kirtipur", 27, 85⟩), .posting (.edit (.title "Quiet room")),
    .posting (.edit (.price "5000.0")), .posting (.edit (.description "One bed")),
    .posting (.post "2024-04-01"), .posting (.addFails 0), .posting (.finish 0)]

/-- The write of a booking has not finished. -/
def pendingBooking : List (Action ℚ) := (LandlordView.bookingRun .search).map .booking

/-- Success is shown for a post that was rejected and for a booking that has
not gone through. -/
theorem not_honestRun :
    ¬ HonestRun rationalText sampleSetup rejectedPost ∧
    ¬ HonestRun rationalText sampleSetup pendingBooking := by
  constructor
  · intro h
    obtain ⟨s, hrun, hreport, hposts⟩ := exists_of_check (step rationalText) sampleSetup.initial
      rejectedPost (fun s => ⟨some (.posting 0), "Room added successfully"⟩ ∈ s.reports ∧
        ∀ post ∈ s.posting.posts, (PostedLocation.storedAs? post.phase).isNone = true) (by decide)
    obtain ⟨operation, hop, hcommitted⟩ :=
      (h.reached rejectedPost [] s (List.append_nil _).symm hrun).success _ hreport (by decide)
    cases hop
    obtain ⟨room, d, ⟨post, hpost, _, hstored⟩, _⟩ := hcommitted
    have hnone := hposts post (List.mem_of_getElem? hpost)
    rw [hstored] at hnone
    cases hnone
  · intro h
    obtain ⟨s, hrun, hreport, hinvocations⟩ := exists_of_check (step rationalText)
      sampleSetup.initial pendingBooking
      (fun s => ⟨some (.booking 0), "Room Booked Successfully"⟩ ∈ s.reports ∧
        ∀ inv ∈ s.booking.invocations, inv.phase ≠ .booked) (by decide)
    obtain ⟨operation, hop, hcommitted⟩ :=
      (h.reached pendingBooking [] s (List.append_nil _).symm hrun).success _ hreport (by decide)
    cases hop
    obtain ⟨inv, hinv, hbooked⟩ := hcommitted
    exact hinvocations inv (List.mem_of_getElem? hinv) hbooked

end WriteReports
