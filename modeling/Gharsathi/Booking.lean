import Gharsathi.RoomDetails
import Gharsathi.Runs

/-!
# Booking a room

`Book` runs on the room page in separate steps: it queries `bookingList` for a
record of this tenant with the page's title, tests the answer, and hands a new
record to the booking service, whose `add` nobody awaits. Any number of
invocations may be under way at once. The landlord's page queries the same
collection by the id of the room document.
-/

namespace Booking

open DartDouble DartValues FirestoreCollection Models RoomDetails Runs

structure Tenant where
  uid : String
  displayName : Option String
  deriving DecidableEq

/-- How far an invocation of `Book` has come. -/
inductive Phase where
  | querying
  | answered (found : Bool)
  | refused
  | adding
  | booked
  | queryFailed
  | addFailed
  deriving DecidableEq

/-- One invocation; `room` is the id of the document its page was opened for. -/
structure Invocation (K : Type) where
  tenant : Tenant
  opening : Opening
  room : String
  page : RoomPage K
  bookDate : Int
  phase : Phase

structure State (K : Type) where
  rooms : Collection String (PostedRoom K)
  bookings : Collection String (Map K)
  invocations : List (Invocation K)
  shown : List String

inductive Action where
  | tap (user : Option Tenant) (opening : Opening) (room : String) (now : Int)
  | query (i : Nat)
  | queryFails (i : Nat) (code : String)
  | test (i : Nat)
  | commit (i : Nat) (id : String)
  | addFails (i : Nat)
  deriving DecidableEq

section Machine
variable {K : Type}

def initial (rooms : Collection String (PostedRoom K)) : State K :=
  ⟨rooms, Collection.empty, [], []⟩

/-- The `Bookroom` an invocation adds. -/
def Invocation.booking (inv : Invocation K) : Bookroom where
  bookedBy := inv.tenant.displayName
  bookDate := some inv.bookDate
  bookedHouse := some inv.page.roomTitle
  bookerUid := some inv.tenant.uid
  roomId := some inv.page.roomUid

/-- The query behind `existingBooking`: by tenant and title. -/
def existingBooking (bookings : Collection String (Map K)) (bookerUid bookedHouse : String) :
    List (DocumentSnapshot K) :=
  bookings.docs.filter
    (fun d => isEqualTo "bookerUid" bookerUid d && isEqualTo "bookedHouse" bookedHouse d)

def State.move (s : State K) (i : Nat) (inv : Invocation K) (phase : Phase) : State K :=
  { s with invocations := s.invocations.set i { inv with phase := phase } }

def State.show (s : State K) (message : String) : State K :=
  { s with shown := s.shown ++ [message] }

/-- The next step of invocation `i`, if it is in phase `phase`. -/
def State.atPhase (s : State K) (i : Nat) (phase : Phase) : Option (Invocation K) :=
  match s.invocations[i]? with
  | none => none
  | some inv => if inv.phase = phase then some inv else none

variable [IntCast K]

def step (s : State K) : Action → Option (State K)
  | .tap none _ _ _ => some (s.show "User not logged in")
  | .tap (some tenant) opening room now =>
    match s.rooms.get? room with
    | none => none
    | some r =>
      match openPage opening (postedSnapshot room r) with
      | .error _ => none
      | .ok page =>
        some { s with invocations := s.invocations ++ [⟨tenant, opening, room, page, now, .querying⟩] }
  | .query i =>
    match s.atPhase i .querying with
    | none => none
    | some inv =>
      let existing := existingBooking s.bookings inv.tenant.uid inv.page.roomTitle
      some (s.move i inv (.answered (!existing.isEmpty)))
  | .queryFails i code =>
    match s.atPhase i .querying with
    | none => none
    | some inv => some ((s.move i inv .queryFailed).show ("Failed to book room. ERROR CODE: " ++ code))
  | .test i =>
    match s.atPhase i (.answered true) with
    | some inv => some ((s.move i inv .refused).show "You have already booked this room")
    | none =>
      -- `Booking` returns without waiting for its `add`, so success is shown here
      match s.atPhase i (.answered false) with
      | some inv => some ((s.move i inv .adding).show "Room Booked Successfully")
      | none => none
  | .commit i id =>
    match s.atPhase i .adding with
    | none => none
    | some inv =>
      match s.bookings.add id inv.booking.toJson with
      | none => none
      | some bookings => some { s.move i inv .booked with bookings := bookings }
  | .addFails i =>
    match s.atPhase i .adding with
    | none => none
    | some inv => some (s.move i inv .addFailed)

/-- What a step can do, with the guard it has passed. -/
inductive Did (s : State K) : Action → State K → Prop where
  | notLoggedIn (opening : Opening) (room : String) (now : Int) :
      Did s (.tap none opening room now) (s.show "User not logged in")
  | opened {tenant : Tenant} {opening : Opening} {room : String} {now : Int} {r : PostedRoom K}
      {page : RoomPage K} (hroom : s.rooms.get? room = some r)
      (hpage : openPage opening (postedSnapshot room r) = .ok page) :
      Did s (.tap (some tenant) opening room now)
        { s with invocations := s.invocations ++ [⟨tenant, opening, room, page, now, .querying⟩] }
  | answered {i : Nat} {inv : Invocation K} (hinv : s.invocations[i]? = some inv)
      (hphase : inv.phase = .querying) :
      Did s (.query i) (s.move i inv
        (.answered (!(existingBooking s.bookings inv.tenant.uid inv.page.roomTitle).isEmpty)))
  | queryFailed {i : Nat} {code : String} {inv : Invocation K}
      (hinv : s.invocations[i]? = some inv) (hphase : inv.phase = .querying) :
      Did s (.queryFails i code)
        ((s.move i inv .queryFailed).show ("Failed to book room. ERROR CODE: " ++ code))
  | refused {i : Nat} {inv : Invocation K} (hinv : s.invocations[i]? = some inv)
      (hphase : inv.phase = .answered true) :
      Did s (.test i) ((s.move i inv .refused).show "You have already booked this room")
  | issued {i : Nat} {inv : Invocation K} (hinv : s.invocations[i]? = some inv)
      (hphase : inv.phase = .answered false) :
      Did s (.test i) ((s.move i inv .adding).show "Room Booked Successfully")
  | committed {i : Nat} {id : String} {inv : Invocation K} (hinv : s.invocations[i]? = some inv)
      (hphase : inv.phase = .adding) (fresh : s.bookings.contains id = false)
      (perm : (s.bookings.set id inv.booking.toJson).docs.Perm
        (⟨id, inv.booking.toJson⟩ :: s.bookings.docs)) :
      Did s (.commit i id)
        { s.move i inv .booked with bookings := s.bookings.set id inv.booking.toJson }
  | addFailed {i : Nat} {inv : Invocation K} (hinv : s.invocations[i]? = some inv)
      (hphase : inv.phase = .adding) : Did s (.addFails i) (s.move i inv .addFailed)

omit [IntCast K] in
theorem atPhase_eq_some {s : State K} {i : Nat} {phase : Phase} {inv : Invocation K}
    (h : s.atPhase i phase = some inv) : s.invocations[i]? = some inv ∧ inv.phase = phase := by
  unfold State.atPhase at h
  split at h
  · cases h
  · rename_i inv' hinv
    split at h
    · rename_i hphase
      cases h
      exact ⟨hinv, hphase⟩
    · cases h

theorem step_did {s t : State K} {a : Action} (h : step s a = some t) : Did s a t := by
  cases a with
  | tap user opening room now =>
    cases user with
    | none =>
      cases h
      exact .notLoggedIn opening room now
    | some tenant =>
      simp only [step] at h
      split at h
      · cases h
      · rename_i r hroom
        split at h
        · cases h
        · rename_i page hpage
          cases h
          exact .opened hroom hpage
  | query i =>
    simp only [step] at h
    split at h
    · cases h
    · rename_i inv hinv
      cases h
      obtain ⟨hget, hphase⟩ := atPhase_eq_some hinv
      exact .answered hget hphase
  | queryFails i code =>
    simp only [step] at h
    split at h
    · cases h
    · rename_i inv hinv
      cases h
      obtain ⟨hget, hphase⟩ := atPhase_eq_some hinv
      exact .queryFailed hget hphase
  | test i =>
    simp only [step] at h
    split at h
    · rename_i inv hinv
      cases h
      obtain ⟨hget, hphase⟩ := atPhase_eq_some hinv
      exact .refused hget hphase
    · split at h
      · rename_i inv hinv
        cases h
        obtain ⟨hget, hphase⟩ := atPhase_eq_some hinv
        exact .issued hget hphase
      · cases h
  | commit i id =>
    simp only [step] at h
    split at h
    · cases h
    · rename_i inv hinv
      split at h
      · cases h
      · rename_i bookings hadd
        cases h
        obtain ⟨hget, hphase⟩ := atPhase_eq_some hinv
        obtain ⟨fresh, rfl, perm⟩ := s.bookings.add_cases hadd
        exact .committed hget hphase fresh perm
  | addFails i =>
    simp only [step] at h
    split at h
    · cases h
    · rename_i inv hinv
      cases h
      obtain ⟨hget, hphase⟩ := atPhase_eq_some hinv
      exact .addFailed hget hphase

end Machine

section Started
variable {K : Type}

/-- The invocation as it was when it started. -/
def Invocation.atStart (inv : Invocation K) : Invocation K := { inv with phase := .querying }

theorem move_started {s : State K} {i : Nat} {inv : Invocation K} (phase : Phase)
    (hinv : s.invocations[i]? = some inv) :
    (s.move i inv phase).invocations.map Invocation.atStart =
      s.invocations.map Invocation.atStart := by
  change (s.invocations.set i { inv with phase := phase }).map Invocation.atStart = _
  rw [List.map_set]
  apply List.ext_getElem?
  intro j
  by_cases hij : i = j
  · subst hij
    rw [List.getElem?_set_self', List.getElem?_map, hinv]
    rfl
  · rw [List.getElem?_set_ne hij]

/-- What does not depend on the phase is carried over from the same starts. -/
theorem forall_of_started {Q : Invocation K → Prop} (free : ∀ inv, Q inv.atStart ↔ Q inv)
    {s t : State K}
    (same : t.invocations.map Invocation.atStart = s.invocations.map Invocation.atStart)
    (all : ∀ inv ∈ s.invocations, Q inv) : ∀ inv ∈ t.invocations, Q inv := by
  intro inv hinv
  have hmem : inv.atStart ∈ s.invocations.map Invocation.atStart := by
    rw [← same]
    exact List.mem_map_of_mem hinv
  obtain ⟨old, hold, heq⟩ := List.mem_map.mp hmem
  have hQ := (free old).mpr (all old hold)
  rw [heq] at hQ
  exact (free inv).mp hQ

variable [IntCast K]

/-- A step starts at most one invocation, on a page that opened for a posted
room, and changes nothing but the phase of the others. -/
theorem step_started {s t : State K} {a : Action} (h : step s a = some t) :
    t.invocations.map Invocation.atStart = s.invocations.map Invocation.atStart ∨
      ∃ tenant opening room now r page, a = .tap (some tenant) opening room now ∧
        s.rooms.get? room = some r ∧ openPage opening (postedSnapshot room r) = .ok page ∧
        t.invocations = s.invocations ++ [⟨tenant, opening, room, page, now, .querying⟩] := by
  cases step_did h with
  | notLoggedIn => exact Or.inl rfl
  | opened hroom hpage => exact Or.inr ⟨_, _, _, _, _, _, rfl, hroom, hpage, rfl⟩
  | answered hinv => exact Or.inl (move_started _ hinv)
  | queryFailed hinv => exact Or.inl (move_started _ hinv)
  | refused hinv => exact Or.inl (move_started _ hinv)
  | issued hinv => exact Or.inl (move_started _ hinv)
  | committed hinv => exact Or.inl (move_started _ hinv)
  | addFailed hinv => exact Or.inl (move_started _ hinv)

end Started

section Invariants
variable {K : Type}

/-- Every page under an invocation shows the title of its room, and carries
its id exactly when the list it was opened from passes one. -/
def PagesOk (s : State K) : Prop :=
  ∀ inv ∈ s.invocations, ∃ r, s.rooms.get? inv.room = some r ∧
    inv.page.roomTitle = r.roomTitle ∧
    inv.page.roomUid = if inv.opening.passesId then inv.room else ""

def Invocation.isBooked (inv : Invocation K) : Bool := decide (inv.phase = .booked)

/-- The stored records are those of the booked invocations, each one once. -/
def Recorded (s : State K) : Prop :=
  (s.bookings.docs.map Doc.data).Perm
    ((s.invocations.filter Invocation.isBooked).map (fun inv => inv.booking.toJson))

theorem move_recorded {s : State K} {i : Nat} {inv : Invocation K} {phase : Phase}
    (hs : Recorded s) (hinv : s.invocations[i]? = some inv) (hfrom : inv.phase ≠ .booked)
    (hto : phase ≠ .booked) : Recorded (s.move i inv phase) := by
  have hfilter : (s.invocations.set i { inv with phase := phase }).filter Invocation.isBooked =
      s.invocations.filter Invocation.isBooked :=
    filter_set_same _ hinv (by simp [Invocation.isBooked, hfrom])
      (by simp [Invocation.isBooked, hto])
  unfold Recorded State.move
  rw [hfilter]
  exact hs

variable [IntCast K]

theorem step_rooms {s t : State K} {a : Action} (h : step s a = some t) : t.rooms = s.rooms := by
  cases step_did h <;> rfl

theorem step_pagesOk {s t : State K} {a : Action} (hs : PagesOk s) (h : step s a = some t) :
    PagesOk t := by
  unfold PagesOk at hs ⊢
  rw [step_rooms h]
  rcases step_started h with same | ⟨_, _, _, _, r, _, _, hroom, hpage, hnew⟩
  · exact forall_of_started (fun _ => Iff.rfl) same hs
  · rw [hnew]
    exact forall_mem_concat hs ⟨r, hroom, openPage_posted hpage⟩

theorem step_recorded {s t : State K} {a : Action} (hs : Recorded s) (h : step s a = some t) :
    Recorded t := by
  cases step_did h with
  | notLoggedIn => exact hs
  | opened hroom hpage =>
    unfold Recorded at hs ⊢
    rw [List.filter_append, List.filter_singleton]
    simpa only [Invocation.isBooked, reduceCtorEq, decide_false, cond_false, List.append_nil]
      using hs
  | answered hinv hphase => exact move_recorded hs hinv (by simp [hphase]) (by simp)
  | queryFailed hinv hphase => exact move_recorded hs hinv (by simp [hphase]) (by simp)
  | refused hinv hphase => exact move_recorded hs hinv (by simp [hphase]) (by simp)
  | issued hinv hphase => exact move_recorded hs hinv (by simp [hphase]) (by simp)
  | @committed i id inv hinv hphase fresh perm =>
    have hfilter : ((s.invocations.set i { inv with phase := .booked }).filter
        Invocation.isBooked).Perm
        ({ inv with phase := .booked } :: s.invocations.filter Invocation.isBooked) :=
      filter_set_perm _ hinv (by simp [Invocation.isBooked, hphase])
        (by simp [Invocation.isBooked])
    have hrecords := hfilter.map (fun inv => (inv.booking.toJson : Map K))
    exact (perm.map Doc.data).trans ((hs.cons _).trans hrecords.symm)
  | addFailed hinv hphase => exact move_recorded hs hinv (by simp [hphase]) (by simp)

/-- Records are never removed or overwritten. -/
theorem step_keeps_records {s t : State K} {a : Action} {d : DocumentSnapshot K}
    (hd : d ∈ s.bookings.docs) (h : step s a = some t) : d ∈ t.bookings.docs := by
  cases step_did h with
  | committed hinv hphase fresh perm => exact perm.mem_iff.mpr (List.mem_cons_of_mem _ hd)
  | _ => exact hd

theorem run_pagesOk {rooms : Collection String (PostedRoom K)} {acts : List Action} {s : State K}
    (hrun : run step (initial rooms) acts = some s) : PagesOk s :=
  run_invariant PagesOk (fun _ _ _ => step_pagesOk) hrun (by simp [PagesOk, initial])

theorem run_recorded {rooms : Collection String (PostedRoom K)} {acts : List Action} {s : State K}
    (hrun : run step (initial rooms) acts = some s) : Recorded s :=
  run_invariant Recorded (fun _ _ _ => step_recorded) hrun (List.Perm.refl _)

theorem run_keeps_records {s t : State K} {acts : List Action} {d : DocumentSnapshot K}
    (hd : d ∈ s.bookings.docs) (hrun : run step s acts = some t) : d ∈ t.bookings.docs :=
  run_invariant (fun u => d ∈ u.bookings.docs) (fun _ _ _ => step_keeps_records) hrun hd

end Invariants

end Booking
