import Gharsathi.LandlordView

/-!
# One record for each tenant and room

The check of `Book` looks for a record with the page's title, while the record
it adds carries the id of the room, and the add is still under way when a
second invocation asks. Whether every tenant ends up with one record for each
room therefore depends on every answer of that query. The condition is exact:
it is necessary as well as sufficient in a run whose adds have all gone through.
-/

namespace BookingOnce

open DartDouble DartValues FirestoreCollection Models RoomDetails Runs Booking

section Statements
variable {K : Type}

/-- The invocation has seen an empty answer, so it adds a record. -/
def passedCheck (inv : Invocation K) : Bool :=
  match inv.phase with
  | .answered found => !found
  | .adding => true
  | .booked => true
  | .addFailed => true
  | _ => false

def isFor (inv : Invocation K) (uid room : String) : Bool :=
  decide (inv.tenant.uid = uid) && decide (inv.room = room)

/-- How many invocations of this tenant on this room have passed the check. -/
def passes (s : State K) (uid room : String) : Nat :=
  s.invocations.countP (fun inv => passedCheck inv && isFor inv uid room)

def isRecordFor (uid room : String) (d : DocumentSnapshot K) : Bool :=
  isEqualTo "bookerUid" uid d && isEqualTo "roomId" room d

/-- How many records `bookingList` holds for this tenant and this room. -/
def records (s : State K) (uid room : String) : Nat :=
  s.bookings.docs.countP (isRecordFor uid room)

/-- Every invocation has either been refused or seen its add go through. -/
def Settled (s : State K) : Prop :=
  ∀ inv ∈ s.invocations, inv.phase = .refused ∨ inv.phase = .booked

instance (s : State K) : Decidable (Settled s) :=
  inferInstanceAs (Decidable (∀ inv ∈ s.invocations, inv.phase = .refused ∨ inv.phase = .booked))

/-- One record for each pair on which `Book` was invoked and none for others,
and a refusal only where that tenant has booked that very room. -/
structure ExactlyOnce (s : State K) : Prop where
  invoked : ∀ inv ∈ s.invocations, records s inv.tenant.uid inv.room = 1
  others : ∀ uid room, (∀ inv ∈ s.invocations, ¬ (inv.tenant.uid = uid ∧ inv.room = room)) →
    records s uid room = 0
  refusals : ∀ inv ∈ s.invocations, inv.phase = .refused →
    ∃ other ∈ s.invocations, other.phase = .booked ∧ other.tenant.uid = inv.tenant.uid ∧
      other.room = inv.room

/-- At a title query, the tenant has a booking under this title that went
through exactly when an invocation of the tenant on the very same room has
already passed the check. -/
def CheckAgrees (s : State K) (a : Action) : Prop :=
  ∀ i inv, a = .query i → s.invocations[i]? = some inv →
    ((∃ other ∈ s.invocations, other.phase = .booked ∧
        other.tenant.uid = inv.tenant.uid ∧ other.page.roomTitle = inv.page.roomTitle) ↔
      ∃ other ∈ s.invocations, passedCheck other = true ∧
        other.tenant.uid = inv.tenant.uid ∧ other.room = inv.room)

/-- The tap is on a page that was given the id of the room document. -/
def TapPassesId : Action → Prop
  | .tap _ opening _ _ => opening.passesId = true
  | _ => True

end Statements

section Counting
variable {K : Type}

theorem isFor_iff (inv : Invocation K) (uid room : String) :
    isFor inv uid room = true ↔ inv.tenant.uid = uid ∧ inv.room = room := by
  simp [isFor]

theorem passes_pos_iff (s : State K) (uid room : String) :
    0 < passes s uid room ↔ ∃ inv ∈ s.invocations, passedCheck inv = true ∧
      inv.tenant.uid = uid ∧ inv.room = room := by
  simp [passes, List.countP_pos_iff, isFor]

/-- Moving an invocation on changes the count of its own pair only. -/
theorem passes_move {s : State K} {i : Nat} {inv : Invocation K} (phase : Phase)
    (hinv : s.invocations[i]? = some inv) (uid room : String) :
    passes (s.move i inv phase) uid room +
        (if passedCheck inv && isFor inv uid room then 1 else 0) =
      passes s uid room +
        (if passedCheck { inv with phase := phase } && isFor inv uid room then 1 else 0) :=
  countP_set_add (fun inv => passedCheck inv && isFor inv uid room) { inv with phase := phase } hinv

theorem passes_move_same {s : State K} {i : Nat} {inv : Invocation K} {phase : Phase}
    (hinv : s.invocations[i]? = some inv)
    (hsame : passedCheck { inv with phase := phase } = passedCheck inv) (uid room : String) :
    passes (s.move i inv phase) uid room = passes s uid room := by
  have h := passes_move phase hinv uid room
  rw [hsame] at h
  omega

variable [IntCast K]

/-- A count grows in one way: its title query was answered empty. -/
theorem step_passes {s t : State K} {a : Action} (h : step s a = some t) (uid room : String) :
    passes t uid room = passes s uid room ∨
      ∃ i inv, a = .query i ∧ s.invocations[i]? = some inv ∧
        inv.tenant.uid = uid ∧ inv.room = room ∧
        existingBooking s.bookings inv.tenant.uid inv.page.roomTitle = [] ∧
        passes t uid room = passes s uid room + 1 := by
  cases step_did h with
  | notLoggedIn => exact Or.inl rfl
  | opened hroom hpage =>
    left
    simp [passes, passedCheck]
  | @answered i inv hinv hphase =>
    by_cases hempty : existingBooking s.bookings inv.tenant.uid inv.page.roomTitle = []
    · have hmove := passes_move (.answered false) hinv uid room
      rw [hempty]
      by_cases hfor : isFor inv uid room = true
      · right
        obtain ⟨huid, hroom⟩ := (isFor_iff inv uid room).mp hfor
        refine ⟨i, inv, rfl, hinv, huid, hroom, hempty, ?_⟩
        simpa [passedCheck, hphase, hfor] using hmove
      · left
        simpa [passedCheck, hphase, hfor] using hmove
    · left
      refine passes_move_same hinv ?_ uid room
      simp [passedCheck, hphase, hempty]
  | queryFailed hinv hphase =>
    exact Or.inl (passes_move_same hinv (by simp [passedCheck, hphase]) uid room)
  | refused hinv hphase =>
    exact Or.inl (passes_move_same hinv (by simp [passedCheck, hphase]) uid room)
  | issued hinv hphase =>
    exact Or.inl (passes_move_same hinv (by simp [passedCheck, hphase]) uid room)
  | committed hinv hphase =>
    exact Or.inl (passes_move_same hinv (by simp [passedCheck, hphase]) uid room)
  | addFailed hinv hphase =>
    exact Or.inl (passes_move_same hinv (by simp [passedCheck, hphase]) uid room)

theorem step_passes_mono {s t : State K} {a : Action} (h : step s a = some t)
    (uid room : String) : passes s uid room ≤ passes t uid room := by
  rcases step_passes h uid room with heq | ⟨_, _, _, _, _, _, _, heq⟩
  · omega
  · omega

theorem run_passes_mono {s t : State K} {acts : List Action} (hrun : run step s acts = some t)
    (uid room : String) : passes s uid room ≤ passes t uid room :=
  run_invariant (fun u => passes s uid room ≤ passes u uid room)
    (fun _ _ _ hs h => hs.trans (step_passes_mono h uid room)) hrun le_rfl

end Counting

section Settling
variable {K : Type}

/-- Every page under an invocation carries the id of its room. -/
def PagesCarryId (s : State K) : Prop :=
  ∀ inv ∈ s.invocations, inv.page.roomUid = inv.room

theorem existingBooking_ne_nil_iff {s : State K} (hrec : Recorded s) (uid title : String) :
    existingBooking s.bookings uid title ≠ [] ↔ ∃ inv ∈ s.invocations,
      inv.phase = .booked ∧ inv.tenant.uid = uid ∧ inv.page.roomTitle = title := by
  have hmatch : ∀ (inv : Invocation K) (d : DocumentSnapshot K), d.data = inv.booking.toJson →
      ((isEqualTo "bookerUid" uid d && isEqualTo "bookedHouse" title d) = true ↔
        inv.tenant.uid = uid ∧ inv.page.roomTitle = title) := by
    intro inv d hdata
    simp [isEqualTo_iff, hdata, Bookroom.toJson, Invocation.booking, Value.ofStringOrNull]
  constructor
  · intro hfound
    obtain ⟨d, hd⟩ := List.exists_mem_of_ne_nil _ hfound
    obtain ⟨hmem, hd⟩ := List.mem_filter.mp hd
    obtain ⟨inv, hinv, hdata⟩ := List.mem_map.mp (hrec.mem_iff.mp (List.mem_map_of_mem hmem))
    obtain ⟨hinv, hbooked⟩ := List.mem_filter.mp hinv
    exact ⟨inv, hinv, of_decide_eq_true hbooked, (hmatch inv d hdata.symm).mp hd⟩
  · rintro ⟨inv, hinv, hbooked, hfor⟩
    have hmem : inv ∈ s.invocations.filter Invocation.isBooked :=
      List.mem_filter.mpr ⟨hinv, decide_eq_true hbooked⟩
    have hdata := List.mem_map_of_mem (f := fun inv => (inv.booking.toJson : Map K)) hmem
    obtain ⟨d, hmem, heq⟩ := List.mem_map.mp (hrec.mem_iff.mpr hdata)
    exact List.ne_nil_of_mem (List.mem_filter.mpr ⟨hmem, (hmatch inv d heq).mpr hfor⟩)

theorem isRecordFor_booking (inv : Invocation K) (id uid room : String) :
    isRecordFor uid room (⟨id, inv.booking.toJson⟩ : DocumentSnapshot K) = true ↔
      inv.tenant.uid = uid ∧ inv.page.roomUid = room := by
  rw [isRecordFor, Bool.and_eq_true, isEqualTo_iff, isEqualTo_iff,
    LandlordView.booking_bookerUid, LandlordView.booking_roomId]
  simp

theorem records_eq_passes {s : State K} (hrec : Recorded s) (hids : PagesCarryId s)
    (settled : Settled s) (uid room : String) : records s uid room = passes s uid room := by
  let hit : Map K → Bool := fun m => isRecordFor uid room ⟨"", m⟩
  calc records s uid room
      = (s.bookings.docs.map Doc.data).countP hit := by rw [List.countP_map]; rfl
    _ = ((s.invocations.filter Invocation.isBooked).map
          (fun inv => (inv.booking.toJson : Map K))).countP hit := hrec.countP_eq hit
    _ = s.invocations.countP
          (fun inv => isRecordFor uid room (⟨"", inv.booking.toJson⟩ : DocumentSnapshot K) &&
            inv.isBooked) := by
        rw [List.countP_map, List.countP_filter]
        rfl
    _ = passes s uid room := by
        apply List.countP_congr
        intro inv hinv
        rw [Bool.and_eq_true, Bool.and_eq_true, isRecordFor_booking, isFor_iff, hids inv hinv,
          Invocation.isBooked, passedCheck, and_comm]
        rcases settled inv hinv with h | h
        · simp [h]
        · simp [h]

/-- Exactly-once booking is a statement about the passes of the check. -/
theorem exactlyOnce_iff_passes {s : State K} (hrec : Recorded s) (hids : PagesCarryId s)
    (settled : Settled s) :
    ExactlyOnce s ↔ ∀ inv ∈ s.invocations, passes s inv.tenant.uid inv.room = 1 := by
  constructor
  · intro h inv hinv
    rw [← records_eq_passes hrec hids settled]
    exact h.invoked inv hinv
  · intro h
    refine ⟨?_, ?_, ?_⟩
    · intro inv hinv
      rw [records_eq_passes hrec hids settled]
      exact h inv hinv
    · intro uid room none
      rw [records_eq_passes hrec hids settled]
      by_contra hne
      obtain ⟨inv, hinv, _, hfor⟩ := (passes_pos_iff s uid room).mp (Nat.pos_of_ne_zero hne)
      exact none inv hinv hfor
    · intro inv hinv _
      have hpos : 0 < passes s inv.tenant.uid inv.room := by rw [h inv hinv]; exact Nat.one_pos
      obtain ⟨other, hother, hpassed, hfor⟩ := (passes_pos_iff s _ _).mp hpos
      refine ⟨other, hother, ?_, hfor⟩
      rcases settled other hother with hphase | hphase
      · simp [passedCheck, hphase] at hpassed
      · exact hphase

variable [IntCast K]

theorem step_passesIds {s t : State K} {a : Action}
    (hs : ∀ inv ∈ s.invocations, inv.opening.passesId = true) (ha : TapPassesId a)
    (h : step s a = some t) : ∀ inv ∈ t.invocations, inv.opening.passesId = true := by
  rcases step_started h with same | ⟨_, _, _, _, _, _, rfl, _, _, hnew⟩
  · exact forall_of_started (fun _ => Iff.rfl) same hs
  · rw [hnew]
    exact forall_mem_concat hs ha

theorem run_pagesCarryId {rooms : Collection String (PostedRoom K)} {acts : List Action}
    {s : State K} (hrun : run step (initial rooms) acts = some s)
    (taps : ∀ a ∈ acts, TapPassesId a) : PagesCarryId s := by
  have hpass : ∀ inv ∈ s.invocations, inv.opening.passesId = true :=
    run_invariant_along (fun u => ∀ inv ∈ u.invocations, inv.opening.passesId = true)
      (fun _ a => TapPassesId a) (fun _ _ _ => step_passesIds) hrun (along_of_forall taps _)
      (by simp [initial])
  intro inv hinv
  obtain ⟨_, _, _, huid⟩ := run_pagesOk hrun inv hinv
  rw [huid, if_pos (hpass inv hinv)]

/-- Invocations keep their tenant and room. -/
theorem step_keeps_invocation {s t : State K} {a : Action} (h : step s a = some t)
    {uid room : String} (hs : ∃ inv ∈ s.invocations, inv.tenant.uid = uid ∧ inv.room = room) :
    ∃ inv ∈ t.invocations, inv.tenant.uid = uid ∧ inv.room = room := by
  obtain ⟨inv, hinv, hfor⟩ := hs
  rcases step_started h with same | ⟨_, _, _, _, _, _, _, _, _, hnew⟩
  · by_contra none
    push Not at none
    exact forall_of_started (Q := fun inv => inv.tenant.uid = uid → inv.room ≠ room)
      (fun _ => Iff.rfl) same.symm none inv hinv hfor.1 hfor.2
  · exact ⟨inv, hnew ▸ List.mem_append_left _ hinv, hfor⟩

end Settling

section Exactness
variable {K : Type}

/-- No pair passes the check twice, and whoever was refused, or is about to
be, belongs to a pair that has passed it. -/
structure OnePass (s : State K) : Prop where
  atMost : ∀ uid room, passes s uid room ≤ 1
  seen : ∀ inv ∈ s.invocations, inv.phase = .refused ∨ inv.phase = .answered true →
    1 ≤ passes s inv.tenant.uid inv.room

/-- A record under this title exists, yet nobody has passed the check for this
room: every later invocation on it will be refused. -/
structure Blocked (uid room title : String) (s : State K) : Prop where
  pages : PagesOk s
  titled : ∀ r, s.rooms.get? room = some r → r.roomTitle = title
  found : existingBooking s.bookings uid title ≠ []
  unbooked : passes s uid room = 0

variable [IntCast K]

theorem step_onePass {s t : State K} {a : Action} (hrec : Recorded s) (hs : OnePass s)
    (agrees : CheckAgrees s a) (h : step s a = some t) : OnePass t := by
  have carried : ∀ inv ∈ s.invocations, inv.phase = .refused ∨ inv.phase = .answered true →
      1 ≤ passes t inv.tenant.uid inv.room :=
    fun inv hinv hphase => (hs.seen inv hinv hphase).trans (step_passes_mono h _ _)
  constructor
  · intro uid room
    rcases step_passes h uid room with heq | ⟨i, inv, rfl, hinv, rfl, rfl, hempty, heq⟩
    · rw [heq]
      exact hs.atMost uid room
    · have hzero : ¬ 0 < passes s inv.tenant.uid inv.room := by
        rw [passes_pos_iff]
        intro hother
        exact (existingBooking_ne_nil_iff hrec _ _).mpr ((agrees i inv rfl hinv).mpr hother) hempty
      omega
  · cases step_did h with
    | notLoggedIn => exact carried
    | opened hroom hpage => exact forall_mem_concat carried (by simp)
    | @answered i inv hinv =>
      refine forall_mem_set carried ?_
      intro hphase
      have hfound : existingBooking s.bookings inv.tenant.uid inv.page.roomTitle ≠ [] := by
        simpa using hphase
      have hbooked := (existingBooking_ne_nil_iff hrec _ _).mp hfound
      have hpos := (passes_pos_iff s _ _).mpr ((agrees i inv rfl hinv).mp hbooked)
      exact (Nat.succ_le_of_lt hpos).trans (step_passes_mono h _ _)
    | queryFailed hinv => exact forall_mem_set carried (by simp)
    | @refused i inv hinv hphase =>
      have hseen := carried inv (List.mem_of_getElem? hinv) (Or.inr hphase)
      exact forall_mem_set carried (fun _ => hseen)
    | issued hinv => exact forall_mem_set carried (by simp)
    | committed hinv => exact forall_mem_set carried (by simp)
    | addFailed hinv => exact forall_mem_set carried (by simp)

theorem step_blocked {uid room title : String} {s t : State K} {a : Action}
    (hs : Blocked uid room title s) (h : step s a = some t) : Blocked uid room title t := by
  refine ⟨step_pagesOk hs.pages h, ?_, ?_, ?_⟩
  · rw [step_rooms h]
    exact hs.titled
  · obtain ⟨d, hd⟩ := List.exists_mem_of_ne_nil _ hs.found
    obtain ⟨hmem, hmatch⟩ := List.mem_filter.mp hd
    exact List.ne_nil_of_mem (List.mem_filter.mpr ⟨step_keeps_records hmem h, hmatch⟩)
  · rcases step_passes h uid room with heq | ⟨i, inv, _, hinv, rfl, rfl, hempty, _⟩
    · rw [heq]
      exact hs.unbooked
    · obtain ⟨r, hroom, htitle, _⟩ := hs.pages inv (List.mem_of_getElem? hinv)
      rw [htitle, hs.titled r hroom] at hempty
      exact absurd hempty hs.found

/-- Enough: along a run whose queries all agree, a settled state books once. -/
theorem exactlyOnce_of_agrees {rooms : Collection String (PostedRoom K)} {acts : List Action}
    {s : State K} (hrun : run step (initial rooms) acts = some s)
    (taps : ∀ a ∈ acts, TapPassesId a) (settled : Settled s)
    (agrees : Along step CheckAgrees (initial rooms) acts) : ExactlyOnce s := by
  have hone : Recorded s ∧ OnePass s :=
    run_invariant_along (fun u => Recorded u ∧ OnePass u) CheckAgrees
      (fun _ _ _ hs ha h => ⟨step_recorded hs.1 h, step_onePass hs.1 hs.2 ha h⟩) hrun agrees
      ⟨List.Perm.refl _, by simp [passes, initial], by simp [initial]⟩
  rw [exactlyOnce_iff_passes (run_recorded hrun) (run_pagesCarryId hrun taps) settled]
  intro inv hinv
  have hpos : 1 ≤ passes s inv.tenant.uid inv.room := by
    rcases settled inv hinv with hphase | hphase
    · exact hone.2.seen inv hinv (Or.inl hphase)
    · exact (passes_pos_iff s _ _).mpr ⟨inv, hinv, by simp [passedCheck, hphase], rfl, rfl⟩
  exact le_antisymm (hone.2.atMost _ _) hpos

/-- Needed: a query that disagrees leaves its pair with no record or with two. -/
theorem agrees_of_exactlyOnce {rooms : Collection String (PostedRoom K)} {acts : List Action}
    {s : State K} (hrun : run step (initial rooms) acts = some s)
    (taps : ∀ a ∈ acts, TapPassesId a) (settled : Settled s) (once : ExactlyOnce s) :
    Along step CheckAgrees (initial rooms) acts := by
  rw [exactlyOnce_iff_passes (run_recorded hrun) (run_pagesCarryId hrun taps) settled] at once
  rw [along_iff]
  rintro past _ rest m rfl hpast i inv rfl hinv
  obtain ⟨m', hm', hrest⟩ := run_append.mp hrun
  cases hpast.symm.trans hm'
  obtain ⟨n, hn, hrest⟩ := run_cons.mp hrest
  have hmem := List.mem_of_getElem? hinv
  obtain ⟨last, hlast, huid, hroom⟩ := run_invariant
    (fun u => ∃ x ∈ u.invocations, x.tenant.uid = inv.tenant.uid ∧ x.room = inv.room)
    (fun _ _ _ hu h => step_keeps_invocation h hu) hrest
    (step_keeps_invocation hn ⟨inv, hmem, rfl, rfl⟩)
  have hfinal : passes s inv.tenant.uid inv.room = 1 := by
    rw [← huid, ← hroom]
    exact once last hlast
  rw [← passes_pos_iff, ← existingBooking_ne_nil_iff (run_recorded hpast)]
  constructor
  · intro hfound
    by_contra hnone
    obtain ⟨r, hr, htitle, _⟩ := run_pagesOk hpast inv hmem
    have hblocked : Blocked inv.tenant.uid inv.room inv.page.roomTitle m := by
      refine ⟨run_pagesOk hpast, ?_, hfound, by omega⟩
      intro r' hr'
      rw [htitle, Option.some.inj (hr'.symm.trans hr)]
    have hend := run_invariant _ (fun _ _ _ => step_blocked) hrest (step_blocked hblocked hn)
    rw [hend.unbooked] at hfinal
    omega
  · intro hpos hempty
    have hgrow : passes n inv.tenant.uid inv.room = passes m inv.tenant.uid inv.room + 1 := by
      cases step_did hn with
      | answered hinv' hphase =>
        cases hinv.symm.trans hinv'
        have hmove := passes_move (.answered false) hinv inv.tenant.uid inv.room
        rw [hempty]
        simpa [passedCheck, hphase, isFor] using hmove
    have hmono := run_passes_mono hrest inv.tenant.uid inv.room
    omega

/-- Once all adds have gone through, `bookingList` holds exactly one record
for each tenant and room on which `Book` was invoked, if and only if every
title query of the run agreed with the room it was asked for. -/
theorem exactlyOnce_iff (rooms : Collection String (PostedRoom K)) (acts : List Action)
    (s : State K) (hrun : run step (initial rooms) acts = some s)
    (taps : ∀ a ∈ acts, TapPassesId a) (settled : Settled s) :
    ExactlyOnce s ↔ Along step CheckAgrees (initial rooms) acts :=
  ⟨agrees_of_exactlyOnce hrun taps settled, exactlyOnce_of_agrees hrun taps settled⟩

end Exactness

/-- A second tap after the first booking went through is refused, and agrees. -/
def repeatedTap : List Action :=
  LandlordView.bookingRun .search ++ [.commit 0 "b1",
    .tap (some ⟨"tenant", some "Hari"⟩) .allRooms "r1" 1, .query 1, .test 1]

theorem repeatedTap_agrees :
    ∃ s, run step (initial LandlordView.sampleRooms) repeatedTap = some s ∧ ExactlyOnce s ∧
      Along step CheckAgrees (initial LandlordView.sampleRooms) repeatedTap := by
  obtain ⟨s, hrun, settled, once⟩ := exists_of_check step (initial LandlordView.sampleRooms)
    repeatedTap
    (fun s => Settled s ∧ ∀ inv ∈ s.invocations, passes s inv.tenant.uid inv.room = 1) (by decide)
  have taps : ∀ a ∈ repeatedTap, TapPassesId a := by
    simp [repeatedTap, LandlordView.bookingRun, TapPassesId, Opening.passesId]
  have hexact := (exactlyOnce_iff_passes (run_recorded hrun) (run_pagesCarryId hrun taps)
    settled).mpr once
  exact ⟨s, hrun, hexact,
    (exactlyOnce_iff LandlordView.sampleRooms repeatedTap s hrun taps settled).mp hexact⟩

def twinRooms : Collection String (PostedRoom ℚ) :=
  LandlordView.sampleRooms.set "r2" LandlordView.sampleRoom

/-- A second room under the title of a booked one. -/
def twinRun : List Action :=
  LandlordView.bookingRun .search ++ [.commit 0 "b1",
    .tap (some ⟨"tenant", some "Hari"⟩) .search "r2" 1, .query 1, .test 1]

/-- A second tap on the room, asked before the first add has gone through. -/
def doubleTap : List Action :=
  LandlordView.bookingRun .search ++
    [.tap (some ⟨"tenant", some "Hari"⟩) .search "r1" 1, .query 1, .test 1,
      .commit 0 "b1", .commit 1 "b2"]

/-- The twin room is refused and has no record; the double tap leaves two. -/
theorem not_exactlyOnce :
    (∃ s, run step (initial twinRooms) twinRun = some s ∧ (∀ a ∈ twinRun, TapPassesId a) ∧
      Settled s ∧ ¬ ExactlyOnce s) ∧
    (∃ s, run step (initial LandlordView.sampleRooms) doubleTap = some s ∧
      (∀ a ∈ doubleTap, TapPassesId a) ∧ Settled s ∧ ¬ ExactlyOnce s) := by
  constructor
  · obtain ⟨s, hrun, settled, inv, hinv, hnone⟩ := exists_of_check step (initial twinRooms) twinRun
      (fun s => Settled s ∧ ∃ inv ∈ s.invocations, records s inv.tenant.uid inv.room = 0) (by decide)
    have taps : ∀ a ∈ twinRun, TapPassesId a := by
      simp [twinRun, LandlordView.bookingRun, TapPassesId, Opening.passesId]
    refine ⟨s, hrun, taps, settled, fun once => ?_⟩
    have hone := once.invoked inv hinv
    omega
  · obtain ⟨s, hrun, settled, inv, hinv, htwo⟩ := exists_of_check step
      (initial LandlordView.sampleRooms) doubleTap
      (fun s => Settled s ∧ ∃ inv ∈ s.invocations, records s inv.tenant.uid inv.room = 2) (by decide)
    have taps : ∀ a ∈ doubleTap, TapPassesId a := by
      simp [doubleTap, LandlordView.bookingRun, TapPassesId, Opening.passesId]
    refine ⟨s, hrun, taps, settled, fun once => ?_⟩
    have hone := once.invoked inv hinv
    omega

end BookingOnce
