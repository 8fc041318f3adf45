import Gharsathi.SavedRooms
import Mathlib.Algebra.Ring.Parity
import Mathlib.Data.Nat.Bits

/-!
# The bookmark of one card

A card asks once whether its room is saved. Each tap on its bookmark issues a
write chosen by `isSaved` at the tap, and the end of that write flips
`isSaved`; no tap waits for anything. The store works through what the client
issued in the order of issue and answers in that order. The last tap decides
what becomes of the document, so card and document agree in the end exactly
when the answers still on their way at that tap leave `isSaved` as it was.
-/

namespace Bookmark

open DartValues FirestoreCollection RoomDetails Runs SavedRooms

/-- What a card asks of the store. -/
inductive Operation where
  | isRoomSaved
  | toggleSaveRoom (isSaved : Bool) (now : Int)

def Operation.isToggle : Operation → Bool
  | .isRoomSaved => false
  | .toggleSaveRoom _ _ => true

/-- What comes back to the card. -/
inductive Answer where
  | exists (saved : Bool)
  | done

def Answer.isDone : Answer → Bool
  | .exists _ => false
  | .done => true

structure State (K : Type) where
  store : Store K
  isSaved : Bool
  mounted : Bool
  issued : List Operation
  answered : List Answer

inductive Action where
  | tap (now : Int)
  | apply
  | answer
  | dispose

def Action.isTap : Action → Bool
  | .tap _ => true
  | _ => false

section Machine
variable {K : Type}

/-- `initState`: the card asks, unless its title is no id of a document. -/
def initState (store : Store K) (card : Roomcard K) : State K where
  store := store
  isSaved := false
  mounted := true
  issued :=
    match savedRoomRef card.roomTitle with
    | .error _ => []
    | .ok _ => [.isRoomSaved]
  answered := []

def perform (uid : String) (card : Roomcard K) (store : Store K) :
    Operation → Result (Store K × Answer)
  | .isRoomSaved => do
    let saved ← SavedRooms.isRoomSaved store (some uid) card.roomTitle
    return (store, .exists saved)
  | .toggleSaveRoom isSaved now => do
    let store ← SavedRooms.toggleSaveRoom store (some uid) card.roomTitle card.roomData isSaved now
    return (store, .done)

/-- `setState` after an answer. -/
def receive (isSaved : Bool) : Answer → Bool
  | .exists saved => saved
  | .done => !isSaved

def step (uid : String) (card : Roomcard K) (s : State K) : Action → Option (State K)
  | .tap now =>
    if s.mounted then
      match savedRoomRef card.roomTitle with
      | .error _ => some s
      | .ok _ => some { s with issued := s.issued ++ [.toggleSaveRoom s.isSaved now] }
    else none
  | .apply =>
    match s.issued with
    | [] => none
    | operation :: issued =>
      match perform uid card s.store operation with
      | .error _ => none
      | .ok (store, answer) =>
        some { s with store := store, issued := issued, answered := s.answered ++ [answer] }
  | .answer =>
    match s.answered with
    | [] => none
    | answer :: answered =>
      some { s with
        isSaved := if s.mounted then receive s.isSaved answer else s.isSaved
        answered := answered }
  | .dispose => if s.mounted then some { s with mounted := false } else none

/-- The document of the room is in the user's `savedRooms`. -/
def documentExists (store : Store K) (uid : String) (roomTitle : String) : Bool :=
  match savedRoomRef roomTitle with
  | .error _ => false
  | .ok savedRoomRef => (store uid).contains savedRoomRef

def Quiescent (s : State K) : Prop := s.issued = [] ∧ s.answered = []

/-- The card shows whether the document exists, and an even number of taps has
left both as they were. -/
structure Consistent (store : Store K) (uid : String) (card : Roomcard K) (acts : List Action)
    (s : State K) : Prop where
  flag : s.isSaved = documentExists s.store uid card.roomTitle
  restored : Even (acts.countP Action.isTap) →
    documentExists s.store uid card.roomTitle = documentExists store uid card.roomTitle ∧
      s.isSaved = documentExists store uid card.roomTitle

def togglesInFlight (s : State K) : Nat :=
  s.issued.countP Operation.isToggle + s.answered.countP Answer.isDone

/-- The card has not been told whether its room was saved. -/
def Unanswered (s : State K) : Prop :=
  (∃ operation ∈ s.issued, operation.isToggle = false) ∨
    ∃ answer ∈ s.answered, answer.isDone = false

/-- The answers on their way leave `isSaved` as it is: an even number of
writes, or an odd number behind the answer that the room was saved. -/
def TapAgrees (saved : Bool) (s : State K) : Prop :=
  Odd (togglesInFlight s) ↔ Unanswered s ∧ saved = true

/-- The last tap of the run was one that agrees. -/
def LastTapAgrees (store : Store K) (uid : String) (card : Roomcard K) (acts : List Action) :
    Prop :=
  ∀ past now rest t, acts = past ++ .tap now :: rest → (∀ a ∈ rest, a.isTap = false) →
    run (step uid card) (initState store card) past = some t →
      TapAgrees (documentExists store uid card.roomTitle) t

end Machine

section Steps
variable {K : Type} {uid : String} {card : Roomcard K}

inductive Did (uid : String) (card : Roomcard K) (s : State K) : Action → State K → Prop where
  | refused {now : Int} (hid : ¬ IsDocumentId card.roomTitle) (mounted : s.mounted = true) :
      Did uid card s (.tap now) s
  | tapped {now : Int} (hid : IsDocumentId card.roomTitle) (mounted : s.mounted = true) :
      Did uid card s (.tap now) { s with issued := s.issued ++ [.toggleSaveRoom s.isSaved now] }
  | applied {operation : Operation} {issued : List Operation} {store : Store K} {answer : Answer}
      (hissued : s.issued = operation :: issued)
      (hperform : perform uid card s.store operation = .ok (store, answer)) :
      Did uid card s .apply
        { s with store := store, issued := issued, answered := s.answered ++ [answer] }
  | answered {answer : Answer} {answered : List Answer}
      (hanswered : s.answered = answer :: answered) :
      Did uid card s .answer { s with
        isSaved := if s.mounted then receive s.isSaved answer else s.isSaved
        answered := answered }
  | disposed (mounted : s.mounted = true) : Did uid card s .dispose { s with mounted := false }

theorem step_did {s t : State K} {a : Action} (h : step uid card s a = some t) :
    Did uid card s a t := by
  cases a with
  | tap now =>
    simp only [step] at h
    split at h
    · rename_i mounted
      by_cases hid : IsDocumentId card.roomTitle
      · rw [savedRoomRef_ok hid] at h
        cases h
        exact .tapped hid mounted
      · rw [savedRoomRef_error hid] at h
        cases h
        exact .refused hid mounted
    · cases h
  | apply =>
    simp only [step] at h
    split at h
    · cases h
    · rename_i hissued
      split at h
      · cases h
      · rename_i hperform
        cases h
        exact .applied hissued hperform
  | answer =>
    simp only [step] at h
    split at h
    · cases h
    · rename_i hanswered
      cases h
      exact .answered hanswered
  | dispose =>
    simp only [step] at h
    split at h
    · rename_i mounted
      cases h
      exact .disposed mounted
    · cases h

/-- What an operation will make of the document and, once answered, of the card. -/
def evolve : Bool × Bool → Operation → Bool × Bool
  | (saved, _), .isRoomSaved => (saved, saved)
  | (_, flag), .toggleSaveRoom isSaved _ => (!isSaved, !flag)

/-- Document and card as they will be when everything issued is answered. -/
def settled (uid : String) (card : Roomcard K) (s : State K) : Bool × Bool :=
  s.issued.foldl evolve
    (documentExists s.store uid card.roomTitle, s.answered.foldl receive s.isSaved)

theorem settled_quiescent {s : State K} (quiet : Quiescent s) :
    settled uid card s = (documentExists s.store uid card.roomTitle, s.isSaved) := by
  rw [settled, quiet.1, quiet.2]
  rfl

theorem documentExists_ok (store : Store K) (hid : IsDocumentId card.roomTitle) :
    documentExists store uid card.roomTitle = (store uid).contains card.roomTitle := by
  rw [documentExists, savedRoomRef_ok hid]

/-- The store does to the document, and tells the card, what `evolve` says. -/
theorem perform_evolve {store store' : Store K} {operation : Operation} {answer : Answer}
    (hid : IsDocumentId card.roomTitle)
    (h : perform uid card store operation = .ok (store', answer)) (flag : Bool) :
    evolve (documentExists store uid card.roomTitle, flag) operation =
      (documentExists store' uid card.roomTitle, receive flag answer) := by
  cases operation with
  | isRoomSaved =>
    simp only [perform, SavedRooms.isRoomSaved, savedRoomRef_ok hid] at h
    cases h
    rw [documentExists_ok store hid]
    rfl
  | toggleSaveRoom isSaved now =>
    simp only [perform, toggleSaveRoom_ok _ _ _ _ _ hid] at h
    cases h
    have hafter : documentExists
        (Function.update store uid (toggled (store uid) card isSaved now)) uid card.roomTitle =
          !isSaved := by
      rw [documentExists_ok _ hid, Function.update_self]
      cases isSaved <;> simp [toggled]
    rw [hafter]
    rfl

theorem step_mounted {s t : State K} {a : Action} (h : step uid card s a = some t)
    (mounted : t.mounted = true) : s.mounted = true := by
  cases step_did h with
  | refused _ hs => exact hs
  | tapped _ hs => exact hs
  | applied _ _ => exact mounted
  | answered _ => exact mounted
  | disposed hs => exact hs

/-- Only taps change what card and document will settle to. -/
theorem step_settled {s t : State K} {a : Action} (hid : IsDocumentId card.roomTitle)
    (h : step uid card s a = some t) (mounted : t.mounted = true) (hno : a.isTap = false) :
    settled uid card t = settled uid card s := by
  cases step_did h with
  | refused => cases hno
  | tapped => cases hno
  | applied hissued hperform =>
    have hev := perform_evolve hid hperform (s.answered.foldl receive s.isSaved)
    simp only [settled, hissued, List.foldl_cons, hev, List.foldl_append, List.foldl_nil]
  | answered hanswered =>
    have hs : s.mounted = true := mounted
    simp only [settled, hanswered, hs, if_true, List.foldl_cons]
  | disposed => cases mounted

theorem tap_settled {s t : State K} {now : Int} (hid : IsDocumentId card.roomTitle)
    (h : step uid card s (.tap now) = some t) :
    settled uid card t = (!s.isSaved, !(settled uid card s).2) := by
  cases step_did h with
  | refused hbad => exact absurd hid hbad
  | tapped _ _ =>
    simp only [settled, List.foldl_append, List.foldl_cons, List.foldl_nil]
    rfl

end Steps

section Stages
variable {K : Type} {uid : String} {card : Roomcard K} {saved : Bool}

def AllToggles (issued : List Operation) : Prop := ∀ operation ∈ issued, operation.isToggle = true

def AllDone (answered : List Answer) : Prop := ∀ answer ∈ answered, answer.isDone = true

/-- The question comes before every tap, so its answer is the initial status. -/
inductive Stage (uid : String) (card : Roomcard K) (saved : Bool) (s : State K) : Prop where
  | asked (toggles : List Operation) (hissued : s.issued = .isRoomSaved :: toggles)
      (htoggles : AllToggles toggles) (hanswered : s.answered = []) (hflag : s.isSaved = false)
      (hexists : documentExists s.store uid card.roomTitle = saved)
  | told (dones : List Answer) (hanswered : s.answered = .exists saved :: dones)
      (hdones : AllDone dones) (htoggles : AllToggles s.issued) (hflag : s.isSaved = false)
  | shown (htoggles : AllToggles s.issued) (hdones : AllDone s.answered)

theorem stage_initState (store : Store K) (hid : IsDocumentId card.roomTitle) :
    Stage uid card (documentExists store uid card.roomTitle) (initState store card) := by
  apply Stage.asked []
  · simp only [initState, savedRoomRef_ok hid]
  · exact fun _ hmem => absurd hmem List.not_mem_nil
  · rfl
  · rfl
  · rfl

theorem answer_of_toggle {store store' : Store K} {operation : Operation} {answer : Answer}
    (htoggle : operation.isToggle = true)
    (h : perform uid card store operation = .ok (store', answer)) : answer = .done := by
  cases operation with
  | isRoomSaved => cases htoggle
  | toggleSaveRoom isSaved now =>
    obtain ⟨after, _, h⟩ := bind_eq_ok.mp h
    cases h
    rfl

theorem answer_of_question {store store' : Store K} {answer : Answer}
    (hid : IsDocumentId card.roomTitle)
    (h : perform uid card store .isRoomSaved = .ok (store', answer)) :
    answer = .exists (documentExists store uid card.roomTitle) := by
  simp only [perform, SavedRooms.isRoomSaved, savedRoomRef_ok hid] at h
  cases h
  rw [documentExists_ok store hid]

theorem stage_step {s t : State K} {a : Action} (hid : IsDocumentId card.roomTitle)
    (stage : Stage uid card saved s) (h : step uid card s a = some t)
    (mounted : t.mounted = true) : Stage uid card saved t := by
  cases step_did h with
  | refused => exact stage
  | @tapped now =>
    cases stage with
    | asked toggles hissued htoggles hanswered hflag hexists =>
      refine .asked (toggles ++ [.toggleSaveRoom s.isSaved now]) ?_ ?_ hanswered hflag hexists
      · simp only [hissued, List.cons_append]
      · exact forall_mem_concat htoggles rfl
    | told dones hanswered hdones htoggles hflag =>
      exact .told dones hanswered hdones (forall_mem_concat htoggles rfl) hflag
    | shown htoggles hdones => exact .shown (forall_mem_concat htoggles rfl) hdones
  | @applied operation issued store answer hissued hperform =>
    cases stage with
    | asked toggles hissued' htoggles hanswered hflag hexists =>
      obtain ⟨rfl, rfl⟩ := List.cons.inj (hissued.symm.trans hissued')
      have hanswer := answer_of_question hid hperform
      rw [hexists] at hanswer
      refine .told [] ?_ nofun htoggles hflag
      simp only [hanswered, hanswer, List.nil_append]
    | told dones hanswered hdones htoggles hflag =>
      rw [hissued] at htoggles
      have hdone := answer_of_toggle (htoggles _ List.mem_cons_self) hperform
      refine .told (dones ++ [answer]) ?_ ?_ ?_ hflag
      · simp only [hanswered, List.cons_append]
      · exact forall_mem_concat hdones (by rw [hdone]; rfl)
      · exact fun x hx => htoggles x (List.mem_cons_of_mem _ hx)
    | shown htoggles hdones =>
      rw [hissued] at htoggles
      have hdone := answer_of_toggle (htoggles _ List.mem_cons_self) hperform
      apply Stage.shown
      · exact fun x hx => htoggles x (List.mem_cons_of_mem _ hx)
      · exact forall_mem_concat hdones (by rw [hdone]; rfl)
  | @answered answer answered hanswered =>
    cases stage with
    | asked toggles hissued htoggles hanswered' hflag hexists =>
      rw [hanswered'] at hanswered
      cases hanswered
    | told dones hanswered' hdones htoggles hflag =>
      obtain ⟨rfl, rfl⟩ := List.cons.inj (hanswered.symm.trans hanswered')
      exact .shown htoggles hdones
    | shown htoggles hdones =>
      rw [hanswered] at hdones
      exact .shown htoggles (fun x hx => hdones x (List.mem_cons_of_mem _ hx))
  | disposed => cases mounted

theorem evolve_toggles {issued : List Operation} (htoggles : AllToggles issued) (p : Bool × Bool) :
    (issued.foldl evolve p).2 = xor p.2 issued.length.bodd := by
  induction issued generalizing p with
  | nil => simp
  | cons operation issued ih =>
    have htail := ih (fun x hx => htoggles x (List.mem_cons_of_mem _ hx)) (evolve p operation)
    rw [List.foldl_cons, htail, List.length_cons, Nat.bodd_succ]
    cases operation with
    | isRoomSaved => cases htoggles _ List.mem_cons_self
    | toggleSaveRoom isSaved now => simp [evolve]

theorem receive_dones {answered : List Answer} (hdones : AllDone answered) (flag : Bool) :
    answered.foldl receive flag = xor flag answered.length.bodd := by
  induction answered generalizing flag with
  | nil => simp
  | cons answer answered ih =>
    have htail := ih (fun x hx => hdones x (List.mem_cons_of_mem _ hx)) (receive flag answer)
    rw [List.foldl_cons, htail, List.length_cons, Nat.bodd_succ]
    cases answer with
    | «exists» saved => cases hdones _ List.mem_cons_self
    | done => simp [receive]

theorem odd_iff_bodd (n : Nat) : Odd n ↔ n.bodd = true := by
  rw [Nat.odd_iff, Nat.mod_two_of_bodd]
  cases n.bodd <;> simp

theorem toggles_of_shown {s : State K} (htoggles : AllToggles s.issued)
    (hdones : AllDone s.answered) : togglesInFlight s = s.issued.length + s.answered.length := by
  rw [togglesInFlight, List.countP_eq_length.mpr htoggles, List.countP_eq_length.mpr hdones]

/-- What a tap has to meet, in terms of what the card will settle to. -/
theorem tapAgrees_iff {s : State K} (stage : Stage uid card saved s) :
    TapAgrees saved s ↔ s.isSaved = (settled uid card s).2 := by
  cases stage with
  | asked toggles hissued htoggles hanswered hflag hexists =>
    have hcount : togglesInFlight s = toggles.length := by
      rw [togglesInFlight, hissued, hanswered, List.countP_cons_of_neg (by simp [Operation.isToggle]),
        List.countP_eq_length.mpr htoggles]
      rfl
    have hun : Unanswered s := Or.inl ⟨_, hissued ▸ List.mem_cons_self, rfl⟩
    have hsettled : (settled uid card s).2 = xor saved toggles.length.bodd := by
      rw [settled, hissued, List.foldl_cons, evolve_toggles htoggles, ← hexists]
      rfl
    rw [TapAgrees, hcount, odd_iff_bodd, hsettled, hflag]
    cases saved <;> cases toggles.length.bodd <;> simp [hun]
  | told dones hanswered hdones htoggles hflag =>
    have hcount : togglesInFlight s = s.issued.length + dones.length := by
      rw [togglesInFlight, hanswered, List.countP_cons_of_neg (by simp [Answer.isDone]),
        List.countP_eq_length.mpr htoggles, List.countP_eq_length.mpr hdones]
    have hun : Unanswered s := Or.inr ⟨_, hanswered ▸ List.mem_cons_self, rfl⟩
    have hsettled : (settled uid card s).2 =
        xor (xor saved dones.length.bodd) s.issued.length.bodd := by
      rw [settled, evolve_toggles htoggles, hanswered, List.foldl_cons, receive_dones hdones]
      rfl
    rw [TapAgrees, hcount, odd_iff_bodd, Nat.bodd_add, hsettled, hflag]
    cases saved <;> cases s.issued.length.bodd <;> cases dones.length.bodd <;> simp [hun]
  | shown htoggles hdones =>
    have hun : ¬ Unanswered s := by
      rintro (⟨x, hx, hkind⟩ | ⟨x, hx, hkind⟩)
      · rw [htoggles x hx] at hkind
        cases hkind
      · rw [hdones x hx] at hkind
        cases hkind
    have hsettled : (settled uid card s).2 =
        xor (xor s.isSaved s.answered.length.bodd) s.issued.length.bodd := by
      rw [settled, evolve_toggles htoggles, receive_dones hdones]
    rw [TapAgrees, toggles_of_shown htoggles hdones, odd_iff_bodd, Nat.bodd_add, hsettled]
    cases s.isSaved <;> cases s.issued.length.bodd <;> cases s.answered.length.bodd <;> simp [hun]

end Stages

section Main
variable {K : Type} {uid : String} {card : Roomcard K} {store : Store K} {acts : List Action}
  {s : State K}

theorem run_mounted {m : State K} (hrun : run (step uid card) m acts = some s)
    (mounted : s.mounted = true) : m.mounted = true := by
  by_contra hm
  have hgone := run_invariant (fun u : State K => u.mounted ≠ true)
    (fun _ _ _ hu h ht => hu (step_mounted h ht)) hrun hm
  exact hgone mounted

theorem run_stage (hid : IsDocumentId card.roomTitle)
    (hrun : run (step uid card) (initState store card) acts = some s)
    (mounted : s.mounted = true) :
    Stage uid card (documentExists store uid card.roomTitle) s :=
  run_invariant
    (fun u => u.mounted = true → Stage uid card (documentExists store uid card.roomTitle) u)
    (fun _ _ _ hu h ht => stage_step hid (hu (step_mounted h ht)) h ht) hrun
    (fun _ => stage_initState store hid) mounted

/-- Each tap flips what the card will settle to. -/
theorem run_settled_flag (hid : IsDocumentId card.roomTitle)
    (hrun : run (step uid card) (initState store card) acts = some s)
    (mounted : s.mounted = true) :
    (settled uid card s).2 =
      xor (documentExists store uid card.roomTitle) (acts.countP Action.isTap).bodd := by
  refine run_history (fun past u => u.mounted = true → (settled uid card u).2 =
    xor (documentExists store uid card.roomTitle) (past.countP Action.isTap).bodd) ?_ hrun ?_ mounted
  · intro past u a t hu h ht
    have before := hu (step_mounted h ht)
    rw [List.countP_append, Nat.bodd_add]
    cases hkind : a.isTap with
    | false => simp [step_settled hid h ht hkind, before, hkind]
    | true =>
      cases a with
      | tap now => simp [tap_settled hid h, before, Action.isTap]
      | apply => cases hkind
      | answer => cases hkind
      | dispose => cases hkind
  · intro _
    simp [settled, initState, savedRoomRef_ok hid, evolve]

theorem run_untapped (hid : IsDocumentId card.roomTitle) {m : State K}
    (hrun : run (step uid card) m acts = some s) (mounted : s.mounted = true)
    (untapped : ∀ a ∈ acts, a.isTap = false) : settled uid card s = settled uid card m := by
  refine run_invariant_along (fun u => u.mounted = true → settled uid card u = settled uid card m)
    (fun _ a => a.isTap = false) ?_ hrun (along_of_forall untapped m) (fun _ => rfl) mounted
  intro u a t hu hno h ht
  rw [step_settled hid h ht hno]
  exact hu (step_mounted h ht)

/-- Nothing happens to a card whose title is no id of a document. -/
theorem run_refused (hid : ¬ IsDocumentId card.roomTitle)
    (hrun : run (step uid card) (initState store card) acts = some s) :
    s.isSaved = false ∧ Quiescent s := by
  refine run_invariant (fun u => u.isSaved = false ∧ Quiescent u) ?_ hrun ?_
  · rintro u a t ⟨hflag, hissued, hanswered⟩ h
    cases step_did h with
    | refused => exact ⟨hflag, hissued, hanswered⟩
    | tapped hid' => exact absurd hid' hid
    | applied hsome =>
      rw [hissued] at hsome
      cases hsome
    | answered hsome =>
      rw [hanswered] at hsome
      cases hsome
    | disposed => exact ⟨hflag, hissued, hanswered⟩
  · refine ⟨rfl, ?_, rfl⟩
    simp only [initState, savedRoomRef_error hid]

theorem exists_last_tap (acts : List Action) :
    (∀ a ∈ acts, a.isTap = false) ∨
      ∃ past now rest, acts = past ++ .tap now :: rest ∧ ∀ a ∈ rest, a.isTap = false := by
  induction acts with
  | nil => exact Or.inl nofun
  | cons a acts ih =>
    rcases ih with none | ⟨past, now, rest, rfl, none⟩
    · cases a with
      | tap now => exact Or.inr ⟨[], now, acts, rfl, none⟩
      | apply => exact Or.inl (List.forall_mem_cons.mpr ⟨rfl, none⟩)
      | answer => exact Or.inl (List.forall_mem_cons.mpr ⟨rfl, none⟩)
      | dispose => exact Or.inl (List.forall_mem_cons.mpr ⟨rfl, none⟩)
    · exact Or.inr ⟨a :: past, now, rest, rfl, none⟩

/-- After a last tap in `t`, the document is what that tap chose and the card
what it was about to settle to, flipped. -/
theorem run_last_tap (hid : IsDocumentId card.roomTitle) {t : State K} {now : Int}
    {rest : List Action} (hrun : run (step uid card) t (.tap now :: rest) = some s)
    (mounted : s.mounted = true) (untapped : ∀ a ∈ rest, a.isTap = false) :
    settled uid card s = (!t.isSaved, !(settled uid card t).2) := by
  obtain ⟨m, htap, hrest⟩ := run_cons.mp hrun
  rw [run_untapped hid hrest mounted untapped, tap_settled hid htap]

/-- When nothing is in flight, the card is consistent with the store if and
only if the last tap before was made while the answers on their way were to
leave `isSaved` as it was. -/
theorem consistent_iff (uid : String) (card : Roomcard K) (store : Store K) (acts : List Action)
    (s : State K) (hrun : run (step uid card) (initState store card) acts = some s)
    (mounted : s.mounted = true) (quiet : Quiescent s) :
    Consistent store uid card acts s ↔ LastTapAgrees store uid card acts := by
  by_cases hid : IsDocumentId card.roomTitle
  · have hflag := run_settled_flag hid hrun mounted
    have hend : settled uid card s = (documentExists s.store uid card.roomTitle, s.isSaved) :=
      settled_quiescent quiet
    -- the flag is right about the number of taps, so only the document can be wrong
    have hconsistent : Consistent store uid card acts s ↔
        (settled uid card s).1 = (settled uid card s).2 := by
      rw [hend] at hflag ⊢
      constructor
      · intro h
        exact h.flag.symm
      · intro h
        refine ⟨h.symm, fun heven => ?_⟩
        have hzero : (acts.countP Action.isTap).bodd = false := by
          rw [← Bool.not_eq_true, ← odd_iff_bodd, Nat.not_odd_iff_even]
          exact heven
        rw [hzero, Bool.xor_false] at hflag
        exact ⟨h.trans hflag, hflag⟩
    rw [hconsistent]
    constructor
    · rintro h past now rest t rfl untapped hpast
      obtain ⟨t', hpast', hrest⟩ := run_append.mp hrun
      cases hpast.symm.trans hpast'
      rw [tapAgrees_iff (run_stage hid hpast (run_mounted hrest mounted))]
      rw [run_last_tap hid hrest mounted untapped] at h
      exact Bool.not_inj h
    · intro h
      rcases exists_last_tap acts with untapped | ⟨past, now, rest, rfl, untapped⟩
      · rw [run_untapped hid hrun mounted untapped]
        simp [settled, initState, savedRoomRef_ok hid, evolve]
      · obtain ⟨t, hpast, hrest⟩ := run_append.mp hrun
        have hstage := run_stage hid hpast (run_mounted hrest mounted)
        have hagrees := (tapAgrees_iff hstage).mp (h past now rest t rfl untapped hpast)
        rw [run_last_tap hid hrest mounted untapped, hagrees]
  · obtain ⟨hflag, _⟩ := run_refused hid hrun
    have hnone : ∀ store : Store K, documentExists store uid card.roomTitle = false := by
      intro store
      rw [documentExists, savedRoomRef_error hid]
    constructor
    · rintro - past now rest t - - hpast
      obtain ⟨_, hissued, hanswered⟩ := run_refused hid hpast
      simp [TapAgrees, Unanswered, togglesInFlight, hissued, hanswered]
    · intro _
      refine ⟨?_, fun _ => ⟨?_, ?_⟩⟩
      · rw [hflag, hnone]
      · rw [hnone, hnone]
      · rw [hflag, hnone]

end Main

def sampleCard : Roomcard ℚ where
  roomTitle := "Attic"
  postedBy := "Sita"
  description := "Top floor"
  location := "Baneshwor"
  price := .fin 9000
  image := "a.jpg"
  amenities := []
  propertyType := "Room"
  postDate := "2024"

def noneSaved : Store ℚ := fun _ => Collection.empty

/-- The card is told, and the second tap waits for the first write. -/
def patientTaps : List Action :=
  [.apply, .answer, .tap 1, .apply, .answer, .tap 2, .apply, .answer]

/-- The second tap comes before the first write has ended. -/
def hastyTaps : List Action :=
  [.apply, .answer, .tap 1, .tap 2, .apply, .apply, .answer, .answer]

theorem sample_lastTapAgrees : ∃ s, run (step "tenant" sampleCard) (initState noneSaved sampleCard)
    patientTaps = some s ∧ LastTapAgrees noneSaved "tenant" sampleCard patientTaps := by
  obtain ⟨s, hrun, mounted, quiet, hflag, heven⟩ := exists_of_check (step "tenant" sampleCard)
    (initState noneSaved sampleCard) patientTaps (fun s => s.mounted = true ∧
      (s.issued.length = 0 ∧ s.answered.length = 0) ∧
      s.isSaved = documentExists s.store "tenant" "Attic" ∧ s.isSaved = false) (by decide)
  have hquiet : Quiescent s :=
    ⟨List.length_eq_zero_iff.mp quiet.1, List.length_eq_zero_iff.mp quiet.2⟩
  refine ⟨s, hrun, (consistent_iff "tenant" sampleCard noneSaved patientTaps s hrun mounted
    hquiet).mp ⟨hflag, fun _ => ⟨hflag.symm.trans heven, heven⟩⟩⟩

/-- Two quick taps on a room that was not saved: both set the document, and
the card ends up not showing it. -/
theorem not_consistent : ∃ s, run (step "tenant" sampleCard) (initState noneSaved sampleCard)
    hastyTaps = some s ∧ s.mounted = true ∧ Quiescent s ∧
      ¬ Consistent noneSaved "tenant" sampleCard hastyTaps s := by
  obtain ⟨s, hrun, mounted, quiet, hflag⟩ := exists_of_check (step "tenant" sampleCard)
    (initState noneSaved sampleCard) hastyTaps (fun s => s.mounted = true ∧
      (s.issued.length = 0 ∧ s.answered.length = 0) ∧
      s.isSaved ≠ documentExists s.store "tenant" "Attic") (by decide)
  exact ⟨s, hrun, mounted,
    ⟨List.length_eq_zero_iff.mp quiet.1, List.length_eq_zero_iff.mp quiet.2⟩,
    fun h => hflag h.flag⟩

end Bookmark
