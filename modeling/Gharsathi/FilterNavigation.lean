import Gharsathi.FilteredRooms
import Gharsathi.Runs

/-!
# The routes of the filter dialog

`Filter Rooms` shows the dialog over the home route and awaits its result. A tap
on `Filter` shows an alert when the prices are the wrong way round, but goes on
in any case: it awaits the query and then pops whatever route is on top. Taps
reach only the topmost route. A pop through the context of a dialog that has
left the widget tree throws, which a closed dialog does when its exit
transition has ended.
-/

namespace FilterNavigation

open DartDouble DartMath DartStrings DartValues FirestoreCollection Runs
open PropertyFiltering FilteredRooms

/-- The alert belongs to the dialog that shows it. -/
inductive Route where
  | home
  | filterDialog (opening : Nat)
  | errorAlert (opening : Nat)
  deriving DecidableEq

/-- One opening of the dialog. -/
structure Opening (K : Type) where
  fields : Dialog K
  mounted : Bool

/-- A tap on `Filter` that has started its query; `warned` tells whether it has
shown the alert. -/
structure Query (K : Type) where
  opening : Nat
  warned : Bool
  fields : Dialog K
  completed : Bool

inductive Cause where
  | ok
  | cancel
  | filtered
  deriving DecidableEq

/-- A pop, by a handler of which opening, and the route it removed. -/
structure Pop where
  cause : Cause
  opening : Nat
  route : Route
  deriving DecidableEq

/-- A result list that came to the home screen from an opening. -/
structure Delivery where
  opening : Nat
  warned : Bool
  deriving DecidableEq

/-- The routes are listed from the top. -/
structure State (K : Type) where
  routes : List Route
  openings : List (Opening K)
  queries : List (Query K)
  filteredRooms : Option (List (Map K))
  pops : List Pop
  deliveries : List Delivery

/-- The query of a tap completes with documents, or with none when it failed. -/
inductive Action (K : Type) where
  | openDialog
  | fill (k : Nat) (fields : Dialog K)
  | filter
  | cancel
  | ok
  | complete (q : Nat) (docs : Option (List (DocumentSnapshot K)))
  | unmount (k : Nat)

section Machine
variable {K : Type}

def initial : State K := ⟨[.home], [], [], none, [], []⟩

def blankDialog : Dialog K := ⟨"", "", "", none, none, none⟩

/-- `Navigator.pop`: the topmost route goes. A dialog hands its result to the
home screen, which takes the missing result of a cancelled dialog as well. -/
def State.pop (s : State K) (cause : Cause) (opening : Nat) (result : Option (List (Map K)))
    (warned : Bool) : State K :=
  match s.routes with
  | [] => s
  | .filterDialog k :: routes =>
    { s with
      routes := routes
      filteredRooms := result
      pops := s.pops ++ [⟨cause, opening, .filterDialog k⟩]
      deliveries := if result.isSome then s.deliveries ++ [⟨k, warned⟩] else s.deliveries }
  | route :: routes =>
    { s with
      routes := routes
      pops := s.pops ++ [⟨cause, opening, route⟩] }

variable [Field K] [LinearOrder K]

/-- What `filterProperties` gives for the fields as they were at the tap. -/
def Query.results (T : DoubleParser K) (M : Functions K) (query : Query K)
    (docs : Option (List (DocumentSnapshot K))) : List (Map K) :=
  match docs with
  | none => []
  | some rooms =>
    match filterPressed T M rooms query.fields with
    | .error _ => []
    | .ok (_, results) => results

def step (T : DoubleParser K) (M : Functions K) (s : State K) : Action K → Option (State K)
  | .openDialog =>
    match s.routes with
    | .home :: _ =>
      some { s with
        routes := .filterDialog s.openings.length :: s.routes
        openings := s.openings ++ [⟨blankDialog, true⟩] }
    | _ => none
  | .fill k fields =>
    match s.openings[k]? with
    | some opening => some { s with openings := s.openings.set k { opening with fields := fields } }
    | none => none
  | .filter =>
    match s.routes with
    | .filterDialog k :: _ =>
      match s.openings[k]? with
      | some opening =>
        match warnsPrices T opening.fields.minPriceText opening.fields.maxPriceText with
        | .error _ => some s
        | .ok warned =>
          -- the query is started with the alert on the screen or without it
          some { s with
            routes := if warned then .errorAlert k :: s.routes else s.routes
            queries := s.queries ++ [⟨k, warned, opening.fields, false⟩] }
      | none => none
    | _ => none
  | .cancel =>
    match s.routes with
    | .filterDialog k :: _ => some (s.pop .cancel k none false)
    | _ => none
  | .ok =>
    match s.routes with
    | .errorAlert k :: _ => some (s.pop .ok k none false)
    | _ => none
  | .complete q docs =>
    match s.queries[q]? with
    | some ⟨k, warned, fields, false⟩ =>
      let results := (⟨k, warned, fields, false⟩ : Query K).results T M docs
      let s : State K := { s with queries := s.queries.set q ⟨k, warned, fields, true⟩ }
      match s.openings[k]? with
      | some ⟨_, true⟩ => some (s.pop .filtered k (some results) warned)
      | _ => some s
    | _ => none
  | .unmount k =>
    if .filterDialog k ∈ s.routes then none
    else
      match s.openings[k]? with
      | some opening =>
        some { s with openings := s.openings.set k { opening with mounted := false } }
      | none => none

end Machine

section Statements
variable {K : Type}

/-- Only the dialog and its alert have been removed, the alert only by the
user; each opening has delivered at most one list, and none after the alert. -/
structure Safe (s : State K) : Prop where
  home : .home ∈ s.routes
  own : ∀ pop ∈ s.pops, pop.route = .filterDialog pop.opening ∨ pop.route = .errorAlert pop.opening
  alertStays : ∀ pop ∈ s.pops, ∀ k, pop.route = .errorAlert k → pop.cause = .ok
  once : ∀ k, s.deliveries.countP (fun d => d.opening = k) ≤ 1
  noneOnError : ∀ d ∈ s.deliveries, d.warned = false

/-- The condition on a step: a query that completes while its dialog is in the
widget tree finds that dialog on top, and its tap has not shown the alert. -/
def KeepsSafe (s : State K) : Action K → Prop
  | .complete q _ => ∀ k warned fields fields', s.queries[q]? = some ⟨k, warned, fields, false⟩ →
      s.openings[k]? = some ⟨fields', true⟩ →
      s.routes.head? = some (.filterDialog k) ∧ warned = false
  | _ => True

/-- The dialog is safe throughout the run. -/
def NavigatesSafely [Field K] [LinearOrder K] (T : DoubleParser K) (M : Functions K)
    (acts : List (Action K)) : Prop :=
  ∀ past rest s, acts = past ++ rest → run (step T M) initial past = some s → Safe s

end Statements

section Steps
variable {K : Type} [Field K] [LinearOrder K] {T : DoubleParser K} {M : Functions K}

inductive Did (s : State K) : Action K → State K → Prop where
  | opened {routes : List Route} (top : s.routes = .home :: routes) :
      Did s .openDialog { s with
        routes := .filterDialog s.openings.length :: s.routes
        openings := s.openings ++ [⟨blankDialog, true⟩] }
  | filled (k : Nat) (fields : Dialog K) (opening : Opening K) :
      Did s (.fill k fields) { s with openings := s.openings.set k opening }
  | refused : Did s .filter s
  | filtered {k : Nat} {routes : List Route} (top : s.routes = .filterDialog k :: routes)
      (warned : Bool) (query : Query K) :
      Did s .filter { s with
        routes := if warned then .errorAlert k :: s.routes else s.routes
        queries := s.queries ++ [query] }
  | cancelled {k : Nat} {routes : List Route} (top : s.routes = .filterDialog k :: routes) :
      Did s .cancel (s.pop .cancel k none false)
  | confirmed {k : Nat} {routes : List Route} (top : s.routes = .errorAlert k :: routes) :
      Did s .ok (s.pop .ok k none false)
  | completed {q k : Nat} {warned : Bool} {fields fields' : Dialog K}
      {docs : Option (List (DocumentSnapshot K))}
      (hquery : s.queries[q]? = some ⟨k, warned, fields, false⟩)
      (hopening : s.openings[k]? = some ⟨fields', true⟩) (queries : List (Query K))
      (results : List (Map K)) :
      Did s (.complete q docs)
        ({ s with queries := queries }.pop .filtered k (some results) warned)
  | dropped {q k : Nat} {warned : Bool} {fields : Dialog K}
      {docs : Option (List (DocumentSnapshot K))}
      (hquery : s.queries[q]? = some ⟨k, warned, fields, false⟩)
      (hopening : ∀ fields', s.openings[k]? ≠ some ⟨fields', true⟩) (queries : List (Query K)) :
      Did s (.complete q docs) { s with queries := queries }
  | unmounted (k : Nat) (opening : Opening K) :
      Did s (.unmount k) { s with openings := s.openings.set k opening }

theorem step_did {s t : State K} {a : Action K} (h : step T M s a = some t) : Did s a t := by
  cases a with
  | openDialog =>
    simp only [step] at h
    split at h
    · rename_i routes top
      cases h
      exact .opened top
    · cases h
  | fill k fields =>
    simp only [step] at h
    split at h
    · cases h
      exact .filled k fields _
    · cases h
  | filter =>
    simp only [step] at h
    split at h
    · rename_i k routes top
      split at h
      · split at h
        · cases h
          exact .refused
        · cases h
          exact .filtered top _ _
      · cases h
    · cases h
  | cancel =>
    simp only [step] at h
    split at h
    · rename_i k routes top
      cases h
      exact .cancelled top
    · cases h
  | ok =>
    simp only [step] at h
    split at h
    · rename_i k routes top
      cases h
      exact .confirmed top
    · cases h
  | complete q docs =>
    simp only [step] at h
    split at h
    · rename_i k warned fields hquery
      split at h
      · rename_i fields' hopening
        cases h
        exact .completed hquery hopening _ _
      · rename_i hnot
        cases h
        exact .dropped hquery hnot _
    · cases h
  | unmount k =>
    simp only [step] at h
    split at h
    · cases h
    · split at h
      · cases h
        exact .unmounted k _
      · cases h

end Steps

section Openings
variable {K : Type}

/-- How often an opening is on the screen or has delivered a list. -/
def occurrences (s : State K) (k : Nat) : Nat :=
  s.routes.count (.filterDialog k) + s.deliveries.countP (fun d => d.opening = k)

structure StackOk (s : State K) : Prop where
  once : ∀ k, occurrences s k ≤ 1
  opened : ∀ k, s.openings.length ≤ k → occurrences s k = 0

theorem pop_openings (s : State K) (cause : Cause) (opening : Nat)
    (result : Option (List (Map K))) (warned : Bool) :
    (s.pop cause opening result warned).openings = s.openings := by
  unfold State.pop
  split <;> rfl

/-- A dialog that goes delivers one list at most. -/
theorem occurrences_pop_le (s : State K) (cause : Cause) (opening : Nat)
    (result : Option (List (Map K))) (warned : Bool) (k : Nat) :
    occurrences (s.pop cause opening result warned) k ≤ occurrences s k := by
  unfold State.pop
  split
  · exact le_rfl
  · rename_i j routes top
    simp only [occurrences, top, List.count_cons]
    by_cases hj : j = k
    · subst hj
      split
      · simp only [List.countP_append, List.countP_singleton, decide_true, beq_self_eq_true, if_true]
        omega
      · omega
    · have hne : (Route.filterDialog j == Route.filterDialog k) = false := by simp [hj]
      split
      · simp [List.countP_append, hj, hne]
      · simp [hne]
  · rename_i route routes hnot top
    simp only [occurrences, top, List.count_cons]
    omega

theorem stackOk_of_le {s t : State K} (hs : StackOk s)
    (hopenings : t.openings.length = s.openings.length)
    (hle : ∀ k, occurrences t k ≤ occurrences s k) : StackOk t where
  once k := (hle k).trans (hs.once k)
  opened k hk := Nat.le_zero.mp ((hle k).trans (le_of_eq (hs.opened k (hopenings ▸ hk))))

theorem stackOk_pop {s : State K} (hs : StackOk s) (cause : Cause) (opening : Nat)
    (result : Option (List (Map K))) (warned : Bool) :
    StackOk (s.pop cause opening result warned) :=
  stackOk_of_le hs (by rw [pop_openings]) (occurrences_pop_le s cause opening result warned)

variable [Field K] [LinearOrder K] {T : DoubleParser K} {M : Functions K}

theorem step_stackOk {s t : State K} {a : Action K} (hs : StackOk s)
    (h : step T M s a = some t) : StackOk t := by
  cases step_did h with
  | opened top =>
    have hcount : ∀ k, occurrences { s with
        routes := .filterDialog s.openings.length :: s.routes
        openings := s.openings ++ [⟨blankDialog, true⟩] } k =
        occurrences s k + if s.openings.length = k then 1 else 0 := by
      intro k
      simp only [occurrences, List.count_cons, beq_iff_eq, Route.filterDialog.injEq]
      omega
    constructor
    · intro k
      rw [hcount]
      by_cases hk : s.openings.length = k
      · rw [hs.opened k (le_of_eq hk), if_pos hk]
      · rw [if_neg hk]
        exact hs.once k
    · intro k hk
      rw [List.length_append, List.length_singleton] at hk
      rw [hcount, hs.opened k (by omega), if_neg (by omega)]
  | filled k fields opening => exact stackOk_of_le hs (by simp) (fun _ => le_rfl)
  | refused => exact hs
  | filtered top warned query =>
    refine stackOk_of_le hs rfl ?_
    intro k
    simp only [occurrences]
    split
    · rw [List.count_cons_of_ne (by simp)]
    · exact le_rfl
  | cancelled top => exact stackOk_pop hs _ _ _ _
  | confirmed top => exact stackOk_pop hs _ _ _ _
  | completed hquery hopening queries results =>
    have hqueries : StackOk { s with queries := queries } := ⟨hs.once, hs.opened⟩
    exact stackOk_pop hqueries _ _ _ _
  | dropped hquery hopening queries => exact ⟨hs.once, hs.opened⟩
  | unmounted k opening => exact stackOk_of_le hs (by simp) (fun _ => le_rfl)

end Openings

section Exact
variable {K : Type}

/-- The user closes the dialog. -/
theorem safe_cancelled {s : State K} {k : Nat} {routes : List Route} (hs : Safe s)
    (top : s.routes = .filterDialog k :: routes) : Safe (s.pop .cancel k none false) := by
  have hhome := hs.home
  rw [top, List.mem_cons, or_iff_right (by simp)] at hhome
  simp only [State.pop, top, Option.isSome_none, Bool.false_eq_true, if_false]
  exact ⟨hhome, forall_mem_concat_iff.mpr ⟨hs.own, Or.inl rfl⟩,
    forall_mem_concat_iff.mpr ⟨hs.alertStays, nofun⟩, hs.once, hs.noneOnError⟩

/-- The user closes the alert. -/
theorem safe_confirmed {s : State K} {k : Nat} {routes : List Route} (hs : Safe s)
    (top : s.routes = .errorAlert k :: routes) : Safe (s.pop .ok k none false) := by
  have hhome := hs.home
  rw [top, List.mem_cons, or_iff_right (by simp)] at hhome
  simp only [State.pop, top]
  exact ⟨hhome, forall_mem_concat_iff.mpr ⟨hs.own, Or.inr rfl⟩,
    forall_mem_concat_iff.mpr ⟨hs.alertStays, fun _ _ => rfl⟩, hs.once, hs.noneOnError⟩

/-- The pop after a query is safe only for a tap without the alert, and only
where it meets the dialog of the tap. -/
theorem safe_completed_iff {s : State K} {k : Nat} {results : List (Map K)} {warned : Bool}
    (hs : Safe s) (ok : StackOk (s.pop .filtered k (some results) warned)) :
    Safe (s.pop .filtered k (some results) warned) ↔
      s.routes.head? = some (.filterDialog k) ∧ warned = false := by
  have hhome := hs.home
  cases top : s.routes with
  | nil =>
    rw [top] at hhome
    cases hhome
  | cons route routes =>
    rw [top] at hhome
    cases route with
    | home =>
      constructor
      · intro safe
        have hpops := safe.own
        simp only [State.pop, top, forall_mem_concat_iff] at hpops
        rcases hpops.2 with h | h
        · cases h
        · cases h
      · rintro ⟨h, _⟩
        cases h
    | errorAlert j =>
      constructor
      · intro safe
        have hpops := safe.alertStays
        simp only [State.pop, top, forall_mem_concat_iff] at hpops
        cases hpops.2 j rfl
      · rintro ⟨h, _⟩
        cases h
    | filterDialog j =>
      constructor
      · intro safe
        have hpops := safe.own
        have hdeliveries := safe.noneOnError
        simp only [State.pop, top, Option.isSome_some, if_true, forall_mem_concat_iff]
          at hpops hdeliveries
        rcases hpops.2 with h | h
        · cases h
          exact ⟨rfl, hdeliveries.2⟩
        · cases h
      · rintro ⟨h, rfl⟩
        cases h
        have honce : ∀ j, (s.pop .filtered k (some results) false).deliveries.countP
            (fun d => d.opening = j) ≤ 1 := by
          intro j
          exact (Nat.le_add_left _ _).trans (ok.once j)
        rw [List.mem_cons, or_iff_right (by simp)] at hhome
        simp only [State.pop, top, Option.isSome_some, if_true] at honce ⊢
        exact ⟨hhome, forall_mem_concat_iff.mpr ⟨hs.own, Or.inl rfl⟩,
          forall_mem_concat_iff.mpr ⟨hs.alertStays, nofun⟩, honce,
          forall_mem_concat_iff.mpr ⟨hs.noneOnError, rfl⟩⟩

theorem initial_stackOk : StackOk (initial : State K) where
  once _ := by simp [occurrences, initial]
  opened _ _ := by simp [occurrences, initial]

theorem initial_safe : Safe (initial : State K) where
  home := List.mem_cons_self
  own _ h := absurd h List.not_mem_nil
  alertStays _ h := absurd h List.not_mem_nil
  once _ := Nat.zero_le _
  noneOnError _ h := absurd h List.not_mem_nil

variable [Field K] [LinearOrder K] {T : DoubleParser K} {M : Functions K}

theorem safe_step_iff {s t : State K} {a : Action K} (ok : StackOk s) (hs : Safe s)
    (h : step T M s a = some t) : Safe t ↔ KeepsSafe s a := by
  have hok := step_stackOk ok h
  cases step_did h with
  | opened top =>
    exact ⟨fun _ => trivial, fun _ => ⟨List.mem_cons_of_mem _ hs.home, hs.own, hs.alertStays,
      hs.once, hs.noneOnError⟩⟩
  | filled k fields opening =>
    exact ⟨fun _ => trivial, fun _ => ⟨hs.home, hs.own, hs.alertStays, hs.once, hs.noneOnError⟩⟩
  | refused => exact ⟨fun _ => trivial, fun _ => hs⟩
  | @filtered k routes top warned query =>
    refine ⟨fun _ => trivial, fun _ => ⟨?_, hs.own, hs.alertStays, hs.once, hs.noneOnError⟩⟩
    cases warned with
    | false => exact hs.home
    | true => exact List.mem_cons_of_mem _ hs.home
  | cancelled top => exact ⟨fun _ => trivial, fun _ => safe_cancelled hs top⟩
  | confirmed top => exact ⟨fun _ => trivial, fun _ => safe_confirmed hs top⟩
  | @completed q k warned fields fields' docs hquery hopening queries results =>
    have hqueries : Safe { s with queries := queries } :=
      ⟨hs.home, hs.own, hs.alertStays, hs.once, hs.noneOnError⟩
    rw [safe_completed_iff hqueries hok]
    constructor
    · intro hcond k' warned' fields1 fields2 hquery' _
      cases hquery.symm.trans hquery'
      exact hcond
    · intro hcond
      exact hcond k warned fields fields' hquery hopening
  | @dropped q k warned fields docs hquery hopening queries =>
    constructor
    · intro _ k' warned' fields1 fields2 hquery' hopening'
      cases hquery.symm.trans hquery'
      exact absurd hopening' (hopening fields2)
    · intro _
      exact ⟨hs.home, hs.own, hs.alertStays, hs.once, hs.noneOnError⟩
  | unmounted k opening =>
    exact ⟨fun _ => trivial, fun _ => ⟨hs.home, hs.own, hs.alertStays, hs.once, hs.noneOnError⟩⟩

theorem keepsSafe_of_stuck {s : State K} {a : Action K} (h : step T M s a = none) :
    KeepsSafe s a := by
  cases a with
  | complete q docs =>
    intro k warned fields fields' hquery hopening
    simp [step, hquery, hopening] at h
  | _ => trivial

/-- The filter dialog is safe in every state of a run if and only if every query
that completes while its dialog is there finds it on top and had no alert. -/
theorem navigatesSafely_iff (T : DoubleParser K) (M : Functions K) (acts : List (Action K)) :
    NavigatesSafely T M acts ↔ Along (step T M) KeepsSafe initial acts :=
  reached_iff_along StackOk Safe KeepsSafe (fun _ _ _ ok h => step_stackOk ok h)
    (fun _ _ h => keepsSafe_of_stuck h) (fun _ _ _ ok hs h => safe_step_iff ok hs h)
    initial_stackOk initial_safe acts

end Exact

/-- A minimum above the maximum, and an answer while the alert is up. -/
noncomputable def wrongWayRound : List (Action ℝ) :=
  [.openDialog,
    .fill 0 ⟨(filledField 9000).text, (filledField 5000).text, "", none, none, none⟩,
    .filter, .complete 0 none]

theorem warnsPrices_wrongWayRound :
    warnsPrices realParser (filledField 9000).text (filledField 5000).text = .ok true := by
  have hfilled : (filledField 9000).text ≠ "" ∧ (filledField 5000).text ≠ "" := by
    constructor
    · change rationalText.toString (.fin 9000) ≠ ""
      decide
    · change rationalText.toString (.fin 5000) ≠ ""
      decide
  have hmin : realParser.parse (filledField 9000).text = .ok (.fin ((9000 : ℚ) : ℝ)) := by
    rw [DoubleParser.parse, (filledField 9000).reads]
    rfl
  have hmax : realParser.parse (filledField 5000).text = .ok (.fin ((5000 : ℚ) : ℝ)) := by
    rw [DoubleParser.parse, (filledField 5000).reads]
    rfl
  have hgt : (Double.fin ((9000 : ℚ) : ℝ)).gt (.fin ((5000 : ℚ) : ℝ)) = true := by
    simp only [Double.gt_fin_fin, decide_eq_true_eq]
    norm_num
  rw [warnsPrices, if_pos hfilled, hmin, hmax]
  exact congrArg Except.ok hgt

/-- The alert is closed by the answer. -/
theorem not_navigatesSafely : ¬ NavigatesSafely realParser Functions.real wrongWayRound := by
  intro h
  have hrun : (run (step realParser Functions.real) initial wrongWayRound).map State.pops =
      some [⟨.filtered, 0, .errorAlert 0⟩] := by
    simp [wrongWayRound, run, step, initial, State.pop, blankDialog, warnsPrices_wrongWayRound]
  obtain ⟨s, hrun, hpops⟩ := Option.map_eq_some_iff.mp hrun
  have safe := h wrongWayRound [] s (by simp) hrun
  have hcause := safe.alertStays ⟨.filtered, 0, .errorAlert 0⟩
    (by rw [hpops]; exact List.mem_cons_self) 0 rfl
  cases hcause

end FilterNavigation
