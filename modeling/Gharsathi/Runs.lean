import Mathlib.Data.List.Induction

/-!
# Runs of a partial step function

`step s a` is the state after action `a`, or `none` when the action is not
possible in `s`. A run is a list of actions taken one after the other. The
rules here carry a fact about one step to every state a run reaches, with or
without a condition on the steps and with or without the history of the run.
A machine that keeps its tasks in a list moves one of them on by `List.set`.
-/

namespace Runs

universe u v

variable {σ : Type u} {α : Type v} (step : σ → α → Option σ)

def run : σ → List α → Option σ
  | s, [] => some s
  | s, a :: as =>
    match step s a with
    | none => none
    | some t => run t as

/-- Every step of the run starts in a state where `P` allows the action. -/
def Along (P : σ → α → Prop) : σ → List α → Prop
  | _, [] => True
  | s, a :: as => P s a ∧ ∀ t, step s a = some t → Along P t as

variable {step}

@[simp] theorem run_nil (s : σ) : run step s [] = some s := rfl

theorem run_cons {s u : σ} {a : α} {as : List α} :
    run step s (a :: as) = some u ↔ ∃ t, step s a = some t ∧ run step t as = some u := by
  rw [run]
  cases step s a with
  | none => simp
  | some t => simp

theorem run_append {s u : σ} {as bs : List α} :
    run step s (as ++ bs) = some u ↔ ∃ t, run step s as = some t ∧ run step t bs = some u := by
  induction as generalizing s with
  | nil => simp
  | cons a as ih =>
    rw [List.cons_append, run_cons]
    constructor
    · rintro ⟨t, ht, hu⟩
      obtain ⟨m, hm, hu⟩ := ih.mp hu
      exact ⟨m, run_cons.mpr ⟨t, ht, hm⟩, hu⟩
    · rintro ⟨m, hm, hu⟩
      obtain ⟨t, ht, hm⟩ := run_cons.mp hm
      exact ⟨t, ht, ih.mpr ⟨m, hm, hu⟩⟩

theorem run_snoc {s u : σ} {as : List α} {a : α} :
    run step s (as ++ [a]) = some u ↔ ∃ t, run step s as = some t ∧ step t a = some u := by
  rw [run_append]
  simp only [run_cons, run_nil, Option.some.injEq, exists_eq_right]

/-- An invariant of the steps that meet `P` holds after a run of such steps. -/
theorem run_invariant_along (I : σ → Prop) (P : σ → α → Prop)
    (kept : ∀ s a t, I s → P s a → step s a = some t → I t)
    {s u : σ} {as : List α} (hrun : run step s as = some u)
    (along : Along step P s as) (hs : I s) : I u := by
  induction as generalizing s with
  | nil => exact Option.some.inj hrun ▸ hs
  | cons a as ih =>
    obtain ⟨t, ht, hu⟩ := run_cons.mp hrun
    exact ih hu (along.2 t ht) (kept s a t hs along.1 ht)

theorem along_true (s : σ) (as : List α) : Along step (fun _ _ => True) s as := by
  induction as generalizing s with
  | nil => trivial
  | cons a as ih => exact ⟨trivial, fun t _ => ih t⟩

theorem along_of_forall {Q : α → Prop} {as : List α} (h : ∀ a ∈ as, Q a) (s : σ) :
    Along step (fun _ a => Q a) s as := by
  induction as generalizing s with
  | nil => trivial
  | cons a as ih =>
    exact ⟨h a List.mem_cons_self, fun t _ => ih (fun b hb => h b (List.mem_cons_of_mem a hb)) t⟩

theorem run_invariant (I : σ → Prop) (kept : ∀ s a t, I s → step s a = some t → I t)
    {s u : σ} {as : List α} (hrun : run step s as = some u) (hs : I s) : I u :=
  run_invariant_along I (fun _ _ => True) (fun s a t hi _ => kept s a t hi) hrun
    (along_true s as) hs

/-- An invariant that may mention the actions taken so far. -/
theorem run_history (I : List α → σ → Prop)
    (kept : ∀ past s a t, I past s → step s a = some t → I (past ++ [a]) t)
    {s u : σ} {as : List α} (hrun : run step s as = some u) (hs : I [] s) : I as u := by
  induction as using List.reverseRecOn generalizing u with
  | nil => exact Option.some.inj hrun ▸ hs
  | append_singleton as a ih =>
    obtain ⟨t, ht, hu⟩ := run_snoc.mp hrun
    exact kept as t a u (ih ht) hu

theorem along_append {P : σ → α → Prop} {s : σ} {as bs : List α} (h : Along step P s (as ++ bs)) :
    Along step P s as := by
  induction as generalizing s with
  | nil => trivial
  | cons a as ih => exact ⟨h.1, fun t ht => ih (h.2 t ht)⟩

theorem along_iff {P : σ → α → Prop} {s : σ} {as : List α} :
    Along step P s as ↔ ∀ past a rest t, as = past ++ a :: rest →
      run step s past = some t → P t a := by
  induction as generalizing s with
  | nil => simp [Along]
  | cons b bs ih =>
    constructor
    · rintro ⟨hb, hrest⟩ past a rest t heq hrun
      cases past with
      | nil =>
        obtain ⟨rfl, rfl⟩ := List.cons.inj heq
        exact Option.some.inj hrun ▸ hb
      | cons c past =>
        obtain ⟨rfl, htail⟩ := List.cons.inj heq
        obtain ⟨m, hm, hrun⟩ := run_cons.mp hrun
        exact ih.mp (hrest m hm) past a rest t htail hrun
    · intro h
      refine ⟨h [] b bs s rfl rfl, fun m hm => ih.mpr ?_⟩
      intro past a rest t heq hrun
      exact h (b :: past) a rest t (by rw [heq]; rfl) (run_cons.mpr ⟨m, hm, hrun⟩)

/-- Two conditions that an invariant makes the same, while they are met. -/
theorem along_congr (I : σ → Prop) {P Q : σ → α → Prop}
    (kept : ∀ s a t, I s → P s a → step s a = some t → I t)
    (same : ∀ s a, I s → (P s a ↔ Q s a)) {s : σ} (hs : I s) (as : List α) :
    Along step P s as ↔ Along step Q s as := by
  induction as generalizing s with
  | nil => rfl
  | cons a as ih =>
    rw [Along, Along, same s a hs]
    refine and_congr_right (fun hQ => forall_congr' (fun t => forall_congr' (fun ht => ?_)))
    exact ih (kept s a t hs ((same s a hs).mpr hQ) ht)

/-- When every step keeps `Good` exactly under `P`, all states that a run
reaches are good if and only if its steps meet `P`. -/
theorem reached_iff_along_of_stuck (I Good : σ → Prop) (P : σ → α → Prop)
    (kept : ∀ s a t, I s → step s a = some t → I t)
    (stuck : ∀ s a, I s → step s a = none → P s a)
    (exact_step : ∀ s a t, I s → Good s → step s a = some t → (Good t ↔ P s a))
    {s : σ} (hs : I s) (good : Good s) (as : List α) :
    (∀ past rest u, as = past ++ rest → run step s past = some u → Good u) ↔
      Along step P s as := by
  induction as generalizing s with
  | nil =>
    refine ⟨fun _ => trivial, ?_⟩
    intro _ past rest u heq hrun
    obtain ⟨rfl, _⟩ := List.append_eq_nil_iff.mp heq.symm
    exact Option.some.inj hrun ▸ good
  | cons a as ih =>
    constructor
    · intro h
      have good_next : ∀ t, step s a = some t → Good t := by
        intro t ht
        exact h [a] as t rfl (run_cons.mpr ⟨t, ht, rfl⟩)
      refine ⟨?_, fun t ht => (ih (kept s a t hs ht) (good_next t ht)).mp ?_⟩
      · cases ht : step s a with
        | none => exact stuck s a hs ht
        | some t => exact (exact_step s a t hs good ht).mp (good_next t ht)
      · intro past rest u heq hrun
        exact h (a :: past) rest u (by rw [heq]; rfl) (run_cons.mpr ⟨t, ht, hrun⟩)
    · rintro ⟨hP, hrest⟩ past rest u heq hrun
      cases past with
      | nil => exact Option.some.inj hrun ▸ good
      | cons b past =>
        obtain ⟨rfl, htail⟩ := List.cons.inj heq
        obtain ⟨t, ht, hrun⟩ := run_cons.mp hrun
        have good_next := (exact_step s a t hs good ht).mpr hP
        exact (ih (kept s a t hs ht) good_next).mpr (hrest t ht) past rest u htail hrun

theorem reached_iff_along (I Good : σ → Prop) (P : σ → α → Prop)
    (kept : ∀ s a t, I s → step s a = some t → I t)
    (stuck : ∀ s a, step s a = none → P s a)
    (exact_step : ∀ s a t, I s → Good s → step s a = some t → (Good t ↔ P s a))
    {s : σ} (hs : I s) (good : Good s) (as : List α) :
    (∀ past rest u, as = past ++ rest → run step s past = some u → Good u) ↔
      Along step P s as :=
  reached_iff_along_of_stuck I Good P kept (fun s a _ => stuck s a) exact_step hs good as

/-- A view of the states that each step respects is respected by a run. -/
theorem run_map {τ : Type*} {step' : τ → α → Option τ} (view : σ → τ)
    (respects : ∀ s a, (step s a).map view = step' (view s) a) (s : σ) (as : List α) :
    (run step s as).map view = run step' (view s) as := by
  induction as generalizing s with
  | nil => rfl
  | cons a as ih =>
    rw [run, run, ← respects s a]
    cases step s a with
    | none => rfl
    | some t => exact ih t

/-- A run of given actions is computed, and its last state with it. -/
theorem exists_of_check (step : σ → α → Option σ) (s : σ) (as : List α) (P : σ → Prop)
    [DecidablePred P] (check : (run step s as).any (fun t => decide (P t)) = true) :
    ∃ t, run step s as = some t ∧ P t := by
  obtain ⟨t, hrun, ht⟩ := (Option.any_eq_true _ _).mp check
  exact ⟨t, hrun, of_decide_eq_true ht⟩

section Tasks
variable {τ : Type u}

/-- Moving a task on changes a count by what it adds and what it takes away. -/
theorem countP_set_add (p : τ → Bool) {tasks : List τ} {i : Nat} {x : τ} (y : τ)
    (hx : tasks[i]? = some x) :
    (tasks.set i y).countP p + (if p x then 1 else 0) =
      tasks.countP p + (if p y then 1 else 0) := by
  obtain ⟨hi, hget⟩ := List.getElem?_eq_some_iff.mp hx
  rw [List.countP_set hi, hget]
  by_cases hp : p x = true
  · have hpos : 0 < tasks.countP p :=
      List.countP_pos_iff.mpr ⟨x, List.mem_of_getElem? hx, hp⟩
    simp only [hp, if_true]
    omega
  · simp [hp]

theorem filter_set_same (p : τ → Bool) {tasks : List τ} {i : Nat} {x y : τ}
    (hx : tasks[i]? = some x) (hpx : p x = false) (hpy : p y = false) :
    (tasks.set i y).filter p = tasks.filter p := by
  induction tasks generalizing i with
  | nil => rfl
  | cons z tasks ih =>
    cases i with
    | zero =>
      cases hx
      simp [hpx, hpy]
    | succ i =>
      have htail := ih (i := i) (by simpa using hx)
      simp [List.filter_cons, htail]

/-- A task that enters the filtered list adds one entry to it. -/
theorem filter_set_perm (p : τ → Bool) {tasks : List τ} {i : Nat} {x y : τ}
    (hx : tasks[i]? = some x) (hpx : p x = false) (hpy : p y = true) :
    ((tasks.set i y).filter p).Perm (y :: tasks.filter p) := by
  induction tasks generalizing i with
  | nil => simp at hx
  | cons z tasks ih =>
    cases i with
    | zero =>
      cases hx
      simp [hpx, hpy]
    | succ i =>
      have htail := ih (i := i) (by simpa using hx)
      rw [List.set_cons_succ]
      by_cases hz : p z = true
      · rw [List.filter_cons_of_pos hz, List.filter_cons_of_pos hz]
        exact (htail.cons z).trans (List.Perm.swap y z _)
      · rw [List.filter_cons_of_neg hz, List.filter_cons_of_neg hz]
        exact htail

/-- What holds of all tasks holds after one of them was moved on. -/
theorem forall_mem_set {Q : τ → Prop} {tasks : List τ} {i : Nat} {y : τ}
    (all : ∀ z ∈ tasks, Q z) (hy : Q y) : ∀ z ∈ tasks.set i y, Q z := by
  intro z hz
  rcases List.mem_or_eq_of_mem_set hz with hz | rfl
  · exact all z hz
  · exact hy

/-- What holds of all tasks and a new one. -/
theorem forall_mem_concat_iff {Q : τ → Prop} {tasks : List τ} {y : τ} :
    (∀ z ∈ tasks ++ [y], Q z) ↔ (∀ z ∈ tasks, Q z) ∧ Q y := by
  rw [List.forall_mem_append, List.forall_mem_singleton]

/-- What holds of all tasks holds after a new one has come in. -/
theorem forall_mem_concat {Q : τ → Prop} {tasks : List τ} {y : τ}
    (all : ∀ z ∈ tasks, Q z) (hy : Q y) : ∀ z ∈ tasks ++ [y], Q z :=
  forall_mem_concat_iff.mpr ⟨all, hy⟩

/-- A task that was moved on stands where it stood. -/
theorem getElem?_set_of_some {tasks : List τ} {i : Nat} {x : τ} (y : τ)
    (hx : tasks[i]? = some x) : (tasks.set i y)[i]? = some y := by
  rw [List.getElem?_set_self', hx]
  rfl

theorem getElem?_set_cases {tasks : List τ} {y z : τ} {i j : Nat}
    (h : (tasks.set i y)[j]? = some z) : (j = i ∧ z = y) ∨ (j ≠ i ∧ tasks[j]? = some z) := by
  by_cases hij : i = j
  · subst hij
    rw [List.getElem?_set_self'] at h
    obtain ⟨_, _, rfl⟩ := Option.map_eq_some_iff.mp h
    exact Or.inl ⟨rfl, rfl⟩
  · rw [List.getElem?_set_ne hij] at h
    exact Or.inr ⟨Ne.symm hij, h⟩

theorem getElem?_concat_cases {tasks : List τ} {y z : τ} {i : Nat}
    (h : (tasks ++ [y])[i]? = some z) : tasks[i]? = some z ∨ (tasks[i]? = none ∧ z = y) := by
  by_cases hi : i < tasks.length
  · rw [List.getElem?_append_left hi] at h
    exact Or.inl h
  · have hnone : tasks[i]? = none := List.getElem?_eq_none (Nat.le_of_not_lt hi)
    rw [List.getElem?_append_right (Nat.le_of_not_lt hi)] at h
    exact Or.inr ⟨hnone, List.mem_singleton.mp (List.mem_of_getElem? h)⟩

end Tasks

end Runs
