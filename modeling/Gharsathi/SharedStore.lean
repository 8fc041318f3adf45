import Gharsathi.Runs
import Mathlib.Logic.Function.Basic

/-!
# Devices on one store

Any number of devices work on one store, each with a state of its own, and a
step is a step of one of them. What holds of the store and of every device is
shown by three facts about a single device: its steps keep what holds of the
store and of itself, they change the store only in ways that `R` allows, and
such changes disturb no other device. Parts that share nothing are run side by
side, and a run of both is a run of each.
-/

namespace SharedStore

open Runs

universe u v w x

structure System (γ : Type u) (ι : Type v) (δ : Type w) where
  store : γ
  devices : ι → δ

section Devices
variable {γ : Type u} {ι : Type v} {δ : Type w} {α : Type x} [DecidableEq ι]

def step (deviceStep : γ → δ → α → Option (γ × δ)) (s : System γ ι δ) (a : ι × α) :
    Option (System γ ι δ) :=
  match deviceStep s.store (s.devices a.1) a.2 with
  | none => none
  | some (store, device) => some ⟨store, Function.update s.devices a.1 device⟩

variable {deviceStep : γ → δ → α → Option (γ × δ)}

theorem step_cases {s t : System γ ι δ} {i : ι} {a : α}
    (h : step deviceStep s (i, a) = some t) :
    ∃ device, deviceStep s.store (s.devices i) a = some (t.store, device) ∧
      t.devices i = device ∧ ∀ j, j ≠ i → t.devices j = s.devices j := by
  unfold step at h
  split at h
  · cases h
  · rename_i store device hstep
    cases h
    exact ⟨device, hstep, Function.update_self _ _ _, fun j hj => Function.update_of_ne hj _ _⟩

/-- What a device can do by itself, it can do among the others. -/
theorem run_alone {s : System γ ι δ} {i : ι} {acts : List α} {store : γ} {device : δ}
    (h : Runs.run (fun t a => deviceStep t.1 t.2 a) (s.store, s.devices i) acts =
      some (store, device)) :
    ∃ t, Runs.run (step deviceStep) s (acts.map (Prod.mk i)) = some t ∧ t.store = store ∧
      t.devices i = device := by
  induction acts generalizing s with
  | nil =>
    cases h
    exact ⟨s, rfl, rfl, rfl⟩
  | cons a acts ih =>
    obtain ⟨⟨store', device'⟩, hstep, hrest⟩ := run_cons.mp h
    have hnext : step deviceStep s (i, a) =
        some ⟨store', Function.update s.devices i device'⟩ := by
      rw [step, hstep]
    obtain ⟨t, hrun, ht⟩ := ih (s := ⟨store', Function.update s.devices i device'⟩)
      (by simpa using hrest)
    exact ⟨t, run_cons.mpr ⟨_, hnext, hrun⟩, ht⟩

/-- What a device relies on, and what the others may count on. -/
structure Guarantees (deviceStep : γ → δ → α → Option (γ × δ)) (G : γ → Prop)
    (L : γ → δ → Prop) (R : γ → γ → Prop) : Prop where
  refl : ∀ store, R store store
  trans : ∀ store store' store'', R store store' → R store' store'' → R store store''
  own : ∀ store device a store' device', G store → L store device →
    deviceStep store device a = some (store', device') →
    G store' ∧ L store' device' ∧ R store store'
  stable : ∀ store store' device, G store → L store device → R store store' → L store' device

variable {G : γ → Prop} {L : γ → δ → Prop} {R : γ → γ → Prop}

theorem Guarantees.step (guarantees : Guarantees deviceStep G L R) {s t : System γ ι δ}
    {a : ι × α} (hG : G s.store) (hL : ∀ i, L s.store (s.devices i))
    (h : step deviceStep s a = some t) :
    G t.store ∧ (∀ i, L t.store (t.devices i)) ∧ R s.store t.store := by
  obtain ⟨i, a⟩ := a
  obtain ⟨device, hstep, hown, hothers⟩ := step_cases h
  obtain ⟨hG', hL', hR⟩ := guarantees.own _ _ _ _ _ hG (hL i) hstep
  refine ⟨hG', ?_, hR⟩
  intro j
  by_cases hj : j = i
  · rw [hj, hown]
    exact hL'
  · rw [hothers j hj]
    exact guarantees.stable _ _ _ hG (hL j) hR

/-- The rule: the facts about single devices hold in every state of a run, and
all that a run does to the store is allowed. -/
theorem Guarantees.run (guarantees : Guarantees deviceStep G L R) {s t : System γ ι δ}
    {acts : List (ι × α)} (hG : G s.store) (hL : ∀ i, L s.store (s.devices i))
    (hrun : Runs.run (SharedStore.step deviceStep) s acts = some t) :
    G t.store ∧ (∀ i, L t.store (t.devices i)) ∧ R s.store t.store := by
  refine run_invariant (fun u : System γ ι δ => G u.store ∧ (∀ i, L u.store (u.devices i)) ∧
    R s.store u.store) ?_ hrun ⟨hG, hL, guarantees.refl _⟩
  rintro u a v ⟨hG, hL, hR⟩ hstep
  obtain ⟨hG', hL', hR'⟩ := guarantees.step hG hL hstep
  exact ⟨hG', hL', guarantees.trans _ _ _ hR hR'⟩

end Devices

section SideBySide
variable {σ : Type u} {τ : Type v} {α : Type w} {β : Type x}

/-- Two machines that share nothing, one of which takes each step. -/
def both (first : σ → α → Option σ) (second : τ → β → Option τ) (s : σ × τ) :
    α ⊕ β → Option (σ × τ)
  | .inl a => (first s.1 a).map (fun t => (t, s.2))
  | .inr b => (second s.2 b).map (fun t => (s.1, t))

variable {first : σ → α → Option σ} {second : τ → β → Option τ}

/-- However the two are interleaved, each of them has run by itself. -/
theorem run_both {s t : σ × τ} {acts : List (α ⊕ β)}
    (hrun : Runs.run (both first second) s acts = some t) :
    Runs.run first s.1 (acts.filterMap Sum.getLeft?) = some t.1 ∧
      Runs.run second s.2 (acts.filterMap Sum.getRight?) = some t.2 := by
  induction acts generalizing s with
  | nil =>
    cases hrun
    exact ⟨rfl, rfl⟩
  | cons a acts ih =>
    obtain ⟨m, hstep, hrest⟩ := run_cons.mp hrun
    obtain ⟨hfirst, hsecond⟩ := ih hrest
    cases a with
    | inl a =>
      obtain ⟨s', hs', rfl⟩ := Option.map_eq_some_iff.mp hstep
      exact ⟨run_cons.mpr ⟨s', hs', hfirst⟩, hsecond⟩
    | inr b =>
      obtain ⟨s', hs', rfl⟩ := Option.map_eq_some_iff.mp hstep
      exact ⟨hfirst, run_cons.mpr ⟨s', hs', hsecond⟩⟩

end SideBySide

end SharedStore
