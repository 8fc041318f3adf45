import Mathlib.Data.List.Induction

/-!
# Histories of records

A store of records told by what happened to it: a record was added under an id,
changed, or removed. What is held under an id is found by going through the
history. When no id is used again for another record, this comes to the record
that was added, with all its changes in their order, unless it was removed.
-/

namespace RecordHistory

universe u v w

inductive Event (κ : Type u) (ν : Type v) (υ : Type w) where
  | add (id : κ) (value : ν)
  | change (id : κ) (update : υ)
  | remove (id : κ)

variable {κ : Type u} {ν : Type v} {υ : Type w}

def Event.id : Event κ ν υ → κ
  | .add id _ => id
  | .change id _ => id
  | .remove id => id

def Event.isAdd : Event κ ν υ → Bool
  | .add _ _ => true
  | _ => false

section Held
variable [DecidableEq κ] (apply : ν → υ → ν)

/-- What an event leaves under an id where `held` was. -/
def Event.effect (id : κ) (held : Option ν) : Event κ ν υ → Option ν
  | .add i value => if i = id then some value else held
  | .change i update => if i = id then held.map (fun value => apply value update) else held
  | .remove i => if i = id then none else held

def held (id : κ) (history : List (Event κ ν υ)) : Option ν :=
  history.foldl (Event.effect apply id) none

def changeOf (id : κ) : Event κ ν υ → Option υ
  | .change i update => if i = id then some update else none
  | _ => none

/-- The changes of a record in their order. -/
def changesOf (id : κ) (history : List (Event κ ν υ)) : List υ := history.filterMap (changeOf id)

/-- A record is added under an id that nothing has happened to before. -/
def AddsFresh (history : List (Event κ ν υ)) : Prop :=
  history.Pairwise (fun e e' => e'.isAdd = true → e.id ≠ e'.id)

variable {apply}

theorem held_concat (id : κ) (history : List (Event κ ν υ)) (e : Event κ ν υ) :
    held apply id (history ++ [e]) = e.effect apply id (held apply id history) := by
  simp [held]

theorem changesOf_concat (id : κ) (history : List (Event κ ν υ)) (e : Event κ ν υ) :
    changesOf id (history ++ [e]) = changesOf id history ++ (changeOf id e).toList := by
  unfold changesOf
  rw [List.filterMap_append]
  cases h : changeOf id e <;> simp [h]

theorem mem_changesOf {id : κ} {history : List (Event κ ν υ)} {u : υ} :
    u ∈ changesOf id history ↔ Event.change id u ∈ history := by
  rw [changesOf, List.mem_filterMap]
  constructor
  · rintro ⟨e, he, hu⟩
    cases e with
    | change i w =>
      obtain ⟨rfl, hw⟩ := Option.ite_none_right_eq_some.mp hu
      cases hw
      exact he
    | add i x => cases hu
    | remove i => cases hu
  · intro h
    exact ⟨_, h, if_pos rfl⟩

theorem effect_other {id : κ} {e : Event κ ν υ} (h : e.id ≠ id) (value : Option ν) :
    e.effect apply id value = value := by
  cases e with
  | add i x => exact if_neg h
  | change i u => exact if_neg h
  | remove i => exact if_neg h

theorem changeOf_other {id : κ} {e : Event κ ν υ} (h : e.id ≠ id) : changeOf id e = none := by
  cases e with
  | change i u => exact if_neg h
  | _ => rfl

omit [DecidableEq κ] in
theorem addsFresh_concat_iff {history : List (Event κ ν υ)} {e : Event κ ν υ} :
    AddsFresh (history ++ [e]) ↔
      AddsFresh history ∧ (e.isAdd = true → ∀ e' ∈ history, e'.id ≠ e.id) := by
  simp only [AddsFresh, List.pairwise_append, List.pairwise_singleton, true_and,
    List.mem_singleton, forall_eq]
  exact and_congr_right (fun _ => ⟨fun h hadd e' he' => h e' he' hadd,
    fun h e' he' hadd => h hadd e' he'⟩)

omit [DecidableEq κ] in
/-- A history adds at most one record under an id. -/
theorem added_unique {history : List (Event κ ν υ)} (fresh : AddsFresh history) {id : κ}
    {x y : ν} (hx : Event.add id x ∈ history) (hy : Event.add id y ∈ history) : x = y := by
  induction history using List.reverseRecOn with
  | nil => cases hx
  | append_singleton history e ih =>
    obtain ⟨hpast, hnew⟩ := addsFresh_concat_iff.mp fresh
    rcases List.mem_append.mp hx with oldx | newx
    · rcases List.mem_append.mp hy with oldy | newy
      · exact ih hpast oldx oldy
      · obtain rfl := List.mem_singleton.mp newy
        exact (hnew rfl _ oldx rfl).elim
    · obtain rfl := List.mem_singleton.mp newx
      rcases List.mem_append.mp hy with oldy | newy
      · exact (hnew rfl _ oldy rfl).elim
      · cases List.mem_singleton.mp newy
        rfl

/-- What is held is what was added and not removed, as its changes have left it. -/
theorem held_eq_some_iff {history : List (Event κ ν υ)} (fresh : AddsFresh history) {id : κ}
    {value : ν} : held apply id history = some value ↔
      ∃ first, Event.add id first ∈ history ∧ Event.remove id ∉ history ∧
        value = (changesOf id history).foldl apply first := by
  induction history using List.reverseRecOn generalizing value with
  | nil => simp [held]
  | append_singleton history e ih =>
    obtain ⟨hpast, hnew⟩ := addsFresh_concat_iff.mp fresh
    rw [held_concat, changesOf_concat]
    by_cases hid : e.id = id
    · subst hid
      cases e with
      | add i x =>
        -- nothing has happened to this id before
        have hno : ∀ e' ∈ history, e'.id ≠ i := hnew rfl
        have hchanges : changesOf i history = [] := by
          refine List.filterMap_eq_nil_iff.mpr (fun e' he' => ?_)
          exact changeOf_other (hno e' he')
        have hadd : ∀ y, Event.add i y ∉ history := fun y hy => hno _ hy rfl
        have hremove : Event.remove i ∉ history := fun hy => hno _ hy rfl
        simp [Event.effect, Event.id, changeOf, hchanges, hadd, hremove, eq_comm]
      | change i u =>
        have hchange : changeOf i (Event.change i u : Event κ ν υ) = some u := if_pos rfl
        simp only [Event.effect, Event.id, if_true, Option.map_eq_some_iff, hchange,
          Option.toList_some, List.foldl_append, List.foldl_cons, List.foldl_nil,
          List.mem_append, List.mem_singleton, reduceCtorEq, or_false]
        constructor
        · rintro ⟨x, hx, rfl⟩
          obtain ⟨first, hadd, hremove, rfl⟩ := (ih hpast).mp hx
          exact ⟨first, hadd, hremove, rfl⟩
        · rintro ⟨first, hadd, hremove, rfl⟩
          exact ⟨_, (ih hpast).mpr ⟨first, hadd, hremove, rfl⟩, rfl⟩
      | remove i => simp [Event.effect, Event.id]
    · have hadd : ∀ x, Event.add id x ∈ history ++ [e] ↔ Event.add id x ∈ history := by
        intro x
        rw [List.mem_append, List.mem_singleton]
        exact or_iff_left (fun heq => hid (heq ▸ rfl))
      have hremove : Event.remove id ∈ history ++ [e] ↔ Event.remove id ∈ history := by
        rw [List.mem_append, List.mem_singleton]
        exact or_iff_left (fun heq => hid (heq ▸ rfl))
      rw [effect_other hid, changeOf_other hid, ih hpast]
      simp [hadd, hremove]

end Held

end RecordHistory
