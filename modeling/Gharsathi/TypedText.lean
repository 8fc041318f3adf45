import Mathlib.Data.List.Nodup
import Mathlib.Data.List.Perm.Basic

/-!
# Text that remembers its keystrokes

A text field whose characters carry the number of the keystroke that put them
there, so that two equal letters are told apart and a text typed twice is two
texts. Beside the text stands what was ever typed and what was deleted again by
an edit. Clearing the field is not an edit: what it takes away is not deleted.
An editor is a screen that sees of a text field what it shows, and can edit and
clear it.
-/

namespace TypedText

universe u

structure Typed (χ : Type u) where
  char : χ
  keystroke : Nat
  deriving DecidableEq

section Numbering
variable {χ : Type u}

/-- Characters typed one after the other, from keystroke `n` on. -/
def number (n : Nat) : List χ → List (Typed χ)
  | [] => []
  | c :: cs => ⟨c, n⟩ :: number (n + 1) cs

theorem length_number (n : Nat) (cs : List χ) : (number n cs).length = cs.length := by
  induction cs generalizing n with
  | nil => rfl
  | cons c cs ih => rw [number, List.length_cons, List.length_cons, ih]

theorem map_char_number (n : Nat) (cs : List χ) : (number n cs).map Typed.char = cs := by
  induction cs generalizing n with
  | nil => rfl
  | cons c cs ih => rw [number, List.map_cons, ih]

theorem keystroke_of_mem {n : Nat} {cs : List χ} {x : Typed χ} (h : x ∈ number n cs) :
    n ≤ x.keystroke ∧ x.keystroke < n + cs.length := by
  induction cs generalizing n with
  | nil => cases h
  | cons c cs ih =>
    rw [List.length_cons]
    rcases List.mem_cons.mp h with rfl | h
    · dsimp only
      omega
    · obtain ⟨hlow, hhigh⟩ := ih h
      omega

theorem nodup_number (n : Nat) (cs : List χ) : (number n cs).Nodup := by
  induction cs generalizing n with
  | nil => exact List.nodup_nil
  | cons c cs ih =>
    refine List.nodup_cons.mpr ⟨fun h => ?_, ih (n + 1)⟩
    obtain ⟨hlow, _⟩ := keystroke_of_mem h
    exact absurd hlow (Nat.not_succ_le_self n)

end Numbering

structure TextField (χ : Type u) where
  text : List (Typed χ)
  typed : List (Typed χ)
  deleted : List (Typed χ)

namespace TextField
variable {χ : Type u}

def empty : TextField χ := ⟨[], [], []⟩

/-- The characters from `start` to `stop` are replaced by new ones. -/
def edit (f : TextField χ) (start stop : Nat) (new : List χ) : Option (TextField χ) :=
  if start ≤ stop ∧ stop ≤ f.text.length then
    let typed := number f.typed.length new
    some {
      text := f.text.take start ++ typed ++ f.text.drop stop
      typed := f.typed ++ typed
      deleted := f.deleted ++ (f.text.take stop).drop start }
  else none

def clear (f : TextField χ) : TextField χ := { f with text := [] }

/-- What keystrokes alone make of a field. -/
structure Sound (f : TextField χ) : Prop where
  numbered : ∀ x ∈ f.typed, x.keystroke < f.typed.length
  nodup : (f.text ++ f.deleted).Nodup
  typed : ∀ x ∈ f.text ++ f.deleted, x ∈ f.typed

theorem sound_empty : Sound (empty : TextField χ) := ⟨nofun, List.nodup_nil, nofun⟩

theorem Sound.not_deleted {f : TextField χ} (sound : Sound f) {x : Typed χ} (h : x ∈ f.text) :
    x ∉ f.deleted :=
  fun hdeleted => List.disjoint_of_nodup_append sound.nodup h hdeleted

theorem sound_clear {f : TextField χ} (sound : Sound f) : Sound f.clear where
  numbered := sound.numbered
  nodup := (List.nodup_append.mp sound.nodup).2.1
  typed x hx := sound.typed x (List.mem_append_right _ hx)

theorem take_append_mid_append_drop (xs : List (Typed χ)) {start stop : Nat}
    (h : start ≤ stop) : xs.take start ++ (xs.take stop).drop start ++ xs.drop stop = xs := by
  have htake : (xs.take stop).take start = xs.take start := by
    rw [List.take_take, Nat.min_eq_left h]
  rw [← htake, List.take_append_drop, List.take_append_drop]

/-- An edit adds characters that are new and takes away none without a record. -/
theorem edit_perm {f g : TextField χ} {start stop : Nat} {new : List χ}
    (h : f.edit start stop new = some g) :
    g.typed = f.typed ++ number f.typed.length new ∧
      (∀ x ∈ f.deleted, x ∈ g.deleted) ∧
      (g.text ++ g.deleted).Perm (f.text ++ f.deleted ++ number f.typed.length new) := by
  unfold edit at h
  split at h
  · rename_i hrange
    cases h
    refine ⟨rfl, fun x hx => List.mem_append_left _ hx, ?_⟩
    have hcut := take_append_mid_append_drop f.text hrange.1
    classical
    refine List.perm_iff_count.mpr (fun x => ?_)
    have hcount := congrArg (List.count x) hcut
    simp only [List.count_append] at hcount ⊢
    omega
  · cases h

/-- What is read in the field is what an edit of plain text leaves. -/
theorem edit_chars {f g : TextField χ} {start stop : Nat} {new : List χ}
    (h : f.edit start stop new = some g) :
    g.text.map Typed.char =
      (f.text.map Typed.char).take start ++ new ++ (f.text.map Typed.char).drop stop := by
  unfold edit at h
  split at h
  · cases h
    simp only [List.map_append, map_char_number, List.map_take, List.map_drop]
  · cases h

theorem sound_edit {f g : TextField χ} {start stop : Nat} {new : List χ} (sound : Sound f)
    (h : f.edit start stop new = some g) : Sound g := by
  obtain ⟨htyped, _, hperm⟩ := edit_perm h
  constructor
  · intro x hx
    rw [htyped] at hx ⊢
    rw [List.length_append, length_number]
    rcases List.mem_append.mp hx with hold | hnew
    · have := sound.numbered x hold
      omega
    · exact (keystroke_of_mem hnew).2
  · refine hperm.nodup_iff.mpr (List.nodup_append'.mpr ⟨sound.nodup, nodup_number _ _, ?_⟩)
    intro x hold hnew
    have hlow := (keystroke_of_mem hnew).1
    have hhigh := sound.numbered x (sound.typed x hold)
    omega
  · intro x hx
    rw [htyped]
    rcases List.mem_append.mp (hperm.mem_iff.mp hx) with hold | hnew
    · exact List.mem_append_left _ (sound.typed x hold)
    · exact List.mem_append_right _ hnew

end TextField

/-- The characters from `start` to `stop` of a text are replaced by new ones. -/
def replaceRange (s : String) (start stop : Nat) (new : String) : Option String :=
  if start ≤ stop ∧ stop ≤ s.toList.length then
    some (String.ofList (s.toList.take start ++ new.toList ++ s.toList.drop stop))
  else none

/-- A text field of any kind, whose text is edited as plain text is. -/
structure Editor (φ : Type u) where
  text : φ → String
  empty : φ
  edit : φ → Nat → Nat → String → Option φ
  clear : φ → φ
  text_empty : text empty = ""
  text_edit : ∀ f start stop new,
    (edit f start stop new).map text = replaceRange (text f) start stop new
  text_clear : ∀ f, text (clear f) = ""

/-- Nothing but the text. -/
def plain : Editor String where
  text s := s
  empty := ""
  edit := replaceRange
  clear _ := ""
  text_empty := rfl
  text_edit _ _ _ _ := Option.map_id'
  text_clear _ := rfl

theorem text_edit_keystrokes (f : TextField Char) (start stop : Nat) (new : String) :
    (f.edit start stop new.toList).map (fun g => String.ofList (g.text.map Typed.char)) =
      replaceRange (String.ofList (f.text.map Typed.char)) start stop new := by
  unfold replaceRange
  rw [String.toList_ofList, List.length_map]
  cases hedit : f.edit start stop new.toList with
  | some g =>
    have hrange : start ≤ stop ∧ stop ≤ f.text.length := by
      by_contra hnot
      rw [TextField.edit, if_neg hnot] at hedit
      cases hedit
    rw [if_pos hrange, Option.map_some, TextField.edit_chars hedit]
  | none =>
    have hrange : ¬ (start ≤ stop ∧ stop ≤ f.text.length) := by
      intro h
      rw [TextField.edit, if_pos h] at hedit
      cases hedit
    rw [if_neg hrange]
    rfl

/-- The text with the record of its keystrokes. -/
def keystrokes : Editor (TextField Char) where
  text f := String.ofList (f.text.map Typed.char)
  empty := TextField.empty
  edit f start stop new := f.edit start stop new.toList
  clear := TextField.clear
  text_empty := rfl
  text_edit := text_edit_keystrokes
  text_clear _ := rfl

end TypedText
