import Gharsathi.PostingScreen

/-!
# Changing the location of a room

The landlord's room page calls `updateRoomLocation` with the location that was
picked and shows that it was updated, without waiting for the call. The call
reads the room, outside its `try`, and updates it if it exists.
-/

namespace LocationChange

open DartValues FirestoreCollection Models PostingScreen

inductive Phase where
  | getting
  | updating
  | updated
  | missing
  | getFailed
  | updateFailed
  deriving DecidableEq

/-- One call of `updateRoomLocation`. -/
structure Change (K : Type) where
  pick : Pick K
  phase : Phase

structure State (K : Type) where
  rooms : Collection String (Map K)
  roomId : String
  location : String
  changes : List (Change K)
  shown : List String

inductive Action (K : Type) where
  | cancelPick
  | picked (pick : Pick K)
  | get (i : Nat)
  | getFails (i : Nat)
  | commit (i : Nat)
  | updateFails (i : Nat) (e : String)

section Machine
variable {K : Type}

/-- `update` of one field of a document. -/
def setField (data : Map K) (name : String) (v : Value K) : Map K :=
  if Map.containsKey data name then
    data.map (fun entry => if entry.1 = name then (name, v) else entry)
  else data ++ [(name, v)]

theorem get_map_entry (data : Map K) (name : String) (v : Value K) (key : String) :
    Map.get (data.map (fun entry => if entry.1 = name then (name, v) else entry)) key =
      if name = key ∧ Map.containsKey data name = true then v else Map.get data key := by
  induction data with
  | nil => simp [Map.containsKey]
  | cons entry data ih =>
    obtain ⟨k, w⟩ := entry
    rw [List.map_cons, Map.containsKey_cons]
    by_cases hk : k = name
    · by_cases hkey : name = key
      · simp [hk, hkey]
      · simp [hk, hkey, ih]
    · by_cases hkey : name = key
      · subst hkey
        simp [hk, ih]
      · simp [hk, hkey, ih]

theorem get_append_entry (data : Map K) (name : String) (v : Value K) (key : String)
    (absent : Map.containsKey data name = false) :
    Map.get (data ++ [(name, v)]) key = if name = key then v else Map.get data key := by
  induction data with
  | nil => rfl
  | cons entry data ih =>
    obtain ⟨k, w⟩ := entry
    rw [Map.containsKey_cons, Bool.or_eq_false_iff, decide_eq_false_iff_not] at absent
    rw [List.cons_append, Map.get_cons, Map.get_cons, ih absent.2]
    by_cases hk : k = key
    · subst hk
      rw [if_pos rfl, if_pos rfl, if_neg (Ne.symm absent.1)]
    · rw [if_neg hk, if_neg hk]

/-- An update sets its field and leaves the others. -/
theorem get_setField (data : Map K) (name : String) (v : Value K) (key : String) :
    Map.get (setField data name v) key = if name = key then v else Map.get data key := by
  unfold setField
  cases hcontains : Map.containsKey data name with
  | true =>
    rw [if_pos rfl, get_map_entry, hcontains]
    simp only [and_true]
  | false => exact get_append_entry data name v key hcontains

def initial (rooms : Collection String (Map K)) (roomId location : String) : State K :=
  ⟨rooms, roomId, location, [], []⟩

def State.move (s : State K) (i : Nat) (change : Change K) (phase : Phase) : State K :=
  { s with changes := s.changes.set i { change with phase := phase } }

def State.atPhase (s : State K) (i : Nat) (phase : Phase) : Option (Change K) :=
  match s.changes[i]? with
  | none => none
  | some change => if change.phase = phase then some change else none

def step (s : State K) : Action K → Option (State K)
  | .cancelPick => some s
  | .picked pick =>
    some { s with
      changes := s.changes ++ [⟨pick, .getting⟩]
      shown := s.shown ++ ["Location Updated Successfully"] }
  | .get i =>
    match s.atPhase i .getting with
    | none => none
    | some change =>
      if s.rooms.contains s.roomId then some (s.move i change .updating)
      else some { s.move i change .missing with shown := s.shown ++ ["Room doesn't exist"] }
  | .getFails i =>
    match s.atPhase i .getting with
    | none => none
    | some change => some (s.move i change .getFailed)
  | .commit i =>
    match s.atPhase i .updating, s.rooms.get? s.roomId with
    | some change, some data =>
      some { s.move i change .updated with
        rooms := s.rooms.set s.roomId (setField data "location"
          (.map (locationMap change.pick.address change.pick.latitude change.pick.longitude)))
        location := change.pick.address }
    | _, _ => none
  | .updateFails i e =>
    match s.atPhase i .updating with
    | none => none
    | some change => some { s.move i change .updateFailed with
        shown := s.shown ++ ["Failed updating location: " ++ e] }

/-- Only a pick starts a call, and it shows success at once. -/
theorem step_changes {s t : State K} {a : Action K} (h : step s a = some t)
    (none_yet : s.changes = []) :
    (t.changes = [] ∧ t.shown = s.shown) ∨ ∃ pick, a = .picked pick := by
  have no_phase : ∀ i phase, s.atPhase i phase = none := by
    intro i phase
    rw [State.atPhase, none_yet]
    rfl
  cases a with
  | cancelPick =>
    cases h
    exact Or.inl ⟨none_yet, rfl⟩
  | picked pick => exact Or.inr ⟨pick, rfl⟩
  | get i => simp [step, no_phase] at h
  | getFails i => simp [step, no_phase] at h
  | commit i => simp [step, no_phase] at h
  | updateFails i e => simp [step, no_phase] at h

end Machine

end LocationChange
