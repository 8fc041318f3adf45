import Gharsathi.ChatService
import Gharsathi.TypedText

/-!
# The message field of a chat

A tap on send passes the text of the field to `sendMessage` and clears the
field when that call has gone through; until then the field can be edited and
send be tapped again. Nothing remembers what was in the field at the tap. The
editor of the field is a parameter: to say what is lost, characters are told
apart by the keystrokes they come from, which changes nothing on the screen.
-/

namespace Composer

open ChatService DartValues FirestoreCollection Models Runs TypedText

/-- Where a call of `sendMessage` stands; after `stored` its `await` returns. -/
inductive Phase where
  | pending
  | stored
  | completed
  | failed
  deriving DecidableEq

/-- One tap on send, with what was in the field. -/
structure Send (φ : Type) where
  currentUser : Option User
  field : φ
  now : Int
  id : String
  phase : Phase

structure State (K φ : Type) where
  chat : ChatService.State K
  field : φ
  sends : List (Send φ)

/-- `other` is a call of `sendMessage` from any other screen or device. -/
inductive Action where
  | edit (start stop : Nat) (text : String)
  | send (currentUser : Option User) (now : Int) (id : String)
  | commit (i : Nat)
  | reject (i : Nat)
  | complete (i : Nat)
  | other (c : Call)

section Machine
variable {K φ : Type} (E : Editor φ) (receiverID : Uid)

def Send.call (x : Send φ) : Call :=
  ⟨x.currentUser, receiverID, E.text x.field, x.now, x.id⟩

/-- The collection a call adds its message to. -/
def roomOf (c : Call) : Option String :=
  match c.newMessage with
  | .error _ => none
  | .ok m => some (chatRoomID m.senderID m.receiverID)

/-- The store has generated this id before. -/
def isUsed (s : State K φ) (c : Call) : Bool :=
  s.sends.any (fun x => decide (x.id = c.id)) ||
    (roomOf c).any (fun room => (s.chat.messages room).contains c.id)

def initial (chat : ChatService.State K) : State K φ := ⟨chat, E.empty, []⟩

def State.move (s : State K φ) (i : Nat) (x : Send φ) (phase : Phase) : State K φ :=
  { s with sends := s.sends.set i { x with phase := phase } }

def State.atPhase (s : State K φ) (i : Nat) (phase : Phase) : Option (Send φ) :=
  s.sends[i]?.filter (fun x => decide (x.phase = phase))

/-- A call begins; its message is made, or its null checks fail at once. -/
def State.start (s : State K φ) (x : Send φ) (c : Call) : Option (State K φ) :=
  if isUsed s c then none
  else
    match c.newMessage with
    | .error _ => some { s with sends := s.sends ++ [{ x with phase := .failed }] }
    | .ok _ => some { s with sends := s.sends ++ [x] }

def step (s : State K φ) : Action → Option (State K φ)
  | .edit start stop text =>
    match E.edit s.field start stop text with
    | none => none
    | some field => some { s with field := field }
  | .send currentUser now id =>
    if E.text s.field = "" then some s
    else
      let x : Send φ := ⟨currentUser, s.field, now, id, .pending⟩
      s.start x (x.call E receiverID)
  | .commit i =>
    match s.atPhase i .pending with
    | none => none
    | some x =>
      match sendMessage s.chat (x.call E receiverID) with
      | none => none
      | some chat => some { s.move i x .stored with chat := chat }
  | .reject i =>
    match s.atPhase i .pending with
    | none => none
    | some x => some (s.move i x .failed)
  | .complete i =>
    match s.atPhase i .stored with
    | none => none
    | some x => some { s.move i x .completed with field := E.clear s.field }
  | .other c =>
    if s.sends.any (fun x => decide (x.id = c.id)) then none
    else
      match sendMessage s.chat c with
      | none => none
      | some chat => some { s with chat := chat }

end Machine

section Shown
variable {K φ : Type} (E : Editor φ) (receiverID : Uid)

def Send.shown (x : Send φ) : Send String :=
  ⟨x.currentUser, E.text x.field, x.now, x.id, x.phase⟩

def State.shown (s : State K φ) : State K String :=
  ⟨s.chat, E.text s.field, s.sends.map (Send.shown E)⟩

theorem isUsed_shown (s : State K φ) (c : Call) : isUsed (s.shown E) c = isUsed s c := by
  rw [isUsed, isUsed, State.shown, List.any_map]
  rfl

theorem start_shown (s : State K φ) (x : Send φ) (c : Call) :
    (s.start x c).map (State.shown E) = (s.shown E).start (x.shown E) c := by
  rw [State.start, State.start, isUsed_shown]
  by_cases hused : isUsed s c = true
  · rw [if_pos hused, if_pos hused]
    rfl
  · rw [if_neg hused, if_neg hused]
    cases c.newMessage with
    | error e => simp [State.shown, Send.shown]
    | ok m => simp [State.shown]

theorem atPhase_shown (s : State K φ) (i : Nat) (phase : Phase) :
    (s.shown E).atPhase i phase = (s.atPhase i phase).map (Send.shown E) := by
  simp only [State.atPhase, State.shown, List.getElem?_map, Option.filter_map]
  rfl

theorem move_shown (s : State K φ) (i : Nat) (x : Send φ) (phase : Phase) :
    (s.move i x phase).shown E = (s.shown E).move i (x.shown E) phase := by
  simp only [State.move, State.shown, List.map_set]
  rfl

theorem step_shown (s : State K φ) (a : Action) :
    (step E receiverID s a).map (State.shown E) = step plain receiverID (s.shown E) a := by
  cases a with
  | edit start stop text =>
    have hedit := E.text_edit s.field start stop text
    simp only [step, State.shown, plain]
    rw [← hedit]
    cases E.edit s.field start stop text with
    | none => rfl
    | some field => rfl
  | send currentUser now id =>
    by_cases hempty : E.text s.field = ""
    · have hshown : plain.text (s.shown E).field = "" := hempty
      rw [step, step, if_pos hempty, if_pos hshown]
      rfl
    · have hshown : ¬ plain.text (s.shown E).field = "" := hempty
      rw [step, step, if_neg hempty, if_neg hshown]
      exact start_shown E s ⟨currentUser, s.field, now, id, .pending⟩ _
  | commit i =>
    simp only [step, atPhase_shown]
    cases s.atPhase i .pending with
    | none => rfl
    | some x =>
      have hcall : sendMessage (s.shown E).chat ((x.shown E).call plain receiverID) =
          sendMessage s.chat (x.call E receiverID) := rfl
      simp only [Option.map_some, hcall]
      cases sendMessage s.chat (x.call E receiverID) with
      | none => rfl
      | some chat =>
        rw [← move_shown]
        rfl
  | reject i =>
    simp only [step, atPhase_shown]
    cases s.atPhase i .pending with
    | none => rfl
    | some x => exact congrArg some (move_shown E s i x .failed)
  | complete i =>
    simp only [step, atPhase_shown]
    cases s.atPhase i .stored with
    | none => rfl
    | some x =>
      have hclear := E.text_clear s.field
      simp only [Option.map_some, Option.some.injEq]
      rw [← move_shown]
      simp only [State.shown, hclear]
      rfl
  | other c =>
    have hused : (s.shown E).sends.any (fun x => decide (x.id = c.id)) =
        s.sends.any (fun x => decide (x.id = c.id)) := by
      rw [State.shown, List.any_map]
      rfl
    simp only [step, hused]
    by_cases h : s.sends.any (fun x => decide (x.id = c.id)) = true
    · rw [if_pos h, if_pos h]
      rfl
    · rw [if_neg h, if_neg h]
      have hchat : (s.shown E).chat = s.chat := rfl
      rw [hchat]
      cases sendMessage s.chat c with
      | none => rfl
      | some chat => rfl

theorem initial_shown (chat : ChatService.State K) :
    (initial E chat).shown E = initial plain chat := by
  rw [State.shown, initial, E.text_empty]
  rfl

/-- The screen shows the same in every run, whatever its editor remembers. -/
theorem run_shown (chat : ChatService.State K) (acts : List Action) :
    (run (step E receiverID) (initial E chat) acts).map (State.shown E) =
      run (step plain receiverID) (initial plain chat) acts := by
  rw [← initial_shown E chat]
  exact run_map (State.shown E) (step_shown E receiverID) (initial E chat) acts

end Shown

abbrev Tap := Send (TextField Char)

abbrev Noted (K : Type) := State K (TextField Char)

section Statements
variable {K : Type} (receiverID : Uid)

/-- The message of a call is in the chat. -/
def IsStored (chat : ChatService.State K) (c : Call) : Prop :=
  ∃ m, c.newMessage = .ok m ∧ (⟨c.id, m.toMap⟩ : DocumentSnapshot K) ∈
    (chat.messages (chatRoomID m.senderID m.receiverID)).docs

/-- A character has been sent: its message is in the chat, or on its way there. -/
def Sent (s : Noted K) (c : Typed Char) : Prop :=
  ∃ x ∈ s.sends, c ∈ x.field.text ∧
    (x.phase = .pending ∨ IsStored s.chat (x.call keystrokes receiverID))

/-- No text is stored twice, and each character that was typed and not deleted
by its user is in the field or sent. -/
structure Keeps (s : Noted K) : Prop where
  once : ∀ (i j : Nat) x y, i ≠ j → s.sends[i]? = some x → s.sends[j]? = some y →
    x.field.text = y.field.text → IsStored s.chat (x.call keystrokes receiverID) →
    ¬ IsStored s.chat (y.call keystrokes receiverID)
  kept : ∀ c ∈ s.field.typed, c ∈ s.field.text ∨ c ∈ s.field.deleted ∨ Sent receiverID s c

def LosesNothing (chat : ChatService.State K) (acts : List Action) : Prop :=
  ∀ past rest s, acts = past ++ rest →
    run (step keystrokes receiverID) (initial keystrokes chat) past = some s → Keeps receiverID s

/-- A character is in a call that has not failed. -/
def Carried (sends : List Tap) (c : Typed Char) : Prop :=
  ∃ x ∈ sends, c ∈ x.field.text ∧ x.phase ≠ .failed

/-- The condition on a step. A message goes through only while all other taps on
the same text are pending or have failed; a call that has gone through returns,
and clears the field, only when all that is in the field is in some call that has
not failed; and a call fails only while its text is still in the field, apart
from what its user has deleted or what another call carries. -/
def Allowed (s : Noted K) : Action → Prop
  | .commit i => ∀ x, s.atPhase i .pending = some x → ∀ (j : Nat) y, j ≠ i →
      s.sends[j]? = some y → y.field.text = x.field.text → y.phase = .pending ∨ y.phase = .failed
  | .reject i => ∀ x, s.atPhase i .pending = some x → ∀ c ∈ x.field.text,
      c ∈ s.field.text ∨ c ∈ s.field.deleted ∨
        ∃ (j : Nat) (y : Tap), j ≠ i ∧ s.sends[j]? = some y ∧ c ∈ y.field.text ∧ y.phase ≠ .failed
  | .complete i => ∀ x, s.atPhase i .stored = some x → ∀ c ∈ s.field.text, Carried s.sends c
  | _ => True

end Statements

section Chat
variable {K : Type}

theorem isStored_sent {s t : ChatService.State K} {c : Call} {m : Message}
    (hm : c.newMessage = .ok m) (h : sendMessage s c = some t) : IsStored t c :=
  ⟨m, hm, (mem_messages_iff h _ _).mpr (Or.inr ⟨m, hm, rfl, rfl⟩)⟩

/-- A call changes nothing about the message of another one. -/
theorem isStored_other {s t : ChatService.State K} {c d : Call} (hne : d.id ≠ c.id)
    (h : sendMessage s c = some t) : IsStored t d ↔ IsStored s d := by
  refine exists_congr (fun m => and_congr_right (fun _ => ?_))
  rw [mem_messages_iff h, or_iff_left]
  rintro ⟨m', _, _, heq⟩
  exact hne (congrArg Doc.id heq)

theorem contains_other {s t : ChatService.State K} {c : Call} {id : String} (hne : id ≠ c.id)
    (h : sendMessage s c = some t) (room : String) :
    (t.messages room).contains id = (s.messages room).contains id := by
  rw [Bool.eq_iff_iff, Collection.contains_iff, Collection.contains_iff]
  refine exists_congr (fun d => and_congr_left (fun hid => ?_))
  rw [mem_messages_iff h, or_iff_left]
  rintro ⟨m, _, _, rfl⟩
  exact hne hid.symm

/-- The call makes a message whose id is new in its room. -/
def Writable (chat : ChatService.State K) (c : Call) : Prop :=
  ∃ m, c.newMessage = .ok m ∧
    (chat.messages (chatRoomID m.senderID m.receiverID)).contains c.id = false

theorem writable_other {s t : ChatService.State K} {c d : Call} (hne : d.id ≠ c.id)
    (h : sendMessage s c = some t) (hd : Writable s d) : Writable t d := by
  obtain ⟨m, hm, hnew⟩ := hd
  exact ⟨m, hm, (contains_other hne h _).trans hnew⟩

theorem sendMessage_of_writable {s : ChatService.State K} {c : Call} (h : Writable s c) :
    sendMessage s c ≠ none := by
  obtain ⟨m, hm, hnew⟩ := h
  simp [sendMessage, hm, Collection.add, hnew]

theorem not_isStored_of_fresh {s : Noted K} {c : Call} (fresh : isUsed s c = false) :
    ¬ IsStored s.chat c ∧ (∀ m, c.newMessage = .ok m → Writable s.chat c) ∧
      ∀ x ∈ s.sends, x.id ≠ c.id := by
  simp only [isUsed, Bool.or_eq_false_iff, List.any_eq_false, decide_eq_true_eq] at fresh
  have hnew : ∀ m, c.newMessage = .ok m →
      (s.chat.messages (chatRoomID m.senderID m.receiverID)).contains c.id = false := by
    intro m hm
    have hroom := fresh.2
    rw [roomOf, hm, Option.any_some] at hroom
    exact hroom
  refine ⟨?_, fun m hm => ⟨m, hm, hnew m hm⟩, fresh.1⟩
  rintro ⟨m, hm, hmem⟩
  have hcontains := ((s.chat.messages _).contains_iff c.id).mpr ⟨_, hmem, rfl⟩
  rw [hnew m hm] at hcontains
  cases hcontains

end Chat

section Steps
variable {K : Type} {receiverID : Uid}

inductive Did (receiverID : Uid) (s : Noted K) : Action → Noted K → Prop where
  | edited {start stop : Nat} {text : String} {field : TextField Char}
      (hedit : s.field.edit start stop text.toList = some field) :
      Did receiverID s (.edit start stop text) { s with field := field }
  | nothing {currentUser : Option User} {now : Int} {id : String}
      (hempty : keystrokes.text s.field = "") :
      Did receiverID s (.send currentUser now id) s
  | sent {currentUser : Option User} {now : Int} {id : String} (x : Tap)
      (hfield : x.field = s.field) (fresh : isUsed s (x.call keystrokes receiverID) = false)
      (hphase : x.phase = .failed ∨
        (x.phase = .pending ∧ ∃ m, (x.call keystrokes receiverID).newMessage = .ok m)) :
      Did receiverID s (.send currentUser now id) { s with sends := s.sends ++ [x] }
  | committed {i : Nat} {x : Tap} {chat : ChatService.State K} (hx : s.sends[i]? = some x)
      (hphase : x.phase = .pending)
      (hchat : sendMessage s.chat (x.call keystrokes receiverID) = some chat) :
      Did receiverID s (.commit i) { s.move i x .stored with chat := chat }
  | rejected {i : Nat} {x : Tap} (hx : s.sends[i]? = some x) (hphase : x.phase = .pending) :
      Did receiverID s (.reject i) (s.move i x .failed)
  | completed {i : Nat} {x : Tap} (hx : s.sends[i]? = some x) (hphase : x.phase = .stored) :
      Did receiverID s (.complete i) { s.move i x .completed with field := s.field.clear }
  | other {c : Call} {chat : ChatService.State K} (fresh : ∀ x ∈ s.sends, x.id ≠ c.id)
      (hchat : sendMessage s.chat c = some chat) :
      Did receiverID s (.other c) { s with chat := chat }

theorem atPhase_eq_some {s : Noted K} {i : Nat} {phase : Phase} {x : Tap} :
    s.atPhase i phase = some x ↔ s.sends[i]? = some x ∧ x.phase = phase := by
  rw [State.atPhase, Option.filter_eq_some_iff, decide_eq_true_eq]

theorem step_did {s t : Noted K} {a : Action} (h : step keystrokes receiverID s a = some t) :
    Did receiverID s a t := by
  cases a with
  | edit start stop text =>
    simp only [step] at h
    split at h
    · cases h
    · rename_i field hedit
      cases h
      exact .edited hedit
  | send currentUser now id =>
    simp only [step] at h
    split at h
    · rename_i hempty
      cases h
      exact .nothing hempty
    · rw [State.start] at h
      split at h
      · cases h
      · rename_i fresh
        rw [Bool.not_eq_true] at fresh
        split at h
        · cases h
          exact .sent _ rfl fresh (Or.inl rfl)
        · rename_i m hm
          cases h
          exact .sent _ rfl fresh (Or.inr ⟨rfl, m, hm⟩)
  | commit i =>
    simp only [step] at h
    split at h
    · cases h
    · rename_i x hat
      obtain ⟨hx, hphase⟩ := atPhase_eq_some.mp hat
      split at h
      · cases h
      · rename_i chat hchat
        cases h
        exact .committed hx hphase hchat
  | reject i =>
    simp only [step] at h
    split at h
    · cases h
    · rename_i x hat
      obtain ⟨hx, hphase⟩ := atPhase_eq_some.mp hat
      cases h
      exact .rejected hx hphase
  | complete i =>
    simp only [step] at h
    split at h
    · cases h
    · rename_i x hat
      obtain ⟨hx, hphase⟩ := atPhase_eq_some.mp hat
      cases h
      exact .completed hx hphase
  | other c =>
    simp only [step] at h
    split at h
    · cases h
    · rename_i fresh
      simp only [List.any_eq_true, decide_eq_true_eq, not_exists, not_and] at fresh
      split at h
      · cases h
      · rename_i chat hchat
        cases h
        exact .other fresh hchat

end Steps

section Invariant
variable {K : Type} {receiverID : Uid}

def Phase.isStored : Phase → Bool
  | .stored => true
  | .completed => true
  | _ => false

/-- The calls of the screen and the chat go together. -/
structure Ok (receiverID : Uid) (s : Noted K) : Prop where
  sound : s.field.Sound
  tapped : ∀ x ∈ s.sends, ∀ c ∈ x.field.text, c ∈ s.field.typed
  ids : ∀ (i j : Nat) x y, s.sends[i]? = some x → s.sends[j]? = some y → x.id = y.id → i = j
  writable : ∀ x ∈ s.sends, x.phase = .pending → Writable s.chat (x.call keystrokes receiverID)
  stored : ∀ x ∈ s.sends, IsStored s.chat (x.call keystrokes receiverID) ↔ x.phase.isStored = true

theorem initial_ok (chat : ChatService.State K) : Ok receiverID (initial keystrokes chat) where
  sound := TextField.sound_empty
  tapped _ hx := absurd hx List.not_mem_nil
  ids _ _ _ _ hx := absurd (List.mem_of_getElem? hx) List.not_mem_nil
  writable _ hx := absurd hx List.not_mem_nil
  stored _ hx := absurd hx List.not_mem_nil

/-- A call moves on, and the chat with it. -/
theorem move_ok {s t : Noted K} {i : Nat} {x : Tap} {phase : Phase} (ok : Ok receiverID s)
    (hx : s.sends[i]? = some x) (hsends : t.sends = s.sends.set i { x with phase := phase })
    (sound : t.field.Sound) (htyped : t.field.typed = s.field.typed) (hphase : phase ≠ .pending)
    (hchat : t.chat = s.chat ∨ sendMessage s.chat (x.call keystrokes receiverID) = some t.chat)
    (self : IsStored t.chat (x.call keystrokes receiverID) ↔ phase.isStored = true) :
    Ok receiverID t := by
  have hmem := List.mem_of_getElem? hx
  have others : ∀ (j : Nat) y, (s.sends.set i { x with phase := phase })[j]? = some y →
      y = { x with phase := phase } ∨ (y.id ≠ x.id ∧ y ∈ s.sends) := by
    intro j y hy
    rcases getElem?_set_cases hy with ⟨_, rfl⟩ | ⟨hne, hold⟩
    · exact Or.inl rfl
    · exact Or.inr ⟨fun h => hne (ok.ids j i y x hold hx h), List.mem_of_getElem? hold⟩
  refine ⟨sound, ?_, ?_, ?_, ?_⟩
  · rw [hsends, htyped]
    exact forall_mem_set ok.tapped (ok.tapped x hmem)
  · intro j k y z hy hz hid
    rw [hsends] at hy hz
    rcases getElem?_set_cases hy with ⟨rfl, rfl⟩ | ⟨_, hyold⟩
    · rcases getElem?_set_cases hz with ⟨rfl, _⟩ | ⟨_, hzold⟩
      · rfl
      · exact ok.ids _ _ x z hx hzold hid
    · rcases getElem?_set_cases hz with ⟨rfl, rfl⟩ | ⟨_, hzold⟩
      · exact ok.ids _ _ y x hyold hx hid
      · exact ok.ids _ _ y z hyold hzold hid
  · intro y hy hpending
    rw [hsends] at hy
    obtain ⟨j, hj⟩ := List.getElem?_of_mem hy
    rcases others j y hj with rfl | ⟨hid, hold⟩
    · exact absurd hpending hphase
    · have hwritable := ok.writable y hold hpending
      rcases hchat with hsame | hsent
      · rw [hsame]
        exact hwritable
      · exact writable_other (c := x.call keystrokes receiverID) hid hsent hwritable
  · intro y hy
    rw [hsends] at hy
    obtain ⟨j, hj⟩ := List.getElem?_of_mem hy
    rcases others j y hj with rfl | ⟨hid, hold⟩
    · exact self
    · rw [← ok.stored y hold]
      rcases hchat with hsame | hsent
      · rw [hsame]
      · exact isStored_other (c := x.call keystrokes receiverID) hid hsent

theorem sent_ok {s : Noted K} {x : Tap} (ok : Ok receiverID s) (hfield : x.field = s.field)
    (fresh : isUsed s (x.call keystrokes receiverID) = false)
    (hphase : x.phase = .failed ∨
      (x.phase = .pending ∧ ∃ m, (x.call keystrokes receiverID).newMessage = .ok m)) :
    Ok receiverID { s with sends := s.sends ++ [x] } := by
  obtain ⟨hnot, hwritable, hids⟩ := not_isStored_of_fresh fresh
  refine ⟨ok.sound, ?_, ?_, ?_, ?_⟩
  · refine forall_mem_concat ok.tapped (fun c hc => ?_)
    rw [hfield] at hc
    exact ok.sound.typed c (List.mem_append_left _ hc)
  · intro j k y z hy hz hid
    rcases getElem?_concat_cases hy with hyold | ⟨hnone, rfl⟩
    · rcases getElem?_concat_cases hz with hzold | ⟨_, rfl⟩
      · exact ok.ids j k y z hyold hzold hid
      · exact absurd hid (hids y (List.mem_of_getElem? hyold))
    · rcases getElem?_concat_cases hz with hzold | ⟨hnone', rfl⟩
      · exact absurd hid.symm (hids z (List.mem_of_getElem? hzold))
      · obtain ⟨hj, _⟩ := List.getElem?_eq_some_iff.mp hy
        obtain ⟨hk, _⟩ := List.getElem?_eq_some_iff.mp hz
        rw [List.length_append, List.length_singleton] at hj hk
        rw [List.getElem?_eq_none_iff] at hnone hnone'
        omega
  · refine forall_mem_concat ok.writable (fun hpending => ?_)
    rcases hphase with hfailed | ⟨_, m, hm⟩
    · rw [hfailed] at hpending
      cases hpending
    · exact hwritable m hm
  · refine forall_mem_concat ok.stored ⟨fun h => absurd h hnot, fun h => ?_⟩
    rcases hphase with hfailed | ⟨hpending, _⟩
    · rw [hfailed] at h
      cases h
    · rw [hpending] at h
      cases h

theorem step_ok {s t : Noted K} {a : Action} (ok : Ok receiverID s)
    (h : step keystrokes receiverID s a = some t) : Ok receiverID t := by
  cases step_did h with
  | @edited start stop text field hedit =>
    obtain ⟨htyped, _, _⟩ := TextField.edit_perm hedit
    refine ⟨TextField.sound_edit ok.sound hedit, ?_, ok.ids, ok.writable, ok.stored⟩
    intro x hx c hc
    rw [htyped]
    exact List.mem_append_left _ (ok.tapped x hx c hc)
  | nothing hempty => exact ok
  | sent x hfield fresh hphase => exact sent_ok ok hfield fresh hphase
  | @committed i x chat hx hphase hchat =>
    obtain ⟨m, hm, _⟩ := ok.writable x (List.mem_of_getElem? hx) hphase
    exact move_ok ok hx rfl ok.sound rfl nofun (Or.inr hchat)
      ⟨fun _ => rfl, fun _ => isStored_sent hm hchat⟩
  | @rejected i x hx hphase =>
    have hnot := (ok.stored x (List.mem_of_getElem? hx)).mp
    rw [hphase] at hnot
    exact move_ok ok hx rfl ok.sound rfl nofun (Or.inl rfl)
      ⟨fun h => absurd (hnot h) nofun, nofun⟩
  | @completed i x hx hphase =>
    have hstored := (ok.stored x (List.mem_of_getElem? hx)).mpr (by rw [hphase]; rfl)
    exact move_ok ok hx rfl (TextField.sound_clear ok.sound) rfl nofun (Or.inl rfl)
      ⟨fun _ => rfl, fun _ => hstored⟩
  | @other c chat fresh hchat =>
    refine ⟨ok.sound, ok.tapped, ok.ids, fun x hx hpending => ?_, fun x hx => ?_⟩
    · have hwritable := ok.writable x hx hpending
      exact writable_other (fresh x hx) hchat hwritable
    · rw [← ok.stored x hx]
      exact isStored_other (fresh x hx) hchat

end Invariant

section Exact
variable {K : Type} {receiverID : Uid}

/-- No text is stored twice, as the phases of the calls tell. -/
def Once (sends : List Tap) : Prop :=
  ∀ (i j : Nat) x y, i ≠ j → sends[i]? = some x → sends[j]? = some y → x.field.text = y.field.text →
    x.phase.isStored = true → y.phase.isStored = false

theorem isStored_eq_false {phase : Phase} :
    phase.isStored = false ↔ phase = .pending ∨ phase = .failed := by
  cases phase <;> simp [Phase.isStored]

theorem ne_failed_iff {phase : Phase} :
    phase ≠ .failed ↔ phase = .pending ∨ phase.isStored = true := by
  cases phase <;> simp [Phase.isStored]

theorem Ok.sent_iff {s : Noted K} (ok : Ok receiverID s) (c : Typed Char) :
    Sent receiverID s c ↔ Carried s.sends c := by
  refine exists_congr (fun x => and_congr_right (fun hx => and_congr_right (fun _ => ?_)))
  rw [ok.stored x hx, ne_failed_iff]

theorem Ok.keeps_iff {s : Noted K} (ok : Ok receiverID s) :
    Keeps receiverID s ↔ Once s.sends ∧
      ∀ c ∈ s.field.typed, c ∈ s.field.text ∨ c ∈ s.field.deleted ∨ Carried s.sends c := by
  constructor
  · intro h
    refine ⟨?_, fun c hc => ?_⟩
    · intro i j x y hne hx hy htext hstored
      have hxs := (ok.stored x (List.mem_of_getElem? hx)).mpr hstored
      have hys := h.once i j x y hne hx hy htext hxs
      rw [ok.stored y (List.mem_of_getElem? hy), Bool.not_eq_true] at hys
      exact hys
    · rw [← ok.sent_iff]
      exact h.kept c hc
  · rintro ⟨once, kept⟩
    constructor
    · intro i j x y hne hx hy htext hxs
      rw [ok.stored x (List.mem_of_getElem? hx)] at hxs
      rw [ok.stored y (List.mem_of_getElem? hy), once i j x y hne hx hy htext hxs]
      exact Bool.false_ne_true
    · intro c hc
      rw [ok.sent_iff]
      exact kept c hc

/-- A call that moves on threatens only the other taps on its text. -/
theorem once_set {sends : List Tap} {i : Nat} {x : Tap} (phase : Phase) (once : Once sends)
    (hx : sends[i]? = some x) : Once (sends.set i { x with phase := phase }) ↔
      (phase.isStored = true → ∀ (j : Nat) y, j ≠ i → sends[j]? = some y →
        y.field.text = x.field.text → y.phase.isStored = false) := by
  constructor
  · intro h hphase j y hne hy htext
    have hy' : (sends.set i { x with phase := phase })[j]? = some y := by
      rw [List.getElem?_set_ne (Ne.symm hne)]
      exact hy
    exact h i j _ y (Ne.symm hne) (getElem?_set_of_some _ hx) hy' htext.symm hphase
  · intro h j k y z hne hy hz htext hstored
    rcases getElem?_set_cases hy with ⟨rfl, rfl⟩ | ⟨hji, hyold⟩
    · rcases getElem?_set_cases hz with ⟨rfl, _⟩ | ⟨hki, hzold⟩
      · exact absurd rfl hne
      · exact h hstored k z hki hzold htext.symm
    · rcases getElem?_set_cases hz with ⟨rfl, rfl⟩ | ⟨_, hzold⟩
      · by_contra hphase
        rw [Bool.not_eq_false] at hphase
        rw [h hphase j y hji hyold htext] at hstored
        cases hstored
      · exact once j k y z hne hyold hzold htext hstored

theorem once_concat {sends : List Tap} {x : Tap} (once : Once sends)
    (hx : x.phase.isStored = false) : Once (sends ++ [x]) := by
  intro i j y z hne hy hz htext hstored
  rcases getElem?_concat_cases hy with hyold | ⟨_, rfl⟩
  · rcases getElem?_concat_cases hz with hzold | ⟨_, rfl⟩
    · exact once i j y z hne hyold hzold htext hstored
    · exact hx
  · rw [hx] at hstored
    cases hstored

theorem carried_concat {sends : List Tap} {x : Tap} {c : Typed Char} (h : Carried sends c) :
    Carried (sends ++ [x]) c := by
  obtain ⟨y, hy, hrest⟩ := h
  exact ⟨y, List.mem_append_left _ hy, hrest⟩

/-- A character is in the call at an index, or in another one. -/
theorem carried_at {sends : List Tap} {i : Nat} {x : Tap} (hx : sends[i]? = some x)
    (c : Typed Char) : Carried sends c ↔ (c ∈ x.field.text ∧ x.phase ≠ .failed) ∨
      ∃ (j : Nat) (y : Tap), j ≠ i ∧ sends[j]? = some y ∧ c ∈ y.field.text ∧ y.phase ≠ .failed := by
  constructor
  · rintro ⟨y, hy, hc, hphase⟩
    obtain ⟨j, hj⟩ := List.getElem?_of_mem hy
    by_cases hji : j = i
    · subst hji
      cases hx.symm.trans hj
      exact Or.inl ⟨hc, hphase⟩
    · exact Or.inr ⟨j, y, hji, hj, hc, hphase⟩
  · rintro (⟨hc, hphase⟩ | ⟨j, y, _, hy, hc, hphase⟩)
    · exact ⟨x, List.mem_of_getElem? hx, hc, hphase⟩
    · exact ⟨y, List.mem_of_getElem? hy, hc, hphase⟩

theorem carried_set {sends : List Tap} {i : Nat} {x : Tap} (phase : Phase)
    (hx : sends[i]? = some x) (c : Typed Char) :
    Carried (sends.set i { x with phase := phase }) c ↔ (c ∈ x.field.text ∧ phase ≠ .failed) ∨
      ∃ (j : Nat) (y : Tap), j ≠ i ∧ sends[j]? = some y ∧ c ∈ y.field.text ∧ y.phase ≠ .failed := by
  rw [carried_at (getElem?_set_of_some _ hx)]
  refine or_congr_right (exists_congr (fun j => exists_congr (fun y => ?_)))
  refine and_congr_right (fun hne => ?_)
  rw [List.getElem?_set_ne (Ne.symm hne)]

/-- A call that goes on without failing carries what it carried. -/
theorem carried_set_of_alive {sends : List Tap} {i : Nat} {x : Tap} (phase : Phase)
    (hx : sends[i]? = some x) (hold : x.phase ≠ .failed) (hnew : phase ≠ .failed)
    (c : Typed Char) : Carried (sends.set i { x with phase := phase }) c ↔ Carried sends c := by
  rw [carried_set phase hx, carried_at hx]
  simp only [hold, hnew, ne_eq, not_false_eq_true, and_true]

/-- One step keeps everything exactly under the condition. -/
theorem keeps_step_iff {s t : Noted K} {a : Action} (ok : Ok receiverID s)
    (keeps : Keeps receiverID s) (h : step keystrokes receiverID s a = some t) :
    Keeps receiverID t ↔ Allowed s a := by
  have ok' := step_ok ok h
  obtain ⟨once, kept⟩ := ok.keeps_iff.mp keeps
  rw [ok'.keeps_iff]
  cases step_did h with
  | @edited start stop text field hedit =>
    obtain ⟨htyped, hdeleted, hperm⟩ := TextField.edit_perm hedit
    refine ⟨fun _ => trivial, fun _ => ⟨once, fun c hc => ?_⟩⟩
    rw [htyped] at hc
    have hstays : ∀ c, c ∈ s.field.text ++ s.field.deleted ++
        number s.field.typed.length text.toList → c ∈ field.text ∨ c ∈ field.deleted :=
      fun c hc => List.mem_append.mp (hperm.mem_iff.mpr hc)
    rcases List.mem_append.mp hc with hold | hnew
    · rcases kept c hold with htext | hdel | hcarried
      · rcases hstays c (by simp [htext]) with h | h
        · exact Or.inl h
        · exact Or.inr (Or.inl h)
      · exact Or.inr (Or.inl (hdeleted c hdel))
      · exact Or.inr (Or.inr hcarried)
    · rcases hstays c (by simp [hnew]) with h | h
      · exact Or.inl h
      · exact Or.inr (Or.inl h)
  | nothing hempty => exact ⟨fun _ => trivial, fun _ => ⟨once, kept⟩⟩
  | sent x hfield fresh hphase =>
    have hnot : x.phase.isStored = false := by
      rcases hphase with hfailed | ⟨hpending, _⟩
      · exact isStored_eq_false.mpr (Or.inr hfailed)
      · exact isStored_eq_false.mpr (Or.inl hpending)
    refine ⟨fun _ => trivial, fun _ => ⟨once_concat once hnot, fun c hc => ?_⟩⟩
    exact (kept c hc).imp_right (Or.imp_right carried_concat)
  | @committed i x chat hx hphase hchat =>
    have hat := atPhase_eq_some.mpr ⟨hx, hphase⟩
    have hcarried := carried_set_of_alive .stored hx (by rw [hphase]; nofun) nofun
    rw [and_iff_left]
    · refine (once_set .stored once hx).trans ⟨?_, ?_⟩
      · intro h x' hat' j y hne hy htext
        cases hat.symm.trans hat'
        exact isStored_eq_false.mp (h rfl j y hne hy htext)
      · intro h _ j y hne hy htext
        exact isStored_eq_false.mpr (h x hat j y hne hy htext)
    · intro c hc
      exact (kept c hc).imp_right (Or.imp_right (hcarried c).mpr)
  | @rejected i x hx hphase =>
    have hat := atPhase_eq_some.mpr ⟨hx, hphase⟩
    refine (and_iff_right ((once_set .failed once hx).mpr nofun)).trans ⟨?_, ?_⟩
    · intro h x' hat' c hc
      cases hat.symm.trans hat'
      refine (h c (ok.tapped x (List.mem_of_getElem? hx) c hc)).imp_right (Or.imp_right ?_)
      intro hcarried
      exact ((carried_set .failed hx c).mp hcarried).resolve_left (fun h => h.2 rfl)
    · intro h c hc
      rcases kept c hc with htext | hdel | hcarried
      · exact Or.inl htext
      · exact Or.inr (Or.inl hdel)
      · rcases (carried_at hx c).mp hcarried with ⟨hmem, _⟩ | hother
        · refine (h x hat c hmem).imp_right (Or.imp_right ?_)
          exact fun hother => (carried_set .failed hx c).mpr (Or.inr hother)
        · exact Or.inr (Or.inr ((carried_set .failed hx c).mpr (Or.inr hother)))
  | @completed i x hx hphase =>
    have hat := atPhase_eq_some.mpr ⟨hx, hphase⟩
    have hcarried := carried_set_of_alive .completed hx (by rw [hphase]; nofun) nofun
    have honce : Once (s.sends.set i { x with phase := .completed }) := by
      refine (once_set .completed once hx).mpr (fun _ j y hne hy htext => ?_)
      exact once i j x y (Ne.symm hne) hx hy htext.symm (by rw [hphase]; rfl)
    refine (and_iff_right honce).trans ⟨?_, ?_⟩
    · intro h x' hat' c hc
      have htyped := ok.sound.typed c (List.mem_append_left _ hc)
      rcases h c htyped with hnil | hdel | hcalls
      · cases hnil
      · exact absurd hdel (ok.sound.not_deleted hc)
      · exact (hcarried c).mp hcalls
    · intro h c hc
      rcases kept c hc with htext | hdel | hcalls
      · exact Or.inr (Or.inr ((hcarried c).mpr (h x hat c htext)))
      · exact Or.inr (Or.inl hdel)
      · exact Or.inr (Or.inr ((hcarried c).mpr hcalls))
  | other fresh hchat => exact ⟨fun _ => trivial, fun _ => ⟨once, kept⟩⟩

/-- A pending message can always be stored, so no commit is stuck. -/
theorem allowed_of_stuck {s : Noted K} {a : Action} (ok : Ok receiverID s)
    (h : step keystrokes receiverID s a = none) : Allowed s a := by
  cases a with
  | commit i =>
    intro x hat
    obtain ⟨hx, hphase⟩ := atPhase_eq_some.mp hat
    have hgoes := sendMessage_of_writable (ok.writable x (List.mem_of_getElem? hx) hphase)
    simp only [step, hat] at h
    split at h
    · rename_i hnone
      exact absurd hnone hgoes
    · cases h
  | reject i =>
    intro x hat
    simp [step, hat] at h
  | complete i =>
    intro x hat
    simp [step, hat] at h
  | _ => trivial

theorem initial_keeps (chat : ChatService.State K) : Keeps receiverID (initial keystrokes chat) where
  once _ _ _ _ _ hx := absurd (List.mem_of_getElem? hx) List.not_mem_nil
  kept _ hc := absurd hc List.not_mem_nil

end Exact

/-- A chat screen that is opened over any chat loses and stores twice nothing, in
every state of a run, if and only if each step of the run meets the condition. -/
theorem losesNothing_iff {K : Type} (receiverID : Uid) (chat : ChatService.State K)
    (acts : List Action) :
    LosesNothing receiverID chat acts ↔
      Along (step keystrokes receiverID) Allowed (initial keystrokes chat) acts :=
  reached_iff_along_of_stuck (Ok receiverID) (Keeps receiverID) Allowed
    (fun _ _ _ ok h => step_ok ok h) (fun _ _ ok h => allowed_of_stuck ok h)
    (fun _ _ _ ok keeps h => keeps_step_iff ok keeps h) (initial_ok chat) (initial_keeps chat) acts

/-- Send is tapped again before the first call has come back. -/
def tappedTwice : List Action :=
  [.edit 0 0 "hi", .send (some asha) 5 "m1", .send (some asha) 6 "m2", .commit 0, .commit 1]

/-- The user types on while the message is on its way. -/
def typedOn : List Action :=
  [.edit 0 0 "hi", .send (some asha) 5 "m1", .edit 2 2 " there", .commit 0, .complete 0]

instance (sends : List Tap) (c : Typed Char) : Decidable (Carried sends c) :=
  inferInstanceAs (Decidable (∃ x ∈ sends, c ∈ x.field.text ∧ x.phase ≠ .failed))

theorem not_losesNothing :
    ¬ LosesNothing bina.uid (ChatService.initial : ChatService.State ℚ) tappedTwice ∧
      ¬ LosesNothing bina.uid (ChatService.initial : ChatService.State ℚ) typedOn := by
  constructor
  · intro h
    obtain ⟨s, hrun, x, hx, y, hy, htext, hxs, hys⟩ := exists_of_check
      (step (K := ℚ) keystrokes bina.uid) (initial keystrokes ChatService.initial) tappedTwice
      (fun s => ∃ x ∈ s.sends[0]?, ∃ y ∈ s.sends[1]?, x.field.text = y.field.text ∧
        x.phase.isStored = true ∧ y.phase.isStored = true) (by decide)
    have ok := run_invariant (Ok bina.uid) (fun _ _ _ ok h => step_ok ok h) hrun (initial_ok _)
    have keeps := h tappedTwice [] s (by simp) hrun
    exact keeps.once 0 1 x y nofun hx hy htext
      ((ok.stored x (List.mem_of_getElem? hx)).mpr hxs)
      ((ok.stored y (List.mem_of_getElem? hy)).mpr hys)
  · intro h
    obtain ⟨s, hrun, htyped, htext, hdeleted, hcarried⟩ := exists_of_check
      (step (K := ℚ) keystrokes bina.uid) (initial keystrokes ChatService.initial) typedOn
      (fun s => ⟨'t', 3⟩ ∈ s.field.typed ∧ ⟨'t', 3⟩ ∉ s.field.text ∧ ⟨'t', 3⟩ ∉ s.field.deleted ∧
        ¬ Carried s.sends ⟨'t', 3⟩) (by decide)
    have ok := run_invariant (Ok bina.uid) (fun _ _ _ ok h => step_ok ok h) hrun (initial_ok _)
    have keeps := h typedOn [] s (by simp) hrun
    rcases keeps.kept _ htyped with hfield | hdel | hsent
    · exact htext hfield
    · exact hdeleted hdel
    · exact hcarried ((ok.sent_iff _).mp hsent)

end Composer
