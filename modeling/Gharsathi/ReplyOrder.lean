import Gharsathi.ChatService

/-!
# Replies and the clocks of two devices

Two users chat, each on a device with a clock of its own. A message gets the
time of the device that sends it; it is listed there at once and waits to be
written to the store, behind what the device has sent before. A snapshot brings
a device what the store holds. A reply is listed after all that its sender had
on the screen exactly when the clock it is sent by has passed their times.
-/

namespace ReplyOrder

open ChatService DartValues FirestoreCollection Models Runs

inductive Device where
  | first
  | second
  deriving DecidableEq

def Device.other : Device → Device
  | .first => .second
  | .second => .first

/-- `cache` is what a device lists: the last snapshot and what it has sent
itself. `answers` notes with each message all that its sender had on the screen. -/
structure State (K : Type) where
  server : ChatService.State K
  clock : Device → Int
  pending : Device → List Call
  cache : Device → ChatService.State K
  answers : List (DocumentSnapshot K × DocumentSnapshot K)

inductive Action where
  | send (d : Device) (message : String) (now : Int) (id : String)
  | commit (d : Device)
  | deliver (d : Device)

section Machine
variable {K : Type} (users : Device → User)

def room : String := chatRoomID (users .first).uid.id (users .second).uid.id

/-- The messages of the conversation. -/
def chat (s : ChatService.State K) : Collection String (Map K) := s.messages (room users)

/-- The snapshot on the screen of a device. -/
def messageList (s : State K) (d : Device) : List (DocumentSnapshot K) :=
  getMessages (s.cache d) (users d.other).uid (users d).uid

/-- An empty conversation, with the clocks at any two times. -/
def initial (clock : Device → Int) : State K :=
  ⟨ChatService.initial, clock, fun _ => [], fun _ => ChatService.initial, []⟩

def Device.call (d : Device) (message : String) (now : Int) (id : String) : Call :=
  ⟨some (users d), (users d.other).uid, message, now, id⟩

/-- The document a call writes. -/
def written (c : Call) : Option (DocumentSnapshot K) :=
  match c.newMessage with
  | .error _ => none
  | .ok m => some ⟨c.id, m.toMap⟩

def isUsed (s : State K) (id : String) : Bool :=
  (chat users s.server).contains id || (chat users (s.cache .first)).contains id ||
    (chat users (s.cache .second)).contains id

def step (s : State K) : Action → Option (State K)
  | .send d message now id =>
    if now < s.clock d then none
    else if message = "" then some s
    else
      let c := d.call users message now id
      match written c with
      | none => some s
      | some doc =>
        if isUsed users s id then none
        else
          match sendMessage (s.cache d) c with
          | none => none
          | some cache => some { s with
              clock := Function.update s.clock d now
              pending := Function.update s.pending d (s.pending d ++ [c])
              cache := Function.update s.cache d cache
              answers := s.answers ++ (messageList users s d).map (fun shown => (shown, doc)) }
  | .commit d =>
    match s.pending d with
    | [] => none
    | c :: rest =>
      match sendMessage s.server c with
      | none => none
      | some server => some { s with
          server := server
          pending := Function.update s.pending d rest }
  | .deliver d =>
    match run sendMessage s.server (s.pending d) with
    | none => none
    | some cache => some { s with cache := Function.update s.cache d cache }

end Machine

section Statements
variable {K : Type} (users : Device → User)

/-- A message is listed, on either screen, after all that its sender had there. -/
def Follows (s : State K) : Prop :=
  ∀ p ∈ s.answers, ∀ d, p.2 ∈ messageList users s d →
    [p.1, p.2].Sublist (messageList users s d)

def RepliesFollow (K : Type) (clock : Device → Int) (acts : List Action) : Prop :=
  ∀ past rest (s : State K), acts = past ++ rest → run (step users) (initial clock) past = some s →
    Follows users s

/-- The condition on a step: a message that is sent has a later time than each
message on the sender's screen, or the same time and a greater id. -/
def SendsLater (s : State K) : Action → Prop
  | .send d message now id => s.clock d ≤ now → message ≠ "" → (users d).email ≠ none →
      isUsed users s id = false →
      ∀ shown ∈ messageList users s d, ∀ t, timestampOf "timestamp" shown = some t →
        t < now ∨ (t = now ∧ shown.id < id)
  | _ => True

end Statements

section Chat
variable {K : Type} {users : Device → User}

def InRoom (users : Device → User) (c : Call) : Prop :=
  ∀ m, c.newMessage = .ok m → chatRoomID m.senderID m.receiverID = room users

theorem inRoom_call (d : Device) (message : String) (now : Int) (id : String) :
    InRoom users (d.call users message now id) := by
  intro m hm
  simp only [Device.call, Call.newMessage] at hm
  split at hm
  · cases hm
  · cases hm
    cases d with
    | first => rfl
    | second => exact chatRoomID_comm _ _

theorem written_call {d : Device} {message : String} {now : Int} {id : String}
    {doc : DocumentSnapshot K} (h : written (d.call users message now id) = some doc) :
    doc.id = id ∧ timestampOf "timestamp" doc = some now ∧ (users d).email ≠ none := by
  simp only [written, Device.call, Call.newMessage] at h
  cases hemail : (users d).email with
  | none =>
    rw [hemail] at h
    cases h
  | some email =>
    rw [hemail] at h
    cases h
    exact ⟨rfl, timestampOf_toMap _ _, Option.some_ne_none email⟩

theorem written_stamped {c : Call} {doc : DocumentSnapshot K} (h : written c = some doc) :
    (timestampOf "timestamp" doc).isSome = true := by
  unfold written at h
  split at h
  · cases h
  · cases h
    rw [timestampOf_toMap]
    rfl

theorem sendMessage_chat {s t : ChatService.State K} {c : Call} (inRoom : InRoom users c)
    (h : sendMessage s c = some t) (x : DocumentSnapshot K) :
    x ∈ (chat users t).docs ↔ x ∈ (chat users s).docs ∨ written c = some x := by
  rw [chat, chat, mem_messages_iff h]
  refine or_congr_right ?_
  unfold written
  cases hm : c.newMessage with
  | error e => simp
  | ok m => simp [inRoom m hm, eq_comm]

theorem run_chat {calls : List Call} {s t : ChatService.State K}
    (inRoom : ∀ c ∈ calls, InRoom users c) (h : run sendMessage s calls = some t)
    (x : DocumentSnapshot K) :
    x ∈ (chat users t).docs ↔ x ∈ (chat users s).docs ∨ ∃ c ∈ calls, written c = some x := by
  induction calls generalizing s with
  | nil =>
    cases h
    simp
  | cons c calls ih =>
    obtain ⟨m, hm, hrest⟩ := run_cons.mp h
    rw [ih (fun c' hc' => inRoom c' (List.mem_cons_of_mem c hc')) hrest,
      sendMessage_chat (inRoom c List.mem_cons_self) hm, List.exists_mem_cons_iff]
    exact or_assoc

theorem messageList_eq (s : State K) (d : Device) :
    messageList users s d = orderByTimestamp "timestamp" (chat users (s.cache d)).docs := by
  unfold messageList getMessages chat room
  cases d with
  | first => rw [chatRoomID_comm]; rfl
  | second => rfl

end Chat

section Arrivals
variable {K : Type} {users : Device → User}

/-- A message that is anywhere has with it what it answers. -/
structure Answered (users : Device → User) (s : State K) (shown doc : DocumentSnapshot K) :
    Prop where
  listed : ∃ d, doc ∈ (chat users (s.cache d)).docs
  stored : doc ∈ (chat users s.server).docs → shown ∈ (chat users s.server).docs
  cached : ∀ d, doc ∈ (chat users (s.cache d)).docs → shown ∈ (chat users (s.cache d)).docs
  pending : ∀ d before c after, s.pending d = before ++ c :: after → written c = some doc →
    shown ∈ (chat users s.server).docs ∨ ∃ b ∈ before, written b = some shown

structure Ok (users : Device → User) (s : State K) : Prop where
  inRoom : ∀ d, ∀ c ∈ s.pending d, InRoom users c
  stamped : ∀ x ∈ (chat users s.server).docs, (timestampOf "timestamp" x).isSome = true
  echoed : ∀ d, ∀ c ∈ s.pending d, ∀ x, written c = some x → x ∈ (chat users (s.cache d)).docs
  cached : ∀ d, ∀ x ∈ (chat users (s.cache d)).docs,
    x ∈ (chat users s.server).docs ∨ ∃ c ∈ s.pending d, written c = some x
  answered : ∀ p ∈ s.answers, Answered users s p.1 p.2

theorem Ok.stamped_cache {s : State K} (ok : Ok users s) (d : Device) :
    ∀ x ∈ (chat users (s.cache d)).docs, (timestampOf "timestamp" x).isSome = true := by
  intro x hx
  rcases ok.cached d x hx with h | ⟨c, _, h⟩
  · exact ok.stamped x h
  · exact written_stamped h

theorem Ok.mem_messageList {s : State K} (ok : Ok users s) (d : Device) (x : DocumentSnapshot K) :
    x ∈ messageList users s d ↔ x ∈ (chat users (s.cache d)).docs := by
  rw [messageList_eq]
  exact (orderByTimestamp_perm "timestamp" (ok.stamped_cache d)).mem_iff

/-- On all screens at once, the order of the list is that of times and ids. -/
theorem Ok.follows_iff {s : State K} (ok : Ok users s) :
    Follows users s ↔ ∀ p ∈ s.answers, ComesBefore "timestamp" p.1 p.2 := by
  have hlist : ∀ p ∈ s.answers, ∀ d, p.2 ∈ (chat users (s.cache d)).docs →
      ([p.1, p.2].Sublist (messageList users s d) ↔ ComesBefore "timestamp" p.1 p.2) := by
    intro p hp d hmem
    have hdoc := (ok.mem_messageList d _).mpr hmem
    have hshown := (ok.mem_messageList d _).mpr ((ok.answered p hp).cached d hmem)
    rw [messageList_eq] at hdoc hshown ⊢
    exact (chat users (s.cache d)).sublist_orderBy_iff "timestamp" hshown hdoc
  constructor
  · intro h p hp
    obtain ⟨d, hmem⟩ := (ok.answered p hp).listed
    exact (hlist p hp d hmem).mp (h p hp d ((ok.mem_messageList d _).mpr hmem))
  · intro h p hp d hmem
    have hcache := (ok.mem_messageList d _).mp hmem
    exact (hlist p hp d hcache).mpr (h p hp)

end Arrivals

section Steps
variable {K : Type} {users : Device → User}

inductive Did (users : Device → User) (s : State K) : Action → State K → Prop where
  | unsent {d : Device} {message : String} {now : Int} {id : String}
      (hnot : message = "" ∨ (users d).email = none) : Did users s (.send d message now id) s
  | sent {d : Device} {message : String} {now : Int} {id : String} {doc : DocumentSnapshot K}
      {cache : ChatService.State K} (hclock : s.clock d ≤ now) (hmessage : message ≠ "")
      (hwritten : written (d.call users message now id) = some doc)
      (fresh : isUsed users s id = false)
      (hcache : sendMessage (s.cache d) (d.call users message now id) = some cache) :
      Did users s (.send d message now id) { s with
        clock := Function.update s.clock d now
        pending := Function.update s.pending d (s.pending d ++ [d.call users message now id])
        cache := Function.update s.cache d cache
        answers := s.answers ++ (messageList users s d).map (fun shown => (shown, doc)) }
  | committed {d : Device} {c : Call} {rest : List Call} {server : ChatService.State K}
      (hpending : s.pending d = c :: rest) (hserver : sendMessage s.server c = some server) :
      Did users s (.commit d) { s with
        server := server
        pending := Function.update s.pending d rest }
  | delivered {d : Device} {cache : ChatService.State K}
      (hcache : run sendMessage s.server (s.pending d) = some cache) :
      Did users s (.deliver d) { s with cache := Function.update s.cache d cache }

theorem email_of_unwritten {d : Device} {message : String} {now : Int} {id : String}
    (h : (written (d.call users message now id) : Option (DocumentSnapshot K)) = none) :
    (users d).email = none := by
  cases hemail : (users d).email with
  | none => rfl
  | some email => simp [written, Device.call, Call.newMessage, hemail] at h

theorem step_did {s t : State K} {a : Action} (h : step users s a = some t) : Did users s a t := by
  cases a with
  | send d message now id =>
    simp only [step] at h
    split at h
    · cases h
    · rename_i hclock
      split at h
      · rename_i hempty
        cases h
        exact .unsent (Or.inl hempty)
      · rename_i hmessage
        split at h
        · rename_i hnone
          cases h
          exact .unsent (Or.inr (email_of_unwritten hnone))
        · rename_i doc hwritten
          split at h
          · cases h
          · rename_i hfresh
            split at h
            · cases h
            · rename_i cache hcache
              cases h
              rw [Bool.not_eq_true] at hfresh
              exact .sent (not_lt.mp hclock) hmessage hwritten hfresh hcache
  | commit d =>
    simp only [step] at h
    split at h
    · cases h
    · rename_i c rest hpending
      split at h
      · cases h
      · rename_i server hserver
        cases h
        exact .committed hpending hserver
  | deliver d =>
    simp only [step] at h
    split at h
    · cases h
    · rename_i cache hcache
      cases h
      exact .delivered hcache

theorem not_mem_of_fresh {s : State K} {id : String} (fresh : isUsed users s id = false)
    {x : DocumentSnapshot K} (hx : x.id = id) :
    x ∉ (chat users s.server).docs ∧ ∀ d, x ∉ (chat users (s.cache d)).docs := by
  simp only [isUsed, Bool.or_eq_false_iff] at fresh
  obtain ⟨⟨hserver, hfirst⟩, hsecond⟩ := fresh
  have absent : ∀ c : Collection String (Map K), c.contains id = false → x ∉ c.docs := by
    intro c hc hmem
    have hcontains := (c.contains_iff id).mpr ⟨x, hmem, hx⟩
    rw [hc] at hcontains
    cases hcontains
  refine ⟨absent _ hserver, fun d => ?_⟩
  cases d with
  | first => exact absent _ hfirst
  | second => exact absent _ hsecond

theorem concat_split {τ : Type} {xs before after : List τ} {x y : τ}
    (h : xs ++ [x] = before ++ y :: after) :
    (before = xs ∧ y = x) ∨ ∃ after', xs = before ++ y :: after' := by
  rcases List.eq_nil_or_concat after with rfl | ⟨after', z, rfl⟩
  · obtain ⟨hxs, hx⟩ := List.append_inj' h rfl
    exact Or.inl ⟨hxs.symm, (List.cons.inj hx).1.symm⟩
  · rw [List.concat_eq_append, ← List.cons_append, ← List.append_assoc] at h
    obtain ⟨hxs, _⟩ := List.append_inj' h rfl
    exact Or.inr ⟨after', hxs⟩

/-- A message has come to the screen of its sender, and waits. -/
structure Grown (users : Device → User) (s t : State K) (d : Device) (c : Call)
    (doc : DocumentSnapshot K) : Prop where
  server : t.server = s.server
  cache : ∀ e x, x ∈ (chat users (t.cache e)).docs ↔
    x ∈ (chat users (s.cache e)).docs ∨ (e = d ∧ x = doc)
  pending : t.pending = Function.update s.pending d (s.pending d ++ [c])
  inRoom : InRoom users c
  written : written c = some doc
  notServer : doc ∉ (chat users s.server).docs
  notCache : ∀ e, doc ∉ (chat users (s.cache e)).docs

variable {s t : State K} {d : Device} {c : Call} {doc shown : DocumentSnapshot K}

theorem Grown.mem_pending (grown : Grown users s t d c doc) (e : Device) (b : Call) :
    b ∈ t.pending e ↔ b ∈ s.pending e ∨ (e = d ∧ b = c) := by
  rw [grown.pending]
  by_cases he : e = d
  · subst he
    rw [Function.update_self, List.mem_append, List.mem_singleton, and_iff_right rfl]
  · rw [Function.update_of_ne he, or_iff_left (fun h => he h.1)]

/-- A waiting message waits where it did, or is the new one, at the end. -/
theorem Grown.pending_split (grown : Grown users s t d c doc) {e : Device} {b : Call}
    {before after : List Call} (h : t.pending e = before ++ b :: after) :
    (∃ after', s.pending e = before ++ b :: after') ∨ (e = d ∧ b = c ∧ before = s.pending d) := by
  rw [grown.pending] at h
  by_cases he : e = d
  · subst he
    rw [Function.update_self] at h
    rcases concat_split h with ⟨hbefore, hb⟩ | hold
    · exact Or.inr ⟨rfl, hb, hbefore⟩
    · exact Or.inl hold
  · rw [Function.update_of_ne he] at h
    exact Or.inl ⟨after, h⟩

theorem Grown.answered_old (grown : Grown users s t d c doc) {reply : DocumentSnapshot K}
    (answered : Answered users s shown reply) : Answered users t shown reply := by
  have hne : reply ≠ doc := by
    rintro rfl
    obtain ⟨e, he⟩ := answered.listed
    exact grown.notCache e he
  constructor
  · obtain ⟨e, he⟩ := answered.listed
    exact ⟨e, (grown.cache e reply).mpr (Or.inl he)⟩
  · rw [grown.server]
    exact answered.stored
  · intro e he
    rcases (grown.cache e reply).mp he with hold | ⟨_, hdoc⟩
    · exact (grown.cache e shown).mpr (Or.inl (answered.cached e hold))
    · exact absurd hdoc hne
  · intro e before b after hsplit hb
    rw [grown.server]
    rcases grown.pending_split hsplit with ⟨after', hold⟩ | ⟨_, rfl, _⟩
    · exact answered.pending e before b after' hold hb
    · exact absurd (Option.some.inj (hb.symm.trans grown.written)) hne

theorem Grown.answered_new (grown : Grown users s t d c doc) (ok : Ok users s)
    (hshown : shown ∈ (chat users (s.cache d)).docs) : Answered users t shown doc := by
  constructor
  · exact ⟨d, (grown.cache d doc).mpr (Or.inr ⟨rfl, rfl⟩)⟩
  · rw [grown.server]
    exact fun h => absurd h grown.notServer
  · intro e he
    rcases (grown.cache e doc).mp he with hold | ⟨rfl, _⟩
    · exact absurd hold (grown.notCache e)
    · exact (grown.cache e shown).mpr (Or.inl hshown)
  · intro e before b after hsplit hb
    rw [grown.server]
    rcases grown.pending_split hsplit with ⟨after', hold⟩ | ⟨_, _, rfl⟩
    · have hmem : b ∈ s.pending e := by
        rw [hold]
        exact List.mem_append_right _ List.mem_cons_self
      exact absurd (ok.echoed e b hmem doc hb) (grown.notCache e)
    · exact ok.cached d shown hshown

theorem Grown.ok (grown : Grown users s t d c doc) (ok : Ok users s)
    (answers : t.answers = s.answers ++ (messageList users s d).map (fun shown => (shown, doc))) :
    Ok users t := by
  constructor
  · intro e b hb
    rcases (grown.mem_pending e b).mp hb with hold | ⟨_, rfl⟩
    · exact ok.inRoom e b hold
    · exact grown.inRoom
  · rw [grown.server]
    exact ok.stamped
  · intro e b hb x hx
    refine (grown.cache e x).mpr ?_
    rcases (grown.mem_pending e b).mp hb with hold | ⟨he, rfl⟩
    · exact Or.inl (ok.echoed e b hold x hx)
    · exact Or.inr ⟨he, Option.some.inj (hx.symm.trans grown.written)⟩
  · intro e x hx
    rw [grown.server]
    rcases (grown.cache e x).mp hx with hold | ⟨he, rfl⟩
    · rcases ok.cached e x hold with h | ⟨b, hb, h⟩
      · exact Or.inl h
      · exact Or.inr ⟨b, (grown.mem_pending e b).mpr (Or.inl hb), h⟩
    · exact Or.inr ⟨c, (grown.mem_pending e c).mpr (Or.inr ⟨he, rfl⟩), grown.written⟩
  · intro p hp
    rw [answers] at hp
    rcases List.mem_append.mp hp with hold | hnew
    · exact grown.answered_old (ok.answered p hold)
    · obtain ⟨shown, hshown, rfl⟩ := List.mem_map.mp hnew
      exact grown.answered_new ok ((ok.mem_messageList d shown).mp hshown)

/-- The server takes the first message that waits. -/
theorem answered_committed {rest : List Call} {server : ChatService.State K}
    {shown doc : DocumentSnapshot K} (answered : Answered users s shown doc)
    (hpending : s.pending d = c :: rest)
    (hdocs : ∀ x, x ∈ (chat users server).docs ↔
      x ∈ (chat users s.server).docs ∨ written c = some x) :
    Answered users { s with
      server := server
      pending := Function.update s.pending d rest } shown doc := by
  refine ⟨answered.listed, ?_, answered.cached, ?_⟩
  · intro hdoc
    refine (hdocs shown).mpr (Or.inl ?_)
    rcases (hdocs doc).mp hdoc with h | h
    · exact answered.stored h
    · -- nothing waits before the first message
      rcases answered.pending d [] c rest hpending h with h | ⟨b, hb, _⟩
      · exact h
      · cases hb
  · intro e before b after hsplit hb
    change Function.update s.pending d rest e = before ++ b :: after at hsplit
    by_cases he : e = d
    · subst he
      rw [Function.update_self] at hsplit
      have hlonger : s.pending e = (c :: before) ++ b :: after := by
        rw [hpending, hsplit]
        rfl
      rcases answered.pending e (c :: before) b after hlonger hb with h | ⟨b', hb', h⟩
      · exact Or.inl ((hdocs shown).mpr (Or.inl h))
      · rcases List.mem_cons.mp hb' with rfl | hb'
        · exact Or.inl ((hdocs shown).mpr (Or.inr h))
        · exact Or.inr ⟨b', hb', h⟩
    · rw [Function.update_of_ne he] at hsplit
      rcases answered.pending e before b after hsplit hb with h | h
      · exact Or.inl ((hdocs shown).mpr (Or.inl h))
      · exact Or.inr h

theorem committed_ok {rest : List Call} {server : ChatService.State K} (ok : Ok users s)
    (hpending : s.pending d = c :: rest) (hserver : sendMessage s.server c = some server) :
    Ok users { s with
      server := server
      pending := Function.update s.pending d rest } := by
  have hroom := ok.inRoom d c (by rw [hpending]; exact List.mem_cons_self)
  have hdocs := sendMessage_chat hroom hserver
  have hrest : ∀ e b, b ∈ Function.update s.pending d rest e → b ∈ s.pending e := by
    intro e b hb
    by_cases he : e = d
    · subst he
      rw [Function.update_self] at hb
      rw [hpending]
      exact List.mem_cons_of_mem c hb
    · rw [Function.update_of_ne he] at hb
      exact hb
  constructor
  · intro e b hb
    exact ok.inRoom e b (hrest e b hb)
  · intro x hx
    rcases (hdocs x).mp hx with h | h
    · exact ok.stamped x h
    · exact written_stamped h
  · intro e b hb x hx
    exact ok.echoed e b (hrest e b hb) x hx
  · intro e x hx
    rcases ok.cached e x hx with h | ⟨b, hb, h⟩
    · exact Or.inl ((hdocs x).mpr (Or.inl h))
    · by_cases he : e = d
      · subst he
        rw [hpending] at hb
        rcases List.mem_cons.mp hb with rfl | hb
        · exact Or.inl ((hdocs x).mpr (Or.inr h))
        · exact Or.inr ⟨b, by simpa using hb, h⟩
      · refine Or.inr ⟨b, ?_, h⟩
        change b ∈ Function.update s.pending d rest e
        rw [Function.update_of_ne he]
        exact hb
  · intro p hp
    exact answered_committed (ok.answered p hp) hpending hdocs

/-- A delivered list is that of the server and of the messages that wait. -/
theorem answered_delivered {cache : ChatService.State K} {shown doc : DocumentSnapshot K}
    (ok : Ok users s) (answered : Answered users s shown doc)
    (hsame : ∀ x, x ∈ (chat users (Function.update s.cache d cache d)).docs ↔
      x ∈ (chat users s.server).docs ∨ ∃ c ∈ s.pending d, written c = some x) :
    Answered users { s with cache := Function.update s.cache d cache } shown doc := by
  obtain ⟨⟨e, he⟩, stored, cached, pending⟩ := answered
  refine ⟨⟨e, ?_⟩, stored, ?_, pending⟩
  · by_cases hed : e = d
    · subst hed
      exact (hsame doc).mpr (ok.cached e doc he)
    · simp only [Function.update_of_ne hed]
      exact he
  · intro e' he'
    by_cases hed : e' = d
    · subst hed
      refine (hsame shown).mpr ?_
      rcases (hsame doc).mp he' with h | ⟨b, hb, h⟩
      · exact Or.inl (stored h)
      · obtain ⟨before, after, hsplit⟩ := List.append_of_mem hb
        rcases pending e' before b after hsplit h with h | ⟨b', hb', h⟩
        · exact Or.inl h
        · exact Or.inr ⟨b', by rw [hsplit]; exact List.mem_append_left _ hb', h⟩
    · simp only [Function.update_of_ne hed] at he' ⊢
      exact cached e' he'

theorem delivered_ok {cache : ChatService.State K} (ok : Ok users s)
    (hcache : run sendMessage s.server (s.pending d) = some cache) :
    Ok users { s with cache := Function.update s.cache d cache } := by
  have hsame : ∀ x, x ∈ (chat users (Function.update s.cache d cache d)).docs ↔
      x ∈ (chat users s.server).docs ∨ ∃ c ∈ s.pending d, written c = some x := by
    intro x
    rw [Function.update_self]
    exact run_chat (ok.inRoom d) hcache x
  constructor
  · exact ok.inRoom
  · exact ok.stamped
  · intro e b hb x hx
    by_cases he : e = d
    · subst he
      exact (hsame x).mpr (Or.inr ⟨b, hb, hx⟩)
    · simp only [Function.update_of_ne he]
      exact ok.echoed e b hb x hx
  · intro e x hx
    by_cases he : e = d
    · subst he
      exact (hsame x).mp hx
    · simp only [Function.update_of_ne he] at hx
      exact ok.cached e x hx
  · intro p hp
    exact answered_delivered ok (ok.answered p hp) hsame

/-- What a sent message is to its sender's screen and queue. -/
theorem grown_of_sent {message : String} {now : Int} {id : String} {cache : ChatService.State K}
    (answers : List (DocumentSnapshot K × DocumentSnapshot K))
    (hwritten : written (d.call users message now id) = some doc)
    (fresh : isUsed users s id = false)
    (hcache : sendMessage (s.cache d) (d.call users message now id) = some cache) :
    Grown users s { s with
      clock := Function.update s.clock d now
      pending := Function.update s.pending d (s.pending d ++ [d.call users message now id])
      cache := Function.update s.cache d cache
      answers := answers } d (d.call users message now id) doc := by
  obtain ⟨hid, _, _⟩ := written_call hwritten
  obtain ⟨hnotServer, hnotCache⟩ := not_mem_of_fresh fresh hid
  refine ⟨rfl, ?_, rfl, inRoom_call _ _ _ _, hwritten, hnotServer, hnotCache⟩
  intro e x
  change x ∈ (chat users (Function.update s.cache d cache e)).docs ↔ _
  by_cases he : e = d
  · subst he
    rw [Function.update_self, sendMessage_chat (inRoom_call _ _ _ _) hcache, hwritten,
      Option.some.injEq, eq_comm, and_iff_right rfl]
  · rw [Function.update_of_ne he, or_iff_left (fun h => he h.1)]

theorem step_ok {a : Action} (ok : Ok users s) (h : step users s a = some t) : Ok users t := by
  cases step_did h with
  | unsent hnot => exact ok
  | sent hclock hmessage hwritten fresh hcache =>
    exact (grown_of_sent _ hwritten fresh hcache).ok ok rfl
  | committed hpending hserver => exact committed_ok ok hpending hserver
  | delivered hcache => exact delivered_ok ok hcache

theorem step_listed {a : Action} (ok : Ok users s) (h : step users s a = some t) {e : Device}
    {x : DocumentSnapshot K} (hx : x ∈ messageList users s e) : x ∈ messageList users t e := by
  rw [(step_ok ok h).mem_messageList]
  rw [ok.mem_messageList] at hx
  cases step_did h with
  | unsent hnot => exact hx
  | sent hclock hmessage hwritten fresh hcache =>
    exact ((grown_of_sent _ hwritten fresh hcache).cache e x).mpr (Or.inl hx)
  | committed hpending hserver => exact hx
  | @delivered d cache hcache =>
    change x ∈ (chat users (Function.update s.cache d cache e)).docs
    by_cases he : e = d
    · subst he
      rw [Function.update_self, run_chat (ok.inRoom e) hcache x]
      exact ok.cached e x hx
    · rw [Function.update_of_ne he]
      exact hx

/-- What a screen has shown it goes on showing, so that a message is sent after
all that its sender has ever seen. -/
theorem run_listed {acts : List Action} (ok : Ok users s) (hrun : run (step users) s acts = some t)
    {e : Device} {x : DocumentSnapshot K} (hx : x ∈ messageList users s e) :
    x ∈ messageList users t e :=
  (run_invariant (fun s => Ok users s ∧ x ∈ messageList users s e)
    (fun _ _ _ hs h => ⟨step_ok hs.1 h, step_listed hs.1 h hs.2⟩) hrun ⟨ok, hx⟩).2

/-- Only a message that is sent too early breaks the order. -/
theorem follows_step_iff {a : Action} (ok : Ok users s) (hs : Follows users s)
    (h : step users s a = some t) : Follows users t ↔ SendsLater users s a := by
  have hokay := step_ok ok h
  have hold := ok.follows_iff.mp hs
  rw [hokay.follows_iff]
  cases step_did h with
  | unsent hnot =>
    refine ⟨fun _ _ hmessage hemail => ?_, fun _ => hold⟩
    rcases hnot with hempty | hnone
    · exact absurd hempty hmessage
    · exact absurd hnone hemail
  | @sent d message now id doc cache hclock hmessage hwritten fresh hcache =>
    obtain ⟨hid, htime, hemail⟩ := written_call hwritten
    rw [List.forall_mem_append, and_iff_right hold, List.forall_mem_map]
    constructor
    · intro hnew _ _ _ _ shown hshown t ht
      obtain ⟨t', u, ht', hu, horder⟩ := hnew shown hshown
      cases ht.symm.trans ht'
      cases htime.symm.trans hu
      rw [← hid]
      exact horder
    · intro hlater shown hshown
      have hstamped := ok.stamped_cache d shown ((ok.mem_messageList d shown).mp hshown)
      obtain ⟨t, ht⟩ := Option.isSome_iff_exists.mp hstamped
      refine ⟨t, now, ht, htime, ?_⟩
      rw [hid]
      exact hlater hclock hmessage hemail fresh shown hshown t ht
  | committed hpending hserver => exact ⟨fun _ => trivial, fun _ => hold⟩
  | delivered hcache => exact ⟨fun _ => trivial, fun _ => hold⟩

theorem initial_ok (clock : Device → Int) : Ok users (initial clock : State K) where
  inRoom _ _ h := absurd h List.not_mem_nil
  stamped _ h := absurd h List.not_mem_nil
  echoed _ _ h := absurd h List.not_mem_nil
  cached _ _ h := absurd h List.not_mem_nil
  answered _ h := absurd h List.not_mem_nil

/-- The local write of a message with an unused id goes through. -/
theorem sendMessage_of_fresh (message : String) (now : Int) {id : String}
    (hemail : (users d).email ≠ none) (fresh : isUsed users s id = false) :
    (∃ doc : DocumentSnapshot K, written (d.call users message now id) = some doc) ∧
      ∃ cache, sendMessage (s.cache d) (d.call users message now id) = some cache := by
  obtain ⟨email, hemail⟩ := Option.ne_none_iff_exists'.mp hemail
  obtain ⟨m, hm⟩ : ∃ m, (d.call users message now id).newMessage = .ok m := by
    simp [Device.call, Call.newMessage, hemail]
  have hcontains : (chat users (s.cache d)).contains id = false := by
    simp only [isUsed, Bool.or_eq_false_iff] at fresh
    cases d with
    | first => exact fresh.1.2
    | second => exact fresh.2
  have hroom := inRoom_call d message now id m hm
  have hid : (d.call users message now id).id = id := rfl
  refine ⟨⟨⟨id, m.toMap⟩, by simp [written, hm, hid]⟩, ?_⟩
  rw [chat] at hcontains
  simp [sendMessage, hm, hroom, hid, Collection.add, hcontains]

theorem sendsLater_of_stuck {a : Action} (h : step users s a = none) : SendsLater users s a := by
  cases a with
  | send d message now id =>
    intro hclock hmessage hemail fresh
    obtain ⟨⟨doc, hwritten⟩, cache, hcache⟩ := sendMessage_of_fresh message now hemail fresh
    simp [step, not_lt.mpr hclock, hmessage, hwritten, fresh, hcache] at h
  | _ => trivial

end Steps

/-- In every snapshot of a run, on both screens, replies follow what they answer
if and only if each message was sent by a clock that had passed the times of all
messages on the sender's screen. -/
theorem repliesFollow_iff (users : Device → User) (K : Type) (clock : Device → Int)
    (acts : List Action) : RepliesFollow users K clock acts ↔
      Along (step users) (SendsLater users) (initial clock : State K) acts :=
  reached_iff_along (Ok users) (Follows users) (SendsLater users)
    (fun _ _ _ ok h => step_ok ok h) (fun _ _ h => sendsLater_of_stuck h)
    (fun _ _ _ ok hs h => follows_step_iff ok hs h) (initial_ok clock)
    (fun _ h => absurd h List.not_mem_nil) acts

def ashaAndBina : Device → User
  | .first => asha
  | .second => bina

/-- The clock of the device that answers is fifty seconds behind. -/
def slowClock : List Action :=
  [.send .first "Is it free?" 100 "m1", .commit .first, .deliver .second,
    .send .second "Yes" 50 "m2"]

/-- The answer is listed before the question. -/
theorem not_repliesFollow : ¬ RepliesFollow ashaAndBina ℚ (fun _ => 0) slowClock := by
  intro h
  obtain ⟨s, hrun, htimes⟩ := exists_of_check (step ashaAndBina) (initial (fun _ => 0) : State ℚ)
    slowClock (fun s => s.answers.map (fun p =>
      (timestampOf "timestamp" p.1, timestampOf "timestamp" p.2)) = [(some 100, some 50)])
    (by decide)
  have ok : Ok ashaAndBina s :=
    run_invariant (Ok ashaAndBina) (fun _ _ _ ok h => step_ok ok h) hrun (initial_ok _)
  obtain ⟨p, hanswers, hp⟩ := List.map_eq_singleton_iff.mp htimes
  obtain ⟨hquestion, hanswer⟩ := Prod.mk.inj hp
  obtain ⟨t, u, ht, hu, horder⟩ := ok.follows_iff.mp (h slowClock [] s (by simp) hrun) p
    (by rw [hanswers]; exact List.mem_cons_self)
  cases hquestion.symm.trans ht
  cases hanswer.symm.trans hu
  omega

end ReplyOrder
