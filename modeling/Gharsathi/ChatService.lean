import Gharsathi.DartStrings
import Gharsathi.FirestoreCollection
import Gharsathi.Models
import Gharsathi.Runs
import Mathlib.Logic.Function.Basic
import Mathlib.Data.List.Forall2
import Mathlib.Data.Rat.Init
import Mathlib.Data.Sym.Sym2

/-!
# Chat between two users

Every message is added to the `messages` collection of a chat room whose id
both the sender and the reader build from the two user ids, each in its own
order of arguments. Calls of `sendMessage` by any users come in any order, with
times from the callers' own clocks. What the screen of either user lists is
exactly what these two have sent each other.
-/

namespace ChatService

open DartValues FirestoreCollection Models Runs

/-- A user id as the authentication service generates it. -/
structure Uid where
  id : String
  nonempty : id ≠ ""
  noUnderscore : '_' ∉ id.toList
  deriving DecidableEq

theorem Uid.eq_of_id_eq {u v : Uid} (h : u.id = v.id) : u = v := by
  cases u
  cases v
  simpa using h

structure User where
  uid : Uid
  email : Option String

/-- A call of `sendMessage`; `id` is the one the store generates for the document. -/
structure Call where
  currentUser : Option User
  receiverID : Uid
  message : String
  now : Int
  id : String

/-- The `messages` collections under the documents of `chat_rooms`. -/
structure State (K : Type) where
  messages : String → Collection String (Map K)

/-- The message a call makes; a missing user or email fails its null check. -/
def Call.newMessage (c : Call) : Result Message :=
  match c.currentUser with
  | none => .error .typeError
  | some user =>
    match user.email with
    | none => .error .typeError
    | some email => .ok
        { senderID := user.uid.id
          senderEmail := email
          receiverID := c.receiverID.id
          message := c.message
          timestamp := c.now }

/-- The two ids sorted and joined. -/
def chatRoomID (first second : String) : String :=
  DartStrings.join "_" (DartStrings.sort [first, second])

section Service
variable {K : Type}

def initial : State K := ⟨fun _ => Collection.empty⟩

def sendMessage (s : State K) (c : Call) : Option (State K) :=
  match c.newMessage with
  | .error _ => some s
  | .ok m =>
    let room := chatRoomID m.senderID m.receiverID
    match (s.messages room).add c.id m.toMap with
    | none => none
    | some messages => some ⟨Function.update s.messages room messages⟩

def getMessages (s : State K) (userID otherUserID : Uid) : List (DocumentSnapshot K) :=
  orderByTimestamp "timestamp" (s.messages (chatRoomID userID.id otherUserID.id)).docs

/-- The text of a bubble and whether it stands on the user's own side. -/
structure MessageItem (K : Type) where
  message : Value K
  isCurrentUser : Bool

def buildMessageItem (currentUser : Uid) (d : DocumentSnapshot K) : MessageItem K :=
  ⟨Map.get d.data "message", isEqualTo "senderID" currentUser.id d⟩

/-- The screen asks with the receiver first. -/
def buildMessageList (s : State K) (senderID receiverID : Uid) : List (MessageItem K) :=
  (getMessages s receiverID senderID).map (buildMessageItem senderID)

end Service

section RoomIds

theorem chatRoomID_comm (first second : String) :
    chatRoomID first second = chatRoomID second first := by
  unfold chatRoomID
  rw [DartStrings.sort_eq_of_perm (List.Perm.swap second first [])]

/-- Two pairs of users share a room only when they are the same pair. -/
theorem chatRoomID_eq_iff (u v u' v' : Uid) :
    chatRoomID u.id v.id = chatRoomID u'.id v'.id ↔ (u = u' ∧ v = v') ∨ (u = v' ∧ v = u') := by
  constructor
  · intro h
    have cut : ∀ {a b c d : Uid}, DartStrings.join "_" [a.id, b.id] =
        DartStrings.join "_" [c.id, d.id] → a = c ∧ b = d := by
      intro a b c d hjoin
      obtain ⟨hac, hbd⟩ := DartStrings.join_pair_inj (x := '_') a.noUnderscore c.noUnderscore hjoin
      exact ⟨Uid.eq_of_id_eq hac, Uid.eq_of_id_eq hbd⟩
    unfold chatRoomID at h
    rcases DartStrings.sort_pair u.id v.id with hs | hs
    · rcases DartStrings.sort_pair u'.id v'.id with hs' | hs'
      · rw [hs, hs'] at h
        exact Or.inl (cut h)
      · rw [hs, hs'] at h
        exact Or.inr (cut h)
    · rcases DartStrings.sort_pair u'.id v'.id with hs' | hs'
      · rw [hs, hs'] at h
        exact Or.inr (cut h).symm
      · rw [hs, hs'] at h
        exact Or.inl (cut h).symm
  · rintro (⟨rfl, rfl⟩ | ⟨rfl, rfl⟩)
    · rfl
    · exact chatRoomID_comm _ _

end RoomIds

section Sent

/-- Who a call sends a message from: the user who is signed in with an email. -/
def Call.sender (c : Call) : Option Uid :=
  c.currentUser.bind (fun user => user.email.map (fun _ => user.uid))

/-- The call sends a message from one of the two users to the other. -/
def isBetween (u v : Uid) (c : Call) : Bool :=
  decide ((c.sender = some u ∧ c.receiverID = v) ∨ (c.sender = some v ∧ c.receiverID = u))

def goesTo (room : String) (c : Call) : Bool :=
  c.sender.any (fun sender => decide (chatRoomID sender.id c.receiverID.id = room))

theorem goesTo_eq_isBetween (u v : Uid) : goesTo (chatRoomID u.id v.id) = isBetween u v := by
  funext c
  cases hsender : c.sender with
  | none => simp [goesTo, isBetween, hsender]
  | some sender =>
    rw [Bool.eq_iff_iff]
    simp only [goesTo, isBetween, hsender, Option.any_some, decide_eq_true_eq, chatRoomID_eq_iff,
      Option.some.injEq]

/-- A call makes its message, or somebody who could send it is missing. -/
theorem newMessage_cases (c : Call) :
    (c.sender = none ∧ ∃ e, c.newMessage = .error e) ∨
      ∃ user email, c.currentUser = some user ∧ user.email = some email ∧
        c.sender = some user.uid ∧
        c.newMessage = .ok ⟨user.uid.id, email, c.receiverID.id, c.message, c.now⟩ := by
  cases huser : c.currentUser with
  | none =>
    refine Or.inl ⟨by simp [Call.sender, huser], .typeError, ?_⟩
    simp only [Call.newMessage, huser]
  | some user =>
    cases hemail : user.email with
    | none =>
      refine Or.inl ⟨by simp [Call.sender, huser, hemail], .typeError, ?_⟩
      simp only [Call.newMessage, huser, hemail]
    | some email =>
      refine Or.inr ⟨user, email, rfl, hemail, by simp [Call.sender, huser, hemail], ?_⟩
      simp only [Call.newMessage, huser, hemail]

end Sent

section Delivery
variable {K : Type}

/-- The document holds what the call was given, under the id that the store made. -/
structure Carries (d : DocumentSnapshot K) (c : Call) : Prop where
  id : d.id = c.id
  sender : ∃ user email, c.currentUser = some user ∧ user.email = some email ∧
    Map.get d.data "senderID" = .str user.uid.id ∧ Map.get d.data "senderEmail" = .str email
  receiverID : Map.get d.data "receiverID" = .str c.receiverID.id
  message : Map.get d.data "message" = .str c.message
  timestamp : Map.get d.data "timestamp" = .timestamp c.now

/-- Every room holds one document for each call that sent a message to it. -/
def Delivered (calls : List Call) (s : State K) : Prop :=
  ∀ room, ∃ sent : List Call, List.Forall₂ Carries (s.messages room).docs sent ∧
    sent.Perm (calls.filter (goesTo room))

/-- A call does nothing, or adds one document to one room. -/
theorem sendMessage_cases {s t : State K} {c : Call} (h : sendMessage s c = some t) :
    (∃ e, c.newMessage = .error e ∧ t = s) ∨
      ∃ m messages, c.newMessage = .ok m ∧
        messages.docs.Perm (⟨c.id, m.toMap⟩ ::
          (s.messages (chatRoomID m.senderID m.receiverID)).docs) ∧
        t = ⟨Function.update s.messages (chatRoomID m.senderID m.receiverID) messages⟩ := by
  unfold sendMessage at h
  split at h
  · rename_i e he
    exact Or.inl ⟨e, he, (Option.some.inj h).symm⟩
  · rename_i m hm
    simp only at h
    split at h
    · cases h
    · rename_i messages hadd
      obtain ⟨_, _, hperm⟩ := Collection.add_cases _ hadd
      exact Or.inr ⟨m, messages, hm, hperm, (Option.some.inj h).symm⟩

/-- What a call leaves in a room: its own message, if it goes there, and the others. -/
theorem mem_messages_iff {s t : State K} {c : Call} (h : sendMessage s c = some t)
    (room : String) (x : DocumentSnapshot K) :
    x ∈ (t.messages room).docs ↔ x ∈ (s.messages room).docs ∨
      ∃ m, c.newMessage = .ok m ∧ chatRoomID m.senderID m.receiverID = room ∧
        x = ⟨c.id, m.toMap⟩ := by
  rcases sendMessage_cases h with ⟨e, he, rfl⟩ | ⟨m, messages, hm, hperm, rfl⟩
  · simp [he]
  · simp only [hm, Except.ok.injEq, exists_eq_left']
    by_cases hroom : chatRoomID m.senderID m.receiverID = room
    · subst hroom
      simp only [Function.update_self, hperm.mem_iff, List.mem_cons, true_and]
      exact or_comm
    · simp only [Function.update_of_ne (Ne.symm hroom), hroom, false_and, or_false]

theorem sendMessage_delivered {past : List Call} {s t : State K} {c : Call}
    (hs : Delivered past s) (h : sendMessage s c = some t) : Delivered (past ++ [c]) t := by
  intro room
  obtain ⟨sent, hcarry, hperm⟩ := hs room
  rw [List.filter_append, List.filter_singleton]
  rcases newMessage_cases c with ⟨hnone, e, he⟩ | ⟨user, email, huser, hemail, hsender, hm⟩
  · have hsame : t = s := by simpa [sendMessage, he] using h.symm
    refine ⟨sent, hsame ▸ hcarry, ?_⟩
    simpa [goesTo, hnone] using hperm
  · rcases sendMessage_cases h with ⟨e, he, _⟩ | ⟨m, messages, hm', hadded, rfl⟩
    · cases hm.symm.trans he
    · cases hm.symm.trans hm'
      by_cases hroom : chatRoomID user.uid.id c.receiverID.id = room
      · subst hroom
        have hnew : Carries (⟨c.id, Message.toMap
            ⟨user.uid.id, email, c.receiverID.id, c.message, c.now⟩⟩ : DocumentSnapshot K) c := by
          refine ⟨rfl, ⟨user, email, huser, hemail, ?_, ?_⟩, ?_, ?_, ?_⟩ <;> simp [Message.toMap]
        obtain ⟨sent', hcarry', hperm'⟩ :=
          List.perm_comp_forall₂ hadded (List.Forall₂.cons hnew hcarry)
        refine ⟨sent', by simpa using hcarry', ?_⟩
        simp only [goesTo, hsender, Option.any_some, decide_true, cond_true]
        exact hperm'.trans ((hperm.cons c).trans (List.perm_append_singleton _ _).symm)
      · refine ⟨sent, ?_, ?_⟩
        · simpa only [Function.update_of_ne (Ne.symm hroom)] using hcarry
        · simpa [goesTo, hsender, hroom] using hperm

theorem run_delivered {calls : List Call} {s : State K}
    (hrun : run sendMessage initial calls = some s) : Delivered calls s :=
  run_history Delivered (fun _ _ _ _ => sendMessage_delivered) hrun
    (fun _ => ⟨[], List.Forall₂.nil, List.Perm.nil⟩)

theorem getMessages_comm (s : State K) (u v : Uid) : getMessages s u v = getMessages s v u := by
  unfold getMessages
  rw [chatRoomID_comm]

@[simp] theorem timestampOf_toMap (id : String) (m : Message) :
    timestampOf "timestamp" (⟨id, m.toMap⟩ : DocumentSnapshot K) = some m.timestamp := by
  simp [timestampOf, Message.toMap]

theorem Carries.time {d : DocumentSnapshot K} {c : Call} (h : Carries d c) :
    timestampOf "timestamp" d = some c.now := by
  simp [timestampOf, h.timestamp]

theorem exists_carried {docs : List (DocumentSnapshot K)} {sent : List Call}
    (h : List.Forall₂ Carries docs sent) {d : DocumentSnapshot K} (hd : d ∈ docs) :
    ∃ c ∈ sent, Carries d c := by
  obtain ⟨⟨i, hi⟩, rfl⟩ := List.mem_iff_get.mp hd
  have hi' : i < sent.length := h.length_eq ▸ hi
  exact ⟨_, List.get_mem sent ⟨i, hi'⟩, h.get hi hi'⟩

/-- Documents in time order carry calls in time order. -/
theorem pairwise_carried {docs : List (DocumentSnapshot K)} {sent : List Call}
    (h : List.Forall₂ Carries docs sent)
    (ordered : docs.Pairwise (fun d e => ∀ t t', timestampOf "timestamp" d = some t →
      timestampOf "timestamp" e = some t' → t ≤ t')) :
    sent.Pairwise (fun c c' => c.now ≤ c'.now) := by
  rw [List.pairwise_iff_getElem] at ordered ⊢
  intro i j hi hj hij
  have hi' : i < docs.length := h.length_eq ▸ hi
  have hj' : j < docs.length := h.length_eq ▸ hj
  exact ordered i j hi' hj' hij _ _ (h.get hi' hi).time (h.get hj' hj).time

/-- What two users read is what the calls between them have sent, in time order. -/
theorem run_getMessages {calls : List Call} {s : State K}
    (hrun : run sendMessage initial calls = some s) (u v : Uid) :
    ∃ sent : List Call, sent.Perm (calls.filter (isBetween u v)) ∧
      List.Forall₂ Carries (getMessages s u v) sent ∧
      sent.Pairwise (fun c c' => c.now ≤ c'.now) := by
  obtain ⟨sent, hcarry, hperm⟩ := run_delivered hrun (chatRoomID u.id v.id)
  rw [goesTo_eq_isBetween] at hperm
  have hstamped : ∀ d ∈ (s.messages (chatRoomID u.id v.id)).docs,
      (timestampOf "timestamp" d).isSome = true := by
    intro d hd
    obtain ⟨c, _, hc⟩ := exists_carried hcarry hd
    rw [hc.time]
    rfl
  obtain ⟨listed, hlisted, hsame⟩ :=
    List.perm_comp_forall₂ (orderByTimestamp_perm "timestamp" hstamped) hcarry
  exact ⟨listed, hsame.trans hperm, hlisted,
    pairwise_carried hlisted (orderByTimestamp_pairwise "timestamp" _)⟩

/-- After any calls by any users, both ends of a chat read the same list. Its
documents stand one to one for the calls that a signed-in user with an email
made from one of the two to the other, in time order, each with the sender, the
receiver, the text and the time of its call. -/
theorem getMessages_agree (calls : List Call) (s : State K)
    (hrun : run sendMessage initial calls = some s) (u v : Uid) :
    getMessages s u v = getMessages s v u ∧
      (∃ sent : List Call, sent.Perm (calls.filter (isBetween u v)) ∧
        List.Forall₂ Carries (getMessages s u v) sent ∧
        sent.Pairwise (fun c c' => c.now ≤ c'.now)) ∧
      chatRoomID u.id v.id = chatRoomID v.id u.id ∧
      ∀ u' v' : Uid, chatRoomID u'.id v'.id = chatRoomID u.id v.id →
        s(u', v') = s(u, v) := by
  refine ⟨getMessages_comm s u v, run_getMessages hrun u v, chatRoomID_comm _ _, ?_⟩
  intro u' v' hroom
  rw [Sym2.eq_iff]
  exact (chatRoomID_eq_iff u' v' u v).mp hroom

def asha : User := ⟨⟨"ab", by decide, by decide⟩, some "asha@example.com"⟩
def bina : User := ⟨⟨"abc", by decide, by decide⟩, some "bina@example.com"⟩
def chandra : User := ⟨⟨"b", by decide, by decide⟩, some "chandra@example.com"⟩

def threeUsers : List Call :=
  [⟨some asha, bina.uid, "is it free?", 5, "m1"⟩, ⟨some chandra, asha.uid, "hello", 6, "m2"⟩,
    ⟨some bina, asha.uid, "yes", 4, "m3"⟩]

theorem getMessages_agree_three_users :
    ∃ s : State ℚ, run sendMessage initial threeUsers = some s ∧
      getMessages s asha.uid bina.uid = getMessages s bina.uid asha.uid ∧
      (∃ sent, sent.Perm (threeUsers.filter (isBetween asha.uid bina.uid)) ∧
        List.Forall₂ Carries (getMessages s asha.uid bina.uid) sent) ∧
      (getMessages s asha.uid bina.uid).map (fun d => Map.get d.data "message") =
        [.str "yes", .str "is it free?"] := by
  refine ⟨_, rfl, ?_⟩
  obtain ⟨hsame, ⟨sent, hperm, hcarry, _⟩, _⟩ :=
    getMessages_agree (K := ℚ) threeUsers _ rfl asha.uid bina.uid
  exact ⟨hsame, ⟨sent, hperm, hcarry⟩, rfl⟩

/-- The two screens list the same bubbles on opposite sides. -/
theorem buildMessageList_mirror {calls : List Call} {s : State K}
    (hrun : run sendMessage initial calls = some s) {u v : Uid} (distinct : u ≠ v) :
    buildMessageList s u v =
      (buildMessageList s v u).map (fun i => { i with isCurrentUser := !i.isCurrentUser }) := by
  unfold buildMessageList
  rw [getMessages_comm s v u, List.map_map]
  apply List.map_congr_left
  intro d hd
  obtain ⟨sent, hperm, hcarry, _⟩ := run_getMessages hrun u v
  obtain ⟨c, hc, hdc⟩ := exists_carried hcarry hd
  have hbetween := of_decide_eq_true (List.mem_filter.mp (hperm.subset hc)).2
  obtain ⟨user, email, huser, hemail, hid, _⟩ := hdc.sender
  have hsender : c.sender = some user.uid := by simp [Call.sender, huser, hemail]
  have hside : ∀ w : Uid, isEqualTo "senderID" w.id d = decide (user.uid = w) := by
    intro w
    rw [Bool.eq_iff_iff, isEqualTo_iff, hid, decide_eq_true_eq]
    constructor
    · intro h
      exact Uid.eq_of_id_eq (Value.str.inj h)
    · rintro rfl
      rfl
  simp only [Function.comp_apply, buildMessageItem, hside, MessageItem.mk.injEq, true_and]
  simp only [hsender, Option.some.injEq] at hbetween
  rcases hbetween with ⟨h, _⟩ | ⟨h, _⟩
  · simp [h, distinct]
  · simp [h, distinct.symm]

end Delivery

end ChatService
