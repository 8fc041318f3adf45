import Gharsathi.ChatService
import Gharsathi.LandlordView

/-!
# Contacting the owner

The chat that `Contact Owner` opens sends to the poster the room page was
given. Four of the five lists hand the uid of the poster on to the page; the
snapshot a card saves has no poster, so from the saved list the page falls back
to the empty uid, and the messages go to a conversation nobody reads.
-/

namespace ContactOwner

open DartValues FirestoreCollection Models RoomDetails
open ChatService (Uid User getMessages chatRoomID)

section Chat
variable {K : Type}

/-- `sendMessage` takes any string for the receiver. -/
def newMessage (currentUser : Option User) (receiverID message : String) (now : Int) :
    Result Message :=
  match currentUser with
  | none => .error .typeError
  | some user =>
    match user.email with
    | none => .error .typeError
    | some email => .ok
        { senderID := user.uid.id
          senderEmail := email
          receiverID := receiverID
          message := message
          timestamp := now }

def sendMessage (s : ChatService.State K) (currentUser : Option User)
    (receiverID message : String) (now : Int) (id : String) : Option (ChatService.State K) :=
  match newMessage currentUser receiverID message now with
  | .error _ => some s
  | .ok m =>
    let room := chatRoomID m.senderID m.receiverID
    match (s.messages room).add id m.toMap with
    | none => none
    | some messages => some ⟨Function.update s.messages room messages⟩

/-- Between users it is the `sendMessage` of the chat. -/
theorem sendMessage_uid (s : ChatService.State K) (currentUser : Option User) (receiver : Uid)
    (message : String) (now : Int) (id : String) :
    sendMessage s currentUser receiver.id message now id =
      ChatService.sendMessage s ⟨currentUser, receiver, message, now, id⟩ := by
  cases currentUser with
  | none => rfl
  | some user =>
    obtain ⟨uid, email⟩ := user
    cases email with
    | none => rfl
    | some email => rfl

/-- The send button of the chat screen that was opened from a room page. -/
def send (s : ChatService.State K) (currentUser : Option User) (page : RoomPage K)
    (message : String) (now : Int) (id : String) : Option (ChatService.State K) :=
  if message = "" then some s else sendMessage s currentUser page.posterUid message now id

/-- One message came into the conversation of tenant and owner, and no other
conversation has changed. -/
def ReachesOwner (s t : ChatService.State K) (tenant owner : Uid) (id message : String) : Prop :=
  ∃ d : DocumentSnapshot K, d.id = id ∧ Map.get d.data "message" = .str message ∧
    (getMessages t tenant owner).Perm (d :: getMessages s tenant owner) ∧
    ∀ room, room ≠ chatRoomID tenant.id owner.id → t.messages room = s.messages room

/-- The lists that know who has posted the room. -/
def passesPoster : Opening → Bool
  | .saved _ => false
  | _ => true

end Chat

section Poster
variable {K : Type}

@[simp] theorem get_posted_posterUid (id : String) (r : PostedRoom K) :
    Map.get (postedSnapshot id r).data "posterUid" = .str r.posterUid := by
  simp [postedSnapshot, Rooms.toJson, PostedRoom.toRooms, Value.ofStringOrNull]

@[simp] theorem field_posted_posterUid (id : String) (r : PostedRoom K) :
    field (postedSnapshot id r) "posterUid" = .ok (.str r.posterUid) := by
  simp [field, postedSnapshot, Rooms.toJson, PostedRoom.toRooms, Value.ofStringOrNull]

theorem snapshotArguments_posterUid {id : String} {r : PostedRoom K} {arguments : Map K}
    (h : snapshotArguments (postedSnapshot id r) = .ok arguments) :
    Map.get arguments "posterUid" = .str r.posterUid := by
  simp only [snapshotArguments, bind_eq_ok, pure_eq_ok, field_posted_posterUid, Except.ok.injEq,
    exists_eq_left'] at h
  repeat obtain ⟨_, _, h⟩ := h
  simp

theorem filteredArguments_posterUid {id : String} {r : PostedRoom K} {arguments : Map K}
    (h : filteredArguments (postedSnapshot id r).data = .ok arguments) :
    Map.get arguments "posterUid" = .str r.posterUid := by
  simp only [filteredArguments, bind_eq_ok, pure_eq_ok, get_posted_posterUid] at h
  obtain ⟨_, _, h⟩ := h
  subst h
  simp

theorem savedArguments_posterUid {room arguments : Map K}
    (h : savedArguments room = .ok arguments) : Map.get arguments "posterUid" = .null := by
  simp only [savedArguments, bind_eq_ok, pure_eq_ok] at h
  obtain ⟨_, _, h⟩ := h
  subst h
  simp

variable [IntCast K]

theorem recommendationCard_posterUid {id : String} {r : PostedRoom K}
    {card : RecommendationCard K}
    (h : recommendationCard (postedSnapshot id r).data = .ok card) :
    card.posterUid = some r.posterUid := by
  simp only [recommendationCard, bind_eq_ok, pure_eq_ok, get_posted_posterUid,
    Value.asStringOrNull, Except.ok.injEq, exists_eq_left'] at h
  repeat obtain ⟨_, _, h⟩ := h
  rfl

theorem build_posterUid {data : Map K} {page : RoomPage K} {uid : String}
    (huid : (Map.get data "posterUid").orElse (.str "") = .str uid)
    (h : build data = .ok page) : page.posterUid = uid := by
  simp only [build, bind_eq_ok, pure_eq_ok, huid, Value.asString_str, Except.ok.injEq,
    exists_eq_left'] at h
  repeat obtain ⟨_, _, h⟩ := h
  rfl

/-- A page has the poster of its room, unless it was opened from the saved list. -/
theorem openPage_posterUid {o : Opening} {id : String} {r : PostedRoom K} {page : RoomPage K}
    (h : openPage o (postedSnapshot id r) = .ok page) :
    page.posterUid = if passesPoster o then r.posterUid else "" := by
  cases o with
  | search =>
    obtain ⟨arguments, harg, hpage⟩ := bind_eq_ok.mp h
    exact build_posterUid (by rw [snapshotArguments_posterUid harg]; rfl) hpage
  | allRooms =>
    obtain ⟨arguments, harg, hpage⟩ := bind_eq_ok.mp h
    exact build_posterUid (by rw [snapshotArguments_posterUid harg]; rfl) hpage
  | filtered =>
    obtain ⟨arguments, harg, hpage⟩ := bind_eq_ok.mp h
    exact build_posterUid (by rw [filteredArguments_posterUid harg]; rfl) hpage
  | recommendation =>
    obtain ⟨card, hcard, hpage⟩ := bind_eq_ok.mp h
    refine build_posterUid ?_ hpage
    simp [RecommendationCard.arguments, recommendationCard_posterUid hcard,
      Value.ofStringOrNull, passesPoster]
  | saved savedAt =>
    obtain ⟨card, _, hrest⟩ := bind_eq_ok.mp h
    obtain ⟨arguments, harg, hpage⟩ := bind_eq_ok.mp hrest
    exact build_posterUid (by rw [savedArguments_posterUid harg]; rfl) hpage

end Poster

section Conversation
variable {K : Type}

/-- A conversation with the empty uid is that of no two users. -/
theorem chatRoomID_empty (tenant u v : Uid) : chatRoomID tenant.id "" ≠ chatRoomID u.id v.id := by
  intro h
  have hempty : '_' ∉ "".toList := by simp
  unfold chatRoomID at h
  rcases DartStrings.sort_pair tenant.id "" with hs | hs <;>
    rcases DartStrings.sort_pair u.id v.id with hs' | hs' <;> rw [hs, hs'] at h
  · exact v.nonempty (DartStrings.join_pair_inj (x := '_') tenant.noUnderscore u.noUnderscore h).2.symm
  · exact u.nonempty (DartStrings.join_pair_inj (x := '_') tenant.noUnderscore v.noUnderscore h).2.symm
  · exact u.nonempty (DartStrings.join_pair_inj (x := '_') hempty u.noUnderscore h).1.symm
  · exact v.nonempty (DartStrings.join_pair_inj (x := '_') hempty v.noUnderscore h).1.symm

/-- A new document with a time comes into the ordered list once. -/
theorem orderByTimestamp_cons (name : String) {docs docs' : List (DocumentSnapshot K)}
    {d : DocumentSnapshot K} (hperm : docs'.Perm (d :: docs))
    (htime : (timestampOf name d).isSome = true) :
    (orderByTimestamp name docs').Perm (d :: orderByTimestamp name docs) := by
  have hkept := (orderByTimestamp_perm_filter name docs').trans (hperm.filter _)
  rw [List.filter_cons_of_pos (p := fun e => (timestampOf name e).isSome) htime] at hkept
  exact hkept.trans ((orderByTimestamp_perm_filter name docs).symm.cons d)

/-- What a message from a page does: one document more in the conversation with
the poster the page was given. -/
theorem send_stored {s t : ChatService.State K} {tenant : User} {page : RoomPage K}
    {message id : String} {now : Int} (hmessage : message ≠ "") (hemail : tenant.email ≠ none)
    (h : send s (some tenant) page message now id = some t) :
    ∃ d messages, d.id = id ∧ Map.get d.data "message" = .str message ∧
      (timestampOf "timestamp" d).isSome = true ∧
      messages.docs.Perm (d :: (s.messages (chatRoomID tenant.uid.id page.posterUid)).docs) ∧
      t = ⟨Function.update s.messages (chatRoomID tenant.uid.id page.posterUid) messages⟩ := by
  obtain ⟨email, hemail⟩ := Option.ne_none_iff_exists'.mp hemail
  simp only [send, if_neg hmessage, sendMessage, newMessage, hemail] at h
  split at h
  · cases h
  · rename_i messages hadd
    obtain ⟨_, _, hperm⟩ := Collection.add_cases _ hadd
    cases h
    refine ⟨_, messages, rfl, ?_, ?_, hperm, rfl⟩
    · simp [Message.toMap]
    · rw [ChatService.timestampOf_toMap]
      rfl

variable [IntCast K]

/-- A message sent from the page of a posted room reaches the conversation of
tenant and owner, and no other, if and only if the page was opened from a list
that passes the poster on. -/
theorem reachesOwner_iff (o : Opening) (room : String) (r : PostedRoom K) (owner : Uid)
    (howner : r.posterUid = owner.id) (tenant : User) (page : RoomPage K)
    (hpage : openPage o (postedSnapshot room r) = .ok page) (s t : ChatService.State K)
    (message : String) (now : Int) (id : String) (hmessage : message ≠ "")
    (hemail : tenant.email ≠ none)
    (hsend : send s (some tenant) page message now id = some t) :
    ReachesOwner s t tenant.uid owner id message ↔ passesPoster o = true := by
  obtain ⟨d, messages, hid, htext, htime, hperm, rfl⟩ := send_stored hmessage hemail hsend
  have hposter := openPage_posterUid hpage
  cases hpass : passesPoster o with
  | true =>
    rw [hpass, if_pos rfl, howner] at hposter
    rw [hposter] at hperm ⊢
    refine ⟨fun _ => rfl, fun _ => ⟨d, hid, htext, ?_, ?_⟩⟩
    · simp only [getMessages, Function.update_self]
      exact orderByTimestamp_cons "timestamp" hperm htime
    · intro other hother
      exact Function.update_of_ne hother _ _
  | false =>
    rw [hpass, if_neg Bool.false_ne_true] at hposter
    rw [hposter]
    constructor
    · rintro ⟨d', _, _, hmessages, _⟩
      have hroom := chatRoomID_empty tenant.uid tenant.uid owner
      simp only [getMessages, Function.update_of_ne hroom.symm] at hmessages
      have hlength := hmessages.length_eq
      rw [List.length_cons] at hlength
      omega
    · nofun

end Conversation

def landlord : Uid := ⟨"landlord", by decide, by decide⟩

def tenant : User := ⟨⟨"tenant", by decide, by decide⟩, some "tenant@example.com"⟩

theorem reachesOwner_from_search :
    ∃ page t, openPage .search (postedSnapshot "r1" LandlordView.sampleRoom) = .ok page ∧
      send ChatService.initial (some tenant) page "is it free?" 5 "m1" = some t ∧
      ReachesOwner ChatService.initial t tenant.uid landlord "m1" "is it free?" := by
  refine ⟨_, _, rfl, rfl, ?_⟩
  exact (reachesOwner_iff .search "r1" LandlordView.sampleRoom landlord rfl tenant _ rfl
    ChatService.initial _ "is it free?" 5 "m1" (by decide) nofun rfl).mpr rfl

/-- From the saved list the owner's conversation stays empty. -/
theorem not_reachesOwner_from_saved :
    ∃ page t, openPage (.saved 4) (postedSnapshot "r1" LandlordView.sampleRoom) = .ok page ∧
      send ChatService.initial (some tenant) page "is it free?" 5 "m1" = some t ∧
      ¬ ReachesOwner ChatService.initial t tenant.uid landlord "m1" "is it free?" := by
  refine ⟨_, _, rfl, rfl, ?_⟩
  rintro ⟨d, _, _, hmessages, _⟩
  have hlength := hmessages.length_eq
  rw [List.length_cons] at hlength
  exact Nat.succ_ne_zero _ (hlength.symm.trans rfl)

end ContactOwner
