import Gharsathi.LandlordView
import Gharsathi.SavedRooms

/-!
# Identity of saved rooms

The subcollection of saved rooms is keyed by titles, so the saved status of a
room is its own as long as no other room has its title, and a title with a
slash in it cannot be saved at all. A run keeps the rooms apart exactly when
each of its toggles is made on a room that owns its title.
-/

namespace SavedIdentity

open DartValues FirestoreCollection Models RoomDetails Runs SavedRooms

/-- The last toggle of a room was a save. -/
def savedLast (toggles : List Toggle) (room : String) : Bool :=
  (toggles.filter (fun t => decide (t.room = room))).getLast?.any Toggle.isSave

theorem savedLast_self (toggles : List Toggle) (room : String) (isSave succeeded : Bool) :
    savedLast (toggles ++ [⟨room, isSave, succeeded⟩]) room = isSave := by
  simp [savedLast]

theorem savedLast_other (toggles : List Toggle) {room other : String} (isSave succeeded : Bool)
    (h : room ≠ other) :
    savedLast (toggles ++ [⟨room, isSave, succeeded⟩]) other = savedLast toggles other := by
  simp [savedLast, h]

/-- Only a room that was toggled counts as saved. -/
theorem exists_toggle {toggles : List Toggle} {room : String}
    (h : savedLast toggles room = true) : ∃ t ∈ toggles, t.room = room := by
  obtain ⟨t, ht, _⟩ := (Option.any_eq_true _ _).mp h
  have hmem := List.mem_filter.mp (List.mem_of_getLast? ht)
  exact ⟨t, hmem.1, of_decide_eq_true hmem.2⟩

section Property
variable {K : Type}

/-- The row of the Saved screen that belongs to a card. -/
def entry (card : Roomcard K) : ListTile K where
  title := .str card.roomTitle
  subtitle := .str card.location
  price := .double card.price
  image := some (.str card.image)

theorem listTile_savedDocument (card : Roomcard K) (savedAt : Int) :
    listTile (savedDocument card.roomData savedAt) = entry card := by
  simp [listTile, savedDocument, Roomcard.roomData, entry, Value.isNull]

variable [IntCast K]

/-- The cards and the Saved screen tell of each room what its own toggles made
of it. -/
structure StatusKept (rooms : Collection String (ListedRoom K)) (uid : String) (s : State K) :
    Prop where
  succeeded : ∀ t ∈ s.toggles, t.succeeded = true
  shown : ∀ d ∈ rooms.docs,
    freshCard s.store (some uid) d.data.card.roomTitle = savedLast s.toggles d.id
  listed : (savedScreen s.store uid).Perm
    ((rooms.docs.filter (fun d => savedLast s.toggles d.id)).map (fun d => entry d.data.card))

/-- A toggle leaves the status of all other rooms as it is. -/
def TouchesOneRoom (rooms : Collection String (ListedRoom K)) (uid : String) (s : State K)
    (a : Action) : Prop :=
  ∀ i now card t, a = .toggle i now → s.cards[i]? = some card →
    step rooms (some uid) s a = some t → ∀ d ∈ rooms.docs, d.id ≠ card.room →
      freshCard t.store (some uid) d.data.card.roomTitle =
        freshCard s.store (some uid) d.data.card.roomTitle

/-- The property of a run: its toggles touch one room each, and the status of
the rooms is kept in every state it reaches. -/
def RoomsKeptApart (rooms : Collection String (ListedRoom K)) (uid : String) (store : Store K)
    (acts : List Action) : Prop :=
  Along (step rooms (some uid)) (TouchesOneRoom rooms uid) (initial store) acts ∧
    ∀ past rest t, acts = past ++ rest → run (step rooms (some uid)) (initial store) past = some t →
      StatusKept rooms uid t

/-- The title can be the id of a document, and is that of no other room. -/
def OwnTitle (rooms : Collection String (ListedRoom K)) (room : String) : Prop :=
  ∀ d ∈ rooms.docs, d.id = room → '/' ∉ d.data.card.roomTitle.toList ∧
    ∀ e ∈ rooms.docs, e.data.card.roomTitle = d.data.card.roomTitle → e = d

def TogglesOwnTitle (rooms : Collection String (ListedRoom K)) (s : State K) (a : Action) : Prop :=
  ∀ i now card, a = .toggle i now → s.cards[i]? = some card → OwnTitle rooms card.room

end Property

section Kept
variable {K : Type} [IntCast K] {rooms : Collection String (ListedRoom K)} {uid : String}

/-- What such toggles keep, in terms of the store. -/
structure Kept (rooms : Collection String (ListedRoom K)) (uid : String) (s : State K) : Prop where
  own : ∀ t ∈ s.toggles, OwnTitle rooms t.room
  succeeded : ∀ t ∈ s.toggles, t.succeeded = true
  contained : ∀ d ∈ rooms.docs,
    (s.store uid).contains d.data.card.roomTitle = savedLast s.toggles d.id
  entries : ∀ e ∈ (s.store uid).docs, ∃ d ∈ rooms.docs, e.id = d.data.card.roomTitle ∧
    savedLast s.toggles d.id = true ∧ ∃ now, e.data = savedDocument d.data.card.roomData now

theorem kept_initial (store : Store K) (hempty : (store uid).docs = []) :
    Kept rooms uid (initial store) where
  own := nofun
  succeeded := nofun
  contained d _ := by
    change (store uid).contains _ = false
    rw [Collection.contains, hempty]
    rfl
  entries e he := by
    change e ∈ (store uid).docs at he
    rw [hempty] at he
    cases he

omit [IntCast K] in
theorem contains_toggled (saved : Collection String (Map K)) (card : Roomcard K) (isSaved : Bool)
    (now : Int) (title : String) :
    (toggled saved card isSaved now).contains title =
      if title = card.roomTitle then !isSaved else saved.contains title := by
  cases isSaved <;> by_cases h : title = card.roomTitle <;> simp [toggled, h]

omit [IntCast K] in
theorem mem_toggled {saved : Collection String (Map K)} {card : Roomcard K} {isSaved : Bool}
    {now : Int} {e : DocumentSnapshot K} (he : e ∈ (toggled saved card isSaved now).docs) :
    (isSaved = false ∧ e = ⟨card.roomTitle, savedDocument card.roomData now⟩) ∨
      (e ∈ saved.docs ∧ e.id ≠ card.roomTitle) := by
  cases isSaved with
  | false =>
    rcases saved.mem_set.mp he with rfl | hold
    · exact Or.inl ⟨rfl, rfl⟩
    · exact Or.inr hold
  | true => exact Or.inr (saved.mem_delete.mp he)

theorem kept_step {s t : State K} {a : Action} (kept : Kept rooms uid s)
    (owned : TogglesOwnTitle rooms s a) (h : step rooms (some uid) s a = some t) :
    Kept rooms uid t := by
  cases step_did h with
  | built d hd => exact ⟨kept.own, kept.succeeded, kept.contained, kept.entries⟩
  | answered check hd hcard hcheck =>
    exact ⟨kept.own, kept.succeeded, kept.contained, kept.entries⟩
  | shown hcard => exact ⟨kept.own, kept.succeeded, kept.contained, kept.entries⟩
  | @failed i now check isSaved d hd hcard hid =>
    have hslash := (owned i now _ rfl hcard d hd rfl).1
    exact absurd ⟨d.data.titleNonempty, hslash⟩ hid
  | @toggled i now check isSaved d hd hcard hid =>
    have hown := owned i now _ rfl hcard
    -- the other rooms have other ids and other titles
    have hother : ∀ e ∈ rooms.docs, e ≠ d →
        d.id ≠ e.id ∧ e.data.card.roomTitle ≠ d.data.card.roomTitle := by
      intro e he hne
      constructor
      · intro hsame
        exact hne (rooms.eq_of_id_eq he hd hsame.symm)
      · intro hsame
        exact hne ((hown d hd rfl).2 e he hsame)
    have hlast : ∀ e ∈ rooms.docs, e ≠ d →
        savedLast (s.toggles ++ [⟨d.id, !isSaved, true⟩]) e.id = savedLast s.toggles e.id :=
      fun e he hne => savedLast_other _ _ _ (hother e he hne).1
    refine ⟨forall_mem_concat kept.own hown, forall_mem_concat kept.succeeded rfl, ?_, ?_⟩
    · intro e he
      simp only [Function.update_self, contains_toggled]
      by_cases hne : e = d
      · subst hne
        rw [if_pos rfl, savedLast_self]
      · rw [if_neg (hother e he hne).2, hlast e he hne]
        exact kept.contained e he
    · intro x hx
      simp only [Function.update_self] at hx
      rcases mem_toggled hx with ⟨rfl, rfl⟩ | ⟨hold, hne⟩
      · exact ⟨d, hd, rfl, savedLast_self _ _ _ _, now, rfl⟩
      · obtain ⟨e, he, hkey, hsaved, hdata⟩ := kept.entries x hold
        have hed : e ≠ d := by
          rintro rfl
          exact hne hkey
        refine ⟨e, he, hkey, ?_, hdata⟩
        exact (hlast e he hed).trans hsaved

/-- The documents and the rooms that were saved last, each with its row. -/
theorem kept_listed {s : State K} (kept : Kept rooms uid s) :
    (savedScreen s.store uid).Perm
      ((rooms.docs.filter (fun d => savedLast s.toggles d.id)).map
        (fun d => entry d.data.card)) := by
  have hown : ∀ d ∈ rooms.docs.filter (fun d => savedLast s.toggles d.id),
      d ∈ rooms.docs ∧ OwnTitle rooms d.id := by
    intro d hd
    obtain ⟨hd, hsaved⟩ := List.mem_filter.mp hd
    obtain ⟨tg, htg, hroom⟩ := exists_toggle hsaved
    exact ⟨hd, hroom ▸ kept.own tg htg⟩
  have hpairs : ((s.store uid).docs.map (fun e => (e.id, listTile e.data))).Perm
      ((rooms.docs.filter (fun d => savedLast s.toggles d.id)).map
        (fun d => (d.data.card.roomTitle, entry d.data.card))) := by
    refine (List.perm_ext_iff_of_nodup ?_ ?_).mpr ?_
    · refine List.Nodup.of_map Prod.fst ?_
      rw [List.map_map]
      exact (s.store uid).ids_nodup
    · refine List.Nodup.map_on ?_ (rooms.docs_nodup.filter _)
      intro d hd e he hpair
      exact ((hown e he).2 e (hown e he).1 rfl).2 d (hown d hd).1 (Prod.mk.inj hpair).1
    · intro row
      simp only [List.mem_map, List.mem_filter]
      constructor
      · rintro ⟨e, he, rfl⟩
        obtain ⟨d, hd, hid, hsaved, now, hdata⟩ := kept.entries e he
        exact ⟨d, ⟨hd, hsaved⟩, by rw [hid, hdata, listTile_savedDocument]⟩
      · rintro ⟨d, ⟨hd, hsaved⟩, rfl⟩
        have hin := kept.contained d hd
        rw [hsaved] at hin
        obtain ⟨e, he, hid⟩ := ((s.store uid).contains_iff _).mp hin
        obtain ⟨d', hd', hid', hsaved', now, hdata⟩ := kept.entries e he
        obtain ⟨tg, htg, hroom⟩ := exists_toggle hsaved
        have hsame := ((hroom ▸ kept.own tg htg) d hd rfl).2 d' hd' (hid'.symm.trans hid)
        subst hsame
        exact ⟨e, he, by rw [hid, hdata, listTile_savedDocument]⟩
  have hrows := hpairs.map Prod.snd
  rw [List.map_map, List.map_map] at hrows
  exact hrows

theorem kept_status {s : State K} (kept : Kept rooms uid s) : StatusKept rooms uid s where
  succeeded := kept.succeeded
  listed := kept_listed kept
  shown d hd := by
    rw [Bool.eq_iff_iff, freshCard_eq, kept.contained d hd]
    constructor
    · intro h
      exact h.2
    · intro h
      obtain ⟨tg, htg, hroom⟩ := exists_toggle h
      have hslash := (kept.own tg htg d hd hroom.symm).1
      exact ⟨⟨d.data.titleNonempty, hslash⟩, h⟩

theorem kept_touches {s : State K} {a : Action} (kept : Kept rooms uid s)
    (owned : TogglesOwnTitle rooms s a) : TouchesOneRoom rooms uid s a := by
  rintro i now card t rfl hcard h d hd hne
  have before := (kept_status kept).shown d hd
  have after := (kept_status (kept_step kept owned h)).shown d hd
  have hlast : savedLast t.toggles d.id = savedLast s.toggles d.id := by
    cases step_did h with
    | toggled _ hcard' _ =>
      rw [hcard] at hcard'
      cases hcard'
      exact savedLast_other _ _ _ (Ne.symm hne)
    | failed _ hcard' _ =>
      rw [hcard] at hcard'
      cases hcard'
      exact savedLast_other _ _ _ (Ne.symm hne)
  rw [before, after, hlast]

end Kept

section Told
variable {K : Type} [IntCast K] {rooms : Collection String (ListedRoom K)} {uid : String}

/-- A card is told that its room is saved only after a toggle of the room. -/
structure Told (rooms : Collection String (ListedRoom K)) (s : State K) : Prop where
  own : ∀ t ∈ s.toggles, OwnTitle rooms t.room
  told : ∀ card ∈ s.cards, card.isSaved = true ∨ card.check = .answered true →
    ∃ t ∈ s.toggles, t.room = card.room

theorem told_initial (store : Store K) : Told rooms (initial store) where
  own := nofun
  told := nofun

/-- The first toggle of a room saves it, and with it every room that has the
same title. -/
theorem ownTitle_of_status {s t : State K} {i : Nat} {now : Int} {card : CardState}
    (told : Told rooms s) (after : StatusKept rooms uid t)
    (h : step rooms (some uid) s (.toggle i now) = some t) (hcard : s.cards[i]? = some card) :
    OwnTitle rooms card.room := by
  cases step_did h with
  | @failed _ _ check isSaved d hd hcard' hid =>
    have hfailed := after.succeeded ⟨d.id, !isSaved, false⟩
      (List.mem_append_right _ List.mem_cons_self)
    cases hfailed
  | @toggled _ _ check isSaved d hd hcard' hid =>
    rw [hcard] at hcard'
    cases hcard'
    intro d' hd' hid'
    rw [rooms.eq_of_id_eq hd' hd hid']
    refine ⟨hid.2, ?_⟩
    intro e he htitle
    by_contra hne
    have hother : d.id ≠ e.id := fun hsame => hne (rooms.eq_of_id_eq he hd hsame.symm)
    have huntoggled : ∀ room, room = d.id ∨ room = e.id → ∀ tg ∈ s.toggles, tg.room ≠ room := by
      rintro room (rfl | rfl) tg htg hroom
      · exact hne ((hroom ▸ told.own tg htg) d hd rfl |>.2 e he htitle)
      · exact hne ((hroom ▸ told.own tg htg) e he rfl |>.2 d hd htitle.symm).symm
    have hunsaved : isSaved = false := by
      rw [← Bool.not_eq_true]
      intro hsaved
      obtain ⟨tg, htg, hroom⟩ := told.told _ (List.mem_of_getElem? hcard) (Or.inl hsaved)
      exact huntoggled d.id (Or.inl rfl) tg htg hroom
    subst hunsaved
    have hd_saved := (after.shown d hd).trans (savedLast_self _ _ _ _)
    have he_saved := (after.shown e he).trans (savedLast_other _ _ _ hother)
    rw [htitle, hd_saved] at he_saved
    obtain ⟨tg, htg, hroom⟩ := exists_toggle he_saved.symm
    exact huntoggled e.id (Or.inr rfl) tg htg hroom

theorem told_step {s t : State K} {a : Action} (told : Told rooms s)
    (before : StatusKept rooms uid s) (after : StatusKept rooms uid t)
    (h : step rooms (some uid) s a = some t) : Told rooms t := by
  cases step_did h with
  | built d hd =>
    refine ⟨told.own, forall_mem_concat told.told ?_⟩
    rintro (hsaved | hsaved)
    · cases hsaved
    · cases hsaved
  | @answered i isSaved d check hd hcard hcheck =>
    refine ⟨told.own, forall_mem_set told.told ?_⟩
    have old := told.told _ (List.mem_of_getElem? hcard)
    rintro (hsaved | hsaved)
    · exact old (Or.inl hsaved)
    · have hlast := before.shown d hd
      rw [hcheck hsaved] at hlast
      exact exists_toggle hlast.symm
  | @shown i room saved isSaved hcard =>
    refine ⟨told.own, forall_mem_set told.told ?_⟩
    have old := told.told _ (List.mem_of_getElem? hcard)
    rintro (hsaved | hsaved)
    · exact old (Or.inr (congrArg Check.answered hsaved))
    · cases hsaved
  | @failed i now check isSaved d hd hcard hid =>
    have hfailed := after.succeeded ⟨d.id, !isSaved, false⟩
      (List.mem_append_right _ List.mem_cons_self)
    cases hfailed
  | @toggled i now check isSaved d hd hcard hid =>
    have hown := ownTitle_of_status told after h hcard
    refine ⟨forall_mem_concat told.own hown, forall_mem_set ?_ ?_⟩
    · intro card hmem hsaved
      obtain ⟨tg, htg, hroom⟩ := told.told card hmem hsaved
      exact ⟨tg, List.mem_append_left _ htg, hroom⟩
    · intro _
      exact ⟨_, List.mem_append_right _ List.mem_cons_self, rfl⟩

end Told

section Main
variable {K : Type} [IntCast K] {rooms : Collection String (ListedRoom K)} {uid : String}
  {store : Store K} {acts : List Action}

/-- If every state of the run is right, its cards are told of toggles only. -/
theorem run_told (status : ∀ past rest t, acts = past ++ rest →
      run (step rooms (some uid)) (initial store) past = some t → StatusKept rooms uid t)
    {past rest : List Action} {t : State K} (hacts : acts = past ++ rest)
    (hpast : run (step rooms (some uid)) (initial store) past = some t) : Told rooms t := by
  refine run_invariant_along (Told rooms) (fun x a => StatusKept rooms uid x ∧
    ∀ y, step rooms (some uid) x a = some y → StatusKept rooms uid y)
    (fun x a y told hstatus h => told_step told hstatus.1 (hstatus.2 y h) h) hpast ?_
    (told_initial store)
  rw [along_iff]
  intro first a more x hsplit hx
  have hwhole : acts = first ++ a :: (more ++ rest) := by
    rw [hacts, hsplit, List.append_assoc]
    rfl
  refine ⟨status first _ x hwhole hx, fun y hy => ?_⟩
  refine status (first ++ [a]) (more ++ rest) y ?_ (run_snoc.mpr ⟨x, hx, hy⟩)
  rw [hwhole, List.append_assoc]
  rfl

theorem run_kept (hempty : (store uid).docs = [])
    (owned : Along (step rooms (some uid)) (TogglesOwnTitle rooms) (initial store) acts)
    {past rest : List Action} {t : State K} (hacts : acts = past ++ rest)
    (hpast : run (step rooms (some uid)) (initial store) past = some t) : Kept rooms uid t := by
  rw [hacts] at owned
  exact run_invariant_along (Kept rooms uid) (TogglesOwnTitle rooms)
    (fun x a y kept hown h => kept_step kept hown h) hpast (along_append owned)
    (kept_initial store hempty)

/-- The rooms are kept apart exactly when each toggle is made on a room that
owns its title. -/
theorem roomsKeptApart_iff (rooms : Collection String (ListedRoom K)) (uid : String)
    (store : Store K) (hempty : (store uid).docs = []) (acts : List Action) (s : State K)
    (hrun : run (step rooms (some uid)) (initial store) acts = some s) :
    RoomsKeptApart rooms uid store acts ↔
      Along (step rooms (some uid)) (TogglesOwnTitle rooms) (initial store) acts := by
  constructor
  · rintro ⟨_, status⟩
    rw [along_iff]
    rintro past a rest t hacts hpast i now card rfl hcard
    rw [hacts] at hrun
    obtain ⟨t', ht', hrest⟩ := run_append.mp hrun
    rw [hpast] at ht'
    cases ht'
    obtain ⟨u, hu, _⟩ := run_cons.mp hrest
    have hsplit : acts = (past ++ [.toggle i now]) ++ rest := by
      rw [hacts, List.append_assoc]
      rfl
    have after := status _ rest u hsplit (run_snoc.mpr ⟨t, hpast, hu⟩)
    exact ownTitle_of_status (run_told status hacts hpast) after hu hcard
  · intro owned
    constructor
    · rw [along_iff]
      intro past a rest t hacts hpast
      exact kept_touches (run_kept hempty owned hacts hpast)
        ((along_iff.mp owned) past a rest t hacts hpast)
    · intro past rest t hacts hpast
      exact kept_status (run_kept hempty owned hacts hpast)

end Main

section Samples

def titledRoom (title : String) (titleNonempty : title ≠ "") : ListedRoom ℚ :=
  ListedRoom.ofPosted { LandlordView.sampleRoom with
    roomTitle := title
    titleNonempty := titleNonempty } "Sita Rai" "rooms/1.png" [] rfl rfl

def noneSaved : Store ℚ := fun _ => Collection.empty

def twoFlats : Collection String (ListedRoom ℚ) :=
  (Collection.empty.set "r1" (titledRoom "Sunny flat" LandlordView.sampleRoom.titleNonempty)).set "r2"
    (titledRoom "Quiet flat" (by decide))

def twinFlats : Collection String (ListedRoom ℚ) :=
  (Collection.empty.set "r1" (titledRoom "Sunny flat" LandlordView.sampleRoom.titleNonempty)).set "r2"
    (titledRoom "Sunny flat" LandlordView.sampleRoom.titleNonempty)

def halfFlat : Collection String (ListedRoom ℚ) :=
  Collection.empty.set "r1" (titledRoom "1/2 flat" (by decide))

theorem twoFlats_own (room : String) : OwnTitle twoFlats room := by
  have hdocs : twoFlats.docs = [⟨"r1", titledRoom "Sunny flat" LandlordView.sampleRoom.titleNonempty⟩,
      ⟨"r2", titledRoom "Quiet flat" (by decide)⟩] := rfl
  intro d hd _
  rw [hdocs] at hd
  simp only [List.mem_cons, List.not_mem_nil, or_false] at hd
  rcases hd with rfl | rfl
  · refine ⟨by decide, ?_⟩
    intro e he htitle
    rw [hdocs] at he
    simp only [List.mem_cons, List.not_mem_nil, or_false] at he
    rcases he with rfl | rfl
    · rfl
    · exact absurd htitle (by decide)
  · refine ⟨by decide, ?_⟩
    intro e he htitle
    rw [hdocs] at he
    simp only [List.mem_cons, List.not_mem_nil, or_false] at he
    rcases he with rfl | rfl
    · exact absurd htitle (by decide)
    · rfl

def saveBoth : List Action :=
  [.build "r1", .build "r2", .answer 0, .setSaved 0, .toggle 0 1, .toggle 1 2, .toggle 0 3]

theorem saveBoth_keptApart :
    ∃ s, run (step twoFlats (some "tenant")) (initial noneSaved) saveBoth = some s ∧
      savedLast s.toggles "r2" = true ∧ RoomsKeptApart twoFlats "tenant" noneSaved saveBoth := by
  obtain ⟨s, hrun, hsaved⟩ := exists_of_check (step twoFlats (some "tenant")) (initial noneSaved)
    saveBoth (fun s => savedLast s.toggles "r2" = true) (by decide)
  refine ⟨s, hrun, hsaved, (roomsKeptApart_iff twoFlats "tenant" noneSaved rfl saveBoth s hrun).mpr ?_⟩
  rw [along_iff]
  intro past a rest t _ _ i now card _ _
  exact twoFlats_own card.room

/-- Saving a room marks its twin as saved, and a title with a slash cannot be
saved. -/
theorem not_roomsKeptApart :
    ¬ RoomsKeptApart twinFlats "tenant" noneSaved [.build "r1", .toggle 0 1] ∧
      ¬ RoomsKeptApart halfFlat "tenant" noneSaved [.build "r1", .toggle 0 1] := by
  constructor
  · rintro ⟨_, status⟩
    obtain ⟨s, hrun, hfresh, hlast⟩ := exists_of_check (step twinFlats (some "tenant"))
      (initial noneSaved) [.build "r1", .toggle 0 1]
      (fun s => freshCard s.store (some "tenant") "Sunny flat" = true ∧
        savedLast s.toggles "r2" = false) (by decide)
    have htwin := (status _ [] s (List.append_nil _).symm hrun).shown
      ⟨"r2", titledRoom "Sunny flat" LandlordView.sampleRoom.titleNonempty⟩
      (List.mem_cons_of_mem _ List.mem_cons_self)
    exact absurd (hfresh.symm.trans (htwin.trans hlast)) Bool.false_ne_true.symm
  · rintro ⟨_, status⟩
    obtain ⟨s, hrun, t, ht, hfailed⟩ := exists_of_check (step halfFlat (some "tenant"))
      (initial noneSaved) [.build "r1", .toggle 0 1]
      (fun s => ∃ t ∈ s.toggles, t.succeeded = false) (by decide)
    have hsucceeded := (status _ [] s (List.append_nil _).symm hrun).succeeded t ht
    exact absurd (hsucceeded.symm.trans hfailed) Bool.false_ne_true.symm

end Samples

end SavedIdentity
