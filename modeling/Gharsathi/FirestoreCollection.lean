import Gharsathi.DartValues
import Mathlib.Data.List.Nodup
import Mathlib.Data.List.Sort
import Mathlib.Data.String.Basic

/-!
# Collections of a document store

A collection keeps its documents in the order of their ids, as the store lists
them, and no id occurs twice; both facts are the field `ordered`. `set` writes
a document under a given id, `add` is `set` at an id that is not in use, and a
query keeps the matching documents in their order.
-/

namespace FirestoreCollection

open DartValues

universe u v

structure Doc (κ : Type u) (α : Type v) where
  id : κ
  data : α

structure Collection (κ : Type u) (α : Type v) [LinearOrder κ] where
  docs : List (Doc κ α)
  ordered : docs.Pairwise (fun d e => d.id < e.id)

section Insertion
variable {κ : Type u} {α : Type v} [LinearOrder κ]

def insertDoc (d : Doc κ α) : List (Doc κ α) → List (Doc κ α)
  | [] => [d]
  | e :: es =>
    if d.id < e.id then d :: e :: es
    else if d.id = e.id then d :: es
    else e :: insertDoc d es

theorem mem_insertDoc {d x : Doc κ α} {es : List (Doc κ α)}
    (ordered : es.Pairwise (fun d e => d.id < e.id)) :
    x ∈ insertDoc d es ↔ x = d ∨ (x ∈ es ∧ x.id ≠ d.id) := by
  induction es with
  | nil => simp [insertDoc]
  | cons e es ih =>
    obtain ⟨below, rest⟩ := List.pairwise_cons.mp ordered
    unfold insertDoc
    by_cases hlt : d.id < e.id
    · rw [if_pos hlt]
      have hne : ∀ y ∈ e :: es, y.id ≠ d.id := by
        intro y hy
        rcases List.mem_cons.mp hy with rfl | hy
        · exact hlt.ne'
        · exact (hlt.trans (below y hy)).ne'
      constructor
      · intro hx
        rcases List.mem_cons.mp hx with hx | hx
        · exact Or.inl hx
        · exact Or.inr ⟨hx, hne x hx⟩
      · rintro (rfl | ⟨hx, _⟩)
        · exact List.mem_cons_self
        · exact List.mem_cons_of_mem _ hx
    · rw [if_neg hlt]
      by_cases heq : d.id = e.id
      · rw [if_pos heq]
        have hne : ∀ y ∈ es, y.id ≠ d.id := by
          intro y hy
          rw [heq]
          exact (below y hy).ne'
        constructor
        · intro hx
          rcases List.mem_cons.mp hx with hx | hx
          · exact Or.inl hx
          · exact Or.inr ⟨List.mem_cons_of_mem _ hx, hne x hx⟩
        · rintro (rfl | ⟨hx, hid⟩)
          · exact List.mem_cons_self
          · rcases List.mem_cons.mp hx with rfl | hx
            · exact absurd heq.symm hid
            · exact List.mem_cons_of_mem _ hx
      · rw [if_neg heq, List.mem_cons, ih rest, List.mem_cons]
        constructor
        · rintro (rfl | hx | ⟨hx, hid⟩)
          · exact Or.inr ⟨Or.inl rfl, fun h => heq h.symm⟩
          · exact Or.inl hx
          · exact Or.inr ⟨Or.inr hx, hid⟩
        · rintro (hx | ⟨hx | hx, hid⟩)
          · exact Or.inr (Or.inl hx)
          · exact Or.inl hx
          · exact Or.inr (Or.inr ⟨hx, hid⟩)

theorem insertDoc_ordered (d : Doc κ α) {es : List (Doc κ α)}
    (ordered : es.Pairwise (fun d e => d.id < e.id)) :
    (insertDoc d es).Pairwise (fun d e => d.id < e.id) := by
  induction es with
  | nil => simp [insertDoc]
  | cons e es ih =>
    obtain ⟨below, rest⟩ := List.pairwise_cons.mp ordered
    unfold insertDoc
    by_cases hlt : d.id < e.id
    · rw [if_pos hlt]
      refine List.pairwise_cons.mpr ⟨?_, ordered⟩
      intro y hy
      rcases List.mem_cons.mp hy with rfl | hy
      · exact hlt
      · exact hlt.trans (below y hy)
    · rw [if_neg hlt]
      by_cases heq : d.id = e.id
      · rw [if_pos heq]
        refine List.pairwise_cons.mpr ⟨?_, rest⟩
        intro y hy
        rw [heq]
        exact below y hy
      · rw [if_neg heq]
        refine List.pairwise_cons.mpr ⟨?_, ih rest⟩
        intro y hy
        rcases (mem_insertDoc rest).mp hy with rfl | ⟨hy, _⟩
        · exact lt_of_le_of_ne (not_lt.mp hlt) (Ne.symm heq)
        · exact below y hy

/-- At an id that is not in use, insertion adds one document and moves none. -/
theorem insertDoc_perm {d : Doc κ α} {es : List (Doc κ α)}
    (fresh : ∀ e ∈ es, e.id ≠ d.id) : (insertDoc d es).Perm (d :: es) := by
  induction es with
  | nil => exact List.Perm.refl _
  | cons e es ih =>
    unfold insertDoc
    by_cases hlt : d.id < e.id
    · rw [if_pos hlt]
    · rw [if_neg hlt, if_neg (Ne.symm (fresh e List.mem_cons_self))]
      have htail := ih (fun y hy => fresh y (List.mem_cons_of_mem e hy))
      exact (htail.cons e).trans (List.Perm.swap d e es)

end Insertion

namespace Collection

section Operations
variable {κ : Type u} {α : Type v} [LinearOrder κ]

def empty : Collection κ α := ⟨[], List.Pairwise.nil⟩

/-- `doc(id).get()`: the data, if the document exists. -/
def get? (c : Collection κ α) (id : κ) : Option α :=
  (c.docs.find? (fun d => decide (d.id = id))).map Doc.data

def contains (c : Collection κ α) (id : κ) : Bool :=
  c.docs.any (fun d => decide (d.id = id))

/-- `doc(id).set(data)`. -/
def set (c : Collection κ α) (id : κ) (data : α) : Collection κ α :=
  ⟨insertDoc ⟨id, data⟩ c.docs, insertDoc_ordered _ c.ordered⟩

/-- `doc(id).delete()`. -/
def delete (c : Collection κ α) (id : κ) : Collection κ α :=
  ⟨c.docs.filter (fun d => decide (d.id ≠ id)), c.ordered.filter _⟩

/-- `add(data)` with the id the store generated, which must be unused. -/
def add (c : Collection κ α) (id : κ) (data : α) : Option (Collection κ α) :=
  if c.contains id then none else some (c.set id data)

end Operations

section Laws
variable {κ : Type u} {α : Type v} [LinearOrder κ] (c : Collection κ α)

theorem ids_nodup : (c.docs.map Doc.id).Nodup := by
  rw [List.nodup_iff_pairwise_ne, List.pairwise_map]
  exact c.ordered.imp (fun h => h.ne)

theorem docs_nodup : c.docs.Nodup := c.ids_nodup.of_map

/-- Two documents of one collection with one id are one document. -/
theorem eq_of_id_eq {d e : Doc κ α} (hd : d ∈ c.docs) (he : e ∈ c.docs) (h : d.id = e.id) :
    d = e :=
  List.inj_on_of_nodup_map c.ids_nodup hd he h

theorem contains_iff (id : κ) : c.contains id = true ↔ ∃ d ∈ c.docs, d.id = id := by
  simp [contains]

theorem get?_eq_some_iff (id : κ) (x : α) : c.get? id = some x ↔ ⟨id, x⟩ ∈ c.docs := by
  constructor
  · intro h
    obtain ⟨d, hd, hx⟩ := Option.map_eq_some_iff.mp h
    have hmem := List.mem_of_find?_eq_some hd
    have hid := List.find?_some hd
    simp only [decide_eq_true_eq] at hid
    subst hid hx
    exact hmem
  · intro h
    cases hf : c.docs.find? (fun d => decide (d.id = id)) with
    | none =>
      have := List.find?_eq_none.mp hf ⟨id, x⟩ h
      simp at this
    | some d =>
      have hid := List.find?_some hf
      simp only [decide_eq_true_eq] at hid
      have hd := c.eq_of_id_eq (List.mem_of_find?_eq_some hf) h hid
      simp [get?, hf, hd]

theorem mem_set {id : κ} {x : α} {d : Doc κ α} :
    d ∈ (c.set id x).docs ↔ d = ⟨id, x⟩ ∨ (d ∈ c.docs ∧ d.id ≠ id) :=
  mem_insertDoc c.ordered

theorem mem_delete {id : κ} {d : Doc κ α} :
    d ∈ (c.delete id).docs ↔ d ∈ c.docs ∧ d.id ≠ id := by
  simp [delete]

@[simp] theorem contains_set (id other : κ) (x : α) :
    (c.set id x).contains other = (decide (other = id) || c.contains other) := by
  rw [Bool.eq_iff_iff, contains_iff, Bool.or_eq_true, decide_eq_true_eq, contains_iff]
  constructor
  · rintro ⟨d, hd, rfl⟩
    rcases c.mem_set.mp hd with rfl | ⟨hd, _⟩
    · exact Or.inl rfl
    · exact Or.inr ⟨d, hd, rfl⟩
  · rintro (rfl | ⟨d, hd, rfl⟩)
    · exact ⟨⟨other, x⟩, c.mem_set.mpr (Or.inl rfl), rfl⟩
    · by_cases hid : d.id = id
      · exact ⟨⟨id, x⟩, c.mem_set.mpr (Or.inl rfl), hid.symm⟩
      · exact ⟨d, c.mem_set.mpr (Or.inr ⟨hd, hid⟩), rfl⟩

@[simp] theorem contains_delete (id other : κ) :
    (c.delete id).contains other = (c.contains other && decide (other ≠ id)) := by
  rw [Bool.eq_iff_iff, contains_iff, Bool.and_eq_true, decide_eq_true_eq, contains_iff]
  constructor
  · rintro ⟨d, hd, rfl⟩
    obtain ⟨hmem, hne⟩ := c.mem_delete.mp hd
    exact ⟨⟨d, hmem, rfl⟩, hne⟩
  · rintro ⟨⟨d, hd, rfl⟩, hne⟩
    exact ⟨d, c.mem_delete.mpr ⟨hd, hne⟩, rfl⟩

theorem get?_set_self (id : κ) (x : α) : (c.set id x).get? id = some x :=
  ((c.set id x).get?_eq_some_iff id x).mpr (c.mem_set.mpr (Or.inl rfl))

theorem get?_set_other {id other : κ} (x : α) (h : other ≠ id) :
    (c.set id x).get? other = c.get? other := by
  ext y
  rw [get?_eq_some_iff, get?_eq_some_iff, c.mem_set]
  constructor
  · rintro (heq | ⟨hmem, _⟩)
    · cases heq
      exact absurd rfl h
    · exact hmem
  · intro hmem
    exact Or.inr ⟨hmem, h⟩

theorem get?_set (id other : κ) (x : α) :
    (c.set id x).get? other = if id = other then some x else c.get? other := by
  by_cases h : id = other
  · rw [if_pos h, ← h, get?_set_self]
  · rw [if_neg h, c.get?_set_other x (Ne.symm h)]

theorem get?_delete (id other : κ) :
    (c.delete id).get? other = if id = other then none else c.get? other := by
  ext x
  rw [get?_eq_some_iff, mem_delete]
  by_cases h : id = other
  · simp [h]
  · rw [if_neg h, get?_eq_some_iff]
    exact and_iff_left (Ne.symm h)

/-- What `add` did: the id was unused and one document came in. -/
theorem add_cases {c' : Collection κ α} {id : κ} {x : α} (h : c.add id x = some c') :
    c.contains id = false ∧ c' = c.set id x ∧ c'.docs.Perm (⟨id, x⟩ :: c.docs) := by
  unfold add at h
  split at h
  · cases h
  · rename_i fresh
    have hset := Option.some.inj h
    subst hset
    rw [Bool.not_eq_true] at fresh
    refine ⟨fresh, rfl, insertDoc_perm ?_⟩
    intro e he hid
    have hin := (c.contains_iff id).mpr ⟨e, he, hid⟩
    rw [fresh] at hin
    cases hin

end Laws

end Collection

/-- A document of the store: its id and its fields. -/
abbrev DocumentSnapshot (K : Type) := Doc String (Map K)

section Snapshots
variable {K : Type}

/-- `snapshot[field]`, an error when the document has no such field. -/
def field (d : DocumentSnapshot K) (name : String) : Result (Value K) :=
  if Map.containsKey d.data name then .ok (Map.get d.data name) else .error (.badState name)

/-- The filter `where(name, isEqualTo: s)` for a string. -/
def isEqualTo (name s : String) (d : DocumentSnapshot K) : Bool :=
  match Map.get d.data name with
  | .str t => decide (t = s)
  | _ => false

def timestampOf (name : String) (d : DocumentSnapshot K) : Option Int :=
  match Map.get d.data name with
  | .timestamp t => some t
  | _ => none

/-- `orderBy(name)` where the field holds timestamps: documents without the
field are left out, and ties keep the order of the ids. -/
def orderByTimestamp (name : String) (docs : List (DocumentSnapshot K)) :
    List (DocumentSnapshot K) :=
  let stamped := docs.filterMap (fun d => (timestampOf name d).map (fun t => (t, d)))
  (stamped.insertionSort (fun a b => a.1 ≤ b.1)).map Prod.snd

/-- The ordered list holds the documents that have the field. -/
theorem orderByTimestamp_perm_filter (name : String) (docs : List (DocumentSnapshot K)) :
    (orderByTimestamp name docs).Perm
      (docs.filter (fun d => (timestampOf name d).isSome)) := by
  have hkeep : (docs.filterMap (fun d => (timestampOf name d).map (fun t => (t, d)))).map Prod.snd =
      docs.filter (fun d => (timestampOf name d).isSome) := by
    induction docs with
    | nil => rfl
    | cons d docs ih =>
      cases ht : timestampOf name d with
      | none =>
        rw [List.filterMap_cons_none (by rw [ht]; rfl), List.filter_cons_of_neg (by simp [ht]), ih]
      | some t =>
        rw [List.filterMap_cons_some (b := (t, d)) (by rw [ht]; rfl), List.map_cons,
          List.filter_cons_of_pos (by simp [ht]), ih]
  have hsort := (List.perm_insertionSort (fun a b => a.1 ≤ b.1) (docs.filterMap (fun d =>
    (timestampOf name d).map (fun t => (t, d))))).map Prod.snd
  rw [hkeep] at hsort
  exact hsort

theorem orderByTimestamp_perm (name : String) {docs : List (DocumentSnapshot K)}
    (all : ∀ d ∈ docs, (timestampOf name d).isSome = true) :
    (orderByTimestamp name docs).Perm docs := by
  have hkept := orderByTimestamp_perm_filter name docs
  rw [List.filter_eq_self.mpr all] at hkept
  exact hkept

theorem pairwise_orderedInsert_stable {τ β : Type} [LinearOrder β] {r : τ → τ → Prop}
    (key : τ → β) {x : τ}
    {xs : List τ} (ordered : xs.Pairwise (fun a b => key a < key b ∨ (key a = key b ∧ r a b)))
    (first : ∀ y ∈ xs, r x y) :
    (xs.orderedInsert (fun a b => key a ≤ key b) x).Pairwise
      (fun a b => key a < key b ∨ (key a = key b ∧ r a b)) := by
  induction xs with
  | nil => simp
  | cons y ys ih =>
    obtain ⟨below, rest⟩ := List.pairwise_cons.mp ordered
    rw [List.orderedInsert_cons]
    by_cases hle : key x ≤ key y
    · rw [if_pos hle]
      refine List.pairwise_cons.mpr ⟨?_, ordered⟩
      intro z hz
      have hxz : key x ≤ key z := by
        rcases List.mem_cons.mp hz with rfl | hz
        · exact hle
        · rcases below z hz with h | h
          · exact hle.trans h.le
          · exact hle.trans h.1.le
      rcases lt_or_eq_of_le hxz with hlt | heq
      · exact Or.inl hlt
      · exact Or.inr ⟨heq, first z hz⟩
    · rw [if_neg hle]
      refine List.pairwise_cons.mpr ⟨?_, ih rest (fun z hz => first z (List.mem_cons_of_mem y hz))⟩
      intro z hz
      rcases (List.mem_orderedInsert _).mp hz with rfl | hz
      · exact Or.inl (not_le.mp hle)
      · exact below z hz

/-- A sort by a key keeps the order of the entries that have the same. -/
theorem pairwise_insertionSort_stable {τ β : Type} [LinearOrder β] {r : τ → τ → Prop}
    (key : τ → β) {xs : List τ} (ordered : xs.Pairwise r) :
    (xs.insertionSort (fun a b => key a ≤ key b)).Pairwise
      (fun a b => key a < key b ∨ (key a = key b ∧ r a b)) := by
  induction xs with
  | nil => simp
  | cons x xs ih =>
    obtain ⟨first, rest⟩ := List.pairwise_cons.mp ordered
    refine pairwise_orderedInsert_stable key (ih rest) ?_
    intro y hy
    exact first y ((List.mem_insertionSort _).mp hy)

/-- The ordered list is in the order of the timestamps, and documents with the
same one stand as they stood before. -/
theorem orderByTimestamp_stable (name : String) {r : DocumentSnapshot K → DocumentSnapshot K → Prop}
    {docs : List (DocumentSnapshot K)} (ordered : docs.Pairwise r) :
    (orderByTimestamp name docs).Pairwise (fun d e => ∃ t u, timestampOf name d = some t ∧
      timestampOf name e = some u ∧ (t < u ∨ (t = u ∧ r d e))) := by
  have hstamped : ∀ a ∈ docs.filterMap (fun d => (timestampOf name d).map (fun t => (t, d))),
      timestampOf name a.2 = some a.1 := by
    intro a ha
    obtain ⟨d, _, hd⟩ := List.mem_filterMap.mp ha
    obtain ⟨t, ht, rfl⟩ := Option.map_eq_some_iff.mp hd
    exact ht
  have hstanding : (docs.filterMap (fun d => (timestampOf name d).map (fun t => (t, d)))).Pairwise
      (fun a b => r a.2 b.2) := by
    rw [List.pairwise_filterMap]
    refine ordered.imp ?_
    intro d e hr a ha b hb
    obtain ⟨_, _, rfl⟩ := Option.map_eq_some_iff.mp ha
    obtain ⟨_, _, rfl⟩ := Option.map_eq_some_iff.mp hb
    exact hr
  rw [orderByTimestamp, List.pairwise_map]
  refine (pairwise_insertionSort_stable Prod.fst hstanding).imp_of_mem ?_
  intro a b ha hb hab
  exact ⟨a.1, b.1, hstamped a ((List.mem_insertionSort _).mp ha),
    hstamped b ((List.mem_insertionSort _).mp hb), hab⟩

theorem orderByTimestamp_pairwise (name : String) (docs : List (DocumentSnapshot K)) :
    (orderByTimestamp name docs).Pairwise (fun d e => ∀ t u, timestampOf name d = some t →
      timestampOf name e = some u → t ≤ u) := by
  have hall : docs.Pairwise (fun _ _ => True) := List.pairwise_of_forall (fun _ _ => trivial)
  refine (orderByTimestamp_stable name hall).imp ?_
  rintro d e ⟨t', u', ht', hu', hle⟩ t u ht hu
  cases ht'.symm.trans ht
  cases hu'.symm.trans hu
  rcases hle with h | ⟨h, _⟩
  · exact h.le
  · exact h.le

/-- The order of `orderBy(name)`: by timestamps, and by ids where they are the same. -/
def ComesBefore (name : String) (d e : DocumentSnapshot K) : Prop :=
  ∃ t u, timestampOf name d = some t ∧ timestampOf name e = some u ∧
    (t < u ∨ (t = u ∧ d.id < e.id))

theorem ComesBefore.asymm {name : String} {d e : DocumentSnapshot K} (h : ComesBefore name d e) :
    ¬ ComesBefore name e d := by
  obtain ⟨t, u, ht, hu, horder⟩ := h
  rintro ⟨u', t', hu', ht', hback⟩
  cases ht.symm.trans ht'
  cases hu.symm.trans hu'
  rcases horder with hlt | ⟨heq, hid⟩
  · rcases hback with hlt' | ⟨heq', _⟩
    · omega
    · omega
  · rcases hback with hlt' | ⟨_, hid'⟩
    · omega
    · exact lt_asymm hid hid'

theorem sublist_of_pairwise {τ : Type} {r : τ → τ → Prop} (asymm : ∀ x y, r x y → ¬ r y x)
    {xs : List τ} (ordered : xs.Pairwise r) {x y : τ} (hx : x ∈ xs) (hy : y ∈ xs) (hxy : r x y) :
    [x, y].Sublist xs := by
  induction xs with
  | nil => cases hx
  | cons z zs ih =>
    obtain ⟨below, rest⟩ := List.pairwise_cons.mp ordered
    rcases List.mem_cons.mp hx with rfl | hx'
    · rcases List.mem_cons.mp hy with rfl | hy'
      · exact absurd hxy (asymm _ _ hxy)
      · exact (List.singleton_sublist.mpr hy').cons_cons _
    · rcases List.mem_cons.mp hy with rfl | hy'
      · exact absurd hxy (asymm _ _ (below x hx'))
      · exact (ih rest hx' hy').cons z

/-- One document of a collection is listed before another exactly when it comes
before it in the order. -/
theorem Collection.sublist_orderBy_iff (c : Collection String (Map K)) (name : String)
    {d e : DocumentSnapshot K} (hd : d ∈ orderByTimestamp name c.docs)
    (he : e ∈ orderByTimestamp name c.docs) :
    [d, e].Sublist (orderByTimestamp name c.docs) ↔ ComesBefore name d e := by
  have hordered : (orderByTimestamp name c.docs).Pairwise (ComesBefore name) :=
    orderByTimestamp_stable name c.ordered
  constructor
  · intro h
    exact List.pairwise_pair.mp (hordered.sublist h)
  · intro h
    exact sublist_of_pairwise (fun _ _ => ComesBefore.asymm) hordered hd he h

theorem isEqualTo_iff (name s : String) (d : DocumentSnapshot K) :
    isEqualTo name s d = true ↔ Map.get d.data name = .str s := by
  unfold isEqualTo
  cases Map.get d.data name <;> simp

end Snapshots

end FirestoreCollection
