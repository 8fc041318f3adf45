import Gharsathi.FirestoreCollection

/-!
# Range queries

A query for the documents whose key lies between two bounds lists them in the
order of their keys, and in the order they stood in where the keys are the
same. Over sequences, which are compared from the front, the interval from a
sequence to that sequence with one more entry holds its continuations: all that
go on below the entry, and the one that ends with it.
-/

namespace RangeQuery

open FirestoreCollection

universe u

section Intervals
variable {α : Type u} [LinearOrder α]

theorem nil_le (xs : List α) : [] ≤ xs := not_lt.mp (List.not_lt_nil xs)

theorem cons_le_cons_iff {a b : α} {xs ys : List α} :
    a :: xs ≤ b :: ys ↔ a < b ∨ (a = b ∧ xs ≤ ys) := by
  have hlt : a :: xs < b :: ys ↔ a < b ∨ (a = b ∧ xs < ys) := List.cons_lt_cons_iff
  rw [le_iff_lt_or_eq, le_iff_lt_or_eq, hlt, List.cons.injEq, or_assoc, ← and_or_left]

theorem le_singleton_iff {rest : List α} {z : α} :
    rest ≤ [z] ↔ rest = [] ∨ ∃ c cs, rest = c :: cs ∧ (c < z ∨ (c = z ∧ cs = [])) := by
  cases rest with
  | nil => simp [nil_le]
  | cons c cs =>
    have hnil : cs ≤ [] ↔ cs = [] := ⟨fun h => le_antisymm h (nil_le cs), fun h => h.le⟩
    simp [cons_le_cons_iff, hnil]

/-- The interval from a sequence to that sequence with one more entry. -/
theorem mem_interval_iff {start xs : List α} {z : α} :
    (start ≤ xs ∧ xs ≤ start ++ [z]) ↔ ∃ rest, xs = start ++ rest ∧ rest ≤ [z] := by
  induction start generalizing xs with
  | nil => simp [nil_le]
  | cons a start ih =>
    cases xs with
    | nil =>
      have hlow : ¬ a :: start ≤ [] := not_le.mpr (List.nil_lt_cons a start)
      simp [hlow]
    | cons b xs =>
      rw [List.cons_append, cons_le_cons_iff, cons_le_cons_iff]
      constructor
      · rintro ⟨hlow, hhigh⟩
        rcases hlow with hlt | ⟨rfl, hlow⟩
        · rcases hhigh with hgt | ⟨rfl, _⟩
          · exact absurd hlt (lt_asymm hgt)
          · exact absurd hlt (lt_irrefl _)
        · rcases hhigh with hgt | ⟨_, hhigh⟩
          · exact absurd hgt (lt_irrefl _)
          · obtain ⟨rest, rfl, hrest⟩ := ih.mp ⟨hlow, hhigh⟩
            exact ⟨rest, rfl, hrest⟩
      · rintro ⟨rest, heq, hrest⟩
        obtain ⟨rfl, rfl⟩ := List.cons.inj heq
        obtain ⟨hlow, hhigh⟩ := ih.mpr ⟨rest, rfl, hrest⟩
        exact ⟨Or.inr ⟨rfl, hlow⟩, Or.inr ⟨rfl, hhigh⟩⟩

end Intervals

section Ranges
variable {τ β : Type} [LinearOrder β]

def keyed (key : τ → Option β) (low high : β) (x : τ) : Option (β × τ) :=
  match key x with
  | none => none
  | some k => if low ≤ k ∧ k ≤ high then some (k, x) else none

/-- The entries with a key between the bounds, in the order of the keys. -/
def range (key : τ → Option β) (low high : β) (xs : List τ) : List τ :=
  ((xs.filterMap (keyed key low high)).insertionSort (fun a b => a.1 ≤ b.1)).map Prod.snd

variable {key : τ → Option β} {low high : β} {xs : List τ}

theorem keyed_eq_some_iff {x : τ} {a : β × τ} :
    keyed key low high x = some a ↔ key x = some a.1 ∧ a.2 = x ∧ low ≤ a.1 ∧ a.1 ≤ high := by
  obtain ⟨k, y⟩ := a
  unfold keyed
  cases hk : key x with
  | none => simp
  | some l =>
    by_cases hbounds : low ≤ l ∧ l ≤ high
    · simp only [if_pos hbounds, Option.some.injEq, Prod.mk.injEq]
      constructor
      · rintro ⟨rfl, rfl⟩
        exact ⟨rfl, rfl, hbounds⟩
      · rintro ⟨rfl, rfl, _⟩
        exact ⟨rfl, rfl⟩
    · simp only [if_neg hbounds, reduceCtorEq, false_iff, Option.some.injEq]
      rintro ⟨rfl, _, hlow, hhigh⟩
      exact hbounds ⟨hlow, hhigh⟩

theorem mem_range {x : τ} :
    x ∈ range key low high xs ↔ x ∈ xs ∧ ∃ k, key x = some k ∧ low ≤ k ∧ k ≤ high := by
  simp only [range, List.mem_map, List.mem_insertionSort, List.mem_filterMap, keyed_eq_some_iff]
  constructor
  · rintro ⟨a, ⟨y, hy, hkey, rfl, hbounds⟩, rfl⟩
    exact ⟨hy, a.1, hkey, hbounds⟩
  · rintro ⟨hx, k, hkey, hbounds⟩
    exact ⟨(k, x), ⟨x, hx, hkey, rfl, hbounds⟩, rfl⟩

/-- The order of a range: by the keys, and as before where they are the same. -/
theorem range_ordered {r : τ → τ → Prop} (ordered : xs.Pairwise r) :
    (range key low high xs).Pairwise (fun x y => ∃ k l, key x = some k ∧ key y = some l ∧
      (k < l ∨ (k = l ∧ r x y))) := by
  have hkeys : ∀ a ∈ xs.filterMap (keyed key low high), key a.2 = some a.1 := by
    intro a ha
    obtain ⟨x, _, hx⟩ := List.mem_filterMap.mp ha
    obtain ⟨hkey, heq, _⟩ := keyed_eq_some_iff.mp hx
    rw [heq, hkey]
  have hstanding : (xs.filterMap (keyed key low high)).Pairwise (fun a b => r a.2 b.2) := by
    rw [List.pairwise_filterMap]
    refine ordered.imp ?_
    intro x y hr a ha b hb
    rw [(keyed_eq_some_iff.mp ha).2.1, (keyed_eq_some_iff.mp hb).2.1]
    exact hr
  rw [range, List.pairwise_map]
  refine (pairwise_insertionSort_stable Prod.fst hstanding).imp_of_mem ?_
  intro a b ha hb hab
  exact ⟨a.1, b.1, hkeys a ((List.mem_insertionSort _).mp ha),
    hkeys b ((List.mem_insertionSort _).mp hb), hab⟩

end Ranges

end RangeQuery
