import Mathlib.Data.List.Sort
import Mathlib.Data.List.Nodup
import Mathlib.Data.List.TakeDrop

/-!
# Sorting by a comparator and taking the first entries

`List.sort` of Dart returns some permutation in the order of its comparator;
it is not stable. A `ListSort` is any such procedure. What is proved about the
`n` entries with the largest keys holds for all of them, and the list of keys
is even the same for all of them.
-/

namespace DartSort

structure ListSort where
  sort : {α : Type} → (α → α → Ordering) → List α → List α
  perm : ∀ {α : Type} (compare : α → α → Ordering) (xs : List α), (sort compare xs).Perm xs
  ordered : ∀ {α : Type} (compare : α → α → Ordering) [Std.TransCmp compare] (xs : List α),
    (sort compare xs).Pairwise (fun a b => (compare a b).isLE = true)

theorem isLE_total {α : Type} (compare : α → α → Ordering) [Std.OrientedCmp compare] (a b : α) :
    (compare a b).isLE = true ∨ (compare b a).isLE = true := by
  rw [@Std.OrientedCmp.eq_swap _ compare _ a b]
  cases compare b a
  · exact Or.inr rfl
  · exact Or.inl rfl
  · exact Or.inl rfl

/-- Insertion sort is one of the procedures allowed. -/
def insertionSort : ListSort where
  sort compare xs := xs.insertionSort (fun a b => (compare a b).isLE = true)
  perm _ xs := List.perm_insertionSort _ xs
  ordered compare _ xs :=
    have : Std.Total (fun a b => (compare a b).isLE = true) :=
      ⟨isLE_total compare⟩
    have : IsTrans _ (fun a b => (compare a b).isLE = true) :=
      ⟨fun _ _ _ => Std.TransCmp.isLE_trans⟩
    List.pairwise_insertionSort _ xs

section LargestFirst
variable {α β : Type} (cmp : β → β → Ordering) (key : α → β)

/-- The comparator that puts large keys first. -/
def descending (a b : α) : Ordering := cmp (key b) (key a)

instance [Std.TransCmp cmp] : Std.TransCmp (descending cmp key) where
  eq_swap {a b} := @Std.OrientedCmp.eq_swap _ cmp _ (key b) (key a)
  isLE_trans hab hbc := @Std.TransCmp.isLE_trans _ cmp _ _ _ _ hbc hab

/-- The first `n` entries when large keys come first. -/
def top (S : ListSort) (n : Nat) (xs : List α) : List α :=
  (S.sort (descending cmp key) xs).take n

variable (S : ListSort) {n : Nat} {xs : List α}

theorem mem_of_mem_top {x : α} (h : x ∈ top cmp key S n xs) : x ∈ xs :=
  (S.perm _ xs).subset (List.mem_of_mem_take h)

theorem top_nodup (h : xs.Nodup) : (top cmp key S n xs).Nodup :=
  ((S.perm _ xs).nodup_iff.mpr h).sublist (List.take_sublist n _)

theorem length_top : (top cmp key S n xs).length = min n xs.length := by
  rw [top, List.length_take, (S.perm _ xs).length_eq]

variable [Std.TransCmp cmp]

theorem sort_pairwise (xs : List α) : (S.sort (descending cmp key) xs).Pairwise
    (fun a b => (cmp (key b) (key a)).isLE = true) :=
  S.ordered (descending cmp key) xs

theorem top_pairwise (n : Nat) (xs : List α) : (top cmp key S n xs).Pairwise
    (fun a b => (cmp (key b) (key a)).isLE = true) :=
  (sort_pairwise cmp key S xs).sublist (List.take_sublist n _)

/-- An entry left out has no larger key than one that was taken. -/
theorem top_largest {x y : α} (hx : x ∈ xs) (hout : x ∉ top cmp key S n xs)
    (hy : y ∈ top cmp key S n xs) : (cmp (key x) (key y)).isLE = true := by
  have hsplit := List.take_append_drop n (S.sort (descending cmp key) xs)
  have hdrop : x ∈ (S.sort (descending cmp key) xs).drop n := by
    have hsorted : x ∈ S.sort (descending cmp key) xs := (S.perm _ xs).symm.subset hx
    rw [← hsplit] at hsorted
    exact (List.mem_append.mp hsorted).resolve_left hout
  have hpair := sort_pairwise cmp key S xs
  rw [← hsplit] at hpair
  exact (List.pairwise_append.mp hpair).2.2 y hy x hdrop

/-- An entry with a larger key than a taken one was taken before it. -/
theorem top_before {x y : α} (hx : x ∈ xs) (hlt : cmp (key y) (key x) = .lt)
    (hy : y ∈ top cmp key S n xs) : [x, y].Sublist (top cmp key S n xs) := by
  have hnot : ¬ (cmp (key x) (key y)).isLE = true := by
    rw [@Std.OrientedCmp.eq_swap _ cmp _ (key x) (key y), hlt]
    decide
  have hxtop : x ∈ top cmp key S n xs := by
    by_contra hout
    exact hnot (top_largest cmp key S hx hout hy)
  obtain ⟨before, after, hsplit⟩ := List.append_of_mem hxtop
  have hpair := top_pairwise cmp key S n xs
  rw [hsplit] at hpair hy ⊢
  rcases List.mem_append.mp hy with hy | hy
  · exact absurd ((List.pairwise_append.mp hpair).2.2 y hy x List.mem_cons_self) hnot
  · rcases List.mem_cons.mp hy with rfl | hy
    · rw [@Std.ReflCmp.compare_self _ cmp] at hlt
      cases hlt
    · exact (List.Sublist.cons_cons x (List.singleton_sublist.mpr hy)).trans
        (List.sublist_append_right before (x :: after))

variable [Std.LawfulEqCmp cmp]

/-- The keys taken depend neither on the sort nor on the order of the list. -/
theorem top_keys_eq (S' : ListSort) {ys : List α} (h : ys.Perm xs) :
    (top cmp key S' n ys).map key = (top cmp key S n xs).map key := by
  have hperm : ((S'.sort (descending cmp key) ys).map key).Perm
      ((S.sort (descending cmp key) xs).map key) :=
    ((S'.perm _ ys).trans (h.trans (S.perm _ xs).symm)).map key
  have heq := hperm.eq_of_pairwise
    (fun x y _ _ hxy hyx => Std.LawfulEqCmp.eq_of_compare
      (@Std.OrientedCmp.isLE_antisymm _ cmp _ x y hyx hxy))
    (List.pairwise_map.mpr (sort_pairwise cmp key S' ys))
    (List.pairwise_map.mpr (sort_pairwise cmp key S xs))
  rw [top, top, List.map_take, List.map_take, heq]

end LargestFirst

end DartSort
